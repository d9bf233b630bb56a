import BbtInfra.Net.AcceptStop

/-!
# The announcement of a stop

Once a stop is announced, nothing listens and nothing will. `Run` announces a stop that it sees when
it has unbound the owner, and a call announces it when it finds no owner and a phase without
listeners. Two kinds of calls are left over: one that looks for the owner while `Run` is before its
reactors and then fails, and one that comes behind the last look of `Run` at the request and finds
an owner without a driver. Neither is announced when `Run` stores `Stopped` over it.
-/
namespace BbtInfra.Net

open Lib AcceptStop

/-- A call that has not looked for the owner yet, or that is about to mark the stop. -/
def RequestPc.early : RequestPc → Bool
  | .exchange | .drain | .look | .mark => true
  | .post _ | .returned => false

namespace AcceptStop

variable {addresses : Nat} {s s' : AcceptStop} {label : AcceptStopLabel}
  {outcome : AcceptOutcome} {i : Nat} {pc pc' : RequestPc}

/-- `Run` stores `Stopped` in its next step. -/
def publishes (s : AcceptStop) : Bool := s.run = .fail || s.run = .settle true .clear

/-- The unbinding stores `Stopped` only in its last step. -/
theorem Sound.settle_publishes {final : Bool} {pc : SettlePc} (sound : s.Sound addresses)
    (place : s.run = .settle final pc) (stepped : s.actSettle final outcome pc = some s')
    (stopped : s'.phase = .stopped) : s.publishes = true := by
  have placed := sound.placed
  unfold Placed at placed
  rw [place] at placed
  have running : s.phase ≠ .stopped := by
    rw [placed.1]
    cases final <;> simp
  cases pc with
  | unbind =>
    simp only [actSettle] at stepped
    split at stepped
    · cases stepped
      cases stopped
    · split at stepped <;> cases stepped
      exact absurd stopped running
  | clear =>
    cases final <;> cases stepped
    · exact absurd stopped running
    · simp [publishes, place]
  | _ =>
    cases stepped
    exact absurd stopped running

/-- `Run` stores `Stopped` only where it publishes it, and does nothing behind. -/
theorem Sound.publishes (sound : s.Sound addresses)
    (stepped : s.actRun addresses outcome = some s') (stopped : s'.phase = .stopped) :
    s.publishes = true := by
  have placed := sound.placed
  unfold Placed at placed
  unfold AcceptStop.actRun at stepped
  split at stepped
  case h_18 event _ _ pc place =>
    obtain ⟨posted, tasks, _, after⟩ := s.post_turn event pc
    simp only [after, Option.some.injEq] at stepped
    subst stepped
    simp_all
  case h_21 place => exact sound.settle_publishes place stepped stopped
  case h_22 place => simp [AcceptStop.publishes, place]
  case h_10 | h_23 =>
    split at stepped <;> cases stepped
    simp_all
  all_goals
    cases stepped
    try simp_all

/-- `Run` does not store `Stopped` behind a call that has looked for the owner too early or too late
and left the stop to it, and no call leaves before its look once that is stored. -/
def Timely (s : AcceptStop) : AcceptStopLabel → Prop
  | .run _ => s.publishes = true → s.done = false → ∀ pc ∈ s.calls, pc.early = true
  | .act i outcome => s.phase = .stopped → s.done = false →
      (s.calls[i]? = some .exchange → s.requested = false) ∧
      (s.calls[i]? = some .drain → outcome = .ok)
  | _ => True

/-- Behind `Run`, the stop is announced or every call is still going to announce it. -/
def Pending (s : AcceptStop) : Prop :=
  s.phase = .stopped → s.done = true ∨ ∀ pc ∈ s.calls, pc.early = true

/-- A call that goes on behind `Run`, the stop not announced, marks it or is still early. -/
theorem Sound.actCall_early (sound : s.Sound addresses) (stopped : s.phase = .stopped)
    (early : pc.early = true)
    (first : pc = .exchange → s.requested = false) (calm : pc = .drain → outcome = .ok)
    (stepped : s.actCall i outcome pc = some s') :
    s'.done = true ∨ ∃ pc', pc'.early = true ∧ s'.calls = s.calls.set i pc' := by
  cases pc with
  | exchange =>
    simp only [AcceptStop.actCall, first rfl] at stepped
    cases stepped
    exact .inr ⟨.drain, rfl, rfl⟩
  | drain =>
    cases stepped
    exact .inr ⟨.look, rfl, by simp [setCall, calm rfl]⟩
  | look =>
    have main := (sound.stopped stopped).2.1
    cases stepped
    exact .inr ⟨.mark, rfl, by simp [setCall, main, stopped]⟩
  | post pc => cases early
  | mark =>
    cases stepped
    exact .inl rfl
  | returned => cases early

/-- A timely step keeps the stop pending or announced. -/
theorem Pending.step (pending : s.Pending) (sound : s.Sound addresses) (timely : s.Timely label)
    (stepped : s.step addresses label = some s') : s'.Pending := by
  intro stopped
  cases label with
  | run outcome =>
    have turn := actRun_turn stepped
    have publishes := sound.publishes stepped stopped
    cases done : s.done with
    | true =>
      rcases turn.done with kept | ⟨now, _⟩
      · exact .inl (kept.trans done)
      · exact .inl now
    | false =>
      right
      rw [turn.calls]
      exact timely publishes done
  | owner outcome =>
    have turn := actOwner_turn stepped
    rw [turn.phase] at stopped
    rw [turn.calls]
    rcases pending stopped with done | early
    · rcases turn.done with kept | ⟨now, _⟩
      · exact .inl (kept.trans done)
      · exact .inl now
    · exact .inr early
  | request =>
    cases stepped
    apply (pending stopped).imp_right
    intro early pc member
    rcases List.mem_append.mp member with old | new
    · exact early pc old
    · rw [List.mem_singleton.mp new]
      rfl
  | act i outcome =>
    obtain ⟨pc, found, acted⟩ := Option.bind_eq_some_iff.mp stepped
    obtain ⟨pc', turn⟩ := actCall_turn acted
    rw [turn.phase] at stopped
    cases done : s.done with
    | true =>
      rcases turn.done with kept | ⟨now, _⟩
      · exact .inl (kept.trans done)
      · exact .inl now
    | false =>
      have early : ∀ pc ∈ s.calls, pc.early = true := by
        apply (pending stopped).resolve_left
        simp [done]
      obtain ⟨first, calm⟩ := timely stopped done
      have next := sound.actCall_early stopped
        (early pc (List.mem_of_getElem? found)) (fun place => first (place ▸ found))
        (fun place => calm (place ▸ found)) acted
      apply next.imp_right
      rintro ⟨pc'', still, calls⟩ other member
      rw [calls] at member
      rcases List.mem_or_eq_of_mem_set member with old | new
      · exact early other old
      · exact new ▸ still

/-- `Run` is behind `Stopped`, a call has returned, and the stop is not announced. -/
def Missed (s : AcceptStop) : Prop :=
  s.phase = .stopped ∧ s.run = .returned ∧ .returned ∈ s.calls ∧ s.acceptingStopped = false

/-- Where nothing is bound, the owner has no driver. -/
def Undriven (s : AcceptStop) : Prop :=
  match s.run with
  | .idle | .entry | .setup | .fail => s.driver = false
  | .settle _ .look | .settle _ .mark | .settle _ .clear => s.driver = false
  | .returned => s.phase = .stopped → s.driver = false
  | _ => True

/-- A step of the unbinding takes the driver away before it goes on. -/
theorem Undriven.actSettle {final : Bool} {pc : SettlePc} (undriven : s.Undriven)
    (place : s.run = .settle final pc) (stepped : s.actSettle final outcome pc = some s') :
    s'.Undriven := by
  unfold Undriven at undriven
  rw [place] at undriven
  cases pc with
  | unbind =>
    simp only [AcceptStop.actSettle] at stepped
    split at stepped
    · cases stepped
      exact fun wrong => by cases wrong
    · split at stepped <;> cases stepped
      trivial
  | finalize =>
    cases stepped
    trivial
  | release =>
    cases stepped
    rfl
  | look =>
    cases stepped
    by_cases requested : s.requested = true
    · rw [if_pos requested]
      exact undriven
    · rw [if_neg requested]
      exact undriven
  | mark =>
    cases stepped
    exact undriven
  | clear =>
    cases final <;> cases stepped
    · exact undriven
    · exact fun _ => undriven

/-- A step of `Run` takes the driver away before it goes on. -/
theorem Undriven.actRun (undriven : s.Undriven)
    (stepped : s.actRun addresses outcome = some s') : s'.Undriven := by
  have before := undriven
  unfold Undriven at before
  unfold AcceptStop.actRun at stepped
  split at stepped
  case h_2 place =>
    rw [place] at before
    cases stepped
    split <;> exact before
  case h_18 event _ _ pc _ =>
    obtain ⟨posted, tasks, _, after⟩ := s.post_turn event pc
    simp only [after, Option.some.injEq] at stepped
    subst stepped
    cases (s.post event pc).2 <;> trivial
  case h_21 final pc place => exact undriven.actSettle place stepped
  case h_10 | h_23 =>
    split at stepped <;> cases stepped
    simp_all [Undriven]
  case h_11 | h_15 =>
    cases stepped
    by_cases asked : 0 < addresses ∧ s.requested = true <;> simp [Undriven, asked]
  case h_12 =>
    cases stepped
    by_cases asked : addresses = 0 ∧ s.requested = true <;> simp [Undriven, asked]
  case h_24 => cases stepped
  all_goals
    cases stepped
    try simp_all [Undriven]

/-- Where nothing is bound, the owner of a reachable state has no driver. -/
theorem reachable_undriven (reachable : (acceptStopMachine addresses).Reachable s) :
    s.Undriven := by
  apply reachable.invariant
  · rintro _ rfl
    rfl
  · intro s label s' undriven stepped
    have kept (run : s'.run = s.run) (phase : s'.phase = s.phase) (driver : s'.driver = s.driver) :
        s'.Undriven := by
      unfold Undriven at undriven ⊢
      rw [run, phase, driver]
      exact undriven
    cases label with
    | run outcome => exact undriven.actRun stepped
    | owner outcome =>
      have turn := actOwner_turn stepped
      exact kept turn.run turn.phase turn.driver
    | request =>
      cases stepped
      exact undriven
    | act i outcome =>
      obtain ⟨pc, _, acted⟩ := Option.bind_eq_some_iff.mp stepped
      obtain ⟨pc', turn⟩ := actCall_turn acted
      exact kept turn.run turn.phase turn.driver

/-- A call that has returned behind `Run`, the stop not announced, has missed it. -/
theorem Sound.missed (sound : s.Sound addresses) (stopped : s.phase = .stopped)
    (done : s.done = false) (returned : .returned ∈ s.calls) : s.Missed :=
  ⟨stopped, (sound.stopped stopped).1, returned, by simp [acceptingStopped, done]⟩

/-- `Run` has let the driver go and the stop is not announced. -/
structure Late (s : AcceptStop) : Prop where
  stopped : s.phase = .stopped
  run : s.run = .returned
  driver : s.driver = false
  done : s.done = false

/-- The state can go on to one in which the stop is missed. -/
def Misses (addresses : Nat) (s : AcceptStop) : Prop :=
  ∃ labels last, (acceptStopMachine addresses).exec s labels = some last ∧ last.Missed

/-- What can be missed after a step can be missed before it. -/
theorem Misses.before (misses : s'.Misses addresses)
    (stepped : s.step addresses label = some s') : s.Misses addresses := by
  obtain ⟨labels, last, executed, missed⟩ := misses
  refine ⟨label :: labels, last, ?_, missed⟩
  have first : (acceptStopMachine addresses).step s label = some s' := stepped
  simp [Machine.exec, first, executed]

/-- A late call that is posting the stop returns without it. -/
theorem Late.misses (late : s.Late) (pc : PostPc) (found : s.calls[i]? = some (.post pc)) :
    s.Misses addresses := by
  have acts (s : AcceptStop) (pc : PostPc) (found : s.calls[i]? = some (.post pc)) :
      s.step addresses (.act i .ok) = s.actCall i .ok (.post pc) := by
    simp [step, found]
  have goes (s : AcceptStop) (pc : RequestPc) (inside : i < s.calls.length) :
      (s.setCall i pc).calls[i]? = some pc := List.getElem?_set_self inside
  have inside (s : AcceptStop) (pc : PostPc) (found : s.calls[i]? = some (.post pc)) :
      i < s.calls.length := (List.getElem?_eq_some_iff.mp found).1
  have returns (s : AcceptStop) (late : s.Late) (inside : i < s.calls.length) :
      (s.setCall i .returned).Misses addresses :=
    ⟨[], _, rfl, late.stopped, late.run, List.mem_set inside _, by
      simp [acceptingStopped, setCall, late.done]⟩
  have retract (s : AcceptStop) (late : s.Late) (found : s.calls[i]? = some (.post .retract)) :
      s.Misses addresses := by
    apply (returns { s with posted := false } ⟨late.stopped, late.run, late.driver, late.done⟩
      (inside s _ found)).before
    exact acts s _ found
  have submit (s : AcceptStop) (late : s.Late) (found : s.calls[i]? = some (.post .submit)) :
      s.Misses addresses := by
    apply (retract (s.setCall i (.post .retract))
      ⟨late.stopped, late.run, late.driver, late.done⟩ (goes s _ (inside s _ found))).before
    rw [acts s _ found]
    simp [actCall, post, late.driver]
  have claim (s : AcceptStop) (late : s.Late) (found : s.calls[i]? = some (.post .claim)) :
      s.Misses addresses := by
    by_cases posted : s.posted = true
    · apply (returns s late (inside s _ found)).before
      rw [acts s _ found]
      simp [actCall, post, posted]
    · apply (submit ({ s with posted := true }.setCall i (.post .submit))
        ⟨late.stopped, late.run, late.driver, late.done⟩
        (goes { s with posted := true } _ (inside s _ found))).before
      rw [acts s _ found]
      simp [actCall, post, posted]
  cases pc with
  | look =>
    apply (claim (s.setCall i (.post .claim))
      ⟨late.stopped, late.run, late.driver, late.done⟩ (goes s _ (inside s _ found))).before
    rw [acts s _ found]
    simp [actCall, post, late.done]
  | claim => exact claim s late found
  | submit => exact submit s late found
  | retract => exact retract s late found

/-- When `Run` stores `Stopped` over a stop that is not announced, what comes is late. -/
theorem Undriven.late (undriven : s.Undriven) (publishes : s.publishes = true)
    (done : s.done = false) (stepped : s.actRun addresses outcome = some s') : s'.Late := by
  unfold Undriven at undriven
  simp only [AcceptStop.publishes, Bool.or_eq_true, decide_eq_true_eq] at publishes
  rcases publishes with place | place
  · rw [place] at undriven
    cases outcome <;> simp only [AcceptStop.actRun, place] at stepped <;> cases stepped
    exact ⟨rfl, rfl, undriven, done⟩
  · rw [place] at undriven
    simp only [AcceptStop.actRun, place] at stepped
    cases stepped
    exact ⟨rfl, rfl, undriven, done⟩

/-- A step that breaks the condition leads to a missed stop. -/
theorem misses_of_untimely (reachable : (acceptStopMachine addresses).Reachable s)
    (untimely : ¬s.Timely label) (stepped : s.step addresses label = some s') :
    s'.Misses addresses := by
  have sound := reachable_sound reachable
  have sound' := sound.step stepped
  cases label with
  | run outcome =>
    have turn := actRun_turn stepped
    simp only [Timely, not_forall] at untimely
    obtain ⟨publishes, done, pc, member, past⟩ := untimely
    have late := (reachable_undriven reachable).late publishes done stepped
    rw [← turn.calls] at member
    cases pc with
    | post pc =>
      obtain ⟨i, inside, found⟩ := List.mem_iff_getElem.mp member
      exact late.misses pc (List.getElem?_eq_some_iff.mpr ⟨inside, found⟩)
    | returned => exact ⟨[], s', rfl, sound'.missed late.stopped late.done member⟩
    | _ => exact absurd rfl past
  | act i outcome =>
    obtain ⟨pc, found, acted⟩ := Option.bind_eq_some_iff.mp stepped
    have inside : i < s.calls.length := (List.getElem?_eq_some_iff.mp found).1
    simp only [Timely, not_forall] at untimely
    obtain ⟨stopped, done, broken⟩ := untimely
    -- The call returns in this step.
    have returns : s' = s.setCall i .returned := by
      rw [found] at broken
      cases pc with
      | exchange =>
        have again : s.requested = true := by
          by_contra first
          exact broken ⟨fun _ => by simpa using first, by simp⟩
        simp only [actCall, again] at acted
        exact (Option.some.inj acted).symm
      | drain =>
        have throws : outcome ≠ .ok := by
          intro calm
          exact broken ⟨by simp, fun _ => calm⟩
        simp only [actCall, throws] at acted
        exact (Option.some.inj acted).symm
      | _ => simp at broken
    refine ⟨[], s', rfl, ?_⟩
    subst returns
    exact sound'.missed stopped done (List.mem_set inside _)
  | owner | request => exact absurd trivial untimely

/-- In every run, nothing listens and nothing will once the stop is announced. In a run in which
`Run` stores `Stopped` over no call that has left the stop to it, a stop whose call has returned is
announced behind `Run`; where a step breaks that, the stop can be missed for good. -/
theorem accept_stop (addresses : Nat) :
    (∀ s, (acceptStopMachine addresses).Reachable s → s.acceptingStopped = true →
      s.openFds = 0 ∧ ∀ labels next,
        (acceptStopMachine addresses).exec s labels = some next → next.openFds = 0) ∧
    ∀ labels s, (acceptStopMachine addresses).GuardedRun Timely labels s →
      ¬s.Missed ∧ ∀ label next, s.step addresses label = some next → ¬s.Timely label →
        next.Misses addresses := by
  constructor
  · intro s reachable stopped
    have shut := (reachable_sound reachable).done (Bool.and_eq_true_iff.mp stopped).2
    refine ⟨shut.2.1, fun labels next executed => ?_⟩
    have kept : next.Shut := reachable.exec Shut shut
      (fun _ _ _ _ shut stepped => shut.step stepped) executed
    exact kept.2.1
  · intro labels s run
    have pending : s.Pending := by
      apply run.reachableInvariant Pending
      · rintro _ rfl
        exact fun wrong => by cases wrong
      · intro s label next reachable pending timely stepped
        exact pending.step (reachable_sound reachable) timely stepped
    refine ⟨?_, fun label next stepped untimely =>
      misses_of_untimely run.reachable untimely stepped⟩
    rintro ⟨stopped, _, returned, silent⟩
    rcases pending stopped with done | early
    · have requested := ((reachable_sound run.reachable).done done).1
      simp [acceptingStopped, requested, done] at silent
    · cases early .returned returned

/-- A test for the condition, which asks for more than it does. -/
def timelyTest (s : AcceptStop) : AcceptStopLabel → Bool
  | .run _ => !s.publishes || s.done
  | .act _ _ => decide (s.phase ≠ .stopped)
  | _ => true

/-- A step that passes the test meets the condition. -/
theorem timely_of_test (passed : s.timelyTest label = true) : s.Timely label := by
  cases label with
  | run outcome =>
    intro publishes done
    simp [timelyTest, publishes, done] at passed
  | act i outcome => exact fun stopped => absurd stopped (of_decide_eq_true passed)
  | _ => trivial

/-- `Run` up to its loop, with one address that is opened. -/
def intoLoop : List AcceptStopLabel :=
  [.run .ok, .run .ok, .run .ok, .run .ok, .owner .ok, .owner .ok, .owner .ok, .owner .ok,
    .owner .ok, .owner .ok, .run .ok, .run .ok, .run .ok, .run .ok]

/-- The stop is requested in the loop of `Run`, the owner closes the listener, and `Run` ends. -/
theorem accept_stop_closed : ∃ s labels,
    (acceptStopMachine 1).GuardedRun Timely labels s ∧ s.phase = .stopped ∧
      s.acceptingStopped = true ∧ s.openFds = 0 ∧ ¬s.Missed := by
  obtain ⟨s, run, ends⟩ := Machine.exists_guardedRun (m := acceptStopMachine 1)
    (intoLoop ++ [.request, .act 0 .ok, .act 0 .ok, .act 0 .ok, .act 0 .ok, .act 0 .ok,
      .act 0 .ok, .owner .ok, .owner .ok, .run .close, .run .ok, .run .ok, .run .ok, .run .ok,
      .run .ok, .run .ok, .run .ok, .run .ok]) timelyTest
    (fun s : AcceptStop => decide (s.phase = .stopped) && s.acceptingStopped)
    (rfl : (acceptStopMachine 1).start {}) (by decide +kernel)
  have timely : (acceptStopMachine 1).GuardedRun Timely _ s := run.mono fun _ _ => timely_of_test
  obtain ⟨phase, stopped⟩ := Bool.and_eq_true_iff.mp ends
  exact ⟨s, _, timely, of_decide_eq_true phase, stopped,
    ((accept_stop 1).1 s run.reachable stopped).1, ((accept_stop 1).2 _ s timely).1⟩

/-- `Run` has stored `Starting`, a call finds neither an owner nor a phase without listeners and
returns, and `Run` sees the request and stores `Stopped`. -/
theorem accept_stop_missed : ∃ s, (acceptStopMachine 1).Reachable s ∧ s.Missed := by
  have begun : (acceptStopMachine 1).start {} := rfl
  obtain ⟨s, reachable, ends⟩ := Machine.exists_reachable
    [.run .ok, .request, .act 0 .ok, .act 0 .ok, .act 0 .ok, .run .ok, .run .ok]
    (fun s : AcceptStop => decide (s.phase = .stopped ∧ s.run = .returned ∧
      .returned ∈ s.calls ∧ s.acceptingStopped = false)) begun (by decide +kernel)
  have missed := of_decide_eq_true ends
  exact ⟨s, reachable, missed⟩

end AcceptStop

end BbtInfra.Net
