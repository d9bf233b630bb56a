import BbtInfra.Http.PoolSteps

/-!
# The queue of the pool

A call that waits leaves the queue at the end of every slice and enters it again. As long as no
more calls are let into the queue than it has places, counting those between two slices, there is
always a place to come back to.
-/
namespace BbtInfra.Http

open Lib CallPc List

/-- The call is in the loop. -/
def CallPc.loops : CallPc → Bool
  | .slice | .enqueue _ | .registering _ | .parked _ | .woken _ | .judge _ => true
  | _ => false

/-- The call was in the queue and goes on waiting, in the queue or between two slices. -/
def Call.waits (call : Call) : Bool := call.admitted && call.pc.loops

/-- The call has not come to the loop. -/
def CallPc.early : CallPc → Bool
  | .entered | .fast | .reserve => true
  | _ => false

/-- The call is in its wait. -/
def CallPc.inWait : CallPc → Bool
  | .registering _ | .parked _ | .woken _ => true
  | _ => false

/-- The exits of a call that was in the queue. -/
def AcquireExit.behindQueue : AcquireExit → Bool
  | .gate _ | .queueFull => false
  | _ => true

/-- The error that the call ends with. -/
def CallPc.exit : CallPc → Option AcquireExit
  | .failing exit | .returned exit => some exit
  | _ => none

/-- What the place of a call says about its way through the queue. -/
structure Call.Queued (call : Call) : Prop where
  early : call.pc.early = true → call.admitted = false
  inWait : call.pc.inWait = true → call.admitted = true
  exits : call.admitted = true → ∀ exit, call.pc.exit = some exit → exit.behindQueue = true

/-- What the next place of a call may be. -/
def CallPc.leadsTo (pc next : CallPc) (admitted : Bool) : Bool :=
  (!(admitted && next.loops) || pc.loops) && (!next.early || pc.early) &&
    (!next.inWait || pc.inWait) && (!admitted || next.exit.all AcquireExit.behindQueue)

/-- A call that leaves the queue for good, or never was there. -/
theorem CallPc.leadsTo_out {pc next : CallPc} {admitted : Bool} (loops : next.loops = false)
    (early : next.early = false) (inWait : next.inWait = false)
    (exit : next.exit.all AcquireExit.behindQueue = true) : pc.leadsTo next admitted = true := by
  rw [leadsTo, loops, early, inWait, exit]
  cases admitted <;> rfl

/-- A call that walks. -/
theorem CallPc.Walks.leadsTo {pc next : CallPc} {admitted : Bool} (walks : pc.Walks next)
    (new : pc.early = true → admitted = false) : pc.leadsTo next admitted = true := by
  cases walks with
  | closed reason => exact leadsTo_out rfl rfl rfl rfl
  | checked | gate | missed | spent => rw [new rfl]; rfl
  | _ => cases admitted <;> rfl

namespace PoolState

/-- A call joins the queue for the first time although as many calls wait as it has places. -/
def crowds (s : PoolState) : PoolLabel → Bool
  | .act i _ =>
    (s.calls[i]?).any fun call =>
      match call.pc with
      | .enqueue _ =>
        !call.admitted && decide (s.phase = .open') && (s.sweepLocked.findIdle call.origin).isNone &&
          decide (s.limits.maxConnections ≤ s.sweepLocked.entries.length) &&
          decide (s.waiters.length < s.limits.maxQueue) &&
          decide (s.limits.maxQueue ≤ s.calls.countP Call.waits)
      | _ => false
  | _ => false

/-- The invariant of the queue. -/
structure Uncrowded (s : PoolState) : Prop where
  places : s.calls.countP Call.waits ≤ s.limits.maxQueue
  queued : ∀ call ∈ s.calls, call.Queued

variable {s next : PoolState} {i : Nat} {call moved : Call}

section

variable (uncrowded : s.Uncrowded)

include uncrowded

/-- The same calls with the same limits. -/
theorem Uncrowded.same (limits : next.limits = s.limits)
    (calls : next.calls = s.calls) : next.Uncrowded := by
  constructor
  · rw [limits, calls]
    exact uncrowded.places
  · rw [calls]
    exact uncrowded.queued

section

variable (found : s.calls[i]? = some call) (limits : next.limits = s.limits)
  (calls : next.calls = s.calls.set i moved)

include found limits calls

/-- One call moves on. -/
theorem Uncrowded.set (waits : moved.waits = true → call.waits = true) (queued : moved.Queued) :
    next.Uncrowded := by
  constructor
  · rw [limits, calls]
    exact Nat.le_trans (countP_set_le found waits) uncrowded.places
  · rw [calls]
    intro other member
    rcases mem_or_eq_of_mem_set member with old | rfl
    · exact uncrowded.queued other old
    · exact queued

/-- One call joins the queue. -/
theorem Uncrowded.admit'
    (room : s.calls.countP Call.waits < s.limits.maxQueue) (queued : moved.Queued) :
    next.Uncrowded := by
  constructor
  · have counted := countP_modify (fun _ => moved) Call.waits found
    rw [← set_eq_modify] at counted
    rw [limits, calls]
    split_ifs at counted <;> omega
  · rw [calls]
    intro other member
    rcases mem_or_eq_of_mem_set member with old | rfl
    · exact uncrowded.queued other old
    · exact queued

/-- One call goes on, and was in the queue before if it was there after. -/
theorem Uncrowded.goOn (admitted : moved.admitted = call.admitted)
    (leads : call.pc.leadsTo moved.pc call.admitted = true) : next.Uncrowded := by
  have queued := uncrowded.queued call (mem_of_getElem? found)
  simp only [leadsTo, Bool.and_eq_true, Bool.or_eq_true, Bool.not_eq_true',
    Bool.and_eq_false_iff] at leads
  obtain ⟨⟨⟨loops, early⟩, inWait⟩, exits⟩ := leads
  apply uncrowded.set found limits calls
  · unfold Call.waits
    rw [admitted]
    intro waits
    have both := Bool.and_eq_true_iff.mp waits
    rcases loops with (outside | done) | before
    · rw [both.1] at outside
      cases outside
    · rw [both.2] at done
      cases done
    · rw [both.1, before, Bool.and_self]
  · refine ⟨fun h => ?_, fun h => ?_, fun h exit left => ?_⟩
    · rw [admitted]
      rcases early with done | before
      · rw [h] at done
        cases done
      · exact queued.early before
    · rw [admitted]
      rcases inWait with outside | before
      · rw [h] at outside
        cases outside
      · exact queued.inWait before
    · rw [admitted] at h
      rw [h, left, Option.all_some] at exits
      rcases exits with impossible | behind
      · cases impossible
      · exact behind

end

/-- A new call. -/
theorem Uncrowded.push (limits : next.limits = s.limits)
    (calls : next.calls = s.calls ++ [call]) (new : call.admitted = false)
    (outside : call.pc.inWait = false) : next.Uncrowded := by
  have waits : call.waits = false := by rw [Call.waits, new, Bool.false_and]
  constructor
  · rw [limits, calls, countP_push, waits]
    exact uncrowded.places
  · rw [calls]
    intro other member
    rcases mem_append.mp member with old | last
    · exact uncrowded.queued other old
    · rw [mem_singleton.mp last]
      refine ⟨fun _ => new, fun inWait => ?_, fun admitted => ?_⟩
      · rw [outside] at inWait
        cases inWait
      · rw [new] at admitted
        cases admitted

/-- A call that comes back finds a place in the queue. -/
theorem Uncrowded.place (sound : s.Sound)
    (found : s.calls[i]? = some call) {sliceEnd : Nat} (pc : call.pc = .enqueue sliceEnd)
    (admitted : call.admitted = true) : s.waiters.length < s.limits.maxQueue := by
  have outside : i ∉ s.waiters := sound.line.absent found (by simp only [Call.queues, pc])
  have counted : (i :: s.waiters).length ≤ s.calls.countP Call.waits := by
    apply length_le_countP (nodup_cons.mpr ⟨outside, sound.line.nodup⟩)
    intro j member
    rcases mem_cons.mp member with rfl | waiting
    · exact ⟨call, found, by simp only [Call.waits, admitted, pc, loops, Bool.and_self]⟩
    · obtain ⟨waiter, present, queues⟩ := sound.line.queued j waiting
      have inWait : waiter.pc.inWait = true ∧ (waiter.admitted = true → waiter.waits = true) := by
        unfold Call.queues at queues
        unfold Call.waits
        cases pc' : waiter.pc <;> simp_all [CallPc.inWait, loops]
      refine ⟨waiter, present, inWait.2 ?_⟩
      exact (uncrowded.queued waiter (mem_of_getElem? present)).inWait inWait.1
  have places := uncrowded.places
  rw [length_cons] at counted
  omega

/-- A connection that comes back leaves the queue uncrowded. -/
theorem Uncrowded.returnLocked (c : Nat) (healthy : Bool) :
    (s.returnLocked c healthy).Uncrowded := by
  have limits := s.returnLocked_limits c healthy
  rcases s.returnLocked_calls c healthy with same | ⟨entry, j, waiter, _, _, _, chosen, goes⟩
  · exact uncrowded.same limits same.calls
  · obtain ⟨_, present, _⟩ := nextWaiter_spec chosen
    have queued := uncrowded.queued waiter (mem_of_getElem? present)
    have later : Call.Queued { waiter with handed := some c } :=
      ⟨queued.early, queued.inWait, queued.exits⟩
    have calls : (s.returnLocked c healthy).calls =
        s.calls.set j { waiter with handed := some c } := by
      rw [goes]
      rfl
    exact uncrowded.set present limits calls id later

/-- A call enters the queue. -/
theorem Uncrowded.enter (found : s.calls[i]? = some call)
    {sliceEnd : Nat} (place : call.pc = .enqueue sliceEnd) (open' : s.phase = .open')
    (idle : s.sweepLocked.findIdle call.origin = none)
    (budget : s.limits.maxConnections ≤ s.sweepLocked.entries.length)
    (free : s.waiters.length < s.limits.maxQueue) {thrown : Option Bytes}
    (room : s.crowds (.act i thrown) = false) (limits : next.limits = s.limits)
    (calls : next.calls = s.calls.set i
      { call with pc := .registering sliceEnd, handed := none, admitted := true }) :
    next.Uncrowded := by
  have queued : Call.Queued
      { call with pc := .registering sliceEnd, handed := none, admitted := true } := by
    refine ⟨fun early => ?_, fun _ => rfl, fun _ exit left => ?_⟩
    · cases early
    · cases left
  by_cases again : call.admitted = true
  · refine uncrowded.set found limits calls (fun _ => ?_) queued
    rw [Call.waits, again, place]
    rfl
  · refine uncrowded.admit' found limits calls ?_ queued
    by_contra crowded
    have new : call.admitted = false := Bool.not_eq_true _ ▸ again
    simp only [crowds, found, Option.any_some, place, new, open', idle, Option.isNone_none,
      decide_eq_true budget, decide_eq_true free,
      decide_eq_true (Nat.le_of_not_lt crowded)] at room
    cases room

/-- A turn of a call. -/
theorem Uncrowded.turn (sound : s.Sound)
    (found : s.calls[i]? = some call) {label : PoolLabel} (room : s.crowds label = false)
    (turn : s.Turn i call label next) : next.Uncrowded := by
  have queued := uncrowded.queued call (List.mem_of_getElem? found)
  have same := s.sweepLocked.retireOther_calls call.origin
  cases turn with
  | walk _ swept walks =>
    exact uncrowded.goOn found swept.calls.limits (congrArg (List.set · i _) swept.calls.calls) rfl
      (walks.leadsTo queued.early)
  | full thrown place open' full =>
    have new : call.admitted = false := by
      by_contra admitted
      have place := uncrowded.place sound found place (Bool.not_eq_false _ ▸ admitted)
      omega
    refine uncrowded.goOn found same.limits (congrArg (List.set · i _) same.calls) rfl ?_
    rw [new, place]
    rfl
  | enter thrown place open' idle budget free =>
    exact uncrowded.enter found place open' idle budget free room same.limits
      (congrArg (List.set · i _) same.calls)
  | take => exact uncrowded.goOn found rfl rfl rfl (leadsTo_out rfl rfl rfl rfl)
  | reserve _ _ swept =>
    exact uncrowded.goOn found swept.calls.limits (congrArg (List.set · i _) swept.calls.calls) rfl
      (leadsTo_out rfl rfl rfl rfl)
  | takeParked place | unclaimed thrown place | claim thrown place =>
    refine uncrowded.goOn found rfl rfl rfl ?_
    rw [place]
    cases call.admitted <;> rfl
  | park place swept =>
    refine uncrowded.goOn found swept.calls.limits (congrArg (List.set · i _) swept.calls.calls)
      rfl ?_
    rw [place]
    cases call.admitted <;> rfl
  | giveUp thrown place =>
    apply Uncrowded.returnLocked
    refine uncrowded.goOn found rfl rfl rfl ?_
    rw [place]
    cases call.admitted <;> rfl
  | settle =>
    unfold settleDial
    dsimp only
    repeat' split
    all_goals exact uncrowded.goOn found rfl rfl rfl (leadsTo_out rfl rfl rfl rfl)
  | wake status place =>
    refine uncrowded.goOn found rfl rfl rfl ?_
    obtain place | place := place <;> rw [place] <;> cases call.admitted <;> rfl
  | refused | dialled =>
    exact uncrowded.goOn found rfl rfl rfl (leadsTo_out rfl rfl rfl rfl)
  | @fail exit thrown place =>
    refine uncrowded.goOn found rfl rfl rfl ?_
    have kept := queued.exits
    rw [place] at kept ⊢
    cases admitted : call.admitted with
    | false => rfl
    | true =>
      have behind := kept admitted exit rfl
      simp only [leadsTo, loops, early, inWait, CallPc.exit,
        Option.all_some, behind]
      rfl
  | release =>
    apply Uncrowded.returnLocked
    exact uncrowded.goOn found rfl rfl rfl (leadsTo_out rfl rfl rfl rfl)

/-- Every step keeps the queue uncrowded in which no call joins a crowd. -/
theorem Uncrowded.step (sound : s.Sound) {label : PoolLabel}
    (room : s.crowds label = false) (stepped : s.step label = some next) : next.Uncrowded := by
  cases label with
  | acquire origin deadline =>
    rw [PoolState.step] at stepped
    split_ifs at stepped <;> cases stepped <;> exact uncrowded.push rfl rfl rfl rfl
  | check i | act i | callback i | resume i | dial i | release i =>
    obtain ⟨call, found, turn⟩ := step_turn rfl stepped
    exact uncrowded.turn sound found room turn
  | stats | tick | net =>
    cases stepped
    exact uncrowded.same rfl rfl
  | close reason =>
    cases stepped
    unfold PoolState.close
    dsimp only
    split_ifs <;> exact uncrowded.same rfl rfl
  | shutdown =>
    cases stepped
    unfold PoolState.shutdown
    split <;> exact uncrowded.same rfl rfl
  | drain j late =>
    rw [PoolState.step] at stepped
    split_ifs at stepped
    cases stepped
    exact uncrowded.same rfl rfl

end

/-- As long as calls join the queue only while fewer calls wait than it has places, a call that
was in the queue does not end with the error that the queue is full. -/
theorem admitted_exits {limits : PoolLimits} {labels : List PoolLabel}
    (run : (poolMachine limits).GuardedRun (fun s label => s.crowds label = false) labels s) :
    ∀ call ∈ s.calls, call.admitted = true → ∀ exit, call.pc = .returned exit →
      (∃ reason, exit = .closed reason) ∨ exit = .poolTimeout ∨ exit = .cancelled ∨
        exit = .unavailable ∨ exit = .waiterAlloc ∨ (∃ error, exit = .connect error) ∨
        ∃ what, exit = .thrown what := by
  have uncrowded : s.Uncrowded := by
    apply run.reachableInvariant Uncrowded
    · rintro state rfl
      refine ⟨Nat.zero_le _, ?_⟩
      intro call member
      cases member
    · intro state label next reachable uncrowded room stepped
      exact uncrowded.step (reachable_sound reachable) room stepped
  intro call member admitted exit returned
  have behind := (uncrowded.queued call member).exits admitted exit (by rw [returned]; rfl)
  cases exit with
  | gate | queueFull => cases behind
  | closed reason => exact .inl ⟨reason, rfl⟩
  | poolTimeout => exact .inr (.inl rfl)
  | cancelled => exact .inr (.inr (.inl rfl))
  | unavailable => exact .inr (.inr (.inr (.inl rfl)))
  | waiterAlloc => exact .inr (.inr (.inr (.inr (.inl rfl))))
  | connect error => exact .inr (.inr (.inr (.inr (.inr (.inl ⟨error, rfl⟩)))))
  | thrown what => exact .inr (.inr (.inr (.inr (.inr (.inr ⟨what, rfl⟩)))))

/-- A call waits for a lease until its deadline. -/
theorem admitted_exits_timeout : ∃ labels s,
    (poolMachine { maxConnections := 1 }).GuardedRun (fun s label => s.crowds label = false) labels
      s ∧ ∃ call ∈ s.calls, call.admitted = true ∧ call.pc = .returned .poolTimeout ∧
        AcquireExit.poolTimeout ≠ .queueFull := by
  let origin : Origin := { scheme := [], host := [], port := 80 }
  obtain ⟨s, run, tested⟩ := Machine.exists_guardedRun (m := poolMachine { maxConnections := 1 })
    ([.acquire origin none, .check 0 none, .act 0 none, .act 0 none, .dial 0 .connected,
      .act 0 none, .acquire origin (some 2), .check 1 none, .act 1 none, .act 1 none, .act 1 none,
      .act 1 none, .callback 1, .tick, .tick, .resume 1 .timedOut] ++ replicate 3 (.act 1 none))
    (fun s label => !s.crowds label)
    (fun s => s.calls.any fun call => call.admitted && decide (call.pc = .returned .poolTimeout))
    rfl (by decide +kernel)
  simp only [Bool.not_eq_true'] at run
  obtain ⟨call, member, both⟩ := any_eq_true.mp tested
  obtain ⟨admitted, ended⟩ := Bool.and_eq_true_iff.mp both
  have returned := of_decide_eq_true ended
  refine ⟨_, s, run, call, member, admitted, returned, ?_⟩
  rcases admitted_exits run call member admitted _ returned with ⟨_, closed⟩ | _
  · cases closed
  · exact fun full => by cases full

/-- A call that was in the queue dials itself when the budget has room, and ends with the error of
its dial. Another one gives up its place at the end of its slice to a newcomer, and ends because the
queue is full. -/
theorem admitted_ends_otherwise :
    (∃ s, (poolMachine { maxConnections := 1 }).Reachable s ∧ ∃ call ∈ s.calls,
      call.admitted = true ∧ call.pc = .returned (.connect (.generic 111))) ∧
    ∃ s, (poolMachine { maxConnections := 1, maxQueue := 1 }).Reachable s ∧ ∃ call ∈ s.calls,
      call.admitted = true ∧ call.pc = .returned .queueFull := by
  let origin : Origin := { scheme := [], host := [], port := 80 }
  let leased : List PoolLabel := [.acquire origin none, .check 0 none, .act 0 none, .act 0 none,
    .dial 0 .connected, .act 0 none]
  let queued : List PoolLabel := [.acquire origin none, .check 1 none, .act 1 none, .act 1 none,
    .act 1 none, .act 1 none, .callback 1]
  obtain ⟨dialled, reachable, tested⟩ := Machine.exists_reachable
    (m := poolMachine { maxConnections := 1 })
    (leased ++ queued ++ [.release 0 false, .net 0 .released] ++ replicate 20 .tick ++
      [.resume 1 .timedOut, .act 1 none, .act 1 none, .act 1 none, .act 1 none,
        .dial 1 (.failed (.generic 111)), .act 1 none, .act 1 none])
    (fun s => s.calls.any fun call =>
      call.admitted && decide (call.pc = .returned (.connect (.generic 111)))) rfl
    (by decide +kernel)
  obtain ⟨crowded, reachable', tested'⟩ := Machine.exists_reachable
    (m := poolMachine { maxConnections := 1, maxQueue := 1 })
    (leased ++ queued ++ replicate 20 .tick ++
      [.resume 1 .timedOut, .act 1 none, .acquire origin none, .check 2 none, .act 2 none,
        .act 2 none, .act 2 none, .act 2 none, .act 1 none, .act 1 none, .act 1 none, .act 1 none])
    (fun s => s.calls.any fun call => call.admitted && decide (call.pc = .returned .queueFull)) rfl
    (by decide +kernel)
  obtain ⟨call, member, both⟩ := any_eq_true.mp tested
  obtain ⟨call', member', both'⟩ := any_eq_true.mp tested'
  obtain ⟨admitted, ended⟩ := Bool.and_eq_true_iff.mp both
  obtain ⟨admitted', ended'⟩ := Bool.and_eq_true_iff.mp both'
  exact ⟨⟨dialled, reachable, call, member, admitted, of_decide_eq_true ended⟩,
    crowded, reachable', call', member', admitted', of_decide_eq_true ended'⟩

end PoolState

end BbtInfra.Http
