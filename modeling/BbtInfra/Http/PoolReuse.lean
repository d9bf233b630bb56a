import BbtInfra.Http.PoolSteps

/-!
# The reuse of connections

A connection that is taken from the idle entries was seen by the sweep of the same section, and
found open and silent. One that goes from its lease, or from a waiter that came too late, to the
next waiter was not looked at.
-/
namespace BbtInfra.Http

open Lib

namespace PoolState

/-- Every connection that was given to a call was seen in the same section, and found open,
without the end of its stream, without an error and without readable bytes. -/
def Observed (s : PoolState) : Prop :=
  ∀ give ∈ s.given, ∃ conn, give.seen = some conn ∧ conn.fresh = true

/-- A connection that comes back healthy would go to a queued call. -/
def regives (s : PoolState) (c : Nat) : Bool :=
  decide (s.phase = .open') &&
    (s.findLocked c).any fun entry => (s.nextWaiter entry.origin).isSome

/-- A lease, or a waiter that does not claim its connection, hands it to a queued call. -/
def handsOver (s : PoolState) : PoolLabel → Bool
  | .release i healthy =>
    healthy && (s.calls[i]?).any fun call =>
      match call.pc with
      | .leased c => s.regives c
      | _ => false
  | .act i _ =>
    (s.calls[i]?).any fun call =>
      match call.pc with
      | .woken status =>
        decide (status ≠ .completed) && call.handed.any (s.dequeueLocked i).regives
      | _ => false
  | _ => false

variable {s next : PoolState} {i : Nat} {call moved : Call} {entry : Entry}

/-- A queued call of an origin is found when there is one. -/
theorem nextWaiter_isSome_iff {origin : Origin} : (s.nextWaiter origin).isSome = true ↔
    ∃ j ∈ s.waiters, ∃ waiter, s.calls[j]? = some waiter ∧ waiter.origin = origin := by
  constructor
  · intro chosen
    obtain ⟨⟨j, waiter⟩, found⟩ := Option.isSome_iff_exists.mp chosen
    obtain ⟨queued, present, asked⟩ := nextWaiter_spec found
    exact ⟨j, queued, waiter, present, asked⟩
  · rintro ⟨j, queued, waiter, present, asked⟩
    cases first : s.waiters.find? fun i =>
        (s.calls[i]?).any fun call => decide (call.origin = origin) with
    | none =>
      rw [List.find?_eq_none] at first
      have missed := first j queued
      rw [present, Option.any_some, decide_eq_true asked] at missed
      exact absurd rfl missed
    | some k =>
      have matches' := List.find?_some first
      rw [nextWaiter, first, Option.bind_some, Option.isSome_map]
      cases present' : s.calls[k]? with
      | none =>
        rw [present'] at matches'
        cases matches'
      | some other => rfl

/-- A call that moves on is of the same origin. -/
theorem regives_set (s : PoolState) (c : Nat) (found : s.calls[i]? = some call)
    (entries : next.entries = s.entries) (phase : next.phase = s.phase)
    (waiters : next.waiters = s.waiters) (calls : next.calls = s.calls.set i moved)
    (origin : moved.origin = call.origin) : next.regives c = s.regives c := by
  have same : ∀ asked, (next.nextWaiter asked).isSome = (s.nextWaiter asked).isSome := by
    intro asked
    rw [Bool.eq_iff_iff, nextWaiter_isSome_iff, nextWaiter_isSome_iff, waiters, calls]
    constructor
    · rintro ⟨j, queued, waiter, present, wanted⟩
      rcases List.getElem?_set_cases present with ⟨rfl, rfl⟩ | before
      · exact ⟨j, queued, call, found, origin.symm.trans wanted⟩
      · exact ⟨j, queued, waiter, before, wanted⟩
    · rintro ⟨j, queued, waiter, present, wanted⟩
      by_cases here : j = i
      · subst here
        cases found.symm.trans present
        exact ⟨j, queued, moved, List.getElem?_set_found found, origin.trans wanted⟩
      · exact ⟨j, queued, waiter, by rwa [List.getElem?_set_ne (Ne.symm here)], wanted⟩
  simp only [regives, findLocked, entries, phase, same]

/-- A connection that comes back is given on unseen, or not at all. -/
theorem returnLocked_given (s : PoolState) (c : Nat) (healthy : Bool) :
    (healthy && s.regives c) = false ∧ (s.returnLocked c healthy).given = s.given ∨
      (healthy && s.regives c) = true ∧ ∃ give : Give, give.seen = none ∧
        (s.returnLocked c healthy).given = s.given ++ [give] := by
  unfold returnLocked regives
  cases found : s.findLocked c with
  | none => exact .inl ⟨by simp, rfl⟩
  | some entry =>
    dsimp only
    by_cases retires : (!healthy || decide (s.phase ≠ .open')) = true
    · left
      refine ⟨?_, by rw [if_pos retires]; rfl⟩
      cases healthy <;> simp_all
    · have stays : healthy = true ∧ s.phase = .open' := by simpa using retires
      rw [if_neg retires]
      cases chosen : s.nextWaiter entry.origin with
      | none =>
        left
        refine ⟨by simp [chosen], ?_⟩
        unfold admitToIdleLocked
        split_ifs <;> rfl
      | some pair =>
        right
        exact ⟨by simp [chosen, stays.1, stays.2], _, rfl, rfl⟩

/-- What a step adds to the connections that were given: nothing, one that was seen and found
fresh, or one that was not looked at, and the last exactly when it hands over. -/
def Gives (s next : PoolState) (handsOver : Bool) : Prop :=
  (handsOver = false ∧ next.given = s.given) ∨
    (handsOver = false ∧ ∃ (give : Give) (conn : NetConn), give.seen = some conn ∧
      conn.fresh = true ∧ next.given = s.given ++ [give]) ∨
    (handsOver = true ∧ ∃ give : Give, give.seen = none ∧ next.given = s.given ++ [give])

/-- A step that gives nothing. -/
theorem Gives.none' (given : next.given = s.given) : s.Gives next false := .inl ⟨rfl, given⟩

/-- An entry that is idle behind the sweep was seen there, and found fresh. -/
theorem Sound.take_seen (sound : s.Sound) {origin : Origin} {c : Nat}
    (found : s.sweepLocked.findIdle origin = some (entry, c)) :
    ∃ conn, s.conns[c]? = some conn ∧ conn.fresh = true := by
  obtain ⟨member, idle, _, connected⟩ := findIdle_spec found
  obtain ⟨old, before, left⟩ := List.mem_filterMap.mp member
  obtain ⟨rfl, clean⟩ := sweepEntry_idle left idle
  obtain ⟨_, conn, known, _⟩ := sound.books.files.filed entry before c connected
  refine ⟨conn, known, ?_⟩
  rw [stale, connected, Option.bind_some, known, Option.any_some, Bool.not_eq_false'] at clean
  exact clean

/-- `TakeIdleLocked` behind the sweep gives a connection that was seen. -/
theorem Sound.gives_taken (sound : s.Sound) {origin : Origin} {pair : Entry × Nat}
    (found : s.sweepLocked.findIdle origin = some pair)
    (given : next.given = s.given ++ [⟨i, pair.2, s.conns[pair.2]?⟩]) : s.Gives next false := by
  obtain ⟨conn, known, fresh⟩ := sound.take_seen found
  exact .inr (.inl ⟨rfl, _, conn, known, fresh, given⟩)

/-- A connection that comes back is given on unseen, or not at all. -/
theorem gives_returned (s middle : PoolState) (c : Nat) (healthy : Bool)
    (same : middle.given = s.given) :
    s.Gives (middle.returnLocked c healthy) (healthy && middle.regives c) := by
  rcases middle.returnLocked_given c healthy with ⟨stays, given⟩ | ⟨goes, give, seen, given⟩
  · rw [stays]
    exact .none' (given.trans same)
  · rw [goes]
    exact .inr (.inr ⟨rfl, give, seen, by rw [given, same]⟩)

/-- A turn of a call. -/
theorem Sound.turn_gives (sound : s.Sound) (found : s.calls[i]? = some call) {label : PoolLabel}
    (turn : s.Turn i call label next) : s.Gives next (s.handsOver label) := by
  have aside : ∀ thrown, (∀ status, call.pc ≠ .woken status) →
      s.handsOver (.act i thrown) = false := by
    intro thrown other
    simp only [handsOver, found, Option.any_some]
  have same := s.sweepLocked.retireOther_calls call.origin
  cases turn with
  | walk own swept walks =>
    have calm : s.handsOver label = false := by
      obtain ⟨thrown, rfl⟩ | ⟨failure, rfl⟩ := own
      · apply aside
        intro status woken
        have plain := walks.plain.1
        rw [woken] at plain
        cases plain
      · rfl
    rw [calm]
    exact .none' swept.calls.given
  | full thrown place | enter thrown place =>
    rw [aside _ fun status woken => by cases place.symm.trans woken]
    exact .none' same.given
  | take thrown place open' idle =>
    rw [aside _ fun status woken => by
      obtain place | ⟨_, place⟩ := place <;> cases place.symm.trans woken]
    exact sound.gives_taken idle rfl
  | takeParked place empty open' idle => exact sound.gives_taken idle rfl
  | park place swept => exact .none' swept.calls.given
  | reserve thrown place swept =>
    rw [aside _ fun status woken => by
      obtain place | ⟨_, place⟩ := place <;> cases place.symm.trans woken]
    exact .none' swept.calls.given
  | unclaimed thrown place empty =>
    have calm : s.handsOver (.act i thrown) = false := by
      simp only [handsOver, found, Option.any_some, place, empty, Option.any_none, Bool.and_false]
    rw [calm]
    exact .none' rfl
  | claim thrown place =>
    have calm : s.handsOver (.act i thrown) = false := by
      simp only [handsOver, found, Option.any_some, place, ne_eq, not_true_eq_false, decide_false,
        Bool.false_and]
    rw [calm]
    exact .none' rfl
  | @giveUp status c thrown place late handed =>
    have kept : ((s.dequeueLocked i).setCall i
        { call with pc := .judge status, handed := none }).regives c =
          (s.dequeueLocked i).regives c :=
      regives_set (s.dequeueLocked i) c found rfl rfl rfl rfl rfl
    have hands : s.handsOver (.act i thrown) = (true && ((s.dequeueLocked i).setCall i
        { call with pc := .judge status, handed := none }).regives c) := by
      rw [kept]
      simp only [handsOver, found, Option.any_some, place, handed, ne_eq, late, not_false_eq_true,
        decide_true]
    rw [hands]
    exact gives_returned s _ c true rfl
  | settle thrown place =>
    rw [aside _ fun status woken => by cases place.symm.trans woken]
    unfold PoolState.settleDial
    dsimp only
    repeat' split
    all_goals exact .none' rfl
  | wake | refused | dialled => exact .none' rfl
  | fail thrown place =>
    rw [aside _ fun status woken => by cases place.symm.trans woken]
    exact .none' rfl
  | @release c healthy place =>
    have kept : (PoolState.move { s with inflight := s.inflight - 1 } i call
        .released).regives c = s.regives c := regives_set s c found rfl rfl rfl rfl rfl
    have hands : s.handsOver (.release i healthy) = (healthy &&
        (PoolState.move { s with inflight := s.inflight - 1 } i call .released).regives c) := by
      simp only [handsOver, found, Option.any_some, place, kept]
    rw [hands]
    exact gives_returned s _ c healthy rfl

/-- What every step adds to the connections that were given. -/
theorem Sound.step_gives (sound : s.Sound) {label : PoolLabel}
    (stepped : s.step label = some next) : s.Gives next (s.handsOver label) := by
  cases label with
  | acquire origin deadline =>
    rw [PoolState.step] at stepped
    split_ifs at stepped <;> cases stepped <;> exact .none' rfl
  | check i | act i | callback i | resume i | dial i | release i =>
    obtain ⟨call, found, turn⟩ := step_turn rfl stepped
    exact sound.turn_gives found turn
  | stats | tick | net =>
    cases stepped
    exact .none' rfl
  | close reason =>
    cases stepped
    unfold PoolState.close
    dsimp only
    split_ifs <;> exact .none' rfl
  | shutdown =>
    cases stepped
    unfold PoolState.shutdown
    split <;> exact .none' rfl
  | drain j late =>
    rw [PoolState.step] at stepped
    split_ifs at stepped
    cases stepped
    exact .none' rfl

/-- A step keeps every give observed, exactly when it hands nothing over. -/
theorem Gives.observed_iff {handsOver : Bool} (gives : s.Gives next handsOver)
    (observed : s.Observed) : next.Observed ↔ handsOver = false := by
  rcases gives with ⟨kept, given⟩ | ⟨kept, give, conn, seen, fresh, given⟩ |
    ⟨goes, give, seen, given⟩
  · rw [Observed, given]
    exact ⟨fun _ => kept, fun _ => observed⟩
  · refine ⟨fun _ => kept, fun _ => ?_⟩
    rw [Observed, given]
    intro other member
    rcases List.mem_append.mp member with before | last
    · exact observed other before
    · rw [List.mem_singleton.mp last]
      exact ⟨conn, seen, fresh⟩
  · constructor
    · intro later
      rw [Observed, given] at later
      obtain ⟨conn, seen', _⟩ := later give (List.mem_append_right _ (List.mem_singleton_self _))
      rw [seen] at seen'
      cases seen'
    · intro kept
      rw [kept] at goes
      cases goes

/-- As long as no connection goes straight from a lease or from a late waiter to a queued call,
every connection that a call was given was observed fresh in the section that gave it, and the
next step keeps that exactly when it hands nothing over either. -/
theorem reused_observed {limits : PoolLimits} {labels : List PoolLabel}
    (run : (poolMachine limits).GuardedRun (fun s label => s.handsOver label = false) labels s) :
    s.Observed ∧ ∀ label next, s.step label = some next →
      (next.Observed ↔ s.handsOver label = false) := by
  have observed : s.Observed := by
    apply run.reachableInvariant Observed
    · rintro state rfl
      exact fun give member => absurd member List.not_mem_nil
    · intro state label next reachable observed kept stepped
      exact (((reachable_sound reachable).step_gives stepped).observed_iff observed).mpr kept
  refine ⟨observed, ?_⟩
  intro label next stepped
  exact ((reachable_sound run.reachable).step_gives stepped).observed_iff observed

/-- A second call reuses an idle connection. -/
theorem reused_observed_idle : ∃ labels s, (poolMachine {}).GuardedRun
    (fun s label => s.handsOver label = false) labels s ∧ s.Observed ∧ s.given.length = 1 := by
  let origin : Origin := { scheme := [], host := [], port := 80 }
  obtain ⟨s, run, tested⟩ := Machine.exists_guardedRun (m := poolMachine {})
    [.acquire origin none, .check 0 none, .act 0 none, .act 0 none, .dial 0 .connected, .act 0 none,
      .release 0 true, .acquire origin none, .check 1 none, .act 1 none]
    (fun s label => !s.handsOver label) (fun s => decide (s.given.length = 1)) rfl
    (by decide +kernel)
  simp only [Bool.not_eq_true'] at run
  exact ⟨_, s, run, (reused_observed run).1, of_decide_eq_true tested⟩

/-- Five bytes arrive behind a complete response while another call is queued: its lease hands the
connection over with the bytes in it. -/
theorem handed_over_unseen : ∃ s, (poolMachine { maxConnections := 1 }).Reachable s ∧
    s.calls.map Call.pc = [.released, .leased 0] ∧ s.conns.map NetConn.readableBytes = [5] ∧
    ¬ s.Observed := by
  let origin : Origin := { scheme := [], host := [], port := 80 }
  obtain ⟨s, reachable, tested⟩ := Machine.exists_reachable
    (m := poolMachine { maxConnections := 1 })
    [.acquire origin none, .check 0 none, .act 0 none, .act 0 none, .dial 0 .connected, .act 0 none,
      .acquire origin none, .check 1 none, .act 1 none, .act 1 none, .act 1 none, .act 1 none,
      .callback 1, .net 0 (.readable 5), .release 0 true, .resume 1 .completed, .act 1 none]
    (fun s => decide (s.calls.map Call.pc = [.released, .leased 0] ∧
      s.conns.map NetConn.readableBytes = [5] ∧ s.given = [⟨1, 0, none⟩])) rfl (by decide +kernel)
  obtain ⟨calls, conns, given⟩ := of_decide_eq_true tested
  refine ⟨s, reachable, calls, conns, ?_⟩
  intro observed
  obtain ⟨conn, seen, _⟩ := observed ⟨1, 0, none⟩ (by rw [given]; exact List.mem_singleton_self _)
  cases seen

end PoolState

end BbtInfra.Http
