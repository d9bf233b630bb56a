import BbtInfra.Http.PoolBooks

/-!
# What a call of a pool can do

One inversion of the step function for all invariants: where a call stands, what its next section
found, and the pool that comes of it.
-/
namespace BbtInfra.Http

open Lib

/-- The call that takes the step. -/
def PoolLabel.caller : PoolLabel → Option Nat
  | .check i _ | .act i _ | .callback i | .resume i _ | .dial i _ | .release i _ => some i
  | _ => none

/-- Where a call that owns nothing goes without getting anything. -/
inductive CallPc.Walks : CallPc → CallPc → Prop
  | checked : Walks .entered .fast
  | gate (error : StdErrorCode) : Walks .entered (.failing (.gate error))
  | missed : Walks .fast .reserve
  | spent : Walks .reserve .slice
  | slice (sliceEnd : Nat) : Walks .slice (.enqueue sliceEnd)
  | late : Walks .slice (.failing .poolTimeout)
  | alloc : Walks .slice (.failing .waiterAlloc)
  | again (status : WaitStatus) : Walks (.judge status) .slice
  | cancelled (status : WaitStatus) : Walks (.judge status) (.failing .cancelled)
  | expired (status : WaitStatus) : Walks (.judge status) (.failing .poolTimeout)
  | unavailable (status : WaitStatus) : Walks (.judge status) (.failing .unavailable)
  | closed {pc : CallPc} (reason : Error)
    (looks : pc = .fast ∨ pc = .reserve ∨ ∃ sliceEnd, pc = .enqueue sliceEnd) :
    Walks pc (.failing (.closed reason))

namespace PoolState

/-- The pool behind the sweep of a section, if it makes one. -/
inductive Swept (s : PoolState) : PoolState → Prop
  | same : Swept s s
  | swept (open' : s.phase = .open') : Swept s s.sweepLocked

/-- The calls, the queue and the counters stay. -/
structure SameCalls (s next : PoolState) : Prop where
  calls : next.calls = s.calls
  waiters : next.waiters = s.waiters
  inflight : next.inflight = s.inflight
  shutdowns : next.shutdowns = s.shutdowns
  given : next.given = s.given
  dangling : next.dangling = s.dangling
  limits : next.limits = s.limits

/-- A sweep leaves them. -/
theorem Swept.calls {s middle : PoolState} (swept : s.Swept middle) : s.SameCalls middle := by
  cases swept <;> exact ⟨rfl, rfl, rfl, rfl, rfl, rfl, rfl⟩

/-- So does `RetireOtherIdleLocked`. -/
theorem retireOther_calls (s : PoolState) (origin : Origin) :
    s.SameCalls (s.retireOtherIdleLocked origin) := by
  unfold retireOtherIdleLocked
  split <;> exact ⟨rfl, rfl, rfl, rfl, rfl, rfl, rfl⟩

/-- The next section of a call, by what it found. -/
inductive Turn (s : PoolState) (i : Nat) (call : Call) : PoolLabel → PoolState → Prop
  | walk {label : PoolLabel} {middle : PoolState} {pc : CallPc}
    (own : (∃ thrown, label = .act i thrown) ∨ ∃ failure, label = .check i failure)
    (swept : s.Swept middle) (walks : call.pc.Walks pc) : Turn s i call label (middle.move i call pc)
  | full {sliceEnd : Nat} (thrown : Option Bytes) (place : call.pc = .enqueue sliceEnd)
    (open' : s.phase = .open') (full : s.limits.maxQueue ≤ s.waiters.length) :
    Turn s i call (.act i thrown)
      ((s.sweepLocked.retireOtherIdleLocked call.origin).move i call (.failing .queueFull))
  | enter {sliceEnd : Nat} (thrown : Option Bytes) (place : call.pc = .enqueue sliceEnd)
    (open' : s.phase = .open') (idle : s.sweepLocked.findIdle call.origin = none)
    (budget : s.limits.maxConnections ≤ s.sweepLocked.entries.length)
    (room : s.waiters.length < s.limits.maxQueue) :
    Turn s i call (.act i thrown) { (s.sweepLocked.retireOtherIdleLocked call.origin).setCall i
      { call with pc := .registering sliceEnd, handed := none, admitted := true } with
        waiters := s.waiters ++ [i] }
  | take {entry : Entry} {c : Nat} (thrown : Option Bytes)
    (place : call.pc = .fast ∨ ∃ sliceEnd, call.pc = .enqueue sliceEnd) (open' : s.phase = .open')
    (idle : s.sweepLocked.findIdle call.origin = some (entry, c)) :
    Turn s i call (.act i thrown)
      ((s.sweepLocked.takeIdleLocked i entry c).move i call (.leased c))
  | takeParked {sliceEnd : Nat} {entry : Entry} {c : Nat} (place : call.pc = .registering sliceEnd)
    (empty : call.handed = none) (open' : s.phase = .open')
    (idle : s.sweepLocked.findIdle call.origin = some (entry, c)) :
    Turn s i call (.callback i) (((s.sweepLocked.takeIdleLocked i entry c).setCall i
      { call with pc := .parked sliceEnd, handed := some c }).dequeueLocked i)
  | park {sliceEnd : Nat} {middle : PoolState} (place : call.pc = .registering sliceEnd)
    (swept : s.Swept middle) : Turn s i call (.callback i) (middle.move i call (.parked sliceEnd))
  | reserve {middle : PoolState} (thrown : Option Bytes)
    (place : call.pc = .reserve ∨ ∃ sliceEnd, call.pc = .enqueue sliceEnd)
    (swept : s.Swept middle) (open' : s.phase = .open')
    (room : middle.entries.length < s.limits.maxConnections) :
    Turn s i call (.act i thrown) (middle.reserveDial i call)
  | unclaimed {status : WaitStatus} (thrown : Option Bytes) (place : call.pc = .woken status)
    (empty : call.handed = none) :
    Turn s i call (.act i thrown) ((s.dequeueLocked i).move i call (.judge status))
  | claim {c : Nat} (thrown : Option Bytes) (place : call.pc = .woken .completed)
    (handed : call.handed = some c) : Turn s i call (.act i thrown)
      ((s.dequeueLocked i).setCall i { call with pc := .leased c, handed := none })
  | giveUp {status : WaitStatus} {c : Nat} (thrown : Option Bytes) (place : call.pc = .woken status)
    (late : status ≠ .completed) (handed : call.handed = some c) : Turn s i call (.act i thrown)
      (((s.dequeueLocked i).setCall i
        { call with pc := .judge status, handed := none }).returnLocked c true)
  | settle {id : Nat} {result : DialResult} (thrown : Option Bytes)
    (place : call.pc = .dialled id result) :
    Turn s i call (.act i thrown) (s.settleDial i call id result thrown)
  | wake {sliceEnd : Nat} (status : WaitStatus)
    (place : call.pc = .registering sliceEnd ∨ call.pc = .parked sliceEnd) :
    Turn s i call (.resume i status) (s.move i call (.woken status))
  | refused {id : Nat} (answer : DialAnswer) (error : StdErrorCode) (place : call.pc = .dialing id) :
    Turn s i call (.dial i answer) (s.move i call (.dialled id (.failed error none)))
  | dialled {id : Nat} {result : DialResult} (answer : DialAnswer) (place : call.pc = .dialing id)
    (brings : Call.record { call with pc := .dialled id result } = some s.conns.length) :
    Turn s i call (.dial i answer) { s.move i call (.dialled id result) with
      conns := s.conns ++ [{ origin := call.origin }] }
  | fail {exit : AcquireExit} (thrown : Option Bytes) (place : call.pc = .failing exit) :
    Turn s i call (.act i thrown)
      ({ s with inflight := s.inflight - 1 }.move i call (.returned exit))
  | release {c : Nat} (healthy : Bool) (place : call.pc = .leased c) :
    Turn s i call (.release i healthy) (s.release i call c healthy)

variable {s next : PoolState} {i : Nat} {call : Call} {thrown : Option Bytes}

/-- The section of the loop that enters the queue. -/
theorem enqueueSection_turn {sliceEnd : Nat} (place : call.pc = .enqueue sliceEnd) :
    s.Turn i call (.act i thrown) (s.enqueueSection i call sliceEnd) := by
  unfold enqueueSection
  by_cases shut : s.phase ≠ .open'
  · rw [if_pos shut]
    exact .walk (.inl ⟨_, rfl⟩) .same (.closed _ (.inr (.inr ⟨_, place⟩)))
  rw [if_neg shut]
  have open' : s.phase = .open' := Decidable.not_not.mp shut
  cases idle : s.sweepLocked.findIdle call.origin with
  | some pair => exact .take _ (.inr ⟨_, place⟩) open' idle
  | none =>
    by_cases room : s.sweepLocked.entries.length < s.limits.maxConnections
    · rw [if_pos room]
      exact .reserve _ (.inr ⟨_, place⟩) (.swept open') open' room
    rw [if_neg room]
    by_cases full : s.limits.maxQueue ≤ s.waiters.length
    · rw [if_pos full]
      exact .full _ place open' full
    · rw [if_neg full]
      exact .enter _ place open' idle (Nat.le_of_not_lt room) (Nat.lt_of_not_le full)

/-- The next section of a call. -/
theorem act_turn (moved : s.act i call thrown = some next) :
    s.Turn i call (.act i thrown) next := by
  have walks : ∀ {middle : PoolState} {pc : CallPc}, s.Swept middle → call.pc.Walks pc →
      s.Turn i call (.act i thrown) (middle.move i call pc) := .walk (.inl ⟨_, rfl⟩)
  unfold act at moved
  split at moved
  case h_1 place =>
    cases moved
    unfold fastPath
    by_cases shut : s.phase ≠ .open'
    · rw [if_pos shut]
      exact walks .same (.closed _ (.inl place))
    rw [if_neg shut]
    have open' : s.phase = .open' := Decidable.not_not.mp shut
    cases idle : s.sweepLocked.findIdle call.origin with
    | some pair => exact .take _ (.inl place) open' idle
    | none => exact walks (.swept open') (by rw [place]; exact .missed)
  case h_2 place =>
    cases moved
    unfold dialWithinBudget
    split_ifs with shut room
    · exact walks .same (.closed _ (.inr (.inl place)))
    · exact .reserve _ (.inl place) .same (Decidable.not_not.mp shut) room
    · exact walks .same (by rw [place]; exact .spent)
  case h_3 place =>
    split_ifs at moved <;> cases moved <;> apply walks .same <;> rw [place]
    · exact .late
    · exact .alloc
    · exact .slice _
  case h_4 sliceEnd place => cases moved; exact enqueueSection_turn place
  case h_5 status place =>
    cases moved
    unfold claimSection
    cases handed : call.handed with
    | none => exact .unclaimed _ place handed
    | some c =>
      split_ifs with completed
      · exact .claim _ (completed ▸ place) handed
      · exact .giveUp _ place completed handed
  case h_6 status place =>
    cases moved
    apply walks .same
    rw [place]
    unfold judgement
    split_ifs
    · exact .cancelled _
    · exact .expired _
    · exact .unavailable _
    · exact .again _
  case h_7 id result place => cases moved; exact .settle _ place
  case h_8 exit place => cases moved; exact .fail _ place
  case h_9 => cases moved

/-- A step of a call is a turn. -/
theorem step_turn {label : PoolLabel} (own : label.caller = some i)
    (stepped : s.step label = some next) :
    ∃ call, s.calls[i]? = some call ∧ s.Turn i call label next := by
  cases label with
  | check j failure =>
    cases own
    obtain ⟨call, found, moved⟩ := Option.bind_eq_some_iff.mp stepped
    obtain ⟨entered, rfl⟩ := guarded_some moved
    refine ⟨call, found, .walk (.inr ⟨failure, rfl⟩) .same ?_⟩
    rw [entered]
    cases failure with
    | none => exact .checked
    | some error => exact .gate error
  | act j thrown =>
    cases own
    obtain ⟨call, found, moved⟩ := Option.bind_eq_some_iff.mp stepped
    exact ⟨call, found, act_turn moved⟩
  | callback j =>
    cases own
    obtain ⟨call, found, moved⟩ := Option.bind_eq_some_iff.mp stepped
    refine ⟨call, found, ?_⟩
    split at moved
    case h_1 sliceEnd place =>
      cases moved
      unfold callbackSection
      split_ifs with done
      · exact .park place .same
      simp only [Bool.or_eq_true, decide_eq_true_eq, not_or, Bool.not_eq_true,
        Option.isSome_eq_false_iff, Option.isNone_iff_eq_none, not_not] at done
      cases idle : s.sweepLocked.findIdle call.origin with
      | some pair => exact .takeParked place done.1 done.2 idle
      | none => exact .park place (.swept done.2)
    case h_2 => cases moved
  | resume j status =>
    cases own
    obtain ⟨call, found, moved⟩ := Option.bind_eq_some_iff.mp stepped
    refine ⟨call, found, ?_⟩
    unfold resume at moved
    split at moved
    case h_1 sliceEnd place => split_ifs at moved; cases moved; exact .wake _ (.inl place)
    case h_2 sliceEnd place => split_ifs at moved; cases moved; exact .wake _ (.inr place)
    case h_3 => cases moved
  | dial j answer =>
    cases own
    obtain ⟨call, found, moved⟩ := Option.bind_eq_some_iff.mp stepped
    refine ⟨call, found, ?_⟩
    split at moved
    case h_1 id place =>
      cases answer with
      | refused error => obtain ⟨-, rfl⟩ := guarded_some moved; exact .refused _ error place
      | failed error => obtain ⟨-, rfl⟩ := guarded_some moved; exact .dialled _ place rfl
      | connected => cases moved; exact .dialled _ place rfl
    case h_2 => cases moved
  | release j healthy =>
    cases own
    obtain ⟨call, found, moved⟩ := Option.bind_eq_some_iff.mp stepped
    split at moved
    case h_1 c place => cases moved; exact ⟨call, found, .release _ place⟩
    case h_2 => cases moved
  | _ => cases own

end PoolState

end BbtInfra.Http
