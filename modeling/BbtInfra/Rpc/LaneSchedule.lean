import BbtInfra.Lib.RoundRobin
import BbtInfra.Rpc.SessionCore

/-!
# How the lanes of a session take turns

`Dequeue` gives the system lane everything it wants. Between the other two lanes it is a weighted
round robin, so an item at the head of one of them is passed over no more often than the credits
allow, whatever is enqueued meanwhile.
-/
namespace BbtInfra.Rpc

open Lib Credits List

/-- A call on the outbound queue. -/
inductive LaneCall
  | enqueue (item : OutItem)
  | dequeue
  deriving DecidableEq, Repr

/-- The lane of a side. -/
def laneOf : Side → TrafficClass
  | .first => .service
  | .second => .actor

namespace SessionCore

variable {s : SessionCore}

/-- The session after a call. -/
def afterCall (s : SessionCore) : LaneCall → SessionCore
  | .enqueue item => s.enqueue item
  | .dequeue => s.dequeue.2

/-- The item that a call returns. -/
def handsOut (s : SessionCore) : LaneCall → List OutItem
  | .enqueue _ => []
  | .dequeue => s.dequeue.1.toList

/-- The item that a call takes in. -/
def takesIn (s : SessionCore) : LaneCall → List OutItem
  | .enqueue item => if (s.enqueueGate item).isOk then [item] else []
  | .dequeue => []

/-- The session after a sequence of calls. -/
def afterCalls : SessionCore → List LaneCall → SessionCore
  | s, [] => s
  | s, call :: calls => (s.afterCall call).afterCalls calls

/-- The items that a sequence of calls returns, in order. -/
def returned : SessionCore → List LaneCall → List OutItem
  | _, [] => []
  | s, call :: calls => s.handsOut call ++ (s.afterCall call).returned calls

/-- The items that a sequence of calls takes in, in order. -/
def enqueued : SessionCore → List LaneCall → List OutItem
  | _, [] => []
  | s, call :: calls => s.takesIn call ++ (s.afterCall call).enqueued calls

/-- How often a sequence of calls runs `Dequeue` while the system lane is empty. -/
def openTurns : SessionCore → List LaneCall → Nat
  | _, [] => 0
  | s, call :: calls =>
    (if call = .dequeue ∧ s.outQ .system = [] then 1 else 0) + (s.afterCall call).openTurns calls

/-- The items of one lane. -/
def ofLane (lane : TrafficClass) (items : List OutItem) : List OutItem :=
  items.filter fun item => item.lane = lane

/-- Every item stands in its own lane. -/
def Laned (s : SessionCore) : Prop := ∀ lane, ∀ item ∈ s.outQ lane, item.lane = lane

/-- The credits of this round. -/
def credits (s : SessionCore) : Credits := ⟨s.serviceCredit, s.actorCredit⟩

/-- `weights` of `Dequeue`. -/
def weights (s : SessionCore) : Credits := ⟨s.options.serviceWeight, s.options.actorWeight⟩

/-- A side is ready when its lane is not empty. -/
def ready (s : SessionCore) (side : Side) : Bool := !(s.outQ (laneOf side)).isEmpty

variable {side : Side} {item : OutItem} {rest : List OutItem} {lane : TrafficClass}

/-- `pop` of an empty lane. -/
theorem pop_empty (empty : s.outQ lane = []) : s.pop lane = none := by
  unfold pop
  rw [empty]

/-- `pop` of a lane that holds something. -/
theorem pop_cons (queue : s.outQ lane = item :: rest) :
    s.pop lane = some (item, s.dequeued lane item rest s.serviceCredit s.actorCredit) := by
  unfold pop
  rw [queue]
  rfl

/-- A lane that is ready has an item at its head. -/
theorem ready_cons (waits : s.ready side = true) :
    ∃ item rest, s.outQ (laneOf side) = item :: rest := by
  unfold ready at waits
  cases queue : s.outQ (laneOf side) with
  | nil => simp [queue] at waits
  | cons item rest => exact ⟨item, rest, rfl⟩

/-- `Dequeue` takes the head of the system lane and leaves the credits. -/
theorem dequeue_system (queue : s.outQ .system = item :: rest) :
    s.dequeue = (some item, s.dequeued .system item rest s.serviceCredit s.actorCredit) := by
  unfold dequeue
  rw [pop_cons queue]

/-- What `Dequeue` does when the system lane is empty: a turn of the round robin. -/
def TakesTurn (s : SessionCore) : Option Side × Credits → Prop
  | (some side, credits) => ∃ item rest, s.outQ (laneOf side) = item :: rest ∧
      s.dequeue = (some item, s.dequeued (laneOf side) item rest credits.first credits.second)
  | (none, credits) =>
    s.dequeue = (none, { s with serviceCredit := credits.first, actorCredit := credits.second })

/-- `pop` of a lane that is not ready. -/
theorem pop_idle (idle : ¬s.ready side = true) : s.pop (laneOf side) = none := by
  unfold ready at idle
  exact pop_empty (by simpa using idle)

/-- A lane without credit, or not ready, is passed over. -/
theorem pop_passed {credit : Nat} (passed : ¬(credit ≠ 0 ∧ s.ready side = true)) :
    (if credit ≠ 0 then s.pop (laneOf side) else none) = none := by
  split_ifs with left
  · exact pop_idle fun waits => passed ⟨left, waits⟩
  · rfl

/-- The weighted choice is a turn that finds its credits reloaded. -/
theorem popWeighted_turn (s : SessionCore) (fresh : s.credits.reload s.weights = s.credits) :
    match s.credits.turn s.weights s.ready with
    | (some side, credits) => ∃ item rest, s.outQ (laneOf side) = item :: rest ∧
        s.popWeighted =
          some (item, s.dequeued (laneOf side) item rest credits.first credits.second)
    | (none, credits) => s.popWeighted = none ∧ credits = s.credits := by
  unfold turn
  rw [fresh]
  by_cases first : s.credits.first ≠ 0 ∧ s.ready .first = true
  · obtain ⟨item, rest, queue⟩ := ready_cons first.2
    have popped : (if s.serviceCredit ≠ 0 then s.pop .service else none) =
        some (item, s.dequeued .service item rest s.serviceCredit s.actorCredit) := by
      rw [if_pos (show s.serviceCredit ≠ 0 from first.1)]
      exact pop_cons queue
    rw [if_pos first]
    refine ⟨item, rest, queue, ?_⟩
    unfold popWeighted
    rw [popped]
    rfl
  have passed : (if s.serviceCredit ≠ 0 then s.pop .service else none) = none := pop_passed first
  rw [if_neg first]
  by_cases second : s.credits.second ≠ 0 ∧ s.ready .second = true
  · obtain ⟨item, rest, queue⟩ := ready_cons second.2
    have popped : (if s.actorCredit ≠ 0 then s.pop .actor else none) =
        some (item, s.dequeued .actor item rest s.serviceCredit s.actorCredit) := by
      rw [if_pos (show s.actorCredit ≠ 0 from second.1)]
      exact pop_cons queue
    rw [if_pos second]
    refine ⟨item, rest, queue, ?_⟩
    unfold popWeighted
    rw [passed, popped]
    rfl
  have left : (if s.actorCredit ≠ 0 then s.pop .actor else none) = none := pop_passed second
  have fallback : s.popWeighted = (s.pop .service).or (s.pop .actor) := by
    unfold popWeighted
    rw [passed, left]
  rw [if_neg second, fallback]
  split_ifs with spare last
  · obtain ⟨item, rest, queue⟩ := ready_cons spare
    refine ⟨item, rest, queue, ?_⟩
    rw [show s.pop .service = _ from pop_cons queue]
    rfl
  · obtain ⟨item, rest, queue⟩ := ready_cons last
    refine ⟨item, rest, queue, ?_⟩
    rw [show s.pop .service = none from pop_idle spare, show s.pop .actor = _ from pop_cons queue]
    rfl
  · refine ⟨?_, rfl⟩
    rw [show s.pop .service = none from pop_idle spare, show s.pop .actor = none from pop_idle last]
    rfl

/-- The credits after `reloadCredit`. -/
theorem reloadCredit_credits (s : SessionCore) :
    s.reloadCredit = { s with
      serviceCredit := (s.credits.reload s.weights).first
      actorCredit := (s.credits.reload s.weights).second } := by
  unfold reloadCredit reload
  split_ifs with spent other other
  · rfl
  · exact absurd spent other
  · exact absurd other spent
  · rfl

/-- With an empty system lane `Dequeue` is a turn of the round robin. -/
theorem dequeue_turn (empty : s.outQ .system = []) :
    s.TakesTurn (s.credits.turn s.weights s.ready) := by
  have reloaded := reloadCredit_credits s
  have same : s.reloadCredit.credits.reload s.reloadCredit.weights = s.reloadCredit.credits := by
    rw [reloaded]
    exact reload_reload s.credits s.weights
  have turned := popWeighted_turn s.reloadCredit same
  have turn : s.reloadCredit.credits.turn s.reloadCredit.weights s.reloadCredit.ready =
      s.credits.turn s.weights s.ready := by
    unfold Credits.turn
    rw [same, reloaded]
    rfl
  rw [turn] at turned
  generalize s.credits.turn s.weights s.ready = decided at turned ⊢
  obtain ⟨taken, credits⟩ := decided
  cases taken with
  | none =>
    obtain ⟨nothing, rfl⟩ := turned
    change s.dequeue = _
    unfold dequeue
    rw [pop_empty empty]
    rw [nothing, reloaded]
    rfl
  | some side =>
    obtain ⟨item, rest, queue, popped⟩ := turned
    rw [reloaded] at queue
    refine ⟨item, rest, queue, ?_⟩
    unfold dequeue
    rw [pop_empty empty]
    rw [popped, reloaded]
    rfl

/-- Taking an item in leaves every queue as a prefix, and the credits. -/
theorem enqueue_outQ (s : SessionCore) (item : OutItem) (lane : TrafficClass) :
    (s.enqueue item).outQ lane = s.outQ lane ++ ofLane lane (s.takesIn (.enqueue item)) := by
  cases gate : s.enqueueGate item with
  | ok value =>
    have taken : s.takesIn (.enqueue item) = [item] := by
      simp [takesIn, gate, Except.isOk, Except.toBool]
    unfold enqueue
    rw [gate, taken]
    by_cases same : item.lane = lane
    · subst same
      simp [push, ofLane]
    · have apart : lane ≠ item.lane := fun other => same other.symm
      simp [push, modifyLane, ofLane, same, apart]
  | error error =>
    have refused : s.takesIn (.enqueue item) = [] := by
      simp [takesIn, gate, Except.isOk, Except.toBool]
    unfold enqueue
    rw [gate, refused]
    dsimp only
    split_ifs
    · simp [modifyLane, ofLane]
    · simp [ofLane]

/-- The credits and the weights after `Enqueue`. -/
theorem enqueue_credits (s : SessionCore) (item : OutItem) :
    (s.enqueue item).credits = s.credits ∧ (s.enqueue item).weights = s.weights := by
  unfold enqueue
  split
  · exact ⟨rfl, rfl⟩
  · split_ifs
    · exact ⟨rfl, rfl⟩
    · exact ⟨rfl, rfl⟩

/-- The queues after an item was taken from a lane. -/
theorem dequeued_outQ (s : SessionCore) (lane : TrafficClass) (item : OutItem)
    (rest : List OutItem) (serviceCredit actorCredit : Nat) :
    (s.dequeued lane item rest serviceCredit actorCredit).outQ = Function.update s.outQ lane rest :=
  rfl

/-- What a call returns of a lane was at the head of the lane, and what it takes in is at its end. -/
theorem afterCall_outQ (laned : s.Laned) (call : LaneCall) (lane : TrafficClass) :
    s.outQ lane ++ ofLane lane (s.takesIn call) =
      ofLane lane (s.handsOut call) ++ (s.afterCall call).outQ lane := by
  cases call with
  | enqueue item => exact (s.enqueue_outQ item lane).symm
  | dequeue =>
    unfold takesIn handsOut afterCall
    obtain ⟨service, actor, nothing⟩ | ⟨other, item, rest, service, actor, queue, taken⟩ :=
      dequeue_cases s
    · rw [nothing]
      exact append_nil _
    · have own : item.lane = other := laned other item (by rw [queue]; exact mem_cons_self)
      rw [taken]
      rw [dequeued_outQ]
      by_cases same : lane = other
      · subst same
        simp [ofLane, own, queue]
      · have apart : ¬other = lane := fun equal => same equal.symm
        simp [ofLane, own, same, apart]

/-- A call keeps every item in its own lane. -/
theorem Laned.afterCall (laned : s.Laned) (call : LaneCall) : (s.afterCall call).Laned := by
  intro lane item member
  have held : item ∈ s.outQ lane ++ ofLane lane (s.takesIn call) := by
    rw [afterCall_outQ laned]
    exact mem_append_right _ member
  obtain old | new := mem_append.mp held
  · exact laned lane item old
  · exact of_decide_eq_true (mem_filter.mp new).2

/-- Every lane is first in, first out, and loses nothing. -/
theorem Laned.fifo (laned : s.Laned) (calls : List LaneCall) (lane : TrafficClass) :
    s.outQ lane ++ ofLane lane (s.enqueued calls) =
      ofLane lane (s.returned calls) ++ (s.afterCalls calls).outQ lane := by
  induction calls generalizing s with
  | nil => simp [enqueued, returned, afterCalls, ofLane]
  | cons call calls ih =>
    have one := afterCall_outQ laned call lane
    have more := ih (laned.afterCall call)
    unfold ofLane at one more ⊢
    rw [enqueued, returned, afterCalls, filter_append, filter_append,
      ← append_assoc, one, append_assoc, more, append_assoc]

/-- No side is the system lane. -/
theorem laneOf_ne_system (side : Side) : laneOf side ≠ .system := by
  cases side <;> exact nofun

/-- The two sides have different lanes. -/
theorem laneOf_ne_other (side : Side) : laneOf side ≠ laneOf side.other := by
  cases side <;> exact nofun

/-- A lane that gave nothing away is still ready. -/
theorem ready_of_outQ {next : SessionCore} {more : List OutItem}
    (kept : next.outQ (laneOf side) = s.outQ (laneOf side) ++ more)
    (waits : s.ready side = true) : next.ready side = true := by
  obtain ⟨item, rest, queue⟩ := ready_cons waits
  unfold ready
  rw [kept, queue]
  rfl

/-- A lane is still ready after another lane gave its head away. -/
theorem ready_dequeued
    {serviceCredit actorCredit : Nat} (apart : laneOf side ≠ lane) (waits : s.ready side = true) :
    (s.dequeued lane item rest serviceCredit actorCredit).ready side = true := by
  unfold ready
  rw [dequeued_outQ, Function.update_of_ne apart]
  exact waits

/-- What the bounds of the schedule rest on. -/
structure Scheduled (s : SessionCore) : Prop where
  laned : s.Laned
  positive : s.weights.Positive
  within : s.credits.Within s.weights

/-- A call keeps the weights. -/
theorem afterCall_weights (s : SessionCore) (call : LaneCall) :
    (s.afterCall call).weights = s.weights := by
  cases call with
  | enqueue item => exact (enqueue_credits s item).2
  | dequeue =>
    unfold afterCall
    obtain ⟨service, actor, nothing⟩ | ⟨lane, item, rest, service, actor, -, taken⟩ :=
      dequeue_cases s
    · rw [nothing]
      rfl
    · rw [taken]
      rfl

/-- The credits after a `Dequeue` that finds the system lane empty. -/
theorem dequeue_credits (empty : s.outQ .system = []) :
    s.dequeue.2.credits = (s.credits.turn s.weights s.ready).2 := by
  have turned := dequeue_turn empty
  generalize s.credits.turn s.weights s.ready = decided at turned ⊢
  obtain ⟨taken, credits⟩ := decided
  cases taken with
  | none =>
    rw [turned]
    rfl
  | some side =>
    obtain ⟨item, rest, -, taken⟩ := turned
    rw [taken]
    rfl

/-- A call keeps the schedule. -/
theorem Scheduled.afterCall (scheduled : s.Scheduled) (call : LaneCall) :
    (s.afterCall call).Scheduled where
  laned := scheduled.laned.afterCall call
  positive := by
    rw [afterCall_weights]
    exact scheduled.positive
  within := by
    rw [afterCall_weights]
    cases call with
    | enqueue item =>
      unfold SessionCore.afterCall
      rw [(enqueue_credits s item).1]
      exact scheduled.within
    | dequeue =>
      unfold SessionCore.afterCall
      cases queue : s.outQ .system with
      | nil =>
        rw [dequeue_credits queue]
        exact scheduled.within.turn s.ready
      | cons item rest =>
        rw [dequeue_system queue]
        exact scheduled.within

/-- What a call does while a side is ready: it returns nothing or an item of the system lane and
leaves the credits; or it returns an item of the side; or one of the other side, at its expense. -/
theorem Scheduled.call_cases (scheduled : s.Scheduled) (waits : s.ready side = true)
    (call : LaneCall) :
    (¬(call = .dequeue ∧ s.outQ .system = []) ∧
      (∀ item ∈ s.handsOut call, item.lane = .system) ∧ (s.afterCall call).ready side = true ∧
      (s.afterCall call).credits = s.credits) ∨
    (∃ item, s.handsOut call = [item] ∧ item.lane = laneOf side) ∨
    ∃ item, s.handsOut call = [item] ∧ item.lane = laneOf side.other ∧
      (s.afterCall call).ready side = true ∧
      (s.afterCall call).credits.ahead s.weights side < s.credits.ahead s.weights side := by
  cases call with
  | enqueue item =>
    refine .inl ⟨nofun, nofun, ?_, (enqueue_credits s item).1⟩
    exact ready_of_outQ (enqueue_outQ s item _) waits
  | dequeue =>
    cases queue : s.outQ .system with
    | cons item rest =>
      have own : item.lane = .system :=
        scheduled.laned .system item (by rw [queue]; exact mem_cons_self)
      refine .inl ⟨nofun, ?_, ?_, ?_⟩
      · unfold handsOut
        rw [dequeue_system queue]
        simpa using own
      · change s.dequeue.2.ready side = true
        rw [dequeue_system queue]
        exact ready_dequeued (laneOf_ne_system side) waits
      · change s.dequeue.2.credits = s.credits
        rw [dequeue_system queue]
        rfl
    | nil =>
      have turned := dequeue_turn queue
      have shorter := turn_ahead scheduled.positive s.credits waits
      have after := dequeue_credits queue
      generalize s.credits.turn s.weights s.ready = decided at turned shorter after
      obtain ⟨taken, credits⟩ := decided
      obtain rfl | ⟨rfl, less⟩ := shorter
      · obtain ⟨item, rest, found, popped⟩ := turned
        have own := scheduled.laned _ item (by rw [found]; exact mem_cons_self)
        refine .inr (.inl ⟨item, ?_, own⟩)
        unfold handsOut
        rw [popped]
        rfl
      · obtain ⟨item, rest, found, popped⟩ := turned
        have own := scheduled.laned _ item (by rw [found]; exact mem_cons_self)
        refine .inr (.inr ⟨item, ?_, own, ?_, ?_⟩)
        · unfold handsOut
          rw [popped]
          rfl
        · change s.dequeue.2.ready side = true
          rw [popped]
          exact ready_dequeued (laneOf_ne_other side) waits
        · change s.dequeue.2.credits.ahead s.weights side < _
          rw [after]
          exact less

/-- While a lane that is ready waits, the other one is served no more often than the credits
allow; and `Dequeue` does not find the system lane empty more often than that. -/
theorem Scheduled.waits (scheduled : s.Scheduled) (waits : s.ready side = true)
    (calls : List LaneCall) : ((s.returned calls).takeWhile (·.lane ≠ laneOf side)).countP
        (·.lane = laneOf side.other) ≤ s.credits.ahead s.weights side ∧
      (s.openTurns calls ≤ s.credits.ahead s.weights side ∨
        ∃ item ∈ s.returned calls, item.lane = laneOf side) := by
  induction calls generalizing s with
  | nil => exact ⟨Nat.zero_le _, .inl (Nat.zero_le _)⟩
  | cons call calls ih =>
    have kept := afterCall_weights s call
    rw [returned, openTurns]
    obtain ⟨shut, system, still, same⟩ | ⟨item, handed, own⟩ | ⟨item, handed, other, still, less⟩ :=
      scheduled.call_cases waits call
    · obtain ⟨passed, turns⟩ := ih (scheduled.afterCall call) still
      rw [kept, same] at passed turns
      have apart : ∀ item ∈ s.handsOut call, decide (item.lane ≠ laneOf side) = true := by
        intro item member
        rw [system item member]
        exact decide_eq_true (laneOf_ne_system side).symm
      have none' : (s.handsOut call).countP (·.lane = laneOf side.other) = 0 := by
        rw [countP_eq_zero]
        intro item member
        rw [system item member]
        simpa using (laneOf_ne_system side.other).symm
      rw [takeWhile_append_of_pos apart, countP_append, none', Nat.zero_add, if_neg shut,
        Nat.zero_add]
      refine ⟨passed, turns.imp_right ?_⟩
      rintro ⟨item, member, own⟩
      exact ⟨item, mem_append_right _ member, own⟩
    · rw [handed]
      refine ⟨?_, .inr ⟨item, mem_append_left _ mem_cons_self, own⟩⟩
      simp [own]
    · obtain ⟨passed, turns⟩ := ih (scheduled.afterCall call) still
      rw [kept] at passed turns
      have apart : decide (item.lane ≠ laneOf side) = true := by
        rw [other]
        exact decide_eq_true (laneOf_ne_other side).symm
      rw [handed, singleton_append,
        takeWhile_cons_of_pos (p := fun item : OutItem => item.lane ≠ laneOf side) apart,
        countP_cons_of_pos (p := fun item : OutItem => item.lane = laneOf side.other)
          (decide_eq_true other)]
      refine ⟨by omega, ?_⟩
      obtain few | ⟨found, member, own⟩ := turns
      · left
        split_ifs
        all_goals omega
      · exact .inr ⟨found, mem_cons_of_mem _ member, own⟩

/-- A new session keeps the schedule when both lanes have a share. -/
theorem scheduled_fresh {options : ClientOptions} {epoch : UInt64}
    (service : options.serviceWeight ≠ 0) (actor : options.actorWeight ≠ 0) :
    ({ options, epoch } : SessionCore).Scheduled where
  laned := fun _ _ member => absurd member not_mem_nil
  positive := ⟨service, actor⟩
  within := ⟨Nat.zero_le _, Nat.zero_le _⟩

/-- Any calls keep the schedule. -/
theorem Scheduled.afterCalls (scheduled : s.Scheduled) (calls : List LaneCall) :
    (s.afterCalls calls).Scheduled := by
  induction calls generalizing s with
  | nil => exact scheduled
  | cons call _ ih => exact ih (scheduled.afterCall call)

/-- Any calls keep the weights. -/
theorem afterCalls_weights (s : SessionCore) (calls : List LaneCall) :
    (s.afterCalls calls).weights = s.weights := by
  induction calls generalizing s with
  | nil => rfl
  | cons call calls ih => exact (ih (s.afterCall call)).trans (s.afterCall_weights call)

/-- `Dequeue` returns nothing only when all lanes are empty. -/
theorem dequeue_none : s.dequeue.1 = none ↔ ∀ lane, s.outQ lane = [] := by
  constructor
  · intro nothing
    have system : s.outQ .system = [] := by
      cases queue : s.outQ .system with
      | nil => rfl
      | cons item rest =>
        rw [dequeue_system queue] at nothing
        cases nothing
    have turned := dequeue_turn system
    have untaken : (s.credits.turn s.weights s.ready).1 = none := by
      generalize s.credits.turn s.weights s.ready = decided at turned
      obtain ⟨taken, credits⟩ := decided
      cases taken with
      | none => rfl
      | some side =>
        obtain ⟨item, rest, -, popped⟩ := turned
        rw [popped] at nothing
        cases nothing
    have idle : ∀ side, s.ready side = false := turn_none untaken
    have empty : ∀ side, s.outQ (laneOf side) = [] := by
      intro side
      have waits := idle side
      unfold ready at waits
      simpa using waits
    intro lane
    cases lane with
    | system => exact system
    | service => exact empty .first
    | actor => exact empty .second
  · intro empty
    obtain ⟨service, actor, nothing⟩ | ⟨lane, item, rest, service, actor, queue, -⟩ :=
      dequeue_cases s
    · rw [nothing]
    · rw [empty lane] at queue
      cases queue

/-- The head of a side's lane is returned before the other side had more items than the longest
wait, and no later than by the `Dequeue` behind so many that found the system lane empty. -/
theorem Scheduled.head_returned (scheduled : s.Scheduled) (side : Side)
    (queue : s.outQ (laneOf side) = item :: rest) (calls : List LaneCall) :
    ((s.returned calls).takeWhile (·.lane ≠ laneOf side)).countP
        (·.lane = laneOf side.other) ≤ s.weights.longest side ∧
      (s.weights.longest side < s.openTurns calls →
        (ofLane (laneOf side) (s.returned calls)).head? = some item) := by
  have ready : s.ready side = true := by
    unfold SessionCore.ready
    rw [queue]
    rfl
  have longest := ahead_le scheduled.within side
  obtain ⟨passed, turns⟩ := scheduled.waits ready calls
  refine ⟨passed.trans longest, fun late => ?_⟩
  obtain few | ⟨found, member, own⟩ := turns
  · omega
  · -- what was returned of the lane begins as the lane did
    have order := scheduled.laned.fifo calls (laneOf side)
    have some' : found ∈ ofLane (laneOf side) (s.returned calls) :=
      mem_filter.mpr ⟨member, decide_eq_true own⟩
    cases returned : ofLane (laneOf side) (s.returned calls) with
    | nil =>
      rw [returned] at some'
      cases some'
    | cons first others =>
      rw [returned, queue] at order
      rw [head?_cons, ← (List.cons.inj order).1]

/-- From a new session on: each lane is first in, first out; `Dequeue` fails only when all lanes
are empty; the system lane goes first; and the head of either other lane is passed over no more
often than its bound. -/
theorem lanes_scheduled (options : ClientOptions) (epoch : UInt64)
    (service : options.serviceWeight ≠ 0) (actor : options.actorWeight ≠ 0)
    (calls : List LaneCall) :
    let fresh : SessionCore := { options, epoch }
    let s := fresh.afterCalls calls
    (∀ lane, ofLane lane (fresh.enqueued calls) =
      ofLane lane (fresh.returned calls) ++ s.outQ lane) ∧
    (s.dequeue.1 = none ↔ ∀ lane, s.outQ lane = []) ∧
    (∀ item rest, s.outQ .system = item :: rest → s.dequeue.1 = some item) ∧
    (∀ item rest more, s.outQ .actor = item :: rest →
      ((s.returned more).takeWhile (·.lane ≠ .actor)).countP (·.lane = .service) ≤
        2 * options.serviceWeight ∧
      (2 * options.serviceWeight < s.openTurns more →
        (ofLane .actor (s.returned more)).head? = some item)) ∧
    ∀ item rest more, s.outQ .service = item :: rest →
      ((s.returned more).takeWhile (·.lane ≠ .service)).countP (·.lane = .actor) ≤
        options.actorWeight ∧
      (options.actorWeight < s.openTurns more →
        (ofLane .service (s.returned more)).head? = some item) := by
  intro fresh s
  have begun : fresh.Scheduled := scheduled_fresh service actor
  have scheduled : s.Scheduled := begun.afterCalls calls
  have weights : s.weights = ⟨options.serviceWeight, options.actorWeight⟩ :=
    fresh.afterCalls_weights calls
  refine ⟨begun.laned.fifo calls, dequeue_none, ?_, ?_, ?_⟩
  · intro item rest queue
    rw [dequeue_system queue]
  · intro item rest more queue
    have bound := scheduled.head_returned .second queue more
    rw [weights] at bound
    exact bound
  · intro item rest more queue
    have bound := scheduled.head_returned .first queue more
    rw [weights] at bound
    exact bound

/-- With one turn each, an actor item behind a service item waits for no more than one of them. -/
theorem lanes_scheduled_equal :
    let first : OutItem := { bytes := [1], lane := .service }
    let second : OutItem := { bytes := [2], lane := .actor }
    let options : ClientOptions := { localIdentity := text "a", serviceWeight := 1, actorWeight := 1 }
    let fresh : SessionCore := { options, epoch := 1 }
    let s := fresh.afterCalls [.enqueue first, .enqueue first, .enqueue second, .dequeue]
    s.outQ .actor = [second] ∧
      ∀ more, ((s.returned more).takeWhile (·.lane ≠ .actor)).countP (·.lane = .service) ≤ 2 := by
  intro first second options fresh s
  have queue : s.outQ .actor = [second] := by decide +kernel
  exact ⟨queue, fun more => ((lanes_scheduled options 1 (by decide) (by decide)
    [.enqueue first, .enqueue first, .enqueue second, .dequeue]).2.2.2.1 second [] more queue).1⟩

end SessionCore

end BbtInfra.Rpc
