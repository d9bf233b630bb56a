import BbtInfra.Lib.Census
import BbtInfra.Lib.Machine
import BbtInfra.Rpc.Request

/-!
# The admission queue and its worker

`AdmissionQueueImpl` under any number of readers that admit, callers that close, and the one worker.
A label is one section under `mu`, the call of the handler, its end, or a wake-up. What the worker
does with the reply and the lease behind the handler does not touch the queue and belongs to the
label that ends the handler. Byte counters are integers here, so a subtraction below zero would
show. `admitted` and `handled` record what was taken in and what the handler was called with; no
step reads them.
-/
namespace BbtInfra.Rpc

open Lib List

/-- `AdmissionQueueImpl::ItemBytes`. -/
def itemCharge (request : Request) : Nat :=
  64 + request.payload.length + request.service.length + request.method.length +
    request.requestId.length + request.messageId.length + request.requestSchema.length +
    request.responseSchema.length + request.orderingKey.length +
    (request.metadata.map fun entry => entry.1.length + entry.2.length).sum

/-- Program counters of `AdmissionWorker`. -/
inductive QueueWorkerPc
  /-- Before the section that takes the oldest item. -/
  | looking
  /-- Before the call of the handler. -/
  | holding (request : Request)
  /-- In the handler, or behind it with the reply and the lease. -/
  | handling (request : Request)
  /-- It found nothing; before the section that looks for the end. -/
  | inspecting
  /-- In `signal->Wait`, or in the sleep behind a wait that is not possible. -/
  | waiting
  | exited
  deriving DecidableEq

/-- `AdmissionQueueImpl`. -/
structure AdmissionQueue where
  maxItems : Nat
  maxBytes : Nat
  queue : List Request := []
  bytes : Int := 0
  closed : Bool := false
  queuedItems : TrafficClass → Int := fun _ => 0
  queuedBytes : TrafficClass → Int := fun _ => 0
  worker : QueueWorkerPc := .looking
  admitted : List Request := []
  handled : List Request := []

/-- One step of a party. -/
inductive AdmissionQueueLabel
  /-- The section of `Admit`. -/
  | admitItem (request : Request)
  /-- `Close`. -/
  | close
  /-- The first section of the worker. -/
  | look
  /-- The worker calls the handler. -/
  | call
  /-- The handler returns, or throws when nothing is returned. -/
  | handlerEnds (returned : Option (Except Error Unit))
  /-- The section of the worker behind an empty queue. -/
  | inspect
  /-- The wait ends, whatever its status. -/
  | wake
  deriving DecidableEq

namespace AdmissionQueue

variable {s next : AdmissionQueue}

/-- `Admit` finds the queue full. -/
def overCap (s : AdmissionQueue) (request : Request) : Prop :=
  s.maxItems ≤ s.queue.length ∨ (s.maxBytes : Int) < s.bytes + itemCharge request

instance (s : AdmissionQueue) (request : Request) : Decidable (s.overCap request) := by
  unfold overCap
  infer_instance

/-- `Admit` refuses. -/
def refusal (s : AdmissionQueue) (request : Request) : Option Error :=
  if s.closed then some (err .closed "admission queue closed")
  else if s.overCap request then some (err .overloaded "admission queue full")
  else none

/-- The end of `Admit` that takes the item in. -/
def push (s : AdmissionQueue) (request : Request) : AdmissionQueue :=
  { s with
    queue := s.queue ++ [request]
    bytes := s.bytes + itemCharge request
    queuedItems := Function.update s.queuedItems request.traffic (s.queuedItems request.traffic + 1)
    queuedBytes := Function.update s.queuedBytes request.traffic
      (s.queuedBytes request.traffic + itemCharge request)
    admitted := s.admitted ++ [request] }

/-- The section of `Admit`. -/
def admitItem (s : AdmissionQueue) (request : Request) : Except Error Unit × AdmissionQueue :=
  match s.refusal request with
  | some error => (.error error, s)
  | none => (.ok (), s.push request)

/-- The section in which the worker takes the oldest item; the charge is computed once more. -/
def look (s : AdmissionQueue) : AdmissionQueue :=
  match s.queue with
  | [] => { s with worker := .inspecting }
  | request :: rest =>
    { s with
      queue := rest
      bytes := s.bytes - itemCharge request
      queuedItems :=
        Function.update s.queuedItems request.traffic (s.queuedItems request.traffic - 1)
      queuedBytes := Function.update s.queuedBytes request.traffic
        (s.queuedBytes request.traffic - itemCharge request)
      worker := .holding request }

/-- The steps of the worker. -/
def stepWorker (s : AdmissionQueue) : AdmissionQueueLabel → Option AdmissionQueue
  | .look => if s.worker = .looking then some s.look else none
  | .call =>
    match s.worker with
    | .holding request =>
      some { s with worker := .handling request, handled := s.handled ++ [request] }
    | _ => none
  | .handlerEnds _ =>
    match s.worker with
    | .handling _ => some { s with worker := .looking }
    | _ => none
  | .inspect =>
    if s.worker = .inspecting then
      some { s with worker := if s.closed ∧ s.queue = [] then .exited else .waiting }
    else none
  | .wake => if s.worker = .waiting then some { s with worker := .looking } else none
  | _ => none

/-- One step. -/
def step (s : AdmissionQueue) : AdmissionQueueLabel → Option AdmissionQueue
  | .admitItem request => some (s.admitItem request).2
  | .close => some { s with closed := true }
  | .look => s.stepWorker .look
  | .call => s.stepWorker .call
  | .handlerEnds returned => s.stepWorker (.handlerEnds returned)
  | .inspect => s.stepWorker .inspect
  | .wake => s.stepWorker .wake

/-- A queue as `Create` leaves it. -/
def machine (maxItems maxBytes : Nat) : Machine AdmissionQueue AdmissionQueueLabel where
  start s := s = { maxItems, maxBytes }
  step := step

/-! ## The books -/

/-- The bytes that items are charged. -/
def charge (items : List Request) : Nat := (items.map itemCharge).sum

/-- The items of one lane. -/
def onLane (lane : TrafficClass) (items : List Request) : List Request :=
  items.filter fun request => request.traffic = lane

/-- The charge, item by item. -/
theorem charge_cons (request : Request) (items : List Request) :
    charge (request :: items) = itemCharge request + charge items := by
  simp [charge]

/-- An item more is charged. -/
theorem charge_push (request : Request) (items : List Request) :
    charge (items ++ [request]) = charge items + itemCharge request := by
  simp [charge]

/-- The item that was taken out and with which the handler was not called yet. -/
def inHand (s : AdmissionQueue) : List Request :=
  match s.worker with
  | .holding request => [request]
  | _ => []

/-- What the queue keeps. -/
structure Balanced (s : AdmissionQueue) : Prop where
  bytes : s.bytes = charge s.queue
  items : ∀ lane, s.queuedItems lane = (onLane lane s.queue).length
  laneBytes : ∀ lane, s.queuedBytes lane = charge (onLane lane s.queue)
  fewItems : s.queue.length ≤ s.maxItems
  fewBytes : charge s.queue ≤ s.maxBytes
  order : s.admitted = s.handled ++ s.inHand ++ s.queue
  ended : s.worker = .exited → s.closed = true ∧ s.queue = []

/-- An item that is taken in. -/
theorem Balanced.push (balanced : s.Balanced) {request : Request}
    (accepted : s.refusal request = none) : (s.push request).Balanced := by
  unfold refusal at accepted
  split_ifs at accepted with shut full
  unfold overCap at full
  push Not at full
  have bytes := balanced.bytes
  refine ⟨?_, fun lane => ?_, fun lane => ?_, ?_, ?_, ?_, fun ended => ?_⟩
  · simp only [AdmissionQueue.push, charge_push]
    omega
  · have items := balanced.items lane
    by_cases same : request.traffic = lane
    · subst same
      simp only [AdmissionQueue.push, Function.update_self, onLane, filter_append] at items ⊢
      simp
      omega
    · have apart : lane ≠ request.traffic := fun other => same other.symm
      simp only [AdmissionQueue.push, onLane, filter_append] at items ⊢
      simp [apart, same, items]
  · have items := balanced.laneBytes lane
    by_cases same : request.traffic = lane
    · subst same
      simp only [AdmissionQueue.push, Function.update_self, onLane, filter_append] at items ⊢
      simp [charge_push]
      omega
    · have apart : lane ≠ request.traffic := fun other => same other.symm
      simp only [AdmissionQueue.push, onLane, filter_append] at items ⊢
      simp [apart, same, items]
  · simp only [AdmissionQueue.push, length_append, length_singleton]
    omega
  · simp only [AdmissionQueue.push, charge_push]
    omega
  · change s.admitted ++ [request] = s.handled ++ s.inHand ++ (s.queue ++ [request])
    rw [balanced.order, append_assoc]
  · exact absurd (balanced.ended ended).1 shut

/-- Only the worker moves. -/
theorem Balanced.move (balanced : s.Balanced) {worker : QueueWorkerPc} {handled : List Request}
    (order : s.admitted = handled ++ ({ s with worker, handled } : AdmissionQueue).inHand ++ s.queue)
    (ended : worker = .exited → s.closed = true ∧ s.queue = []) :
    ({ s with worker, handled } : AdmissionQueue).Balanced :=
  ⟨balanced.bytes, balanced.items, balanced.laneBytes, balanced.fewItems, balanced.fewBytes, order,
    ended⟩

/-- The oldest item is taken out. -/
theorem Balanced.look (balanced : s.Balanced) (free : s.worker = .looking) : s.look.Balanced := by
  have order := balanced.order
  unfold inHand at order
  rw [free] at order
  cases queue : s.queue with
  | nil =>
    have found : s.look = { s with worker := .inspecting } := by
      unfold AdmissionQueue.look
      rw [queue]
    rw [found]
    exact balanced.move order nofun
  | cons request rest =>
    have bytes := balanced.bytes
    have few := balanced.fewItems
    have small := balanced.fewBytes
    rw [queue, charge_cons] at bytes small
    rw [queue, length_cons] at few
    unfold AdmissionQueue.look
    rw [queue]
    refine ⟨?_, fun lane => ?_, fun lane => ?_, ?_, ?_, ?_, nofun⟩
    · dsimp only
      omega
    · have items := balanced.items lane
      rw [queue] at items
      by_cases same : request.traffic = lane
      · subst same
        simp only [Function.update_self, onLane, filter_cons, decide_true, if_true] at items ⊢
        rw [items]
        simp
      · have apart : lane ≠ request.traffic := fun other => same other.symm
        simp only [onLane, filter_cons] at items ⊢
        simp [apart, same] at items ⊢
        exact items
    · have items := balanced.laneBytes lane
      rw [queue] at items
      by_cases same : request.traffic = lane
      · subst same
        simp only [Function.update_self, onLane, filter_cons, decide_true, if_true, charge_cons] at items ⊢
        omega
      · have apart : lane ≠ request.traffic := fun other => same other.symm
        simp only [onLane, filter_cons] at items ⊢
        simp [apart, same] at items ⊢
        exact items
    · dsimp only
      omega
    · dsimp only
      omega
    · rw [order, queue]
      simp [inHand]

/-- Every step keeps the books. -/
theorem Balanced.step (balanced : s.Balanced) {label : AdmissionQueueLabel}
    (stepped : s.step label = some next) : next.Balanced := by
  have order := balanced.order
  cases label with
  | admitItem request =>
    cases stepped
    unfold admitItem
    cases refused : s.refusal request with
    | some error => exact balanced
    | none => exact balanced.push refused
  | close =>
    cases stepped
    exact ⟨balanced.bytes, balanced.items, balanced.laneBytes, balanced.fewItems, balanced.fewBytes,
      order, fun ended => ⟨rfl, (balanced.ended ended).2⟩⟩
  | look =>
    obtain ⟨free, rfl⟩ := guarded_some stepped
    exact balanced.look free
  | call =>
    cases worker : s.worker <;> rw [AdmissionQueue.step, stepWorker, worker] at stepped <;> cases stepped
    refine balanced.move ?_ nofun
    simp only [inHand, worker] at order
    rw [order]
    simp [inHand]
  | handlerEnds returned =>
    cases worker : s.worker <;> rw [AdmissionQueue.step, stepWorker, worker] at stepped <;> cases stepped
    refine balanced.move ?_ nofun
    simp only [inHand, worker] at order
    exact order
  | inspect =>
    obtain ⟨looks, rfl⟩ := guarded_some stepped
    simp only [inHand, looks] at order
    split_ifs with shut
    · exact balanced.move order fun _ => shut
    · exact balanced.move order nofun
  | wake =>
    obtain ⟨waits, rfl⟩ := guarded_some stepped
    simp only [inHand, waits] at order
    exact balanced.move order nofun

/-! ## The worker comes to every item -/

/-- Steps of the worker up to its next call of the handler, when something is queued. -/
def stepsToCall : QueueWorkerPc → Nat
  | .looking => 2
  | .holding _ => 1
  | .handling _ => 3
  | .inspecting => 4
  | .waiting => 3
  | .exited => 0

/-- Steps of the worker until the handler was called for the first items that were admitted. -/
def due (s : AdmissionQueue) (count : Nat) : Nat :=
  if s.handled.length < count then 3 * (count - s.handled.length - 1) + stepsToCall s.worker else 0

/-- A step of the worker. -/
def ofWorker : AdmissionQueueLabel → Bool
  | .admitItem _ | .close => false
  | .look | .call | .handlerEnds _ | .inspect | .wake => true

/-- What was admitted stays admitted, and the limits stay. -/
theorem step_admitted {label : AdmissionQueueLabel} (stepped : s.step label = some next) :
    s.admitted <+: next.admitted ∧ next.maxItems = s.maxItems ∧ next.maxBytes = s.maxBytes := by
  have same : s.admitted <+: s.admitted := prefix_refl _
  cases label with
  | admitItem request =>
    cases stepped
    unfold admitItem
    cases s.refusal request with
    | some error => exact ⟨same, rfl, rfl⟩
    | none => exact ⟨prefix_append _ _, rfl, rfl⟩
  | close =>
    cases stepped
    exact ⟨same, rfl, rfl⟩
  | look =>
    obtain ⟨-, rfl⟩ := guarded_some stepped
    unfold look
    split
    · exact ⟨same, rfl, rfl⟩
    · exact ⟨same, rfl, rfl⟩
  | call | handlerEnds returned =>
    cases worker : s.worker <;> rw [AdmissionQueue.step, stepWorker, worker] at stepped <;> cases stepped
    exact ⟨same, rfl, rfl⟩
  | inspect | wake =>
    obtain ⟨-, rfl⟩ := guarded_some stepped
    exact ⟨same, rfl, rfl⟩

/-- A step of the worker brings it closer to every item that is due; no other step takes it away. -/
theorem Balanced.due_step (balanced : s.Balanced) {label : AdmissionQueueLabel} {count : Nat}
    (taken : count ≤ s.admitted.length) (stepped : s.step label = some next) :
    next.due count ≤ s.due count - if ofWorker label then 1 else 0 := by
  have order := congrArg length balanced.order
  rw [length_append, length_append] at order
  cases label with
  | admitItem request =>
    cases stepped
    unfold admitItem
    cases s.refusal request with
    | some | none => exact Nat.le_refl _
  | close =>
    cases stepped
    exact Nat.le_refl _
  | look =>
    obtain ⟨free, rfl⟩ := guarded_some stepped
    simp only [inHand, free, length_nil] at order
    unfold AdmissionQueue.look
    cases queue : s.queue with
    | nil =>
      -- everything that was admitted has been handled
      rw [queue, length_nil] at order
      simp only [due, ofWorker, free]
      split_ifs
      all_goals omega
    | cons request rest =>
      simp only [due, ofWorker, free, stepsToCall]
      split_ifs
      all_goals omega
  | call =>
    cases worker : s.worker <;> rw [AdmissionQueue.step, stepWorker, worker] at stepped <;> cases stepped
    simp only [due, ofWorker, worker, stepsToCall, length_append, length_singleton]
    split_ifs
    all_goals omega
  | handlerEnds returned =>
    cases worker : s.worker <;> rw [AdmissionQueue.step, stepWorker, worker] at stepped <;> cases stepped
    simp only [due, ofWorker, worker, stepsToCall]
    split_ifs
    all_goals omega
  | inspect =>
    obtain ⟨looks, rfl⟩ := guarded_some stepped
    simp only [inHand, looks, length_nil] at order
    simp only [due, ofWorker, looks]
    split_ifs with early ended
    · rw [ended.2, length_nil] at order
      omega
    · simp only [stepsToCall]
      omega
    · omega
  | wake =>
    obtain ⟨waits, rfl⟩ := guarded_some stepped
    simp only [due, ofWorker, waits, stepsToCall]
    split_ifs
    all_goals omega

/-- Along an execution the worker comes closer to what is due with each of its steps. -/
theorem Balanced.due_exec {maxItems maxBytes : Nat} (balanced : s.Balanced) {count : Nat}
    (taken : count ≤ s.admitted.length) {labels : List AdmissionQueueLabel}
    (executed : (machine maxItems maxBytes).exec s labels = some next) :
    next.Balanced ∧ s.admitted <+: next.admitted ∧
      next.due count ≤ s.due count - labels.countP ofWorker := by
  induction labels generalizing s with
  | nil =>
    cases executed
    exact ⟨balanced, prefix_refl _, Nat.le_refl _⟩
  | cons label labels ih =>
    obtain ⟨middle, stepped, rest⟩ := Option.bind_eq_some_iff.mp executed
    have more := (step_admitted stepped).1
    have closer := balanced.due_step taken stepped
    obtain ⟨kept, grown, due⟩ := ih (balanced.step stepped) (taken.trans more.length_le) rest
    refine ⟨kept, more.trans grown, ?_⟩
    rw [countP_cons]
    omega

/-- The worker is never stuck, whatever the handler does. -/
theorem worker_goes (s : AdmissionQueue) (goes : s.worker ≠ .exited)
    (returned : Option (Except Error Unit)) :
    ∃ label ∈ [.look, .call, .handlerEnds returned, .inspect, .wake],
      ofWorker label = true ∧ (s.step label).isSome = true := by
  cases worker : s.worker with
  | looking => exact ⟨.look, by simp, rfl, by simp [step, stepWorker, worker]⟩
  | holding request => exact ⟨.call, by simp, rfl, by simp [step, stepWorker, worker]⟩
  | handling request =>
    exact ⟨.handlerEnds returned, by simp, rfl, by simp [step, stepWorker, worker]⟩
  | inspecting => exact ⟨.inspect, by simp, rfl, by simp [step, stepWorker, worker]⟩
  | waiting => exact ⟨.wake, by simp, rfl, by simp [step, stepWorker, worker]⟩
  | exited => exact absurd worker goes

/-- Every reachable queue keeps the books, under its own limits. -/
theorem reachable_balanced {maxItems maxBytes : Nat}
    (reachable : (machine maxItems maxBytes).Reachable s) :
    s.Balanced ∧ s.maxItems = maxItems ∧ s.maxBytes = maxBytes := by
  apply reachable.invariant
    fun s : AdmissionQueue => s.Balanced ∧ s.maxItems = maxItems ∧ s.maxBytes = maxBytes
  · rintro state rfl
    exact ⟨⟨rfl, fun _ => rfl, fun _ => rfl, Nat.zero_le _, Nat.zero_le _, rfl, nofun⟩, rfl, rfl⟩
  · rintro state label next ⟨balanced, items, bytes⟩ stepped
    obtain ⟨-, sameItems, sameBytes⟩ := step_admitted stepped
    exact ⟨balanced.step stepped, sameItems.trans items, sameBytes.trans bytes⟩

/-- The admission queue: the handler is called with what was admitted, in that order and once each;
an item is refused only when the queue is closed or the item does not fit; the counters are the sums
over the queue; and the worker ends only behind a closed and empty queue. -/
theorem admission_queue_exact (maxItems maxBytes : Nat) (s : AdmissionQueue)
    (reachable : (machine maxItems maxBytes).Reachable s) :
    s.admitted = s.handled ++ s.inHand ++ s.queue ∧
    (∀ labels next, (machine maxItems maxBytes).exec s labels = some next →
      3 * (s.admitted.length - s.handled.length) + 1 ≤ labels.countP ofWorker →
        s.admitted <+: next.handled) ∧
    (s.worker ≠ .exited → ∀ returned,
      ∃ label ∈ [.look, .call, .handlerEnds returned, .inspect, .wake],
        ofWorker label = true ∧ (s.step label).isSome = true) ∧
    (∀ request, (s.admitItem request).1.isOk = false ↔ s.closed = true ∨
      maxItems < s.queue.length + 1 ∨ maxBytes < charge s.queue + itemCharge request) ∧
    (s.bytes = charge s.queue ∧ ∀ lane, s.queuedItems lane = (onLane lane s.queue).length ∧
      s.queuedBytes lane = charge (onLane lane s.queue)) ∧
    (s.worker = .exited → s.closed = true ∧ s.queue = [] ∧ s.handled = s.admitted) := by
  obtain ⟨balanced, items, bytes⟩ := reachable_balanced reachable
  have total := balanced.bytes
  refine ⟨balanced.order, fun labels next executed enough => ?_, s.worker_goes, fun request => ?_,
    ⟨total, fun lane => ⟨balanced.items lane, balanced.laneBytes lane⟩⟩, fun ended => ?_⟩
  · obtain ⟨kept, grown, due⟩ := balanced.due_exec (Nat.le_refl _) executed
    have most : s.due s.admitted.length ≤ 3 * (s.admitted.length - s.handled.length) + 1 := by
      unfold AdmissionQueue.due
      split_ifs
      · cases s.worker
        all_goals
          simp only [stepsToCall]
          omega
      · exact Nat.zero_le _
    have reached : s.admitted.length ≤ next.handled.length := by
      by_contra early
      simp only [AdmissionQueue.due, if_pos (Nat.not_le.mp early)] at due most
      have last : next.worker ≠ .exited := by
        intro ended
        have order := congrArg length kept.order
        have empty := (kept.ended ended).2
        have held := grown.length_le
        simp only [inHand, ended, empty, length_append, length_nil] at order
        omega
      have later : 0 < stepsToCall next.worker := by
        cases worker : next.worker with
        | exited => exact absurd worker last
        | _ => exact Nat.succ_pos _
      omega
    have order := kept.order
    rw [append_assoc] at order
    exact prefix_of_prefix_length_le grown ⟨_, order.symm⟩ reached
  · unfold admitItem
    cases refused : s.refusal request with
    | some error =>
      refine iff_of_true rfl ?_
      unfold refusal at refused
      split_ifs at refused with shut full
      · exact .inl shut
      · unfold overCap at full
        omega
    | none =>
      refine iff_of_false nofun ?_
      unfold refusal at refused
      split_ifs at refused with shut full
      unfold overCap at full
      rintro (closed | many | large)
      · exact shut closed
      · omega
      · omega
  · obtain ⟨shut, empty⟩ := balanced.ended ended
    have order := balanced.order
    simp only [inHand, ended, empty, append_nil] at order
    exact ⟨shut, empty, order.symm⟩

/-- A closed queue whose worker has ended behind a handler that threw. -/
theorem admission_queue_exact_closed : ∃ s : AdmissionQueue,
    (s.worker = .exited ∧ s.admitted = [{ payload := [1] }]) ∧
    (s.worker = .exited → s.closed = true ∧ s.queue = [] ∧ s.handled = s.admitted) := by
  obtain ⟨s, reachable, tested⟩ := Machine.exists_reachable (m := machine 1 100)
    [.admitItem { payload := [1] }, .admitItem {}, .look, .call, .close, .handlerEnds none, .look, .inspect]
    (fun s : AdmissionQueue => decide (s.worker = .exited ∧ s.admitted = [{ payload := [1] }]))
    rfl (by decide +kernel)
  exact ⟨s, of_decide_eq_true tested, (admission_queue_exact 1 100 s reachable).2.2.2.2.2⟩

end AdmissionQueue

end BbtInfra.Rpc
