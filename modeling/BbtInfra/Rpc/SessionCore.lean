import BbtInfra.Lib.Census
import BbtInfra.Rpc.Request

/-!
# A live session and its critical sections

`SessionCore` with everything that `out_mu` and `pending_mu` protect, and the coroutines that
use it: operations (`CallImpl`, `SendImpl`), the writer, the reader, one `Kill`, and replies
that wait for their write. Each function below is one critical section or one atomic
operation of `Session.cc`.

Gauges of the source are unsigned. Here they are integers, so a decrement below zero would
show, and no bound on a count is assumed. Fields that the source does not have record what
happened, for statements; no step reads them: `origin`, `accepted`, `publications`, `heard`,
`late`, `registered`, `handed`, `removals`, `writes`, `unanswered`.
-/
namespace BbtInfra.Rpc

open Lib

/-- `ErrPhase`. -/
def errPhase (code : ErrorCode) (message : String) (phase : RequestPhase) : Error :=
  { err code message with requestPhase := some phase }

/-- `LaneCap`. -/
def laneCap (options : ClientOptions) : TrafficClass → Nat
  | .system => options.systemQueueBytes
  | .service => options.serviceQueueBytes
  | .actor => options.actorQueueBytes

/-- `TrafficStats`: the counters of one outbound lane. -/
structure TrafficStats where
  queued : Int := 0
  dequeued : Nat := 0
  inflight : Int := 0
  finished : Nat := 0
  dropped : Nat := 0
  bytesQueued : Int := 0
  deriving DecidableEq, Repr

/-- `SessionCore::OutItem`. Its deadline only bounds the checkpoint and the write. -/
structure OutItem where
  bytes : Bytes
  lane : TrafficClass
  key : Bytes := []
  /-- The credential of a reply, by its index. -/
  settle : Option Nat := none
  /-- The operation that enqueued the item. -/
  origin : Option Nat := none
  deriving DecidableEq, Repr

/-- How `Complete` and `Fail` end after their frame was enqueued. -/
inductive ReplyEnd
  /-- The wait completed: the settled outcome is returned. -/
  | settled (outcome : Except Error Unit)
  /-- The response did not match its request; the outcome of the write is ignored. -/
  | mismatch
  | timedOut
  | cancelled
  deriving DecidableEq

/-- The waiter of a credential and the coroutine that waits on it. -/
inductive Waiter
  /-- `Wait` has not registered yet; a notification is lost. -/
  | unregistered
  | waiting
  | notified
  | expired
  | cancelled
  | returned (ending : ReplyEnd)
  deriving DecidableEq

/-- `CoWaiter::Notify`, as `docs/decisions/0002-co-network-contract.md` has it: a wait hears it from its
registration on, also before it parks, and a notification that finds no wait is not kept. -/
def Waiter.notify : Waiter → Waiter
  | .waiting => .notified
  | waiter => waiter

/-- What the poster of a reply does with the outcome of the write. -/
inductive Awaits
  /-- `Complete` with a matching response and `Fail` return it. -/
  | result
  /-- `Complete` with a response that does not match waits and ignores it. -/
  | ignored
  /-- `PostReplyErrorNoWait` does not wait. -/
  | nothing
  deriving DecidableEq

/-- `OutItem::Settle`. -/
structure Settle where
  waiter : Waiter := .unregistered
  outcome : Except Error Unit := .ok ()
  settled : Bool := false
  awaits : Awaits
  /-- `Enqueue` took the item. -/
  accepted : Bool := false
  /-- Outcomes published so far. -/
  publications : Nat := 0
  /-- The reply deadline has passed. -/
  late : Bool := false
  /-- At the publication: the wait was registered and had not ended. -/
  heard : Bool := false
  /-- At the publication: the reply deadline had not passed. -/
  inTime : Bool := false
  deriving DecidableEq

/-- `CallImpl`, or `SendImpl` with or without remote acceptance. -/
inductive OperationKind
  | call
  | send (acceptance : Bool)
  deriving DecidableEq, Repr

/-- The two tables of pending operations. -/
inductive PendingTable
  | calls
  | sends
  deriving DecidableEq, Repr

/-- Who took an entry out of its table. -/
inductive Remover
  /-- `DispatchInbound`, with the operation whose frame the peer answered. -/
  | reply (answered : Option Nat)
  /-- `FailItemPending`, with the operation that enqueued the failed item. -/
  | writeFailure (origin : Option Nat)
  /-- `FailPending`. -/
  | kill
  /-- An operation: its refused `Enqueue`, its time-out or its cancellation. -/
  | caller (operation : Nat)
  deriving DecidableEq, Repr

/-- The outcome of a pending operation: a response for a call, nothing for a send. -/
abbrev Outcome := Except Error (Option Response)

/-- Program counters of `CallImpl` and `SendImpl`. -/
inductive OperationPc
  /-- The frame is encoded; before the registration. -/
  | begun
  /-- Before `++inflight`. -/
  | registered
  /-- Before `Enqueue`. -/
  | counted
  /-- `Enqueue` refused; before the entry is erased. -/
  | unregistering (error : Error)
  /-- Before `--inflight` of a refused operation. -/
  | uncounting (error : Error)
  /-- The item is accepted. -/
  | waiting
  /-- Timed out or cancelled, the entry erased; before `--inflight`. -/
  | leaving (cancelled committed : Bool)
  /-- Returned the outcome of its pending object, or the local success of a plain send. -/
  | completed (outcome : Outcome)
  /-- Returned an error of its own. -/
  | failed (error : Error)
  deriving DecidableEq

/-- An operation on this session, with its `PendingCall` or `PendingSend`. -/
structure Operation where
  kind : OperationKind
  request : Request
  bytes : Bytes := []
  pc : OperationPc
  committed : Bool := false
  done : Bool := false
  outcome : Outcome := .error (err .internalError "unset")
  /-- The entry was put into its table. -/
  registered : Bool := false
  /-- The frame was handed to `conn.Write`. -/
  handed : Bool := false
  /-- Who took the entry out of its table, oldest first. -/
  removals : List Remover := []
  /-- Outcomes written so far. -/
  writes : Nat := 0
  deriving DecidableEq

namespace Operation

/-- The table an operation registers in; a plain send registers nowhere. -/
def table (op : Operation) : Option PendingTable :=
  match op.kind with
  | .call => some .calls
  | .send true => some .sends
  | .send false => none

/-- The key of its item and of its entry. -/
def key (op : Operation) : Bytes :=
  match op.kind with
  | .call => op.request.requestId
  | .send _ => op.request.messageId

/-- Its entry is taken out of the table. -/
def removedBy (remover : Remover) (op : Operation) : Operation :=
  { op with removals := op.removals ++ [remover] }

/-- Its outcome is written, then `done`. -/
def publish (outcome : Outcome) (op : Operation) : Operation :=
  { op with outcome, done := true, writes := op.writes + 1 }

/-- The error of a time-out or a cancellation. -/
def expiredError (op : Operation) (cancelled committed : Bool) : Error :=
  let phase := if committed then RequestPhase.requestCommitted else .notStarted
  match op.kind with
  | .call =>
    if cancelled then errPhase .cancelled "call cancelled" phase
    else if committed then
      errPhase .outcomeUnknown "call timed out after commit" .requestCommitted
    else err .timedOut "call timed out"
  | .send _ =>
    if cancelled then errPhase .cancelled "send cancelled" phase
    else if committed then
      errPhase .outcomeUnknown "send acceptance timed out after commit" .requestCommitted
    else err .timedOut "send acceptance timed out"

/-- The outcome that `DispatchInbound` gives a pending call or send for a frame. -/
def answer (op : Operation) (frame : SessionFrame) : Outcome :=
  match op.kind with
  | .call =>
    if frame.hasOutcome ∧ frame.success then
      match responseFromSessionFrame frame with
      | .error _ => .error (errPhase .protocolError "response decode failed" .replyTerminal)
      | .ok response =>
        if frame.service = op.request.service ∧ frame.method = op.request.method ∧
            frame.requestSchema = op.request.requestSchema ∧
            frame.responseSchema = op.request.responseSchema then .ok (some response)
        else .error (errPhase .protocolError "response correlation mismatch" .replyTerminal)
    else if frame.hasOutcome then
      .error { frame.error with
        requestPhase := some (frame.error.requestPhase.getD .replyTerminal) }
    else .error (errPhase .protocolError "response missing outcome" .replyTerminal)
  | .send _ =>
    if frame.hasOutcome ∧ frame.success then .ok none
    else if frame.hasOutcome then .error frame.error
    else .error (errPhase .protocolError "send-accepted missing outcome" .replyTerminal)

/-- Between `++inflight` and the matching `--inflight`. -/
def outstanding (op : Operation) : Bool :=
  match op.pc with
  | .counted | .unregistering _ | .uncounting _ | .waiting | .leaving _ _ => true
  | _ => false

end Operation

/-- An inbound request on its way through `AdmitInbound` and beyond. -/
inductive Inbound
  /-- `++inflight` has run; capacity and queue are still to decide. -/
  | arrived (lane : TrafficClass)
  /-- Refused, `--inflight` has run. -/
  | refused (lane : TrafficClass)
  /-- The admission queue took the item. -/
  | admitted (lane : TrafficClass)
  /-- Its responsibility is finished: the reply is terminal and the lease released, or the
  send is accepted. -/
  | finished (lane : TrafficClass)
  deriving DecidableEq, Repr

/-- Program counters of `WriterLoop`. -/
inductive WriterPc
  | idle
  /-- At the hook checkpoint with an item. -/
  | holding (item : OutItem)
  /-- In `conn.Write`. -/
  | writing (item : OutItem)
  /-- Before `FailItemPending`. -/
  | failing (item : OutItem) (error : Error)
  /-- Before the publication in `NoteWriteSettled`. -/
  | settling (item : OutItem) (outcome : Except Error Unit)
  /-- Before `writes_outstanding` is decremented. -/
  | counting (failed : Bool)
  /-- Before its own `Kill`. -/
  | closing
  | exited
  deriving DecidableEq

/-- Progress of the `Kill` that won the exchange on `dead`. -/
inductive KillPc
  | idle
  /-- `dead` is set; before the critical section that seals and discards. -/
  | marked
  /-- Before `FailPending`. -/
  | sealed
  | completed
  deriving DecidableEq, Repr

/-- `SessionCore`. -/
structure SessionCore where
  options : ClientOptions
  epoch : UInt64
  dead : Bool := false
  outSealed : Bool := false
  outQ : TrafficClass → List OutItem := fun _ => []
  outLanes : TrafficClass → TrafficStats := fun _ => {}
  /-- `rr_credit[1]` and `rr_credit[2]`. -/
  serviceCredit : Nat := 0
  actorCredit : Nat := 0
  writesOutstanding : Int := 0
  /-- `calls` and `sends`: the pending objects by key, each named by its operation. -/
  pending : PendingTable → Table Bytes Nat := fun _ => ∅
  seqCounter : Nat := 1
  settles : List Settle := []
  ops : List Operation := []
  inbound : List Inbound := []
  writer : WriterPc := .idle
  killer : KillPc := .idle
  /-- A pending object that `DispatchInbound` took and has not published yet. -/
  reader : Option (Nat × Outcome) := none
  /-- Operations whose frame was handed to the peer and whose answer has not been read. -/
  unanswered : List Nat := []

namespace SessionCore

/-- Rewrite one operation. -/
def modifyOp (s : SessionCore) (i : Nat) (f : Operation → Operation) : SessionCore :=
  { s with ops := s.ops.modify i f }

/-- An operation moves on. -/
def goto (s : SessionCore) (i : Nat) (pc : OperationPc) : SessionCore :=
  s.modifyOp i fun op => { op with pc }

/-- Rewrite the counters of one lane. -/
def modifyLane (s : SessionCore) (lane : TrafficClass) (f : TrafficStats → TrafficStats) :
    SessionCore :=
  { s with outLanes := Function.update s.outLanes lane (f (s.outLanes lane)) }

/-! ## The outbound queue -/

/-- The end of `Enqueue` that takes the item. -/
def push (s : SessionCore) (item : OutItem) : SessionCore :=
  { s.modifyLane item.lane fun stats =>
      { stats with queued := stats.queued + 1
                   bytesQueued := stats.bytesQueued + item.bytes.length } with
    outQ := Function.update s.outQ item.lane (s.outQ item.lane ++ [item])
    writesOutstanding := s.writesOutstanding + 1 }

/-- The checks of `Enqueue`. -/
def enqueueGate (s : SessionCore) (item : OutItem) : Except Error Unit :=
  if s.outSealed ∨ s.dead then .error (err .closed "session sealed")
  else if (s.outLanes item.lane).bytesQueued + item.bytes.length > laneCap s.options item.lane then
    .error (err .overloaded "lane queue full")
  else .ok ()

/-- `Enqueue`; only a full lane counts a drop. -/
def enqueue (s : SessionCore) (item : OutItem) : SessionCore :=
  match s.enqueueGate item with
  | .ok () => s.push item
  | .error error =>
    if error.code = .overloaded then
      s.modifyLane item.lane fun stats => { stats with dropped := stats.dropped + 1 }
    else s

/-- `TakeQueuedLocked` on a lane that starts with this item. -/
def takeQueued (s : SessionCore) (lane : TrafficClass) (item : OutItem) (rest : List OutItem) :
    SessionCore :=
  { s.modifyLane lane fun stats =>
      { stats with queued := stats.queued - 1
                   bytesQueued := stats.bytesQueued - item.bytes.length } with
    outQ := Function.update s.outQ lane rest }

/-- `pop` of `Dequeue`. -/
def pop (s : SessionCore) (lane : TrafficClass) : Option (OutItem × SessionCore) :=
  match s.outQ lane with
  | [] => none
  | item :: rest =>
    some (item, (s.takeQueued lane item rest).modifyLane lane fun stats =>
      { stats with dequeued := stats.dequeued + 1 })

/-- The credits of one round are reloaded when both are used up. -/
def reloadCredit (s : SessionCore) : SessionCore :=
  if s.serviceCredit = 0 ∧ s.actorCredit = 0 then
    { s with serviceCredit := s.options.serviceWeight, actorCredit := s.options.actorWeight }
  else s

/-- The weighted choice between the service lane and the actor lane. -/
def popWeighted (s : SessionCore) : Option (OutItem × SessionCore) :=
  match (if s.serviceCredit ≠ 0 then s.pop .service else none) with
  | some (item, next) => some (item, { next with serviceCredit := next.serviceCredit - 1 })
  | none =>
    match (if s.actorCredit ≠ 0 then s.pop .actor else none) with
    | some (item, next) => some (item, { next with actorCredit := next.actorCredit - 1 })
    | none => (s.pop .service).or (s.pop .actor)

/-- `Dequeue`: the system lane first. An empty queue still reloads the credits. -/
def dequeue (s : SessionCore) : Option OutItem × SessionCore :=
  match s.pop .system with
  | some (item, next) => (some item, next)
  | none =>
    match s.reloadCredit.popWeighted with
    | some (item, next) => (some item, next)
    | none => (none, s.reloadCredit)

/-- The session after an item left the head of a lane for the writer. -/
def dequeued (s : SessionCore) (lane : TrafficClass) (item : OutItem) (rest : List OutItem)
    (serviceCredit actorCredit : Nat) : SessionCore :=
  { (s.takeQueued lane item rest).modifyLane lane fun stats =>
      { stats with dequeued := stats.dequeued + 1 } with serviceCredit, actorCredit }

/-- `pop` takes the first item of its lane. -/
theorem pop_some {s next : SessionCore} {lane : TrafficClass} {item : OutItem}
    (popped : s.pop lane = some (item, next)) :
    ∃ rest, s.outQ lane = item :: rest ∧
      next = s.dequeued lane item rest s.serviceCredit s.actorCredit := by
  unfold pop at popped
  cases queue : s.outQ lane with
  | nil => simp [queue] at popped
  | cons first rest =>
    simp only [queue, Option.some.injEq, Prod.mk.injEq] at popped
    obtain ⟨rfl, rfl⟩ := popped
    exact ⟨rest, rfl, rfl⟩

/-- So does the weighted choice, which may use up a credit. -/
theorem popWeighted_some {s next : SessionCore} {item : OutItem}
    (popped : s.popWeighted = some (item, next)) :
    ∃ lane rest serviceCredit actorCredit, s.outQ lane = item :: rest ∧
      next = s.dequeued lane item rest serviceCredit actorCredit := by
  unfold popWeighted at popped
  cases service : if s.serviceCredit ≠ 0 then s.pop .service else none with
  | some taken =>
    rw [service] at popped
    split_ifs at service
    obtain ⟨rest, queue, same⟩ := pop_some service
    obtain ⟨rfl, rfl⟩ := popped
    exact ⟨_, rest, _, _, queue, by rw [same]; rfl⟩
  | none =>
    rw [service] at popped
    cases actor : if s.actorCredit ≠ 0 then s.pop .actor else none with
    | some taken =>
      rw [actor] at popped
      split_ifs at actor
      obtain ⟨rest, queue, same⟩ := pop_some actor
      obtain ⟨rfl, rfl⟩ := popped
      exact ⟨_, rest, _, _, queue, by rw [same]; rfl⟩
    | none =>
      rw [actor] at popped
      rcases Option.or_eq_some_iff.mp popped with found | ⟨-, found⟩
      · obtain ⟨rest, queue, same⟩ := pop_some found
        exact ⟨_, rest, _, _, queue, same⟩
      · obtain ⟨rest, queue, same⟩ := pop_some found
        exact ⟨_, rest, _, _, queue, same⟩

/-- Reloading changes credits only. -/
theorem reloadCredit_eq (s : SessionCore) :
    ∃ serviceCredit actorCredit, s.reloadCredit = { s with serviceCredit, actorCredit } := by
  unfold reloadCredit
  split_ifs
  · exact ⟨_, _, rfl⟩
  · exact ⟨s.serviceCredit, s.actorCredit, rfl⟩

/-- Everything `Dequeue` can do: find nothing, or take the head of one lane. -/
theorem dequeue_cases (s : SessionCore) :
    (∃ serviceCredit actorCredit, s.dequeue = (none, { s with serviceCredit, actorCredit })) ∨
      ∃ lane item rest serviceCredit actorCredit, s.outQ lane = item :: rest ∧
        s.dequeue = (some item, s.dequeued lane item rest serviceCredit actorCredit) := by
  unfold dequeue
  cases system : s.pop .system with
  | some taken =>
    obtain ⟨item, next⟩ := taken
    obtain ⟨rest, queue, rfl⟩ := pop_some system
    exact .inr ⟨_, item, rest, _, _, queue, rfl⟩
  | none =>
    obtain ⟨serviceCredit, actorCredit, reloaded⟩ := reloadCredit_eq s
    cases weighted : s.reloadCredit.popWeighted with
    | some taken =>
      obtain ⟨item, next⟩ := taken
      obtain ⟨lane, rest, service, actor, queue, rfl⟩ := popWeighted_some weighted
      rw [reloaded] at queue
      rw [reloaded]
      exact .inr ⟨lane, item, rest, service, actor, queue, rfl⟩
    | none =>
      rw [reloaded]
      exact .inl ⟨serviceCredit, actorCredit, rfl⟩

/-- The first half of `NoteWriteSettled`: the outcome of a credential is published once. -/
def publishSettle (s : SessionCore) (item : OutItem) (outcome : Except Error Unit) : SessionCore :=
  match item.settle with
  | none => s
  | some credential =>
    { s with settles := s.settles.modify credential fun settle =>
        if settle.settled then settle
        else { settle with settled := true, outcome, waiter := settle.waiter.notify
                           publications := settle.publications + 1
                           heard := decide (settle.waiter = .waiting)
                           inTime := !settle.late } }

/-- The second half of `NoteWriteSettled`. -/
def countSettled (s : SessionCore) : SessionCore :=
  { s with writesOutstanding := s.writesOutstanding - 1 }

/-- `Kill` throws the first item of a lane away. -/
def discardHead (s : SessionCore) (lane : TrafficClass) : SessionCore :=
  match s.outQ lane with
  | [] => s
  | item :: rest =>
    (((s.takeQueued lane item rest).modifyLane lane fun stats =>
      { stats with dropped := stats.dropped + 1 }).publishSettle item
        (.error (err .closed "session killed before reply write"))).countSettled

/-- The `while` loop of `Kill` over one lane. -/
def discardLane (s : SessionCore) (lane : TrafficClass) : SessionCore :=
  (s.outQ lane).foldl (fun s _ => s.discardHead lane) s

/-- The critical section of `Kill` under `out_mu`. -/
def sealOut (s : SessionCore) : SessionCore :=
  (({ s with outSealed := true, killer := .sealed }.discardLane .system).discardLane
    .service).discardLane .actor

/-! ## The pending tables -/

/-- `calls.find(key)`, then `sends.find(key)`. -/
def findPending (s : SessionCore) (key : Bytes) : Option (PendingTable × Nat) :=
  match (s.pending .calls).lookup key with
  | some i => some (.calls, i)
  | none => ((s.pending .sends).lookup key).map fun i => (.sends, i)

/-- `calls[key] = pending` or `sends[key] = pending`. -/
def insertPending (s : SessionCore) (table : PendingTable) (key : Bytes) (i : Nat) : SessionCore :=
  { s.modifyOp i fun op => { op with registered := true } with
    pending := Function.update s.pending table ((s.pending table).insert key i) }

/-- `erase` of a key, whoever registered it. -/
def erasePending (s : SessionCore) (table : PendingTable) (key : Bytes) (remover : Remover) :
    SessionCore :=
  match (s.pending table).lookup key with
  | none => s
  | some i =>
    { s.modifyOp i (Operation.removedBy remover) with
      pending := Function.update s.pending table ((s.pending table).erase key) }

/-- An entry gets its outcome and `done`, and is erased, in one critical section. -/
def settlePending (s : SessionCore) (table : PendingTable) (key : Bytes) (remover : Remover)
    (outcome : Operation → Outcome) : SessionCore :=
  match (s.pending table).lookup key with
  | none => s
  | some i => (s.erasePending table key remover).modifyOp i fun op => op.publish (outcome op)

/-- `FailItemPending`. -/
def failItemPending (s : SessionCore) (item : OutItem) (error : Error) : SessionCore :=
  if item.key = [] then s
  else
    match s.findPending item.key with
    | none => s
    | some (table, _) =>
      s.settlePending table item.key (.writeFailure item.origin) fun _ => .error error

/-- `SettledPendingError(true, committed, error)`. -/
def settledPendingError (committed : Bool) : Error :=
  if committed then errPhase .outcomeUnknown "session lost after commit" .requestCommitted
  else err .closed "session closed before commit"

/-- One loop of `FailPending({}, true)`. -/
def failTable (s : SessionCore) (table : PendingTable) : SessionCore :=
  (s.pending table).keys.foldl
    (fun s key => s.settlePending table key .kill fun op => .error (settledPendingError op.committed))
    s

/-- `FailPending({}, true)`. -/
def failPending (s : SessionCore) : SessionCore :=
  { (s.failTable .calls).failTable .sends with killer := .completed }

/-- `DispatchInbound` takes the pending object of a frame out of its table. -/
def takePending (s : SessionCore) (table : PendingTable) (key : Bytes) (answered : Option Nat)
    (frame : SessionFrame) : SessionCore :=
  match (s.pending table).lookup key with
  | none => s
  | some i =>
    { s.erasePending table key (.reply answered) with
      reader := s.ops[i]?.map fun op => (i, op.answer frame) }

/-- The writer takes the send responsibility of an item: the pending object under its key is
marked committed. -/
def markCommitted (s : SessionCore) (item : OutItem) : SessionCore :=
  if item.key = [] then s
  else
    match s.findPending item.key with
    | none => s
    | some (_, i) => s.modifyOp i fun op => { op with committed := true }

/-- After the mark the bytes go to `conn.Write`. -/
def commitItem (s : SessionCore) (item : OutItem) : SessionCore :=
  match item.origin with
  | none => s.markCommitted item
  | some origin =>
    { (s.markCommitted item).modifyOp origin fun op => { op with handed := true } with
      unanswered := s.unanswered ++ [origin] }

end SessionCore

end BbtInfra.Rpc
