import BbtInfra.Lib.Machine
import BbtInfra.Rpc.SessionCore

/-!
# A session under any interleaving

The machine of one `SessionCore`. A label is one critical section or one atomic operation of
one coroutine, with every choice the environment makes in it: what the clock, the network, the
hooks, the peer and the callers do. Encoding runs on data of one caller only, so it belongs to
the label that starts the operation.

`conn.Write` is called right after the section that marks the pending object committed; nothing
shared lies between, so the mark and the hand-over are one label.
-/
namespace BbtInfra.Rpc

open Lib Option

/-- One step of one party of a session. -/
inductive SessionLabel
  /-- A caller has found this session and encodes its frame. -/
  | submit (kind : OperationKind) (request : Request) (budget : UInt32)
  /-- The registration under `pending_mu`. -/
  | register (op : Nat)
  /-- `++inflight`. -/
  | count (op : Nat)
  /-- `Enqueue` of an operation. -/
  | enqueue (op : Nat)
  /-- A refused operation erases its entry. -/
  | unregister (op : Nat)
  /-- `--inflight` of a refused operation. -/
  | uncount (op : Nat)
  /-- A wait completed, or a plain send is accepted locally. -/
  | complete (op : Nat)
  /-- A wait ended without a notification: the entry is erased. -/
  | expire (op : Nat) (cancelled : Bool)
  /-- `--inflight` after a time-out or a cancellation. -/
  | leave (op : Nat)
  /-- `DispatchInbound` of a Response or SendAccepted frame, with the operation it answers. -/
  | dispatch (frame : SessionFrame) (answered : Option Nat)
  /-- `DispatchInbound` writes the outcome and `done`, and notifies. -/
  | publish
  /-- `Dequeue`, with or without an item. -/
  | dequeue
  /-- The writer sees `dead` after an empty `Dequeue`. -/
  | writerExit
  /-- The checkpoint failed, or something threw before the commit. -/
  | gateFails (error : Error)
  /-- The checkpoint passed: the item is committed and handed to `conn.Write`. -/
  | commit
  /-- `conn.Write` ended: written, failed, or thrown. -/
  | written (outcome : Except Error Unit)
  /-- `FailItemPending` of the writer. -/
  | failItem
  /-- `NoteWriteSettled` of the writer publishes. -/
  | settle
  /-- `NoteWriteSettled` of the writer decrements `writes_outstanding`. -/
  | countSettled
  /-- The writer calls `Kill` after a failure and returns. -/
  | writerKill
  /-- Somebody wins the exchange on `dead`. -/
  | kill
  /-- `Kill` seals the queue and discards it. -/
  | sealOut
  /-- `Kill` runs `FailPending`. -/
  | failPending
  /-- A reply or a session error is enqueued; `awaits` is absent for a session error. -/
  | post (lane : TrafficClass) (bytes : Bytes) (awaits : Option Awaits)
  /-- The wait of a reply registers. -/
  | registerWait (credential : Nat)
  /-- The wait of a reply ends at its deadline or by cancellation. -/
  | endWait (credential : Nat) (cancelled : Bool)
  /-- The deadline of a reply passes. -/
  | passDeadline (credential : Nat)
  /-- `Complete` or `Fail` returns. -/
  | returnReply (credential : Nat)
  /-- `AdmitInbound` runs `++inflight`. -/
  | arrive (lane : TrafficClass)
  /-- `AdmitInbound` refuses and runs `--inflight`. -/
  | refuse (item : Nat)
  /-- The admission queue takes the item. -/
  | accept (item : Nat)
  /-- The responsibility for an admitted item is finished. -/
  | finish (item : Nat)
  deriving DecidableEq

namespace SessionCore

/-- The caller left the id of its operation empty. -/
def unnamed (kind : OperationKind) (request : Request) : Bool :=
  match kind with
  | .call => request.requestId = []
  | .send _ => request.messageId = []

/-- `request_id` or `message_id` as the caller gave it, or a generated one. -/
def nameRequest (s : SessionCore) (kind : OperationKind) (request : Request) : Request :=
  if unnamed kind request then
    match kind with
    | .call => { request with requestId := text ("r" ++ toString s.seqCounter) }
    | .send _ => { request with messageId := text ("m" ++ toString s.seqCounter) }
  else request

/-- `ToSessionFrame` and `EncodeFramedSessionFrame` of an operation. -/
def encodeRequest (protobuf : Protobuf) (s : SessionCore) (kind : OperationKind)
    (request : Request) (budget : UInt32) : Except Error Bytes := do
  let frame ← match kind with
    | .call => toSessionFrame request .call s.epoch budget none
    | .send acceptance =>
      toSessionFrame request .send s.epoch budget (if acceptance then some true else none)
  encodeFramedSessionFrame protobuf frame s.options.maxFrameBytes

/-- The traffic class and reply mode an operation may have. -/
def operationGate (kind : OperationKind) (request : Request) : Except Error Unit :=
  match kind with
  | .call => Rpc.refuse (request.traffic = .system ∨ request.reply ≠ .required)
      (err .invalidArgument "Call requires Service/Actor + ReplyRequired")
  | .send _ => Rpc.refuse (request.traffic = .system ∨ request.reply ≠ .none)
      (err .invalidArgument "Send requires Service/Actor + ReplyNone")

/-- The operation once its frame is encoded, or refused by the encoder. -/
def newOperation (protobuf : Protobuf) (s : SessionCore) (kind : OperationKind)
    (request : Request) (budget : UInt32) : Operation :=
  match s.encodeRequest protobuf kind request budget with
  | .error error => { kind, request, pc := .failed error }
  | .ok bytes => { kind, request, bytes, pc := .begun }

/-- The private part of `CallImpl` and `SendImpl` before the registration. -/
def submit (protobuf : Protobuf) (s : SessionCore) (kind : OperationKind) (request : Request)
    (budget : UInt32) : SessionCore :=
  match operationGate kind request with
  | .error error => { s with ops := s.ops ++ [{ kind, request, pc := .failed error }] }
  | .ok () =>
    { s with
      ops := s.ops ++ [s.newOperation protobuf kind (s.nameRequest kind request) budget]
      seqCounter := if unnamed kind request then s.seqCounter + 1 else s.seqCounter }

/-- The registration: `dead` is checked under the lock, then the key. -/
def register (s : SessionCore) (i : Nat) (op : Operation) : SessionCore :=
  match op.table with
  | none => s.goto i .registered
  | some table =>
    if s.dead then s.goto i (.failed (err .closed "session fenced during dial"))
    else if ((s.pending table).lookup op.key).isSome then
      s.goto i (.failed (match op.kind with
        | .call => err .invalidArgument "duplicate request_id on session"
        | .send _ => err .invalidArgument "duplicate message_id on session"))
    else (s.insertPending table op.key i).goto i .registered

/-- The item of an operation. -/
def itemOf (i : Nat) (op : Operation) : OutItem where
  bytes := op.bytes
  lane := op.request.traffic
  key := op.key
  origin := some i

/-- `Enqueue` of an operation; a refused plain send has no entry to erase. -/
def enqueueOp (s : SessionCore) (i : Nat) (op : Operation) : SessionCore :=
  let next := s.enqueue (itemOf i op)
  match s.enqueueGate (itemOf i op) with
  | .ok () => next.goto i .waiting
  | .error error =>
    next.goto i (if op.table.isSome then .unregistering error else .uncounting error)

/-- The operation erases whatever stands under its key. -/
def eraseOwn (s : SessionCore) (i : Nat) (op : Operation) : SessionCore :=
  match op.table with
  | none => s
  | some table => s.erasePending table op.key (.caller i)

/-- `++inflight`. -/
def gainInflight (s : SessionCore) (lane : TrafficClass) : SessionCore :=
  s.modifyLane lane fun stats => { stats with inflight := stats.inflight + 1 }

/-- `--inflight`. -/
def loseInflight (s : SessionCore) (lane : TrafficClass) : SessionCore :=
  s.modifyLane lane fun stats => { stats with inflight := stats.inflight - 1 }

/-- `++finished`. -/
def countFinished (s : SessionCore) (lane : TrafficClass) : SessionCore :=
  s.modifyLane lane fun stats => { stats with finished := stats.finished + 1 }

/-- `++dropped`. -/
def countDropped (s : SessionCore) (lane : TrafficClass) : SessionCore :=
  s.modifyLane lane fun stats => { stats with dropped := stats.dropped + 1 }

/-- `DispatchInbound` of a Response or SendAccepted frame. -/
def dispatch (s : SessionCore) (frame : SessionFrame) (answered : Option Nat) :
    Option SessionCore :=
  if frame.sessionEpoch ≠ 0 ∧ frame.sessionEpoch ≠ s.epoch then
    some (s.countDropped frame.traffic)
  else
    let next := { s with unanswered := s.unanswered.filter fun i => some i ≠ answered }
    match frame.kind with
    | .response => some (next.takePending .calls frame.requestId answered frame)
    | .sendAccepted => some (next.takePending .sends frame.messageId answered frame)
    | _ => none

/-- The critical section of a reply's `Enqueue`, with its credential. -/
def post (s : SessionCore) (lane : TrafficClass) (bytes : Bytes) (awaits : Option Awaits) :
    SessionCore :=
  match awaits with
  | none => s.enqueue { bytes, lane }
  | some awaits =>
    let item : OutItem := { bytes, lane, settle := some s.settles.length }
    let accepted := (s.enqueueGate item).isOk
    { s.enqueue item with settles := s.settles ++ [{ awaits, accepted }] }

/-- How a reply's wait ended. -/
def replyEnd (settle : Settle) : Option ReplyEnd :=
  match settle.awaits with
  | .nothing => none
  | .ignored =>
    match settle.waiter with
    | .notified | .expired | .cancelled => some .mismatch
    | _ => none
  | .result =>
    match settle.waiter with
    | .notified => some (.settled settle.outcome)
    | .expired => some .timedOut
    | .cancelled => some .cancelled
    | _ => none

/-- Rewrite one credential. -/
def modifySettle (s : SessionCore) (credential : Nat) (f : Settle → Settle) : SessionCore :=
  { s with settles := s.settles.modify credential f }

/-- Rewrite one inbound request. -/
def setInbound (s : SessionCore) (item : Nat) (state : Inbound) : SessionCore :=
  { s with inbound := s.inbound.set item state }

/-- The steps of an operation. -/
def stepOp (s : SessionCore) (i : Nat) (op : Operation) : SessionLabel → Option SessionCore
  | .register _ => if op.pc = .begun then some (s.register i op) else none
  | .count _ =>
    if op.pc = .registered then some ((s.gainInflight op.request.traffic).goto i .counted)
    else none
  | .enqueue _ => if op.pc = .counted then some (s.enqueueOp i op) else none
  | .unregister _ =>
    match op.pc with
    | .unregistering error => some ((s.eraseOwn i op).goto i (.uncounting error))
    | _ => none
  | .uncount _ =>
    match op.pc with
    | .uncounting error =>
      some ((s.loseInflight op.request.traffic).goto i (.failed error))
    | _ => none
  | .complete _ =>
    if op.pc = .waiting then
      let next := (s.loseInflight op.request.traffic).countFinished op.request.traffic
      if op.table = none then some (next.goto i (.completed (.ok none)))
      else if op.done then some (next.goto i (.completed op.outcome))
      else none
    else none
  | .expire _ cancelled =>
    if op.pc = .waiting ∧ op.table.isSome then
      some ((s.eraseOwn i op).goto i (.leaving cancelled op.committed))
    else none
  | .leave _ =>
    match op.pc with
    | .leaving cancelled committed =>
      let committed := if op.kind = .call then committed else op.committed
      some (((s.loseInflight op.request.traffic).countDropped op.request.traffic).goto i
        (.failed (op.expiredError cancelled committed)))
    | _ => none
  | _ => none

/-- The steps of the writer. -/
def stepWriter (s : SessionCore) : SessionLabel → Option SessionCore
  | .dequeue =>
    if s.writer = .idle then
      match s.dequeue with
      | (none, next) => some next
      | (some item, next) => some { next with writer := .holding item }
    else none
  | .writerExit => if s.writer = .idle ∧ s.dead then some { s with writer := .exited } else none
  | .gateFails error =>
    match s.writer with
    | .holding item => some { s with writer := .failing item error }
    | _ => none
  | .commit =>
    match s.writer with
    | .holding item => some { s.commitItem item with writer := .writing item }
    | _ => none
  | .written outcome =>
    match s.writer with
    | .writing item =>
      match outcome with
      | .ok () => some { s with writer := .settling item (.ok ()) }
      | .error error => some { s with writer := .failing item error }
    | _ => none
  | .failItem =>
    match s.writer with
    | .failing item error =>
      some { s.failItemPending item error with writer := .settling item (.error error) }
    | _ => none
  | .settle =>
    match s.writer with
    | .settling item outcome =>
      some { s.publishSettle item outcome with writer := .counting (!outcome.isOk) }
    | _ => none
  | .countSettled =>
    match s.writer with
    | .counting failed => some { s.countSettled with writer := if failed then .closing else .idle }
    | _ => none
  | .writerKill =>
    if s.writer = .closing then
      if s.dead then some { s with writer := .exited }
      else some { s with dead := true, killer := .marked, writer := .exited }
    else none
  | _ => none

/-- The steps of `Kill`. -/
def stepKill (s : SessionCore) : SessionLabel → Option SessionCore
  | .kill => if s.dead then none else some { s with dead := true, killer := .marked }
  | .sealOut => if s.killer = .marked then some s.sealOut else none
  | .failPending => if s.killer = .sealed then some s.failPending else none
  | _ => none

/-- The steps of a reply after its `Enqueue`. -/
def stepReply (s : SessionCore) (credential : Nat) (settle : Settle) :
    SessionLabel → Option SessionCore
  | .registerWait _ =>
    if settle.waiter = .unregistered ∧ settle.accepted ∧ settle.awaits ≠ .nothing then
      some (s.modifySettle credential fun settle => { settle with waiter := .waiting })
    else none
  | .endWait _ cancelled =>
    if settle.accepted ∧ settle.awaits ≠ .nothing ∧
        (settle.waiter = .unregistered ∨ settle.waiter = .waiting) then
      some (s.modifySettle credential fun settle =>
        { settle with waiter := if cancelled then .cancelled else .expired })
    else none
  | .passDeadline _ => some (s.modifySettle credential fun settle => { settle with late := true })
  | .returnReply _ =>
    match replyEnd settle with
    | none => none
    | some ending =>
      some (s.modifySettle credential fun settle => { settle with waiter := .returned ending })
  | _ => none

/-- The steps of an inbound request at the in-flight gauge. -/
def stepInbound (s : SessionCore) (item : Nat) (state : Inbound) :
    SessionLabel → Option SessionCore
  | .refuse _ =>
    match state with
    | .arrived lane =>
      some (((s.countDropped lane).loseInflight lane).setInbound item (.refused lane))
    | _ => none
  | .accept _ =>
    match state with
    | .arrived lane => some (s.setInbound item (.admitted lane))
    | _ => none
  | .finish _ =>
    match state with
    | .admitted lane => some (s.setInbound item (.finished lane))
    | _ => none
  | _ => none

/-- One step of a session. -/
def step (protobuf : Protobuf) (s : SessionCore) (label : SessionLabel) : Option SessionCore :=
  match label with
  | .submit kind request budget => some (s.submit protobuf kind request budget)
  | .register i | .count i | .enqueue i | .unregister i | .uncount i | .complete i | .expire i _
  | .leave i => s.ops[i]?.bind fun op => s.stepOp i op label
  | .dispatch frame answered => if s.reader = none then s.dispatch frame answered else none
  | .publish =>
    s.reader.map fun taken =>
      { s.modifyOp taken.1 (Operation.publish taken.2) with reader := none }
  | .dequeue | .writerExit | .gateFails _ | .commit | .written _ | .failItem | .settle
  | .countSettled | .writerKill => s.stepWriter label
  | .kill | .sealOut | .failPending => s.stepKill label
  | .post lane bytes awaits => some (s.post lane bytes awaits)
  | .registerWait c | .endWait c _ | .passDeadline c | .returnReply c =>
    s.settles[c]?.bind fun settle => s.stepReply c settle label
  | .arrive lane =>
    some { s.gainInflight lane with inbound := s.inbound ++ [.arrived lane] }
  | .refuse j | .accept j | .finish j => s.inbound[j]?.bind fun state => s.stepInbound j state label

/-- A session as `InstallSession` starts it: nothing queued, nothing pending. -/
def machine (protobuf : Protobuf) (options : ClientOptions) (epoch : UInt64) :
    Machine SessionCore SessionLabel where
  start s := s = { options, epoch }
  step s label := s.step protobuf label

/-- An operation before any of its steps: nothing is registered, committed or settled. -/
structure OperationFresh (op : Operation) : Prop where
  pc : op.pc = .begun ∨ ∃ error, op.pc = .failed error
  key : op.pc = .begun → op.key ≠ []
  committed : op.committed = false
  done : op.done = false
  registered : op.registered = false
  handed : op.handed = false
  removals : op.removals = []
  writes : op.writes = 0
  outcome : op.outcome = .error (err .internalError "unset")

/-- A named operation has a key. -/
theorem nameRequest_key (s : SessionCore) (kind : OperationKind) (request : Request) :
    unnamed kind (s.nameRequest kind request) = false := by
  unfold nameRequest
  cases named : unnamed kind request with
  | false => simpa using named
  | true =>
    cases kind with
    | call | send => simpa [unnamed, text] using fun first => absurd first (by decide)

/-- A new operation is fresh, and has a key when it goes on. -/
theorem submit_spec (protobuf : Protobuf) (s : SessionCore) (kind : OperationKind)
    (request : Request) (budget : UInt32) :
    ∃ op seqCounter, s.submit protobuf kind request budget =
      { s with ops := s.ops ++ [op], seqCounter } ∧ OperationFresh op := by
  unfold submit
  cases operationGate kind request with
  | error error =>
    exact ⟨_, s.seqCounter, rfl, .inr ⟨error, rfl⟩, (fun begun => by cases begun), rfl, rfl, rfl,
      rfl, rfl, rfl, rfl⟩
  | ok value =>
    refine ⟨_, _, rfl, ?_⟩
    have named := nameRequest_key s kind request
    unfold newOperation
    cases s.encodeRequest protobuf kind (s.nameRequest kind request) budget with
    | error error =>
      exact ⟨.inr ⟨error, rfl⟩, (fun begun => by cases begun), rfl, rfl, rfl, rfl, rfl, rfl, rfl⟩
    | ok bytes =>
      refine ⟨.inl rfl, fun _ => ?_, rfl, rfl, rfl, rfl, rfl, rfl, rfl⟩
      cases kind <;> simpa [unnamed, Operation.key] using named

/-- What a registration can do: nothing for a plain send, fail, or put the entry into a table
that has none under its key. -/
theorem register_cases (s : SessionCore) (i : Nat) (op : Operation) :
    (op.table = none ∧ s.register i op = s.goto i .registered) ∨
      (∃ error, s.register i op = s.goto i (.failed error)) ∨
      ∃ table, op.table = some table ∧ s.dead = false ∧ (s.pending table).lookup op.key = none ∧
        s.register i op = (s.insertPending table op.key i).goto i .registered := by
  unfold register
  cases op.table with
  | none => exact .inl ⟨rfl, rfl⟩
  | some table =>
    dsimp only
    split_ifs with died known
    · exact .inr (.inl ⟨_, rfl⟩)
    · exact .inr (.inl ⟨_, rfl⟩)
    · refine .inr (.inr ⟨table, rfl, ?_, ?_, rfl⟩)
      · simpa using died
      · rwa [not_isSome_iff_eq_none] at known

/-- What a step does, with the guards under which it does it. -/
inductive Move (protobuf : Protobuf) (s : SessionCore) : SessionLabel → SessionCore → Prop
  | submit (kind request budget) :
    Move protobuf s (.submit kind request budget) (s.submit protobuf kind request budget)
  | register {i op} : s.ops[i]? = some op → op.pc = .begun →
    Move protobuf s (.register i) (s.register i op)
  | count {i op} : s.ops[i]? = some op → op.pc = .registered →
    Move protobuf s (.count i) ((s.gainInflight op.request.traffic).goto i .counted)
  | enqueue {i op} : s.ops[i]? = some op → op.pc = .counted →
    Move protobuf s (.enqueue i) (s.enqueueOp i op)
  | unregister {i op error} : s.ops[i]? = some op → op.pc = .unregistering error →
    Move protobuf s (.unregister i) ((s.eraseOwn i op).goto i (.uncounting error))
  | uncount {i op error} : s.ops[i]? = some op → op.pc = .uncounting error →
    Move protobuf s (.uncount i) ((s.loseInflight op.request.traffic).goto i (.failed error))
  | accepted {i op} : s.ops[i]? = some op → op.pc = .waiting → op.table = none →
    Move protobuf s (.complete i)
      (((s.loseInflight op.request.traffic).countFinished op.request.traffic).goto i
        (.completed (.ok none)))
  | complete {i op} : s.ops[i]? = some op → op.pc = .waiting → op.table ≠ none → op.done = true →
    Move protobuf s (.complete i)
      (((s.loseInflight op.request.traffic).countFinished op.request.traffic).goto i
        (.completed op.outcome))
  | expire {i op cancelled} : s.ops[i]? = some op → op.pc = .waiting → op.table.isSome = true →
    Move protobuf s (.expire i cancelled)
      ((s.eraseOwn i op).goto i (.leaving cancelled op.committed))
  | leave {i op cancelled committed error} : s.ops[i]? = some op →
    op.pc = .leaving cancelled committed →
    Move protobuf s (.leave i)
      (((s.loseInflight op.request.traffic).countDropped op.request.traffic).goto i (.failed error))
  | stale {frame answered} : s.reader = none →
    frame.sessionEpoch ≠ 0 ∧ frame.sessionEpoch ≠ s.epoch →
    Move protobuf s (.dispatch frame answered) (s.countDropped frame.traffic)
  | response {frame answered} : s.reader = none → frame.kind = .response →
    Move protobuf s (.dispatch frame answered)
      ({ s with unanswered := s.unanswered.filter fun i => some i ≠ answered }.takePending .calls
        frame.requestId answered frame)
  | sendAccepted {frame answered} : s.reader = none → frame.kind = .sendAccepted →
    Move protobuf s (.dispatch frame answered)
      ({ s with unanswered := s.unanswered.filter fun i => some i ≠ answered }.takePending .sends
        frame.messageId answered frame)
  | publish {i outcome} : s.reader = some (i, outcome) →
    Move protobuf s .publish { s.modifyOp i (Operation.publish outcome) with reader := none }
  | starve {serviceCredit actorCredit} : s.writer = .idle →
    Move protobuf s .dequeue { s with serviceCredit, actorCredit }
  | dequeue {lane item rest serviceCredit actorCredit} : s.writer = .idle →
    s.outQ lane = item :: rest →
    Move protobuf s .dequeue
      { s.dequeued lane item rest serviceCredit actorCredit with writer := .holding item }
  | writerExit : s.writer = .idle → s.dead = true →
    Move protobuf s .writerExit { s with writer := .exited }
  | gateFails {item error} : s.writer = .holding item →
    Move protobuf s (.gateFails error) { s with writer := .failing item error }
  | commit {item} : s.writer = .holding item →
    Move protobuf s .commit { s.commitItem item with writer := .writing item }
  | written {item} : s.writer = .writing item →
    Move protobuf s (.written (.ok ())) { s with writer := .settling item (.ok ()) }
  | writeFails {item error} : s.writer = .writing item →
    Move protobuf s (.written (.error error)) { s with writer := .failing item error }
  | failItem {item error} : s.writer = .failing item error →
    Move protobuf s .failItem
      { s.failItemPending item error with writer := .settling item (.error error) }
  | settle {item outcome} : s.writer = .settling item outcome →
    Move protobuf s .settle
      { s.publishSettle item outcome with writer := .counting (!outcome.isOk) }
  | countSettled {failed} : s.writer = .counting failed →
    Move protobuf s .countSettled
      { s.countSettled with writer := if failed then .closing else .idle }
  | writerKillLate : s.writer = .closing → s.dead = true →
    Move protobuf s .writerKill { s with writer := .exited }
  | writerKill : s.writer = .closing → s.dead = false →
    Move protobuf s .writerKill { s with dead := true, killer := .marked, writer := .exited }
  | kill : s.dead = false → Move protobuf s .kill { s with dead := true, killer := .marked }
  | sealOut : s.killer = .marked → Move protobuf s .sealOut s.sealOut
  | failPending : s.killer = .sealed → Move protobuf s .failPending s.failPending
  | post (lane bytes awaits) : Move protobuf s (.post lane bytes awaits) (s.post lane bytes awaits)
  | registerWait {c settle} : s.settles[c]? = some settle → settle.waiter = .unregistered →
    settle.awaits ≠ .nothing →
    Move protobuf s (.registerWait c)
      (s.modifySettle c fun settle => { settle with waiter := .waiting })
  | endWait {c settle cancelled} : s.settles[c]? = some settle →
    settle.waiter = .unregistered ∨ settle.waiter = .waiting →
    Move protobuf s (.endWait c cancelled) (s.modifySettle c fun settle =>
      { settle with waiter := if cancelled then .cancelled else .expired })
  | passDeadline {c settle} : s.settles[c]? = some settle →
    Move protobuf s (.passDeadline c) (s.modifySettle c fun settle => { settle with late := true })
  | returnReply {c settle ending} : s.settles[c]? = some settle → replyEnd settle = some ending →
    Move protobuf s (.returnReply c)
      (s.modifySettle c fun settle => { settle with waiter := .returned ending })
  | arrive (lane) :
    Move protobuf s (.arrive lane)
      { s.gainInflight lane with inbound := s.inbound ++ [.arrived lane] }
  | refuse {j lane} : s.inbound[j]? = some (.arrived lane) →
    Move protobuf s (.refuse j)
      (((s.countDropped lane).loseInflight lane).setInbound j (.refused lane))
  | accept {j lane} : s.inbound[j]? = some (.arrived lane) →
    Move protobuf s (.accept j) (s.setInbound j (.admitted lane))
  | finish {j lane} : s.inbound[j]? = some (.admitted lane) →
    Move protobuf s (.finish j) (s.setInbound j (.finished lane))

variable {protobuf : Protobuf} {s next : SessionCore} {label : SessionLabel}

/-- The moves of an operation are all its steps. -/
theorem stepOp_move {i : Nat} {op : Operation} (found : s.ops[i]? = some op)
    (own : label = .register i ∨ label = .count i ∨ label = .enqueue i ∨ label = .unregister i ∨
      label = .uncount i ∨ label = .complete i ∨ (∃ cancelled, label = .expire i cancelled) ∨
      label = .leave i)
    (stepped : s.stepOp i op label = some next) : Move protobuf s label next := by
  rcases own with rfl | rfl | rfl | rfl | rfl | rfl | ⟨cancelled, rfl⟩ | rfl
  · obtain ⟨pc, rfl⟩ := guarded_some stepped
    exact .register found pc
  · obtain ⟨pc, rfl⟩ := guarded_some stepped
    exact .count found pc
  · obtain ⟨pc, rfl⟩ := guarded_some stepped
    exact .enqueue found pc
  · cases pc : op.pc <;> rw [stepOp, pc] at stepped <;> cases stepped
    exact .unregister found pc
  · cases pc : op.pc <;> rw [stepOp, pc] at stepped <;> cases stepped
    exact .uncount found pc
  · simp only [stepOp] at stepped
    split_ifs at stepped with pc plain done
    · cases stepped
      exact .accepted found pc plain
    · cases stepped
      exact .complete found pc plain done
  · obtain ⟨⟨pc, table⟩, rfl⟩ := guarded_some stepped
    exact .expire found pc table
  · cases pc : op.pc <;> rw [stepOp, pc] at stepped <;> cases stepped
    exact .leave found pc

/-- The moves of the writer are all its steps. -/
theorem stepWriter_move (stepped : s.stepWriter label = some next) : Move protobuf s label next := by
  cases label with
  | dequeue =>
    simp only [stepWriter, ite_none_right_eq_some] at stepped
    obtain ⟨idle, stepped⟩ := stepped
    rcases dequeue_cases s with ⟨service, actor, nothing⟩ | ⟨lane, item, rest, service, actor, queue, taken⟩
    · rw [nothing] at stepped
      cases stepped
      exact .starve idle
    · rw [taken] at stepped
      cases stepped
      exact .dequeue idle queue
  | writerExit =>
    obtain ⟨⟨idle, died⟩, rfl⟩ := guarded_some stepped
    exact .writerExit idle died
  | gateFails error =>
    cases writer : s.writer <;> rw [stepWriter, writer] at stepped <;> cases stepped
    exact .gateFails writer
  | commit =>
    cases writer : s.writer <;> rw [stepWriter, writer] at stepped <;> cases stepped
    exact .commit writer
  | written outcome =>
    cases writer : s.writer <;> simp only [stepWriter, writer, reduceCtorEq] at stepped
    cases outcome with
    | ok value =>
      cases stepped
      exact .written writer
    | error error =>
      cases stepped
      exact .writeFails writer
  | failItem =>
    cases writer : s.writer <;> rw [stepWriter, writer] at stepped <;> cases stepped
    exact .failItem writer
  | settle =>
    cases writer : s.writer <;> rw [stepWriter, writer] at stepped <;> cases stepped
    exact .settle writer
  | countSettled =>
    cases writer : s.writer <;> rw [stepWriter, writer] at stepped <;> cases stepped
    exact .countSettled writer
  | writerKill =>
    simp only [stepWriter] at stepped
    split_ifs at stepped with closing died
    · cases stepped
      exact .writerKillLate closing died
    · cases stepped
      exact .writerKill closing (by simpa using died)
  | _ => simp [stepWriter] at stepped

/-- The moves of `Kill` are all its steps. -/
theorem stepKill_move (stepped : s.stepKill label = some next) : Move protobuf s label next := by
  cases label with
  | kill =>
    simp only [stepKill] at stepped
    split_ifs at stepped with died
    cases stepped
    exact .kill (by simpa using died)
  | sealOut =>
    obtain ⟨marked, rfl⟩ := guarded_some stepped
    exact .sealOut marked
  | failPending =>
    obtain ⟨shut, rfl⟩ := guarded_some stepped
    exact .failPending shut
  | _ => simp [stepKill] at stepped

/-- The moves of a reply are all its steps. -/
theorem stepReply_move {c : Nat} {settle : Settle} (found : s.settles[c]? = some settle)
    (own : label = .registerWait c ∨ (∃ cancelled, label = .endWait c cancelled) ∨
      label = .passDeadline c ∨ label = .returnReply c)
    (stepped : s.stepReply c settle label = some next) : Move protobuf s label next := by
  rcases own with rfl | ⟨cancelled, rfl⟩ | rfl | rfl
  · obtain ⟨⟨waiter, -, awaits⟩, rfl⟩ := guarded_some stepped
    exact .registerWait found waiter awaits
  · obtain ⟨⟨-, -, waiter⟩, rfl⟩ := guarded_some stepped
    exact .endWait found waiter
  · cases stepped
    exact .passDeadline found
  · cases ended : replyEnd settle with
    | none => simp [stepReply, ended] at stepped
    | some ending =>
      simp only [stepReply, ended, Option.some.injEq] at stepped
      subst stepped
      exact .returnReply found ended

/-- The moves are all steps of a session. -/
theorem step_move (stepped : s.step protobuf label = some next) : Move protobuf s label next := by
  cases label with
  | submit kind request budget =>
    cases stepped
    exact .submit kind request budget
  | register i | count i | enqueue i | unregister i | uncount i | complete i | expire i cancelled
  | leave i =>
    obtain ⟨op, found, stepped⟩ := bind_eq_some_iff.mp stepped
    exact stepOp_move found (by simp) stepped
  | dispatch frame answered =>
    simp only [step, ite_none_right_eq_some, dispatch] at stepped
    obtain ⟨free, stepped⟩ := stepped
    split_ifs at stepped with old
    · cases stepped
      exact .stale free old
    · cases kind : frame.kind <;> simp only [kind, Option.some.injEq, reduceCtorEq] at stepped
      · subst stepped
        exact .response free kind
      · subst stepped
        exact .sendAccepted free kind
  | publish =>
    simp only [step, map_eq_some_iff] at stepped
    obtain ⟨taken, reader, rfl⟩ := stepped
    exact .publish reader
  | dequeue | writerExit | gateFails error | commit | written outcome | failItem | settle
  | countSettled | writerKill => exact stepWriter_move stepped
  | kill | sealOut | failPending => exact stepKill_move stepped
  | post lane bytes awaits =>
    cases stepped
    exact .post lane bytes awaits
  | registerWait c | endWait c cancelled | passDeadline c | returnReply c =>
    obtain ⟨settle, found, stepped⟩ := bind_eq_some_iff.mp stepped
    exact stepReply_move found (by simp) stepped
  | arrive lane =>
    cases stepped
    exact .arrive lane
  | refuse j =>
    obtain ⟨state, found, stepped⟩ := bind_eq_some_iff.mp stepped
    cases state <;> cases stepped
    exact .refuse found
  | accept j =>
    obtain ⟨state, found, stepped⟩ := bind_eq_some_iff.mp stepped
    cases state <;> cases stepped
    exact .accept found
  | finish j =>
    obtain ⟨state, found, stepped⟩ := bind_eq_some_iff.mp stepped
    cases state <;> cases stepped
    exact .finish found

/-- A property that a new session has and every move keeps holds in every reachable state. -/
theorem reachable_invariant {options : ClientOptions} {epoch : UInt64}
    (property : SessionCore → Prop) (initial : property { options, epoch })
    (preserved : ∀ s label next, property s → Move protobuf s label next → property next)
    (reachable : (machine protobuf options epoch).Reachable s) : property s := by
  apply reachable.invariant property
  · rintro state rfl
    exact initial
  · intro state label next kept stepped
    exact preserved state label next kept (step_move stepped)

end SessionCore

end BbtInfra.Rpc
