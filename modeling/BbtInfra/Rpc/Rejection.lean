import BbtInfra.Rpc.Admission
import BbtInfra.Rpc.Replies
import BbtInfra.Rpc.SessionMachine

/-!
# Refused requests and their error frames

The server of `ServerState` with the sessions that its requests came in on and a reply for
each of its items. A request is refused by the capacity check and by `Admit`, both on the
reader of its session, and by the worker when the handler returns an error or throws. Each of
them makes the reply terminal, builds an error frame and enqueues it; whoever holds the item
may have been faster. Everything else that happens on a session is one label.
-/
namespace BbtInfra.Rpc

open Lib

/-- Who made a reply terminal. -/
inductive Claimant
  /-- The refusal. -/
  | refusal
  /-- The handler, the framework behind it, or the worker after an acceptance. -/
  | holder
  deriving DecidableEq

/-- Progress of the call that won the exchange on `terminal`. -/
inductive AnswerPc
  /-- `terminal` is not set. -/
  | unclaimed
  /-- Before its `Enqueue`. -/
  | posting (claimant : Claimant) (answer : Answer)
  | answered (claimant : Claimant) (answer : Answer)
  deriving DecidableEq

/-- The reply of an inbound request. The error that its refusal reports and the frames that
`Enqueue` took are recorded for statements. -/
structure InboundReply where
  session : Nat
  request : SessionFrame
  pc : AnswerPc := .unclaimed
  refusal : Option Error := none
  frames : List SessionFrame := []
  deriving DecidableEq

namespace InboundReply

/-- The credential, if the request asks for a reply. -/
def impl (reply : InboundReply) : Option ReplyCompletionImpl := replyFor reply.request

/-- The refusal has not come to its `Enqueue`. -/
def reporting (reply : InboundReply) : Bool :=
  match reply.pc with
  | .posting .refusal _ => true
  | _ => false

/-- The refusal claims the reply, unless it is claimed. -/
def refuse (reply : InboundReply) (error : Error) : InboundReply :=
  { reply with
    refusal := some error
    pc := if reply.impl.isSome ∧ reply.pc = .unclaimed then .posting .refusal (.fail error)
      else reply.pc }

/-- Exactly one error frame was enqueued for the request. -/
def AnsweredOnce (reply : InboundReply) : Prop :=
  ∃ answer, reply.frames = [answer] ∧ Refuses reply.request answer

end InboundReply

/-- The server, the sessions and the replies, one for each item. -/
structure RejectionState where
  server : ServerState
  sessions : List SessionCore
  replies : List InboundReply := []

/-- One step of one party. -/
inductive RejectionLabel
  /-- `DispatchInbound` brings a request to `AdmitInbound`. -/
  | arrive (session : Nat) (frame : SessionFrame)
  /-- A step of the server other than an arrival. -/
  | server (label : AdmissionLabel)
  /-- The refusing path claims the reply. -/
  | refuse (item : Nat)
  /-- Whoever holds the item calls `Complete` or `Fail` first. -/
  | answer (item : Nat) (answer : Answer)
  /-- The frame is built, encoded and enqueued. -/
  | post (item : Nat) (awaits : Awaits)
  /-- Everything else on a session. -/
  | session (session : Nat) (core : SessionCore)

/-- `ItemBytes`. -/
def itemBytes (frame : SessionFrame) : Nat :=
  64 + frame.payload.length + frame.service.length + frame.method.length + frame.requestId.length +
    frame.messageId.length + frame.requestSchema.length + frame.responseSchema.length +
    frame.orderingKey.length +
    (frame.metadata.map fun entry => entry.1.length + entry.2.length).sum

namespace RejectionState

/-- The error that the path refusing an item is about to report. -/
def refusalOf (s : RejectionState) (i : Nat) : Option Error :=
  match s.server.items[i]?.map AdmissionItem.pc with
  | some .overCap => some (err .overloaded "inflight limit reached")
  | some (.rejected error) => some error
  | some .handed =>
    match s.server.worker with
    | .concluding j (.error error) => if j = i then some error else none
    | _ => none
  | _ => none

/-- The path that refuses an item has come past its report. -/
def refusalDone (s : RejectionState) (i : Nat) : Bool :=
  s.replies[i]?.all fun reply => reply.refusal.isSome && !reply.reporting

/-- The worker has called `Complete` for a send that asks for remote acceptance. -/
def acceptanceDone (s : RejectionState) (i : Nat) : Bool :=
  s.replies[i]?.all fun reply =>
    reply.impl.all (fun impl => impl.kind ≠ .sendAccepted) || reply.pc ≠ .unclaimed

/-- The server goes on behind a reply only when the reply is dealt with. -/
def ready (s : RejectionState) : AdmissionLabel → Bool
  | .arrive _ _ _ _ => false
  | .unwind i => s.refusalDone i
  | .conclude =>
    match s.server.worker with
    | .concluding i (.error _) => s.refusalDone i
    | .concluding i (.ok _) => s.acceptanceDone i
    | _ => true
  | _ => true

/-- `DispatchInbound` passes on what the decoder accepted for the current epoch. -/
def arrive (s : RejectionState) (session : Nat) (frame : SessionFrame) : Option RejectionState :=
  s.sessions[session]?.bind fun core =>
    if (frame.validateKindRules true).isOk ∧ (frame.kind = .call ∨ frame.kind = .send) ∧
        frame.sessionEpoch = core.epoch then
      (s.server.step (.arrive session frame.traffic (itemBytes frame)
        (decide (frame.reply = .required)))).map fun server =>
          { s with server, replies := s.replies ++ [{ session, request := frame }] }
    else none

/-- Whoever holds the item answers it. -/
def answer (s : RejectionState) (i : Nat) (answer : Answer) : Option RejectionState :=
  s.replies[i]?.bind fun reply =>
    if s.server.items[i]?.any (fun item => item.pc = .handed) ∧ reply.impl.isSome ∧
        reply.pc = .unclaimed then
      some { s with replies := s.replies.set i { reply with pc := .posting .holder answer } }
    else none

/-- The tail that `Complete`, `Fail` and `PostReplyErrorNoWait` share. -/
def post (protobuf : Protobuf) (s : RejectionState) (i : Nat) (reply : InboundReply)
    (core : SessionCore) (impl : ReplyCompletionImpl) (claimant : Claimant) (answer : Answer)
    (awaits : Awaits) : RejectionState :=
  let done : InboundReply := { reply with pc := .answered claimant answer }
  let frame := impl.frame core.epoch answer
  if core.dead then { s with replies := s.replies.set i done }
  else
    match encodeFramedSessionFrame protobuf frame core.options.maxFrameBytes with
    | .error _ => { s with replies := s.replies.set i done }
    | .ok bytes =>
      { s with
        sessions := s.sessions.set reply.session (core.post frame.traffic bytes (some awaits))
        replies := s.replies.set i <|
          if (core.enqueueGate { bytes, lane := frame.traffic }).isOk then
            { done with frames := reply.frames ++ [frame] }
          else done }

/-- The step of a reply that was claimed. -/
def postStep (protobuf : Protobuf) (s : RejectionState) (i : Nat) (reply : InboundReply)
    (awaits : Awaits) : Option RejectionState :=
  s.sessions[reply.session]?.bind fun core =>
    reply.impl.bind fun impl =>
      match reply.pc with
      | .posting claimant answer => some (s.post protobuf i reply core impl claimant answer awaits)
      | _ => none

/-- One step of the system. -/
def step (protobuf : Protobuf) (s : RejectionState) : RejectionLabel → Option RejectionState
  | .arrive session frame => s.arrive session frame
  | .server label =>
    if s.ready label then (s.server.step label).map fun server => { s with server } else none
  | .refuse i =>
    s.replies[i]?.bind fun reply =>
      (s.refusalOf i).bind fun error =>
        if reply.refusal = none then
          some { s with replies := s.replies.set i (reply.refuse error) }
        else none
  | .answer i answer => s.answer i answer
  | .post i awaits => s.replies[i]?.bind fun reply => s.postStep protobuf i reply awaits
  | .session session core =>
    s.sessions[session]?.bind fun old =>
      if core.options = old.options ∧ core.epoch = old.epoch then
        some { s with sessions := s.sessions.set session core }
      else none

/-- A server with accepted options, and sessions of owners with accepted options. -/
def machine (protobuf : Protobuf) : Machine RejectionState RejectionLabel where
  start s := s.server.options.validate = .ok () ∧ s.server = { options := s.server.options } ∧
    s.replies = [] ∧ ∀ core ∈ s.sessions, core.options.validate = .ok ()
  step := step protobuf

/-- The session of a reply is alive and has room for its frame when it is enqueued. -/
def roomy (protobuf : Protobuf) (s : RejectionState) : RejectionLabel → Bool
  | .post i _ =>
    s.replies[i]?.all fun reply =>
      s.sessions[reply.session]?.all fun core =>
        reply.impl.all fun impl =>
          match reply.pc with
          | .posting _ answer =>
            !core.dead && !core.outSealed &&
              match encodeFramedSessionFrame protobuf (impl.frame core.epoch answer)
                core.options.maxFrameBytes with
              | .ok bytes =>
                (core.enqueueGate { bytes, lane := (impl.frame core.epoch answer).traffic }).isOk
              | .error _ => true
          | _ => true
  | _ => true

end RejectionState

end BbtInfra.Rpc
