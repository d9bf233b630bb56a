import BbtInfra.Lib.Machine
import BbtInfra.Mcp.Protocol

/-!
# The event body of one SSE stream

`McpEventBody`, one critical section under its mutex to a step: frames are pushed by any thread, a
reader waits in `Start` or `Next`, and `Cancel` closes the body in three sections. What was pushed,
accepted and answered is kept in ledgers beside the fields of the source. A frame of the session is
its text; the encoding of a chunk is that of the source.
-/
namespace BbtInfra.Mcp

open Lib (Machine)

/-- `CombinedWaitStatus`. -/
inductive CombinedWaitStatus
  | completed | cancelled | timedOut | invalidContext
  deriving DecidableEq, Repr

/-- The two calls of a reader. -/
inductive ReadMethod
  | start | next
  deriving DecidableEq, Repr

/-- What a call returns. -/
inductive ReadAnswer
  | data (chunk : Bytes)
  | keepalive
  | eof
  | failed (code : ErrorCode) (domainCode : String)
  deriving DecidableEq

/-- A call that has returned, and whether a `Cancel` had returned before. -/
structure ReadReply where
  method : ReadMethod
  afterCancel : Bool
  answer : ReadAnswer
  deriving DecidableEq

/-- Where a call of a reader stands: in front of the first section of `Next`, around `WaitEvent`,
or behind it with the status. -/
inductive ReadPhase
  | look
  | enter
  | parked
  | leave (status : CombinedWaitStatus)
  | woken (status : CombinedWaitStatus)
  deriving DecidableEq, Repr

/-- A call of a reader, and whether its waiter was notified. -/
structure Reader where
  method : ReadMethod
  phase : ReadPhase
  notified : Bool := false
  deriving DecidableEq, Repr

/-- The sections of `Cancel` that are still to come. -/
inductive CancelPhase
  | idle | detach | wake | done
  deriving DecidableEq, Repr

/-- The fields under `m_mtx` that decide what is handed out, with the ledgers. -/
structure EventQueue where
  queue : List Bytes := []
  dropped : Nat := 0
  eofPending : Bool := false
  eof : Bool := false
  closed : Bool := false
  cancelled : Bool := false
  /-- The frames pushed while the body was open. -/
  pushed : List Bytes := []
  /-- The frames that came into the queue. -/
  accepted : List Bytes := []
  replies : List ReadReply := []
  cancelling : CancelPhase := .idle
  cancelReturned : Bool := false

/-- The body with the calls under way. -/
structure EventBody where
  events : EventQueue := {}
  waiters : List Nat := []
  readers : Nat → Option Reader := fun _ => none
  /-- Pushes that have still to wake. -/
  wakes : Nat := 0

/-- `IsFlowEndFrame`. -/
def isFlowEndFrame (frame : Bytes) : Bool :=
  decide (text "\"id\"" <:+: frame) && decide (text "\"resultType\":\"complete\"" <:+: frame)

/-- A frame as a chunk of the stream. -/
def sseChunk (frame : Bytes) : Bytes := text "data: " ++ frame ++ text "\n\n"

namespace EventQueue

variable (events : EventQueue)

/-- The section of `Push`. -/
def push (maxEvents : Nat) (frame : Bytes) : EventQueue :=
  if events.cancelled || events.eof then events
  else if maxEvents ≤ events.queue.length then
    { events with dropped := events.dropped + 1, pushed := events.pushed ++ [frame] }
  else
    { events with
      queue := events.queue ++ [frame]
      eofPending := events.eofPending || isFlowEndFrame frame
      pushed := events.pushed ++ [frame]
      accepted := events.accepted ++ [frame] }

/-- Whether a push comes as far as waking the readers. -/
def wakesOn (maxEvents : Nat) : Bool :=
  !(events.cancelled || events.eof) && decide (events.queue.length < maxEvents)

/-- A call returns. -/
def reply (method : ReadMethod) (answer : ReadAnswer) : EventQueue :=
  { events with
    replies := events.replies ++ [{ method, afterCancel := events.cancelReturned, answer }] }

/-- `PopLocked` of the front, for a call that returns its chunk. -/
def popLocked (method : ReadMethod) (frame : Bytes) (rest : List Bytes) : EventQueue :=
  ({ events with
    queue := rest
    eof := events.eof || (events.eofPending && rest.isEmpty) } : EventQueue).reply method
      (.data (sseChunk frame))

end EventQueue

/-- One step of a thread. -/
inductive EventLabel
  /-- A frame of the session comes to its sink. -/
  | push (frame : Bytes)
  /-- A push wakes the readers. -/
  | wake
  | beginStart (id : Nat)
  | beginNext (id : Nat)
  /-- The first section of `Next`. -/
  | look (id : Nat)
  /-- The first section of `WaitEvent`. -/
  | enter (id : Nat)
  /-- `Wait` returns. -/
  | resume (id : Nat) (status : CombinedWaitStatus)
  /-- The second section of `WaitEvent`. -/
  | leave (id : Nat)
  /-- The section of `Start` or `Next` behind `WaitEvent`. -/
  | conclude (id : Nat)
  /-- The first section of `Cancel`. -/
  | cancel
  /-- `Detach` in `Cancel`. -/
  | detach
  /-- `WakeAll` in `Cancel`, and its return. -/
  | cancelWake

namespace EventBody

variable (body : EventBody)

/-- A reader stands elsewhere, or its call is over. -/
def setReader (id : Nat) (reader : Option Reader) : EventBody :=
  { body with readers := Function.update body.readers id reader }

/-- A call returns. -/
def finish (id : Nat) (events : EventQueue) : EventBody :=
  ({ body with events } : EventBody).setReader id none

/-- `WakeAll`. -/
def wakeAll : EventBody :=
  { body with
    waiters := []
    readers := fun id =>
      (body.readers id).map fun reader =>
        { reader with notified := reader.notified || decide (id ∈ body.waiters) } }

/-- The first section of `Next`: the queue before the end, the end before the cancellation. -/
def lookStep (id : Nat) (reader : Reader) : EventBody :=
  match body.events.queue with
  | frame :: rest => body.finish id (body.events.popLocked .next frame rest)
  | [] =>
    if body.events.eof then body.finish id (body.events.reply .next .eof)
    else if body.events.cancelled then
      body.finish id (body.events.reply .next (.failed .closed "mcp.http.stream_closed"))
    else body.setReader id (some { reader with phase := .enter })

/-- The first section of `WaitEvent`. -/
def enterStep (id : Nat) (reader : Reader) : EventBody :=
  if body.events.cancelled || body.events.closed then
    body.setReader id (some { reader with phase := .woken .cancelled })
  else if !body.events.queue.isEmpty || body.events.eof then
    body.setReader id (some { reader with phase := .woken .completed })
  else
    ({ body with waiters := body.waiters ++ [id] } : EventBody).setReader id
      (some { reader with phase := .parked, notified := false })

/-- `Start` behind `WaitEvent`: the cancellation before the queue. -/
def concludeStart (id : Nat) (status : CombinedWaitStatus) : EventBody :=
  if body.events.cancelled then
    body.finish id (body.events.reply .start (.failed .closed "mcp.http.stream_closed"))
  else
    match body.events.queue, status with
    | frame :: rest, _ => body.finish id (body.events.popLocked .start frame rest)
    | [], .invalidContext =>
      body.finish id (body.events.reply .start (.failed .invalidContext "mcp.http.stream_context"))
    | [], .timedOut =>
      body.finish id (body.events.reply .start (.failed .timedOut "mcp.http.stream_start"))
    | [], .completed | [], .cancelled => body.finish id (body.events.reply .start .keepalive)

/-- `Next` behind `WaitEvent`: without anything to say it is a comment, otherwise it looks again. -/
def concludeNext (id : Nat) (reader : Reader) (status : CombinedWaitStatus) : EventBody :=
  if status = .invalidContext then
    body.finish id (body.events.reply .next (.failed .invalidContext "mcp.http.stream_context"))
  else if body.events.queue.isEmpty && !body.events.eof && !body.events.cancelled then
    body.finish id (body.events.reply .next .keepalive)
  else body.setReader id (some { reader with phase := .look })

/-- The end of a waiting call. -/
def concludeStep (id : Nat) (reader : Reader) (status : CombinedWaitStatus) : EventBody :=
  match reader.method with
  | .start => body.concludeStart id status
  | .next => body.concludeNext id reader status

/-- One step, when it is there to be taken. -/
def step (maxEvents : Nat) : EventLabel → Option EventBody
  | .push frame =>
    some { body with
      events := body.events.push maxEvents frame
      wakes := if body.events.wakesOn maxEvents then body.wakes + 1 else body.wakes }
  | .wake =>
    if 0 < body.wakes then some { body.wakeAll with wakes := body.wakes - 1 } else none
  | .beginStart id =>
    if (body.readers id).isNone then
      some (body.setReader id (some { method := .start, phase := .enter }))
    else none
  | .beginNext id =>
    if (body.readers id).isNone then
      some (body.setReader id (some { method := .next, phase := .look }))
    else none
  | .look id =>
    match body.readers id with
    | some reader => if reader.phase = .look then some (body.lookStep id reader) else none
    | none => none
  | .enter id =>
    match body.readers id with
    | some reader => if reader.phase = .enter then some (body.enterStep id reader) else none
    | none => none
  | .resume id status =>
    match body.readers id with
    | some reader =>
      if reader.phase = .parked ∧ (status = .completed → reader.notified = true) then
        some (body.setReader id (some { reader with phase := .leave status }))
      else none
    | none => none
  | .leave id =>
    match body.readers id with
    | some reader =>
      match reader.phase with
      | .leave status =>
        some (({ body with waiters := body.waiters.erase id } : EventBody).setReader id
          (some { reader with phase := .woken status }))
      | _ => none
    | none => none
  | .conclude id =>
    match body.readers id with
    | some reader =>
      match reader.phase with
      | .woken status => some (body.concludeStep id reader status)
      | _ => none
    | none => none
  | .cancel =>
    if body.events.cancelled then
      some { body with events := { body.events with cancelReturned := true } }
    else
      some { body with events := { body.events with cancelled := true, cancelling := .detach } }
  | .detach =>
    if body.events.cancelling = .detach then
      some { body with events := { body.events with closed := true, cancelling := .wake } }
    else none
  | .cancelWake =>
    if body.events.cancelling = .wake then
      some { body.wakeAll with
        events := { body.events with cancelReturned := true, cancelling := .done } }
    else none

end EventBody

/-- A body from its construction on. -/
def eventBody (maxEvents : Nat) : Machine EventBody EventLabel where
  start body := body = {}
  step body label := body.step maxEvents label

end BbtInfra.Mcp
