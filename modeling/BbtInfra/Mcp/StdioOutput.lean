import BbtInfra.Lib.Census
import BbtInfra.Mcp.EventBody

/-!
# The output of the stdio transport

What `m_mtx` guards of it: the queue with its byte count, the counters and the seals, and beside
them where each call of `Enqueue` and the writer stand. One step is a critical section, a system
call or a wait; what the clock, a wait and the kernel answer is chosen. The lists of waiters only
wake what a deadline wakes as well.
-/
namespace BbtInfra.Mcp

/-- A frame for the output. The ticket is the number of the call of `Enqueue` that brings it. -/
structure OutputFrame where
  ticket : Nat
  text : List UInt8
  /-- Passed by the end of a subscription. -/
  ends : Bool := false
  deriving DecidableEq, Repr

/-- What is queued and written: the text and its line feed. -/
def OutputFrame.bytes (frame : OutputFrame) : List UInt8 := frame.text ++ [0x0a]

/-- `frame.size()`. -/
def OutputFrame.size (frame : OutputFrame) : Nat := frame.bytes.length

/-- Where a call of `Enqueue` stands. -/
inductive EnqueuePhase
  /-- At the top of its loop. -/
  | checking
  /-- The queue was full; the clock is read next. -/
  | full
  | expired
  /-- In `WaitSpace`, before its critical section. -/
  | registering
  | asleep
  /-- The wait was refused outside a coroutine. -/
  | noContext
  | returned (accepted : Bool)
  deriving DecidableEq, Repr

/-- A call of `Enqueue`. -/
structure EnqueueCall where
  frame : OutputFrame
  phase : EnqueuePhase := .checking
  deriving DecidableEq, Repr

/-- Where the writer stands with a frame in its hands. -/
inductive HoldPhase
  /-- At the system call. -/
  | sending
  /-- In `WaitFd`, before its critical section. -/
  | registering
  | asleep
  /-- The wait was canceled. -/
  | canceled
  | failed
  deriving DecidableEq, Repr

/-- Where `WriterLoop` stands. -/
inductive WriterPlace
  | unstarted
  /-- At the top of its loop. -/
  | taking
  /-- In `WaitData`. -/
  | idle
  | holding (frame : OutputFrame) (offset : Nat) (phase : HoldPhase)
  /-- Behind its loop. -/
  | broken
  | left
  deriving DecidableEq, Repr

/-- What `write` answers. -/
inductive PipeAnswer
  | wrote (count : Nat)
  | interrupted
  | wouldBlock
  | error
  deriving DecidableEq, Repr

/-- How much of a frame the pipe has when the writer lets go of it. -/
structure Segment where
  frame : OutputFrame
  sent : Nat
  deriving DecidableEq, Repr

/-- All of the frame is in the pipe. -/
def Segment.complete (segment : Segment) : Bool := decide (segment.sent = segment.frame.size)

/-- The output side of a transport. The pipe, the segments and the tickets of dropped and abandoned
frames are kept beside the fields of the source. -/
structure StdioOutput where
  maxPendingBytes : Nat
  queue : List OutputFrame := []
  queueBytes : Nat := 0
  peakQueueBytes : Nat := 0
  droppedFrames : Nat := 0
  abandonedFrames : Nat := 0
  inputSealed : Bool := false
  outputSealed : Bool := false
  writeFailed : Bool := false
  calls : List EnqueueCall := []
  writer : WriterPlace := .unstarted
  pipe : List UInt8 := []
  segments : List Segment := []
  dropped : List Nat := []
  abandoned : List Nat := []

namespace StdioOutput

variable (s : StdioOutput)

/-- A call of `Enqueue` begins. -/
def call (text : List UInt8) (ends : Bool) : StdioOutput :=
  { s with calls := s.calls ++ [{ frame := { ticket := s.calls.length, text, ends } }] }

/-- A call of `Enqueue` goes on to a phase. -/
def proceed (k : Nat) (phase : EnqueuePhase) : StdioOutput :=
  { s with calls := s.calls.modify k fun call => { call with phase } }

/-- The frame of a call is accepted. -/
def push (k : Nat) (frame : OutputFrame) : StdioOutput :=
  { s.proceed k (.returned true) with
    queue := s.queue ++ [frame]
    queueBytes := s.queueBytes + frame.size
    peakQueueBytes := max s.peakQueueBytes (s.queueBytes + frame.size) }

/-- The sealed output turns a call away. -/
def turnAway (k : Nat) : StdioOutput :=
  { s.proceed k (.returned false) with
    abandonedFrames := s.abandonedFrames + 1
    abandoned := s.abandoned ++ [k] }

/-- `NoteDropLocked`. -/
def noteDrop (k : Nat) : StdioOutput :=
  { s.proceed k (.returned false) with
    droppedFrames := s.droppedFrames + 1
    dropped := s.dropped ++ [k] }

/-- The next step of a call of `Enqueue`. The clock says whether the deadline has passed, the wait
ends with a status. -/
def enqueueStep (k : Nat) (call : EnqueueCall) (expired : Bool) (status : CombinedWaitStatus) :
    Option StdioOutput :=
  match call.phase with
  | .checking =>
    if s.outputSealed then some (s.turnAway k)
    else if s.queueBytes + call.frame.size ≤ s.maxPendingBytes then some (s.push k call.frame)
    else some (s.proceed k .full)
  | .full => some (s.proceed k (if expired then .expired else .registering))
  | .expired => some (if s.outputSealed then s.turnAway k else s.noteDrop k)
  | .registering => some (s.proceed k (if s.outputSealed then .checking else .asleep))
  | .asleep => some (s.proceed k (if status = .invalidContext then .noContext else .checking))
  | .noContext => some (s.noteDrop k)
  | .returned _ => none

/-- The writer goes on to a place. -/
def goTo (place : WriterPlace) : StdioOutput := { s with writer := place }

/-- The writer lets go of a frame of which the pipe has so much. -/
def letGo (frame : OutputFrame) (sent : Nat) (place : WriterPlace) : StdioOutput :=
  { s with segments := s.segments ++ [{ frame, sent }], writer := place }

/-- The writer gives up its frame. -/
def giveUp (frame : OutputFrame) (offset : Nat) (place : WriterPlace) : StdioOutput :=
  { s.letGo frame offset place with
    abandonedFrames := s.abandonedFrames + 1
    abandoned := s.abandoned ++ [frame.ticket] }

/-- The pipe takes bytes of the frame. -/
def send (frame : OutputFrame) (offset count : Nat) : StdioOutput :=
  let s := { s with pipe := s.pipe ++ (frame.bytes.drop offset).take count }
  if frame.size ≤ offset + count then s.letGo frame (offset + count) .taking
  else s.goTo (.holding frame (offset + count) .sending)

/-- The writer holds a frame. -/
def holdStep (frame : OutputFrame) (offset : Nat) (phase : HoldPhase) (answer : PipeAnswer)
    (status : CombinedWaitStatus) : Option StdioOutput :=
  match phase with
  | .sending =>
    match answer with
    | .wrote count =>
      if 0 < count ∧ offset + count ≤ frame.size then some (s.send frame offset count) else none
    | .interrupted => some s
    | .wouldBlock => some (s.goTo (.holding frame offset .registering))
    | .error => some (s.goTo (.holding frame offset .failed))
  | .registering =>
    some (s.goTo (.holding frame offset
      (if s.inputSealed || s.outputSealed then .canceled else .asleep)))
  | .asleep =>
    some (s.goTo (.holding frame offset (if status = .cancelled then .canceled else .sending)))
  | .canceled => some (s.giveUp frame offset .taking)
  | .failed => some { s.giveUp frame offset .broken with writeFailed := true }

/-- The next step of `WriterLoop`. -/
def writerStep (answer : PipeAnswer) (status : CombinedWaitStatus) : Option StdioOutput :=
  match s.writer with
  | .unstarted | .broken | .left => none
  | .taking =>
    match s.queue with
    | frame :: rest =>
      some { s with
        queue := rest
        queueBytes := s.queueBytes - frame.size
        writer := .holding frame 0 .sending }
    | [] => some (s.goTo (if s.outputSealed || s.inputSealed then .broken else .idle))
  | .idle => some (s.goTo .taking)
  | .holding frame offset phase => s.holdStep frame offset phase answer status

/-- The input is sealed. -/
def sealInput : StdioOutput := { s with inputSealed := true }

/-- The output is sealed, and what is queued is abandoned. -/
def sealOutput : StdioOutput :=
  { s with
    outputSealed := true
    abandonedFrames := s.abandonedFrames + s.queue.length
    abandoned := s.abandoned ++ s.queue.map OutputFrame.ticket
    queue := []
    queueBytes := 0 }

end StdioOutput

end BbtInfra.Mcp
