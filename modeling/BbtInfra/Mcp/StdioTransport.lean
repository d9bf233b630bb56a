import BbtInfra.Mcp.StdioOutput

/-!
# The stdio transport and its teardown

The reader, the writer and any number of callers of `Close` share one output. Each of them runs
`BeginTeardown` and `TryFinishTeardown` from its own place; a transport of which one coroutine could
not be started is torn down by `Start`. A step is one critical section of one party. Frames are
passed to `Enqueue` from anywhere and at any time, those that `EndAllSubscriptions` has by the party
whose `BeginTeardown` is the first.
-/
namespace BbtInfra.Mcp

open Lib (Machine)

/-- Whether a coroutine runs. -/
inductive ReaderPlace
  | unstarted | running | left
  deriving DecidableEq, Repr

/-- Why `ReaderLoop` ends. -/
inductive ReaderExit
  | inputSealed | eof | readFailed | coreClosed
  deriving DecidableEq, Repr

/-- `StdioCloseEvidence`, as far as it is about the output. -/
structure StdioCloseEvidence where
  readerJoined : Bool := false
  writerJoined : Bool := false
  inputSealed : Bool := false
  outputSealed : Bool := false
  eof : Bool := false
  writeFailed : Bool := false
  coreClosed : Bool := false
  pendingFrames : Nat := 0
  pendingBytes : Nat := 0
  droppedFrames : Nat := 0
  abandonedFrames : Nat := 0
  peakPendingBytes : Nat := 0
  deriving DecidableEq, Repr

/-- Who tears the transport down. -/
inductive PartyKind
  /-- A caller of `CloseAndWait`. -/
  | host
  | reader
  | writer
  /-- `Start`, when a coroutine could not be started. -/
  | start
  deriving DecidableEq, Repr

/-- Where a party stands. -/
inductive PartyPlace
  | halfStart
  /-- Before the first critical section of `BeginTeardown`. -/
  | beginning
  /-- In `EndAllSubscriptions`, with these frames to come. -/
  | ending (rest : List (List UInt8))
  | enqueuing (k : Nat) (rest : List (List UInt8))
  /-- Before the second critical section of `BeginTeardown`. -/
  | sealingInput
  /-- At the beginning of `TryFinishTeardown`. -/
  | finishing
  | joining
  | sealingOutput
  | snapshotting
  | publishing (snapshot : StdioCloseEvidence)
  /-- A caller of `Close` waits for `m_closed_done`. -/
  | awaiting
  | returned
  deriving DecidableEq, Repr

/-- A party of the teardown. -/
structure Party where
  kind : PartyKind
  place : PartyPlace
  deriving DecidableEq, Repr

/-- The parties that wait in `TryFinishTeardown` for the coroutines, with a deadline. -/
def PartyKind.blocking : PartyKind → Bool
  | .host | .start => true
  | .reader | .writer => false

/-- Where a party goes from `TryFinishTeardown`. -/
def PartyKind.afterFinish : PartyKind → PartyPlace
  | .host => .awaiting
  | .reader | .writer | .start => .returned

/-- A transport. How often `BeginTeardown` has returned true and how often the evidence was stored
is kept beside the fields of the source. -/
structure StdioTransport where
  output : StdioOutput
  reader : ReaderPlace := .unstarted
  eof : Bool := false
  readFailed : Bool := false
  coreClosed : Bool := false
  readerExited : Bool := false
  writerExited : Bool := false
  teardownStarted : Bool := false
  closedDone : Bool := false
  evidence : StdioCloseEvidence := {}
  parties : List Party := []
  teardowns : Nat := 0
  evidenceStores : Nat := 0

namespace StdioTransport

variable (s : StdioTransport)

/-- A party goes on to a place. -/
def moveTo (p : Nat) (place : PartyPlace) : StdioTransport :=
  { s with parties := s.parties.modify p fun party => { party with place } }

/-- The snapshot of `TryFinishTeardown`. -/
def snapshot : StdioCloseEvidence where
  readerJoined := s.readerExited
  writerJoined := s.writerExited
  inputSealed := s.output.inputSealed
  outputSealed := s.output.outputSealed
  eof := s.eof
  writeFailed := s.output.writeFailed
  coreClosed := s.coreClosed
  pendingFrames := s.output.queue.length
  pendingBytes := s.output.queueBytes
  droppedFrames := s.output.droppedFrames
  abandonedFrames := s.output.abandonedFrames
  peakPendingBytes := s.output.peakQueueBytes

/-- The first evidence is stored. -/
def publish (snapshot : StdioCloseEvidence) : StdioTransport :=
  if s.closedDone then s
  else { s with evidence := snapshot, closedDone := true, evidenceStores := s.evidenceStores + 1 }

/-- The cleanup of `Start`: a coroutine that was not started counts as exited. -/
def halfStart : StdioTransport :=
  { s with
    output := s.output.sealInput
    readerExited := s.readerExited || decide (s.reader = .unstarted)
    writerExited := s.writerExited || decide (s.output.writer = .unstarted) }

/-- The next step of a party. When its `BeginTeardown` is the first, these frames end the
subscriptions. -/
def partyStep (p : Nat) (party : Party) (ends : List (List UInt8)) : Option StdioTransport :=
  match party.place with
  | .halfStart => some (s.halfStart.moveTo p .finishing)
  | .beginning =>
    if s.teardownStarted then
      some (s.moveTo p (if party.kind = .host then .awaiting else .finishing))
    else
      some ({ s with teardownStarted := true, teardowns := s.teardowns + 1 }.moveTo p
        (.ending ends))
  | .ending [] => some (s.moveTo p .sealingInput)
  | .ending (text :: rest) =>
    some ({ s with output := s.output.call text true }.moveTo p
      (.enqueuing s.output.calls.length rest))
  | .enqueuing k rest =>
    match s.output.calls[k]? with
    | some { phase := .returned _, .. } => some (s.moveTo p (.ending rest))
    | _ => none
  | .sealingInput => some ({ s with output := s.output.sealInput }.moveTo p .finishing)
  | .finishing =>
    some (s.moveTo p (if s.closedDone then party.kind.afterFinish else .joining))
  | .joining =>
    some (s.moveTo p (if party.kind.blocking || (s.readerExited && s.writerExited) then
      .sealingOutput else party.kind.afterFinish))
  | .sealingOutput => some ({ s with output := s.output.sealOutput }.moveTo p .snapshotting)
  | .snapshotting => some (s.moveTo p (.publishing s.snapshot))
  | .publishing snapshot => some ((s.publish snapshot).moveTo p party.kind.afterFinish)
  | .awaiting => if s.closedDone then some (s.moveTo p .returned) else none
  | .returned => none

/-- A party appears. -/
def join (kind : PartyKind) (place : PartyPlace) : StdioTransport :=
  { s with parties := s.parties ++ [{ kind, place }] }

/-- `ReaderLoop` ends, and the reader begins a teardown. -/
def readerLeaves (cause : ReaderExit) : StdioTransport :=
  { s with
    reader := .left
    eof := s.eof || decide (cause = ReaderExit.eof)
    readFailed := s.readFailed || decide (cause = ReaderExit.readFailed)
    coreClosed := s.coreClosed || decide (cause = ReaderExit.coreClosed)
    readerExited := true }.join .reader .beginning

/-- `WriterLoop` ends, and the writer tries to finish a teardown. -/
def writerLeaves : StdioTransport :=
  { s with output := s.output.goTo .left, writerExited := true }.join .writer .finishing

end StdioTransport

/-- One step of one party, with what the environment chooses. -/
inductive StdioLabel
  /-- A frame is passed to `Enqueue`. -/
  | enqueue (text : List UInt8) (ends : Bool)
  | call (k : Nat) (expired : Bool) (status : CombinedWaitStatus)
  | writer (answer : PipeAnswer) (status : CombinedWaitStatus)
  | readerLeaves (cause : ReaderExit)
  | writerLeaves
  /-- `CloseAndWait` is called. -/
  | close
  | party (p : Nat) (ends : List (List UInt8))

/-- One step, when it is there to be taken. -/
def StdioTransport.step (s : StdioTransport) : StdioLabel → Option StdioTransport
  | .enqueue text ends => some { s with output := s.output.call text ends }
  | .call k expired status => do
    let call ← s.output.calls[k]?
    let output ← s.output.enqueueStep k call expired status
    return { s with output }
  | .writer answer status => do
    let output ← s.output.writerStep answer status
    return { s with output }
  | .readerLeaves cause =>
    if s.reader = .running ∧ (cause = .inputSealed → s.output.inputSealed = true) then
      some (s.readerLeaves cause)
    else none
  | .writerLeaves => if s.output.writer = .broken then some s.writerLeaves else none
  | .close => some (s.join .host .beginning)
  | .party p ends => do
    let party ← s.parties[p]?
    s.partyStep p party ends

/-- A transport as `Start` leaves it: the coroutines run that could be started, and where one could
not, `Start` begins its cleanup. -/
def startTransport (maxPendingBytes : Nat) (readerStarted writerStarted : Bool) :
    StdioTransport where
  output := { maxPendingBytes, writer := if writerStarted then .taking else .unstarted }
  reader := if readerStarted then .running else .unstarted
  parties :=
    if readerStarted && writerStarted then [] else [{ kind := .start, place := .halfStart }]

/-- The transport from its start on. -/
def stdioTransport : Machine StdioTransport StdioLabel where
  start s := ∃ maxPendingBytes readerStarted writerStarted,
    s = startTransport maxPendingBytes readerStarted writerStarted
  step s label := s.step label

end BbtInfra.Mcp
