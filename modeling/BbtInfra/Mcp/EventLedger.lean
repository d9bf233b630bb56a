import BbtInfra.Mcp.EventBody

/-!
# The ledger of an event body

Whatever the threads do, the sections change the queue in a few ways only. The ledger is kept by
each of them: what was handed out and what is queued are the accepted frames, in their order. The
end of the stream follows an accepted flow-end frame; one that finds the queue full is dropped like
any other frame.
-/
namespace BbtInfra.Mcp

open EventBody EventQueue List

open Lib (Machine guarded_some)

/-- The chunk of an answer. -/
def ReadAnswer.chunk : ReadAnswer → Option Bytes
  | .data chunk => some chunk
  | .keepalive | .eof | .failed _ _ => none

/-- The data chunks that were handed out. -/
def dataChunks (replies : List ReadReply) : List Bytes :=
  replies.filterMap fun reply => reply.answer.chunk

/-- What a section does to the fields that decide what is handed out. -/
inductive EventsStep (maxEvents : Nat) (events : EventQueue) : EventQueue → Prop
  | same : EventsStep maxEvents events events
  | push (frame : Bytes) : EventsStep maxEvents events (events.push maxEvents frame)
  | pop {method : ReadMethod} {frame : Bytes} {rest : List Bytes}
    (front : events.queue = frame :: rest)
    (open' : method = .start → events.cancelled = false) :
    EventsStep maxEvents events (events.popLocked method frame rest)
  | eof (drained : events.queue = []) (ended : events.eof = true) :
    EventsStep maxEvents events (events.reply .next .eof)
  | other (method : ReadMethod) {answer : ReadAnswer} (empty : answer.chunk = none)
    (goesOn : answer ≠ .eof) : EventsStep maxEvents events (events.reply method answer)
  | cancel (first : events.cancelled = false) :
    EventsStep maxEvents events { events with cancelled := true, cancelling := .detach }
  | again (marked : events.cancelled = true) :
    EventsStep maxEvents events { events with cancelReturned := true }
  | detach (here : events.cancelling = .detach) :
    EventsStep maxEvents events { events with closed := true, cancelling := .wake }
  | cancelWake (here : events.cancelling = .wake) :
    EventsStep maxEvents events { events with cancelReturned := true, cancelling := .done }

section Steps

variable {body next : EventBody} {maxEvents id : Nat} {reader : Reader}

/-- A reader leaves the events alone. -/
@[simp]
theorem setReader_events (body : EventBody) (id : Nat) (reader : Option Reader) :
    (body.setReader id reader).events = body.events := rfl

/-- Finishing leaves the events that it is given. -/
@[simp]
theorem finish_events (body : EventBody) (id : Nat) (events : EventQueue) :
    (body.finish id events).events = events := rfl

/-- Waking leaves the events alone. -/
@[simp]
theorem wakeAll_events (body : EventBody) : body.wakeAll.events = body.events := rfl

/-- The first section of `Next`. -/
theorem lookStep_events :
    EventsStep maxEvents body.events (body.lookStep id reader).events := by
  rw [lookStep]
  split
  case h_1 frame rest front => exact .pop front fun impossible => by simp at impossible
  case h_2 drained =>
    split
    case isTrue ended => exact .eof drained ended
    case isFalse =>
      split
      · exact .other .next rfl (by simp)
      · exact .same

/-- The first section of `WaitEvent`. -/
theorem enterStep_events : (body.enterStep id reader).events = body.events := by
  rw [enterStep]
  split
  · rfl
  · split <;> rfl

/-- The end of a waiting call. -/
theorem concludeStep_events {status : CombinedWaitStatus} :
    EventsStep maxEvents body.events (body.concludeStep id reader status).events := by
  rw [concludeStep]
  cases reader.method with
  | start =>
    simp only [concludeStart]
    split
    · exact .other .start rfl (by simp)
    case isFalse notCancelled =>
      have open' : body.events.cancelled = false := Bool.eq_false_iff.mpr notCancelled
      split
      case h_1 front => exact .pop front fun _ => open'
      all_goals exact .other .start rfl (by simp)
  | next =>
    simp only [concludeNext]
    split
    · exact .other .next rfl (by simp)
    · split
      · exact .other .next rfl (by simp)
      · exact .same

/-- Every step is one of the ways. -/
theorem step_events {label : EventLabel} (stepped : body.step maxEvents label = some next) :
    EventsStep maxEvents body.events next.events := by
  cases label with
  | push frame =>
    cases stepped
    exact .push frame
  | wake | beginStart | beginNext =>
    obtain ⟨_, rfl⟩ := guarded_some stepped
    exact .same
  | look id =>
    simp only [step] at stepped
    split at stepped
    case h_2 => simp at stepped
    case h_1 reader _ =>
      obtain ⟨_, rfl⟩ := guarded_some stepped
      exact lookStep_events
  | enter id =>
    simp only [step] at stepped
    split at stepped
    case h_2 => simp at stepped
    case h_1 reader _ =>
      obtain ⟨_, rfl⟩ := guarded_some stepped
      rw [enterStep_events]
      exact .same
  | resume id status =>
    simp only [step] at stepped
    split at stepped
    case h_2 => simp at stepped
    case h_1 reader _ =>
      obtain ⟨_, rfl⟩ := guarded_some stepped
      exact .same
  | leave id =>
    simp only [step] at stepped
    split at stepped
    case h_2 => simp at stepped
    case h_1 reader _ =>
      split at stepped
      case h_2 => simp at stepped
      case h_1 status _ =>
        cases stepped
        exact .same
  | conclude id =>
    simp only [step] at stepped
    split at stepped
    case h_2 => simp at stepped
    case h_1 reader _ =>
      split at stepped
      case h_2 => simp at stepped
      case h_1 status _ =>
        cases stepped
        exact concludeStep_events
  | cancel =>
    simp only [step] at stepped
    split at stepped
    case isTrue cancelled =>
      cases stepped
      exact .again cancelled
    case isFalse notCancelled =>
      cases stepped
      exact .cancel (Bool.eq_false_iff.mpr notCancelled)
  | detach =>
    obtain ⟨met, rfl⟩ := guarded_some stepped
    exact .detach met
  | cancelWake =>
    obtain ⟨met, rfl⟩ := guarded_some stepped
    exact .cancelWake met

end Steps

/-- The ledger of the events. -/
structure EventQueue.Balanced (maxEvents : Nat) (events : EventQueue) : Prop where
  /-- What was handed out and what is queued are the accepted frames in their order. -/
  order : dataChunks events.replies ++ events.queue.map sseChunk = events.accepted.map sseChunk
  selected : events.accepted.Sublist events.pushed
  counted : events.accepted.length + events.dropped = events.pushed.length
  bounded : events.queue.length ≤ maxEvents
  pending : events.eofPending = events.accepted.any isFlowEndFrame
  ended : events.eof = (events.eofPending && events.queue.isEmpty)
  /-- The end comes behind a flow-end frame. -/
  eofBehind : ∀ before reply after, events.replies = before ++ reply :: after →
    reply.answer = .eof → ∃ frame ∈ events.accepted, isFlowEndFrame frame = true ∧
      sseChunk frame ∈ dataChunks before
  /-- `Start` hands out nothing behind a cancellation. -/
  startSilent : ∀ reply ∈ events.replies, reply.method = .start → reply.afterCancel = true →
    reply.answer.chunk = none
  marked : events.cancelReturned = true ∨ events.cancelling ≠ .idle → events.cancelled = true

section Ledger

variable {events next : EventQueue} {maxEvents : Nat}

/-- A body that nobody has used. -/
theorem balanced_empty : ({} : EventQueue).Balanced maxEvents where
  order := rfl
  selected := .slnil
  counted := rfl
  bounded := Nat.zero_le _
  pending := rfl
  ended := rfl
  eofBehind := by simp
  startSilent := by simp
  marked := by simp

/-- An answer at the end is the last one or comes before. -/
theorem append_singleton_eq {replies before after : List ReadReply} {reply last : ReadReply}
    (split : replies ++ [last] = before ++ reply :: after) :
    (reply = last ∧ before = replies) ∨ ∃ rest, replies = before ++ reply :: rest := by
  rcases eq_nil_or_concat after with rfl | ⟨rest, end', rfl⟩
  · have parts := append_inj' split rfl
    exact .inl ⟨(cons.inj parts.2).1.symm, parts.1.symm⟩
  · rw [concat_eq_append, ← cons_append, ← append_assoc] at split
    exact .inr ⟨rest, (append_inj' split rfl).1⟩

section

variable (balanced : events.Balanced maxEvents)

include balanced

/-- A push keeps the ledger. -/
theorem EventQueue.Balanced.push (frame : Bytes) :
    (events.push maxEvents frame).Balanced maxEvents := by
  rw [EventQueue.push]
  split
  case isTrue => exact balanced
  case isFalse isOpen =>
    have notEnded : events.eof = false := by
      have neither : events.cancelled = false ∧ events.eof = false := by simpa using isOpen
      exact neither.2
    split
    case isTrue =>
      have counted := balanced.counted
      exact
        { balanced with
          selected := balanced.selected.trans (sublist_append_left _ _)
          counted := by
            simp only [length_append, length_singleton]
            omega }
    case isFalse room =>
      have counted := balanced.counted
      exact
        { balanced with
          order := by
            rw [map_append, ← append_assoc, balanced.order, map_append]
          selected := balanced.selected.append_right [frame]
          counted := by
            simp only [length_append, length_singleton]
            omega
          bounded := by
            rw [length_append, length_singleton]
            omega
          pending := by simp [balanced.pending]
          ended := by
            rw [notEnded]
            simp
          eofBehind := by
            intro before reply after split ends
            obtain ⟨last, member, flowEnd, handed⟩ :=
              balanced.eofBehind before reply after split ends
            exact ⟨last, mem_append_left _ member, flowEnd, handed⟩ }

/-- Handing out the front keeps the ledger. -/
theorem EventQueue.Balanced.pop {method : ReadMethod} {frame : Bytes}
    {rest : List Bytes} (front : events.queue = frame :: rest)
    (open' : method = .start → events.cancelled = false) :
    (events.popLocked method frame rest).Balanced maxEvents := by
  have order := balanced.order
  have bounded := balanced.bounded
  rw [front] at order bounded
  refine
    { balanced with
      order := ?_
      bounded := ?_
      ended := ?_
      eofBehind := ?_
      startSilent := ?_ }
  · have accepted : (events.popLocked method frame rest).accepted = events.accepted := rfl
    rw [accepted, ← order]
    simp [popLocked, EventQueue.reply, dataChunks, ReadAnswer.chunk]
  · exact Nat.le_of_succ_le bounded
  · have notEnded : events.eof = false := by
      rw [balanced.ended, front]
      simp
    simp [popLocked, EventQueue.reply, notEnded]
  · intro before reply after split ends
    rcases append_singleton_eq split with ⟨last, _⟩ | ⟨later, earlier⟩
    · rw [last] at ends
      simp at ends
    · exact balanced.eofBehind before reply later earlier ends
  · intro reply member start after
    rcases mem_append.mp member with earlier | last
    · exact balanced.startSilent reply earlier start after
    · rw [mem_singleton.mp last] at start after
      have open'' := open' start
      have marked := balanced.marked (.inl after)
      rw [open''] at marked
      simp at marked

/-- An answer without a frame keeps the ledger; the end is answered behind the last frame. -/
theorem EventQueue.Balanced.reply {method : ReadMethod}
    {answer : ReadAnswer} (empty : answer.chunk = none)
    (ends : answer = .eof → events.queue = [] ∧ events.eof = true) :
    (events.reply method answer).Balanced maxEvents := by
  refine { balanced with order := ?_, eofBehind := ?_, startSilent := ?_ }
  · have accepted : (events.reply method answer).accepted = events.accepted := rfl
    rw [accepted, ← balanced.order]
    simp [EventQueue.reply, dataChunks, empty]
  · intro before reply after split eof
    rcases append_singleton_eq split with ⟨last, here⟩ | ⟨later, earlier⟩
    · rw [last] at eof
      obtain ⟨drained, ended⟩ := ends eof
      have order := balanced.order
      rw [drained, map_nil, append_nil] at order
      have flagged := balanced.ended
      rw [ended, drained, balanced.pending] at flagged
      have some_end : events.accepted.any isFlowEndFrame = true := by simpa using flagged.symm
      obtain ⟨frame, member, flowEnd⟩ := any_eq_true.mp some_end
      refine ⟨frame, member, flowEnd, ?_⟩
      rw [here, order]
      exact mem_map_of_mem member
    · exact balanced.eofBehind before reply later earlier eof
  · intro reply member start after
    rcases mem_append.mp member with earlier | last
    · exact balanced.startSilent reply earlier start after
    · rw [mem_singleton.mp last]
      exact empty

end

/-- Every section keeps the ledger. -/
theorem EventsStep.balanced (step : EventsStep maxEvents events next)
    (balanced : events.Balanced maxEvents) : next.Balanced maxEvents := by
  cases step with
  | same => exact balanced
  | push frame => exact balanced.push frame
  | pop front open' => exact balanced.pop front open'
  | eof drained ended => exact balanced.reply rfl fun _ => ⟨drained, ended⟩
  | other method empty goesOn => exact balanced.reply empty fun eof => absurd eof goesOn
  | cancel => exact { balanced with marked := fun _ => rfl }
  | again marked => exact { balanced with marked := fun _ => marked }
  | detach here => exact { balanced with marked := fun _ => balanced.marked (.inr (by simp [here])) }
  | cancelWake here =>
    exact { balanced with marked := fun _ => balanced.marked (.inr (by simp [here])) }

/-- The ledger holds in every reachable state. -/
theorem balanced_of_reachable {body : EventBody}
    (reachable : (eventBody maxEvents).Reachable body) : body.events.Balanced maxEvents := by
  refine reachable.invariant (fun body => body.events.Balanced maxEvents) ?_ ?_
  · rintro body rfl
    exact balanced_empty
  · intro body label next balanced stepped
    exact (step_events stepped).balanced balanced

end Ledger

section End

variable {body : EventBody} {maxEvents : Nat}

/-- A call of `Next` that finds nobody in its way, up to its first section. -/
def readNow (id : Nat) : List EventLabel := [.beginNext id, .look id]

/-- Calls of `Next` one behind the other. -/
def readAll (id : Nat) : Nat → List EventLabel
  | 0 => []
  | calls + 1 => readNow id ++ readAll id calls

/-- What a call of `Next` comes to once a flow-end frame was accepted: it never waits. -/
theorem exec_readNow (balanced : body.events.Balanced maxEvents) {id : Nat}
    (free : body.readers id = none) (pending : body.events.eofPending = true) :
    ∃ next, (eventBody maxEvents).exec body (readNow id) = some next ∧ next.readers id = none ∧
      next.events = match body.events.queue with
        | [] => body.events.reply .next .eof
        | frame :: rest => body.events.popLocked .next frame rest := by
  have ended := balanced.ended
  refine ⟨(body.setReader id (some { method := .next, phase := .look })).lookStep id
    { method := .next, phase := .look }, ?_, ?_, ?_⟩
  · simp [readNow, Machine.exec, eventBody, step, free, setReader]
  · cases front : body.events.queue with
    | cons frame rest => simp [lookStep, front, finish, setReader]
    | nil =>
      have atEnd : body.events.eof = true := by simp [ended, pending, front]
      simp [lookStep, front, atEnd, finish, setReader]
  · cases front : body.events.queue with
    | cons frame rest => simp [lookStep, front]
    | nil =>
      have atEnd : body.events.eof = true := by simp [ended, pending, front]
      simp [lookStep, front, atEnd]

/-- Once a flow-end frame was accepted, a reader comes to the end behind what is queued. -/
theorem exec_readAll (reachable : (eventBody maxEvents).Reachable body) {id : Nat}
    (free : body.readers id = none) (pending : body.events.eofPending = true) :
    ∃ final, (eventBody maxEvents).exec body (readAll id (body.events.queue.length + 1)) =
        some final ∧
      (final.events.replies.getLast?).map ReadReply.answer = some .eof := by
  generalize size : body.events.queue.length = left
  induction left generalizing body with
  | zero =>
    obtain ⟨next, executed, _, after⟩ :=
      exec_readNow (balanced_of_reachable reachable) free pending
    rw [length_eq_zero_iff.mp size] at after
    refine ⟨next, by simpa [readAll] using executed, ?_⟩
    rw [after]
    simp [reply]
  | succ left ih =>
    obtain ⟨frame, rest, front⟩ := exists_cons_of_length_eq_add_one size
    obtain ⟨next, executed, nextFree, after⟩ :=
      exec_readNow (balanced_of_reachable reachable) free pending
    rw [front] at after size
    simp only at after
    obtain ⟨labels, run⟩ := reachable
    have nextReachable : (eventBody maxEvents).Reachable next := ⟨_, run.append_exec executed⟩
    have nextPending : next.events.eofPending = true := by
      rw [after]
      exact pending
    have nextSize : next.events.queue.length = left := by
      rw [after]
      simpa [popLocked, reply] using size
    obtain ⟨final, later, ends⟩ := ih nextReachable nextFree nextPending nextSize
    exact ⟨final, Machine.exec_append executed later, ends⟩

/-- The ledger of an event body. The chunks handed out are the accepted frames in their order; what
was accepted and dropped is what was pushed while the body was open; the queue is bounded; the end
comes behind a flow-end frame, and it follows every one that was accepted, as soon as the frames
queued with it are read; behind the mark of a `Cancel` no frame is accepted any more, and `Start`
hands none out. -/
theorem event_body_ledger {labels : List EventLabel} (run : (eventBody maxEvents).Run labels body) :
    dataChunks body.events.replies ++ body.events.queue.map sseChunk =
      body.events.accepted.map sseChunk ∧
    body.events.accepted.Sublist body.events.pushed ∧
    body.events.accepted.length + body.events.dropped = body.events.pushed.length ∧
    body.events.queue.length ≤ maxEvents ∧
    (∀ before reply after, body.events.replies = before ++ reply :: after → reply.answer = .eof →
      ∃ frame ∈ body.events.accepted, isFlowEndFrame frame = true ∧
        sseChunk frame ∈ dataChunks before) ∧
    (∀ frame ∈ body.events.accepted, isFlowEndFrame frame = true → ∀ id, body.readers id = none →
      ∃ final, (eventBody maxEvents).exec body (readAll id (body.events.queue.length + 1)) =
          some final ∧
        (final.events.replies.getLast?).map ReadReply.answer = some .eof) ∧
    (body.events.cancelled = true → ∀ frame next,
      body.step maxEvents (.push frame) = some next → next.events = body.events) ∧
    ∀ reply ∈ body.events.replies, reply.method = .start → reply.afterCancel = true →
      reply.answer.chunk = none := by
  have reachable : (eventBody maxEvents).Reachable body := ⟨labels, run⟩
  have balanced := balanced_of_reachable reachable
  refine ⟨balanced.order, balanced.selected, balanced.counted, balanced.bounded,
    balanced.eofBehind, ?_, ?_, balanced.startSilent⟩
  · intro frame member flowEnd id free
    have pending : body.events.eofPending = true := by
      rw [balanced.pending]
      exact any_eq_true.mpr ⟨frame, member, flowEnd⟩
    exact exec_readAll reachable free pending
  · intro cancelled frame next stepped
    cases stepped
    simp [push, cancelled]

/-- A response that ends a stream. -/
def flowEndSample : Bytes :=
  text "\x7b\"jsonrpc\":\"2.0\",\"id\":1,\"result\":\x7b\"resultType\":\"complete\"\x7d\x7d"

/-- The sample is taken for the end of a stream. -/
theorem flowEndSample_ends : isFlowEndFrame flowEndSample = true := by decide +kernel

/-- A flow-end frame that was accepted is followed by the end. -/
theorem event_body_ledger_end :
    ∃ body, (eventBody 1).Reachable body ∧ flowEndSample ∈ body.events.accepted ∧
      ∃ final, (eventBody 1).exec body (readAll 0 2) = some final ∧
        (final.events.replies.getLast?).map ReadReply.answer = some .eof := by
  have begun : (eventBody 1).start {} := rfl
  have executed : (eventBody 1).exec {} [.push flowEndSample] =
      some { events := ({} : EventQueue).push 1 flowEndSample, wakes := 1 } := rfl
  obtain ⟨labels, run⟩ := Machine.reachable_of_exec begun executed
  refine ⟨_, ⟨labels, run⟩, by simp [push], ?_⟩
  exact (event_body_ledger run).2.2.2.2.2.1 flowEndSample (by simp [push])
    flowEndSample_ends 0 rfl

/-- A flow-end frame that finds the queue full: the reader drains the queue, and the next call is
answered by a comment instead of the end. -/
theorem flow_end_dropped :
    ∃ body, (eventBody 1).Reachable body ∧ flowEndSample ∈ body.events.pushed ∧
      isFlowEndFrame flowEndSample = true ∧ body.events.queue = [] ∧ body.events.eof = false ∧
      (body.events.replies.getLast?).map ReadReply.answer = some .keepalive := by
  have reached := Machine.exists_reachable
    ([.push [], .push flowEndSample, .beginNext 0, .look 0, .beginNext 0, .look 0, .enter 0,
      .resume 0 .timedOut, .leave 0, .conclude 0])
    (m := eventBody 1)
    (fun body : EventBody => decide (flowEndSample ∈ body.events.pushed) &&
      body.events.queue.isEmpty && !body.events.eof &&
      decide ((body.events.replies.getLast?).map ReadReply.answer = some .keepalive)) rfl
    (by decide +kernel)
  obtain ⟨body, reachable, tested⟩ := reached
  simp only [Bool.and_eq_true, decide_eq_true_eq, Bool.not_eq_true', List.isEmpty_iff] at tested
  exact ⟨body, reachable, tested.1.1.1, flowEndSample_ends, tested.1.1.2, tested.1.2, tested.2⟩

end End

end BbtInfra.Mcp
