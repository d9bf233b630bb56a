import BbtInfra.Mcp.StdioTransport

/-!
# The ledger of the stdio output

Every frame that was passed to `Enqueue` is in one place: in its call, queued, in the hands of the
writer, all in the pipe, dropped or abandoned. The lemmas of the first section say how each
operation moves a frame; the transport only runs these operations. Behind the seal of the output each frame
comes to its count in a bounded number of steps of its own party, and a teardown that was begun does
not come to rest before.
-/
namespace BbtInfra.Mcp

open StdioOutput StdioTransport OutputFrame Option

open Lib (Machine guarded_some)

/-- The call has not returned. -/
def EnqueuePhase.inside : EnqueuePhase → Bool
  | .returned _ => false
  | _ => true

namespace StdioOutput

variable (s : StdioOutput) (k : Nat)

/-- One when the call is inside `Enqueue` with its frame. -/
def insideCount : Nat := if (s.calls[k]?.any fun call => call.phase.inside) = true then 1 else 0

/-- How often the frame is queued. -/
def queuedCount : Nat := s.queue.countP fun frame => decide (frame.ticket = k)

/-- One when the writer holds the frame. -/
def heldCount : Nat :=
  match s.writer with
  | .holding frame _ _ => if frame.ticket = k then 1 else 0
  | .unstarted | .taking | .idle | .broken | .left => 0

/-- How often all of the frame went into the pipe. -/
def writtenCount : Nat :=
  s.segments.countP fun segment => segment.complete && decide (segment.frame.ticket = k)

/-- How often the frame was written, dropped or abandoned. -/
def outcomes : Nat := s.writtenCount k + s.dropped.count k + s.abandoned.count k

/-- In how many places the frame is. -/
def places : Nat := s.insideCount k + s.queuedCount k + s.heldCount k + s.outcomes k

/-- What the pipe has of the frame that the writer holds. -/
def heldPart : List UInt8 :=
  match s.writer with
  | .holding frame offset _ => frame.bytes.take offset
  | .unstarted | .taking | .idle | .broken | .left => []

end StdioOutput

/-- The ledger of the output. -/
structure StdioOutput.Ledger (s : StdioOutput) : Prop where
  placed : ∀ k, s.places k = if k < s.calls.length then 1 else 0
  ticket : ∀ (k : Nat) (call : EnqueueCall), s.calls[k]? = some call → call.frame.ticket = k
  accepted : ∀ (k : Nat) (call : EnqueueCall), s.calls[k]? = some call →
    call.phase = .returned true → k ∉ s.dropped
  drops : s.droppedFrames = s.dropped.length
  abandons : s.abandonedFrames = s.abandoned.length
  bytes : s.queueBytes = (s.queue.map size).sum
  bounded : s.queueBytes ≤ s.maxPendingBytes
  peak : s.queueBytes ≤ s.peakQueueBytes ∧ s.peakQueueBytes ≤ s.maxPendingBytes
  emptied : s.outputSealed = true → s.queue = []
  offset : ∀ frame offset phase, s.writer = .holding frame offset phase → offset < frame.size
  sent : ∀ segment ∈ s.segments, segment.sent ≤ segment.frame.size
  piped : s.pipe =
    (s.segments.flatMap fun segment => segment.frame.bytes.take segment.sent) ++ s.heldPart

section Moves

variable {s : StdioOutput} {k : Nat} {call : EnqueueCall}

/-- Every frame counts, for its line feed. -/
theorem size_pos (frame : OutputFrame) : 0 < frame.size := by
  simp [size, bytes]

/-- A call goes on. -/
theorem insideCount_proceed (found : s.calls[k]? = some call) (phase : EnqueuePhase) (j : Nat) :
    (s.proceed k phase).insideCount j =
      if j = k then (if phase.inside = true then 1 else 0) else s.insideCount j := by
  by_cases same : j = k
  · simp [insideCount, proceed, same, found]
  · simp [insideCount, proceed, same, List.getElem?_modify_ne,
      Ne.symm same]

section

variable (ledger : s.Ledger)

include ledger

/-- A call that has not returned is the only place of its frame. -/
theorem StdioOutput.Ledger.alone (found : s.calls[k]? = some call)
    (inside : call.phase.inside = true) :
    s.insideCount k = 1 ∧ s.queuedCount k = 0 ∧ s.heldCount k = 0 ∧ s.outcomes k = 0 := by
  have place := ledger.placed k
  have counted : s.insideCount k = 1 := by simp [insideCount, found, inside]
  have old := (List.getElem?_eq_some_iff.mp found).1
  rw [if_pos old, places] at place
  omega

/-- What is known of the calls stays known when a call goes on. -/
theorem StdioOutput.Ledger.tickets (k : Nat) (phase : EnqueuePhase) (j : Nat)
    (other : EnqueueCall) (found : (s.proceed k phase).calls[j]? = some other) :
    other.frame.ticket = j := by
  rcases List.getElem?_modify_cases found with ⟨same, old, present, rfl⟩ | ⟨_, old⟩
  · rw [same]
    exact ledger.ticket k old present
  · exact ledger.ticket j other old

/-- An accepted call is not dropped by what another call does. -/
theorem StdioOutput.Ledger.acceptances (found : s.calls[k]? = some call)
    (inside : call.phase.inside = true) (phase : EnqueuePhase) (j : Nat) (other : EnqueueCall)
    (present : (s.proceed k phase).calls[j]? = some other)
    (returned : other.phase = .returned true) :
    j ∉ s.dropped ∧ (phase ≠ .returned true → j ≠ k) := by
  rcases List.getElem?_modify_cases present with ⟨same, old, _, rfl⟩ | ⟨apart, old⟩
  · have alone := ledger.alone found inside
    have none : s.dropped.count k = 0 := by
      have outcomes := alone.2.2.2
      rw [StdioOutput.outcomes] at outcomes
      omega
    exact ⟨same ▸ List.count_eq_zero.mp none, fun other => absurd returned other⟩
  · exact ⟨ledger.accepted j other old returned, fun _ => apart⟩

/-- A call begins. -/
theorem StdioOutput.Ledger.begin (text : List UInt8) (ends : Bool) : (s.call text ends).Ledger :=
  { ledger with
    placed := by
      intro j
      have place := ledger.placed j
      have inside : (s.call text ends).insideCount j =
          if j = s.calls.length then 1 else s.insideCount j := by
        by_cases new : j = s.calls.length
        · simp [insideCount, call, new, EnqueuePhase.inside]
        · by_cases old : j < s.calls.length
          · simp [insideCount, call, new, List.getElem?_append_left old]
          · have more : s.calls.length < j := by omega
            have gone : s.calls[j]? = none := List.getElem?_eq_none (by omega)
            have goneToo : (s.call text ends).calls[j]? = none :=
              List.getElem?_eq_none (by simp [call]; omega)
            simp [insideCount, goneToo, gone, new]
      have length : (s.call text ends).calls.length = s.calls.length + 1 := by
        simp [call]
      rw [places] at place ⊢
      change _ + s.queuedCount j + s.heldCount j + s.outcomes j = _
      rw [inside, length]
      by_cases new : j = s.calls.length
      · have before : s.insideCount j = 0 := by simp [insideCount, new]
        rw [if_pos new, if_pos (by omega)]
        rw [if_neg (by omega)] at place
        omega
      · rw [if_neg new, place]
        by_cases old : j < s.calls.length
        · rw [if_pos old, if_pos (by omega)]
        · rw [if_neg old, if_neg (by omega)]
    ticket := by
      intro j other found
      rcases List.getElem?_push_cases found with ⟨same, rfl⟩ | old
      · exact same.symm
      · exact ledger.ticket j other old
    accepted := by
      intro j other found returned
      rcases List.getElem?_push_cases found with ⟨_, rfl⟩ | old
      · simp at returned
      · exact ledger.accepted j other old returned }

section

variable (found : s.calls[k]? = some call)

include found

/-- A call goes on, and where it returns its frame goes to one other place. -/
theorem StdioOutput.Ledger.placed_next (inside : call.phase.inside = true) {next : StdioOutput}
    {phase : EnqueuePhase} (calls : next.calls = (s.proceed k phase).calls)
    (moved : ∀ j, next.queuedCount j + next.heldCount j + next.outcomes j =
      s.queuedCount j + s.heldCount j + s.outcomes j +
        if j = k then (if phase.inside = true then 0 else 1) else 0) (j : Nat) :
    next.places j = if j < next.calls.length then 1 else 0 := by
  have place := ledger.placed j
  have inner : next.insideCount j = _ :=
    (by rw [insideCount, calls]; rfl : _ = _).trans (insideCount_proceed found phase j)
  have alone := ledger.alone found inside
  have length : next.calls.length = s.calls.length := by simp [calls, proceed]
  have spots := moved j
  rw [places] at place ⊢
  rw [inner, length, ← place]
  by_cases same : j = k
  · subst same
    rw [if_pos rfl] at spots ⊢
    split_ifs at spots ⊢ <;> omega
  · rw [if_neg same] at spots ⊢
    omega

/-- A call goes on and has not returned. -/
theorem StdioOutput.Ledger.proceed
    (inside : call.phase.inside = true) {phase : EnqueuePhase} (still : phase.inside = true) :
    (s.proceed k phase).Ledger :=
  { ledger with
    placed := ledger.placed_next found inside rfl fun j => by
      rw [if_pos still, ite_self]
      rfl
    ticket := ledger.tickets k phase
    accepted := by
      intro j other present returned
      exact (ledger.acceptances found inside phase j other present returned).1 }

section

variable (inside : call.phase.inside = true)

include inside

/-- A call is accepted. -/
theorem StdioOutput.Ledger.push (unsealed : s.outputSealed = false)
    (fits : s.queueBytes + call.frame.size ≤ s.maxPendingBytes) : (s.push k call.frame).Ledger :=
  { ledger with
    placed := ledger.placed_next found inside
        (rfl : _ = (s.proceed k (.returned true)).calls) fun j => by
      have ticket := ledger.ticket k call found
      have queued : (s.push k call.frame).queuedCount j =
          s.queuedCount j + if j = k then 1 else 0 := by
        simp [StdioOutput.queuedCount, StdioOutput.push, ticket, eq_comm (a := k)]
      rw [queued, Nat.add_right_comm _ (ite _ _ _), Nat.add_right_comm _ (ite _ _ _)]
      rfl
    ticket := ledger.tickets k (.returned true)
    accepted := by
      intro j other present returned
      exact (ledger.acceptances found inside (.returned true) j other present returned).1
    bytes := by simp [StdioOutput.push, ledger.bytes]
    bounded := fits
    peak := by
      have before := ledger.peak
      exact ⟨Nat.le_max_right .., Nat.max_le.mpr ⟨before.2, fits⟩⟩
    emptied := by
      intro isSealed
      have wasSealed : s.outputSealed = true := isSealed
      simp [unsealed] at wasSealed }

/-- The sealed output abandons the frame of a call. -/
theorem StdioOutput.Ledger.turnAway : (s.turnAway k).Ledger :=
  { ledger with
    placed := ledger.placed_next found inside
        (rfl : _ = (s.proceed k (.returned false)).calls) fun j => by
      have outcomes : (s.turnAway k).outcomes j = s.outcomes j + if j = k then 1 else 0 := by
        simp [StdioOutput.outcomes, StdioOutput.writtenCount, StdioOutput.turnAway,
          StdioOutput.proceed, List.count_singleton, eq_comm (a := k)]
        omega
      rw [outcomes, ← Nat.add_assoc]
      rfl
    ticket := ledger.tickets k (.returned false)
    accepted := by
      intro j other present returned
      exact (ledger.acceptances found inside (.returned false) j other present returned).1
    abandons := by simp [StdioOutput.turnAway, ledger.abandons] }

/-- The frame of a call is dropped. -/
theorem StdioOutput.Ledger.noteDrop : (s.noteDrop k).Ledger :=
  { ledger with
    placed := ledger.placed_next found inside
        (rfl : _ = (s.proceed k (.returned false)).calls) fun j => by
      have outcomes : (s.noteDrop k).outcomes j = s.outcomes j + if j = k then 1 else 0 := by
        simp [StdioOutput.outcomes, StdioOutput.writtenCount, StdioOutput.noteDrop,
          StdioOutput.proceed, List.count_singleton, eq_comm (a := k)]
        omega
      rw [outcomes, ← Nat.add_assoc]
      rfl
    ticket := ledger.tickets k (.returned false)
    accepted := by
      intro j other present returned
      have kept := ledger.acceptances found inside (.returned false) j other present returned
      have apart := kept.2 (by decide)
      simp [StdioOutput.noteDrop, kept.1, apart]
    drops := by simp [StdioOutput.noteDrop, ledger.drops] }

end

end

/-- The writer goes on with what it has in its hands. -/
theorem StdioOutput.Ledger.goTo {place : WriterPlace}
    (count : ∀ j, (s.goTo place).heldCount j = s.heldCount j)
    (part : (s.goTo place).heldPart = s.heldPart)
    (offset : ∀ frame offset phase, place = .holding frame offset phase → offset < frame.size) :
    (s.goTo place).Ledger :=
  { ledger with
    placed := by
      intro j
      have same : (s.goTo place).places j = s.places j := by
        rw [places, count j]
        rfl
      rw [same]
      exact ledger.placed j
    offset := offset
    piped := by
      rw [part]
      exact ledger.piped }

end

variable {frame : OutputFrame}

/-- The writer takes a frame. -/
theorem StdioOutput.Ledger.take (ledger : s.Ledger) {rest : List OutputFrame}
    (queued : s.queue = frame :: rest) (free : s.writer = .taking) : StdioOutput.Ledger { s with
      queue := rest
      queueBytes := s.queueBytes - frame.size
      writer := .holding frame 0 .sending } := by
  have bytes := ledger.bytes
  rw [queued, List.map_cons, List.sum_cons] at bytes
  exact { ledger with
    placed := by
      intro j
      have place := ledger.placed j
      rw [places] at place ⊢
      have before : s.queuedCount j =
          (rest.countP fun frame => decide (frame.ticket = j)) +
            if frame.ticket = j then 1 else 0 := by
        simp [queuedCount, queued, List.countP_cons]
      have held : s.heldCount j = 0 := by simp [heldCount, free]
      change s.insideCount j + (rest.countP fun frame => decide (frame.ticket = j)) +
        (if frame.ticket = j then 1 else 0) + s.outcomes j = _
      change _ = if j < s.calls.length then 1 else 0
      omega
    bytes := by
      change s.queueBytes - frame.size = (rest.map size).sum
      omega
    bounded := Nat.le_trans (Nat.sub_le ..) ledger.bounded
    peak := ⟨Nat.le_trans (Nat.sub_le ..) ledger.peak.1, ledger.peak.2⟩
    emptied := by
      intro isSealed
      have empty := ledger.emptied isSealed
      simp [queued] at empty
    offset := by
      intro other offset phase same
      cases same
      exact size_pos frame
    piped := by
      have piped := ledger.piped
      simpa [heldPart, free] using piped }

/-- The writer lets go of a frame: it is whole in the pipe, or it is abandoned. -/
theorem outcomes_letGo (frame : OutputFrame) (sent : Nat) (place : WriterPlace) (j : Nat) :
    (s.letGo frame sent place).outcomes j =
      s.outcomes j + if frame.ticket = j ∧ sent = frame.size then 1 else 0 := by
  have written : (s.letGo frame sent place).writtenCount j =
      s.writtenCount j + if frame.ticket = j ∧ sent = frame.size then 1 else 0 := by
    simp [writtenCount, letGo, Segment.complete, List.countP_append,
      List.countP_singleton, and_comm]
  rw [outcomes, written, outcomes]
  change _ + s.dropped.count j + s.abandoned.count j = _
  omega

/-- The pipe after the writer has let go of its frame. -/
theorem segments_letGo (frame : OutputFrame) (sent : Nat) (place : WriterPlace) :
    (s.letGo frame sent place).segments.flatMap (fun segment =>
      segment.frame.bytes.take segment.sent) =
    s.segments.flatMap (fun segment => segment.frame.bytes.take segment.sent) ++
      frame.bytes.take sent := by
  simp [letGo]

/-- The writer gives up its frame. -/
theorem StdioOutput.Ledger.giveUp (ledger : s.Ledger) {offset : Nat}
    {phase : HoldPhase} (held : s.writer = .holding frame offset phase) {place : WriterPlace}
    (free : place = .taking ∨ place = .broken) : (s.giveUp frame offset place).Ledger := by
  have short := ledger.offset frame offset phase held
  have empty : ∀ j, (s.giveUp frame offset place).heldCount j = 0 := by
    rcases free with rfl | rfl <;> exact fun _ => rfl
  have nothing : (s.giveUp frame offset place).heldPart = [] := by
    rcases free with rfl | rfl <;> rfl
  exact { ledger with
    placed := by
      intro j
      have before := ledger.placed j
      have was : s.heldCount j = if frame.ticket = j then 1 else 0 := by
        simp [StdioOutput.heldCount, held]
      have outcomes : (s.giveUp frame offset place).outcomes j =
          s.outcomes j + if frame.ticket = j then 1 else 0 := by
        have letGo := outcomes_letGo (s := s) frame offset place j
        rw [if_neg (by omega)] at letGo
        change _ + _ + (s.abandoned ++ [frame.ticket]).count j = _
        change (s.letGo frame offset place).writtenCount j + s.dropped.count j +
          s.abandoned.count j = _ at letGo
        change (s.letGo frame offset place).writtenCount j + s.dropped.count j + _ = _
        rw [List.count_append, List.count_singleton]
        simp only [beq_iff_eq]
        omega
      rw [StdioOutput.places] at before ⊢
      change s.insideCount j + s.queuedCount j + _ + _ = if j < s.calls.length then 1 else 0
      rw [empty, outcomes]
      omega
    abandons := by simp [StdioOutput.giveUp, ledger.abandons]
    offset := by
      intro other more phase same
      rcases free with rfl | rfl <;> cases same
    sent := by
      intro segment member
      rcases List.mem_append.mp member with old | new
      · exact ledger.sent segment old
      · rw [List.mem_singleton.mp new]
        exact Nat.le_of_lt short
    piped := by
      have piped := ledger.piped
      rw [nothing, List.append_nil]
      change s.pipe = _
      rw [piped]
      have after := segments_letGo (s := s) frame offset place
      rw [StdioOutput.heldPart, held]
      exact after.symm }

/-- The pipe takes bytes. -/
theorem StdioOutput.Ledger.send (ledger : s.Ledger) {offset count : Nat}
    {phase : HoldPhase} (held : s.writer = .holding frame offset phase)
    (fits : offset + count ≤ frame.size) : (s.send frame offset count).Ledger := by
  have was : ∀ j, s.heldCount j = if frame.ticket = j then 1 else 0 := by
    simp [StdioOutput.heldCount, held]
  have piped := ledger.piped
  have part : s.heldPart = frame.bytes.take offset := by simp [StdioOutput.heldPart, held]
  have more : frame.bytes.take offset ++ (frame.bytes.drop offset).take count =
      frame.bytes.take (offset + count) := by rw [List.take_add]
  rw [StdioOutput.send]
  split
  case isTrue done =>
    exact { ledger with
      placed := by
        intro j
        have before := ledger.placed j
        have letGo := outcomes_letGo (s := { s with
          pipe := s.pipe ++ (frame.bytes.drop offset).take count }) frame (offset + count) .taking j
        rw [StdioOutput.places] at before ⊢
        change s.insideCount j + s.queuedCount j + 0 + _ = if j < s.calls.length then 1 else 0
        rw [letGo]
        change _ + (s.outcomes j + _) = _
        have all : offset + count = frame.size := by omega
        have was := was j
        simp only [all, and_true]
        omega
      offset := by
        intro other more phase same
        cases same
      sent := by
        intro segment member
        rcases List.mem_append.mp member with old | new
        · exact ledger.sent segment old
        · rw [List.mem_singleton.mp new]
          exact fits
      piped := by
        rw [segments_letGo]
        change s.pipe ++ _ = (s.segments.flatMap _ ++ _) ++ []
        rw [piped, part, List.append_nil, List.append_assoc, more] }
  case isFalse rest =>
    exact { ledger with
      placed := by
        intro j
        have before := ledger.placed j
        rw [StdioOutput.places, was] at before
        exact before
      offset := by
        intro other further phase same
        cases same
        omega
      piped := by
        change s.pipe ++ _ = s.segments.flatMap _ ++ frame.bytes.take (offset + count)
        rw [piped, part, List.append_assoc, more] }

/-- What is queued is abandoned when the output is sealed. -/
theorem StdioOutput.Ledger.sealOutput (ledger : s.Ledger) : s.sealOutput.Ledger :=
  { ledger with
    placed := by
      intro j
      have before := ledger.placed j
      have moved : (s.queue.map OutputFrame.ticket).count j = s.queuedCount j := by
        simp [StdioOutput.queuedCount, List.count, List.countP_map, Function.comp_def,
          beq_eq_decide]
      have outcomes : s.sealOutput.outcomes j = s.outcomes j + s.queuedCount j := by
        rw [StdioOutput.outcomes, StdioOutput.outcomes, ← moved]
        change s.writtenCount j + s.dropped.count j +
          (s.abandoned ++ s.queue.map OutputFrame.ticket).count j = _
        rw [List.count_append]
        omega
      rw [StdioOutput.places] at before ⊢
      change s.insideCount j + 0 + s.heldCount j + _ = if j < s.calls.length then 1 else 0
      omega
    abandons := by simp [StdioOutput.sealOutput, ledger.abandons]
    bytes := rfl
    bounded := Nat.zero_le _
    peak := ⟨Nat.zero_le _, ledger.peak.2⟩
    emptied := fun _ => rfl }

end Moves

section Steps

variable {s next : StdioOutput} {status : CombinedWaitStatus}

/-- A step of a call of `Enqueue`. -/
theorem enqueueStep_ledger (ledger : s.Ledger) {k : Nat} {call : EnqueueCall}
    (found : s.calls[k]? = some call) {expired : Bool}
    (stepped : s.enqueueStep k call expired status = some next) : next.Ledger := by
  rw [enqueueStep] at stepped
  cases phase : call.phase with
  | checking =>
    have inside : call.phase.inside = true := by simp [phase, EnqueuePhase.inside]
    simp only [phase] at stepped
    split at stepped
    · cases stepped
      exact ledger.turnAway found inside
    case isFalse unsealed =>
      split at stepped
      case isTrue fits =>
        cases stepped
        exact ledger.push found inside (Bool.eq_false_iff.mpr unsealed) fits
      case isFalse =>
        cases stepped
        exact ledger.proceed found inside rfl
  | full | registering | asleep =>
    have inside : call.phase.inside = true := by simp [phase, EnqueuePhase.inside]
    rw [phase] at stepped
    cases stepped
    exact ledger.proceed found inside (by split <;> rfl)
  | expired =>
    have inside : call.phase.inside = true := by simp [phase, EnqueuePhase.inside]
    rw [phase] at stepped
    cases stepped
    split
    · exact ledger.turnAway found inside
    · exact ledger.noteDrop found inside
  | noContext =>
    have inside : call.phase.inside = true := by simp [phase, EnqueuePhase.inside]
    rw [phase] at stepped
    cases stepped
    exact ledger.noteDrop found inside
  | returned accepted => simp [phase] at stepped

section

variable {frame : OutputFrame} {offset : Nat} {phase : HoldPhase} (ledger : s.Ledger)
  (held : s.writer = .holding frame offset phase)

include ledger held

/-- The writer goes on with its frame in another phase. -/
theorem StdioOutput.Ledger.turn (later : HoldPhase) :
    (s.goTo (.holding frame offset later)).Ledger := by
  refine ledger.goTo ?_ ?_ ?_
  · intro j
    simp [StdioOutput.heldCount, StdioOutput.goTo, held]
  · simp [StdioOutput.heldPart, StdioOutput.goTo, held]
  · intro other more _ same
    cases same
    exact ledger.offset frame offset phase held

/-- A step of the writer with a frame in its hands. -/
theorem holdStep_ledger {answer : PipeAnswer}
    (stepped : s.holdStep frame offset phase answer status = some next) : next.Ledger := by
  cases phase with
  | sending =>
    cases answer with
    | wrote count =>
      obtain ⟨met, rfl⟩ := guarded_some stepped
      exact ledger.send held met.2
    | interrupted =>
      cases stepped
      exact ledger
    | wouldBlock =>
      cases stepped
      exact ledger.turn held .registering
    | error =>
      cases stepped
      exact ledger.turn held .failed
  | registering | asleep =>
    cases stepped
    exact ledger.turn held _
  | canceled =>
    cases stepped
    exact ledger.giveUp held (.inl rfl)
  | failed =>
    cases stepped
    have gave : (s.giveUp frame offset .broken).Ledger := ledger.giveUp held (.inr rfl)
    exact { gave with }

end

/-- A step of the writer. -/
theorem writerStep_ledger (ledger : s.Ledger) {answer : PipeAnswer}
    (stepped : s.writerStep answer status = some next) : next.Ledger := by
  rw [writerStep] at stepped
  cases place : s.writer with
  | unstarted | broken | left => simp [place] at stepped
  | taking =>
    cases queue : s.queue with
    | cons frame rest =>
      rw [place, queue] at stepped
      cases stepped
      exact ledger.take queue place
    | nil =>
      rw [place, queue] at stepped
      cases stepped
      split <;>
        exact ledger.goTo (by simp [heldCount, goTo, place])
          (by simp [heldPart, goTo, place]) (by simp)
  | idle =>
    rw [place] at stepped
    cases stepped
    exact ledger.goTo (by simp [heldCount, goTo, place])
      (by simp [heldPart, goTo, place]) (by simp)
  | holding frame offset phase =>
    rw [place] at stepped
    exact holdStep_ledger ledger place stepped

end Steps

section Runs

variable {s next : StdioTransport}

/-- What the steps of a party do to the output. -/
theorem partyStep_output {p : Nat} {party : Party} {ends : List (List UInt8)}
    (stepped : s.partyStep p party ends = some next) :
    next.output = s.output ∨ next.output = s.output.sealInput ∨
      next.output = s.output.sealOutput ∨ ∃ text, next.output = s.output.call text true := by
  rw [partyStep] at stepped
  cases place : party.place with
  | halfStart | sealingInput =>
    rw [place] at stepped
    cases stepped
    exact .inr (.inl rfl)
  | beginning =>
    simp only [place] at stepped
    split at stepped <;> rw [← Option.some.inj stepped] <;> exact .inl rfl
  | ending rest =>
    cases rest with
    | nil =>
      rw [place] at stepped
      cases stepped
      exact .inl rfl
    | cons text rest =>
      rw [place] at stepped
      cases stepped
      exact .inr (.inr (.inr ⟨text, rfl⟩))
  | enqueuing k rest =>
    simp only [place] at stepped
    split at stepped <;> cases stepped
    exact .inl rfl
  | finishing | joining | snapshotting =>
    rw [place] at stepped
    cases stepped
    exact .inl rfl
  | sealingOutput =>
    rw [place] at stepped
    cases stepped
    exact .inr (.inr (.inl rfl))
  | publishing snapshot =>
    rw [place] at stepped
    cases stepped
    rw [publish]
    split <;> exact .inl rfl
  | awaiting =>
    simp only [place, ite_none_right_eq_some, Option.some.injEq] at stepped
    rw [← stepped.2]
    exact .inl rfl
  | returned => simp [place] at stepped

/-- One step keeps the ledger. -/
theorem step_ledger {label : StdioLabel} (ledger : s.output.Ledger)
    (stepped : s.step label = some next) : next.output.Ledger := by
  cases label with
  | enqueue text ends =>
    cases stepped
    exact ledger.begin text ends
  | call k expired status =>
    obtain ⟨call, found, stepped⟩ := bind_eq_some_iff.mp stepped
    obtain ⟨output, moved, stepped⟩ := bind_eq_some_iff.mp stepped
    cases stepped
    exact enqueueStep_ledger ledger found moved
  | writer answer status =>
    obtain ⟨output, moved, stepped⟩ := bind_eq_some_iff.mp stepped
    cases stepped
    exact writerStep_ledger ledger moved
  | readerLeaves cause =>
    obtain ⟨_, rfl⟩ := guarded_some stepped
    exact ledger
  | writerLeaves =>
    obtain ⟨met, rfl⟩ := guarded_some stepped
    exact ledger.goTo (by simp [heldCount, goTo, met])
      (by simp [heldPart, goTo, met]) (by simp)
  | close =>
    cases stepped
    exact ledger
  | party p ends =>
    obtain ⟨party, _, moved⟩ := bind_eq_some_iff.mp stepped
    rcases partyStep_output moved with same | same | same | ⟨text, same⟩
    · rw [same]
      exact ledger
    · rw [same]
      exact { ledger with }
    · rw [same]
      exact ledger.sealOutput
    · rw [same]
      exact ledger.begin text true

/-- The ledger holds in every run. -/
theorem ledger_of_reachable (reachable : stdioTransport.Reachable s) : s.output.Ledger := by
  refine reachable.invariant (fun s => s.output.Ledger) ?_ fun _ _ _ => step_ledger
  rintro _ ⟨maxPendingBytes, readerStarted, writerStarted, rfl⟩
  cases writerStarted <;>
    exact ⟨by simp [startTransport, places, insideCount,
        queuedCount, heldCount, outcomes,
        writtenCount],
      by simp [startTransport], by simp [startTransport], rfl, rfl, rfl, Nat.zero_le _,
      ⟨Nat.le_refl _, Nat.zero_le _⟩, fun _ => rfl, by simp [startTransport],
      by simp [startTransport], rfl⟩

end Runs

end BbtInfra.Mcp
