import BbtInfra.Rpc.HandshakeGuarantees
import BbtInfra.Rpc.Reader

/-!
# Cuts of a legal stream

Each of the three readers looks for frames behind another amount of input: behind every piece
of 32 KiB, behind the whole stash, behind a whole batch. What is fed in between has to fit the
decoder beside the bytes of the frame that is unfinished. Whether it does depends on the sizes
of the frames and on the cut only, and nothing else decides whether the frames come out.
-/
namespace BbtInfra.Rpc

open Lib Framing List

/-- How much has arrived of the frame at which a stream of frames of these sizes stands. -/
def unfinished : List Nat → Nat → Nat
  | [], arrived => arrived
  | size :: later, arrived =>
    if arrived < size then arrived else unfinished later (arrived - size)

/-- Behind whole frames only the others count. -/
theorem unfinished_append (done left : List Nat) (arrived : Nat) :
    unfinished (done ++ left) (done.sum + arrived) = unfinished left arrived := by
  induction done with
  | nil => simp
  | cons size done ih =>
    have whole : ¬size + (done.sum + arrived) < size := by omega
    rw [cons_append, sum_cons, Nat.add_assoc, unfinished, if_neg whole,
      Nat.add_sub_cancel_left, ih]

/-- In front of the end of a frame it is that frame which is unfinished. -/
theorem unfinished_short {left : List Nat} {arrived : Nat}
    (short : ∀ size ∈ left.head?, arrived < size) : unfinished left arrived = arrived := by
  cases left with
  | nil => rfl
  | cons size later => rw [unfinished, if_pos (short size rfl)]

/-- Nothing has arrived of a stream that begins. -/
theorem unfinished_zero (frames : List Nat) : unfinished frames 0 = 0 := by
  induction frames with
  | nil => rfl
  | cons size later ih =>
    rw [unfinished, Nat.zero_sub, ih]
    exact ite_self 0

/-- The sizes of a legal stream at a reader with a frame limit. -/
structure StreamShape where
  maxFrameBytes : Nat
  hello : Nat
  ack : Nat
  frames : List Nat

namespace StreamShape

variable (shape : StreamShape)

/-- Where the `HelloAck` ends. -/
def ackEnd : Nat := shape.hello + shape.ack

/-- `PendingLimit` of the handshake. -/
def helloLimit : Nat := 4 + 2 * min shape.maxFrameBytes kRpcV2HelloMaxFrameBytes

/-- `PendingLimit` of the data phase. -/
def dataLimit : Nat := 4 + 2 * shape.maxFrameBytes

/-- A batch whose segments have these sizes, `start` bytes into the stream, fits the decoder
wherever its bytes are fed. -/
structure BatchFits (start : Nat) (sizes : List Nat) : Prop where
  hello : start < shape.hello → shape.hello ≤ start + sizes.sum →
    segmentReach start sizes shape.hello ≤ shape.helloLimit
  stash : start < shape.hello → shape.ackEnd ≤ start + sizes.sum →
    chunkReach 0 (start + sizes.sum - shape.hello) shape.ack ≤ shape.helloLimit
  ack : shape.hello ≤ start → start < shape.ackEnd → shape.ackEnd ≤ start + sizes.sum →
    segmentReach (start - shape.hello) sizes shape.ack ≤ shape.helloLimit
  commit : start < shape.ackEnd → shape.ackEnd ≤ start + sizes.sum →
    start + sizes.sum - shape.ackEnd ≤ shape.dataLimit
  data : shape.ackEnd ≤ start →
    unfinished shape.frames (start - shape.ackEnd) + sizes.sum ≤ shape.dataLimit

/-- All the batches behind the first `start` bytes fit. -/
def CutFits (start : Nat) : List (List Nat) → Prop
  | [] => True
  | sizes :: later => shape.BatchFits start sizes ∧ CutFits (start + sizes.sum) later

/-- The batches of the data phase fit, when the frames of these sizes are still to come and
`arrived` bytes of them are there. -/
def DataFits (limit : Nat) (frames : List Nat) (arrived : Nat) : List (List Nat) → Prop
  | [] => True
  | sizes :: later => unfinished frames arrived + sizes.sum ≤ limit ∧
      DataFits limit frames (arrived + sizes.sum) later

variable {shape} {start : Nat}

/-- Behind whole frames only the others count. -/
theorem dataFits_append (limit : Nat) (done left : List Nat) (arrived : Nat)
    (batches : List (List Nat)) :
    DataFits limit (done ++ left) (done.sum + arrived) batches ↔
      DataFits limit left arrived batches := by
  induction batches generalizing arrived with
  | nil => exact Iff.rfl
  | cons sizes later ih =>
    rw [DataFits, DataFits, unfinished_append, Nat.add_assoc, ih]

/-- Batches without bytes fit when nothing is unfinished. -/
theorem dataFits_drained (limit : Nat) {batches : List (List Nat)}
    (empty : ∀ sizes ∈ batches, sizes.sum = 0) : DataFits limit [] 0 batches := by
  induction batches with
  | nil => trivial
  | cons sizes later ih =>
    have none' : sizes.sum = 0 := empty sizes (by simp)
    have rest := ih fun sizes member => empty sizes (by simp [member])
    rw [DataFits, none', unfinished]
    exact ⟨Nat.zero_le _, rest⟩

/-- Behind the `HelloAck` only the data phase counts. -/
theorem cutFits_data (behind : shape.ackEnd ≤ start) (batches : List (List Nat)) :
    shape.CutFits start batches ↔
      DataFits shape.dataLimit shape.frames (start - shape.ackEnd) batches := by
  induction batches generalizing start with
  | nil => exact Iff.rfl
  | cons sizes later ih =>
    have early : shape.hello ≤ shape.ackEnd := Nat.le_add_right _ _
    have moved : start + sizes.sum - shape.ackEnd = start - shape.ackEnd + sizes.sum := by omega
    rw [CutFits, DataFits, ih (by omega), moved]
    have first : shape.BatchFits start sizes ↔
        unfinished shape.frames (start - shape.ackEnd) + sizes.sum ≤ shape.dataLimit := by
      constructor
      · intro fits
        exact fits.data behind
      · intro room
        constructor <;> intros <;> omega
    rw [first]

/-- Batches that end within a handshake frame always fit. -/
theorem cutFits_skip {before later : List (List Nat)}
    (inside : start + before.flatten.sum < shape.hello ∨
      (shape.hello ≤ start ∧ start + before.flatten.sum < shape.ackEnd)) :
    shape.CutFits start (before ++ later) ↔
      shape.CutFits (start + before.flatten.sum) later := by
  induction before generalizing start with
  | nil => simp
  | cons sizes before ih =>
    have early : shape.hello ≤ shape.ackEnd := Nat.le_add_right _ _
    rw [flatten_cons, sum_append] at inside ⊢
    have fits : shape.BatchFits start sizes := by
      constructor <;> intros <;> omega
    rw [cons_append, CutFits, ih (by omega), Nat.add_assoc]
    exact and_iff_right fits

/-- The batch that brings the end of the `Hello`. -/
theorem batchFits_hello {sizes : List Nat} (before : start < shape.hello)
    (reached : shape.hello ≤ start + sizes.sum) :
    shape.BatchFits start sizes ↔ segmentReach start sizes shape.hello ≤ shape.helloLimit ∧
      (shape.ackEnd ≤ start + sizes.sum →
        chunkReach 0 (start + sizes.sum - shape.hello) shape.ack ≤ shape.helloLimit ∧
        start + sizes.sum - shape.ackEnd ≤ shape.dataLimit) := by
  have early : shape.hello ≤ shape.ackEnd := Nat.le_add_right _ _
  constructor
  · intro fits
    refine ⟨fits.hello before reached, fun whole => ⟨fits.stash before whole, ?_⟩⟩
    exact fits.commit (by omega) whole
  · intro ⟨reach, whole⟩
    constructor
    · intro _ _
      exact reach
    · intro _ both
      exact (whole both).1
    · intro behind
      omega
    · intro _ both
      exact (whole both).2
    · intro behind
      omega

/-- The batch that brings the end of the `HelloAck`, when the `Hello` was there. -/
theorem batchFits_ack {sizes : List Nat} (behind : shape.hello ≤ start)
    (before : start < shape.ackEnd) (reached : shape.ackEnd ≤ start + sizes.sum) :
    shape.BatchFits start sizes ↔
      segmentReach (start - shape.hello) sizes shape.ack ≤ shape.helloLimit ∧
      start + sizes.sum - shape.ackEnd ≤ shape.dataLimit := by
  constructor
  · intro fits
    exact ⟨fits.ack behind before reached, fits.commit before reached⟩
  · intro ⟨reach, room⟩
    constructor
    · intro early
      omega
    · intro early
      omega
    · intro _ _ _
      exact reach
    · intro _ _
      exact room
    · intro late
      omega

end StreamShape

section Phases

open StreamShape

variable {protobuf : Protobuf} (epoch : UInt64) {decoder : SessionFrameDecoder}

/-- The size of a frame on the wire. -/
def frameSize (deliverable : Bytes × SessionFrame) : Nat :=
  kFramePrefixBytes + deliverable.1.length

/-- The sizes of a stream's frames add up to its length. -/
theorem frameSize_sum (frames : List (Bytes × SessionFrame)) :
    (stream kFramePrefixBytes (frames.map Prod.fst)).length =
      (frames.map frameSize).sum := by
  rw [stream_length, map_map]
  rfl

/-- The bytes of batches of segments. -/
theorem flatten_sizes (batches : List (List Bytes)) :
    (batches.map (map length)).flatten.sum = batches.flatten.flatten.length := by
  rw [length_flatten, map_flatten]

/-- Behind a frame that ends the session there is no other that counts. -/
theorem untilEnd_stop {epoch : UInt64} {done left : List SessionFrame}
    (ends : done.any (endsSession epoch) = true)
    (whole : untilEnd epoch (done ++ left) = done ++ left) : left = [] := by
  rw [untilEnd_append, if_pos ends] at whole
  have bounded : (untilEnd epoch done).length ≤ done.length := untilEnd_length_le done
  have lengths := congrArg length whole
  rw [length_append] at lengths
  have none' : left.length = 0 := by omega
  exact length_eq_zero_iff.mp none'

/-- The reader hands out the frames of a legal stream when every batch fits beside the
unfinished frame and no frame in front of the last ends the session. -/
theorem readerLoop_iff (streaming : Streaming decoder) (todo : List (Bytes × SessionFrame))
    (handed : List SessionFrame)
    (deliverable : ∀ d ∈ todo, Deliverable protobuf decoder.maxFrameBytes d.1 d.2)
    (batches : List (List Bytes))
    (legal : decoder.buffer ++ batches.flatten.flatten =
      stream kFramePrefixBytes (todo.map Prod.fst)) :
    (readerLoop protobuf epoch decoder handed (batches.map .ok)).HandedOut
        (handed ++ todo.map Prod.snd) ↔
      DataFits decoder.pendingLimit (todo.map frameSize) decoder.buffer.length
        (batches.map (map List.length)) ∧
      untilEnd epoch (todo.map Prod.snd) = todo.map Prod.snd := by
  induction batches generalizing decoder handed todo with
  | nil =>
    obtain ⟨done, left, rest, rfl, _, behind, short, drained⟩ :=
      @drain_whole protobuf epoch decoder _ streaming todo handed deliverable legal
    rw [map_nil, readerLoop, drained, map_append, untilEnd_append, map_nil,
      DataFits]
    by_cases ends : (done.map Prod.snd).any (endsSession epoch) = true
    · rw [if_pos ends, if_pos ends]
      simp only [Reading.HandedOut, append_cancel_left_eq, true_and]
    · have drained' : left = [] := by
        cases left with
        | nil => rfl
        | cons first others =>
          have partial' := short first rfl
          have lengths := congrArg length behind
          simp only [flatten_nil, append_nil, map_cons, stream_cons,
            length_append, frame_length] at lengths
          omega
      subst drained'
      rw [if_neg ends, if_neg ends]
      simp [Reading.HandedOut, untilEnd]
  | cons segments later ih =>
    obtain ⟨done, left, rest, rfl, whole, behind, short, drained⟩ :=
      @drain_whole protobuf epoch decoder _ streaming todo handed deliverable legal
    have arrived : decoder.buffer.length = (done.map frameSize).sum + rest.length := by
      rw [whole, length_append, frameSize_sum]
    have limited : ∀ body ∈ left.map Prod.fst, body.length ≤ decoder.maxFrameBytes := by
      intro body member
      obtain ⟨d, own, rfl⟩ := mem_map.mp member
      exact (deliverable d (by simp [own])).small
    have first : unfinished (left.map frameSize) rest.length = rest.length := by
      apply unfinished_short
      intro size member
      cases left with
      | nil => simp at member
      | cons d others =>
        simp only [map_cons, head?_cons, Option.mem_some_iff] at member
        rw [← member]
        exact short d rfl
    rw [map_cons, readerLoop, drained, map_append, map_append, map_cons,
      arrived, dataFits_append]
    by_cases ends : (done.map Prod.snd).any (endsSession epoch) = true
    · rw [if_pos ends]
      simp only [Reading.HandedOut, append_cancel_left_eq]
      rw [untilEnd_append, if_pos ends]
      constructor
      · intro all
        refine ⟨?_, all⟩
        have nothing : left = [] := by
          have stop := untilEnd_stop ends (by rw [untilEnd_append, if_pos ends]; exact all)
          exact map_eq_nil_iff.mp stop
        subst nothing
        obtain ⟨rfl, empty⟩ := append_eq_nil_iff.mp behind
        apply dataFits_drained
        intro sizes member
        rw [← map_cons] at member
        obtain ⟨batch, own, rfl⟩ := mem_map.mp member
        rw [← length_flatten, length_eq_zero_iff]
        have part := flatten_eq_nil_iff.mp empty
        rw [flatten_eq_nil_iff]
        intro segment inside
        exact part segment (mem_flatten_of_mem own inside)
      · intro fits
        exact fits.2
    · have held : rest.length ≤ decoder.pendingLimit := by
        rw [streaming.limits.2]
        cases left with
        | nil =>
          have lengths := congrArg length behind
          simp only [length_append, map_nil, stream_nil, length_nil]
            at lengths
          omega
        | cons d others =>
          have partial' := short d rfl
          have small := limited d.1 (by simp)
          unfold kFramePrefixBytes at partial'
          omega
      rw [flatten_cons, flatten_append, ← append_assoc] at behind
      rw [if_neg ends, untilEnd_append, if_neg ends, append_cancel_left_eq, DataFits, first,
        ← length_flatten]
      dsimp only
      rw [feedAll_iff (streaming.refill rest) segments (left.map Prod.fst) held limited behind]
      have same : { decoder with buffer := rest }.pendingLimit = decoder.pendingLimit := rfl
      rw [same]
      by_cases room : rest.length + segments.flatten.length ≤ decoder.pendingLimit
      · have lengths : (rest ++ segments.flatten).length =
            rest.length + segments.flatten.length := length_append
        have next := ih (streaming.refill (rest ++ segments.flatten)) left
          (handed ++ done.map Prod.snd) (fun d member => deliverable d (by simp [member])) behind
        rw [if_pos room, ← append_assoc]
        rw [next, lengths, and_assoc]
        exact (and_iff_right room).symm
      · rw [if_neg room]
        constructor
        · intro never
          exact never.elim
        · intro fits
          exact absurd fits.1.1 room

variable {stash : Bytes} {batches : List (List Bytes)} {maxFrameBytes : Nat} {ack : SessionFrame}

/-- A stash beyond the data limit is refused. -/
theorem commitStashAfterFinalAck_refuses
    (most : maxFrameBytes ≤ kRpcV2MaxFrameBytes) (large : 4 + 2 * maxFrameBytes < stash.length) :
    ∃ error, commitStashAfterFinalAck { maxFrameBytes } stash = .error error := by
  have some' : stash ≠ [] := by
    intro empty
    rw [empty, length_nil] at large
    omega
  have streaming : Streaming { maxFrameBytes, helloPhase := false } := ⟨rfl, rfl, most⟩
  have beyond : ({ maxFrameBytes, helloPhase := false } : SessionFrameDecoder).buffer.length +
      stash.length >
        ({ maxFrameBytes, helloPhase := false } : SessionFrameDecoder).pendingLimit := by
    rw [streaming.limits.2, length_nil, Nat.zero_add]
    exact large
  obtain ⟨error, after, refused⟩ := SessionFrameDecoder.feed_overflow beyond
  unfold commitStashAfterFinalAck SessionFrameDecoder.setHelloPhase
  rw [if_neg some']
  rw [refused]
  exact ⟨_, rfl⟩

/-- A link that is read past its handshake. -/
theorem readLink_some_iff {hello : SessionFrame} {reading : Reading} :
    readLink protobuf epoch maxFrameBytes batches = .ok (some { hello, ack, reading }) ↔
      ∃ first later second rest after,
        handshakeRead protobuf { maxFrameBytes } [] batches = .ok (some (first, later)) ∧
        handshakeRead protobuf first.decoder first.stash later = .ok (some (second, rest)) ∧
        commitStashAfterFinalAck second.decoder second.stash = .ok after ∧
        first.frame = hello ∧ second.frame = ack ∧
        readerLoop protobuf epoch after [] (rest.map .ok) = reading := by
  unfold readLink
  constructor
  · intro read
    obtain ⟨found, one, read⟩ := bind_ok read
    cases found with
    | none => simp [pure, Except.pure] at read
    | some first =>
      obtain ⟨first, later⟩ := first
      obtain ⟨found, two, read⟩ := bind_ok read
      cases found with
      | none => simp [pure, Except.pure] at read
      | some second =>
        obtain ⟨second, rest⟩ := second
        obtain ⟨after, committed, read⟩ := bind_ok read
        simp only [pure, Except.pure, Except.ok.injEq, Option.some.injEq, LinkReading.mk.injEq]
          at read
        exact ⟨first, later, second, rest, after, one, two, committed, read⟩
  · rintro ⟨first, later, second, rest, after, one, two, committed, rfl, rfl, rfl⟩
    simp only [one, two, committed, Bind.bind, Except.bind, pure, Except.pure]

/-- What is left behind the handshake is read when the stash fits, every batch does, and no frame
in front of the last ends the session. -/
theorem dataPhase_iff (most : maxFrameBytes ≤ kRpcV2MaxFrameBytes)
    (todo : List (Bytes × SessionFrame))
    (deliverable : ∀ d ∈ todo, Deliverable protobuf maxFrameBytes d.1 d.2)
    (legal : stash ++ batches.flatten.flatten =
      stream kFramePrefixBytes (todo.map Prod.fst)) :
    (∃ after, commitStashAfterFinalAck { maxFrameBytes } stash = .ok after ∧
      (readerLoop protobuf epoch after [] (batches.map .ok)).HandedOut (todo.map Prod.snd)) ↔
      stash.length ≤ 4 + 2 * maxFrameBytes ∧
      DataFits (4 + 2 * maxFrameBytes) (todo.map frameSize) stash.length
        (batches.map (map length)) ∧
      untilEnd epoch (todo.map Prod.snd) = todo.map Prod.snd := by
  by_cases room : stash.length ≤ 4 + 2 * maxFrameBytes
  · have small : ∀ body ∈ todo.map Prod.fst, body.length ≤ maxFrameBytes := by
      intro body member
      obtain ⟨d, own, rfl⟩ := mem_map.mp member
      exact (deliverable d own).small
    have committed := commitStashAfterFinalAck_accepts _ most legal small room
    have streaming : Streaming { maxFrameBytes, buffer := stash, helloPhase := false } :=
      ⟨rfl, rfl, most⟩
    have loop := readerLoop_iff epoch streaming todo [] deliverable batches legal
    rw [nil_append, streaming.limits.2] at loop
    rw [and_iff_right room, ← loop, committed]
    simp
  · obtain ⟨error, refused⟩ := commitStashAfterFinalAck_refuses most (Nat.not_le.mp room)
    rw [refused]
    simp [room]

/-- The second handshake read gives this frame, and the reader behind it hands out those. -/
def AckReads (protobuf : Protobuf) (epoch : UInt64) (decoder : SessionFrameDecoder)
    (stash : Bytes) (batches : List (List Bytes)) (ack : SessionFrame)
    (frames : List SessionFrame) : Prop :=
  ∃ second rest after,
    handshakeRead protobuf decoder stash batches = .ok (some (second, rest)) ∧
    second.frame = ack ∧ commitStashAfterFinalAck second.decoder second.stash = .ok after ∧
    (readerLoop protobuf epoch after [] (rest.map .ok)).HandedOut frames

/-- A read that finds its frame leaves the rest to the reader. -/
theorem ackReads_found {rest : List (List Bytes)} {ack : HandshakeRead}
    (frames : List SessionFrame)
    (found : handshakeRead protobuf decoder stash batches = .ok (some (ack, rest))) :
    AckReads protobuf epoch decoder stash batches ack.frame frames ↔
      ∃ after, commitStashAfterFinalAck ack.decoder ack.stash = .ok after ∧
        (readerLoop protobuf epoch after [] (rest.map .ok)).HandedOut frames := by
  unfold AckReads
  rw [found]
  constructor
  · rintro ⟨second, others, after, same, -, committed, handedOut⟩
    cases same
    exact ⟨after, committed, handedOut⟩
  · rintro ⟨after, committed, handedOut⟩
    exact ⟨ack, rest, after, rfl, rfl, committed, handedOut⟩

/-- A read that is refused leaves nothing. -/
theorem not_ackReads {frames : List SessionFrame} {error : Error}
    (refused : handshakeRead protobuf decoder stash batches = .error error) :
    ¬AckReads protobuf epoch decoder stash batches ack frames := by
  rintro ⟨second, rest, after, found, -⟩
  rw [refused] at found
  cases found

/-- What is left behind the `Hello` is read when the stash and every batch fit. -/
theorem ackReads_iff (shape : StreamShape) (most : shape.maxFrameBytes ≤ kRpcV2MaxFrameBytes)
    {body : Bytes} (admissible : Admissible protobuf shape.maxFrameBytes body ack)
    (size : shape.ack = kFramePrefixBytes + body.length) (todo : List (Bytes × SessionFrame))
    (sizes : shape.frames = todo.map frameSize)
    (deliverable : ∀ d ∈ todo, Deliverable protobuf shape.maxFrameBytes d.1 d.2)
    (legal : stash ++ batches.flatten.flatten =
      frame kFramePrefixBytes body ++
        stream kFramePrefixBytes (todo.map Prod.fst)) :
    AckReads protobuf epoch { maxFrameBytes := shape.maxFrameBytes } stash batches ack
        (todo.map Prod.snd) ↔
      (shape.ack ≤ stash.length → chunkReach 0 stash.length shape.ack ≤ shape.helloLimit ∧
        stash.length - shape.ack ≤ shape.dataLimit) ∧
      shape.CutFits (shape.hello + stash.length) (batches.map (List.map List.length)) ∧
      untilEnd epoch (todo.map Prod.snd) = todo.map Prod.snd := by
  have listening : Listening { maxFrameBytes := shape.maxFrameBytes } := ⟨rfl, rfl⟩
  have limit : shape.helloLimit =
      ({ maxFrameBytes := shape.maxFrameBytes } : SessionFrameDecoder).pendingLimit :=
    listening.limits.2
  have total := congrArg length legal
  rw [length_append, length_append, frame_length, ← size] at total
  by_cases reached : shape.ack ≤ stash.length
  · obtain ⟨fits, large⟩ := handshakeRead_held batches listening rfl admissible legal
      (by rw [← size]; exact reached)
    rw [← size, ← limit] at fits large
    by_cases room : chunkReach 0 stash.length shape.ack ≤ shape.helloLimit
    · obtain ⟨rest, behind, found⟩ := fits room
      have lengths := congrArg length behind
      rw [length_append] at lengths
      have left : rest.length = stash.length - shape.ack := by omega
      have start : shape.hello + stash.length - shape.ackEnd = rest.length := by
        unfold ackEnd
        omega
      rw [cutFits_data (by unfold ackEnd; omega), start, sizes, ← left]
      have data := dataPhase_iff epoch most todo deliverable behind
      rw [ackReads_found epoch _ found, data]
      constructor
      · intro ⟨held, rest⟩
        exact ⟨fun _ => ⟨room, held⟩, rest⟩
      · intro ⟨held, rest⟩
        exact ⟨(held reached).2, rest⟩
    · obtain ⟨error, refused⟩ := large (Nat.not_le.mp room)
      constructor
      · intro reads
        exact absurd reads (not_ackReads epoch refused)
      · intro ⟨held, _⟩
        exact absurd (held reached).1 room
  · have short : stash.length < kFramePrefixBytes + body.length := by omega
    have scanned := scanHeld_short listening rfl admissible legal short
    have partial' : Listening { maxFrameBytes := shape.maxFrameBytes, buffer := stash } :=
      listening.refill stash
    obtain ⟨before, segments, others, split, early, whole, fits, large⟩ :=
      handshakeRead_rounds scanned partial' admissible legal short
    subst split
    have limit' : ({ maxFrameBytes := shape.maxFrameBytes, buffer := stash } :
        SessionFrameDecoder).pendingLimit = shape.helloLimit := partial'.limits.2.symm
    rw [← size] at short early whole fits large
    rw [limit'] at fits large
    dsimp only at early whole fits large
    rw [← flatten_sizes] at early whole fits large
    have skipped : shape.hello + stash.length + (before.map (map length)).flatten.sum <
        shape.ackEnd := by
      unfold ackEnd
      omega
    rw [map_append, map_cons, cutFits_skip (.inr ⟨Nat.le_add_right _ _, skipped⟩),
      CutFits]
    have reached' : shape.ackEnd ≤ shape.hello + stash.length +
        (before.map (map length)).flatten.sum + (segments.map length).sum := by
      rw [length_flatten] at whole
      unfold ackEnd
      omega
    have arrived : shape.hello + stash.length +
        (before.map (map length)).flatten.sum - shape.hello =
          stash.length + (before.map (map length)).flatten.sum := by omega
    rw [batchFits_ack (by omega) skipped reached', cutFits_data reached', sizes, arrived]
    by_cases room : segmentReach (stash.length + (before.map (map length)).flatten.sum)
        (segments.map length) shape.ack ≤ shape.helloLimit
    · obtain ⟨rest, behind, found⟩ := fits room
      have lengths := congrArg length behind
      rw [flatten_append, flatten_cons, flatten_append, flatten_append,
        length_append, length_append, ← flatten_sizes, length_flatten] at total
      rw [length_append] at lengths
      have start : shape.hello + stash.length +
          (before.map (map length)).flatten.sum + (segments.map length).sum -
            shape.ackEnd = rest.length := by
        unfold ackEnd
        omega
      have data := dataPhase_iff epoch most todo deliverable behind
      rw [start, ackReads_found epoch _ found, data]
      constructor
      · intro ⟨held, rest⟩
        exact ⟨fun whole => absurd whole reached, ⟨⟨room, held⟩, rest.1⟩, rest.2⟩
      · intro ⟨_, ⟨⟨_, held⟩, fits⟩, lively⟩
        exact ⟨held, fits, lively⟩
    · obtain ⟨error, refused⟩ := large (Nat.not_le.mp room)
      constructor
      · intro reads
        exact absurd reads (not_ackReads epoch refused)
      · intro ⟨_, ⟨⟨reach, _⟩, _⟩, _⟩
        exact absurd reach room

end Phases

/-- A legal stream at a reader with this frame limit: a `Hello`, a `HelloAck` and other frames,
as they are encoded. -/
structure LegalStream (protobuf : Protobuf) (maxFrameBytes : Nat) where
  hello : SessionFrame
  ack : SessionFrame
  frames : List SessionFrame
  helloBytes : Bytes
  ackBytes : Bytes
  frameBytes : List Bytes
  helloKind : hello.kind = .hello
  ackKind : ack.kind = .helloAck
  sentHello : encodeFramedSessionFrame protobuf hello maxFrameBytes = .ok helloBytes
  sentAck : encodeFramedSessionFrame protobuf ack maxFrameBytes = .ok ackBytes
  sent : List.Forall₂
    (fun frame bytes => encodeFramedSessionFrame protobuf frame maxFrameBytes = .ok bytes)
    frames frameBytes

namespace LegalStream

variable {protobuf : Protobuf} {maxFrameBytes : Nat} (stream : LegalStream protobuf maxFrameBytes)

/-- The bytes on the wire. -/
def bytes : Bytes := stream.helloBytes ++ stream.ackBytes ++ stream.frameBytes.flatten

/-- The sizes of the frames. -/
def shape : StreamShape where
  maxFrameBytes
  hello := stream.helloBytes.length
  ack := stream.ackBytes.length
  frames := stream.frameBytes.map length

/-- The two handshake reads give the handshake frames, and the reader hands out all the others. -/
def ReadBack (epoch : UInt64) (batches : List (List Bytes)) : Prop :=
  ∃ reading, readLink protobuf epoch maxFrameBytes batches =
      .ok (some { hello := stream.hello.carried, ack := stream.ack.carried, reading }) ∧
    reading.HandedOut (stream.frames.map SessionFrame.carried)

/-- No frame in front of the last ends the session. -/
def Lively (epoch : UInt64) : Prop :=
  ∀ frame ∈ stream.frames.dropLast, endsSession epoch frame.carried = false

/-- The bodies of encoded frames, with the frames they carry. -/
theorem exists_deliverable (faithful : protobuf.Faithful) {frames : List SessionFrame}
    {frameBytes : List Bytes} (sent : List.Forall₂ (fun frame bytes =>
      encodeFramedSessionFrame protobuf frame maxFrameBytes = .ok bytes) frames frameBytes) :
    ∃ todo : List (Bytes × SessionFrame),
      (∀ d ∈ todo, Deliverable protobuf maxFrameBytes d.1 d.2) ∧
      frameBytes = todo.map (Framing.frame kFramePrefixBytes ∘ Prod.fst) ∧
      frames.map SessionFrame.carried = todo.map Prod.snd := by
  induction sent with
  | nil => exact ⟨[], by simp, rfl, rfl⟩
  | cons encoded _ ih =>
    obtain ⟨todo, deliverable, bytes, frames⟩ := ih
    obtain ⟨body, rfl, own⟩ := Deliverable.of_encoded faithful encoded
    refine ⟨(body, _) :: todo, ?_, by rw [bytes]; rfl, by rw [map_cons, frames]; rfl⟩
    intro d member
    rcases mem_cons.mp member with rfl | other
    · exact own
    · exact deliverable d other

/-- Behind a `Hello` that is read the `HelloAck` decides. -/
theorem readBack_found {epoch : UInt64} {batches later : List (List Bytes)} {rest : Bytes}
    (found : handshakeRead protobuf { maxFrameBytes } [] batches =
      .ok (some ({ frame := stream.hello.carried, decoder := { maxFrameBytes }, stash := rest },
        later))) :
    stream.ReadBack epoch batches ↔
      AckReads protobuf epoch { maxFrameBytes } rest later stream.ack.carried
        (stream.frames.map SessionFrame.carried) := by
  constructor
  · rintro ⟨reading, read, handedOut⟩
    obtain ⟨first, others, second, last, after, one, two, committed, -, same, rfl⟩ :=
      (readLink_some_iff epoch).mp read
    rw [found] at one
    cases one
    exact ⟨second, last, after, two, same, committed, handedOut⟩
  · rintro ⟨second, last, after, two, same, committed, handedOut⟩
    refine ⟨_, (readLink_some_iff epoch).mpr ?_, handedOut⟩
    exact ⟨_, _, second, last, after, found, two, committed, rfl, same, rfl⟩

/-- A legal stream is read back from a cut exactly when the cut fits the decoder and no frame in
front of the last ends the session. -/
theorem readBack_iff (faithful : protobuf.Faithful) (most : maxFrameBytes ≤ kRpcV2MaxFrameBytes)
    (epoch : UInt64) (batches : List (List Bytes)) (cut : batches.flatten.flatten = stream.bytes) :
    stream.ReadBack epoch batches ↔
      stream.shape.CutFits 0 (batches.map (List.map List.length)) ∧ stream.Lively epoch := by
  obtain ⟨helloBody, helloFrame, hello⟩ := Admissible.of_encoded faithful stream.sentHello
    (.inl stream.helloKind)
  obtain ⟨ackBody, ackFrame, ack⟩ := Admissible.of_encoded faithful stream.sentAck
    (.inr stream.ackKind)
  obtain ⟨todo, deliverable, bytes, frames⟩ := exists_deliverable faithful stream.sent
  have lively : stream.Lively epoch ↔
      untilEnd epoch (todo.map Prod.snd) = todo.map Prod.snd := by
    rw [untilEnd_eq_iff, ← frames, ← map_dropLast, forall_mem_map]
    rfl
  have legal : ([] : Bytes) ++ batches.flatten.flatten =
    Framing.frame kFramePrefixBytes helloBody ++
      (Framing.frame kFramePrefixBytes ackBody ++
        Framing.stream kFramePrefixBytes (todo.map Prod.fst)) := by
    rw [cut, LegalStream.bytes, helloFrame, ackFrame, bytes, append_assoc, Framing.stream,
      map_map, nil_append]
  have helloSize : stream.shape.hello = kFramePrefixBytes + helloBody.length := by
    simp [shape, helloFrame]
  have ackSize : stream.shape.ack = kFramePrefixBytes + ackBody.length := by
    simp [shape, ackFrame]
  have sizes : stream.shape.frames = todo.map frameSize := by
    simp [shape, bytes, frameSize]
  have listening : Listening { maxFrameBytes } := ⟨rfl, rfl⟩
  have limit : ({ maxFrameBytes } : SessionFrameDecoder).pendingLimit = stream.shape.helloLimit :=
    listening.limits.2.symm
  have part : 0 < kFramePrefixBytes + helloBody.length := by
    unfold kFramePrefixBytes
    omega
  obtain ⟨before, segments, others, rfl, early, reached, fits, large⟩ :=
    handshakeRead_rounds (scanHeld_waits listening hello legal part) listening hello legal part
  rw [← helloSize] at early reached fits large
  rw [limit] at fits large
  rw [length_nil, Nat.zero_add, ← flatten_sizes] at early reached fits large
  have skipped : 0 + (before.map (map length)).flatten.sum < stream.shape.hello := by
    omega
  have reached' : stream.shape.hello ≤
      (before.map (map length)).flatten.sum + (segments.map length).sum := by
    rw [← length_flatten]
    exact reached
  rw [map_append, map_cons, StreamShape.cutFits_skip (.inl skipped),
    StreamShape.CutFits, Nat.zero_add, lively, StreamShape.batchFits_hello (by omega) reached']
  by_cases room : segmentReach (before.map (map length)).flatten.sum
      (segments.map length) stream.shape.hello ≤ stream.shape.helloLimit
  · obtain ⟨rest, behind, found⟩ := fits room
    have total := congrArg length legal
    have lengths := congrArg length behind
    rw [nil_append, flatten_append, flatten_cons, flatten_append,
      flatten_append, length_append, length_append, length_append,
      Framing.frame_length, ← helloSize, ← flatten_sizes, length_flatten] at total
    rw [length_append] at lengths
    have left : (before.map (map length)).flatten.sum +
        (segments.map length).sum = stream.shape.hello + rest.length := by
      omega
    have same : stream.shape.maxFrameBytes = maxFrameBytes := rfl
    have reads := ackReads_iff epoch stream.shape most ack ackSize todo sizes deliverable behind
    rw [same] at reads
    have whole : stream.shape.ackEnd ≤ stream.shape.hello + rest.length ↔
        stream.shape.ack ≤ rest.length := by
      unfold StreamShape.ackEnd
      omega
    have beyond : stream.shape.hello + rest.length - stream.shape.ackEnd =
        rest.length - stream.shape.ack := by
      unfold StreamShape.ackEnd
      omega
    rw [stream.readBack_found found, frames, reads, left, whole, beyond, Nat.add_sub_cancel_left,
      and_iff_right room, and_assoc]
  · obtain ⟨error, refused⟩ := large (Nat.not_le.mp room)
    constructor
    · rintro ⟨reading, read, _⟩
      obtain ⟨first, later, _, _, _, found, _⟩ := (readLink_some_iff epoch).mp read
      rw [refused] at found
      cases found
    · rintro ⟨⟨⟨reach, -⟩, -⟩, -⟩
      exact absurd reach room

end LegalStream

/-- When both handshake frames come alone, a single batch behind them fits up to the data
limit. -/
theorem StreamShape.cutFits_apart {shape : StreamShape} (hello : 0 < shape.hello)
    (ack : 0 < shape.ack) (helloFits : shape.hello ≤ shape.helloLimit)
    (ackFits : shape.ack ≤ shape.helloLimit) (size : Nat) :
    shape.CutFits 0 [[shape.hello], [shape.ack], [size]] ↔ size ≤ shape.dataLimit := by
  have helloReach := chunkReach_le 0 shape.hello shape.hello
  have ackReach := chunkReach_le 0 shape.ack shape.ack
  have first : shape.BatchFits 0 [shape.hello] := by
    rw [batchFits_hello hello (by simp)]
    refine ⟨?_, fun whole => ?_⟩
    · simp only [segmentReach, Nat.zero_add, Nat.lt_irrefl, if_false]
      omega
    · simp only [sum_singleton, ackEnd] at whole
      omega
  have second : shape.BatchFits (0 + [shape.hello].sum) [shape.ack] := by
    rw [sum_singleton, Nat.zero_add,
      batchFits_ack (Nat.le_refl _) (by unfold ackEnd; omega) (by simp [ackEnd])]
    simp only [Nat.sub_self, segmentReach, Nat.zero_add, Nat.lt_irrefl, if_false,
      sum_singleton, ackEnd]
    omega
  rw [CutFits, CutFits, and_iff_right first, and_iff_right second, cutFits_data]
  · simp only [DataFits, sum_singleton, ackEnd, Nat.zero_add, Nat.sub_self, and_true]
    rw [unfinished_zero, Nat.zero_add]
  · simp [ackEnd]

/-- Segmentation independence: for accepted options a legal stream comes through the three
readers whole and in order from exactly the cuts that fit the decoder, as long as no frame in
front of the last ends the session. -/
theorem segmentation_independent {protobuf : Protobuf} (faithful : protobuf.Faithful)
    (options : ClientOptions) (valid : options.validate = .ok ()) (epoch : UInt64)
    (stream : LegalStream protobuf options.maxFrameBytes) (batches : List (List Bytes))
    (cut : batches.flatten.flatten = stream.bytes) :
    stream.ReadBack epoch batches ↔
      stream.shape.CutFits 0 (batches.map (map length)) ∧ stream.Lively epoch :=
  stream.readBack_iff faithful (Presentable.of_valid valid).most epoch batches cut

/-- The smallest frame limit that is accepted. -/
def smallest : ClientOptions := { named (text "a") with maxFrameBytes := kMinFrameBytes }

/-- It passes validation. -/
theorem smallest_valid : smallest.validate = .ok () := by decide +kernel

/-- A frame of 16 bytes. -/
def notice : SessionFrame where
  kind := .sendAccepted
  sessionEpoch := 1
  messageId := text "m"
  hasOutcome := true
  success := true

/-- The notice takes sixteen bytes. -/
theorem notice_encodes : ∃ bytes,
    encodeFramedSessionFrame Pb.runtime notice smallest.maxFrameBytes = .ok bytes ∧
      bytes.length = 16 := by
  have size : (encodeFramedSessionFrame Pb.runtime notice smallest.maxFrameBytes).toOption.map
      length = some 16 := by decide +kernel
  cases encoded : encodeFramedSessionFrame Pb.runtime notice smallest.maxFrameBytes with
  | error error => simp [encoded, Except.toOption] at size
  | ok bytes =>
    rw [encoded] at size
    exact ⟨bytes, rfl, Option.some.inj size⟩

/-- A number of notices in one batch behind the handshake. -/
theorem exists_notices (count : Nat) :
    ∃ (stream : LegalStream Pb.runtime smallest.maxFrameBytes) (batches : List (List Bytes)),
      batches.flatten.flatten = stream.bytes ∧ stream.frames = List.replicate count notice ∧
      stream.Lively 1 ∧ (stream.shape.CutFits 0 (batches.map (List.map List.length)) ↔
        16 * count ≤ 4 + 2 * kMinFrameBytes) := by
  have presentable := Presentable.of_valid smallest_valid
  obtain ⟨helloBody, sentHello, hello⟩ := presented_encodes Pb.runtime_faithful presentable
    (.inl rfl) (show (1 : UInt64) ≠ 0 by decide) (show (1 : UInt64) ≠ 0 by decide)
  obtain ⟨ackBody, sentAck, ack⟩ := presented_encodes Pb.runtime_faithful presentable
    (.inr rfl) (show (1 : UInt64) ≠ 0 by decide) (show (1 : UInt64) ≠ 0 by decide)
  obtain ⟨bytes, sent, size⟩ := notice_encodes
  have copies : List.Forall₂ (fun frame bytes =>
      encodeFramedSessionFrame Pb.runtime frame smallest.maxFrameBytes = .ok bytes)
      (replicate count notice) (replicate count bytes) := by
    induction count with
    | zero => exact .nil
    | succ count ih => exact .cons sent ih
  let stream : LegalStream Pb.runtime smallest.maxFrameBytes := {
    hello := _
    ack := _
    frames := _
    helloBytes := _
    ackBytes := _
    frameBytes := _
    helloKind := rfl
    ackKind := rfl
    sentHello
    sentAck
    sent := copies }
  have live : stream.Lively 1 := by
    intro frame member
    rw [eq_of_mem_replicate (mem_of_mem_dropLast member)]
    decide +kernel
  have narrow : min smallest.maxFrameBytes kRpcV2HelloMaxFrameBytes = kMinFrameBytes := by decide
  have limit : stream.shape.helloLimit = 4 + 2 * kMinFrameBytes := by
    show 4 + 2 * min smallest.maxFrameBytes kRpcV2HelloMaxFrameBytes = 4 + 2 * kMinFrameBytes
    rw [narrow]
  have minimum : kFramePrefixBytes + presentedBound ≤ 4 + 2 * kMinFrameBytes := by decide
  have hello' : stream.shape.hello = kFramePrefixBytes + helloBody.length :=
    frame_length _ _
  have ack' : stream.shape.ack = kFramePrefixBytes + ackBody.length := frame_length _ _
  have helloSize := hello.bounded
  have ackSize := ack.bounded
  have prefix' : 0 < kFramePrefixBytes := by decide
  have total : stream.frameBytes.flatten.length = 16 * count := by
    rw [length_flatten, map_replicate, sum_replicate_nat, size, Nat.mul_comm]
  refine ⟨stream, [[stream.helloBytes], [stream.ackBytes], [stream.frameBytes.flatten]], ?_, rfl,
    live, ?_⟩
  · simp [LegalStream.bytes]
  · rw [← total]
    exact StreamShape.cutFits_apart (by omega) (by omega) (by omega) (by omega) _

/-- As many notices as the smallest data limit admits come through in one batch. -/
theorem segmentation_independent_notices :
    ∃ (stream : LegalStream Pb.runtime smallest.maxFrameBytes) (batches : List (List Bytes)),
      batches.flatten.flatten = stream.bytes ∧ stream.frames = replicate 128 notice ∧
      stream.ReadBack 1 batches := by
  obtain ⟨stream, batches, cut, frames, live, fits⟩ := exists_notices 128
  exact ⟨stream, batches, cut, frames, (segmentation_independent Pb.runtime_faithful smallest
    smallest_valid 1 stream batches cut).mpr ⟨fits.mpr (by decide), live⟩⟩

/-- One notice more in that batch, and the reader kills the session. -/
theorem batch_overruns_decoder :
    ∃ (stream : LegalStream Pb.runtime smallest.maxFrameBytes) (batches : List (List Bytes)),
      batches.flatten.flatten = stream.bytes ∧ stream.frames = replicate 129 notice ∧
      stream.Lively 1 ∧ ¬stream.ReadBack 1 batches := by
  obtain ⟨stream, batches, cut, frames, live, fits⟩ := exists_notices 129
  refine ⟨stream, batches, cut, frames, live, fun read => ?_⟩
  have most := (Presentable.of_valid smallest_valid).most
  have room := fits.mp ((stream.readBack_iff Pb.runtime_faithful most 1 batches cut).mp read).1
  exact absurd room (by decide)

end BbtInfra.Rpc
