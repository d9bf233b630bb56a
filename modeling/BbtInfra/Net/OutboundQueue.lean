import BbtInfra.NetError
import BbtInfra.Lib.Circular

/-!
# The queue of bytes to send

`OutboundQueue` keeps the bytes in a static ring and, when the ring is full, in a list of
segments behind it. What the operations do is said of one string: the ring from its head on,
then the segments.
-/
namespace BbtInfra.Net

open Lib List

/-- `std::errc::no_buffer_space`. -/
def noBufferSpace : StdErrorCode := .generic 105

/-- `std::errc::not_enough_memory`. -/
def notEnoughMemory : StdErrorCode := .generic 12

/-- `std::errc::result_out_of_range`. -/
def resultOutOfRange : StdErrorCode := .generic 34

/-- `std::errc::operation_canceled`. -/
def operationCanceled : StdErrorCode := .generic 125

/-- `OutboundQueue::kMaxMergedSegmentBytes`. -/
def kMaxMergedSegmentBytes : Nat := 4096

/-- `OutboundQueue`. -/
structure OutboundQueue where
  ring : Bytes
  ringHead : Nat := 0
  ringSize : Nat := 0
  spill : List Bytes := []
  listBytes : Nat := 0
  maxTotalBytes : Nat
  maxSegments : Nat
  geometryValid : Bool
  deriving DecidableEq, Repr

namespace OutboundQueue

/-- The constructor: a ring only for a valid geometry. -/
def make (ringBytes maxTotalBytes maxSegments : Nat) : OutboundQueue :=
  let valid := ringBytes ≠ 0 ∧ maxTotalBytes ≠ 0 ∧ maxSegments ≠ 0 ∧ ringBytes ≤ maxTotalBytes
  { ring := if valid then replicate ringBytes 0 else []
    maxTotalBytes, maxSegments
    geometryValid := valid }

/-- `TotalBytes`. -/
def totalBytes (queue : OutboundQueue) : Nat := queue.ringSize + queue.listBytes

/-- The segments after bytes were put behind them: in the last one while it is short. -/
def appendSpill (spill : List Bytes) (part : Bytes) : List Bytes :=
  match spill.getLast? with
  | some last =>
    if last.length + part.length ≤ kMaxMergedSegmentBytes then spill.dropLast ++ [last ++ part]
    else spill ++ [part]
  | none => [part]

/-- Bytes of the data that `Append` puts into the ring. -/
def ringShare (queue : OutboundQueue) (data : Bytes) : Nat :=
  min data.length (if queue.spill.isEmpty then queue.ring.length - queue.ringSize else 0)

/-- Whether the part behind the ring can join the last segment. -/
def canMerge (queue : OutboundQueue) (part : Bytes) : Bool :=
  !part.isEmpty && (queue.spill.getLast?.any fun last =>
    decide (last.length + part.length ≤ kMaxMergedSegmentBytes))

/-- What `Append` stores of data that it takes: the ring first, the rest behind the segments. -/
def stored (queue : OutboundQueue) (data : Bytes) : OutboundQueue :=
  let toRing := queue.ringShare data
  let part := data.drop toRing
  { queue with
    spill := if part.isEmpty then queue.spill else appendSpill queue.spill part
    listBytes := queue.listBytes + part.length
    ring := if toRing = 0 then queue.ring
      else Circular.write queue.ring queue.ringHead queue.ringSize (data.take toRing)
    ringSize := queue.ringSize + toRing }

/-- `Append`; none when the allocation for a segment throws, which leaves the queue as it is. -/
def append (queue : OutboundQueue) (data : Bytes) (allocFails : Bool) :
    Option (StdErrorCode × OutboundQueue) :=
  if data.isEmpty then some (.success, queue)
  else if !queue.geometryValid then some (noBufferSpace, queue)
  else if queue.maxTotalBytes - queue.totalBytes < data.length then some (noBufferSpace, queue)
  else
    let part := data.drop (queue.ringShare data)
    if !part.isEmpty && !queue.canMerge part && decide (queue.maxSegments ≤ queue.spill.length) then
      some (noBufferSpace, queue)
    else if !part.isEmpty && allocFails then none
    else some (.success, queue.stored data)

/-- Bytes of the ring up to its wrap. -/
def contiguous (queue : OutboundQueue) : Nat :=
  min queue.ringSize (queue.ring.length - queue.ringHead)

/-- `GatherViews`. -/
def gatherViews (queue : OutboundQueue) (maxViews : Nat) : List Bytes :=
  let ringViews :=
    if queue.ringSize ≠ 0 then
      (queue.ring.drop queue.ringHead).take queue.contiguous ::
        if queue.contiguous < queue.ringSize then
          [queue.ring.take (queue.ringSize - queue.contiguous)]
        else []
    else []
  (ringViews ++ queue.spill).take maxViews

/-- The head of the ring moves past bytes. -/
def advance (queue : OutboundQueue) (count : Nat) : OutboundQueue :=
  { queue with
    ringHead := (queue.ringHead + count) % queue.ring.length
    ringSize := queue.ringSize - count }

/-- The loop of `ConsumeSent` over the segments. -/
def consumeSpill : List Bytes → Nat → List Bytes
  | [], _ => []
  | segment :: later, n =>
    if n = 0 then segment :: later
    else if segment.length ≤ n then consumeSpill later (n - segment.length)
    else segment.drop n :: later

/-- One of the two ring steps of `ConsumeSent`, with the bytes still to consume. -/
def consumeRing (queue : OutboundQueue) (run n : Nat) : OutboundQueue × Nat :=
  if n ≠ 0 ∧ queue.ringSize ≠ 0 then (queue.advance (min n run), n - min n run) else (queue, n)

/-- `ConsumeSent`: up to the wrap, behind it, then the segments. -/
def consumeSent (queue : OutboundQueue) (n : Nat) : StdErrorCode × OutboundQueue :=
  if queue.totalBytes < n then (resultOutOfRange, queue)
  else
    let first := queue.consumeRing queue.contiguous n
    let second := first.1.consumeRing first.1.ringSize first.2
    (.success, { second.1 with
      spill := consumeSpill second.1.spill second.2
      -- the loop ends when it has consumed all of them
      listBytes := second.1.listBytes - second.2 })

/-- The bytes in the ring. -/
def ringed (queue : OutboundQueue) : Bytes :=
  Circular.contents queue.ring queue.ringHead queue.ringSize

/-- The bytes to send, in order. -/
def bytes (queue : OutboundQueue) : Bytes := queue.ringed ++ queue.spill.flatten

/-- The fields agree with each other and with the limits. -/
structure Fit (queue : OutboundQueue) : Prop where
  inside : queue.ringHead = 0 ∨ queue.ringHead < queue.ring.length
  held : queue.ringSize ≤ queue.ring.length
  counted : queue.listBytes = queue.spill.flatten.length
  limited : queue.totalBytes ≤ queue.maxTotalBytes
  filled : [] ∉ queue.spill

variable {queue : OutboundQueue}

/-- The ring holds as many bytes as it counts. -/
theorem ringed_length (fit : queue.Fit) : queue.ringed.length = queue.ringSize :=
  Circular.contents_length fit.held

/-- `TotalBytes` counts the bytes. -/
theorem bytes_length (fit : queue.Fit) : queue.bytes.length = queue.totalBytes := by
  rw [bytes, length_append, ringed_length fit, totalBytes, fit.counted]

/-- A new queue is empty. -/
theorem make_fit (ringBytes maxTotalBytes maxSegments : Nat) :
    (make ringBytes maxTotalBytes maxSegments).Fit :=
  ⟨.inl rfl, Nat.zero_le _, rfl, Nat.zero_le _, not_mem_nil⟩

/-- A new queue holds nothing. -/
theorem make_bytes (ringBytes maxTotalBytes maxSegments : Nat) :
    (make ringBytes maxTotalBytes maxSegments).bytes = [] := by
  simp [make, bytes, ringed]

/-- Bytes put behind the segments stand behind their bytes. -/
theorem appendSpill_flatten (spill : List Bytes) (part : Bytes) :
    (appendSpill spill part).flatten = spill.flatten ++ part := by
  rcases eq_nil_or_concat spill with rfl | ⟨front, last, rfl⟩
  · simp [appendSpill]
  · simp only [appendSpill, concat_eq_append, getLast?_append, getLast?_singleton,
      Option.some_or, dropLast_concat]
    split_ifs
    · simp [append_assoc]
    · simp

/-- No segment becomes empty by it. -/
theorem appendSpill_filled {spill : List Bytes} {part : Bytes} (filled : [] ∉ spill)
    (some' : part ≠ []) : [] ∉ appendSpill spill part := by
  rcases eq_nil_or_concat spill with rfl | ⟨front, last, rfl⟩
  · simpa [appendSpill] using some'.symm
  · simp only [appendSpill, concat_eq_append, getLast?_append, getLast?_singleton,
      Option.some_or, dropLast_concat]
    split_ifs <;> simp_all

/-- A ring that takes bytes has a cell for each of them and is the end of the queue. -/
theorem ringShare_fits (fit : queue.Fit) (data : Bytes) :
    queue.ringSize + queue.ringShare data ≤ queue.ring.length ∧
      (queue.ringShare data ≠ 0 → queue.spill = []) := by
  have held := fit.held
  unfold ringShare
  cases queue.spill with
  | nil =>
    simp only [isEmpty_nil, if_true]
    constructor
    · omega
    · intro _
      trivial
  | cons segment later => simpa using held

/-- The ring after `Append` wrote its share. -/
theorem stored_ring (fit : queue.Fit) (data : Bytes) :
    (queue.stored data).ring.length = queue.ring.length ∧
      (queue.stored data).ringed = queue.ringed ++ data.take (queue.ringShare data) := by
  have fits := (ringShare_fits fit data).1
  have size : (data.take (queue.ringShare data)).length = queue.ringShare data := by
    rw [length_take, Nat.min_eq_left]
    exact Nat.min_le_left _ _
  simp only [stored, ringed]
  by_cases nothing : queue.ringShare data = 0
  · rw [if_pos nothing, nothing, take_zero, append_nil]
    exact ⟨rfl, rfl⟩
  · rw [if_neg nothing]
    have inside : queue.ringHead < queue.ring.length := by
      have := fit.inside
      omega
    have room : queue.ringSize + (data.take (queue.ringShare data)).length ≤ queue.ring.length := by
      rw [size]
      exact fits
    have written := Circular.contents_write inside room
    rw [size] at written
    exact ⟨Circular.write_length inside room, written⟩

/-- The segments after `Append` put the rest behind them. -/
theorem stored_spill (queue : OutboundQueue) (data : Bytes) :
    (queue.stored data).spill.flatten =
      queue.spill.flatten ++ data.drop (queue.ringShare data) := by
  simp only [stored]
  split_ifs with nothing
  · rw [isEmpty_iff.mp nothing, append_nil]
  · exact appendSpill_flatten _ _

section

variable (fit : queue.Fit)

include fit

/-- Data that fits is stored behind the bytes. -/
theorem stored_spec {data : Bytes} (room : data.length ≤ queue.maxTotalBytes - queue.totalBytes) :
    (queue.stored data).Fit ∧ (queue.stored data).bytes = queue.bytes ++ data := by
  have ring := stored_ring fit data
  have spilled := stored_spill queue data
  have share := ringShare_fits fit data
  have size : queue.ringShare data ≤ data.length := Nat.min_le_left _ _
  have limited := fit.limited
  refine ⟨⟨?_, ?_, ?_, ?_, ?_⟩, ?_⟩
  · rw [ring.1]
    exact fit.inside
  · rw [ring.1]
    exact share.1
  · rw [spilled, length_append]
    exact congrArg (· + _) fit.counted
  · simp only [totalBytes, stored, length_drop] at room limited ⊢
    omega
  · simp only [stored]
    split_ifs with nothing
    · exact fit.filled
    · exact appendSpill_filled fit.filled (by simpa using nothing)
  · rw [bytes, bytes, ring.2, spilled]
    by_cases nothing : queue.ringShare data = 0
    · rw [nothing, take_zero, drop_zero, append_nil, append_assoc]
    · rw [share.2 nothing, flatten_nil, nil_append, append_nil, append_assoc,
        take_append_drop]

/-- `Append` puts all of the data behind the bytes, or reports why not and changes nothing. -/
theorem append_spec {data : Bytes} {allocFails : Bool} {error : StdErrorCode}
    {next : OutboundQueue} (appended : queue.append data allocFails = some (error, next)) :
    (error = .success ∧ next.Fit ∧ next.bytes = queue.bytes ++ data ∧
        next.maxTotalBytes = queue.maxTotalBytes) ∨
      (error = noBufferSpace ∧ next = queue) := by
  simp only [append] at appended
  split_ifs at appended with empty geometry full crowded failing
  · cases appended
    have nothing : data = [] := isEmpty_iff.mp empty
    exact .inl ⟨rfl, fit, by rw [nothing, append_nil], rfl⟩
  · cases appended
    exact .inr ⟨rfl, rfl⟩
  · cases appended
    exact .inr ⟨rfl, rfl⟩
  · cases appended
    exact .inr ⟨rfl, rfl⟩
  · cases appended
    have spec := stored_spec fit (Nat.le_of_not_lt full)
    exact .inl ⟨rfl, spec.1, spec.2, rfl⟩

/-- The ring views are the bytes of the ring. -/
theorem ringViews_flatten : (queue.ring.drop queue.ringHead).take queue.contiguous ++
      queue.ring.take (queue.ringSize - queue.contiguous) = queue.ringed := by
  have held := fit.held
  have inside := fit.inside
  rw [ringed, Circular.contents_runs (by omega), contiguous]
  congr 1
  · by_cases wraps : queue.ring.length - queue.ringHead ≤ queue.ringSize
    · rw [Nat.min_eq_right wraps, take_of_length_le (by rw [length_drop]),
        take_of_length_le (by rw [length_drop]; exact wraps)]
    · rw [Nat.min_eq_left (by omega)]
  · rw [take_take]
    congr 1
    omega

/-- The views are a prefix of the bytes. -/
theorem gatherViews_prefix (maxViews : Nat) :
    ∃ rest, queue.bytes = (queue.gatherViews maxViews).flatten ++ rest := by
  have whole : (queue.gatherViews maxViews).flatten ++
      (drop maxViews ((if queue.ringSize ≠ 0 then
        (queue.ring.drop queue.ringHead).take queue.contiguous ::
          if queue.contiguous < queue.ringSize then
            [queue.ring.take (queue.ringSize - queue.contiguous)]
          else []
      else []) ++ queue.spill)).flatten = queue.bytes := by
    rw [gatherViews, ← flatten_append, take_append_drop, flatten_append, bytes,
      ← ringViews_flatten fit]
    congr 1
    split_ifs with some' wraps
    · simp
    · have same : queue.ringSize - queue.contiguous = 0 := by omega
      simp [same]
    · have none' : queue.ringSize = 0 := by omega
      simp [contiguous, none']
  exact ⟨_, whole.symm⟩

/-- No view is empty. -/
theorem gatherViews_filled (maxViews : Nat) : [] ∉ queue.gatherViews maxViews := by
  intro inside
  have held := fit.held
  have head := fit.inside
  have empty := mem_of_mem_take inside
  split_ifs at empty with some' wraps
  · simp only [cons_append, nil_append, mem_cons] at empty
    rcases empty with first | second | segment
    · have size := congrArg length first
      simp only [length_nil, length_take, length_drop, contiguous] at size wraps
      omega
    · have size := congrArg length second
      simp only [length_nil, length_take, contiguous] at size wraps
      omega
    · exact fit.filled segment
  · simp only [cons_append, nil_append, mem_cons] at empty
    rcases empty with first | segment
    · have size := congrArg length first
      simp only [length_nil, length_take, length_drop, contiguous] at size wraps
      omega
    · exact fit.filled segment
  · exact fit.filled empty

/-- One ring step drops the bytes it consumes. -/
theorem advance_spec {count : Nat} (fits : count ≤ queue.ringSize) (some' : queue.ringSize ≠ 0) :
    (queue.advance count).Fit ∧ (queue.advance count).ringed = queue.ringed.drop count := by
  have held := fit.held
  have limited := fit.limited
  refine ⟨⟨.inr (Nat.mod_lt _ (by omega)), ?_, fit.counted, ?_, fit.filled⟩, ?_⟩
  · simp only [advance]
    omega
  · simp only [totalBytes, advance] at limited ⊢
    omega
  · exact Circular.contents_drop fits held

/-- What a ring step of `ConsumeSent` does. -/
theorem consumeRing_spec {run : Nat} (n : Nat) (fits : run ≤ queue.ringSize) :
    (queue.consumeRing run n).1.Fit ∧
      (queue.consumeRing run n).1.ringed = queue.ringed.drop (n - (queue.consumeRing run n).2) ∧
      (queue.consumeRing run n).2 = n - min n run ∧
      (queue.consumeRing run n).1.spill = queue.spill ∧
      (queue.consumeRing run n).1.listBytes = queue.listBytes ∧
      (queue.consumeRing run n).1.ring = queue.ring ∧
      (queue.consumeRing run n).1.maxTotalBytes = queue.maxTotalBytes := by
  unfold consumeRing
  split_ifs with both
  · have moved := advance_spec fit (show min n run ≤ queue.ringSize by omega) both.2
    refine ⟨moved.1, ?_, rfl, rfl, rfl, rfl, rfl⟩
    rw [moved.2]
    congr 1
    omega
  · refine ⟨fit, ?_, ?_, rfl, rfl, rfl, rfl⟩
    · simp
    · dsimp only
      omega

end

/-- The loop over the segments drops the bytes it consumes. -/
theorem consumeSpill_flatten (spill : List Bytes) (n : Nat) :
    (consumeSpill spill n).flatten = spill.flatten.drop n := by
  fun_induction consumeSpill spill n with
  | case1 => simp
  | case2 segment later => simp
  | case3 segment later n _ whole ih =>
    rw [ih, flatten_cons, drop_append, drop_of_length_le whole, nil_append]
  | case4 segment later n _ part =>
    rw [flatten_cons, flatten_cons, drop_append_of_le_length (by omega)]

/-- No segment stays behind empty. -/
theorem consumeSpill_filled {spill : List Bytes} (n : Nat) (filled : [] ∉ spill) :
    [] ∉ consumeSpill spill n := by
  fun_induction consumeSpill spill n with
  | case1 => exact filled
  | case2 => exact filled
  | case3 segment later _ _ _ ih => exact ih (not_mem_of_not_mem_cons filled)
  | case4 segment later n _ part =>
    intro inside
    rcases mem_cons.mp inside with empty | inside
    · have short := drop_eq_nil_iff.mp empty.symm
      omega
    · exact filled (mem_cons_of_mem _ inside)

/-- `ConsumeSent` drops the bytes, or refuses more than there are. -/
theorem consumeSent_spec (fit : queue.Fit) {n : Nat} (enough : n ≤ queue.totalBytes) :
    (queue.consumeSent n).1 = .success ∧ (queue.consumeSent n).2.Fit ∧
      (queue.consumeSent n).2.bytes = queue.bytes.drop n ∧
      (queue.consumeSent n).2.maxTotalBytes = queue.maxTotalBytes := by
  have first := consumeRing_spec fit n (show queue.contiguous ≤ _ from Nat.min_le_left _ _)
  have second := consumeRing_spec first.1 (queue.consumeRing queue.contiguous n).2
    (Nat.le_refl _)
  have size := ringed_length first.1
  simp only [consumeSent, if_neg (Nat.not_lt.mpr enough)]
  generalize (queue.consumeRing queue.contiguous n) = one at *
  generalize (one.1.consumeRing one.1.ringSize one.2) = two at *
  obtain ⟨fitted, ringed₁, left₁, spill₁, list₁, ring₁, max₁⟩ := first
  obtain ⟨fit₂, ringed₂, left₂, spill₂, list₂, ring₂, max₂⟩ := second
  have whole := ringed_length fit
  have run : queue.contiguous ≤ queue.ringSize := Nat.min_le_left _ _
  rw [ringed₁, length_drop, whole] at size
  have through : two.2 = n - queue.ringSize := by omega
  have ringed : two.1.ringed = queue.ringed.drop n := by
    rw [ringed₂, ringed₁, drop_drop]
    by_cases short : n ≤ queue.ringSize
    · congr 1
      omega
    · rw [drop_of_length_le (by omega), drop_of_length_le (by omega)]
  have spilled : (consumeSpill two.1.spill two.2).flatten =
      queue.spill.flatten.drop (n - queue.ringSize) := by
    rw [consumeSpill_flatten, spill₂, spill₁, through]
  have counted := fit.counted
  have limited := fit₂.limited
  refine ⟨trivial, ⟨fit₂.inside, fit₂.held, ?_, ?_, consumeSpill_filled _ fit₂.filled⟩, ?_, ?_⟩
  · dsimp only
    rw [spilled, length_drop, list₂, list₁, through, counted]
  · simp only [totalBytes] at limited ⊢
    omega
  · rw [bytes, bytes, drop_append, whole, spilled]
    exact congrArg (· ++ _) ringed
  · exact max₂.trans max₁

end OutboundQueue

end BbtInfra.Net
