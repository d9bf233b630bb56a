import BbtInfra.Lib.Fifo
import BbtInfra.Net.OutboundQueue

/-!
# The queue of bytes is a bounded queue

Whatever is asked of an `OutboundQueue`, it answers as a bounded queue that holds its bytes: the
ring from its head on, then the segments.
-/
namespace BbtInfra.Net

open Lib List

/-- What is asked of an `OutboundQueue`. -/
inductive QueueAsk
  /-- `Append`, whose allocation fails or not. -/
  | append (data : Bytes) (allocFails : Bool)
  | gatherViews (maxViews : Nat)
  | consumeSent (n : Nat)
  deriving DecidableEq, Repr

/-- It is asked of the bounded queue. -/
def QueueAsk.abstract : QueueAsk → FifoAsk UInt8
  | .append data _ => .append data
  | .gatherViews maxViews => .peek maxViews
  | .consumeSent n => .drop n

/-- The answer that an error code is. -/
def codeAnswer (code : StdErrorCode) : FifoAnswer UInt8 :=
  if code.failed then .refused else .accepted

namespace OutboundQueue

/-- The answer of the queue, and the queue behind it. A throw stores nothing. -/
def ask (queue : OutboundQueue) : QueueAsk → FifoAnswer UInt8 × OutboundQueue
  | .append data allocFails =>
    match queue.append data allocFails with
    | none => (.refused, queue)
    | some (code, next) => (codeAnswer code, next)
  | .gatherViews maxViews => (.views (queue.gatherViews maxViews), queue)
  | .consumeSent n => (codeAnswer (queue.consumeSent n).1, (queue.consumeSent n).2)

/-- The answers to a sequence of asks, and the queue behind them. -/
def asks (queue : OutboundQueue) :
    List QueueAsk → List (FifoAsk UInt8 × FifoAnswer UInt8) × OutboundQueue
  | [] => ([], queue)
  | ask :: rest =>
    let (answer, next) := queue.ask ask
    let (answers, last) := next.asks rest
    ((ask.abstract, answer) :: answers, last)

/-- The runs of bytes that the queue consists of. -/
def pieces (queue : OutboundQueue) : Nat :=
  (if queue.ringSize = 0 then 0 else if queue.contiguous < queue.ringSize then 2 else 1) +
    queue.spill.length

variable {queue next : OutboundQueue} {maxTotalBytes maxSegments : Nat}

/-- The queue fits, with these limits, and has not too many segments. -/
structure Bounded (maxTotalBytes maxSegments : Nat) (queue : OutboundQueue) : Prop where
  fit : queue.Fit
  total : queue.maxTotalBytes = maxTotalBytes
  segments : queue.maxSegments = maxSegments
  few : queue.spill.length ≤ maxSegments

/-- A segment more, at most. -/
theorem appendSpill_length (spill : List Bytes) (part : Bytes) :
    (appendSpill spill part).length ≤ spill.length + 1 := by
  rcases eq_nil_or_concat spill with rfl | ⟨front, last, rfl⟩
  · simp [appendSpill]
  · simp only [appendSpill, concat_eq_append, getLast?_append, getLast?_singleton,
      Option.some_or, dropLast_concat]
    split_ifs <;> simp

/-- Bytes that join the last segment make no new one. -/
theorem appendSpill_merged {part : Bytes} (merges : queue.canMerge part = true) :
    (appendSpill queue.spill part).length = queue.spill.length := by
  rw [canMerge, Bool.and_eq_true, Option.any_eq_true] at merges
  obtain ⟨-, last, found, short⟩ := merges
  have length : queue.spill.dropLast.length + 1 = queue.spill.length := by
    have some' : queue.spill ≠ [] := by
      rintro none'
      rw [none'] at found
      cases found
    have positive := length_pos_iff.mpr some'
    rw [length_dropLast]
    omega
  rw [appendSpill, found]
  dsimp only
  rw [if_pos (of_decide_eq_true short), length_append, length_singleton, length]

/-- `Append` keeps to the number of segments. -/
theorem Bounded.append (bounded : queue.Bounded maxTotalBytes maxSegments) {data : Bytes}
    {allocFails : Bool} {code : StdErrorCode}
    (appended : queue.append data allocFails = some (code, next)) :
    next.Bounded maxTotalBytes maxSegments := by
  have few := bounded.few
  rcases append_spec bounded.fit appended with ⟨-, fit, -, total⟩ | ⟨-, rfl⟩
  · refine ⟨fit, total.trans bounded.total, ?_, ?_⟩
    · simp only [OutboundQueue.append] at appended
      split_ifs at appended <;> cases appended <;> exact bounded.segments
    · simp only [OutboundQueue.append] at appended
      split_ifs at appended with empty geometry full crowded failing <;> cases appended
      any_goals exact few
      simp only [stored]
      split_ifs with nothing
      · exact few
      · rw [Bool.and_eq_true, Bool.and_eq_true, decide_eq_true_eq, bounded.segments] at crowded
        by_cases merges : queue.canMerge (data.drop (queue.ringShare data)) = true
        · rw [appendSpill_merged merges]
          exact few
        · have more := appendSpill_length queue.spill (data.drop (queue.ringShare data))
          have room : queue.spill.length < maxSegments := by
            by_contra full
            exact crowded ⟨⟨by simpa using nothing, by simpa using merges⟩, Nat.le_of_not_lt full⟩
          omega
  · exact bounded

/-- The loop over the segments makes no new ones. -/
theorem consumeSpill_length (spill : List Bytes) (n : Nat) :
    (consumeSpill spill n).length ≤ spill.length := by
  fun_induction consumeSpill spill n with
  | case1 => exact Nat.le_refl _
  | case2 => exact Nat.le_refl _
  | case3 segment later n _ _ ih => exact ih.trans (Nat.le_succ _)
  | case4 segment later n _ _ => exact Nat.le_refl _

/-- A ring step of `ConsumeSent` leaves the segments and the geometry. -/
theorem consumeRing_segments (queue : OutboundQueue) (run n : Nat) :
    (queue.consumeRing run n).1.spill = queue.spill ∧
      (queue.consumeRing run n).1.maxSegments = queue.maxSegments ∧
      (queue.consumeRing run n).1.geometryValid = queue.geometryValid := by
  unfold consumeRing
  split_ifs
  · exact ⟨rfl, rfl, rfl⟩
  · exact ⟨rfl, rfl, rfl⟩

/-- `ConsumeSent` keeps to the number of segments. -/
theorem Bounded.consumeSent (bounded : queue.Bounded maxTotalBytes maxSegments) (n : Nat) :
    (queue.consumeSent n).2.Bounded maxTotalBytes maxSegments := by
  by_cases enough : n ≤ queue.totalBytes
  · obtain ⟨-, fit, -, total⟩ := consumeSent_spec bounded.fit enough
    have first := consumeRing_segments queue queue.contiguous n
    have second := consumeRing_segments (queue.consumeRing queue.contiguous n).1
      (queue.consumeRing queue.contiguous n).1.ringSize (queue.consumeRing queue.contiguous n).2
    refine ⟨fit, total.trans bounded.total, ?_, ?_⟩
    · simp only [OutboundQueue.consumeSent, if_neg (Nat.not_lt.mpr enough)]
      rw [second.2.1, first.2.1]
      exact bounded.segments
    · simp only [OutboundQueue.consumeSent, if_neg (Nat.not_lt.mpr enough)]
      rw [second.1, first.1]
      exact (consumeSpill_length _ _).trans bounded.few
  · rw [OutboundQueue.consumeSent, if_pos (Nat.lt_of_not_le enough)]
    exact bounded

/-- As many views as asked for, at most. -/
theorem gatherViews_length (queue : OutboundQueue) (maxViews : Nat) :
    (queue.gatherViews maxViews).length ≤ maxViews := by
  rw [gatherViews, length_take]
  exact Nat.min_le_left _ _

/-- With a view for every piece the views are all of the bytes. -/
theorem gatherViews_whole (fit : queue.Fit) {maxViews : Nat} (enough : queue.pieces ≤ maxViews) :
    (queue.gatherViews maxViews).flatten = queue.bytes := by
  have all : queue.gatherViews maxViews = (if queue.ringSize ≠ 0 then
      (queue.ring.drop queue.ringHead).take queue.contiguous ::
        if queue.contiguous < queue.ringSize then
          [queue.ring.take (queue.ringSize - queue.contiguous)]
        else []
      else []) ++ queue.spill := by
    refine take_of_length_le (Nat.le_trans ?_ enough)
    rw [length_append, pieces]
    split_ifs <;> simp_all
  rw [all, flatten_append, bytes, ← ringViews_flatten fit]
  congr 1
  split_ifs with some' wraps
  · simp
  · have same : queue.ringSize - queue.contiguous = 0 := by omega
    simp [same]
  · have none' : queue.ringSize = 0 := by omega
    simp [contiguous, none']

/-- Each answer is one of the bounded queue. -/
theorem Bounded.ask (bounded : queue.Bounded maxTotalBytes maxSegments) (ask : QueueAsk) :
    FifoStep maxTotalBytes queue.bytes ask.abstract (queue.ask ask).1 (queue.ask ask).2.bytes ∧
      (queue.ask ask).2.Bounded maxTotalBytes maxSegments := by
  have length := bytes_length bounded.fit
  cases ask with
  | append data allocFails =>
    cases appended : queue.append data allocFails with
    | none =>
      rw [OutboundQueue.ask, appended]
      exact ⟨.refuse, bounded⟩
    | some result =>
      obtain ⟨code, next⟩ := result
      rw [OutboundQueue.ask, appended]
      refine ⟨?_, bounded.append appended⟩
      rcases append_spec bounded.fit appended with ⟨rfl, fit, same, total⟩ | ⟨rfl, rfl⟩
      · show FifoStep _ _ _ _ next.bytes
        have limited := fit.limited
        rw [← bytes_length fit, total, bounded.total, same, length_append] at limited
        rw [same]
        exact .append limited
      · exact .refuse
  | gatherViews maxViews =>
    obtain ⟨rest, whole⟩ := gatherViews_prefix bounded.fit maxViews
    exact ⟨.peek (gatherViews_length queue maxViews) (gatherViews_filled bounded.fit maxViews)
      ⟨rest, whole.symm⟩, bounded⟩
  | consumeSent n =>
    refine ⟨?_, bounded.consumeSent n⟩
    by_cases enough : n ≤ queue.totalBytes
    · obtain ⟨success, -, dropped, -⟩ := consumeSent_spec bounded.fit enough
      rw [OutboundQueue.ask]
      rw [success, dropped]
      exact .drop (length ▸ enough)
    · have refused : queue.consumeSent n = (resultOutOfRange, queue) := by
        rw [OutboundQueue.consumeSent, if_pos (Nat.lt_of_not_le enough)]
      rw [OutboundQueue.ask, refused]
      exact .short (length ▸ Nat.lt_of_not_le enough)

/-- A new queue keeps to its limits. -/
theorem make_bounded (ringBytes maxTotalBytes maxSegments : Nat) :
    (make ringBytes maxTotalBytes maxSegments).Bounded maxTotalBytes maxSegments :=
  ⟨make_fit ringBytes maxTotalBytes maxSegments, rfl, rfl, Nat.zero_le _⟩

/-- The answers to a sequence of asks are those of the bounded queue. -/
theorem Bounded.asks (bounded : queue.Bounded maxTotalBytes maxSegments) (asks : List QueueAsk) :
    FifoRun maxTotalBytes queue.bytes (queue.asks asks).1 (queue.asks asks).2.bytes ∧
      (queue.asks asks).2.Bounded maxTotalBytes maxSegments := by
  induction asks generalizing queue with
  | nil => exact ⟨.nil, bounded⟩
  | cons ask rest ih =>
    obtain ⟨first, middle⟩ := bounded.ask ask
    obtain ⟨later, last⟩ := ih middle
    exact ⟨.cons first later, last⟩

/-- When `Append` takes data: the geometry is valid, the bytes are within their limit, and what does not
go into the ring joins the last segment or makes one more within the limit of segments. -/
def Admits (queue : OutboundQueue) (data : Bytes) (allocFails : Bool) : Prop :=
  data = [] ∨ queue.geometryValid = true ∧ queue.totalBytes + data.length ≤ queue.maxTotalBytes ∧
    (data.length ≤ queue.ringShare data ∨
      (queue.canMerge (data.drop (queue.ringShare data)) = true ∨
        queue.spill.length < queue.maxSegments) ∧ allocFails = false)

/-- It refuses everything else. -/
theorem ask_append_accepted (fit : queue.Fit) (data : Bytes) (allocFails : Bool) :
    (queue.ask (.append data allocFails)).1 = .accepted ↔ queue.Admits data allocFails := by
  have limited := fit.limited
  have behind : (data.drop (queue.ringShare data)).isEmpty =
      decide (data.length ≤ queue.ringShare data) := by
    rw [Bool.eq_iff_iff, List.isEmpty_iff, List.drop_eq_nil_iff, decide_eq_true_eq]
  unfold Admits
  simp only [OutboundQueue.ask, OutboundQueue.append, behind]
  split_ifs with empty invalid full crowded failing
  · exact iff_of_true rfl (.inl (List.isEmpty_iff.mp empty))
  · have refused : queue.geometryValid ≠ true := by simpa using invalid
    exact iff_of_false (by rintro ⟨⟩) (by rintro (rfl | ⟨valid, -⟩) <;> contradiction)
  · refine iff_of_false (by rintro ⟨⟩) ?_
    rintro (rfl | ⟨-, room, -⟩)
    · contradiction
    · omega
  · simp only [Bool.and_eq_true, Bool.not_eq_true', decide_eq_false_iff_not, decide_eq_true_eq] at crowded
    obtain ⟨⟨spills, unmerged⟩, many⟩ := crowded
    refine iff_of_false (by rintro ⟨⟩) ?_
    rintro (rfl | ⟨-, -, inside | ⟨merges | few, -⟩⟩)
    · contradiction
    · exact spills inside
    · exact absurd merges (by simp [unmerged])
    · omega
  · simp only [Bool.and_eq_true, Bool.not_eq_true', decide_eq_false_iff_not] at failing
    refine iff_of_false (by rintro ⟨⟩) ?_
    rintro (rfl | ⟨-, -, inside | ⟨-, fine⟩⟩)
    · contradiction
    · exact failing.1 inside
    · exact absurd failing.2 (by simp [fine])
  · refine iff_of_true rfl (.inr ⟨by simpa using invalid, by omega, ?_⟩)
    by_cases inside : data.length ≤ queue.ringShare data
    · exact .inl inside
    · simp [inside] at crowded failing
      refine .inr ⟨?_, failing⟩
      by_cases merges : queue.canMerge (data.drop (queue.ringShare data)) = true
      · exact .inl merges
      · exact .inr (crowded (by simpa using merges))

/-- Along any sequence of asks a queue answers as a bounded queue that is empty at first and holds
its bytes, and it keeps to its limits. It takes all data that its limits allow. -/
theorem queue_refines (ringBytes maxTotalBytes maxSegments : Nat) (asks : List QueueAsk) :
    let run := (make ringBytes maxTotalBytes maxSegments).asks asks
    FifoRun maxTotalBytes [] run.1 run.2.bytes ∧
      run.2.totalBytes = run.2.bytes.length ∧ run.2.totalBytes ≤ maxTotalBytes ∧
      run.2.spill.length ≤ maxSegments ∧
      (∀ data allocFails, (run.2.ask (.append data allocFails)).1 = .accepted ↔
        run.2.Admits data allocFails) ∧
      ∀ maxViews, run.2.pieces ≤ maxViews → (run.2.gatherViews maxViews).flatten = run.2.bytes := by
  intro run
  obtain ⟨answers, bounded⟩ := (make_bounded ringBytes maxTotalBytes maxSegments).asks asks
  have limited := bounded.fit.limited
  rw [bounded.total] at limited
  exact ⟨answers, (bytes_length bounded.fit).symm, limited, bounded.few,
    ask_append_accepted bounded.fit, fun _ enough => gatherViews_whole bounded.fit enough⟩

end OutboundQueue

end BbtInfra.Net
