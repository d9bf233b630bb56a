import BbtInfra.Net.OutboundQueue

/-!
# The elastic ring buffer

`EventRingBuffer` keeps its bytes in a `boost::circular_buffer` that only grows. What matters
of that buffer is what it holds and its capacity: an append allocates only when the capacity is
too small.
-/
namespace BbtInfra.Net

/-- `EventRingBuffer`. -/
structure EventRingBuffer where
  storage : Bytes := []
  capacity : Nat := 0
  maxBytes : Nat
  deriving DecidableEq, Repr

namespace EventRingBuffer

/-- `EventRingBuffer::kInitialCapacity`. -/
def kInitialCapacity : Nat := 1024

/-- `Size`. -/
def size (buffer : EventRingBuffer) : Nat := buffer.storage.length

/-- The loop of `GrowTarget`, which doubles the target at most as often as the fuel says. -/
def growFrom (maxBytes need : Nat) : Nat → Nat → Nat
  | 0, target => target
  | fuel + 1, target =>
    if target < need then
      if maxBytes / 2 < target then maxBytes else growFrom maxBytes need fuel (target * 2)
    else target

/-- `GrowTarget`. -/
def growTarget (buffer : EventRingBuffer) (need : Nat) : Nat :=
  growFrom buffer.maxBytes need need
    (if buffer.capacity = 0 then min buffer.maxBytes kInitialCapacity else buffer.capacity)

/-- `Append` of bytes from outside the buffer; none when the allocation throws. -/
def append (buffer : EventRingBuffer) (data : Bytes) (allocFails : Bool) :
    Option (StdErrorCode × EventRingBuffer) :=
  if data.isEmpty then some (.success, buffer)
  else if buffer.maxBytes - buffer.size < data.length then some (noBufferSpace, buffer)
  else
    let need := buffer.size + data.length
    if buffer.capacity < need then
      if allocFails then none
      else
        some (.success, { buffer with
          storage := buffer.storage ++ data, capacity := buffer.growTarget need })
    else some (.success, { buffer with storage := buffer.storage ++ data })

/-- `Reserve`; none when the allocation throws. -/
def reserve (buffer : EventRingBuffer) (totalCapacity : Nat) (allocFails : Bool) :
    Option (StdErrorCode × EventRingBuffer) :=
  if totalCapacity ≤ buffer.capacity then some (.success, buffer)
  else if buffer.maxBytes < totalCapacity then some (noBufferSpace, buffer)
  else if allocFails then none
  else some (.success, { buffer with capacity := buffer.growTarget totalCapacity })

/-- `Discard`. -/
def discard (buffer : EventRingBuffer) (n : Nat) : StdErrorCode × EventRingBuffer :=
  if buffer.size < n then (resultOutOfRange, buffer)
  else (.success, { buffer with storage := buffer.storage.drop n })

/-- `TakeStorage` leaves a buffer without storage. -/
def taken (buffer : EventRingBuffer) : EventRingBuffer := { buffer with storage := [], capacity := 0 }

/-- The contents fit the capacity, and the capacity the limit. -/
structure Fit (buffer : EventRingBuffer) : Prop where
  held : buffer.size ≤ buffer.capacity
  limited : buffer.capacity ≤ buffer.maxBytes

variable {buffer next : EventRingBuffer} {error : StdErrorCode} {allocFails : Bool}

/-- The loop ends with a target that is enough and within the limit. -/
theorem growFrom_spec {maxBytes need : Nat} (within : need ≤ maxBytes) :
    ∀ fuel target, target ≤ maxBytes → (0 < target ∨ need = 0) → need ≤ fuel + target →
      need ≤ growFrom maxBytes need fuel target ∧ growFrom maxBytes need fuel target ≤ maxBytes := by
  intro fuel
  induction fuel with
  | zero =>
    intro target limited _ enough
    rw [growFrom]
    omega
  | succ fuel ih =>
    intro target limited some' enough
    rw [growFrom]
    by_cases short : target < need
    · rw [if_pos short]
      by_cases large : maxBytes / 2 < target
      · rw [if_pos large]
        omega
      · rw [if_neg large]
        apply ih
        · omega
        · omega
        · omega
    · rw [if_neg short]
      omega

/-- `GrowTarget` is enough and within the limit. -/
theorem growTarget_spec (fit : buffer.Fit) {need : Nat} (within : need ≤ buffer.maxBytes) :
    need ≤ buffer.growTarget need ∧ buffer.growTarget need ≤ buffer.maxBytes := by
  have limited := fit.limited
  have initial : 0 < kInitialCapacity := by decide
  apply growFrom_spec within
  · split_ifs <;> omega
  · split_ifs <;> omega
  · omega

/-- `Append` puts the bytes behind the others, or reports that they do not fit. -/
theorem append_spec (fit : buffer.Fit) {data : Bytes}
    (appended : buffer.append data allocFails = some (error, next)) :
    (error = .success ∧ next.Fit ∧ next.maxBytes = buffer.maxBytes ∧
        next.storage = buffer.storage ++ data) ∨
      (error = noBufferSpace ∧ next = buffer ∧ buffer.maxBytes < buffer.size + data.length) := by
  simp only [append] at appended
  split_ifs at appended with empty full grown failing
  · cases appended
    have nothing : data = [] := List.isEmpty_iff.mp empty
    exact .inl ⟨rfl, fit, rfl, by rw [nothing, List.append_nil]⟩
  · cases appended
    exact .inr ⟨rfl, rfl, by omega⟩
  · cases appended
    have held := fit.held
    have enough := growTarget_spec fit (show buffer.size + data.length ≤ buffer.maxBytes by omega)
    refine .inl ⟨rfl, ⟨?_, enough.2⟩, rfl, rfl⟩
    simpa [size] using enough.1
  · cases appended
    refine .inl ⟨rfl, ⟨?_, fit.limited⟩, rfl, rfl⟩
    simpa [size] using grown

/-- An append that fits and whose allocation succeeds, succeeds. -/
theorem append_succeeds {data : Bytes}
    (room : buffer.size + data.length ≤ buffer.maxBytes) :
    ∃ next, buffer.append data false = some (.success, next) := by
  simp only [append]
  by_cases empty : data.isEmpty = true
  · exact ⟨buffer, if_pos empty⟩
  · rw [if_neg empty, if_neg (by omega)]
    by_cases grown : buffer.capacity < buffer.size + data.length
    · exact ⟨_, if_pos grown⟩
    · exact ⟨_, if_neg grown⟩

/-- `Reserve` changes the capacity only. -/
theorem reserve_spec (fit : buffer.Fit) {totalCapacity : Nat}
    (reserved : buffer.reserve totalCapacity allocFails = some (error, next)) :
    next.Fit ∧ next.maxBytes = buffer.maxBytes ∧ next.storage = buffer.storage ∧
      (error = .success ∨ buffer.maxBytes < totalCapacity) := by
  simp only [reserve] at reserved
  split_ifs at reserved with enough large failing
  · cases reserved
    exact ⟨fit, rfl, rfl, .inl rfl⟩
  · cases reserved
    exact ⟨fit, rfl, rfl, .inr large⟩
  · cases reserved
    have held := fit.held
    have grown := growTarget_spec fit (show totalCapacity ≤ buffer.maxBytes by omega)
    refine ⟨⟨?_, grown.2⟩, rfl, rfl, .inl rfl⟩
    simp only [size] at held ⊢
    omega

/-- `Discard` of bytes that are there drops them. -/
theorem discard_spec (fit : buffer.Fit) (n : Nat) :
    (buffer.discard n).2.Fit ∧ (buffer.discard n).2.maxBytes = buffer.maxBytes ∧
      (buffer.discard n).2.storage =
        if n ≤ buffer.size then buffer.storage.drop n else buffer.storage := by
  have held := fit.held
  simp only [discard]
  by_cases large : buffer.size < n
  · rw [if_pos large, if_neg (by omega)]
    exact ⟨fit, rfl, rfl⟩
  · rw [if_neg large, if_pos (by omega)]
    refine ⟨⟨?_, fit.limited⟩, rfl, rfl⟩
    simp only [size, List.length_drop] at held ⊢
    omega

/-- What `TakeStorage` leaves fits. -/
theorem taken_fit (buffer : EventRingBuffer) : buffer.taken.Fit :=
  ⟨Nat.le_refl 0, Nat.zero_le _⟩

end EventRingBuffer

end BbtInfra.Net
