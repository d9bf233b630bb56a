import BbtInfra.Net.EventRingBuffer
import Mathlib.Algebra.Order.Group.Nat

/-!
# The ring buffer over its circular storage

`EventRingBuffer` on a `boost::circular_buffer`, which is a parameter: `CircularBuffer` is the calls
that the buffer makes, `CircularBuffer.Documented` what they promise. The bytes stand in two segments;
where these are divided is left to the storage. The buffer never comes to an `insert` that overwrites.
-/
namespace BbtInfra.Net

open EventRingBuffer List

/-- `boost::circular_buffer<char>`. -/
structure CircularBuffer (β : Type) where
  /-- A storage that is new, or was moved out. -/
  empty : β
  arrayOne : β → Bytes
  arrayTwo : β → Bytes
  size : β → Nat
  capacity : β → Nat
  setCapacity : β → Nat → β
  /-- `insert` at the end. -/
  insertEnd : β → Bytes → β
  eraseBegin : β → Nat → β

namespace CircularBuffer

variable {β : Type}

/-- The bytes that are stored, the oldest first. -/
def content (circular : CircularBuffer β) (storage : β) : Bytes :=
  circular.arrayOne storage ++ circular.arrayTwo storage

/-- What is relied on: `set_capacity` keeps the first bytes that fit, an `insert` at the end the last
ones, and `erase_begin` all but the first. -/
structure Documented (circular : CircularBuffer β) : Prop where
  empty : circular.content circular.empty = [] ∧ circular.capacity circular.empty = 0
  size : ∀ storage, circular.size storage = (circular.content storage).length
  setCapacity : ∀ storage capacity,
    circular.content (circular.setCapacity storage capacity) =
        (circular.content storage).take capacity ∧
      circular.capacity (circular.setCapacity storage capacity) = capacity
  insertEnd : ∀ storage data,
    circular.content (circular.insertEnd storage data) = (circular.content storage ++ data).drop
        (circular.size storage + data.length - circular.capacity storage) ∧
      circular.capacity (circular.insertEnd storage data) = circular.capacity storage
  eraseBegin : ∀ storage n, n ≤ circular.size storage →
    circular.content (circular.eraseBegin storage n) = (circular.content storage).drop n ∧
      circular.capacity (circular.eraseBegin storage n) = circular.capacity storage

end CircularBuffer

/-- `EventRingBuffer`, with its storage. -/
structure EventRing (β : Type) where
  storage : β
  maxBytes : Nat
  /-- Some `insert` has overwritten bytes. -/
  overwrote : Bool := false

/-- A call of the buffer: its arguments, and which allocations fail. -/
inductive RingCall
  | append (data : Bytes) (overlaps copyFails growFails : Bool)
  | reserve (total : Nat) (growFails : Bool)
  | discard (n : Nat)
  | consume (n : Nat) (outFails : Bool)
  | takeSnapshot (copyFails : Bool)
  | takeStorage (makeFails : Bool)
  deriving DecidableEq, Repr

/-- What a call that succeeds yields, and what the buffer holds behind it. -/
def RingCall.effect (content : Bytes) : RingCall → Bytes × Bytes
  | .append data _ _ _ => ([], content ++ data)
  | .reserve _ _ => ([], content)
  | .discard n => ([], content.drop n)
  | .consume n _ => (content.take n, content.drop n)
  | .takeSnapshot _ => (content, content)
  | .takeStorage _ => (content, [])

/-- When a call succeeds: what it asks for is there or within the limit, and no allocation that it
comes to fails. -/
def RingCall.Admitted (size capacity maxBytes : Nat) : RingCall → Prop
  | .append data overlaps copyFails growFails =>
    data = [] ∨ size + data.length ≤ maxBytes ∧ ¬(overlaps = true ∧ copyFails = true) ∧
      ¬(capacity < size + data.length ∧ growFails = true)
  | .reserve total growFails => total ≤ capacity ∨ total ≤ maxBytes ∧ growFails = false
  | .discard n => n ≤ size
  | .consume n outFails => n ≤ size ∧ (n = 0 ∨ outFails = false)
  | .takeSnapshot copyFails => copyFails = false
  | .takeStorage makeFails => makeFails = false

/-- How a call ends: it returns an error code, with the bytes it yields, or an allocation throws. -/
inductive RingReply
  | returned (error : StdErrorCode) (out : Bytes)
  | threw
  deriving DecidableEq, Repr

namespace EventRing

variable {β : Type} (circular : CircularBuffer β)

/-- The buffer without its segments. -/
def view (ring : EventRing β) : EventRingBuffer where
  storage := circular.content ring.storage
  capacity := circular.capacity ring.storage
  maxBytes := ring.maxBytes

/-- `Size`. -/
def size (ring : EventRing β) : Nat := circular.size ring.storage

/-- The target in front of the loop of `GrowTarget`. -/
def growStart (ring : EventRing β) : Nat :=
  if circular.capacity ring.storage = 0 then min ring.maxBytes kInitialCapacity
  else circular.capacity ring.storage

/-- The loop of `GrowTarget` on `std::size_t`: from a target it ends with a result. -/
inductive GrowLoop (maxBytes need : Nat) : Nat → Nat → Prop
  | enough {target : Nat} (met : ¬target < need) : GrowLoop maxBytes need target target
  | capped {target : Nat} (short : target < need) (large : maxBytes / 2 < target) :
    GrowLoop maxBytes need target maxBytes
  | doubled {target result : Nat} (short : target < need) (small : ¬maxBytes / 2 < target)
    (later : GrowLoop maxBytes need (target * 2 % 2 ^ 64) result) :
    GrowLoop maxBytes need target result

/-- `set_capacity` to the `GrowTarget`, where the capacity is too small. -/
def grown (ring : EventRing β) (need : Nat) : β :=
  if circular.capacity ring.storage < need then
    circular.setCapacity ring.storage ((ring.view circular).growTarget need)
  else ring.storage

/-- `Append`. An input that overlaps the storage is copied first. -/
def append (ring : EventRing β) (data : Bytes) (overlaps copyFails growFails : Bool) :
    RingReply × EventRing β :=
  if data.isEmpty then (.returned .success [], ring)
  else if ring.maxBytes - ring.size circular < data.length then (.returned noBufferSpace [], ring)
  else if overlaps && copyFails then (.threw, ring)
  else
    let need := ring.size circular + data.length
    if circular.capacity ring.storage < need && growFails then (.threw, ring)
    else
      let storage := ring.grown circular need
      (.returned .success [],
        { ring with
          storage := circular.insertEnd storage data
          overwrote := ring.overwrote ||
            decide (circular.capacity storage < circular.size storage + data.length) })

/-- `Reserve`. -/
def reserve (ring : EventRing β) (total : Nat) (growFails : Bool) : RingReply × EventRing β :=
  if total ≤ circular.capacity ring.storage then (.returned .success [], ring)
  else if ring.maxBytes < total then (.returned noBufferSpace [], ring)
  else if growFails then (.threw, ring)
  else (.returned .success [], { ring with storage := ring.grown circular total })

/-- `Discard`. -/
def discard (ring : EventRing β) (n : Nat) : RingReply × EventRing β :=
  if ring.size circular < n then (.returned resultOutOfRange [], ring)
  else (.returned .success [], { ring with storage := circular.eraseBegin ring.storage n })

/-- `Consume`: what goes to `out` comes from the two segments. -/
def consume (ring : EventRing β) (n : Nat) (outFails : Bool) : RingReply × EventRing β :=
  if ring.size circular < n then (.returned resultOutOfRange [], ring)
  else if n = 0 then (.returned .success [], ring)
  else if outFails then (.threw, ring)
  else
    let one := circular.arrayOne ring.storage
    let first := if n < one.length then n else one.length
    (.returned .success (one.take first ++
        if first < n then (circular.arrayTwo ring.storage).take (n - first) else []),
      { ring with storage := circular.eraseBegin ring.storage n })

/-- `TakeSnapshot`. -/
def takeSnapshot (ring : EventRing β) (copyFails : Bool) : RingReply × EventRing β :=
  if copyFails then (.threw, ring)
  else
    (.returned .success (circular.arrayOne ring.storage ++ circular.arrayTwo ring.storage), ring)

/-- `TakeStorage`: the storage is moved out, and yields both segments. -/
def takeStorage (ring : EventRing β) (makeFails : Bool) : RingReply × EventRing β :=
  if makeFails then (.threw, ring)
  else
    (.returned .success (circular.arrayOne ring.storage ++ circular.arrayTwo ring.storage),
      { ring with storage := circular.empty })

/-- A call. -/
def call (ring : EventRing β) : RingCall → RingReply × EventRing β
  | .append data overlaps copyFails growFails =>
    ring.append circular data overlaps copyFails growFails
  | .reserve total growFails => ring.reserve circular total growFails
  | .discard n => ring.discard circular n
  | .consume n outFails => ring.consume circular n outFails
  | .takeSnapshot copyFails => ring.takeSnapshot circular copyFails
  | .takeStorage makeFails => ring.takeStorage circular makeFails

/-- The buffer after a sequence of calls. -/
def calls (ring : EventRing β) (sequence : List RingCall) : EventRing β :=
  sequence.foldl (fun ring op => (ring.call circular op).2) ring

/-- What holds between two calls. -/
structure Sound (ring : EventRing β) : Prop where
  fit : (ring.view circular).Fit
  whole : ring.overwrote = false

/-- What a call comes to: it has its effect when it is admitted, and else it reports an error or throws
and leaves the buffer as it was. -/
structure Answers (ring : EventRing β) (op : RingCall) (reply : RingReply) (after : EventRing β) :
    Prop where
  sound : after.Sound circular
  limit : after.maxBytes = ring.maxBytes
  admitted : op.Admitted (ring.size circular) (circular.capacity ring.storage) ring.maxBytes →
    reply = .returned .success (op.effect (circular.content ring.storage)).1 ∧
      circular.content after.storage = (op.effect (circular.content ring.storage)).2
  refused : ¬op.Admitted (ring.size circular) (circular.capacity ring.storage) ring.maxBytes →
    (∀ out, reply ≠ .returned .success out) ∧ after = ring

variable {circular} {ring : EventRing β} {need target : Nat}

/-- The fuel of `growFrom` is enough: the loop ends with its result, and with no other. -/
theorem growLoop_iff {maxBytes : Nat} (bounded : maxBytes < 2 ^ 64) (within : need ≤ maxBytes) :
    ∀ fuel target, target ≤ maxBytes → (0 < target ∨ need = 0) → need ≤ fuel + target →
      ∀ result, GrowLoop maxBytes need target result ↔
        result = EventRingBuffer.growFrom maxBytes need fuel target := by
  intro fuel
  induction fuel with
  | zero =>
    intro target limited some' enough result
    rw [growFrom]
    constructor
    · intro loop
      cases loop with
      | enough => rfl
      | capped short | doubled short => omega
    · rintro rfl
      exact .enough (by omega)
  | succ fuel ih =>
    intro target limited some' enough result
    rw [growFrom]
    have doubles : ¬maxBytes / 2 < target → target * 2 % 2 ^ 64 = target * 2 := fun small =>
      Nat.mod_eq_of_lt (by omega)
    constructor
    · intro loop
      cases loop with
      | enough met => rw [if_neg met]
      | capped short large => rw [if_pos short, if_pos large]
      | doubled short small later =>
        rw [doubles small] at later
        rw [if_pos short, if_neg small]
        exact (ih (target * 2) (by omega) (by omega) (by omega) result).mp later
    · split_ifs with short large
      · rintro rfl
        exact .capped short large
      · intro same
        refine .doubled short large ?_
        rw [doubles large]
        exact (ih (target * 2) (by omega) (by omega) (by omega) result).mpr same
      · rintro rfl
        exact .enough short

section Documented

variable (documented : circular.Documented)
include documented

/-- Growing keeps what is stored, and makes room. -/
theorem Sound.grown (sound : ring.Sound circular) (within : need ≤ ring.maxBytes) :
    circular.content (ring.grown circular need) = circular.content ring.storage ∧
      need ≤ circular.capacity (ring.grown circular need) ∧
      circular.capacity (ring.grown circular need) ≤ ring.maxBytes ∧
      (circular.content ring.storage).length ≤ circular.capacity (ring.grown circular need) := by
  have held : (circular.content ring.storage).length ≤ circular.capacity ring.storage :=
    sound.fit.held
  have limited : circular.capacity ring.storage ≤ ring.maxBytes := sound.fit.limited
  unfold EventRing.grown
  split_ifs with short
  · obtain ⟨enough, bounded⟩ := growTarget_spec sound.fit within
    obtain ⟨content, capacity⟩ :=
      documented.setCapacity ring.storage ((ring.view circular).growTarget need)
    rw [content, capacity]
    have room : (circular.content ring.storage).length ≤ (ring.view circular).growTarget need := by
      omega
    exact ⟨take_of_length_le room, enough, bounded, room⟩
  · exact ⟨rfl, Nat.le_of_not_lt short, limited, held⟩

/-- An `insert` that fits overwrites nothing. -/
theorem insertEnd_fits {storage : β} {data : Bytes}
    (fits : circular.size storage + data.length ≤ circular.capacity storage) :
    circular.content (circular.insertEnd storage data) = circular.content storage ++ data ∧
      circular.capacity (circular.insertEnd storage data) = circular.capacity storage := by
  obtain ⟨content, capacity⟩ := documented.insertEnd storage data
  exact ⟨by rw [content, Nat.sub_eq_zero_of_le fits, drop_zero], capacity⟩

omit documented in
/-- Taking from both segments in turn takes from the content. -/
theorem take_segments (storage : β) (n : Nat) :
    let one := circular.arrayOne storage
    let first := if n < one.length then n else one.length
    (one.take first ++ if first < n then (circular.arrayTwo storage).take (n - first) else []) =
      (circular.content storage).take n := by
  rw [CircularBuffer.content, take_append]
  dsimp only
  split_ifs with inside
  · omega
  · rw [Nat.sub_eq_zero_of_le (Nat.le_of_lt inside), take_zero]
  · rw [take_length, take_of_length_le (Nat.le_of_not_lt inside)]
  · have ends : n = (circular.arrayOne storage).length := by omega
    rw [ends, Nat.sub_self, take_zero]

/-- Bytes that leave at the front keep the buffer sound. -/
theorem Sound.eraseBegin (sound : ring.Sound circular) {n : Nat} (inside : n ≤ ring.size circular) :
    Sound circular { ring with storage := circular.eraseBegin ring.storage n } ∧
      circular.content (circular.eraseBegin ring.storage n) =
        (circular.content ring.storage).drop n := by
  obtain ⟨content, capacity⟩ := documented.eraseBegin ring.storage n inside
  refine ⟨⟨⟨?_, capacity.trans_le sound.fit.limited⟩, sound.whole⟩, content⟩
  have held : (circular.content ring.storage).length ≤ circular.capacity ring.storage :=
    sound.fit.held
  show (circular.content _).length ≤ circular.capacity _
  rw [content, capacity, length_drop]
  omega

omit documented in
/-- A call that is refused or throws. -/
theorem Sound.refuses (sound : ring.Sound circular) {op : RingCall} {reply : RingReply}
    (refused : ¬op.Admitted (ring.size circular) (circular.capacity ring.storage) ring.maxBytes)
    (apart : ∀ out, reply ≠ .returned .success out) : Answers circular ring op reply ring :=
  ⟨sound, rfl, fun admitted => absurd admitted refused, fun _ => ⟨apart, rfl⟩⟩

/-- What a call does, and that the buffer stays sound. -/
theorem Sound.call (sound : ring.Sound circular) (op : RingCall) :
    Answers circular ring op (ring.call circular op).1 (ring.call circular op).2 := by
  have size : ring.size circular = (circular.content ring.storage).length :=
    documented.size ring.storage
  have held : (circular.content ring.storage).length ≤ circular.capacity ring.storage :=
    sound.fit.held
  have limited : circular.capacity ring.storage ≤ ring.maxBytes := sound.fit.limited
  cases op with
  | append data overlaps copyFails growFails =>
    unfold EventRing.call EventRing.append
    dsimp only
    split_ifs with empty large copy fails
    · refine ⟨sound, rfl, fun _ => ⟨rfl, ?_⟩, fun refused => absurd (.inl (isEmpty_iff.mp empty)) refused⟩
      rw [RingCall.effect, isEmpty_iff.mp empty, append_nil]
    · refine sound.refuses ?_ nofun
      rintro (nothing | ⟨fits, -⟩)
      · exact empty (isEmpty_iff.mpr nothing)
      · omega
    · refine sound.refuses ?_ nofun
      rintro (nothing | ⟨-, copies, -⟩)
      · exact empty (isEmpty_iff.mpr nothing)
      · exact copies (by simpa using copy)
    · refine sound.refuses ?_ nofun
      rintro (nothing | ⟨-, -, grows⟩)
      · exact empty (isEmpty_iff.mpr nothing)
      · exact grows (by simpa using fails)
    · have fits : ring.size circular + data.length ≤ ring.maxBytes := by omega
      obtain ⟨content, enough, bounded, -⟩ := sound.grown documented fits
      have stored := documented.size (ring.grown circular (ring.size circular + data.length))
      rw [content, ← size] at stored
      obtain ⟨same, capacity⟩ := insertEnd_fits documented
        ((congrArg (· + data.length) stored).trans_le enough)
      refine ⟨⟨⟨?_, capacity.trans_le bounded⟩, ?_⟩, rfl, fun _ => ⟨rfl, ?_⟩, fun refused => ?_⟩
      · show (circular.content _).length ≤ circular.capacity _
        rw [same, capacity, content, length_append, ← size]
        exact enough
      · show (ring.overwrote || decide _) = false
        rw [sound.whole, stored, Bool.false_or, decide_eq_false (Nat.not_lt.mpr enough)]
      · rw [same, content, RingCall.effect]
      · refine absurd (.inr ⟨fits, ?_, ?_⟩) refused
        · simpa using copy
        · simpa using fails
  | reserve total growFails =>
    unfold EventRing.call EventRing.reserve
    dsimp only
    split_ifs with enough large fails
    · exact ⟨sound, rfl, fun _ => ⟨rfl, rfl⟩, fun refused => absurd (.inl enough) refused⟩
    · exact sound.refuses (by rintro (room | ⟨room, -⟩) <;> omega) nofun
    · exact sound.refuses (by rintro (room | ⟨-, grows⟩) <;> simp_all) nofun
    · obtain ⟨content, -, bounded, room⟩ :=
        sound.grown documented (show total ≤ ring.maxBytes by omega)
      refine ⟨⟨⟨?_, bounded⟩, sound.whole⟩, rfl, fun _ => ⟨rfl, content⟩, fun refused => ?_⟩
      · exact (congrArg length content).trans_le room
      · exact absurd (.inr ⟨by omega, by simpa using fails⟩) refused
  | discard n =>
    unfold EventRing.call EventRing.discard
    dsimp only
    split_ifs with large
    · exact sound.refuses (Nat.not_le.mpr large) nofun
    · obtain ⟨kept, content⟩ := sound.eraseBegin documented (Nat.le_of_not_lt large)
      exact ⟨kept, rfl, fun _ => ⟨rfl, content⟩, fun refused => absurd (Nat.le_of_not_lt large) refused⟩
  | consume n outFails =>
    unfold EventRing.call EventRing.consume
    dsimp only
    by_cases large : ring.size circular < n
    · rw [if_pos large]
      exact sound.refuses (fun admitted => absurd admitted.1 (Nat.not_le.mpr large)) nofun
    have inside := Nat.le_of_not_lt large
    rw [if_neg large]
    by_cases nothing : n = 0
    · rw [if_pos nothing, nothing]
      exact ⟨sound, rfl, fun _ => ⟨rfl, rfl⟩, fun refused => absurd ⟨Nat.zero_le _, .inl rfl⟩ refused⟩
    rw [if_neg nothing]
    cases outFails with
    | true =>
      refine sound.refuses (fun admitted => ?_) nofun
      exact admitted.2.elim nothing nofun
    | false =>
      obtain ⟨kept, content⟩ := sound.eraseBegin documented inside
      refine ⟨kept, rfl, fun _ => ⟨?_, content⟩, fun refused => absurd ⟨inside, .inr rfl⟩ refused⟩
      exact congrArg (RingReply.returned .success) (take_segments ring.storage n)
  | takeSnapshot copyFails =>
    cases copyFails with
    | true => exact sound.refuses nofun nofun
    | false => exact ⟨sound, rfl, fun _ => ⟨rfl, rfl⟩, fun refused => absurd rfl refused⟩
  | takeStorage makeFails =>
    cases makeFails with
    | true => exact sound.refuses nofun nofun
    | false =>
      obtain ⟨nothing, capacity⟩ := documented.empty
      refine ⟨⟨⟨?_, ?_⟩, sound.whole⟩, rfl, fun _ => ⟨rfl, nothing⟩, fun refused => absurd rfl refused⟩
      · exact (congrArg length nothing).trans_le (Nat.zero_le _)
      · exact capacity.trans_le (Nat.zero_le _)

/-- A sequence of calls keeps the buffer sound. -/
theorem Sound.calls (sound : ring.Sound circular) (sequence : List RingCall) :
    (ring.calls circular sequence).Sound circular ∧
      (ring.calls circular sequence).maxBytes = ring.maxBytes := by
  induction sequence generalizing ring with
  | nil => exact ⟨sound, rfl⟩
  | cons op later ih =>
    have answers := sound.call documented op
    obtain ⟨ends, limits⟩ := ih answers.sound
    exact ⟨ends, limits.trans answers.limit⟩

end Documented

/-- Behind any sequence of calls the buffer holds no more than its limit and no `insert` has
overwritten anything. For a need within the limit the loop of `GrowTarget` ends with one target, which
is enough and within the limit. A call that is admitted has its effect on the content, which it yields
in order; any other reports an error or throws and changes nothing. -/
theorem ring_keeps_content {β : Type} {circular : CircularBuffer β} (documented : circular.Documented)
    (maxBytes : UInt64) (sequence : List RingCall) :
    let ring := calls circular { storage := circular.empty, maxBytes := maxBytes.toNat } sequence
    let content := circular.content ring.storage
    ring.size circular ≤ maxBytes.toNat ∧ ring.overwrote = false ∧
      (∀ need ≤ maxBytes.toNat,
        (∀ target, GrowLoop maxBytes.toNat need (ring.growStart circular) target ↔
          target = (ring.view circular).growTarget need) ∧
        need ≤ (ring.view circular).growTarget need ∧
        (ring.view circular).growTarget need ≤ maxBytes.toNat) ∧
      ∀ op : RingCall,
        (op.Admitted content.length (circular.capacity ring.storage) maxBytes.toNat →
          (ring.call circular op).1 = .returned .success (op.effect content).1 ∧
          circular.content (ring.call circular op).2.storage = (op.effect content).2) ∧
        (¬op.Admitted content.length (circular.capacity ring.storage) maxBytes.toNat →
          (∀ out, (ring.call circular op).1 ≠ .returned .success out) ∧
          (ring.call circular op).2 = ring) := by
  intro ring content
  have fresh : Sound circular { storage := circular.empty, maxBytes := maxBytes.toNat } := by
    obtain ⟨nothing, capacity⟩ := documented.empty
    refine ⟨⟨?_, capacity.trans_le (Nat.zero_le _)⟩, rfl⟩
    exact (congrArg length nothing).trans_le (Nat.zero_le _)
  obtain ⟨sound, limit⟩ : ring.Sound circular ∧ ring.maxBytes = maxBytes.toNat :=
    fresh.calls documented sequence
  have size : ring.size circular = content.length := documented.size ring.storage
  have held : content.length ≤ circular.capacity ring.storage := sound.fit.held
  have limited : circular.capacity ring.storage ≤ ring.maxBytes := sound.fit.limited
  refine ⟨by omega, sound.whole, ?_, fun op => ?_⟩
  · intro need within
    rw [← limit] at within ⊢
    refine ⟨fun target => ?_, growTarget_spec sound.fit within⟩
    have initial : 0 < kInitialCapacity := by decide
    have word := maxBytes.toNat_lt
    unfold growStart
    apply growLoop_iff (by omega) within
    · split_ifs <;> omega
    · split_ifs <;> omega
    · omega
  · have answers := sound.call documented op
    rw [← size, ← limit]
    exact ⟨answers.admitted, answers.refused⟩

section Sample

/-- A storage that knows where its first byte stands. -/
structure Cells where
  content : Bytes
  capacity : Nat
  head : Nat

/-- The first segment ends at the end of the cells; the second one begins at the first cell. -/
def cells : CircularBuffer Cells where
  empty := ⟨[], 0, 0⟩
  arrayOne storage := storage.content.take (storage.capacity - storage.head)
  arrayTwo storage := storage.content.drop (storage.capacity - storage.head)
  size storage := storage.content.length
  capacity := Cells.capacity
  setCapacity storage capacity := ⟨storage.content.take capacity, capacity, 0⟩
  insertEnd storage data :=
    let lost := storage.content.length + data.length - storage.capacity
    { storage with
      content := (storage.content ++ data).drop lost
      head := (storage.head + lost) % storage.capacity }
  eraseBegin storage n :=
    { storage with content := storage.content.drop n, head := (storage.head + n) % storage.capacity }

/-- The cells behave as documented. -/
theorem cells_documented : cells.Documented := by
  have content : ∀ storage, cells.content storage = storage.content := fun storage =>
    take_append_drop _ _
  constructor <;> intros <;> simp only [content] <;> simp [cells]

/-- Four bytes that go around the end of the cells are consumed in their order. -/
theorem ring_keeps_content_wrapped :
    let ring := calls cells { storage := cells.empty, maxBytes := (4 : UInt64).toNat }
      [.append [1, 2, 3] false false false, .consume 2 false, .append [4, 5, 6] false false false]
    cells.arrayTwo ring.storage = [5, 6] ∧
      (ring.call cells (.consume 3 false)).1 = .returned .success [3, 4, 5] ∧
      (ring.call cells (.takeSnapshot false)).1 = .returned .success [3, 4, 5, 6] := by
  have kept := (ring_keeps_content cells_documented 4
    [.append [1, 2, 3] false false false, .consume 2 false, .append [4, 5, 6] false false false]).2.2.2
  exact ⟨by decide, ((kept (.consume 3 false)).1 ⟨by decide, .inr rfl⟩).1,
    ((kept (.takeSnapshot false)).1 rfl).1⟩

end Sample

end EventRing

end BbtInfra.Net
