import BbtInfra.Net.ReadSteps

/-!
# The order of the inbound bytes

The four places hold, one behind the other, exactly the received bytes that no consumer took.
The owner reads the socket only while the later places are empty; a consumer moves bytes only to
the place in front.
-/
namespace BbtInfra.Net

open Lib EventRingBuffer List

namespace ReadSide

/-- The bytes stored on the way to the consumers. -/
def stored (s : ReadSide) : Nat :=
  s.ring.size + s.pending.length + s.detached.length + s.hold.length

/-- What holds of the places wherever the threads stand. -/
structure Stored (maxBytes : Nat) (s : ReadSide) : Prop where
  order : s.received = s.delivered ++ s.ring.storage ++ s.pending ++ s.detached ++ s.hold
  limit : s.ring.maxBytes = maxBytes
  fit : s.ring.Fit
  bound : s.stored ≤ maxBytes
  detachedSized : s.detachedSize = s.detached.length
  pendingSized : s.pending ≠ [] → s.pendingSize = s.pending.length
  behind : s.hold ≠ [] → s.pending = []

/-- The connection is open and nothing is detached. -/
structure Working (s : ReadSide) : Prop where
  backend : s.backendClosed = false
  conn : s.connClosed = false
  detached : s.detached = []

/-- What holds while the owner stands somewhere. -/
def Phase (s : ReadSide) : OwnerPc → Prop
  | .idle | .pump | .stage => s.backendClosed = s.connClosed ∧
      (s.detached ≠ [] → s.backendClosed = true) ∧ (s.backendClosed = true → s.hold = [])
  | .lowWater | .reads _ | .append _ _ | .defer _ _ | .arm _ | .retry => s.Working
  | .checkPending _ _ | .pausing _ => s.Working ∧ s.hold = []
  | .loop _ _ | .reserve _ _ _ => s.Working ∧ s.hold = [] ∧ s.pending = []
  | .receive _ _ granted =>
      s.Working ∧ s.hold = [] ∧ s.pending = [] ∧ s.stored + granted ≤ s.ring.maxBytes
  | .closing => s.backendClosed = false ∧ s.connClosed = false ∧ s.hold = []
  | .markClosed | .finishing => s.backendClosed = true ∧ s.connClosed = false ∧ s.hold = []

/-- A consumer that flushed finds nothing pending while it holds the lock. -/
def Within (s : ReadSide) : Option Inside → Prop
  | none | some (.entered _) | some .taking | some (.leaving _) => True
  | some _ => s.pending = []

/-- The invariant of the places and of the threads. -/
structure Sound (maxBytes : Nat) (s : ReadSide) : Prop where
  stored : s.Stored maxBytes
  phase : s.Phase s.owner
  within : s.Within s.inside

variable {maxBytes : Nat} {s next : ReadSide}

/-- What the steps of a consumer may do to the places. -/
structure Consumed (s next : ReadSide) : Prop where
  owner : next.owner = s.owner
  hold : next.hold = s.hold
  flags : next.backendClosed = s.backendClosed ∧ next.connClosed = s.connClosed
  limit : next.ring.maxBytes = s.ring.maxBytes
  pending : s.pending = [] → next.pending = []
  detached : s.detached = [] → next.detached = []
  less : next.stored ≤ s.stored

/-- They leave the owner where it stands. -/
theorem Consumed.phase (consumed : s.Consumed next) (phase : s.Phase s.owner) :
    next.Phase next.owner := by
  have working : s.Working → next.Working := by
    rintro ⟨backend, conn, detached⟩
    exact ⟨consumed.flags.1.trans backend, consumed.flags.2.trans conn,
      consumed.detached detached⟩
  have less := consumed.less
  rw [consumed.owner]
  cases owner : s.owner <;> rw [owner] at phase <;> simp only [Phase] at phase ⊢
  case idle | pump | stage =>
    rw [consumed.flags.1, consumed.flags.2, consumed.hold]
    refine ⟨phase.1, ?_, phase.2.2⟩
    intro detached
    apply phase.2.1
    intro none'
    exact detached (consumed.detached none')
  case lowWater | reads | append | defer | arm | retry => exact working phase
  case checkPending | pausing => exact ⟨working phase.1, consumed.hold.trans phase.2⟩
  case loop | reserve =>
    exact ⟨working phase.1, consumed.hold.trans phase.2.1, consumed.pending phase.2.2⟩
  case receive via round granted =>
    refine ⟨working phase.1, consumed.hold.trans phase.2.1, consumed.pending phase.2.2.1, ?_⟩
    rw [consumed.limit]
    omega
  case closing | markClosed | finishing =>
    rw [consumed.flags.1, consumed.flags.2, consumed.hold]
    exact phase

/-- A step of a consumer that moves no byte. -/
theorem Consumed.of_same (owner : next.owner = s.owner) (hold : next.hold = s.hold)
    (flags : next.backendClosed = s.backendClosed ∧ next.connClosed = s.connClosed)
    (ring : next.ring = s.ring) (pending : next.pending = s.pending)
    (detached : next.detached = s.detached) : s.Consumed next := by
  refine ⟨owner, hold, flags, by rw [ring], fun none' => pending.trans none',
    fun none' => detached.trans none', ?_⟩
  rw [ReadSide.stored, ReadSide.stored, ring, pending, detached, hold]

/-- Fields that no place depends on may change. -/
structure SamePlaces (s next : ReadSide) : Prop where
  ring : next.ring = s.ring
  pending : next.pending = s.pending
  detached : next.detached = s.detached
  hold : next.hold = s.hold
  detachedSize : next.detachedSize = s.detachedSize
  pendingSize : next.pendingSize = s.pendingSize ∨ next.pendingSize = s.pending.length
  history : next.received = s.received ∧ next.delivered = s.delivered

/-- Then what holds of the places goes on holding. -/
theorem Stored.same (stored : s.Stored maxBytes) (same : s.SamePlaces next) :
    next.Stored maxBytes := by
  refine ⟨?_, ?_, ?_, ?_, ?_, ?_, ?_⟩
  · rw [same.history.1, same.history.2, same.ring, same.pending, same.detached, same.hold]
    exact stored.order
  · rw [same.ring]
    exact stored.limit
  · rw [same.ring]
    exact stored.fit
  · rw [ReadSide.stored, same.ring, same.pending, same.detached, same.hold]
    exact stored.bound
  · rw [same.detachedSize, same.detached]
    exact stored.detachedSized
  · rw [same.pending]
    intro some'
    rcases same.pendingSize with old | new
    · exact old.trans (stored.pendingSized some')
    · exact new
  · rw [same.hold, same.pending]
    exact stored.behind

section

variable (sound : s.Sound maxBytes)

include sound

/-- A consumer that moves no byte goes on inside the lock or leaves it. -/
theorem Sound.inside (same : s.SamePlaces next) (owner : next.owner = s.owner)
    (flags : next.backendClosed = s.backendClosed ∧ next.connClosed = s.connClosed)
    (within : next.Within next.inside) : next.Sound maxBytes := by
  have consumed := Consumed.of_same owner same.hold flags same.ring same.pending same.detached
  exact ⟨sound.stored.same same, consumed.phase sound.phase, within⟩

/-- The merge of the pending bytes. -/
theorem Sound.flushPending (entry : ReadEntry) (allocFails : Bool) :
    (s.flushPending entry allocFails).Sound maxBytes := by
  have stored := sound.stored
  have same : ∀ inside, s.SamePlaces { s with inside } :=
    fun _ => ⟨rfl, rfl, rfl, rfl, rfl, .inl rfl, rfl, rfl⟩
  unfold ReadSide.flushPending
  by_cases nothing : s.pending.isEmpty = true
  · rw [if_pos nothing]
    exact sound.inside (same _) rfl ⟨rfl, rfl⟩ (isEmpty_iff.mp nothing)
  rw [if_neg nothing]
  cases appended : s.ring.append s.pending allocFails with
  | none => exact sound.inside (same _) rfl ⟨rfl, rfl⟩ trivial
  | some answer =>
    obtain ⟨error, ring⟩ := answer
    have bound := stored.bound
    rw [ReadSide.stored] at bound
    rcases append_spec stored.fit appended with
      ⟨rfl, fit, limit, storage⟩ | ⟨_, _, large⟩
    · have size : ring.size = s.ring.size + s.pending.length := by
        rw [EventRingBuffer.size, storage, length_append, EventRingBuffer.size]
      dsimp only
      rw [if_neg (by decide)]
      refine ⟨⟨?_, limit.trans stored.limit, fit, ?_, stored.detachedSized, ?_, fun _ => rfl⟩, ?_,
        rfl⟩
      · simp only [storage, stored.order, append_assoc, nil_append]
      · simp only [ReadSide.stored, size, length_nil]
        omega
      · intro some'
        exact absurd rfl some'
      · apply Consumed.phase _ sound.phase
        refine ⟨rfl, rfl, ⟨rfl, rfl⟩, limit, fun _ => rfl, fun none' => none', ?_⟩
        simp only [ReadSide.stored, size, length_nil]
        omega
    · rw [stored.limit] at large
      omega

/-- The merge of the detached bytes, when nothing is pending. -/
theorem Sound.flushDetached (flushed : s.pending = []) (entry : ReadEntry) (allocFails : Bool) :
    (s.flushDetached entry allocFails).Sound maxBytes := by
  have stored := sound.stored
  have same : s.SamePlaces (s.move (.detachedFlushed entry)) :=
    ⟨rfl, rfl, rfl, rfl, rfl, .inl rfl, rfl, rfl⟩
  have kept : (s.move (.detachedFlushed entry)).Sound maxBytes :=
    sound.inside same rfl ⟨rfl, rfl⟩ flushed
  unfold ReadSide.flushDetached
  by_cases nothing : s.detachedSize = 0 ∨ s.detached = []
  · rw [if_pos nothing]
    exact kept
  rw [if_neg nothing]
  cases appended : s.ring.append s.detached allocFails with
  | none => exact kept
  | some answer =>
    obtain ⟨error, ring⟩ := answer
    have bound := stored.bound
    rw [ReadSide.stored] at bound
    rcases append_spec stored.fit appended with
      ⟨rfl, fit, limit, storage⟩ | ⟨_, _, large⟩
    · have size : ring.size = s.ring.size + s.detached.length := by
        rw [EventRingBuffer.size, storage, length_append, EventRingBuffer.size]
      dsimp only
      rw [if_neg (by decide)]
      refine ⟨⟨?_, limit.trans stored.limit, fit, ?_, rfl, stored.pendingSized, stored.behind⟩, ?_,
        flushed⟩
      · simp only [storage, stored.order, flushed, append_assoc, nil_append]
      · simp only [ReadSide.stored, size, length_nil]
        omega
      · apply Consumed.phase _ sound.phase
        refine ⟨rfl, rfl, ⟨rfl, rfl⟩, limit, fun none' => none', fun _ => rfl, ?_⟩
        simp only [ReadSide.stored, size, length_nil]
        omega
    · rw [stored.limit] at large
      omega

/-- Taking everything out. -/
theorem Sound.takeAll : s.takeAll.Sound maxBytes := by
  have stored := sound.stored
  have ring : s.takeAll.ring.storage = [] ∧ s.takeAll.ring.Fit ∧
      s.takeAll.ring.maxBytes = s.ring.maxBytes := by
    simp only [ReadSide.takeAll]
    by_cases nothing : s.ring.size = 0
    · rw [if_pos nothing]
      exact ⟨length_eq_zero_iff.mp nothing, stored.fit, rfl⟩
    · rw [if_neg nothing]
      exact ⟨rfl, taken_fit _, rfl⟩
  have size : s.takeAll.ring.size = 0 := by rw [EventRingBuffer.size, ring.1, length_nil]
  have bound := stored.bound
  have less : s.takeAll.stored ≤ s.stored := by
    simp only [ReadSide.stored, size]
    simp only [ReadSide.takeAll, length_nil]
    omega
  refine ⟨⟨?_, ring.2.2.trans stored.limit, ring.2.1, Nat.le_trans less bound, rfl, ?_,
    fun _ => rfl⟩, ?_, rfl⟩
  · rw [ring.1]
    simp only [ReadSide.takeAll, stored.order, append_assoc, nil_append]
  · intro some'
    exact absurd rfl some'
  · have consumed : s.Consumed s.takeAll :=
      ⟨rfl, rfl, ⟨rfl, rfl⟩, ring.2.2, fun _ => rfl, fun _ => rfl, less⟩
    exact consumed.phase sound.phase

/-- Bytes taken from the front of the ring are delivered. -/
theorem Sound.consume {count : Nat} (there : count ≤ s.ring.size)
    {inside : Inside} (within : s.Within (some inside)) :
    { s with
      ring := (s.ring.discard count).2
      delivered := s.delivered ++ s.ring.storage.take count
      inside := some inside }.Sound maxBytes := by
  have stored := sound.stored
  obtain ⟨fit, limit, storage⟩ := EventRingBuffer.discard_spec stored.fit count
  rw [if_pos there] at storage
  have less : (s.ring.discard count).2.size ≤ s.ring.size := by
    rw [EventRingBuffer.size, storage, length_drop, EventRingBuffer.size]
    omega
  have bound := stored.bound
  rw [ReadSide.stored] at bound
  refine ⟨⟨?_, limit.trans stored.limit, fit, ?_, stored.detachedSized, stored.pendingSized,
    stored.behind⟩, ?_, within⟩
  · simp only [storage, stored.order, append_assoc]
    rw [← append_assoc (s.ring.storage.take count), take_append_drop]
  · simp only [ReadSide.stored]
    omega
  · apply Consumed.phase _ sound.phase
    refine ⟨rfl, rfl, ⟨rfl, rfl⟩, limit, fun none' => none', fun none' => none', ?_⟩
    simp only [ReadSide.stored]
    omega

/-- `ReadAccess::Consume`. -/
theorem Sound.guardConsume (guarded : s.inside = some .guarded)
    (count : Nat) : (s.guardConsume count).Sound maxBytes := by
  have within : s.pending = [] := by
    have inside := sound.within
    rw [guarded] at inside
    exact inside
  unfold ReadSide.guardConsume
  by_cases large : s.ring.size < count
  · rw [if_pos large]
    exact sound
  · rw [if_neg large]
    exact sound.consume (by omega) within

end

/-- Where the consumer goes it may rely on what it relied on before. -/
theorem Walk.within {allocFails : Bool} {here there : Inside} (walk : s.Walk allocFails here there)
    (within : s.Within (some here)) : s.Within (some there) := by
  cases walk with
  | nothing nothing => exact length_eq_zero_iff.mp (by omega)
  | takes | error | block | unread | untaken => trivial
  | empty | guards | consumes | clean | more => exact within

/-- A step of the consumer inside. -/
theorem Sound.advance (sound : s.Sound maxBytes) {allocFails : Bool} {inside : Inside}
    (here : s.inside = some inside) (moved : s.advance allocFails inside = some next) :
    next.Sound maxBytes := by
  have within := sound.within
  rw [here] at within
  cases advance_cases moved with
  | walk walk =>
    exact sound.inside ⟨rfl, rfl, rfl, rfl, rfl, .inl rfl, rfl, rfl⟩ rfl ⟨rfl, rfl⟩
      (walk.within within)
  | flushPending => exact sound.flushPending _ _
  | flushDetached => exact sound.flushDetached within _ _
  | pendingSize =>
    exact sound.inside ⟨rfl, rfl, rfl, rfl, rfl, .inr rfl, rfl, rfl⟩ rfl ⟨rfl, rfl⟩ within
  | size => exact sound.inside ⟨rfl, rfl, rfl, rfl, rfl, .inl rfl, rfl, rfl⟩ rfl ⟨rfl, rfl⟩ within
  | ends | takenPending | leave =>
    exact sound.inside ⟨rfl, rfl, rfl, rfl, rfl, .inl rfl, rfl, rfl⟩ rfl ⟨rfl, rfl⟩ trivial
  | consume =>
    have whole := sound.consume (Nat.le_refl s.ring.size)
      (show s.Within (some .consumed) from within)
    rw [take_of_length_le (show s.ring.storage.length ≤ s.ring.size from Nat.le_refl _)]
      at whole
    exact whole
  | consumed place =>
    refine sound.inside ⟨rfl, rfl, rfl, rfl, rfl, .inl rfl, rfl, rfl⟩ rfl ⟨rfl, rfl⟩ ?_
    rcases place with ⟨rfl, rfl⟩ | ⟨rfl, rfl⟩
    · trivial
    · exact within
  | takeAll => exact sound.takeAll
  | taken =>
    refine sound.inside ⟨rfl, rfl, rfl, rfl, rfl, .inr ?_, rfl, rfl⟩ rfl ⟨rfl, rfl⟩ within
    rw [show s.pending = [] from within, length_nil]

/-- What a consumer inside relies on is about the pending bytes. -/
theorem Within.same {inside : Option Inside} (within : s.Within inside)
    (pending : next.pending = s.pending) : next.Within inside := by
  cases inside with
  | none => trivial
  | some stage => cases stage <;> first | trivial | exact pending.trans within

section

variable (sound : s.Sound maxBytes)

include sound

/-- The owner goes on without moving a byte. -/
theorem Sound.owner (same : s.SamePlaces next)
    (inside : next.inside = s.inside) (phase : next.Phase next.owner) : next.Sound maxBytes := by
  refine ⟨sound.stored.same same, phase, ?_⟩
  rw [inside]
  exact sound.within.same same.pending

/-- The owner goes on with only its place changed. -/
theorem Sound.go {owner : OwnerPc} (phase : (s.go owner).Phase owner) :
    (s.go owner).Sound maxBytes :=
  sound.owner ⟨rfl, rfl, rfl, rfl, rfl, .inl rfl, rfl, rfl⟩ rfl phase

/-- `TryAppend` of the held bytes while nobody holds the lock. -/
theorem Sound.tryAppend (working : s.Working)
    (free : s.inside = none) (via : Via) (round : Option Nat) (allocFails : Bool) :
    (s.tryAppend via round allocFails).Sound maxBytes := by
  have stored := sound.stored
  unfold ReadSide.tryAppend
  cases appended : s.ring.append s.hold allocFails with
  | none => exact sound.go ⟨working.1, working.2, working.3⟩
  | some answer =>
    obtain ⟨error, ring⟩ := answer
    rcases append_spec stored.fit appended with
      ⟨rfl, fit, limit, storage⟩ | ⟨rfl, _, _⟩
    · have size : ring.size = s.ring.size + s.hold.length := by
        rw [EventRingBuffer.size, storage, length_append, EventRingBuffer.size]
      have bound := stored.bound
      have order := stored.order
      rw [ReadSide.stored] at bound
      dsimp only
      rw [if_neg (by decide)]
      refine ⟨⟨?_, limit.trans stored.limit, fit, ?_, stored.detachedSized, stored.pendingSized,
        fun some' => absurd rfl some'⟩, ⟨⟨working.1, working.2, working.3⟩, rfl⟩, ?_⟩
      · by_cases nothing : s.hold = []
        · rw [nothing, append_nil] at storage order
          simp only [submitted, storage, order, append_nil]
        · simp only [submitted, storage, order, stored.behind nothing, working.detached,
            append_assoc, append_nil]
      · simp only [submitted, ReadSide.stored, size, length_nil]
        omega
      · simp only [submitted, free]
        trivial
    · dsimp only
      exact sound.go ⟨working.1, working.2, working.3⟩

/-- `AppendDeferred` of the held bytes while nobody holds the lock. -/
theorem Sound.appendDeferred (working : s.Working)
    (free : s.inside = none) (via : Via) (round : Option Nat) (allocFails : Bool) :
    (s.appendDeferred via round allocFails).Sound maxBytes := by
  have stored := sound.stored
  have order := stored.order
  have bound := stored.bound
  unfold ReadSide.appendDeferred
  by_cases failing : allocFails = true
  · rw [if_pos failing]
    exact sound.go ⟨working.1, working.2, working.3⟩
  rw [if_neg failing]
  refine ⟨⟨?_, stored.limit, stored.fit, ?_, stored.detachedSized, fun _ => rfl,
    fun some' => absurd rfl some'⟩, ⟨⟨working.1, working.2, working.3⟩, rfl⟩, ?_⟩
  · simp only [submitted, order, working.detached, append_assoc, append_nil]
  · simp only [submitted, ReadSide.stored, length_append, length_nil] at bound ⊢
    omega
  · simp only [submitted, free]
    trivial

/-- `TryReserveForAppend` grants only what is free. -/
theorem Sound.tryReserve (working : s.Working) (empty : s.hold = [])
    (flushed : s.pending = []) (via : Via) (round want : Nat) (allocFails : Bool) :
    (s.tryReserve via round want allocFails).Sound maxBytes := by
  have stored := sound.stored
  have order := stored.order
  have bound := stored.bound
  have sized := stored.detachedSized
  have kept : ∀ owner : OwnerPc, (s.go owner).Phase owner → (s.go owner).Sound maxBytes :=
    fun owner phase => sound.go phase
  have rest : (s.go (.pausing via)).Phase (.pausing via) :=
    ⟨⟨working.1, working.2, working.3⟩, empty⟩
  have idle : (s.go .idle).Phase .idle := by
    refine ⟨working.backend.trans working.conn.symm, ?_, fun _ => empty⟩
    intro some'
    exact absurd working.detached some'
  unfold ReadSide.tryReserve
  by_cases none' : min want (s.ring.maxBytes -
      (s.ring.size + s.pending.length + s.detachedSize)) = 0
  · rw [if_pos none']
    exact kept _ rest
  rw [if_neg none']
  generalize granted : min want (s.ring.maxBytes -
    (s.ring.size + s.pending.length + s.detachedSize)) = count at none' ⊢
  cases reserved : s.ring.reserve (s.ring.size + s.pending.length + s.detachedSize + count)
      allocFails with
  | none => exact kept _ idle
  | some answer =>
    obtain ⟨error, ring⟩ := answer
    obtain ⟨fit, limit, storage, success⟩ := reserve_spec stored.fit reserved
    dsimp only
    by_cases failed : error.failed = true
    · rw [if_pos failed]
      exact kept _ rest
    · rw [if_neg failed]
      have size : ring.size = s.ring.size := by
        rw [EventRingBuffer.size, storage, EventRingBuffer.size]
      refine ⟨⟨?_, limit.trans stored.limit, fit, ?_, sized, stored.pendingSized,
        stored.behind⟩, ⟨⟨working.1, working.2, working.3⟩, empty, flushed, ?_⟩, ?_⟩
      · simp only [storage, order]
      · rw [ReadSide.stored] at bound
        simp only [ReadSide.stored, size]
        exact bound
      · simp only [ReadSide.stored, size, limit, empty, length_nil]
        omega
      · exact sound.within.same rfl

end

/-- The flags and the detached bytes decide whether the pump works. -/
theorem working_iff :
    s.Working ↔ s.backendClosed = false ∧ s.connClosed = false ∧ s.detached = [] :=
  ⟨fun working => ⟨working.1, working.2, working.3⟩, fun fields => ⟨fields.1, fields.2.1, fields.2.2⟩⟩

/-- What the owner relies on is about the places and two flags. -/
theorem Phase.same {owner : OwnerPc} (phase : s.Phase owner) (same : s.SamePlaces next)
    (flags : next.backendClosed = s.backendClosed ∧ next.connClosed = s.connClosed) :
    next.Phase owner := by
  cases owner <;> simp only [Phase, working_iff, ReadSide.stored, same.ring, same.pending,
    same.detached, same.hold, flags.1, flags.2] at phase ⊢ <;> exact phase

/-- Nothing is detached in front of the close. -/
theorem working_of_opened (phase : s.Phase .idle) (opened : s.connClosed = false) : s.Working := by
  have backend : s.backendClosed = false := phase.1.trans opened
  refine ⟨backend, opened, ?_⟩
  by_contra some'
  exact absurd (backend.symm.trans (phase.2.1 some')) (by decide)

/-- A working pump may rest. -/
theorem Working.idle (working : s.Working) : s.Phase .idle := by
  refine ⟨working.backend.trans working.conn.symm, fun some' => absurd working.detached some', ?_⟩
  intro closed
  exact absurd (working.backend.symm.trans closed) (by decide)

/-- Where the owner goes it may rely on what holds there. -/
theorem Hop.phase {here there : OwnerPc} {readPaused : Bool} (hop : s.Hop here there readPaused)
    (stored : s.Stored maxBytes) (phase : s.Phase here) : s.Phase there := by
  cases hop with
  | shut | ends | stop | held | busy | keep | leave | marked | deferred | want => exact phase
  | pump opened => exact working_of_opened phase opened
  | still known | resume known =>
    rcases known with rfl | rfl
    · exact phase
    · exact phase
  | clear _ empty => exact ⟨phase, empty⟩
  | behind | spent | locked | again | pause => exact phase.1
  | loop none' =>
    refine ⟨phase.1, phase.2, ?_⟩
    by_contra some'
    have sized := stored.pendingSized some'
    have size := length_pos_iff.mpr some'
    omega
  | full => exact ⟨phase.1, phase.2.1⟩
  | interrupted => exact ⟨phase.1, phase.2.1, phase.2.2.1⟩
  | arm known =>
    rcases known with rfl | rfl
    · exact phase
    · exact phase.idle
  | retry => exact phase.idle
  | closed opened backend => exact ⟨backend, opened, phase.2.2 backend⟩
  | close opened backend empty => exact ⟨backend, opened, empty⟩

/-- A step of the owner. -/
theorem Sound.ownerStep (sound : s.Sound maxBytes) {busy allocFails : Bool}
    {answer : RecvAnswer} (moved : s.ownerStep busy allocFails answer s.owner = some next) :
    next.Sound maxBytes := by
  have stored := sound.stored
  have phase := sound.phase
  have bound := stored.bound
  have turn := ownerStep_turn moved
  generalize owner : s.owner = here at turn phase
  cases turn with
  | go readWaiting rawRetry hop =>
    exact sound.owner ⟨rfl, rfl, rfl, rfl, rfl, .inl rfl, rfl, rfl⟩ rfl
      ((hop.phase stored phase).same ⟨rfl, rfl, rfl, rfl, rfl, .inl rfl, rfl, rfl⟩ ⟨rfl, rfl⟩)
  | append free => exact sound.tryAppend phase free _ _ allocFails
  | defer free => exact sound.appendDeferred phase free _ _ allocFails
  | reserve => exact sound.tryReserve phase.1 phase.2.1 phase.2.2 _ _ _ allocFails
  | data small =>
    obtain ⟨working, empty, flushed, room⟩ := phase
    refine ⟨⟨?_, stored.limit, stored.fit, ?_, stored.detachedSized, stored.pendingSized,
      fun _ => flushed⟩, ⟨working.1, working.2, working.3⟩, sound.within.same rfl⟩
    · simp only [stored.order, empty, append_nil]
    · have limit := stored.limit
      simp only [ReadSide.stored, empty, length_nil] at room ⊢
      omega
  | eof | error =>
    obtain ⟨working, _⟩ := phase
    exact sound.owner ⟨rfl, rfl, rfl, rfl, rfl, .inl rfl, rfl, rfl⟩ rfl
      ⟨working.1, working.2, working.3⟩
  | stage opened backend =>
    refine ⟨⟨?_, stored.limit, stored.fit, ?_, rfl, stored.pendingSized,
      fun some' => absurd rfl some'⟩, ⟨backend, opened, rfl⟩, sound.within.same rfl⟩
    · simp only [stored.order, append_assoc, append_nil]
    · simp only [ReadSide.stored, length_append, length_nil] at bound ⊢
      omega
  | closing =>
    exact sound.owner ⟨rfl, rfl, rfl, rfl, rfl, .inl rfl, rfl, rfl⟩ rfl
      ⟨rfl, phase.2.1, phase.2.2⟩
  | publish => exact sound.owner ⟨rfl, rfl, rfl, rfl, rfl, .inl rfl, rfl, rfl⟩ rfl phase
  | finish =>
    exact sound.owner ⟨rfl, rfl, rfl, rfl, rfl, .inl rfl, rfl, rfl⟩ rfl
      ⟨phase.1, fun _ => phase.1, fun _ => phase.2.2⟩

/-- A step that touches no place and no thread. -/
theorem Sound.aside (sound : s.Sound maxBytes) (same : s.SamePlaces next)
    (inside : next.inside = s.inside) (owner : next.owner = s.owner)
    (flags : next.backendClosed = s.backendClosed ∧ next.connClosed = s.connClosed) :
    next.Sound maxBytes := by
  have consumed := Consumed.of_same owner same.hold flags same.ring same.pending same.detached
  exact sound.owner same inside (consumed.phase sound.phase)

/-- Every step keeps the places sound. -/
theorem Sound.step (sound : s.Sound maxBytes) {label : ReadLabel}
    (stepped : s.step label = some next) : next.Sound maxBytes := by
  have marked : s.markDirty.Sound maxBytes := by
    unfold markDirty
    split_ifs
    · exact sound
    · exact sound.aside ⟨rfl, rfl, rfl, rfl, rfl, .inl rfl, rfl, rfl⟩ rfl rfl ⟨rfl, rfl⟩
  have resting : s.owner = .idle → s.Phase .idle := by
    intro idle
    rw [← idle]
    exact sound.phase
  cases label with
  | lock | release =>
    obtain ⟨_, rfl⟩ := guarded_some stepped
    exact sound.inside ⟨rfl, rfl, rfl, rfl, rfl, .inl rfl, rfl, rfl⟩ rfl ⟨rfl, rfl⟩ trivial
  | busy | requestClose | sealService =>
    cases stepped
    exact sound.aside ⟨rfl, rfl, rfl, rfl, rfl, .inl rfl, rfl, rfl⟩ rfl rfl ⟨rfl, rfl⟩
  | advance allocFails =>
    obtain ⟨inside, here, moved⟩ := Option.bind_eq_some_iff.mp stepped
    exact sound.advance here moved
  | consume count =>
    obtain ⟨met, rfl⟩ := guarded_some stepped
    exact sound.guardConsume met count
  | consumeInto allocFails =>
    obtain ⟨met, rfl⟩ := guarded_some stepped
    rw [guardConsumeInto]
    split_ifs
    · exact sound
    · exact sound.guardConsume met _
  | wake =>
    obtain ⟨_, rfl⟩ := guarded_none stepped
    exact marked.aside ⟨rfl, rfl, rfl, rfl, rfl, .inl rfl, rfl, rfl⟩ rfl rfl ⟨rfl, rfl⟩
  | markDirty =>
    cases stepped
    exact marked
  | dequeue =>
    obtain ⟨met, rfl⟩ := guarded_some stepped
    exact sound.owner ⟨rfl, rfl, rfl, rfl, rfl, .inl rfl, rfl, rfl⟩ rfl (resting met.1)
  | pumpAll | shutdown =>
    obtain ⟨met, rfl⟩ := guarded_some stepped
    exact sound.go (resting met)
  | readReady failure aborted =>
    obtain ⟨⟨idle, _⟩, rfl⟩ := guarded_some stepped
    unfold ReadSide.readReady
    dsimp only
    split_ifs with quiet
    · exact sound.aside ⟨rfl, rfl, rfl, rfl, rfl, .inl rfl, rfl, rfl⟩ rfl rfl ⟨rfl, rfl⟩
    · cases failure with
      | some error =>
        exact sound.aside ⟨rfl, rfl, rfl, rfl, rfl, .inl rfl, rfl, rfl⟩ rfl rfl ⟨rfl, rfl⟩
      | none =>
        simp only [Bool.or_eq_true, not_or, Bool.not_eq_true] at quiet
        obtain ⟨backend, opened, none'⟩ := working_of_opened (resting idle) quiet.1
        exact sound.owner ⟨rfl, rfl, rfl, rfl, rfl, .inl rfl, rfl, rfl⟩ rfl ⟨backend, opened, none'⟩
  | owner busy allocFails answer => exact sound.ownerStep stepped

/-- A new connection is sound. -/
theorem make_sound (maxBytes : Nat) : (make maxBytes).Sound maxBytes := by
  refine ⟨⟨rfl, rfl, ⟨Nat.le_refl 0, Nat.zero_le _⟩, Nat.zero_le _, rfl, ?_, ?_⟩, ⟨rfl, ?_, ?_⟩,
    trivial⟩
  · intro some'
    exact absurd rfl some'
  · intro some'
    exact absurd rfl some'
  · intro some'
    exact absurd rfl some'
  · intro _
    rfl

/-- Every reachable state is sound. -/
theorem reachable_sound (reachable : (readMachine maxBytes).Reachable s) : s.Sound maxBytes := by
  apply reachable.invariant (Sound maxBytes)
  · rintro state rfl
    exact make_sound maxBytes
  · intro state label next sound stepped
    exact sound.step stepped

/-- No received byte is lost, duplicated or reordered, and the stored bytes keep the limit. -/
theorem inbound_order (reachable : (readMachine maxBytes).Reachable s) :
    s.received = s.delivered ++ s.ring.storage ++ s.pending ++ s.detached ++ s.hold ∧
      s.ring.size + s.pending.length + s.detached.length + s.hold.length ≤ maxBytes := by
  have stored := (reachable_sound reachable).stored
  exact ⟨stored.order, stored.bound⟩

/-- Bytes in the ring and behind it, taken in part while more arrive. -/
theorem inbound_order_deferred : ∃ s, (readMachine 8).Reachable s ∧
    s.received = s.delivered ++ s.ring.storage ++ s.pending ++ s.detached ++ s.hold ∧
    s.delivered = [1] ∧ s.ring.storage = [2] ∧ s.pending = [3] := by
  obtain ⟨s, reachable, tested⟩ := Machine.exists_reachable (m := readMachine 8)
    [.pumpAll, .owner false false .again, .owner false false .again, .owner false false .again,
      .owner false false .again, .owner false false .again, .owner false false .again,
      .owner false false (.data [1, 2]), .owner false false .again, .lock .access,
      .advance false, .advance false, .advance false, .advance false, .advance false, .consume 1,
      .advance false, .release, .owner false false .again, .owner false false .again,
      .advance false, .owner false false .again, .owner false false (.data [3]),
      .owner true false .again, .owner false false .again]
    (fun s => decide (s.delivered = [1] ∧ s.ring.storage = [2] ∧ s.pending = [3])) rfl
    (by decide +kernel)
  exact ⟨s, reachable, (inbound_order reachable).1, of_decide_eq_true tested⟩

end ReadSide

end BbtInfra.Net
