import BbtInfra.Net.InboundOrder

/-!
# The pause of the read pump

The owner stops reading while the consumers have bytes to take, and goes on when a pump finds
less than the low-water mark stored. Every consumer that leaves the data lock wakes the owner,
so a paused owner without stored bytes has a pump ahead, if the mark is above zero.
-/
namespace BbtInfra.Net

open Lib EventRingBuffer

/-- A step in which no allocation fails. -/
def ReadLabel.allocates : ReadLabel → Bool
  | .advance allocFails | .consumeInto allocFails | .owner _ allocFails _ => !allocFails
  | _ => true

/-- The owner has decided to pause. -/
def OwnerPc.isPausing : OwnerPc → Bool
  | .pausing _ => true
  | _ => false

/-- A pump that looks at the low-water mark by its next steps. -/
def OwnerPc.checks : OwnerPc → Bool
  | .pump | .lowWater => true
  | _ => false

namespace ReadSide

/-- The connection is open and its stream has not ended. -/
def opened (s : ReadSide) : Bool :=
  !s.connClosed && !s.backendClosed && !s.closeRequested && !s.sealed && !s.readStopped

/-- No byte is stored. -/
def empty (s : ReadSide) : Bool :=
  s.ring.storage.isEmpty && s.pending.isEmpty && s.detached.isEmpty && s.hold.isEmpty

/-- The pump of an open connection is paused with nothing stored, no pump is queued or running,
and no call of a consumer is on its way to wake the owner. -/
def stalled (s : ReadSide) : Bool :=
  s.opened && s.readPaused && s.empty && decide (s.owner = .idle) && !s.dirtyQueued &&
    s.inside.isNone && decide (s.waking = 0)

/-- Bytes are there to take, or the owner will be woken. -/
def Awake (s : ReadSide) : Prop :=
  s.dirtyQueued = true ∨ 0 < s.waking ∨ s.inside.isSome = true ∨ 0 < s.ring.size ∨ s.pending ≠ []

/-- The atomics agree with what is stored, up to the stores that the consumer inside owes. -/
def Sized (s : ReadSide) : Option Inside → Prop
  | some (.pendingFlushed _) | some (.detachedFlushed _) => True
  | some (.pendingStored _) | some .consumed | some .guardConsumed =>
      s.pendingSize = s.pending.length
  | some .taken => s.ring.size = 0
  | some .takenPending => s.ring.size = 0 ∧ s.pendingSize = s.pending.length
  | _ => s.size = s.ring.size + s.pending.length ∧ s.pendingSize = s.pending.length

/-- A paused pump has a reason, and the owner asks for some bytes. -/
structure Resumes (s : ReadSide) : Prop where
  sized : s.Sized s.inside
  paused : s.opened = true → s.readPaused = true ∨ s.owner.isPausing = true →
    s.owner.checks = false → s.Awake
  wanted : ∀ via round want, s.owner = .reserve via round want → 0 < want

variable {maxBytes : Nat} {s next : ReadSide}

/-- A stored size that is not zero means bytes, or a consumer inside. -/
theorem Resumes.awake_of_size (resumes : s.Resumes) (some' : s.size ≠ 0 ∨ s.pendingSize ≠ 0) :
    s.Awake := by
  cases inside : s.inside with
  | some stage => exact .inr (.inr (.inl (by rw [inside]; rfl)))
  | none =>
    have sized := resumes.sized
    rw [inside] at sized
    obtain ⟨size, pendingSize⟩ := sized
    by_cases filled : 0 < s.ring.size
    · exact .inr (.inr (.inr (.inl filled)))
    · right; right; right; right
      intro none'
      rw [none', List.length_nil] at size pendingSize
      omega

/-- A step that leaves the sizes and the stored bytes alone. -/
theorem Sized.same {inside : Option Inside} (sized : s.Sized inside)
    (ring : next.ring.storage = s.ring.storage) (pending : next.pending = s.pending)
    (sizes : next.size = s.size ∧ next.pendingSize = s.pendingSize) : next.Sized inside := by
  have size : next.ring.size = s.ring.size := congrArg List.length ring
  cases inside with
  | none =>
    simp only [Sized, size, pending, sizes.1, sizes.2] at sized ⊢
    exact sized
  | some stage =>
    cases stage <;> simp only [Sized, size, pending, sizes.1, sizes.2] at sized ⊢ <;> exact sized

/-- Where the consumer inside goes the sizes agree as before. -/
theorem Walk.sized {here there : Inside} (walk : s.Walk false here there)
    (sized : s.Sized (some here)) : s.Sized (some there) := by
  cases walk with
  | unread failing => cases failing
  | untaken failing => cases failing
  | nothing | takes | empty | guards | consumes | error | clean | more | block => exact sized

/-- The consumer inside keeps the sizes and leaves only with a wake ahead. -/
theorem Resumes.advance (resumes : s.Resumes) (sound : s.Sound maxBytes) {inside : Inside}
    (here : s.inside = some inside) (moved : s.advance false inside = some next) :
    next.Sized next.inside ∧ (next.inside.isSome = true ∨ 0 < next.waking) ∧
      next.opened = s.opened ∧ next.owner = s.owner ∧
      next.readPaused = s.readPaused := by
  have sized := resumes.sized
  have within := sound.within
  have bound := sound.stored.bound
  have limit := sound.stored.limit
  rw [ReadSide.stored] at bound
  rw [here] at sized within
  cases advance_cases moved with
  | walk walk => exact ⟨walk.sized sized, .inl rfl, rfl, rfl, rfl⟩
  | flushPending =>
    unfold flushPending
    by_cases nothing : s.pending.isEmpty = true
    · rw [if_pos nothing]
      exact ⟨trivial, .inl rfl, rfl, rfl, rfl⟩
    · rw [if_neg nothing]
      obtain ⟨ring, appended⟩ := append_succeeds
        (show s.ring.size + s.pending.length ≤ s.ring.maxBytes by omega)
      rw [appended]
      exact ⟨trivial, .inl rfl, rfl, rfl, rfl⟩
  | flushDetached =>
    unfold flushDetached
    split_ifs
    · exact ⟨trivial, .inl rfl, rfl, rfl, rfl⟩
    · split
      · exact ⟨trivial, .inl rfl, rfl, rfl, rfl⟩
      · split_ifs <;> exact ⟨trivial, .inl rfl, rfl, rfl, rfl⟩
  | pendingSize => exact ⟨rfl, .inl rfl, rfl, rfl, rfl⟩
  | size => exact ⟨⟨rfl, sized⟩, .inl rfl, rfl, rfl, rfl⟩
  | ends ended =>
    rcases ended with ⟨rfl, _⟩ | ⟨rfl, _⟩
    · exact ⟨sized, .inl rfl, rfl, rfl, rfl⟩
    · exact ⟨sized, .inl rfl, rfl, rfl, rfl⟩
  | consume => exact ⟨sized.2, .inl rfl, rfl, rfl, rfl⟩
  | consumed place =>
    have agree : s.pendingSize = s.pending.length := by
      rcases place with ⟨rfl, _⟩ | ⟨rfl, _⟩
      · exact sized
      · exact sized
    refine ⟨?_, .inl rfl, rfl, rfl, rfl⟩
    rcases place with ⟨_, rfl⟩ | ⟨_, rfl⟩
    · exact ⟨by dsimp only; rw [agree], agree⟩
    · exact ⟨by dsimp only; rw [agree], agree⟩
  | takeAll =>
    refine ⟨?_, .inl rfl, rfl, rfl, rfl⟩
    simp only [Sized, takeAll]
    split_ifs with nothing
    · exact nothing
    · rfl
  | taken =>
    refine ⟨⟨sized, ?_⟩, .inl rfl, rfl, rfl, rfl⟩
    rw [show s.pending = [] from within, List.length_nil]
  | takenPending =>
    refine ⟨⟨?_, sized.2⟩, .inl rfl, rfl, rfl, rfl⟩
    have none' : s.ring.size = 0 := sized.1
    simp only [none', show s.pending = [] from within, List.length_nil]
  | leave => exact ⟨sized, .inr (Nat.succ_pos _), rfl, rfl, rfl⟩

/-- What the owner leaves alone while it goes on without a submission. -/
structure SameStock (s next : ReadSide) : Prop where
  ring : next.ring.storage = s.ring.storage
  pending : next.pending = s.pending
  sizes : next.size = s.size ∧ next.pendingSize = s.pendingSize
  inside : next.inside = s.inside
  wakes : next.dirtyQueued = s.dirtyQueued ∧ next.waking = s.waking

/-- Then bytes that were there to take are still there. -/
theorem Awake.same (awake : s.Awake) (same : s.SameStock next) : next.Awake := by
  have size : next.ring.size = s.ring.size := congrArg List.length same.ring
  unfold Awake at awake ⊢
  rw [same.wakes.1, same.wakes.2, same.inside, same.pending, size]
  exact awake

section

variable (resumes : s.Resumes)

include resumes

/-- The owner goes on without a submission. -/
theorem Resumes.owner (same : s.SameStock next)
    (paused : next.opened = true → next.readPaused = true ∨ next.owner.isPausing = true →
      next.owner.checks = false → s.Awake)
    (wanted : ∀ via round want, next.owner = .reserve via round want → 0 < want) :
    next.Resumes := by
  refine ⟨?_, ?_, wanted⟩
  · rw [same.inside]
    exact resumes.sized.same same.ring same.pending same.sizes
  · intro opened pausing unchecked
    exact (paused opened pausing unchecked).same same

/-- The owner goes on with the pause set or reset. -/
theorem Resumes.place (readPaused : Bool) (owner : OwnerPc)
    (paused : s.opened = true → readPaused = true ∨ owner.isPausing = true →
      owner.checks = false → s.Awake)
    (wanted : ∀ via round want, owner = .reserve via round want → 0 < want) :
    Resumes { s with readPaused, owner } := by
  have same : s.SameStock { s with readPaused, owner } :=
    ⟨rfl, rfl, ⟨rfl, rfl⟩, rfl, rfl, rfl⟩
  exact resumes.owner same paused wanted

/-- The owner goes on with only its place changed. -/
theorem Resumes.go {owner : OwnerPc}
    (paused : s.opened = true → s.readPaused = true ∨ owner.isPausing = true →
      owner.checks = false → s.Awake)
    (wanted : ∀ via round want, owner = .reserve via round want → 0 < want) :
    (s.go owner).Resumes :=
  resumes.place s.readPaused owner paused wanted

/-- The owner goes on behind the low-water mark and does not pause. -/
theorem Resumes.steady (before : s.owner.checks = false)
    (same : s.SameStock next) (opened : next.opened = true → next.readPaused = s.readPaused)
    (later : next.opened = true → s.opened = true) (after : next.owner.isPausing = false)
    (wanted : ∀ via round want, next.owner = .reserve via round want → 0 < want) :
    next.Resumes := by
  apply resumes.owner same _ wanted
  rintro open' (paused | pausing) _
  · exact resumes.paused (later open') (.inl ((opened open').symm.trans paused)) before
  · rw [after] at pausing
    cases pausing

/-- The same with only the place of the owner changed. -/
theorem Resumes.pass (before : s.owner.checks = false) {owner : OwnerPc}
    (after : owner.isPausing = false)
    (wanted : ∀ via round want, owner = .reserve via round want → 0 < want) :
    (s.go owner).Resumes :=
  resumes.steady before ⟨rfl, rfl, ⟨rfl, rfl⟩, rfl, rfl, rfl⟩ (fun _ => rfl)
    (fun open' => open') after wanted

/-- `TryAppend` of the held bytes while nobody holds the lock. -/
theorem Resumes.tryAppend (sound : s.Sound maxBytes)
    (free : s.inside = none) (before : s.owner.checks = false) (via : Via) (round : Option Nat) :
    (s.tryAppend via round false).Resumes := by
  have stored := sound.stored
  have bound := stored.bound
  have limit := stored.limit
  have sized := resumes.sized
  rw [ReadSide.stored] at bound
  rw [free] at sized
  obtain ⟨ring, appended⟩ := append_succeeds
    (show s.ring.size + s.hold.length ≤ s.ring.maxBytes by omega)
  rcases append_spec stored.fit appended with ⟨_, _, _, storage⟩ | ⟨failed, _⟩
  · have size : ring.size = s.ring.size + s.hold.length := by
      rw [EventRingBuffer.size, storage, List.length_append, EventRingBuffer.size]
    unfold ReadSide.tryAppend
    rw [appended]
    refine ⟨?_, ?_, ?_⟩
    · dsimp only [StdErrorCode.failed, submitted]
      rw [free]
      exact ⟨rfl, sized.2⟩
    · rintro opened (paused | pausing) _
      · have awake := resumes.paused opened (.inl paused) before
        rcases awake with dirty | waking | inside | filled | pending
        · exact .inl dirty
        · exact .inr (.inl waking)
        · exact .inr (.inr (.inl inside))
        · right; right; right; left
          change 0 < ring.size
          omega
        · exact .inr (.inr (.inr (.inr pending)))
      · cases pausing
    · intro via' round' want asked
      cases asked
  · cases failed

/-- `AppendDeferred` of the held bytes while nobody holds the lock. -/
theorem Resumes.appendDeferred (free : s.inside = none)
    (before : s.owner.checks = false) (via : Via) (round : Option Nat) :
    (s.appendDeferred via round false).Resumes := by
  refine ⟨?_, ?_, ?_⟩
  · change Sized _ s.inside
    rw [free]
    exact ⟨rfl, rfl⟩
  · rintro opened (paused | pausing) _
    · have awake := resumes.paused opened (.inl paused) before
      rcases awake with dirty | waking | inside | filled | pending
      · exact .inl dirty
      · exact .inr (.inl waking)
      · exact .inr (.inr (.inl inside))
      · exact .inr (.inr (.inr (.inl filled)))
      · right; right; right; right
        intro none'
        exact pending (List.append_eq_nil_iff.mp none').1
    · cases pausing
  · intro via' round' want asked
    cases asked

/-- `TryReserveForAppend` refuses only when the bytes in the ring are at the limit. -/
theorem Resumes.tryReserve (sound : s.Sound maxBytes)
    {via : Via} {round want : Nat} (there : s.owner = .reserve via round want)
    (limited : 0 < maxBytes) : (s.tryReserve via round want false).Resumes := by
  have stored := sound.stored
  have phase := sound.phase
  have limit := stored.limit
  have asked := resumes.wanted _ _ _ there
  have before : s.owner.checks = false := by rw [there]; rfl
  rw [there] at phase
  obtain ⟨working, _, flushed⟩ := phase
  have detached : s.detachedSize = 0 := by
    rw [stored.detachedSized, working.detached, List.length_nil]
  unfold ReadSide.tryReserve
  by_cases none' : min want (s.ring.maxBytes -
      (s.ring.size + s.pending.length + s.detachedSize)) = 0
  · rw [if_pos none']
    apply resumes.go
    · intro _ _ _
      rw [flushed, List.length_nil, detached] at none'
      right; right; right; left
      omega
    · intro via' round' want' asked'
      cases asked'
  · rw [if_neg none']
    generalize granted : min want (s.ring.maxBytes -
      (s.ring.size + s.pending.length + s.detachedSize)) = count at none' ⊢
    cases reserved : s.ring.reserve (s.ring.size + s.pending.length + s.detachedSize + count)
        false with
    | none =>
      exact resumes.pass before rfl (by intro via' round' want' asked'; cases asked')
    | some answer =>
      obtain ⟨error, ring⟩ := answer
      obtain ⟨_, _, storage, success | large⟩ :=
        reserve_spec stored.fit reserved
      · dsimp only
        rw [success, if_neg (by decide)]
        have same : s.SameStock { s with ring, owner := .receive via round count } :=
          ⟨storage, rfl, ⟨rfl, rfl⟩, rfl, rfl, rfl⟩
        apply resumes.owner same
        · rintro opened (paused | pausing) _
          · exact resumes.paused opened (.inl paused) before
          · cases pausing
        · intro via' round' want' asked'
          cases asked'
      · omega

end

/-- Nothing is detached while the pump works, so a total above zero is a size above zero. -/
theorem Sound.size_of_total (sound : s.Sound maxBytes) (working : s.Working)
    (filled : 0 < s.totalSize) : s.size ≠ 0 := by
  have detached := sound.stored.detachedSized
  rw [working.detached, List.length_nil] at detached
  rw [totalSize, detached] at filled
  omega

section

variable {here there : OwnerPc} {readPaused : Bool} (hop : s.Hop here there readPaused)

include hop

/-- The owner asks for some bytes. -/
theorem Hop.wanted : ∀ via round want, there = .reserve via round want → 0 < want := by
  intro via round want asked
  cases hop with
  | want some' =>
    cases asked
    exact some'
  | still known | resume known | arm known =>
    rcases known with rfl | rfl
    · cases asked
    · cases asked
  | _ => cases asked

/-- The owner goes where a pause has a reason. -/
theorem Hop.awake (resumes : s.Resumes) (sound : s.Sound maxBytes) (limited : 2 ≤ maxBytes)
    (owner : s.owner = here) (opened : s.opened = true)
    (pausing : readPaused = true ∨ there.isPausing = true) (unchecked : there.checks = false) :
    s.Awake := by
  have limit := sound.stored.limit
  have phase := sound.phase
  rw [owner] at phase
  simp only [ReadSide.opened, Bool.and_eq_true, Bool.not_eq_true'] at opened
  have before : here.checks = false → s.readPaused = true ∨ here.isPausing = true → s.Awake := by
    intro checked paused
    rw [← owner] at checked paused
    exact resumes.paused (by simp [ReadSide.opened, opened]) paused checked
  cases hop with
  | shut closed =>
    rw [opened.1.1.1.1] at closed
    cases closed
  | ends ending =>
    rw [opened.1.1.2, opened.1.2] at ending
    cases ending
  | pump => cases unchecked
  | still known above =>
    have paused : s.readPaused = true := by
      rcases known with rfl | rfl <;> simpa [OwnerPc.isPausing] using pausing
    apply resumes.awake_of_size
    left
    have low := above paused
    rw [readLowWater] at low
    exact sound.size_of_total phase (by omega)
  | resume known =>
    rcases known with rfl | rfl <;> simp [OwnerPc.isPausing] at pausing
  | deferred waiting => exact resumes.awake_of_size (.inr waiting)
  | full full => exact resumes.awake_of_size (.inl (sound.size_of_total phase.1 (by omega)))
  | pause => exact before rfl (.inr rfl)
  | arm known =>
    rcases known with rfl | rfl <;> exact before rfl pausing
  | _ => exact before rfl pausing

end

section

variable (resumes : s.Resumes)

include resumes

/-- A step of the owner, when the low-water mark is above zero. -/
theorem Resumes.ownerStep (sound : s.Sound maxBytes)
    (limited : 2 ≤ maxBytes) {busy : Bool} {answer : RecvAnswer}
    (moved : s.ownerStep busy false answer s.owner = some next) : next.Resumes := by
  have turn := ownerStep_turn moved
  generalize owner : s.owner = here at turn
  have before : here.checks = false → s.owner.checks = false := fun checked => by
    rw [owner, checked]
  cases turn with
  | go readWaiting rawRetry hop =>
    exact resumes.owner ⟨rfl, rfl, ⟨rfl, rfl⟩, rfl, rfl, rfl⟩
      (hop.awake resumes sound limited owner) hop.wanted
  | append free => exact resumes.tryAppend sound free (before rfl) _ _
  | defer free => exact resumes.appendDeferred free (before rfl) _ _
  | reserve => exact resumes.tryReserve sound owner (by omega)
  | data | stage | publish =>
    exact resumes.steady (before rfl) ⟨rfl, rfl, ⟨rfl, rfl⟩, rfl, rfl, rfl⟩ (fun _ => rfl)
      (fun open' => open') rfl (by intro via' round' want' asked; cases asked)
  | eof | error | closing | finish =>
    exact resumes.steady (before rfl) ⟨rfl, rfl, ⟨rfl, rfl⟩, rfl, rfl, rfl⟩ (fun _ => rfl)
      (fun open' => absurd open' (by simp [opened])) rfl
      (by intro via' round' want' asked; cases asked)

/-- Somebody else wakes the owner, closes, or reads: nothing that was awake falls asleep. -/
theorem Resumes.aside (sized : next.Sized next.inside)
    (awake : next.opened = true → s.Awake → next.Awake)
    (opened : next.opened = true → s.opened = true)
    (owner : next.owner = s.owner) (paused : next.readPaused = s.readPaused) :
    next.Resumes := by
  refine ⟨sized, ?_, ?_⟩
  · rw [owner, paused]
    intro open' pausing unchecked
    exact awake open' (resumes.paused (opened open') pausing unchecked)
  · rw [owner]
    exact resumes.wanted

/-- Somebody else ends the connection. -/
theorem Resumes.shut (sized : next.Sized next.inside)
    (shut : next.opened = false) (owner : next.owner = s.owner) : next.Resumes := by
  refine ⟨sized, ?_, ?_⟩
  · intro open'
    rw [shut] at open'
    cases open'
  · rw [owner]
    exact resumes.wanted

/-- `ReadAccess::Consume` keeps the guard. -/
theorem Resumes.guardConsume (guarded : s.inside = some .guarded)
    (count : Nat) : (s.guardConsume count).Resumes := by
  have sized := resumes.sized
  rw [guarded] at sized
  unfold ReadSide.guardConsume
  by_cases short : s.ring.size < count
  · rw [if_pos short]
    exact resumes
  · rw [if_neg short]
    exact resumes.aside sized.2 (fun _ _ => .inr (.inr (.inl rfl))) (fun open' => open') rfl rfl

/-- The socket is ready for an idle owner. -/
theorem Resumes.readReady (idle : s.owner = .idle)
    (failure : Option StdErrorCode) (aborted : Bool) : (s.readReady failure aborted).Resumes := by
  have before : s.owner.checks = false := by rw [idle]; rfl
  have waited : Resumes { s with readWaiting := false } :=
    resumes.aside (resumes.sized.same rfl rfl ⟨rfl, rfl⟩) (fun _ awake => awake)
      (fun open' => open') rfl rfl
  unfold ReadSide.readReady
  by_cases ended : (s.connClosed || aborted) = true
  · rw [if_pos ended]
    exact waited
  rw [if_neg ended]
  cases failure with
  | none => exact waited.pass before rfl (by intro via round want asked; cases asked)
  | some error =>
    exact resumes.shut (resumes.sized.same rfl rfl ⟨rfl, rfl⟩) (by simp [opened]) rfl

/-- A step in which no allocation fails, when the low-water mark is above zero. -/
theorem Resumes.step (sound : s.Sound maxBytes) (limited : 2 ≤ maxBytes)
    {label : ReadLabel} (allocates : label.allocates = true)
    (stepped : s.step label = some next) : next.Resumes := by
  have kept : ∀ {flag : ReadSide}, flag.ring = s.ring → flag.pending = s.pending →
      flag.size = s.size ∧ flag.pendingSize = s.pendingSize → flag.Sized s.inside :=
    fun ring pending sizes => resumes.sized.same (congrArg _ ring) pending sizes
  have within : ∀ entered, s.Sized (some entered) → (s.move entered).Resumes :=
    fun _ sized =>
      resumes.aside sized (fun _ _ => .inr (.inr (.inl rfl))) (fun open' => open') rfl rfl
  cases label with
  | lock entry =>
    obtain ⟨free, rfl⟩ := guarded_some stepped
    have sized := resumes.sized
    rw [free] at sized
    exact within _ sized
  | busy entry =>
    cases stepped
    exact resumes.aside (kept rfl rfl ⟨rfl, rfl⟩) (fun _ awake => awake) (fun open' => open') rfl rfl
  | advance allocFails =>
    rw [ReadLabel.allocates, Bool.not_eq_true'] at allocates
    subst allocates
    obtain ⟨inside, here, moved⟩ := Option.bind_eq_some_iff.mp stepped
    obtain ⟨sized, ahead, open', owner, paused⟩ := resumes.advance sound here moved
    apply resumes.aside sized _ (fun opened => open'.symm.trans opened) owner paused
    intro _ _
    rcases ahead with inside | waking
    · exact .inr (.inr (.inl inside))
    · exact .inr (.inl waking)
  | consume count =>
    obtain ⟨guarded, rfl⟩ := guarded_some stepped
    exact resumes.guardConsume guarded count
  | consumeInto allocFails =>
    rw [ReadLabel.allocates, Bool.not_eq_true'] at allocates
    subst allocates
    obtain ⟨guarded, rfl⟩ := guarded_some stepped
    exact resumes.guardConsume guarded s.ring.size
  | release =>
    obtain ⟨guarded, rfl⟩ := guarded_some stepped
    have sized := resumes.sized
    rw [guarded] at sized
    exact within _ sized
  | wake =>
    obtain ⟨_, rfl⟩ := guarded_none stepped
    unfold markDirty
    by_cases sealed : s.sealed = true
    · rw [if_pos sealed]
      exact resumes.shut (kept rfl rfl ⟨rfl, rfl⟩) (by simp [opened, sealed]) rfl
    · rw [if_neg sealed]
      exact resumes.aside (kept rfl rfl ⟨rfl, rfl⟩) (fun _ _ => .inl rfl) (fun open' => open') rfl
        rfl
  | markDirty =>
    cases stepped
    unfold markDirty
    by_cases sealed : s.sealed = true
    · rw [if_pos sealed]
      exact resumes
    · rw [if_neg sealed]
      exact resumes.aside (kept rfl rfl ⟨rfl, rfl⟩) (fun _ _ => .inl rfl) (fun open' => open') rfl
        rfl
  | requestClose | sealService =>
    cases stepped
    exact resumes.shut (kept rfl rfl ⟨rfl, rfl⟩) (by simp [opened]) rfl
  | dequeue =>
    obtain ⟨_, rfl⟩ := guarded_some stepped
    refine ⟨kept rfl rfl ⟨rfl, rfl⟩, ?_, ?_⟩
    · intro _ _ unchecked
      cases unchecked
    · intro via round want asked
      cases asked
  | pumpAll =>
    obtain ⟨_, rfl⟩ := guarded_some stepped
    apply resumes.go
    · intro _ _ unchecked
      cases unchecked
    · intro via round want asked
      cases asked
  | shutdown =>
    obtain ⟨idle, rfl⟩ := guarded_some stepped
    exact resumes.pass (by rw [idle]; rfl) rfl (by intro via round want asked; cases asked)
  | readReady failure aborted =>
    obtain ⟨ready, rfl⟩ := guarded_some stepped
    exact resumes.readReady ready.1 failure aborted
  | owner busy allocFails answer =>
    rw [ReadLabel.allocates, Bool.not_eq_true'] at allocates
    subst allocates
    exact resumes.ownerStep sound limited stepped

end

/-- A new connection is not paused. -/
theorem make_resumes (maxBytes : Nat) : (make maxBytes).Resumes := by
  refine ⟨⟨rfl, rfl⟩, ?_, ?_⟩
  · rintro _ (paused | pausing)
    · cases paused
    · cases pausing
  · intro via round want asked
    cases asked

/-- A paused pump keeps a reason through every run without failing allocations. -/
theorem run_resumes (limited : 2 ≤ maxBytes) {labels : List ReadLabel}
    (run : (readMachine maxBytes).GuardedRun (fun _ label => label.allocates = true) labels s) :
    s.Resumes := by
  apply run.reachableInvariant Resumes
  · rintro state rfl
    exact make_resumes maxBytes
  · intro state label next reachable resumes allocates stepped
    exact resumes.step (reachable_sound reachable) limited allocates stepped

/-- A pump with a reason to be paused is not stalled. -/
theorem Resumes.not_stalled (resumes : s.Resumes) : s.stalled = false := by
  apply Bool.eq_false_iff.mpr
  intro stalled'
  simp only [stalled, empty, Bool.and_eq_true, Bool.not_eq_true', decide_eq_true_eq,
    Option.isNone_iff_eq_none, List.isEmpty_iff] at stalled'
  obtain ⟨⟨⟨⟨⟨⟨open', paused⟩, ⟨⟨⟨ring, pending⟩, _⟩, _⟩⟩, idle⟩, clean⟩, free⟩, none'⟩ := stalled'
  have unchecked : s.owner.checks = false := by rw [idle]; rfl
  rcases resumes.paused open' (.inl paused) unchecked with dirty | waking | inside | filled | some'
  · rw [clean] at dirty
    cases dirty
  · omega
  · rw [free] at inside
    cases inside
  · rw [EventRingBuffer.size, ring, List.length_nil] at filled
    omega
  · exact some' pending

/-- One byte comes in, the pump pauses, a consumer takes the byte and wakes the owner, and the
pump that runs then compares zero stored bytes with a low-water mark of zero. -/
theorem one_byte_stalls : ∃ s, (readMachine 1).GuardedRun
    (fun _ label => label.allocates = true)
    ([.pumpAll] ++ List.replicate 6 (.owner false false .again) ++
      [.owner false false (.data [7])] ++ List.replicate 6 (.owner false false .again) ++
      [.lock .read] ++ List.replicate 8 (.advance false) ++ [.wake, .dequeue] ++
      List.replicate 3 (.owner false false .again)) s ∧ s.stalled = true :=
  Machine.exists_guardedRun _ (fun _ (label : ReadLabel) => label.allocates) stalled rfl (by decide +kernel)

/-- The pump of a connection with a limit never stalls, exactly when the limit is two bytes or
more, so that its low-water mark is not zero. -/
theorem never_stalled_iff (limited : 0 < maxBytes) :
    (∀ labels s, (readMachine maxBytes).GuardedRun (fun _ label => label.allocates = true) labels
      s → s.stalled = false) ↔ 2 ≤ maxBytes := by
  constructor
  · intro never
    by_contra small
    have one : maxBytes = 1 := by omega
    subst one
    obtain ⟨s, run, stalls⟩ := one_byte_stalls
    rw [never _ s run] at stalls
    cases stalls
  · intro enough labels s run
    exact (run_resumes enough run).not_stalled

/-- With two bytes of room the pump never stalls. -/
theorem never_stalled_iff_two : 0 < 2 ∧ ∀ labels s, (readMachine 2).GuardedRun
    (fun _ label => label.allocates = true) labels s → s.stalled = false :=
  ⟨by decide, (never_stalled_iff (by decide)).mpr (Nat.le_refl 2)⟩

/-- With one byte of room it does. -/
theorem pump_stalls : ∃ labels s, (readMachine 1).GuardedRun
    (fun _ label => label.allocates = true) labels s ∧ s.stalled = true := by
  obtain ⟨s, run, stalls⟩ := one_byte_stalls
  exact ⟨_, s, run, stalls⟩

end ReadSide

end BbtInfra.Net
