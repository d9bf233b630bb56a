import BbtInfra.Net.InboundOrder

/-!
# The end of the inbound bytes

A consumer that finds the ring empty looks at the terminals: an error, the end of the stream,
the close. Before that it has looked at the detached bytes, but the owner detaches bytes under
another lock. What the consumer reports is the end only if nothing was detached since, and if
the detached bytes that it saw could be merged.
-/
namespace BbtInfra.Net

open Lib ReadSide

/-- The owner is between the start of `DoReadsOwner` and its end. -/
def OwnerPc.reading : OwnerPc → Bool
  | .append _ _ | .defer _ _ | .checkPending _ _ | .loop _ _ | .reserve _ _ _ | .receive _ _ _
  | .pausing _ => true
  | _ => false

namespace ReadSide

/-- A consumer has looked at the detached bytes and not at the terminals. -/
def looked (s : ReadSide) : Bool :=
  match s.inside with
  | some (.detachedFlushed _) | some (.pendingStored _) | some (.flushed _)
  | some (.loadError _) | some (.loadEof _) | some (.loadClosed _) => true
  | _ => false

/-- A consumer found nothing and looks at the terminals. -/
def ending (s : ReadSide) : Bool :=
  match s.inside with
  | some (.loadError _) | some (.loadEof _) | some (.loadClosed _) => true
  | _ => false

/-- The call inside returns `Eof` or the error of the stream by its next step. -/
def verdict (s : ReadSide) : Bool :=
  match s.inside with
  | some (.loadError _) => s.error.isSome
  | some (.loadEof _) => s.eof
  | some (.loadClosed _) => s.closed
  | _ => false

/-- A merge of the detached bytes whose allocation fails. -/
def mergeFails (s : ReadSide) (allocFails : Bool) : Bool :=
  match s.inside with
  | some (.pendingFlushed _) => decide (s.detachedSize ≠ 0 ∧ s.detached ≠ []) &&
      (s.ring.append s.detached allocFails).isNone
  | _ => false

/-- `StageDetached` commits bytes. -/
def detaches (s : ReadSide) (allocFails : Bool) : Bool :=
  decide (s.owner = .stage) && !s.connClosed && !s.backendClosed && !s.hold.isEmpty && !allocFails

/-- `MarkClosed` publishes the close. -/
def publishes (s : ReadSide) : Bool := decide (s.owner = .markClosed) && !s.ringClosed

/-- A step by which the end comes before the tail: the merge of the detached bytes fails behind a
terminal, or bytes are detached, or the close is published behind detached bytes, while a
consumer with an empty ring is between its look at the detached bytes and the terminals. -/
def overtakes (s : ReadSide) : ReadLabel → Bool
  | .advance allocFails => s.mergeFails allocFails && s.ring.storage.isEmpty && s.terminal
  | .owner _ allocFails _ =>
    s.looked && s.ring.storage.isEmpty &&
      ((s.detaches allocFails && s.terminal) || (s.publishes && !s.detached.isEmpty))
  | _ => false

/-- A step that is none. -/
def inTurn (s : ReadSide) (label : ReadLabel) : Bool := !s.overtakes label

/-- What a run without an overtaking step keeps. -/
structure Drained (s : ReadSide) : Prop where
  empty : s.ending = true → s.ring.storage = []
  tail : s.looked = true → s.ring.storage = [] → s.terminal = true → s.detached = []
  stopped : s.readStopped = true → s.owner.reading = false
  eof : s.eof = true → s.readStopped = true ∧ s.hold = []
  closed : s.closed = true → s.backendClosed = true
  seen : s.eofSeen = true → (s.eof = true ∨ s.closed = true) ∧ s.ring.storage = [] ∧
    s.pending = [] ∧ s.detached = [] ∧ s.hold = []

variable {maxBytes : Nat} {s next : ReadSide}

/-- A new connection has no terminal. -/
theorem make_drained (maxBytes : Nat) : (make maxBytes).Drained := by
  constructor
  all_goals
    intro contrary
    cases contrary

/-- The fields that consumers and terminals depend on. -/
structure SameView (s next : ReadSide) : Prop where
  storage : next.ring.storage = s.ring.storage
  pending : next.pending = s.pending
  detached : next.detached = s.detached
  hold : next.hold = s.hold
  inside : next.inside = s.inside
  terminals : next.error = s.error ∧ next.eof = s.eof ∧ next.closed = s.closed
  seen : next.eofSeen = s.eofSeen
  stopped : next.readStopped = s.readStopped

/-- A consumer has looked as far. -/
theorem SameView.looked (same : s.SameView next) : next.looked = s.looked := by
  rw [ReadSide.looked, ReadSide.looked, same.inside]

/-- It looks at the terminals as before. -/
theorem SameView.ending (same : s.SameView next) : next.ending = s.ending := by
  rw [ReadSide.ending, ReadSide.ending, same.inside]

/-- There is a terminal as before. -/
theorem SameView.terminal (same : s.SameView next) : next.terminal = s.terminal := by
  rw [ReadSide.terminal, ReadSide.terminal, same.terminals.1, same.terminals.2.1,
    same.terminals.2.2]

/-- A step that leaves them alone. -/
theorem Drained.view (drained : s.Drained) (same : s.SameView next)
    (backend : s.backendClosed = true → next.backendClosed = true)
    (reading : next.owner.reading = true → s.owner.reading = true ∨ s.readStopped = false) :
    next.Drained := by
  refine ⟨?_, ?_, ?_, ?_, ?_, ?_⟩
  · rw [same.ending, same.storage]
    exact drained.empty
  · rw [same.looked, same.storage, same.terminal, same.detached]
    exact drained.tail
  · rw [same.stopped]
    intro stopped
    by_contra busy
    rcases reading (by simpa using busy) with before | running
    · rw [drained.stopped stopped] at before
      cases before
    · rw [running] at stopped
      cases stopped
  · rw [same.terminals.2.1, same.stopped, same.hold]
    exact drained.eof
  · rw [same.terminals.2.2]
    intro closed
    exact backend (drained.closed closed)
  · rw [same.seen, same.terminals.2.1, same.terminals.2.2, same.storage, same.pending,
      same.detached, same.hold]
    exact drained.seen

/-- A step of a consumer that leaves everything but its place alone. -/
theorem Drained.inside (drained : s.Drained) {inside : Option Inside}
    (empty : { s with inside }.ending = true → s.ring.storage = [])
    (tail : { s with inside }.looked = true → s.ring.storage = [] → s.terminal = true →
      s.detached = []) : { s with inside }.Drained :=
  ⟨empty, tail, drained.stopped, drained.eof, drained.closed, drained.seen⟩

/-- A consumer that does not look at the terminals. -/
theorem Drained.quiet (drained : s.Drained) {inside : Option Inside}
    (looked : { s with inside }.looked = false) (ending : { s with inside }.ending = false) :
    { s with inside }.Drained := by
  apply drained.inside
  · intro contrary
    exact absurd (ending.symm.trans contrary) (by decide)
  · intro contrary
    exact absurd (looked.symm.trans contrary) (by decide)

/-- A merge of pending bytes ends no stream. -/
theorem Drained.flushPending (drained : s.Drained) (entry : ReadEntry) (allocFails : Bool) :
    (s.flushPending entry allocFails).Drained := by
  unfold ReadSide.flushPending
  by_cases nothing : s.pending.isEmpty = true
  · rw [if_pos nothing]
    exact drained.quiet rfl rfl
  rw [if_neg nothing]
  cases appended : s.ring.append s.pending allocFails with
  | none => exact drained.quiet rfl rfl
  | some answer =>
    obtain ⟨error, ring⟩ := answer
    dsimp only
    by_cases failed : error.failed = true
    · rw [if_pos failed]
      exact drained.quiet rfl rfl
    · rw [if_neg failed]
      refine ⟨?_, ?_, drained.stopped, drained.eof, drained.closed, ?_⟩
      · intro contrary
        cases contrary
      · intro contrary
        cases contrary
      · intro seen
        exact absurd (List.isEmpty_iff.mpr (drained.seen seen).2.2.1) nothing

variable {allocFails : Bool} {inside : Inside}

/-- A merge of detached bytes that succeeds, or fails in front of every terminal. -/
theorem Drained.flushDetached (drained : s.Drained) (sound : s.Sound maxBytes) {entry : ReadEntry}
    (here : s.inside = some (.pendingFlushed entry))
    (fair : s.overtakes (.advance allocFails) = false) :
    (s.flushDetached entry allocFails).Drained := by
  have stored := sound.stored
  unfold ReadSide.flushDetached
  by_cases nothing : s.detachedSize = 0 ∨ s.detached = []
  · rw [if_pos nothing]
    apply drained.inside
    · intro contrary
      cases contrary
    · intro _ _ _
      rcases nothing with none' | none'
      · rw [stored.detachedSized] at none'
        exact List.length_eq_zero_iff.mp none'
      · exact none'
  rw [if_neg nothing]
  have there : s.detachedSize ≠ 0 ∧ s.detached ≠ [] := not_or.mp nothing
  cases appended : s.ring.append s.detached allocFails with
  | none =>
    apply drained.inside
    · intro contrary
      cases contrary
    · intro _ empty terminal
      simp [overtakes, mergeFails, here, there.1, there.2, appended, empty, terminal] at fair
  | some answer =>
    obtain ⟨error, ring⟩ := answer
    have bound := stored.bound
    rw [ReadSide.stored] at bound
    rcases EventRingBuffer.append_spec stored.fit appended with
      ⟨rfl, _, _, _⟩ | ⟨_, _, large⟩
    · dsimp only
      refine ⟨?_, fun _ _ _ => rfl, drained.stopped, drained.eof, drained.closed, ?_⟩
      · intro contrary
        cases contrary
      · intro seen
        exact absurd (drained.seen seen).2.2.2.1 there.2
    · rw [stored.limit] at large
      omega

/-- Consumed bytes end no stream. -/
theorem Drained.consume (drained : s.Drained) (sound : s.Sound maxBytes) {count : Nat}
    (there : count ≤ s.ring.size) (looked : { s with inside := some inside }.looked = false)
    (ending : { s with inside := some inside }.ending = false) {delivered : Bytes} : { s with
      ring := (s.ring.discard count).2
      delivered
      inside := some inside }.Drained := by
  obtain ⟨_, _, storage⟩ := EventRingBuffer.discard_spec sound.stored.fit count
  rw [if_pos there] at storage
  refine ⟨?_, ?_, drained.stopped, drained.eof, drained.closed, ?_⟩
  · intro contrary
    exact absurd (ending.symm.trans contrary) (by decide)
  · intro contrary
    exact absurd (looked.symm.trans contrary) (by decide)
  · intro seen
    obtain ⟨published, ring, rest⟩ := drained.seen seen
    refine ⟨published, ?_, rest⟩
    rw [storage, ring, List.drop_nil]

/-- Nor does taking everything out. -/
theorem Drained.takeAll (drained : s.Drained) : s.takeAll.Drained := by
  refine ⟨?_, ?_, drained.stopped, drained.eof, drained.closed, ?_⟩
  · intro contrary
    cases contrary
  · intro contrary
    cases contrary
  · intro seen
    obtain ⟨published, ring, _, _, hold⟩ := drained.seen seen
    refine ⟨published, ?_, rfl, rfl, hold⟩
    simp only [ReadSide.takeAll]
    split_ifs
    · exact ring
    · rfl

/-- A connection whose backend is closed holds nothing back. -/
theorem Sound.hold_nil (sound : s.Sound maxBytes) (closed : s.backendClosed = true) :
    s.hold = [] := by
  have phase := sound.phase
  cases owner : s.owner <;> rw [owner] at phase <;> simp only [Phase] at phase
  case idle | pump | stage => exact phase.2.2 closed
  case closing => exact phase.2.2
  case markClosed | finishing => exact phase.2.2
  case lowWater | reads | append | defer | arm | retry =>
    rw [phase.backend] at closed
    cases closed
  case checkPending | pausing => exact phase.2
  case loop | reserve => exact phase.2.1
  case receive => exact phase.2.1

/-- The consumer inside goes on, and looks at the terminals only with an empty ring. -/
theorem Drained.walk (drained : s.Drained) (stored : s.Stored maxBytes)
    {here there : Inside} (inside : s.inside = some here) (walk : s.Walk allocFails here there) :
    (s.move there).Drained := by
  cases walk with
  | nothing none' =>
    have sized := stored.detachedSized
    have empty : s.ring.storage = [] := List.length_eq_zero_iff.mp (show s.ring.size = 0 by omega)
    exact drained.inside (fun _ => empty) fun _ _ _ => List.length_eq_zero_iff.mp (by omega)
  | empty none' =>
    exact drained.inside (fun _ => none') fun _ => drained.tail (by rw [looked, inside])
  | clean | more =>
    exact drained.inside (fun _ => drained.empty (by rw [ending, inside]))
      fun _ => drained.tail (by rw [looked, inside])
  | takes | guards | consumes | error | block | unread | untaken => exact drained.quiet rfl rfl

/-- A step of the consumer inside. -/
theorem Drained.advance (drained : s.Drained) (sound : s.Sound maxBytes)
    (fair : s.overtakes (.advance allocFails) = false)
    (here : s.inside = some inside) (moved : s.advance allocFails inside = some next) :
    next.Drained := by
  have within := sound.within
  rw [here] at within
  cases advance_cases moved with
  | walk walk => exact drained.walk sound.stored here walk
  | flushPending => exact drained.flushPending _ _
  | flushDetached => exact drained.flushDetached sound here fair
  | pendingSize | size =>
    refine ⟨?_, fun _ => drained.tail (by rw [looked, here]), drained.stopped, drained.eof,
      drained.closed, drained.seen⟩
    intro contrary
    cases contrary
  | ends ended =>
    have place : s.looked = true ∧ s.ending = true ∧ s.terminal = true ∧ s.pending = [] ∧
        (s.eof = true ∨ s.closed = true) := by
      rcases ended with ⟨rfl, eof⟩ | ⟨rfl, closed⟩
      · exact ⟨by rw [looked, here], by rw [ending, here], by simp [terminal, eof], within, .inl eof⟩
      · exact ⟨by rw [looked, here], by rw [ending, here], by simp [terminal, closed], within,
          .inr closed⟩
    obtain ⟨looked, ending, terminal, flushed, published⟩ := place
    have none' := drained.empty ending
    have hold : s.hold = [] := by
      rcases published with eof | closed
      · exact (drained.eof eof).2
      · exact sound.hold_nil (drained.closed closed)
    refine ⟨?_, ?_, drained.stopped, drained.eof, drained.closed, ?_⟩
    · intro contrary
      cases contrary
    · intro contrary
      cases contrary
    · intro _
      exact ⟨published, none', flushed, drained.tail looked none' terminal, hold⟩
  | consume => exact drained.consume sound (Nat.le_refl _) rfl rfl
  | consumed place =>
    refine ⟨?_, ?_, drained.stopped, drained.eof, drained.closed, drained.seen⟩
    all_goals
      intro contrary
      rcases place with ⟨_, rfl⟩ | ⟨_, rfl⟩ <;> cases contrary
  | takeAll => exact drained.takeAll
  | taken | takenPending | leave =>
    refine ⟨?_, ?_, drained.stopped, drained.eof, drained.closed, drained.seen⟩
    · intro contrary
      cases contrary
    · intro contrary
      cases contrary

/-- While the owner reads there is no end. -/
theorem Drained.unended (drained : s.Drained) (working : s.Working)
    (reading : s.owner.reading = true) :
    s.eof = false ∧ s.closed = false ∧ s.eofSeen = false ∧ s.readStopped = false := by
  have running : s.readStopped = false := by
    by_contra stopped
    have idle := drained.stopped (by simpa using stopped)
    rw [reading] at idle
    cases idle
  have eof : s.eof = false := by
    by_contra ended
    have stopped := (drained.eof (by simpa using ended)).1
    rw [running] at stopped
    cases stopped
  have closed : s.closed = false := by
    by_contra ended
    have backend := drained.closed (by simpa using ended)
    rw [working.backend] at backend
    cases backend
  refine ⟨eof, closed, ?_, running⟩
  by_contra seen
  rcases (drained.seen (by simpa using seen)).1 with ended | ended
  · rw [eof] at ended
    cases ended
  · rw [closed] at ended
    cases ended

/-- A state without an end and with nobody looking at the terminals. -/
theorem drained_unended (free : s.inside = none)
    (unended : s.eof = false ∧ s.closed = false ∧ s.eofSeen = false ∧ s.readStopped = false) :
    s.Drained := by
  obtain ⟨eof, closed, seen, running⟩ := unended
  refine ⟨?_, ?_, ?_, ?_, ?_, ?_⟩
  · rw [ending, free]
    intro contrary
    cases contrary
  · rw [looked, free]
    intro contrary
    cases contrary
  · rw [running]
    intro contrary
    cases contrary
  · rw [eof]
    intro contrary
    cases contrary
  · rw [closed]
    intro contrary
    cases contrary
  · rw [seen]
    intro contrary
    cases contrary

/-- A terminal other than the close is published with nothing detached. -/
theorem Drained.stop (drained : s.Drained) (none' : s.detached = []) (place : OwnerPc)
    (resting : place.reading = false) {error : Option StdErrorCode} {eof : Bool}
    (held : eof = true → s.hold = []) (kept : s.eof = true → eof = true) (waiting : Bool) :
    { s with readStopped := true, error, eof, owner := place, readWaiting := waiting }.Drained := by
  refine ⟨drained.empty, fun _ _ _ => none', fun _ => resting, fun ended => ⟨rfl, held ended⟩,
    drained.closed, ?_⟩
  intro seen
  obtain ⟨published, rest⟩ := drained.seen seen
  exact ⟨published.imp kept fun closed => closed, rest⟩

/-- The owner starts to read only while the stream has not ended. -/
theorem Hop.reading {here there : OwnerPc} {readPaused : Bool} (hop : s.Hop here there readPaused)
    (reads : there.reading = true) : here.reading = true ∨ s.readStopped = false := by
  cases hop with
  | clear running | held running => exact .inr running
  | busy | deferred | loop | full | want | interrupted => exact .inl rfl
  | still known | resume known | arm known =>
    rcases known with rfl | rfl
    · cases reads
    · cases reads
  | _ => cases reads

/-- A step of the owner that does not overtake the tail. -/
theorem Drained.ownerStep (drained : s.Drained) (sound : s.Sound maxBytes)
    {busy : Bool} {answer : RecvAnswer}
    (fair : s.overtakes (.owner busy allocFails answer) = false)
    (moved : s.ownerStep busy allocFails answer s.owner = some next) : next.Drained := by
  have phase := sound.phase
  have turn := ownerStep_turn moved
  have more : s.owner.reading = true → ∀ owner : OwnerPc, (s.go owner).Drained :=
    fun reading owner => drained.view ⟨rfl, rfl, rfl, rfl, rfl, ⟨rfl, rfl, rfl⟩, rfl, rfl⟩
      (fun closed => closed) fun _ => .inl reading
  have unended := fun working => drained.unended (s := s) working
  generalize owner : s.owner = here at turn phase more unended
  cases turn with
  | go readWaiting rawRetry hop =>
    refine drained.view ⟨rfl, rfl, rfl, rfl, rfl, ⟨rfl, rfl, rfl⟩, rfl, rfl⟩ (fun closed => closed) ?_
    rw [owner]
    exact hop.reading
  | append free =>
    unfold tryAppend
    cases s.ring.append s.hold allocFails with
    | none => exact more rfl _
    | some answer =>
      dsimp only
      by_cases failed : answer.1.failed = true
      · rw [if_pos failed]
        exact more rfl _
      · rw [if_neg failed]
        exact drained_unended free (unended phase rfl)
  | defer free =>
    unfold appendDeferred
    by_cases failing : allocFails = true
    · rw [if_pos failing]
      exact more rfl _
    · rw [if_neg failing]
      exact drained_unended free (unended phase rfl)
  | reserve =>
    unfold tryReserve
    dsimp only
    split_ifs with none'
    · exact more rfl _
    · cases reserved : s.ring.reserve _ allocFails with
      | none => exact more rfl _
      | some answer =>
        obtain ⟨error, ring⟩ := answer
        obtain ⟨_, _, storage, _⟩ := EventRingBuffer.reserve_spec sound.stored.fit reserved
        dsimp only
        by_cases failed : error.failed = true
        · rw [if_pos failed]
          exact more rfl _
        · rw [if_neg failed]
          exact drained.view ⟨storage, rfl, rfl, rfl, rfl, ⟨rfl, rfl, rfl⟩, rfl, rfl⟩
            (fun closed => closed) fun _ => .inl (by rw [owner]; rfl)
  | data =>
    obtain ⟨eof, _, seen, running⟩ := unended phase.1 rfl
    refine ⟨drained.empty, drained.tail, ?_, ?_, drained.closed, ?_⟩
    · intro stopped
      exact absurd (running.symm.trans stopped) (by decide)
    · intro ended
      exact absurd (eof.symm.trans ended) (by decide)
    · intro contrary
      exact absurd (seen.symm.trans contrary) (by decide)
  | eof => exact drained.stop phase.1.detached _ rfl (fun _ => phase.2.1) (fun _ => rfl) _
  | error => exact drained.stop phase.1.detached _ rfl (fun _ => phase.2.1) (fun ended => ended) _
  | stage opened backend some' fits =>
    have detaching : s.detaches allocFails = true := by
      simp [detaches, owner, opened, backend, some', fits]
    refine ⟨drained.empty, ?_, fun _ => rfl, ?_, drained.closed, ?_⟩
    · intro looked nothing terminal
      have looking : s.looked = true := looked
      have published : s.terminal = true := terminal
      have none' : s.ring.storage = [] := nothing
      simp [overtakes, looking, none', detaching, published] at fair
    · intro ended
      exact ⟨(drained.eof ended).1, rfl⟩
    · intro seen
      exact absurd (drained.seen seen).2.2.2.2 some'
  | closing =>
    exact drained.view ⟨rfl, rfl, rfl, rfl, rfl, ⟨rfl, rfl, rfl⟩, rfl, rfl⟩ (fun _ => rfl)
      fun contrary => by cases contrary
  | publish first =>
    have publishing : s.publishes = true := by simp [publishes, owner, first]
    refine ⟨drained.empty, ?_, fun _ => rfl, drained.eof, fun _ => phase.1, ?_⟩
    · intro looked nothing _
      have looking : s.looked = true := looked
      have none' : s.ring.storage = [] := nothing
      simp [overtakes, looking, none', publishing] at fair
      exact fair.2
    · intro seen
      exact ⟨.inr rfl, (drained.seen seen).2⟩
  | finish =>
    exact drained.view ⟨rfl, rfl, rfl, rfl, rfl, ⟨rfl, rfl, rfl⟩, rfl, rfl⟩ (fun closed => closed)
      fun contrary => by cases contrary

/-- A step that does not overtake the tail. -/
theorem Drained.step (drained : s.Drained) (sound : s.Sound maxBytes) {label : ReadLabel}
    (fair : s.overtakes label = false) (stepped : s.step label = some next) : next.Drained := by
  have marked : s.markDirty.Drained := by
    unfold markDirty
    split_ifs
    · exact drained
    · exact drained.view ⟨rfl, rfl, rfl, rfl, rfl, ⟨rfl, rfl, rfl⟩, rfl, rfl⟩
        (fun closed => closed) .inl
  cases label with
  | lock | release =>
    obtain ⟨_, rfl⟩ := guarded_some stepped
    exact drained.quiet rfl rfl
  | busy | requestClose | sealService =>
    cases stepped
    exact drained.view ⟨rfl, rfl, rfl, rfl, rfl, ⟨rfl, rfl, rfl⟩, rfl, rfl⟩ (fun closed => closed)
      .inl
  | advance allocFails =>
    obtain ⟨inside, here, moved⟩ := Option.bind_eq_some_iff.mp stepped
    exact drained.advance sound fair here moved
  | consume count =>
    obtain ⟨_, rfl⟩ := guarded_some stepped
    rw [guardConsume]
    split_ifs with large
    · exact drained
    · exact drained.consume sound (by omega) rfl rfl
  | consumeInto allocFails =>
    obtain ⟨_, rfl⟩ := guarded_some stepped
    rw [guardConsumeInto]
    split_ifs
    · exact drained
    · rw [guardConsume, if_neg (Nat.lt_irrefl _)]
      exact drained.consume sound (Nat.le_refl _) rfl rfl
  | wake =>
    obtain ⟨_, rfl⟩ := guarded_none stepped
    exact marked.view ⟨rfl, rfl, rfl, rfl, rfl, ⟨rfl, rfl, rfl⟩, rfl, rfl⟩ (fun closed => closed)
      .inl
  | markDirty =>
    cases stepped
    exact marked
  | dequeue | pumpAll | shutdown =>
    obtain ⟨_, rfl⟩ := guarded_some stepped
    exact drained.view ⟨rfl, rfl, rfl, rfl, rfl, ⟨rfl, rfl, rfl⟩, rfl, rfl⟩ (fun closed => closed)
      fun contrary => by cases contrary
  | readReady failure aborted =>
    obtain ⟨⟨idle, _⟩, rfl⟩ := guarded_some stepped
    have phase := sound.phase
    rw [idle] at phase
    unfold ReadSide.readReady
    dsimp only
    split_ifs with quiet
    · exact drained.view ⟨rfl, rfl, rfl, rfl, rfl, ⟨rfl, rfl, rfl⟩, rfl, rfl⟩ (fun closed => closed)
        .inl
    · cases failure with
      | some error =>
        simp only [Bool.or_eq_true, not_or, Bool.not_eq_true] at quiet
        exact drained.stop (working_of_opened phase quiet.1).detached s.owner (by rw [idle]; rfl)
          (fun ended => (drained.eof ended).2) (fun ended => ended) false
      | none =>
        exact drained.view ⟨rfl, rfl, rfl, rfl, rfl, ⟨rfl, rfl, rfl⟩, rfl, rfl⟩
          (fun closed => closed) fun contrary => by cases contrary
  | owner busy allocFails answer => exact drained.ownerStep sound fair stepped

/-- The owner delivers nothing. -/
theorem ownerStep_delivered {busy : Bool} {answer : RecvAnswer} {owner : OwnerPc}
    (moved : s.ownerStep busy allocFails answer owner = some next) :
    next.delivered = s.delivered := by
  cases ownerStep_turn moved with
  | append =>
    unfold tryAppend
    split
    · rfl
    · split_ifs <;> rfl
  | defer =>
    unfold appendDeferred
    split_ifs <;> rfl
  | reserve =>
    unfold tryReserve
    dsimp only
    split_ifs
    · rfl
    · split
      · rfl
      · split_ifs <;> rfl
  | _ => rfl

/-- Without stored bytes the consumer inside delivers nothing. -/
theorem advance_delivered (empty : s.ring.storage = [] ∧ s.pending = [] ∧ s.detached = [])
    (moved : s.advance allocFails inside = some next) :
    next.delivered = s.delivered := by
  cases advance_cases moved with
  | flushPending =>
    rw [flushPending, empty.2.1]
    rfl
  | flushDetached =>
    rw [flushDetached, if_pos (.inr empty.2.2)]
    rfl
  | consume => rw [empty.1, List.append_nil]
  | takeAll =>
    rw [takeAll, empty.1, empty.2.1, empty.2.2, List.append_nil, List.append_nil, List.append_nil]
  | _ => rfl

/-- Without stored bytes no step delivers anything. -/
theorem step_delivered (empty : s.ring.storage = [] ∧ s.pending = [] ∧ s.detached = [])
    {label : ReadLabel} (stepped : s.step label = some next) : next.delivered = s.delivered := by
  have marked : s.markDirty.delivered = s.delivered := by
    unfold markDirty
    split_ifs <;> rfl
  have consumed : ∀ count, (s.guardConsume count).delivered = s.delivered := by
    intro count
    unfold guardConsume
    split_ifs
    · rfl
    · simp only [empty.1, List.take_nil, List.append_nil]
  cases label with
  | advance allocFails =>
    obtain ⟨inside, _, moved⟩ := Option.bind_eq_some_iff.mp stepped
    exact advance_delivered empty moved
  | consume count =>
    obtain ⟨_, rfl⟩ := guarded_some stepped
    exact consumed count
  | consumeInto allocFails =>
    obtain ⟨_, rfl⟩ := guarded_some stepped
    rw [guardConsumeInto]
    split_ifs
    · rfl
    · exact consumed _
  | wake =>
    obtain ⟨_, rfl⟩ := guarded_none stepped
    exact marked
  | markDirty =>
    cases stepped
    exact marked
  | readReady failure aborted =>
    obtain ⟨_, rfl⟩ := guarded_some stepped
    unfold ReadSide.readReady
    dsimp only
    split_ifs
    · rfl
    · cases failure <;> rfl
  | owner busy allocFails answer => exact ownerStep_delivered stepped
  | lock | release | dequeue | pumpAll | shutdown =>
    simp only [step, Option.ite_none_right_eq_some, Option.some.injEq] at stepped
    exact stepped.2 ▸ rfl
  | busy | requestClose | sealService =>
    cases stepped
    rfl

/-- A run without an overtaking step. -/
theorem run_drained {labels : List ReadLabel}
    (run : (readMachine maxBytes).GuardedRun
      (fun state label => state.inTurn label = true) labels s) : s.Drained := by
  apply run.reachableInvariant Drained
  · rintro state rfl
    exact make_drained maxBytes
  · intro state label next reachable drained fair stepped
    have kept : state.overtakes label = false := by simpa [inTurn] using fair
    exact drained.step (reachable_sound reachable) kept stepped

/-- In a run without an overtaking step a call that is about to report the end leaves no byte
behind, and when a consumer was told that the stream has ended no later read returns data. -/
theorem terminal_after_tail {labels : List ReadLabel}
    (run : (readMachine maxBytes).GuardedRun
      (fun state label => state.inTurn label = true) labels s) :
    (s.verdict = true → s.ring.storage = [] ∧ s.pending = [] ∧ s.detached = []) ∧
      (s.eofSeen = true → s.delivered = s.received ∧
        ∀ label next, s.step label = some next → next.delivered = s.delivered) := by
  have drained := run_drained run
  have sound := reachable_sound run.reachable
  constructor
  · intro verdict
    have within := sound.within
    have stage : s.looked = true ∧ s.ending = true ∧ s.terminal = true ∧ s.pending = [] := by
      unfold ReadSide.verdict at verdict
      split at verdict
      case h_1 | h_2 | h_3 =>
        rename_i entry here
        rw [here] at within
        exact ⟨by rw [looked, here], by rw [ending, here], by simp [terminal, verdict], within⟩
      · cases verdict
    have empty := drained.empty stage.2.1
    exact ⟨empty, stage.2.2.2, drained.tail stage.1 empty stage.2.2.1⟩
  · intro seen
    obtain ⟨_, ring, pending, detached, hold⟩ := drained.seen seen
    constructor
    · have order := sound.stored.order
      rw [ring, pending, detached, hold] at order
      simpa using order.symm
    · intro label next stepped
      exact step_delivered ⟨ring, pending, detached⟩ stepped

/-- A byte that arrives while a consumer holds the lock is detached by the close and taken by that
consumer; the next call reports the end. -/
theorem terminal_after_tail_close : ∃ labels s, (readMachine 8).GuardedRun
    (fun state label => state.inTurn label = true) labels s ∧
    s.eofSeen = true ∧ s.delivered = s.received ∧ s.received = [1] := by
  obtain ⟨s, run, tested⟩ := Machine.exists_guardedRun (m := readMachine 8)
    [.pumpAll, .owner false false .again, .owner false false .again, .owner false false .again,
      .owner false false .again, .owner false false .again, .owner false false .again, .lock .read,
      .owner false false (.data [1]), .owner true false .again, .owner true false .again,
      .owner false false .again, .owner false false .again, .shutdown, .owner false false .again,
      .owner false false .again, .owner false false .again, .owner false false .again,
      .advance false, .advance false, .advance false, .advance false, .advance false,
      .advance false, .advance false, .advance false,
      .lock .popAll, .advance false, .advance false, .advance false, .advance false]
    (fun s e => s.inTurn e) (fun s => decide (s.eofSeen = true ∧ s.received = [1])) rfl
    (by decide +kernel)
  have ended := of_decide_eq_true tested
  exact ⟨_, s, run, ended.1, ((terminal_after_tail run).2 ended.1).1, ended.2⟩

/-- Bytes that are detached between the look of a consumer and the close are left behind. -/
theorem close_overtakes_tail : ∃ s, (readMachine 8).Reachable s ∧
    s.verdict = true ∧ s.detached = [1] := by
  obtain ⟨s, reachable, tested⟩ := Machine.exists_reachable (m := readMachine 8)
    [.pumpAll, .owner false false .again, .owner false false .again, .owner false false .again,
      .owner false false .again, .owner false false .again, .owner false false .again, .lock .read,
      .owner false false (.data [1]), .owner true false .again, .owner true false .again,
      .owner false false .again, .owner false false .again, .advance false, .advance false,
      .shutdown, .owner false false .again, .owner false false .again, .owner false false .again,
      .owner false false .again, .advance false, .advance false, .advance false, .advance false,
      .advance false]
    (fun s => decide (s.verdict = true ∧ s.detached = [1])) rfl (by decide +kernel)
  exact ⟨s, reachable, of_decide_eq_true tested⟩

end ReadSide

end BbtInfra.Net
