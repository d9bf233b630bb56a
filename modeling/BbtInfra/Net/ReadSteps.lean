import BbtInfra.Net.ReadSide

/-!
# The steps of the read side

What a step of the owner and of the consumer inside can do, said once. Most steps only move the
thread; the others store bytes, take them, or publish an end.
-/
namespace BbtInfra.Net

open Lib

namespace ReadSide

variable {s next : ReadSide} {allocFails busy : Bool} {answer : RecvAnswer}

/-- The owner goes from one place to another, and sets or resets the pause. -/
inductive Hop (s : ReadSide) : OwnerPc → OwnerPc → Bool → Prop
  | shut : s.connClosed = true → Hop s .pump .idle s.readPaused
  | ends : (s.closeRequested || s.sealed) = true → Hop s .pump .stage s.readPaused
  | pump : s.connClosed = false → Hop s .pump .lowWater s.readPaused
  | still {there : OwnerPc} : there = .retry ∨ there = .reads .pump →
      (s.readPaused = true → s.readLowWater ≤ s.totalSize) →
      Hop s .lowWater there s.readPaused
  | resume {there : OwnerPc} : there = .retry ∨ there = .reads .pump → Hop s .lowWater there false
  | stop {via : Via} : Hop s (.reads via) (.arm via) s.readPaused
  | clear {via : Via} : s.readStopped = false → s.hold = [] →
      Hop s (.reads via) (.checkPending via none) s.readPaused
  | held {via : Via} : s.readStopped = false → Hop s (.reads via) (.append via none) s.readPaused
  | busy {via : Via} {round : Option Nat} :
      Hop s (.append via round) (.defer via round) s.readPaused
  | keep {via : Via} {round : Option Nat} : Hop s (.defer via round) (.arm via) s.readPaused
  | behind {via : Via} : Hop s (.checkPending via none) (.arm via) s.readPaused
  | deferred {via : Via} {round : Nat} : s.pendingSize ≠ 0 →
      Hop s (.checkPending via (some round)) (.pausing via) s.readPaused
  | loop {via : Via} {round : Option Nat} {later : Nat} : s.pendingSize = 0 →
      Hop s (.checkPending via round) (.loop via later) s.readPaused
  | spent {via : Via} {round : Nat} : Hop s (.loop via round) (.arm via) s.readPaused
  | full {via : Via} {round : Nat} : s.ring.maxBytes ≤ s.totalSize →
      Hop s (.loop via round) (.pausing via) s.readPaused
  | want {via : Via} {round want : Nat} : 0 < want →
      Hop s (.loop via round) (.reserve via round want) s.readPaused
  | locked {via : Via} {round want : Nat} :
      Hop s (.reserve via round want) (.arm via) s.readPaused
  | again {via : Via} {round granted : Nat} :
      Hop s (.receive via round granted) (.arm via) s.readPaused
  | interrupted {via : Via} {round granted : Nat} :
      Hop s (.receive via round granted) (.loop via (round + 1)) s.readPaused
  | pause {via : Via} : Hop s (.pausing via) (.arm via) true
  | arm {via : Via} {there : OwnerPc} : there = .retry ∨ there = .idle →
      Hop s (.arm via) there s.readPaused
  | retry : Hop s .retry .idle s.readPaused
  | leave : s.connClosed = true ∨ s.backendClosed = false → Hop s .stage .idle s.readPaused
  | closed : s.connClosed = false → s.backendClosed = true →
      Hop s .stage .markClosed s.readPaused
  | close : s.connClosed = false → s.backendClosed = false → s.hold = [] →
      Hop s .stage .closing s.readPaused
  | marked : Hop s .markClosed .finishing s.readPaused

/-- What a step of the owner does. -/
inductive Turn (s : ReadSide) (allocFails : Bool) (answer : RecvAnswer) :
    OwnerPc → ReadSide → Prop
  | go {here there : OwnerPc} {readPaused : Bool} (readWaiting rawRetry : Bool)
      (hop : s.Hop here there readPaused) :
      Turn s allocFails answer here { s with readPaused, readWaiting, rawRetry, owner := there }
  | append {via : Via} {round : Option Nat} (free : s.inside = none) :
      Turn s allocFails answer (.append via round) (s.tryAppend via round allocFails)
  | defer {via : Via} {round : Option Nat} (free : s.inside = none) :
      Turn s allocFails answer (.defer via round) (s.appendDeferred via round allocFails)
  | reserve {via : Via} {round want : Nat} :
      Turn s allocFails answer (.reserve via round want) (s.tryReserve via round want allocFails)
  | data {via : Via} {round granted : Nat} {bytes : Bytes} (small : bytes.length ≤ granted) :
      Turn s allocFails answer (.receive via round granted)
        { s with
          received := s.received ++ bytes, hold := bytes, owner := .append via (some round) }
  | eof {via : Via} {round granted : Nat} :
      Turn s allocFails answer (.receive via round granted)
        { s with readStopped := true, eof := true, owner := .arm via }
  | error {via : Via} {round granted : Nat} {error : StdErrorCode} :
      Turn s allocFails answer (.receive via round granted)
        { s with readStopped := true, error := some error, owner := .arm via }
  | stage (opened : s.connClosed = false) (backend : s.backendClosed = false)
      (some' : s.hold ≠ []) (fits : allocFails = false) :
      Turn s allocFails answer .stage
        { s with
          detached := s.detached ++ s.hold, detachedSize := (s.detached ++ s.hold).length
          hold := [], owner := .closing }
  | closing : Turn s allocFails answer .closing { s with backendClosed := true, owner := .markClosed }
  | publish (first : s.ringClosed = false) :
      Turn s allocFails answer .markClosed
        { s with closed := true, ringClosed := true, owner := .finishing }
  | finish : Turn s allocFails answer .finishing { s with connClosed := true, owner := .idle }

/-- Nothing else. -/
theorem ownerStep_turn {here : OwnerPc}
    (moved : s.ownerStep busy allocFails answer here = some next) :
    s.Turn allocFails answer here next := by
  have plain : ∀ {here there : OwnerPc}, s.Hop here there s.readPaused →
      s.Turn allocFails answer here (s.go there) := .go s.readWaiting s.rawRetry
  have armed : ∀ {here there : OwnerPc}, s.Hop here there s.readPaused →
      s.Turn allocFails answer here (s.armRead.go there) := by
    intro here there hop
    unfold armRead
    split_ifs
    · exact plain hop
    · exact .go true s.rawRetry hop
  have free : ¬ s.inside.isSome = true → s.inside = none := by
    intro absent
    simpa using absent
  cases here <;> simp only [ReadSide.ownerStep] at moved
  case idle => cases moved
  case pump =>
    split_ifs at moved with closed ending <;> cases moved
    · exact plain (.shut closed)
    · exact plain (.ends ending)
    · exact plain (.pump (Bool.eq_false_iff.mpr closed))
  case lowWater =>
    have place : ∃ there, (there = .retry ∨ there = .reads .pump) ∧
        { s with readPaused := s.readPaused &&
          !decide (s.readPaused = true ∧ s.totalSize < s.readLowWater)
                 owner := there } = next := by
      split_ifs at moved <;> cases moved
      · exact ⟨_, .inl rfl, rfl⟩
      · exact ⟨_, .inr rfl, rfl⟩
    obtain ⟨there, known, rfl⟩ := place
    by_cases resumed : s.readPaused = true ∧ s.totalSize < s.readLowWater
    · rw [decide_eq_true resumed, Bool.not_true, Bool.and_false]
      exact .go s.readWaiting s.rawRetry (.resume known)
    · rw [decide_eq_false resumed, Bool.not_false, Bool.and_true]
      refine plain (.still known ?_)
      intro paused
      exact Nat.le_of_not_lt fun below => resumed ⟨paused, below⟩
  case reads via =>
    split_ifs at moved with quiet empty <;> cases moved
    · exact plain .stop
    · exact plain (.clear (by simp_all) (List.isEmpty_iff.mp empty))
    · exact plain (.held (by simp_all))
  case append via round =>
    split_ifs at moved with taken locked <;> cases moved
    · exact plain .busy
    · exact .append (free locked)
  case defer via round =>
    split_ifs at moved with taken locked <;> cases moved
    · exact plain .keep
    · exact .defer (free locked)
  case checkPending via round =>
    cases round with
    | none =>
      dsimp only at moved
      split_ifs at moved with waiting <;> cases moved
      · exact plain .behind
      · exact plain (.loop (not_not.mp waiting))
    | some round =>
      dsimp only at moved
      split_ifs at moved with waiting <;> cases moved
      · exact plain (.deferred waiting)
      · exact plain (.loop (not_not.mp waiting))
  case loop via round =>
    split_ifs at moved with spent full <;> cases moved
    · exact plain .spent
    · exact plain (.full full)
    · refine plain (.want ?_)
      rw [kReadChunk]
      omega
  case reserve via round want =>
    split_ifs at moved with taken locked <;> cases moved
    · exact plain .locked
    · exact .reserve
  case receive via round granted =>
    cases answer with
    | data bytes =>
      rw [received'] at moved
      split_ifs at moved with given
      cases moved
      exact .data given.2.1
    | eof =>
      cases moved
      exact .eof
    | again =>
      cases moved
      exact plain .again
    | interrupted =>
      cases moved
      exact plain .interrupted
    | error code =>
      cases moved
      exact .error
  case pausing via =>
    cases moved
    exact .go s.readWaiting s.rawRetry .pause
  case arm via =>
    cases via with
    | pump =>
      cases moved
      split_ifs
      · exact plain (.arm (.inl rfl))
      · exact armed (.arm (.inl rfl))
    | ready =>
      cases moved
      split_ifs
      · exact plain (.arm (.inr rfl))
      · exact armed (.arm (.inr rfl))
  case retry =>
    cases moved
    exact .go s.readWaiting false .retry
  case stage =>
    split_ifs at moved with closed backend empty failing <;> cases moved
    · exact plain (.leave (.inl closed))
    · exact plain (.closed (Bool.eq_false_iff.mpr closed) backend)
    · exact plain (.close (Bool.eq_false_iff.mpr closed) (Bool.eq_false_iff.mpr backend)
        (List.isEmpty_iff.mp empty))
    · exact plain (.leave (.inr (Bool.eq_false_iff.mpr backend)))
    · refine .stage (Bool.eq_false_iff.mpr closed) (Bool.eq_false_iff.mpr backend) ?_
        (Bool.eq_false_iff.mpr failing)
      exact fun none' => empty (List.isEmpty_iff.mpr none')
  case closing =>
    cases moved
    exact .closing
  case markClosed =>
    split_ifs at moved with closed <;> cases moved
    · exact plain .marked
    · exact .publish (Bool.eq_false_iff.mpr closed)
  case finishing =>
    cases moved
    exact .finish

/-- The consumer inside goes from one place to another. -/
inductive Walk (s : ReadSide) (allocFails : Bool) : Inside → Inside → Prop
  | nothing : s.ring.size + s.pending.length + s.detachedSize = 0 →
      Walk s allocFails (.entered .popAll) (.loadError .popAll)
  | takes : Walk s allocFails (.entered .popAll) .taking
  | empty {entry : ReadEntry} : s.ring.storage = [] →
      Walk s allocFails (.flushed entry) (.loadError entry)
  | guards : Walk s allocFails (.flushed .access) .guarded
  | consumes {entry : ReadEntry} : Walk s allocFails (.flushed entry) .consuming
  | error {entry : ReadEntry} {error : StdErrorCode} :
      Walk s allocFails (.loadError entry) (.leaving (.streamError error))
  | clean {entry : ReadEntry} : Walk s allocFails (.loadError entry) (.loadEof entry)
  | more {entry : ReadEntry} : Walk s allocFails (.loadEof entry) (.loadClosed entry)
  | block {entry : ReadEntry} : Walk s allocFails (.loadClosed entry) (.leaving .wouldBlock)
  | unread : allocFails = true → Walk s allocFails .consuming (.leaving .outOfMemory)
  | untaken : allocFails = true → Walk s allocFails .taking (.leaving .outOfMemory)

/-- What a step of the consumer inside does. -/
inductive Advance (s : ReadSide) (allocFails : Bool) : Inside → ReadSide → Prop
  | walk {here there : Inside} (walk : s.Walk allocFails here there) :
      Advance s allocFails here (s.move there)
  | flushPending {entry : ReadEntry} :
      Advance s allocFails (.entered entry) (s.flushPending entry allocFails)
  | flushDetached {entry : ReadEntry} :
      Advance s allocFails (.pendingFlushed entry) (s.flushDetached entry allocFails)
  | pendingSize {entry : ReadEntry} :
      Advance s allocFails (.detachedFlushed entry)
        { s with pendingSize := s.pending.length, inside := some (.pendingStored entry) }
  | size {entry : ReadEntry} :
      Advance s allocFails (.pendingStored entry)
        { s with size := s.ring.size + s.pending.length, inside := some (.flushed entry) }
  | ends {here : Inside} {entry : ReadEntry}
      (ended : here = .loadEof entry ∧ s.eof = true ∨ here = .loadClosed entry ∧ s.closed = true) :
      Advance s allocFails here { s.move (.leaving .eof) with eofSeen := true }
  | consume :
      Advance s allocFails .consuming
        { s with
          ring := (s.ring.discard s.ring.size).2
          delivered := s.delivered ++ s.ring.storage
          inside := some .consumed }
  | consumed {here there : Inside}
      (place : here = .consumed ∧ there = .leaving .ok ∨
        here = .guardConsumed ∧ there = .guarded) :
      Advance s allocFails here { s with size := s.ring.size + s.pendingSize, inside := some there }
  | takeAll : Advance s allocFails .taking s.takeAll
  | taken : Advance s allocFails .taken { s with pendingSize := 0, inside := some .takenPending }
  | takenPending :
      Advance s allocFails .takenPending { s with size := 0, inside := some (.leaving .ok) }
  | leave {outcome : ReadOutcome} :
      Advance s allocFails (.leaving outcome) { s with inside := none, waking := s.waking + 1 }

/-- Nothing else. -/
theorem advance_cases {here : Inside} (moved : s.advance allocFails here = some next) :
    s.Advance allocFails here next := by
  cases here <;> simp only [ReadSide.advance] at moved
  case entered entry =>
    cases entry with
    | popAll =>
      dsimp only at moved
      split_ifs at moved with nothing <;> cases moved
      · exact .walk (.nothing nothing)
      · exact .walk .takes
    | read | access =>
      cases moved
      exact .flushPending
  case pendingFlushed =>
    cases moved
    exact .flushDetached
  case detachedFlushed =>
    cases moved
    exact .pendingSize
  case pendingStored =>
    cases moved
    exact .size
  case flushed =>
    split_ifs at moved with empty access <;> cases moved
    · exact .walk (.empty (List.length_eq_zero_iff.mp empty))
    · rw [access]
      exact .walk .guards
    · exact .walk .consumes
  case loadError =>
    split at moved <;> cases moved
    · exact .walk .error
    · exact .walk .clean
  case loadEof =>
    split_ifs at moved with ended <;> cases moved
    · exact .ends (.inl ⟨rfl, ended⟩)
    · exact .walk .more
  case loadClosed =>
    split_ifs at moved with ended <;> cases moved
    · exact .ends (.inr ⟨rfl, ended⟩)
    · exact .walk .block
  case consuming =>
    split_ifs at moved with failing <;> cases moved
    · exact .walk (.unread failing)
    · exact .consume
  case consumed =>
    cases moved
    exact .consumed (.inl ⟨rfl, rfl⟩)
  case taking =>
    split_ifs at moved with failing <;> cases moved
    · exact .walk (.untaken failing)
    · exact .takeAll
  case taken =>
    cases moved
    exact .taken
  case takenPending =>
    cases moved
    exact .takenPending
  case guarded => cases moved
  case guardConsumed =>
    cases moved
    exact .consumed (.inr ⟨rfl, rfl⟩)
  case leaving =>
    cases moved
    exact .leave

end ReadSide

end BbtInfra.Net
