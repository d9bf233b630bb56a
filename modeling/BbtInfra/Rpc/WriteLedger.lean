import BbtInfra.Rpc.FrameProto
import BbtInfra.Rpc.SessionFrames

/-!
# The write responsibility of a session

Every item that `Enqueue` takes is in exactly one place until its outcome is settled: in a lane,
or with the writer. The counters of the source are compared with these places.
-/
namespace BbtInfra.Rpc

open Lib List

/-- The item a writer holds and has not published yet. -/
def WriterPc.item : WriterPc → Option OutItem
  | .holding item | .writing item | .failing item _ | .settling item _ => some item
  | .idle | .counting _ | .closing | .exited => none

/-- A writer that still owes `writes_outstanding` a decrement. -/
def WriterPc.holds : WriterPc → Bool
  | .holding _ | .writing _ | .failing _ _ | .settling _ _ | .counting _ => true
  | .idle | .closing | .exited => false

/-- An item carries a credential. -/
def OutItem.carries (credential : Nat) (item : OutItem) : Bool := item.settle = some credential

namespace SessionCore

/-- Queued items that pass a test. -/
def queuedCount (s : SessionCore) (test : OutItem → Bool) : Nat :=
  (s.outQ .system).countP test + (s.outQ .service).countP test + (s.outQ .actor).countP test

/-- Bytes of a list of items. -/
def itemBytes (items : List OutItem) : Nat := (items.map fun item => item.bytes.length).sum

/-- Whether `Enqueue` took the item of a credential, as a count. -/
def takenCount (s : SessionCore) (credential : Nat) : Nat :=
  match s.settles[credential]? with
  | some settle => if settle.accepted then 1 else 0
  | none => 0

/-- How often the outcome of a credential was published. -/
def publications (s : SessionCore) (credential : Nat) : Nat :=
  ((s.settles[credential]?.map Settle.publications).getD 0)

/-- The counters against the places, when `hand` are the items in somebody's hand with nothing
published and `owed` decrements of `writes_outstanding` are still to come for items that left
the lanes. -/
structure Balance (s : SessionCore) (hand : List OutItem) (owed : Nat) : Prop where
  outstanding : s.writesOutstanding = s.queuedCount (fun _ => true) + owed
  queued : ∀ lane, (s.outLanes lane).queued = (s.outQ lane).length
  bytesQueued : ∀ lane, (s.outLanes lane).bytesQueued = itemBytes (s.outQ lane)
  capacity : ∀ lane, itemBytes (s.outQ lane) ≤ laneCap s.options lane
  /-- The item of a credential is in a place with nothing published, or in none with exactly one
  publication, or `Enqueue` never took it. -/
  settled : ∀ credential, s.queuedCount (OutItem.carries credential) +
    hand.countP (OutItem.carries credential) + s.publications credential = s.takenCount credential
  /-- The `settled` flag stands for a publication. -/
  flagged : ∀ (credential : Nat) (settle : Settle), s.settles[credential]? = some settle →
    (settle.settled = true ↔ 0 < settle.publications)

/-- The write responsibility of a session: the hand is the writer's. -/
structure WriteLedger (s : SessionCore) : Prop where
  balance : s.Balance s.writer.item.toList (if s.writer.holds then 1 else 0)
  drained : s.outSealed = true → ∀ lane, s.outQ lane = []

variable {s next : SessionCore} {hand : List OutItem} {owed : Nat} {settle : Settle}

/-- A balance survives every step that leaves the outbound side alone. -/
theorem Balance.frame (balance : s.Balance hand owed)
    (frame : OutFrame s next) : next.Balance hand owed where
  outstanding := by
    rw [frame.outstanding, balance.outstanding, queuedCount, queuedCount, frame.outQ]
  queued lane := by rw [frame.queued, frame.outQ, balance.queued]
  bytesQueued lane := by rw [frame.bytesQueued, frame.outQ, balance.bytesQueued]
  capacity lane := by
    rw [frame.outQ, frame.options]
    exact balance.capacity lane
  settled credential := by
    have balanced := balance.settled credential
    rw [queuedCount, publications, takenCount] at balanced ⊢
    rw [frame.outQ, frame.settles]
    exact balanced
  flagged := by
    rw [frame.settles]
    exact balance.flagged

/-- The progress of the writer and of `Kill` is not part of a balance. -/
theorem Balance.relabel (balance : s.Balance hand owed)
    {writer : WriterPc} {killer : KillPc} {dead outSealed : Bool} :
    Balance { s with writer, killer, dead, outSealed } hand owed :=
  ⟨balance.outstanding, balance.queued, balance.bytesQueued, balance.capacity, balance.settled,
    balance.flagged⟩

/-- So does the ledger. -/
theorem WriteLedger.frame (ledger : s.WriteLedger) (frame : OutFrame s next) :
    next.WriteLedger where
  balance := by
    rw [frame.writer]
    exact ledger.balance.frame frame
  drained shut lane := by
    rw [frame.outSealed] at shut
    rw [frame.outQ]
    exact ledger.drained shut lane

/-! ## Steps that move an item -/

section Moves

variable {item : OutItem} {hand : List OutItem} {owed : Nat}

/-- Appending an item to its lane counts it there. -/
theorem queuedCount_push (s : SessionCore) (item : OutItem) (test : OutItem → Bool) :
    (s.push item).queuedCount test = s.queuedCount test + if test item then 1 else 0 := by
  have counted := countP_push (s.outQ item.lane) item test
  unfold queuedCount push
  cases lane : item.lane <;> simp only [lane] at counted <;> simp [counted] <;> omega

/-- Taking the first item of a lane counts it there no more. -/
theorem queuedCount_takeQueued {lane : TrafficClass} {rest : List OutItem}
    (first : s.outQ lane = item :: rest) (test : OutItem → Bool) :
    (s.takeQueued lane item rest).queuedCount test + (if test item then 1 else 0) =
      s.queuedCount test := by
  have counted := congrArg (countP test) first
  rw [countP_cons] at counted
  unfold queuedCount takeQueued
  cases lane <;> simp [counted] <;> omega

/-- What the checks of `Enqueue` establish. -/
theorem enqueueGate_ok (accepted : s.enqueueGate item = .ok ()) :
    s.outSealed = false ∧ s.dead = false ∧
      (s.outLanes item.lane).bytesQueued + item.bytes.length ≤ laneCap s.options item.lane := by
  unfold enqueueGate at accepted
  split_ifs at accepted with shut full
  rw [not_or, Bool.not_eq_true, Bool.not_eq_true] at shut
  exact ⟨shut.1, shut.2, by omega⟩

/-- A refused `Enqueue` moves nothing. -/
theorem enqueue_refused {error : Error} (refused : s.enqueueGate item = .error error) :
    OutFrame s (s.enqueue item) := by
  unfold enqueue
  rw [refused]
  dsimp only
  split_ifs
  · exact outFrame_modifyLane s _ (fun _ => rfl) fun _ => rfl
  · exact .refl s

/-- An accepted `Enqueue` appends. -/
theorem enqueue_accepted (accepted : s.enqueueGate item = .ok ()) : s.enqueue item = s.push item := by
  unfold enqueue
  rw [accepted]

/-- `Enqueue` keeps the balance; the credentials may grow by the one the item carries. -/
theorem Balance.push (balance : s.Balance hand owed) (accepted : s.enqueueGate item = .ok ())
    {settles : List Settle}
    (taken : ∀ c, takenCount { s.push item with settles } c =
      s.takenCount c + if item.carries c then 1 else 0)
    (published : ∀ c, publications { s.push item with settles } c = s.publications c)
    (flagged : ∀ (c : Nat) (settle : Settle), settles[c]? = some settle →
      (settle.settled = true ↔ 0 < settle.publications)) :
    Balance { s.push item with settles } hand owed where
  outstanding := by
    have counted := queuedCount_push s item fun _ => true
    have before := balance.outstanding
    rw [if_pos rfl] at counted
    change s.writesOutstanding + 1 = ((s.push item).queuedCount fun _ => true : Nat) + (owed : Int)
    omega
  queued lane := by
    have before := balance.queued lane
    by_cases same : lane = item.lane
    · subst same
      simp [SessionCore.push, modifyLane, before]
    · simp [SessionCore.push, modifyLane, same, before]
  bytesQueued lane := by
    have before := balance.bytesQueued lane
    by_cases same : lane = item.lane
    · subst same
      simp [SessionCore.push, modifyLane, before, itemBytes]
    · simp [SessionCore.push, modifyLane, same, before]
  capacity lane := by
    have before := balance.capacity lane
    by_cases same : lane = item.lane
    · subst same
      have fits := (enqueueGate_ok accepted).2.2
      have total := balance.bytesQueued item.lane
      simp only [SessionCore.push, modifyLane, Function.update_self, itemBytes, map_append,
        map_cons, map_nil, sum_append, sum_cons, sum_nil]
      unfold itemBytes at total
      omega
    · simpa [SessionCore.push, modifyLane, same] using before
  settled c := by
    have before := balance.settled c
    have counted := queuedCount_push s item (OutItem.carries c)
    rw [taken, published]
    change (s.push item).queuedCount _ + _ + _ = _
    omega
  flagged := flagged

/-- Taking an item out of a lane puts it into the hand. -/
theorem Balance.take (balance : s.Balance hand owed) {lane : TrafficClass} {rest : List OutItem}
    (first : s.outQ lane = item :: rest) :
    (s.takeQueued lane item rest).Balance (item :: hand) (owed + 1) where
  outstanding := by
    have counted := queuedCount_takeQueued first fun _ => true
    have before := balance.outstanding
    rw [if_pos rfl] at counted
    change s.writesOutstanding = _
    omega
  queued other := by
    have before := balance.queued other
    by_cases same : other = lane
    · subst same
      rw [first, length_cons] at before
      simp only [takeQueued, modifyLane, Function.update_self]
      omega
    · simp [takeQueued, modifyLane, same, before]
  bytesQueued other := by
    have before := balance.bytesQueued other
    by_cases same : other = lane
    · subst same
      rw [first] at before
      simp only [itemBytes, map_cons, sum_cons] at before
      simp only [takeQueued, modifyLane, Function.update_self, itemBytes]
      omega
    · simp [takeQueued, modifyLane, same, before]
  capacity other := by
    have before := balance.capacity other
    by_cases same : other = lane
    · subst same
      rw [first] at before
      simp only [itemBytes, map_cons, sum_cons] at before
      simp only [takeQueued, modifyLane, Function.update_self, itemBytes]
      omega
    · simpa [takeQueued, modifyLane, same] using before
  settled c := by
    have before := balance.settled c
    have counted := queuedCount_takeQueued first (OutItem.carries c)
    rw [countP_cons]
    change _ + _ + s.publications c = s.takenCount c
    omega
  flagged := balance.flagged

/-- The credential of an item in somebody's hand exists and has no publication. -/
theorem Balance.unpublished (balance : s.Balance (item :: hand) owed) {credential : Nat}
    (carried : item.settle = some credential) :
    ∃ settle, s.settles[credential]? = some settle ∧ settle.publications = 0 ∧
      settle.settled = false := by
  have balanced := balance.settled credential
  have carries : item.carries credential = true := by simp [OutItem.carries, carried]
  rw [countP_cons, if_pos carries] at balanced
  cases found : s.settles[credential]? with
  | none =>
    simp only [takenCount, found] at balanced
    omega
  | some settle =>
    have none : settle.publications = 0 := by
      simp only [takenCount, publications, found, Option.map_some, Option.getD_some] at balanced
      split_ifs at balanced <;> omega
    have flag := balance.flagged credential settle found
    refine ⟨settle, rfl, none, ?_⟩
    rw [← Bool.not_eq_true, flag, none]
    omega

/-- A publication lets the item go. -/
theorem Balance.publish (balance : s.Balance (item :: hand) owed) (outcome : Except Error Unit) :
    (s.publishSettle item outcome).Balance hand owed := by
  unfold publishSettle
  cases carried : item.settle with
  | none =>
    have untouched : ∀ c, item.carries c = false := fun c => by simp [OutItem.carries, carried]
    refine ⟨balance.outstanding, balance.queued, balance.bytesQueued, balance.capacity,
      fun c => ?_, balance.flagged⟩
    have balanced := balance.settled c
    rw [countP_cons, untouched c] at balanced
    simpa using balanced
  | some credential =>
    obtain ⟨settle, found, none, unsettled⟩ := balance.unpublished carried
    refine ⟨balance.outstanding, balance.queued, balance.bytesQueued, balance.capacity,
      fun c => ?_, fun c after present => ?_⟩
    · have balanced := balance.settled c
      rw [countP_cons] at balanced
      change s.queuedCount _ + _ + _ = _
      by_cases same : credential = c
      · subst same
        have carries : item.carries credential = true := by simp [OutItem.carries, carried]
        rw [if_pos carries] at balanced
        simp only [publications, takenCount, found, Option.map_some, Option.getD_some,
          none] at balanced
        simp only [publications, takenCount, getElem?_modify_eq, found, unsettled,
          Option.map_some, Option.getD_some, none, Bool.false_eq_true, if_false,
          Option.map_eq_map]
        omega
      · have carries : item.carries c = false := by simp [OutItem.carries, carried, same]
        simp only [publications, takenCount, carries, Bool.false_eq_true, if_false] at balanced
        simp only [publications, takenCount, getElem?_modify, same, if_false,
          Option.map_eq_map, Option.map_id']
        exact balanced
    · rcases getElem?_modify_cases present with ⟨rfl, old, was, rfl⟩ | ⟨-, old⟩
      · cases found.symm.trans was
        simp [unsettled]
      · exact balance.flagged c after old

/-- A decrement of `writes_outstanding` pays one debt. -/
theorem Balance.countSettled (balance : s.Balance hand (owed + 1)) :
    s.countSettled.Balance hand owed := by
  refine ⟨?_, balance.queued, balance.bytesQueued, balance.capacity, balance.settled,
    balance.flagged⟩
  have before := balance.outstanding
  change s.writesOutstanding - 1 = (s.queuedCount fun _ => true : Nat) + (owed : Int)
  omega

end Moves

/-! ## The critical section of `Kill` -/

/-- Discarding the head of a lane settles the item it throws away. -/
theorem Balance.discardHead (balance : s.Balance hand owed)
    (lane : TrafficClass) : (s.discardHead lane).Balance hand owed := by
  unfold SessionCore.discardHead
  cases queue : s.outQ lane with
  | nil => exact balance
  | cons item rest =>
    have counted : ((s.takeQueued lane item rest).modifyLane lane fun stats =>
        { stats with dropped := stats.dropped + 1 }).Balance (item :: hand) (owed + 1) :=
      (balance.take queue).frame (outFrame_modifyLane _ _ (fun _ => rfl) fun _ => rfl)
    exact (counted.publish _).countSettled

/-- So does the loop over one lane. -/
theorem Balance.discardLane (balance : s.Balance hand owed)
    (lane : TrafficClass) : (s.discardLane lane).Balance hand owed := by
  unfold SessionCore.discardLane
  generalize s.outQ lane = items
  induction items generalizing s with
  | nil => exact balance
  | cons item _ ih => exact ih (balance.discardHead lane)

/-- `Kill` keeps the ledger and empties every lane. -/
theorem WriteLedger.sealOut (ledger : s.WriteLedger) : s.sealOut.WriteLedger := by
  have shut : Balance { s with outSealed := true, killer := .sealed } s.writer.item.toList
      (if s.writer.holds then 1 else 0) := ledger.balance.relabel
  constructor
  · rw [(pendingFrame_sealOut s).writer]
    exact ((shut.discardLane .system).discardLane .service).discardLane .actor
  · intro _ lane
    exact sealOut_outQ s lane

/-! ## Runs -/

/-- An `Enqueue` of an item without a credential keeps the ledger. -/
theorem WriteLedger.enqueue (ledger : s.WriteLedger) {item : OutItem} (plain : item.settle = none) :
    (s.enqueue item).WriteLedger := by
  cases accepted : s.enqueueGate item with
  | error error => exact ledger.frame (enqueue_refused accepted)
  | ok value =>
    have shut := (enqueueGate_ok accepted).1
    have untouched : ∀ c, item.carries c = false := fun c => by simp [OutItem.carries, plain]
    rw [enqueue_accepted accepted]
    constructor
    · apply ledger.balance.push accepted
      · intro c
        rw [untouched c]
        rfl
      · intro c
        rfl
      · exact ledger.balance.flagged
    · intro later
      exact absurd (later.symm.trans shut) (by decide)

/-- A credential more may be taken. -/
theorem takenCount_push (grown : next.settles = s.settles ++ [settle]) (c : Nat) :
    next.takenCount c =
      s.takenCount c + if c = s.settles.length ∧ settle.accepted = true then 1 else 0 := by
  unfold takenCount
  rw [grown]
  by_cases fresh : c = s.settles.length
  · subst fresh
    simp
  · by_cases old : c < s.settles.length
    · simp [getElem?_append_left old, fresh]
    · simp [getElem?_eq_none (show (s.settles ++ [settle]).length ≤ c by
        rw [length_append, length_singleton]; omega),
        getElem?_eq_none (Nat.le_of_not_lt old), fresh]

/-- A new credential has not been published. -/
theorem publications_push (grown : next.settles = s.settles ++ [settle])
    (fresh : settle.publications = 0) (c : Nat) : next.publications c = s.publications c := by
  unfold publications
  rw [grown]
  cases found : s.settles[c]? with
  | some old => rw [getElem?_push_old found]
  | none =>
    cases later : (s.settles ++ [settle])[c]? with
    | none => rfl
    | some other =>
      rcases getElem?_push_cases later with ⟨-, rfl⟩ | old
      · simp [fresh]
      · cases found.symm.trans old

/-- A new credential is unflagged; the others are as before. -/
theorem flagged_push (fresh : settle.publications = 0) (unsettled : settle.settled = false)
    (flagged : ∀ (c : Nat) (settle : Settle), s.settles[c]? = some settle →
      (settle.settled = true ↔ 0 < settle.publications))
    (c : Nat) (other : Settle) (found : (s.settles ++ [settle])[c]? = some other) :
    other.settled = true ↔ 0 < other.publications := by
  rcases getElem?_push_cases found with ⟨-, rfl⟩ | old
  · simp [fresh, unsettled]
  · exact flagged c other old

section

variable (ledger : s.WriteLedger)

include ledger

/-- The `Enqueue` of a reply keeps the ledger, with its new credential. -/
theorem WriteLedger.post (lane : TrafficClass) (bytes : Bytes)
    (awaits : Option Awaits) : (s.post lane bytes awaits).WriteLedger := by
  cases awaits with
  | none => exact ledger.enqueue rfl
  | some awaits =>
    unfold SessionCore.post
    dsimp only
    generalize itemEq : ({ bytes, lane, settle := some s.settles.length } : OutItem) = item
    have carries : ∀ c, item.carries c = decide (c = s.settles.length) := fun c => by
      subst itemEq
      simp [OutItem.carries, eq_comm]
    cases accepted : s.enqueueGate item with
    | error error =>
      have frame := enqueue_refused accepted
      have kept := ledger.frame frame
      have same : s.settles = (s.enqueue item).settles := by
        unfold SessionCore.enqueue
        rw [accepted]
        dsimp only
        split_ifs <;> rfl
      rw [same]
      refine ⟨⟨kept.balance.outstanding, kept.balance.queued, kept.balance.bytesQueued,
        kept.balance.capacity, fun c => ?_, ?_⟩, kept.drained⟩
      · have balanced := kept.balance.settled c
        refine (congrArg _ (publications_push rfl rfl c)).trans
          (balanced.trans (Eq.symm ((takenCount_push rfl c).trans ?_)))
        simp [Except.isOk, Except.toBool]
      · exact flagged_push rfl rfl kept.balance.flagged
    | ok value =>
      have shut := (enqueueGate_ok accepted).1
      rw [enqueue_accepted accepted]
      constructor
      · apply ledger.balance.push accepted
        · intro c
          refine (takenCount_push (s := s) rfl c).trans ?_
          simp [carries, Except.isOk, Except.toBool]
        · intro c
          exact publications_push (s := s) rfl rfl c
        · exact flagged_push rfl rfl ledger.balance.flagged
      · intro later
        exact absurd (later.symm.trans shut) (by decide)

/-- The waiter of a credential may move on, and its deadline may pass. -/
theorem WriteLedger.modifySettle (credential : Nat) {f : Settle → Settle}
    (accepted : ∀ x, (f x).accepted = x.accepted)
    (published : ∀ x, (f x).publications = x.publications)
    (settled : ∀ x, (f x).settled = x.settled) : (s.modifySettle credential f).WriteLedger := by
  have balance := ledger.balance
  refine ⟨⟨balance.outstanding, balance.queued, balance.bytesQueued, balance.capacity,
    fun c => ?_, fun c settle found => ?_⟩, ledger.drained⟩
  · have balanced := balance.settled c
    have same : (s.modifySettle credential f).publications c = s.publications c ∧
        (s.modifySettle credential f).takenCount c = s.takenCount c := by
      simp only [publications, takenCount, SessionCore.modifySettle, getElem?_modify]
      by_cases here : credential = c
      · cases s.settles[c]? <;> simp [here, accepted, published]
      · simp [here]
    rw [same.1, same.2]
    exact balanced
  · rcases getElem?_modify_cases found with ⟨-, old, was, rfl⟩ | ⟨-, old⟩
    · rw [settled, published]
      exact balance.flagged _ old was
    · exact balance.flagged c settle old

/-- The writer moves on with the item it holds, over a step that leaves the queue alone. -/
theorem WriteLedger.keepItem {middle : SessionCore}
    (frame : OutFrame s middle) {writer : WriterPc} (item : writer.item = s.writer.item)
    (holds : writer.holds = s.writer.holds) : WriteLedger { middle with writer } := by
  have kept := ledger.frame frame
  refine ⟨?_, kept.drained⟩
  have balance := kept.balance
  rw [frame.writer] at balance
  rw [item, holds]
  exact balance.relabel

/-- Every move keeps the ledger. -/
theorem WriteLedger.move {protobuf : Protobuf} {label : SessionLabel}
    (move : Move protobuf s label next) : next.WriteLedger := by
  cases move with
  | submit kind request budget =>
    obtain ⟨op, seqCounter, made, -⟩ := submit_spec protobuf s kind request budget
    rw [made]
    exact ledger.frame ⟨rfl, rfl, fun _ => rfl, fun _ => rfl, rfl, rfl, rfl, rfl, rfl, rfl⟩
  | register found pc => exact ledger.frame (outFrame_register s _ _)
  | count found pc =>
    exact ledger.frame ((outFrame_gainInflight s _).trans (outFrame_goto _ _ _))
  | @enqueue i op found pc =>
    have queued := ledger.enqueue (show (itemOf i op).settle = none from rfl)
    unfold enqueueOp
    cases s.enqueueGate (itemOf i op) with
    | ok | error => exact queued.frame (outFrame_goto _ _ _)
  | unregister | expire =>
    exact ledger.frame ((outFrame_eraseOwn s _ _).trans (outFrame_goto _ _ _))
  | uncount found pc =>
    exact ledger.frame ((outFrame_loseInflight s _).trans (outFrame_goto _ _ _))
  | accepted | complete =>
    exact ledger.frame (((outFrame_loseInflight s _).trans (outFrame_countFinished _ _)).trans
      (outFrame_goto _ _ _))
  | leave found pc =>
    exact ledger.frame (((outFrame_loseInflight s _).trans (outFrame_countDropped _ _)).trans
      (outFrame_goto _ _ _))
  | stale free old => exact ledger.frame (outFrame_countDropped s _)
  | response | sendAccepted => exact ledger.frame (outFrame_answered s _ _ _ _ _)
  | publish | starve =>
    exact ledger.frame ⟨rfl, rfl, fun _ => rfl, fun _ => rfl, rfl, rfl, rfl, rfl, rfl, rfl⟩
  | @dequeue lane item rest serviceCredit actorCredit idle queue =>
    have balance := ledger.balance
    rw [idle] at balance
    have taken := (balance.take queue).frame (outFrame_modifyLane _ lane (f := fun stats =>
      { stats with dequeued := stats.dequeued + 1 }) (fun _ => rfl) fun _ => rfl)
    refine ⟨?_, fun shut => ?_⟩
    · exact ⟨taken.outstanding, taken.queued, taken.bytesQueued, taken.capacity, taken.settled,
        taken.flagged⟩
    · -- A sealed queue is empty, so nothing was taken from it.
      have empty := ledger.drained shut lane
      rw [queue] at empty
      cases empty
  | writerExit idle died =>
    exact ledger.keepItem (.refl s) (by rw [idle]; rfl) (by rw [idle]; rfl)
  | gateFails writer | written writer | writeFails writer =>
    exact ledger.keepItem (.refl s) (by rw [writer]; rfl) (by rw [writer]; rfl)
  | commit writer =>
    exact ledger.keepItem (outFrame_commitItem s _) (by rw [writer]; rfl) (by rw [writer]; rfl)
  | failItem writer =>
    exact ledger.keepItem (outFrame_failItemPending s _ _) (by rw [writer]; rfl)
      (by rw [writer]; rfl)
  | @settle item outcome writer =>
    have balance := ledger.balance
    rw [writer] at balance
    have published := balance.publish outcome
    have frame := pendingFrame_publishSettle s item outcome
    have queue : (s.publishSettle item outcome).outQ = s.outQ := by
      unfold publishSettle
      cases item.settle <;> rfl
    refine ⟨published.relabel, fun shut lane => ?_⟩
    have was : s.outSealed = true := frame.outSealed.symm.trans shut
    exact (congrFun queue lane).trans (ledger.drained was lane)
  | @countSettled failed writer =>
    have balance := ledger.balance
    rw [writer] at balance
    have paid : s.countSettled.Balance _ 0 := balance.countSettled
    refine ⟨?_, ledger.drained⟩
    cases failed
    · exact paid.relabel
    · exact paid.relabel
  | writerKillLate closing died =>
    exact ledger.keepItem (.refl s) (by rw [closing]; rfl) (by rw [closing]; rfl)
  | writerKill closing alive =>
    have kept : WriteLedger { s with writer := .exited } :=
      ledger.keepItem (.refl s) (by rw [closing]; rfl) (by rw [closing]; rfl)
    exact ⟨kept.balance.relabel, kept.drained⟩
  | kill alive => exact ⟨ledger.balance.relabel, ledger.drained⟩
  | sealOut marked => exact ledger.sealOut
  | failPending shut =>
    have failed := ledger.frame ((outFrame_failTable s .calls).trans (outFrame_failTable _ .sends))
    exact ⟨failed.balance.relabel, failed.drained⟩
  | post lane bytes awaits => exact ledger.post lane bytes awaits
  | registerWait | endWait | passDeadline | returnReply =>
    exact ledger.modifySettle _ (fun _ => rfl) (fun _ => rfl) fun _ => rfl
  | arrive lane => exact ledger.frame ((outFrame_gainInflight s lane).trans (outFrame_inbound _ _))
  | refuse found =>
    exact ledger.frame (((outFrame_countDropped s _).trans (outFrame_loseInflight _ _)).trans
      (outFrame_inbound _ _))
  | accept | finish => exact ledger.frame (outFrame_inbound s _)

end

/-- The ledger holds in every reachable state. -/
theorem reachable_writeLedger {protobuf : Protobuf} {options : ClientOptions} {epoch : UInt64}
    (reachable : (machine protobuf options epoch).Reachable s) : s.WriteLedger := by
  apply reachable_invariant WriteLedger ?_ ?_ reachable
  · refine ⟨⟨?_, ?_, ?_, ?_, ?_, ?_⟩, ?_⟩
    · rfl
    · intro lane
      rfl
    · intro lane
      rfl
    · intro lane
      exact Nat.zero_le _
    · intro credential
      rfl
    · intro credential settle found
      cases found
    · intro shut
      cases shut
  · intro s label next ledger move
    exact ledger.move move

/-- The write responsibility of a session, as its counters and credentials show it. -/
structure WriteResponsibility (s : SessionCore) : Prop where
  /-- `writes_outstanding` counts the queued items and the item the writer holds. -/
  outstanding : s.writesOutstanding =
    ((s.outQ .system).length + (s.outQ .service).length + (s.outQ .actor).length : Nat) +
      if s.writer.holds then 1 else 0
  queued : ∀ lane, (s.outLanes lane).queued = (s.outQ lane).length
  bytesQueued : ∀ lane, (s.outLanes lane).bytesQueued = itemBytes (s.outQ lane)
  capacity : ∀ lane, (s.outLanes lane).bytesQueued ≤ laneCap s.options lane
  /-- An accepted reply is queued or with the writer, once and with nothing published, or it has
  left and its outcome was published exactly once. -/
  settled : ∀ (credential : Nat) (settle : Settle), s.settles[credential]? = some settle →
    settle.accepted = true →
      (s.queuedCount (OutItem.carries credential) +
          s.writer.item.toList.countP (OutItem.carries credential) = 1 ∧
        settle.publications = 0) ∨
      (s.queuedCount (OutItem.carries credential) +
          s.writer.item.toList.countP (OutItem.carries credential) = 0 ∧
        settle.publications = 1)
  /-- After `Kill` and the exit of the writer nothing is left. -/
  closed : s.outSealed = true → s.writer = .exited → s.writesOutstanding = 0 ∧
    ∀ lane, s.outQ lane = [] ∧ (s.outLanes lane).queued = 0 ∧ (s.outLanes lane).bytesQueued = 0

/-- In every reachable state of a session, `writes_outstanding`, `queued` and `bytes_queued` are
what they count, no lane exceeds its capacity, and every accepted reply is settled exactly once
on its way out; after `Kill` and the exit of the writer everything is zero. -/
theorem write_responsibility {protobuf : Protobuf} {options : ClientOptions} {epoch : UInt64}
    (reachable : (machine protobuf options epoch).Reachable s) : s.WriteResponsibility := by
  have ledger := reachable_writeLedger reachable
  have balance := ledger.balance
  have outstanding : s.writesOutstanding =
      ((s.outQ .system).length + (s.outQ .service).length + (s.outQ .actor).length : Nat) +
        if s.writer.holds then 1 else 0 := by
    have counted := balance.outstanding
    simp only [queuedCount, countP_true] at counted
    rw [counted]
    split_ifs <;> rfl
  refine ⟨outstanding, balance.queued, balance.bytesQueued, ?_, ?_, ?_⟩
  · intro lane
    rw [balance.bytesQueued]
    exact_mod_cast balance.capacity lane
  · intro credential settle found accepted
    have balanced := balance.settled credential
    simp only [takenCount, publications, found, accepted, if_true, Option.map_some,
      Option.getD_some] at balanced
    omega
  · intro shut exited
    have empty := ledger.drained shut
    refine ⟨?_, fun lane => ⟨empty lane, ?_, ?_⟩⟩
    · rw [outstanding, exited]
      simp [empty, WriterPc.holds]
    · rw [balance.queued, empty]
      rfl
    · rw [balance.bytesQueued, empty]
      rfl

/-- A reply whose checkpoint fails, up to the end of `Kill` and of the writer. -/
def failedReply : List SessionLabel :=
  [.post .system [0, 0, 0, 1, 8] (some .result), .registerWait 0, .dequeue,
    .gateFails (err .closed "hook owner closed"), .failItem, .settle, .countSettled, .writerKill,
    .sealOut, .failPending]

/-- The failed checkpoint of a reply reaches a closed session with its ledger in order. -/
theorem write_responsibility_failed_reply :
    ∃ s : SessionCore, (s.outSealed && decide (s.writer = .exited)) = true ∧
      s.WriteResponsibility := by
  obtain ⟨s, reachable, ended⟩ := Machine.exists_reachable
    (m := machine Pb.runtime { localIdentity := text "a" } 1) failedReply
    (fun s => s.outSealed && decide (s.writer = .exited)) rfl (by decide +kernel)
  exact ⟨s, ended, write_responsibility reachable⟩

end SessionCore

end BbtInfra.Rpc
