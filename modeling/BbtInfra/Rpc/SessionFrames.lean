import BbtInfra.Rpc.SessionMachine

/-!
# What the critical sections of a session leave alone

A session has two sides with a lock each: the outbound queue with its counters and
credentials, and the pending tables with the operations. `OutFrame` says that a step does not
touch the first, `PendingFrame` that it does not touch the second.
-/
namespace BbtInfra.Rpc

open Lib

namespace SessionCore

/-- The queue, its counters, the credentials, the writer and the kill are unchanged. The gauges
of operations may change. -/
structure OutFrame (s next : SessionCore) : Prop where
  options : next.options = s.options
  outQ : next.outQ = s.outQ
  queued : ∀ lane, (next.outLanes lane).queued = (s.outLanes lane).queued
  bytesQueued : ∀ lane, (next.outLanes lane).bytesQueued = (s.outLanes lane).bytesQueued
  outstanding : next.writesOutstanding = s.writesOutstanding
  settles : next.settles = s.settles
  writer : next.writer = s.writer
  outSealed : next.outSealed = s.outSealed
  dead : next.dead = s.dead
  killer : next.killer = s.killer

/-- The operations, their tables, the reader, the writer, the kill and the in-flight gauges are
unchanged. -/
structure PendingFrame (s next : SessionCore) : Prop where
  ops : next.ops = s.ops
  pending : next.pending = s.pending
  reader : next.reader = s.reader
  unanswered : next.unanswered = s.unanswered
  inbound : next.inbound = s.inbound
  inflight : ∀ lane, (next.outLanes lane).inflight = (s.outLanes lane).inflight
  writer : next.writer = s.writer
  outSealed : next.outSealed = s.outSealed
  dead : next.dead = s.dead
  killer : next.killer = s.killer

variable {s middle next : SessionCore}

/-- Doing nothing leaves the outgoing side alone. -/
theorem OutFrame.refl (s : SessionCore) : OutFrame s s :=
  ⟨rfl, rfl, fun _ => rfl, fun _ => rfl, rfl, rfl, rfl, rfl, rfl, rfl⟩

/-- So do two steps that each leave it alone. -/
theorem OutFrame.trans (first : OutFrame s middle) (second : OutFrame middle next) :
    OutFrame s next where
  options := second.options.trans first.options
  outQ := second.outQ.trans first.outQ
  queued lane := (second.queued lane).trans (first.queued lane)
  bytesQueued lane := (second.bytesQueued lane).trans (first.bytesQueued lane)
  outstanding := second.outstanding.trans first.outstanding
  settles := second.settles.trans first.settles
  writer := second.writer.trans first.writer
  outSealed := second.outSealed.trans first.outSealed
  dead := second.dead.trans first.dead
  killer := second.killer.trans first.killer

/-- Doing nothing leaves the pending side alone. -/
theorem PendingFrame.refl (s : SessionCore) : PendingFrame s s :=
  ⟨rfl, rfl, rfl, rfl, rfl, fun _ => rfl, rfl, rfl, rfl, rfl⟩

/-- So do two steps that each leave it alone. -/
theorem PendingFrame.trans (first : PendingFrame s middle) (second : PendingFrame middle next) :
    PendingFrame s next where
  ops := second.ops.trans first.ops
  pending := second.pending.trans first.pending
  reader := second.reader.trans first.reader
  unanswered := second.unanswered.trans first.unanswered
  inbound := second.inbound.trans first.inbound
  inflight lane := (second.inflight lane).trans (first.inflight lane)
  writer := second.writer.trans first.writer
  outSealed := second.outSealed.trans first.outSealed
  dead := second.dead.trans first.dead
  killer := second.killer.trans first.killer

/-! ## The pending side -/

section

variable (s : SessionCore)

/-- Rewriting an operation. -/
theorem outFrame_modifyOp (i : Nat) (f : Operation → Operation) : OutFrame s (s.modifyOp i f) :=
  ⟨rfl, rfl, fun _ => rfl, fun _ => rfl, rfl, rfl, rfl, rfl, rfl, rfl⟩

/-- Moving an operation on. -/
theorem outFrame_goto (i : Nat) (pc : OperationPc) : OutFrame s (s.goto i pc) :=
  outFrame_modifyOp s i _

section

variable (lane : TrafficClass)

/-- Counters other than `queued` and `bytes_queued` may change. -/
theorem outFrame_modifyLane
    {f : TrafficStats → TrafficStats} (queued : ∀ stats, (f stats).queued = stats.queued)
    (bytes : ∀ stats, (f stats).bytesQueued = stats.bytesQueued) :
    OutFrame s (s.modifyLane lane f) := by
  refine ⟨rfl, rfl, fun other => ?_, fun other => ?_, rfl, rfl, rfl, rfl, rfl, rfl⟩
  · by_cases same : other = lane
    · subst same
      simp [modifyLane, queued]
    · simp [modifyLane, same]
  · by_cases same : other = lane
    · subst same
      simp [modifyLane, bytes]
    · simp [modifyLane, same]

/-- An operation joins the gauge of its lane. -/
theorem outFrame_gainInflight : OutFrame s (s.gainInflight lane) :=
  outFrame_modifyLane s lane (fun _ => rfl) fun _ => rfl

/-- It leaves the gauge. -/
theorem outFrame_loseInflight : OutFrame s (s.loseInflight lane) :=
  outFrame_modifyLane s lane (fun _ => rfl) fun _ => rfl

/-- It counts as finished. -/
theorem outFrame_countFinished : OutFrame s (s.countFinished lane) :=
  outFrame_modifyLane s lane (fun _ => rfl) fun _ => rfl

/-- It counts as dropped. -/
theorem outFrame_countDropped : OutFrame s (s.countDropped lane) :=
  outFrame_modifyLane s lane (fun _ => rfl) fun _ => rfl

end

/-- An operation registers. -/
theorem outFrame_insertPending (table : PendingTable) (key : Bytes) (i : Nat) :
    OutFrame s (s.insertPending table key i) :=
  ⟨rfl, rfl, fun _ => rfl, fun _ => rfl, rfl, rfl, rfl, rfl, rfl, rfl⟩

/-- A registration is erased. -/
theorem outFrame_erasePending (table : PendingTable) (key : Bytes)
    (remover : Remover) : OutFrame s (s.erasePending table key remover) := by
  unfold erasePending
  cases (s.pending table).lookup key with
  | none => exact .refl s
  | some i => exact ⟨rfl, rfl, fun _ => rfl, fun _ => rfl, rfl, rfl, rfl, rfl, rfl, rfl⟩

/-- An operation erases its own registration. -/
theorem outFrame_eraseOwn (i : Nat) (op : Operation) : OutFrame s (s.eraseOwn i op) := by
  unfold eraseOwn
  cases op.table with
  | none => exact .refl s
  | some table => exact outFrame_erasePending s table _ _

/-- The operation of a registration is settled. -/
theorem outFrame_settlePending (table : PendingTable) (key : Bytes)
    (remover : Remover) (outcome : Operation → Outcome) :
    OutFrame s (s.settlePending table key remover outcome) := by
  unfold settlePending
  cases (s.pending table).lookup key with
  | none => exact .refl s
  | some i => exact (outFrame_erasePending s table key remover).trans (outFrame_modifyOp _ _ _)

/-- The operation behind a refused item fails. -/
theorem outFrame_failItemPending (item : OutItem) (error : Error) :
    OutFrame s (s.failItemPending item error) := by
  unfold failItemPending
  split_ifs
  · exact .refl s
  · cases s.findPending item.key with
    | none => exact .refl s
    | some found => exact outFrame_settlePending _ _ _ _ _

/-- `FailPending` goes through a table. -/
theorem outFrame_failTable (table : PendingTable) : OutFrame s (s.failTable table) := by
  unfold failTable
  generalize (s.pending table).keys = keys
  induction keys generalizing s with
  | nil => exact .refl s
  | cons key rest ih => exact (outFrame_settlePending s table key _ _).trans (ih _)

/-- The reader hands an answer over. -/
theorem outFrame_takePending (table : PendingTable) (key : Bytes)
    (answered : Option Nat) (frame : SessionFrame) :
    OutFrame s (s.takePending table key answered frame) := by
  unfold takePending
  cases (s.pending table).lookup key with
  | none => exact .refl s
  | some i =>
    have erased := outFrame_erasePending s table key (.reply answered)
    exact ⟨erased.options, erased.outQ, erased.queued, erased.bytesQueued, erased.outstanding,
      erased.settles, erased.writer, erased.outSealed, erased.dead, erased.killer⟩

/-- Reading an answer also strikes it off the answers that are due. -/
theorem outFrame_answered (unanswered : List Nat) (table : PendingTable)
    (key : Bytes) (answered : Option Nat) (frame : SessionFrame) :
    OutFrame s ({ s with unanswered }.takePending table key answered frame) := by
  have struck : OutFrame s { s with unanswered } :=
    ⟨rfl, rfl, fun _ => rfl, fun _ => rfl, rfl, rfl, rfl, rfl, rfl, rfl⟩
  exact struck.trans (outFrame_takePending _ table key answered frame)

/-- The operation of an item is committed. -/
theorem outFrame_markCommitted (item : OutItem) : OutFrame s (s.markCommitted item) := by
  unfold markCommitted
  split_ifs
  · exact .refl s
  · cases s.findPending item.key with
    | none => exact .refl s
    | some found => exact outFrame_modifyOp s _ _

/-- An item reaches its commit point. -/
theorem outFrame_commitItem (item : OutItem) : OutFrame s (s.commitItem item) := by
  have marked := outFrame_markCommitted s item
  unfold commitItem
  cases item.origin with
  | none => exact marked
  | some origin =>
    have handed := marked.trans (outFrame_modifyOp _ origin fun op => { op with handed := true })
    exact ⟨handed.options, handed.outQ, handed.queued, handed.bytesQueued, handed.outstanding,
      handed.settles, handed.writer, handed.outSealed, handed.dead, handed.killer⟩

/-- The inbound registrations change. -/
theorem outFrame_inbound (inbound : List Inbound) : OutFrame s { s with inbound } :=
  ⟨rfl, rfl, fun _ => rfl, fun _ => rfl, rfl, rfl, rfl, rfl, rfl, rfl⟩

/-- A registration, whatever it decides. -/
theorem outFrame_register (i : Nat) (op : Operation) : OutFrame s (s.register i op) := by
  rcases register_cases s i op with ⟨-, same⟩ | ⟨error, same⟩ | ⟨table, -, -, -, same⟩
  · rw [same]
    exact outFrame_goto s i _
  · rw [same]
    exact outFrame_goto s i _
  · rw [same]
    exact (outFrame_insertPending s table op.key i).trans (outFrame_goto _ i _)

end

/-! ## The outbound side -/

section

variable (s : SessionCore)

/-- The in-flight gauge of no lane changes. -/
theorem pendingFrame_modifyLane (lane : TrafficClass)
    {f : TrafficStats → TrafficStats} (inflight : ∀ stats, (f stats).inflight = stats.inflight) :
    PendingFrame s (s.modifyLane lane f) := by
  refine ⟨rfl, rfl, rfl, rfl, rfl, fun other => ?_, rfl, rfl, rfl, rfl⟩
  by_cases same : other = lane
  · subst same
    simp [modifyLane, inflight]
  · simp [modifyLane, same]

/-- An item goes to the end of its lane. -/
theorem pendingFrame_push (item : OutItem) : PendingFrame s (s.push item) := by
  have lane := pendingFrame_modifyLane s item.lane (f := fun stats =>
    { stats with queued := stats.queued + 1
                 bytesQueued := stats.bytesQueued + item.bytes.length }) fun _ => rfl
  exact ⟨rfl, rfl, rfl, rfl, rfl, lane.inflight, rfl, rfl, rfl, rfl⟩

/-- `Enqueue`, whether it admits the item or not. -/
theorem pendingFrame_enqueue (item : OutItem) : PendingFrame s (s.enqueue item) := by
  unfold enqueue
  cases s.enqueueGate item with
  | ok value => exact pendingFrame_push s item
  | error error =>
    dsimp only
    split_ifs
    · exact pendingFrame_modifyLane s _ fun _ => rfl
    · exact .refl s

/-- An item leaves its lane. -/
theorem pendingFrame_takeQueued (lane : TrafficClass) (item : OutItem)
    (rest : List OutItem) : PendingFrame s (s.takeQueued lane item rest) := by
  have counted := pendingFrame_modifyLane s lane (f := fun stats =>
    { stats with queued := stats.queued - 1
                 bytesQueued := stats.bytesQueued - item.bytes.length }) fun _ => rfl
  exact ⟨rfl, rfl, rfl, rfl, rfl, counted.inflight, rfl, rfl, rfl, rfl⟩

/-- `Dequeue` takes an item. -/
theorem pendingFrame_dequeued (lane : TrafficClass) (item : OutItem)
    (rest : List OutItem) (serviceCredit actorCredit : Nat) :
    PendingFrame s (s.dequeued lane item rest serviceCredit actorCredit) := by
  have taken := (pendingFrame_takeQueued s lane item rest).trans
    (pendingFrame_modifyLane _ lane (f := fun stats =>
      { stats with dequeued := stats.dequeued + 1 }) fun _ => rfl)
  exact ⟨rfl, rfl, rfl, rfl, rfl, taken.inflight, rfl, rfl, rfl, rfl⟩

/-- The credential of a reply is published. -/
theorem pendingFrame_publishSettle (item : OutItem)
    (outcome : Except Error Unit) : PendingFrame s (s.publishSettle item outcome) := by
  unfold publishSettle
  cases item.settle with
  | none => exact .refl s
  | some credential => exact ⟨rfl, rfl, rfl, rfl, rfl, fun _ => rfl, rfl, rfl, rfl, rfl⟩

/-- `Kill` discards the head of a lane. -/
theorem pendingFrame_discardHead (lane : TrafficClass) : PendingFrame s (s.discardHead lane) := by
  unfold discardHead
  cases s.outQ lane with
  | nil => exact .refl s
  | cons item rest =>
    have dropped := (pendingFrame_takeQueued s lane item rest).trans
      (pendingFrame_modifyLane _ lane (f := fun stats =>
        { stats with dropped := stats.dropped + 1 }) fun _ => rfl)
    have published := dropped.trans (pendingFrame_publishSettle _ item
      (.error (err .closed "session killed before reply write")))
    exact ⟨published.ops, published.pending, published.reader, published.unanswered,
      published.inbound, published.inflight, published.writer, published.outSealed,
      published.dead, published.killer⟩

/-- It discards the whole lane. -/
theorem pendingFrame_discardLane (lane : TrafficClass) : PendingFrame s (s.discardLane lane) := by
  unfold discardLane
  generalize s.outQ lane = items
  induction items generalizing s with
  | nil => exact .refl s
  | cons item rest ih => exact (pendingFrame_discardHead s lane).trans (ih _)

/-- The critical section of `Kill` under `out_mu`, but for its own progress. -/
theorem pendingFrame_sealOut :
    PendingFrame { s with outSealed := true, killer := .sealed } s.sealOut :=
  ((pendingFrame_discardLane _ .system).trans (pendingFrame_discardLane _ .service)).trans
    (pendingFrame_discardLane _ .actor)

/-- Discarding the head of a lane leaves the tail, and the other lanes. -/
theorem discardHead_outQ (lane other : TrafficClass) :
    (s.discardHead lane).outQ other = if other = lane then (s.outQ lane).tail else s.outQ other := by
  unfold discardHead
  cases queue : s.outQ lane with
  | nil =>
    split_ifs with same
    · rw [same, queue, List.tail_nil]
    · rfl
  | cons item rest =>
    have taken : Function.update s.outQ lane rest other =
        if other = lane then rest else s.outQ other := Function.update_apply _ _ _ _
    cases carried : item.settle with
    | none | some =>
      simp only [publishSettle, carried]
      exact taken

/-- The loop over one lane empties it and leaves the other lanes. -/
theorem discardLane_outQ (lane other : TrafficClass) :
    (s.discardLane lane).outQ other = if other = lane then [] else s.outQ other := by
  unfold discardLane
  generalize queue : s.outQ lane = items
  induction items generalizing s with
  | nil =>
    rw [List.foldl_nil]
    split_ifs with same
    · rw [same, queue]
    · rfl
  | cons item rest ih =>
    have tail : (s.discardHead lane).outQ lane = rest := by
      rw [discardHead_outQ, if_pos rfl, queue, List.tail_cons]
    rw [List.foldl_cons, ih _ tail]
    split_ifs with same
    · rfl
    · rw [discardHead_outQ, if_neg same]

/-- `Kill` empties every lane. -/
theorem sealOut_outQ (lane : TrafficClass) : s.sealOut.outQ lane = [] := by
  unfold sealOut
  rw [discardLane_outQ, discardLane_outQ, discardLane_outQ]
  cases lane <;> rfl

/-- The session posts a frame of its own. -/
theorem pendingFrame_post (lane : TrafficClass) (bytes : Bytes)
    (awaits : Option Awaits) : PendingFrame s (s.post lane bytes awaits) := by
  cases awaits with
  | none => exact pendingFrame_enqueue s _
  | some awaits =>
    have queued := pendingFrame_enqueue s
      { bytes, lane, settle := some s.settles.length : OutItem }
    exact ⟨queued.ops, queued.pending, queued.reader, queued.unanswered, queued.inbound,
      queued.inflight, queued.writer, queued.outSealed, queued.dead, queued.killer⟩

/-- A credential is rewritten. -/
theorem pendingFrame_modifySettle (credential : Nat) (f : Settle → Settle) :
    PendingFrame s (s.modifySettle credential f) :=
  ⟨rfl, rfl, rfl, rfl, rfl, fun _ => rfl, rfl, rfl, rfl, rfl⟩

end

/-- What the search by key finds stands in its table. -/
theorem findPending_lookup {key : Bytes} {table : PendingTable} {i : Nat}
    (looked : s.findPending key = some (table, i)) : (s.pending table).lookup key = some i := by
  unfold findPending at looked
  cases call : (s.pending .calls).lookup key with
  | some j =>
    rw [call] at looked
    cases looked
    exact call
  | none =>
    rw [call] at looked
    obtain ⟨j, send, same⟩ := Option.map_eq_some_iff.mp looked
    cases same
    exact send

/-! ## Items on their way -/

/-- An item that has not been handed to `conn.Write`: queued, or at the checkpoint. -/
def Unsent (s : SessionCore) (item : OutItem) : Prop :=
  (∃ lane, item ∈ s.outQ lane) ∨ s.writer = .holding item

/-- A step that leaves the queue and the writer alone puts no item on its way. -/
theorem OutFrame.unsent (frame : OutFrame s next) {item : OutItem} (unsent : next.Unsent item) :
    s.Unsent item := by
  unfold Unsent at unsent ⊢
  rw [frame.outQ, frame.writer] at unsent
  exact unsent

/-- A step that only moves the writer on leaves the queue. -/
theorem OutFrame.unsent_writer {middle : SessionCore} (frame : OutFrame s middle)
    {writer : WriterPc} {item : OutItem} (apart : writer ≠ .holding item)
    (unsent : Unsent { middle with writer } item) : s.Unsent item := by
  rcases unsent with ⟨lane, member⟩ | held
  · change item ∈ middle.outQ lane at member
    rw [frame.outQ] at member
    exact .inl ⟨lane, member⟩
  · exact absurd held apart

/-- `Enqueue` adds at most its own item. -/
theorem enqueue_unsent {item added : OutItem} (unsent : (s.enqueue added).Unsent item) :
    s.Unsent item ∨ item = added := by
  have frame := pendingFrame_enqueue s added
  rcases unsent with ⟨lane, member⟩ | held
  · have grown : item ∈ s.outQ lane ∨ item = added := by
      unfold enqueue at member
      cases gate : s.enqueueGate added with
      | ok value =>
        rw [gate] at member
        change item ∈ Function.update s.outQ added.lane (s.outQ added.lane ++ [added]) lane at member
        by_cases same : lane = added.lane
        · subst same
          rw [Function.update_self, List.mem_append, List.mem_singleton] at member
          exact member
        · rw [Function.update_of_ne same] at member
          exact .inl member
      | error error =>
        rw [gate] at member
        dsimp only at member
        split_ifs at member
        · exact .inl member
        · exact .inl member
    rcases grown with old | new
    · exact .inl (.inl ⟨lane, old⟩)
    · exact .inr new
  · rw [frame.writer] at held
    exact .inl (.inr held)

/-- An unsent item was unsent before, or a step of an operation has just enqueued it, or no
operation has. -/
theorem Move.unsent {protobuf : Protobuf} {label : SessionLabel} {item : OutItem}
    (move : Move protobuf s label next) (unsent : next.Unsent item) :
    s.Unsent item ∨ item.origin = none ∨
      ∃ i op, label = .enqueue i ∧ s.ops[i]? = some op ∧ op.pc = .counted ∧ item = itemOf i op := by
  cases move with
  | submit kind request budget =>
    obtain ⟨op, seqCounter, made, -⟩ := submit_spec protobuf s kind request budget
    rw [made] at unsent
    exact .inl unsent
  | register found pc => exact .inl ((outFrame_register s _ _).unsent unsent)
  | count found pc =>
    exact .inl (((outFrame_gainInflight s _).trans (outFrame_goto _ _ _)).unsent unsent)
  | @enqueue i op found pc =>
    have queued : (s.enqueue (itemOf i op)).Unsent item := by
      unfold enqueueOp at unsent
      cases gate : s.enqueueGate (itemOf i op) with
      | ok | error =>
        rw [gate] at unsent
        exact (outFrame_goto _ _ _).unsent unsent
    rcases enqueue_unsent queued with old | new
    · exact .inl old
    · exact .inr (.inr ⟨i, op, rfl, found, pc, new⟩)
  | unregister | expire =>
    exact .inl (((outFrame_eraseOwn s _ _).trans (outFrame_goto _ _ _)).unsent unsent)
  | uncount found pc =>
    exact .inl (((outFrame_loseInflight s _).trans (outFrame_goto _ _ _)).unsent unsent)
  | accepted | complete =>
    exact .inl ((((outFrame_loseInflight s _).trans (outFrame_countFinished _ _)).trans
      (outFrame_goto _ _ _)).unsent unsent)
  | leave found pc =>
    exact .inl ((((outFrame_loseInflight s _).trans (outFrame_countDropped _ _)).trans
      (outFrame_goto _ _ _)).unsent unsent)
  | stale free old => exact .inl ((outFrame_countDropped s _).unsent unsent)
  | response | sendAccepted => exact .inl ((outFrame_answered s _ _ _ _ _).unsent unsent)
  | publish | starve | kill | registerWait | endWait | passDeadline | returnReply | accept
  | finish =>
    exact .inl unsent
  | @dequeue lane first rest serviceCredit actorCredit idle queue =>
    refine .inl (.inl ?_)
    rcases unsent with ⟨other, member⟩ | held
    · change item ∈ Function.update s.outQ lane rest other at member
      by_cases same : other = lane
      · subst same
        rw [Function.update_self] at member
        exact ⟨other, by rw [queue]; exact List.mem_cons_of_mem _ member⟩
      · rw [Function.update_of_ne same] at member
        exact ⟨other, member⟩
    · cases held
      exact ⟨lane, by rw [queue]; exact List.mem_cons_self⟩
  | writerExit | gateFails | written | writeFails | writerKillLate =>
    exact .inl ((OutFrame.refl s).unsent_writer (fun same => by cases same) unsent)
  | commit writer =>
    exact .inl ((outFrame_commitItem s _).unsent_writer (fun same => by cases same) unsent)
  | failItem writer =>
    exact .inl ((outFrame_failItemPending s _ _).unsent_writer (fun same => by cases same) unsent)
  | @settle held outcome writer =>
    rcases unsent with ⟨lane, member⟩ | holding
    · have queue : (s.publishSettle held outcome).outQ = s.outQ := by
        unfold publishSettle
        cases held.settle <;> rfl
      rw [queue] at member
      exact .inl (.inl ⟨lane, member⟩)
    · cases holding
  | @countSettled failed writer =>
    rcases unsent with ⟨lane, member⟩ | holding
    · exact .inl (.inl ⟨lane, member⟩)
    · cases failed <;> cases holding
  | writerKill closing alive =>
    rcases unsent with ⟨lane, member⟩ | holding
    · exact .inl (.inl ⟨lane, member⟩)
    · cases holding
  | sealOut marked =>
    rcases unsent with ⟨lane, member⟩ | holding
    · rw [sealOut_outQ] at member
      cases member
    · rw [(pendingFrame_sealOut s).writer] at holding
      exact .inl (.inr holding)
  | failPending shut =>
    have both := (outFrame_failTable s .calls).trans (outFrame_failTable _ .sends)
    exact .inl (both.unsent unsent)
  | post lane bytes awaits =>
    cases awaits with
    | none =>
      rcases enqueue_unsent unsent with old | rfl
      · exact .inl old
      · exact .inr (.inl rfl)
    | some awaits =>
      rcases enqueue_unsent (s := s) unsent with old | rfl
      · exact .inl old
      · exact .inr (.inl rfl)
  | arrive lane =>
    exact .inl (((outFrame_gainInflight s lane).trans (outFrame_inbound _ _)).unsent unsent)
  | refuse found =>
    exact .inl ((((outFrame_countDropped s _).trans (outFrame_loseInflight _ _)).trans
      (outFrame_inbound _ _)).unsent unsent)

/-! ## The order of `Kill` -/

/-- `dead` and `out_sealed` tell how far `Kill` got. -/
structure KillOrder (s : SessionCore) : Prop where
  dead : s.dead = true ↔ s.killer ≠ .idle
  outSealed : s.outSealed = true ↔ s.killer = .sealed ∨ s.killer = .completed

/-- What one step can do to the progress of `Kill`. -/
inductive KillStep (s next : SessionCore) : Prop
  | stays : next.dead = s.dead → next.outSealed = s.outSealed → next.killer = s.killer →
    KillStep s next
  /-- Somebody wins the exchange on `dead`. -/
  | marks : s.dead = false → next.dead = true → next.outSealed = s.outSealed →
    next.killer = .marked → KillStep s next
  | seals : s.killer = .marked → next.dead = s.dead → next.outSealed = true →
    next.killer = .sealed → KillStep s next
  | completes : s.killer = .sealed → next.dead = s.dead → next.outSealed = s.outSealed →
    next.killer = .completed → KillStep s next

/-- `Kill` gets no further where the outgoing side is unchanged. -/
theorem OutFrame.killStep (frame : OutFrame s next) : KillStep s next :=
  .stays frame.dead frame.outSealed frame.killer

/-- Nor does it where the pending side is. -/
theorem PendingFrame.killStep (frame : PendingFrame s next) : KillStep s next :=
  .stays frame.dead frame.outSealed frame.killer

/-- Every move is such a step. -/
theorem Move.killStep {protobuf : Protobuf} {label : SessionLabel}
    (move : Move protobuf s label next) : KillStep s next := by
  cases move with
  | submit kind request budget =>
    obtain ⟨op, seqCounter, made, -⟩ := submit_spec protobuf s kind request budget
    rw [made]
    exact .stays rfl rfl rfl
  | register found pc => exact (outFrame_register s _ _).killStep
  | count found pc => exact ((outFrame_gainInflight s _).trans (outFrame_goto _ _ _)).killStep
  | @enqueue i op found pc =>
    have queued := pendingFrame_enqueue s (itemOf i op)
    unfold enqueueOp
    cases s.enqueueGate (itemOf i op) with
    | ok | error => exact .stays queued.dead queued.outSealed queued.killer
  | unregister | expire => exact ((outFrame_eraseOwn s _ _).trans (outFrame_goto _ _ _)).killStep
  | uncount found pc => exact ((outFrame_loseInflight s _).trans (outFrame_goto _ _ _)).killStep
  | accepted | complete =>
    exact (((outFrame_loseInflight s _).trans (outFrame_countFinished _ _)).trans
      (outFrame_goto _ _ _)).killStep
  | leave found pc =>
    exact (((outFrame_loseInflight s _).trans (outFrame_countDropped _ _)).trans
      (outFrame_goto _ _ _)).killStep
  | stale free old => exact (outFrame_countDropped s _).killStep
  | response | sendAccepted => exact (outFrame_answered s _ _ _ _ _).killStep
  | publish | starve | dequeue | writerExit | gateFails | written | writeFails | countSettled
  | writerKillLate =>
    exact .stays rfl rfl rfl
  | @commit item writer =>
    have marked := outFrame_commitItem s item
    exact .stays marked.dead marked.outSealed marked.killer
  | @failItem item error writer =>
    have failed := outFrame_failItemPending s item error
    exact .stays failed.dead failed.outSealed failed.killer
  | @settle item outcome writer =>
    have published := pendingFrame_publishSettle s item outcome
    exact .stays published.dead published.outSealed published.killer
  | writerKill closing alive => exact .marks alive rfl rfl rfl
  | kill alive => exact .marks alive rfl rfl rfl
  | sealOut marked =>
    have shut := pendingFrame_sealOut s
    exact .seals marked shut.dead shut.outSealed shut.killer
  | failPending shut =>
    have both := (outFrame_failTable s .calls).trans (outFrame_failTable _ .sends)
    exact .completes shut both.dead both.outSealed rfl
  | post lane bytes awaits => exact (pendingFrame_post s lane bytes awaits).killStep
  | registerWait | endWait | passDeadline | returnReply =>
    exact (pendingFrame_modifySettle s _ _).killStep
  | arrive lane => exact ((outFrame_gainInflight s lane).trans (outFrame_inbound _ _)).killStep
  | refuse found =>
    exact (((outFrame_countDropped s _).trans (outFrame_loseInflight _ _)).trans
      (outFrame_inbound _ _)).killStep
  | accept | finish => exact (outFrame_inbound s _).killStep

/-- Such a step keeps the order. -/
theorem KillOrder.step (order : s.KillOrder) (step : KillStep s next) : next.KillOrder := by
  cases step with
  | stays dead outSealed killer =>
    constructor
    · rw [dead, killer]
      exact order.dead
    · rw [outSealed, killer]
      exact order.outSealed
  | marks alive dead outSealed killer =>
    have idle : s.killer = .idle := by
      by_contra started
      have died := order.dead.mpr started
      exact absurd (died.symm.trans alive) (by decide)
    have unsealed : ¬s.outSealed = true := by
      rw [order.outSealed, idle]
      decide
    constructor
    · rw [dead, killer]
      decide
    · rw [outSealed, killer]
      simpa using unsealed
  | seals was dead outSealed killer =>
    have died : s.dead = true := order.dead.mpr (by rw [was]; decide)
    constructor
    · rw [dead, killer, died]
      decide
    · rw [outSealed, killer]
      decide
  | completes was dead outSealed killer =>
    have died : s.dead = true := order.dead.mpr (by rw [was]; decide)
    have shut : s.outSealed = true := order.outSealed.mpr (.inl was)
    constructor
    · rw [dead, killer, died]
      decide
    · rw [outSealed, killer, shut]
      decide

/-- A completed `Kill` stays completed. -/
theorem KillStep.completed (step : KillStep s next) (order : s.KillOrder)
    (reached : s.killer = .completed) : next.killer = .completed := by
  cases step with
  | stays dead outSealed killer => exact killer.trans reached
  | marks alive dead outSealed killer =>
    have died := order.dead.mpr (by rw [reached]; decide)
    exact absurd (died.symm.trans alive) (by decide)
  | seals was => exact absurd (was.symm.trans reached) (by decide)
  | completes was dead outSealed killer => exact killer

end SessionCore

end BbtInfra.Rpc
