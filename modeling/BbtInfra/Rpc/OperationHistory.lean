import BbtInfra.Rpc.SessionFrames

/-!
# What one step does to an operation

The guarantees about single operations follow one operation through a run. `Continues` is all
that a step can do to it: which step commits it, which step takes its entry and for whom.
-/
namespace BbtInfra.Rpc

open Lib

/-- Before `Enqueue`: no frame of the operation is anywhere. -/
def OperationPc.unsent : OperationPc → Bool
  | .begun | .registered | .counted => true
  | _ => false

/-- A response is the outcome of the operation, or what it returned. -/
def Operation.Holds (op : Operation) (response : Response) : Prop :=
  op.outcome = .ok (some response) ∨ op.pc = .completed (.ok (some response))

namespace SessionCore

/-- The step that takes the entry of an operation, and for whom. -/
inductive Cause (s : SessionCore) : SessionLabel → Nat → Remover → Prop
  | response {frame answered i} : frame.kind = .response →
    (s.pending .calls).lookup frame.requestId = some i →
    Cause s (.dispatch frame answered) i (.reply answered)
  | sendAccepted {frame answered i} : frame.kind = .sendAccepted →
    (s.pending .sends).lookup frame.messageId = some i →
    Cause s (.dispatch frame answered) i (.reply answered)
  | writeFailure {item error table i} : s.writer = .failing item error → item.key ≠ [] →
    s.findPending item.key = some (table, i) → Cause s .failItem i (.writeFailure item.origin)
  | kill {i} : Cause s .failPending i .kill
  | caller {label i} (operation) : Cause s label i (.caller operation)

/-- How an operation comes out of a step. -/
structure Continues (s : SessionCore) (label : SessionLabel) (i : Nat) (op later : Operation) :
    Prop where
  kind : later.kind = op.kind
  request : later.request = op.request
  unsent : later.pc.unsent = true → op.pc.unsent = true
  begun : later.pc.unsent = true → op.pc = .begun → later.pc = .begun ∨ label = .register i
  registered : later.registered = true → op.registered = true ∨ label = .register i
  committed : later.committed = op.committed ∨ label = .commit
  handed : later.handed = op.handed ∨ label = .commit
  kept : ∀ remover ∈ op.removals, remover ∈ later.removals
  removed : ∀ remover ∈ later.removals, remover ∈ op.removals ∨ Cause s label i remover
  /-- A response comes from the reader. -/
  earned : ∀ response, later.Holds response →
    op.Holds response ∨ s.reader = some (i, .ok (some response))

variable {s next : SessionCore} {label : SessionLabel} {i : Nat}

/-- An operation that nothing happens to. -/
theorem Continues.refl (op : Operation) : Continues s label i op op :=
  ⟨rfl, rfl, id, fun _ => .inl, .inl, .inl rfl, .inl rfl, fun _ => id, fun _ => .inl, fun _ => .inl⟩

/-- The changes of one step, one after another. -/
theorem Continues.trans {first second third : Operation} (one : Continues s label i first second)
    (two : Continues s label i second third) : Continues s label i first third where
  kind := two.kind.trans one.kind
  request := two.request.trans one.request
  unsent h := one.unsent (two.unsent h)
  begun unsent h := by
    rcases one.begun (two.unsent unsent) h with still | now
    · exact two.begun unsent still
    · exact .inr now
  registered h := by
    rcases two.registered h with earlier | now
    · exact one.registered earlier
    · exact .inr now
  committed := by
    rcases two.committed with same | now
    · rw [same]
      exact one.committed
    · exact .inr now
  handed := by
    rcases two.handed with same | now
    · rw [same]
      exact one.handed
    · exact .inr now
  kept remover member := two.kept remover (one.kept remover member)
  removed remover member := by
    rcases two.removed remover member with earlier | now
    · exact one.removed remover earlier
    · exact .inr now
  earned response held := by
    rcases two.earned response held with earlier | read
    · exact one.earned response earlier
    · exact .inr read

/-- The key of an operation stays. -/
theorem Continues.key {op later : Operation} (continues : Continues s label i op later) :
    later.key = op.key := by
  rw [Operation.key, Operation.key, continues.kind, continues.request]

/-- Every operation of a heap comes out of a step in the next heap, and no other does. -/
structure OpsContinue (s : SessionCore) (label : SessionLabel) (ops later : List Operation) :
    Prop where
  length : later.length = ops.length
  each : ∀ (i : Nat) (op : Operation), ops[i]? = some op →
    ∃ after, later[i]? = some after ∧ Continues s label i op after

/-- A heap that nothing happens to. -/
theorem OpsContinue.refl (ops : List Operation) : OpsContinue s label ops ops :=
  ⟨rfl, fun _ op found => ⟨op, found, .refl op⟩⟩

/-- An unchanged heap. -/
theorem OpsContinue.of_eq {ops later : List Operation} (same : later = ops) :
    OpsContinue s label ops later := by
  rw [same]
  exact .refl ops

/-- The changes of one step to the heap, one after another. -/
theorem OpsContinue.trans {first second third : List Operation}
    (one : OpsContinue s label first second) (two : OpsContinue s label second third) :
    OpsContinue s label first third := by
  constructor
  · exact two.length.trans one.length
  · intro i op found
    obtain ⟨middle, present, before⟩ := one.each i op found
    obtain ⟨after, last, behind⟩ := two.each i middle present
    exact ⟨after, last, before.trans behind⟩

/-- Rewriting one operation. -/
theorem OpsContinue.modify {ops : List Operation} {target : Nat} {f : Operation → Operation}
    (continues : ∀ op, ops[target]? = some op → Continues s label target op (f op)) :
    OpsContinue s label ops (ops.modify target f) := by
  constructor
  · exact List.length_modify f ops target
  · intro i op found
    by_cases same : target = i
    · subst same
      exact ⟨f op, by simp [found], continues op found⟩
    · exact ⟨op, by simpa [same] using found, .refl op⟩

/-- An operation moves on, not back before its `Enqueue`, and returns no response but its
outcome. -/
theorem continues_goto {op : Operation} {pc : OperationPc}
    (unsent : pc.unsent = true → op.pc.unsent = true)
    (begun : pc.unsent = true → op.pc = .begun → label = .register i)
    (returned : ∀ response, pc = .completed (.ok (some response)) → op.Holds response) :
    Continues s label i op { op with pc } := by
  refine ⟨rfl, rfl, unsent, (fun early was => .inr (begun early was)), .inl, .inl rfl, .inl rfl,
    fun _ => id, fun _ => .inl, ?_⟩
  rintro response (written | completed)
  · exact .inl (.inl written)
  · exact .inl (returned response completed)

/-- Its entry is taken. -/
theorem continues_removedBy {op : Operation} {remover : Remover} (cause : Cause s label i remover) :
    Continues s label i op (op.removedBy remover) := by
  refine ⟨rfl, rfl, id, fun _ => .inl, .inl, .inl rfl, .inl rfl, fun _ member => ?_,
    fun other member => ?_, fun _ => .inl⟩
  · exact List.mem_append_left _ member
  · rcases List.mem_append.mp member with earlier | now
    · exact .inl earlier
    · rw [List.mem_singleton.mp now]
      exact .inr cause

/-- Its outcome is written: an error, or what the reader has taken. -/
theorem continues_publish (op : Operation) {outcome : Outcome}
    (read : ∀ response, outcome = .ok (some response) →
      s.reader = some (i, .ok (some response))) :
    Continues s label i op (op.publish outcome) := by
  refine ⟨rfl, rfl, id, fun _ => .inl, .inl, .inl rfl, .inl rfl, fun _ => id, fun _ => .inl, ?_⟩
  rintro response (written | completed)
  · exact .inr (read response written)
  · exact .inl (.inr completed)

/-- An erasure in a state whose operations came from the start of the step. -/
theorem opsContinue_erase (middle : SessionCore) (table : PendingTable) (key : Bytes)
    (remover : Remover)
    (cause : ∀ i, (middle.pending table).lookup key = some i → Cause s label i remover) :
    OpsContinue s label middle.ops (middle.erasePending table key remover).ops := by
  unfold erasePending
  cases looked : (middle.pending table).lookup key with
  | none => exact .refl _
  | some i => exact .modify fun op _ => continues_removedBy (cause i looked)

/-- A settlement with an error. -/
theorem opsContinue_settle (middle : SessionCore) (table : PendingTable) (key : Bytes)
    (remover : Remover) (error : Operation → Error)
    (cause : ∀ i, (middle.pending table).lookup key = some i → Cause s label i remover) :
    OpsContinue s label middle.ops
      (middle.settlePending table key remover fun op => .error (error op)).ops := by
  have erased := opsContinue_erase middle table key remover cause
  unfold settlePending
  cases (middle.pending table).lookup key with
  | none => exact .refl _
  | some i =>
    apply erased.trans
    apply OpsContinue.modify
    intro op _
    apply continues_publish
    intro response same
    cases same

/-- An operation that erases its own registration. -/
theorem opsContinue_eraseOwn (i : Nat) (op : Operation) :
    OpsContinue s label s.ops (s.eraseOwn i op).ops := by
  unfold eraseOwn
  cases op.table with
  | none => exact .refl _
  | some table => exact opsContinue_erase s table op.key _ fun _ _ => .caller i

/-- `FailPending` going through a table. -/
theorem opsContinue_failTable (middle : SessionCore) (table : PendingTable) :
    OpsContinue s .failPending middle.ops (middle.failTable table).ops := by
  unfold failTable
  generalize (middle.pending table).keys = keys
  induction keys generalizing middle with
  | nil => exact .refl _
  | cons key rest ih =>
    have settled := opsContinue_settle (s := s) middle table key .kill
      (fun op => settledPendingError op.committed) fun _ _ => .kill
    exact settled.trans (ih _)

section

variable {pc : OperationPc} (middle : SessionCore) (i : Nat) (sent : pc.unsent = false)

include sent

/-- Past its `Enqueue`, no program counter is before it. -/
theorem opsContinue_goto (returned : ∀ op, middle.ops[i]? = some op →
      ∀ response, pc = .completed (.ok (some response)) → op.Holds response) :
    OpsContinue s label middle.ops (middle.goto i pc).ops := by
  apply OpsContinue.modify
  intro op found
  apply continues_goto
  · intro unsent
    exact absurd (unsent.symm.trans sent) (by decide)
  · intro unsent
    exact absurd (unsent.symm.trans sent) (by decide)
  · exact returned op found

/-- An operation that moves on without returning. -/
theorem opsContinue_proceed (going : ∀ outcome, pc ≠ .completed outcome) :
    OpsContinue s label middle.ops (middle.goto i pc).ops := by
  apply opsContinue_goto middle i sent
  intro op _ response same
  exact absurd same (going _)

end

/-- A registration: the entry is new, and the operation goes on. -/
theorem opsContinue_register {op : Operation} (found : s.ops[i]? = some op)
    (pc : op.pc = .begun) : OpsContinue s (.register i) s.ops (s.register i op).ops := by
  have unsent : op.pc.unsent = true := by
    rw [pc]
    rfl
  rcases register_cases s i op with ⟨-, same⟩ | ⟨error, same⟩ | ⟨table, -, -, -, same⟩
  · rw [same]
    apply OpsContinue.modify
    intro other present
    cases found.symm.trans present
    exact continues_goto (fun _ => unsent) (fun _ _ => rfl) fun _ same => by cases same
  · rw [same]
    exact opsContinue_proceed s i rfl fun _ same => by cases same
  · rw [same]
    have inserted : OpsContinue s (.register i) s.ops (s.insertPending table op.key i).ops := by
      apply OpsContinue.modify
      intro other _
      exact ⟨rfl, rfl, id, fun _ => .inl, fun _ => .inr rfl, .inl rfl, .inl rfl, fun _ => id,
        fun _ => .inl, fun _ => .inl⟩
    apply inserted.trans
    apply OpsContinue.modify
    intro other present
    have kept : other.pc = op.pc := by
      simp only [insertPending, SessionCore.modifyOp, List.getElem?_modify_eq, found] at present
      cases present
      rfl
    apply continues_goto
    · intro _
      rw [kept]
      exact unsent
    · intro _ _
      rfl
    · intro response same
      cases same

/-- `Enqueue` moves its operation on, whatever it decides. -/
theorem opsContinue_enqueueOp (i : Nat) (op : Operation) :
    OpsContinue s label s.ops (s.enqueueOp i op).ops := by
  have queued : OpsContinue s label s.ops (s.enqueue (itemOf i op)).ops :=
    .of_eq (pendingFrame_enqueue s (itemOf i op)).ops
  unfold enqueueOp
  cases s.enqueueGate (itemOf i op) with
  | ok value => exact queued.trans (opsContinue_proceed _ i rfl fun _ same => by cases same)
  | error error =>
    split_ifs
    · exact queued.trans (opsContinue_proceed _ i rfl fun _ same => by cases same)
    · exact queued.trans (opsContinue_proceed _ i rfl fun _ same => by cases same)

/-- Where an operation stands after it moved on. -/
theorem goto_pc {middle : SessionCore} {pc : OperationPc} {op : Operation}
    (found : (middle.goto i pc).ops[i]? = some op) : op.pc = pc := by
  rcases List.getElem?_modify_cases found with ⟨-, old, -, rfl⟩ | ⟨apart, -⟩
  · rfl
  · exact absurd rfl apart

/-- After its `Enqueue` an operation is past it. -/
theorem enqueueOp_sent {op after : Operation}
    (found : (s.enqueueOp i op).ops[i]? = some after) : after.pc.unsent = false := by
  unfold enqueueOp at found
  cases gate : s.enqueueGate (itemOf i op) with
  | ok value =>
    rw [gate] at found
    rw [goto_pc found]
    rfl
  | error error =>
    rw [gate] at found
    rw [goto_pc found]
    split_ifs
    · rfl
    · rfl

/-- The mark and the hand-over. -/
theorem opsContinue_commitItem (item : OutItem) :
    OpsContinue s .commit s.ops (s.commitItem item).ops := by
  have marked : OpsContinue s .commit s.ops (s.markCommitted item).ops := by
    unfold markCommitted
    split_ifs
    · exact .refl _
    · cases s.findPending item.key with
      | none => exact .refl _
      | some found =>
        apply OpsContinue.modify
        intro op _
        exact ⟨rfl, rfl, id, fun _ => .inl, .inl, .inr rfl, .inl rfl, fun _ => id, fun _ => .inl,
          fun _ => .inl⟩
  unfold commitItem
  cases item.origin with
  | none => exact marked
  | some origin =>
    apply marked.trans
    apply OpsContinue.modify
    intro op _
    exact ⟨rfl, rfl, id, fun _ => .inl, .inl, .inl rfl, .inr rfl, fun _ => id, fun _ => .inl,
      fun _ => .inl⟩

/-- A failed item settles the operation under its key. -/
theorem opsContinue_failItem {item : OutItem} {error : Error}
    (writer : s.writer = .failing item error) :
    OpsContinue s .failItem s.ops (s.failItemPending item error).ops := by
  unfold failItemPending
  split_ifs with named
  · exact .refl _
  · cases found : s.findPending item.key with
    | none => exact .refl _
    | some entry =>
      apply opsContinue_settle s entry.1 item.key _ fun _ => error
      intro i looked
      have same : entry.2 = i := Option.some.inj ((findPending_lookup found).symm.trans looked)
      subst same
      exact .writeFailure writer named found

/-- An answer takes the entry of its correlation field. -/
theorem opsContinue_takePending (middle : SessionCore) (table : PendingTable) (key : Bytes)
    (answered : Option Nat) (frame : SessionFrame)
    (cause : ∀ i, (middle.pending table).lookup key = some i →
      Cause s label i (.reply answered)) :
    OpsContinue s label middle.ops (middle.takePending table key answered frame).ops := by
  have erased := opsContinue_erase middle table key (.reply answered) cause
  unfold takePending
  cases (middle.pending table).lookup key with
  | none => exact .refl _
  | some i => exact erased

/-- A move continues every operation, or adds a fresh one. -/
theorem Move.continues {protobuf : Protobuf} (move : Move protobuf s label next) :
    OpsContinue s label s.ops next.ops ∨ ∃ op, next.ops = s.ops ++ [op] ∧ OperationFresh op := by
  cases move with
  | submit kind request budget =>
    obtain ⟨op, seqCounter, made, fresh⟩ := submit_spec protobuf s kind request budget
    rw [made]
    exact .inr ⟨op, rfl, fresh⟩
  | register found pc => exact .inl (opsContinue_register found pc)
  | @count i op found pc =>
    apply Or.inl
    apply OpsContinue.modify
    intro same present
    have kept : same = op := Option.some.inj (present.symm.trans found)
    apply continues_goto
    · intro _
      rw [kept, pc]
      rfl
    · intro _ begun
      rw [kept, pc] at begun
      cases begun
    · intro response returned
      cases returned
  | enqueue found pc => exact .inl (opsContinue_enqueueOp _ _)
  | unregister | expire =>
    exact .inl ((opsContinue_eraseOwn _ _).trans
      (opsContinue_proceed _ _ rfl fun _ same => by cases same))
  | @uncount i op error found pc =>
    exact .inl (opsContinue_proceed (s.loseInflight op.request.traffic) i rfl
      fun _ same => by cases same)
  | @accepted i op found pc plain =>
    apply Or.inl
    apply opsContinue_goto ((s.loseInflight op.request.traffic).countFinished op.request.traffic) i
    · rfl
    · intro same _ response returned
      cases returned
  | @complete i op found pc table done =>
    apply Or.inl
    apply opsContinue_goto ((s.loseInflight op.request.traffic).countFinished op.request.traffic) i
    · rfl
    · intro same present response returned
      have kept : same = op := Option.some.inj (present.symm.trans found)
      rw [kept]
      exact .inl (OperationPc.completed.inj returned)
  | @leave i op cancelled committed error found pc =>
    exact .inl (opsContinue_proceed
      ((s.loseInflight op.request.traffic).countDropped op.request.traffic) i rfl
      fun _ same => by cases same)
  | stale free old => exact .inl (.refl _)
  | @response frame answered free kind =>
    exact .inl (opsContinue_takePending
      { s with unanswered := s.unanswered.filter fun i => some i ≠ answered } .calls
      frame.requestId answered frame fun i looked => .response kind looked)
  | @sendAccepted frame answered free kind =>
    exact .inl (opsContinue_takePending
      { s with unanswered := s.unanswered.filter fun i => some i ≠ answered } .sends
      frame.messageId answered frame fun i looked => .sendAccepted kind looked)
  | publish reading =>
    apply Or.inl
    apply OpsContinue.modify
    intro op _
    apply continues_publish
    intro response same
    rw [reading, same]
  | commit writer => exact .inl (opsContinue_commitItem _)
  | failItem writer => exact .inl (opsContinue_failItem writer)
  | @settle item outcome writer =>
    exact .inl (.of_eq (pendingFrame_publishSettle s item outcome).ops)
  | sealOut marked => exact .inl (.of_eq (pendingFrame_sealOut s).ops)
  | failPending shut =>
    exact .inl ((opsContinue_failTable s .calls).trans (opsContinue_failTable _ .sends))
  | post lane bytes awaits => exact .inl (.of_eq (pendingFrame_post s lane bytes awaits).ops)
  | _ => exact .inl (.refl _)

variable {protobuf : Protobuf} {op : Operation}

/-- What becomes of an operation. -/
theorem Move.later (move : Move protobuf s label next) (found : s.ops[i]? = some op) :
    ∃ after, next.ops[i]? = some after ∧ Continues s label i op after := by
  rcases move.continues with continues | ⟨created, grown, -⟩
  · exact continues.each i op found
  · rw [grown]
    exact ⟨op, List.getElem?_push_old found, .refl op⟩

/-- Where an operation comes from. -/
theorem Move.earlier (move : Move protobuf s label next) (found : next.ops[i]? = some op) :
    (∃ before, s.ops[i]? = some before ∧ Continues s label i before op) ∨
      i = s.ops.length ∧ OperationFresh op := by
  rcases move.continues with continues | ⟨created, grown, fresh⟩
  · have bound := (List.getElem?_eq_some_iff.mp found).1
    rw [continues.length] at bound
    have present : s.ops[i]? = some s.ops[i] := List.getElem?_eq_getElem bound
    obtain ⟨after, last, continuing⟩ := continues.each i _ present
    cases found.symm.trans last
    exact .inl ⟨_, present, continuing⟩
  · rw [grown] at found
    rcases List.getElem?_push_cases found with ⟨last, rfl⟩ | old
    · exact .inr ⟨last, fresh⟩
    · exact .inl ⟨op, old, .refl op⟩

/-! ## Frames on their way -/

section

variable (s : SessionCore) (table : PendingTable)

/-- Erasing a registration leaves the frames on their way alone. -/
theorem erasePending_unanswered (key : Bytes)
    (remover : Remover) : (s.erasePending table key remover).unanswered = s.unanswered := by
  unfold erasePending
  cases (s.pending table).lookup key <;> rfl

/-- Settling its operation does too. -/
theorem settlePending_unanswered (key : Bytes) (remover : Remover) (outcome : Operation → Outcome) :
    (s.settlePending table key remover outcome).unanswered = s.unanswered := by
  have erased := erasePending_unanswered s table key remover
  unfold settlePending
  cases (s.pending table).lookup key with
  | none => rfl
  | some i => exact erased

/-- So does `FailPending`. -/
theorem failTable_unanswered : (s.failTable table).unanswered = s.unanswered := by
  unfold failTable
  generalize (s.pending table).keys = keys
  induction keys generalizing s with
  | nil => rfl
  | cons key rest ih => exact (ih _).trans (settlePending_unanswered s table key _ _)

end

/-- So does an operation that erases its own registration. -/
theorem eraseOwn_unanswered (s : SessionCore) (i : Nat) (op : Operation) :
    (s.eraseOwn i op).unanswered = s.unanswered := by
  unfold eraseOwn
  cases op.table with
  | none => rfl
  | some table => exact erasePending_unanswered s table op.key _

/-- So does the reader when it hands an answer over. -/
theorem takePending_unanswered (s : SessionCore) (table : PendingTable) (key : Bytes)
    (answered : Option Nat) (frame : SessionFrame) :
    (s.takePending table key answered frame).unanswered = s.unanswered := by
  unfold takePending
  cases (s.pending table).lookup key with
  | none => rfl
  | some i => exact erasePending_unanswered s table key _

/-- An answer is due for an operation from the hand-over of its frame on. -/
theorem commitItem_unanswered {item : OutItem} (due : i ∈ (s.commitItem item).unanswered) :
    i ∈ s.unanswered ∨ item.origin = some i := by
  have marked : (s.markCommitted item).unanswered = s.unanswered := by
    unfold markCommitted
    split_ifs
    · rfl
    · cases s.findPending item.key <;> rfl
  unfold commitItem at due
  cases origin : item.origin with
  | none =>
    rw [origin] at due
    exact .inl (marked ▸ due)
  | some j =>
    rw [origin] at due
    rcases List.mem_append.mp due with old | new
    · exact .inl old
    · exact .inr (congrArg some (List.mem_singleton.mp new).symm)

/-- Only a hand-over makes an answer due. -/
theorem Move.unanswered (move : Move protobuf s label next) (due : i ∈ next.unanswered) :
    i ∈ s.unanswered ∨ ∃ item, s.writer = .holding item ∧ item.origin = some i := by
  cases move with
  | submit kind request budget =>
    obtain ⟨op, seqCounter, made, -⟩ := submit_spec protobuf s kind request budget
    rw [made] at due
    exact .inl due
  | @register i op found pc =>
    rcases register_cases s i op with ⟨-, same⟩ | ⟨error, same⟩ | ⟨table, -, -, -, same⟩
    · rw [same] at due
      exact .inl due
    · rw [same] at due
      exact .inl due
    · rw [same] at due
      exact .inl due
  | @enqueue i op found pc =>
    have same : (s.enqueueOp i op).unanswered = s.unanswered := by
      have queued := (pendingFrame_enqueue s (itemOf i op)).unanswered
      unfold enqueueOp
      cases s.enqueueGate (itemOf i op) with
      | ok | error => exact queued
    exact .inl (same ▸ due)
  | @unregister i op error found pc =>
    change _ ∈ (s.eraseOwn i op).unanswered at due
    rw [eraseOwn_unanswered] at due
    exact .inl due
  | @expire i op cancelled found pc table =>
    change _ ∈ (s.eraseOwn i op).unanswered at due
    rw [eraseOwn_unanswered] at due
    exact .inl due
  | response | sendAccepted =>
    rw [takePending_unanswered] at due
    exact .inl (List.mem_filter.mp due).1
  | @commit item writer =>
    rcases commitItem_unanswered due with old | new
    · exact .inl old
    · exact .inr ⟨item, writer, new⟩
  | @failItem item error writer =>
    have same : (s.failItemPending item error).unanswered = s.unanswered := by
      unfold failItemPending
      split_ifs
      · rfl
      · cases s.findPending item.key with
        | none => rfl
        | some entry => exact settlePending_unanswered s _ _ _ _
    exact .inl (same ▸ due)
  | @settle item outcome writer =>
    rw [show _ = s.unanswered from (pendingFrame_publishSettle s item outcome).unanswered] at due
    exact .inl due
  | sealOut marked =>
    rw [(pendingFrame_sealOut s).unanswered] at due
    exact .inl due
  | failPending shut =>
    have same : s.failPending.unanswered = s.unanswered :=
      (failTable_unanswered _ .sends).trans (failTable_unanswered s .calls)
    exact .inl (same ▸ due)
  | post lane bytes awaits =>
    rw [(pendingFrame_post s lane bytes awaits).unanswered] at due
    exact .inl due
  | _ => exact .inl due

/-- Frames on their way are those of operations past their `Enqueue`. -/
structure Origins (s : SessionCore) : Prop where
  items : ∀ item i, s.Unsent item → item.origin = some i →
    ∃ op, s.ops[i]? = some op ∧ op.key = item.key ∧ op.pc.unsent = false
  unanswered : ∀ i ∈ s.unanswered, ∃ op, s.ops[i]? = some op ∧ op.pc.unsent = false

/-- Past its `Enqueue` an operation stays past it. -/
theorem Move.sent (move : Move protobuf s label next) (found : s.ops[i]? = some op)
    (sent : op.pc.unsent = false) :
    ∃ after, next.ops[i]? = some after ∧ after.key = op.key ∧ after.pc.unsent = false := by
  obtain ⟨after, present, continues⟩ := move.later found
  refine ⟨after, present, continues.key, ?_⟩
  rw [← Bool.not_eq_true]
  intro early
  exact absurd ((continues.unsent early).symm.trans sent) (by decide)

/-- Every move keeps the origins. -/
theorem Origins.move (origins : s.Origins) (move : Move protobuf s label next) : next.Origins := by
  constructor
  · intro item i unsent origin
    rcases move.unsent unsent with old | stranger | ⟨j, op, rfl, found, _, rfl⟩
    · obtain ⟨op, found, key, sent⟩ := origins.items item i old origin
      obtain ⟨after, present, same, later⟩ := move.sent found sent
      exact ⟨after, present, same.trans key, later⟩
    · rw [stranger] at origin
      cases origin
    · -- The operation has just enqueued the item.
      cases origin
      obtain ⟨after, present, continues⟩ := move.later found
      refine ⟨after, present, continues.key, ?_⟩
      cases move with
      | @enqueue _ same stood _ =>
        exact enqueueOp_sent present
  · intro i due
    have known : ∃ op, s.ops[i]? = some op ∧ op.pc.unsent = false := by
      rcases move.unanswered due with old | ⟨item, writer, origin⟩
      · exact origins.unanswered i old
      · obtain ⟨op, found, -, sent⟩ := origins.items item i (.inr writer) origin
        exact ⟨op, found, sent⟩
    obtain ⟨op, found, sent⟩ := known
    obtain ⟨after, present, -, later⟩ := move.sent found sent
    exact ⟨after, present, later⟩

/-- In every reachable state a frame on its way comes from an operation that sent it. -/
theorem reachable_origins {options : ClientOptions} {epoch : UInt64}
    (reachable : (machine protobuf options epoch).Reachable s) : s.Origins := by
  apply reachable_invariant Origins ?_ ?_ reachable
  · constructor
    · rintro item i (⟨lane, member⟩ | held) _
      · cases member
      · cases held
    · intro i due
      cases due
  · intro s label next origins move
    exact origins.move move

end SessionCore

end BbtInfra.Rpc
