import BbtInfra.Rpc.FrameProto
import BbtInfra.Rpc.SessionFrames

/-!
# The settlement of outbound operations

Four parties take entries out of the two pending tables: the reader, the writer after a failure,
`Kill`, and the operation itself. The ledger says that an entry stands in its table exactly until
one of them has taken it, and that only the party that took it writes its outcome.
-/
namespace BbtInfra.Rpc

open Lib Operation List Option

/-- An operation past the section that erases its own entry, or past its outcome. -/
def OperationPc.ended : OperationPc → Bool
  | .uncounting _ | .leaving _ _ | .completed _ | .failed _ => true
  | .begun | .registered | .counted | .unregistering _ | .waiting => false

namespace Operation

/-- What holds of one operation at any time. -/
structure Sound (op : Operation) : Prop where
  /-- Its entry is taken at most once. -/
  once : op.removals.length ≤ 1
  /-- The outcome is written at most once, and only behind a removal. -/
  written : op.writes ≤ op.removals.length
  done : op.done = true ↔ op.writes = 1
  unregistered : op.registered = false → op.removals = [] ∧ op.committed = false
  begun : op.pc = .begun → op.registered = false ∧ op.key ≠ []
  /-- By the time it returns its entry is taken. -/
  ended : op.registered = true → op.pc.ended = true → op.removals ≠ []
  /-- What it returns is the outcome that was written. -/
  completed : ∀ outcome, op.pc = .completed outcome → op.registered = true →
    op.writes = 1 ∧ op.outcome = outcome
  named : op.registered = true → op.key ≠ [] ∧ op.table ≠ none

/-- A new operation is sound. -/
theorem Sound.of_fresh {op : Operation} (fresh : SessionCore.OperationFresh op) : op.Sound where
  once := by simp [fresh.removals]
  written := by simp [fresh.removals, fresh.writes]
  done := by simp [fresh.done, fresh.writes]
  unregistered _ := ⟨fresh.removals, fresh.committed⟩
  begun begun := ⟨fresh.registered, fresh.key begun⟩
  ended registered := by simp [fresh.registered] at registered
  completed outcome returned := by
    rcases fresh.pc with begun | ⟨error, failed⟩
    · rw [begun] at returned
      cases returned
    · rw [failed] at returned
      cases returned
  named registered := by simp [fresh.registered] at registered

end Operation

namespace SessionCore

/-- The tables and the operations agree. -/
structure PendingLedger (s : SessionCore) : Prop where
  /-- An entry belongs to the operation that registered it, and nobody has taken it. -/
  entry : ∀ table key i, (s.pending table).lookup key = some i →
    ∃ op, s.ops[i]? = some op ∧ op.table = some table ∧ op.key = key ∧ op.registered = true ∧
      op.removals = []
  /-- A registered operation whose entry nobody took stands in its table. -/
  listed : ∀ (i : Nat) (op : Operation), s.ops[i]? = some op → op.registered = true →
    op.removals = [] → ∃ table, op.table = some table ∧ (s.pending table).lookup op.key = some i
  sound : ∀ (i : Nat) (op : Operation), s.ops[i]? = some op → op.Sound
  /-- What the reader has taken it has not written yet. -/
  reading : ∀ (i : Nat) (outcome : Outcome), s.reader = some (i, outcome) →
    ∃ op, s.ops[i]? = some op ∧ (∃ answered, .reply answered ∈ op.removals) ∧ op.writes = 0
  /-- After `Kill` both tables are empty. -/
  closed : s.killer = .completed → ∀ table key, (s.pending table).lookup key = none

variable {s next : SessionCore} {i : Nat} {op : Operation}

section

variable (ledger : s.PendingLedger)

include ledger

/-- The ledger reads operations, tables, the reader and the progress of `Kill`. -/
theorem PendingLedger.congr (ops : next.ops = s.ops)
    (pending : next.pending = s.pending) (reader : next.reader = s.reader)
    (killer : next.killer = s.killer) : next.PendingLedger where
  entry := by
    rw [ops, pending]
    exact ledger.entry
  listed := by
    rw [ops, pending]
    exact ledger.listed
  sound := by
    rw [ops]
    exact ledger.sound
  reading := by
    rw [ops, reader]
    exact ledger.reading
  closed := by
    rw [killer, pending]
    exact ledger.closed

/-- A step that leaves the pending side alone keeps the ledger. -/
theorem PendingLedger.frame (frame : PendingFrame s next) : next.PendingLedger :=
  ledger.congr frame.ops frame.pending frame.reader frame.killer

/-- A new operation joins with nothing registered. -/
theorem PendingLedger.submit {seqCounter : Nat}
    (fresh : OperationFresh op) : PendingLedger { s with ops := s.ops ++ [op], seqCounter } where
  entry table key i found := by
    obtain ⟨old, present, rest⟩ := ledger.entry table key i found
    exact ⟨old, getElem?_push_old present, rest⟩
  listed i other present registered untaken := by
    rcases getElem?_push_cases present with ⟨-, rfl⟩ | old
    · simp [fresh.registered] at registered
    · exact ledger.listed i other old registered untaken
  sound i other present := by
    rcases getElem?_push_cases present with ⟨-, rfl⟩ | old
    · exact .of_fresh fresh
    · exact ledger.sound i other old
  reading i outcome reader := by
    obtain ⟨old, present, rest⟩ := ledger.reading i outcome reader
    exact ⟨old, getElem?_push_old present, rest⟩
  closed := ledger.closed

/-- An operation moves on without touching its entry or its outcome. -/
theorem PendingLedger.modifyOp {f : Operation → Operation}
    (found : s.ops[i]? = some op) (sound : (f op).Sound) (kind : (f op).kind = op.kind)
    (request : (f op).request = op.request) (registered : (f op).registered = op.registered)
    (removals : (f op).removals = op.removals) (writes : (f op).writes = op.writes) :
    (s.modifyOp i f).PendingLedger where
  entry table key j stands := by
    obtain ⟨old, present, tabled, keyed, rest⟩ := ledger.entry table key j stands
    by_cases same : j = i
    · subst same
      cases found.symm.trans present
      refine ⟨f op, ?_, ?_, ?_, ?_, ?_⟩
      · simp [SessionCore.modifyOp, found]
      · rw [Operation.table, kind]
        exact tabled
      · rw [Operation.key, kind, request]
        exact keyed
      · rw [registered]
        exact rest.1
      · rw [removals]
        exact rest.2
    · refine ⟨old, ?_, tabled, keyed, rest⟩
      simpa [SessionCore.modifyOp, getElem?_modify, Ne.symm same] using present
  listed j other present stands untaken := by
    rcases getElem?_modify_cases present with ⟨rfl, old, was, rfl⟩ | ⟨-, old⟩
    · cases found.symm.trans was
      obtain ⟨table, tabled, looked⟩ :=
        ledger.listed j op found (registered.symm.trans stands) (removals.symm.trans untaken)
      refine ⟨table, ?_, ?_⟩
      · rw [Operation.table, kind]
        exact tabled
      · rw [Operation.key, kind, request]
        exact looked
    · exact ledger.listed j other old stands untaken
  sound j other present := by
    rcases getElem?_modify_cases present with ⟨rfl, old, was, rfl⟩ | ⟨-, old⟩
    · cases found.symm.trans was
      exact sound
    · exact ledger.sound j other old
  reading j outcome reader := by
    obtain ⟨old, present, taken, unwritten⟩ := ledger.reading j outcome reader
    by_cases same : j = i
    · subst same
      cases found.symm.trans present
      refine ⟨f op, by simp [SessionCore.modifyOp, found], ?_, writes.trans unwritten⟩
      rw [removals]
      exact taken
    · refine ⟨old, ?_, taken, unwritten⟩
      simpa [SessionCore.modifyOp, getElem?_modify, Ne.symm same] using present
  closed := ledger.closed

end

variable {pc : OperationPc} {protobuf : Protobuf}

section

variable (ledger : s.PendingLedger) (found : s.ops[i]? = some op)

include ledger found

/-- An operation goes on to a program counter that fits what happened to its entry. -/
theorem PendingLedger.goto
    (later : pc ≠ .begun) (ended : op.registered = true → pc.ended = true → op.removals ≠ [])
    (completed : ∀ outcome, pc = .completed outcome → op.registered = true →
      op.writes = 1 ∧ op.outcome = outcome) : (s.goto i pc).PendingLedger := by
  have sound := ledger.sound i op found
  apply ledger.modifyOp found ?_ rfl rfl rfl rfl rfl
  exact ⟨sound.once, sound.written, sound.done, sound.unregistered,
    (fun begun => absurd begun later), ended, completed, sound.named⟩

/-- An operation goes on without coming to its end. -/
theorem PendingLedger.proceed
    (later : pc ≠ .begun) (going : pc.ended = false) : (s.goto i pc).PendingLedger := by
  apply ledger.goto found later
  · intro _ ended
    exact absurd (ended.symm.trans going) (by decide)
  · intro outcome returned
    rw [returned] at going
    cases going

/-- Registration puts a new operation into its table. -/
theorem PendingLedger.insert
    (begun : op.pc = .begun) {table : PendingTable} (tabled : op.table = some table)
    (absent : (s.pending table).lookup op.key = none) (alive : s.killer ≠ .completed) :
    ((s.insertPending table op.key i).goto i .registered).PendingLedger := by
  have sound := ledger.sound i op found
  have fresh := sound.begun begun
  have untaken := (sound.unregistered fresh.1).1
  have present : ∀ j, ((s.insertPending table op.key i).goto i .registered).ops[j]? =
      if j = i then some { op with registered := true, pc := .registered } else s.ops[j]? := by
    intro j
    by_cases same : j = i
    · subst same
      simp [SessionCore.goto, SessionCore.modifyOp, insertPending, found]
    · simp [SessionCore.goto, SessionCore.modifyOp, insertPending, same, Ne.symm same]
  have looked : ∀ other key, (((s.insertPending table op.key i).goto i .registered).pending
      other).lookup key = if other = table ∧ key = op.key then some i
        else (s.pending other).lookup key := by
    intro other key
    change (Function.update s.pending table ((s.pending table).insert op.key i) other).lookup key = _
    by_cases same : other = table
    · subst same
      rw [Function.update_self]
      by_cases here : key = op.key
      · subst here
        simp
      · rw [AList.lookup_insert_ne here, if_neg (by simp [here])]
    · rw [Function.update_of_ne same, if_neg (by simp [same])]
  refine ⟨?_, ?_, ?_, ?_, fun reached => absurd reached alive⟩
  · intro other key j stands
    rw [looked] at stands
    split_ifs at stands with here
    · cases stands
      exact ⟨_, (present i).trans (if_pos rfl), here.1 ▸ tabled, here.2.symm, rfl, untaken⟩
    · obtain ⟨old, was, rest⟩ := ledger.entry other key j stands
      have apart : j ≠ i := by
        rintro rfl
        cases found.symm.trans was
        exact absurd (rest.2.2.1.symm.trans fresh.1) (by decide)
      exact ⟨old, by rw [present, if_neg apart, was], rest⟩
  · intro j other stands registered taken
    rw [present] at stands
    split_ifs at stands with same
    · cases stands
      subst same
      exact ⟨table, tabled, by rw [looked]; exact if_pos ⟨rfl, rfl⟩⟩
    · obtain ⟨home, homed, was⟩ := ledger.listed j other stands registered taken
      refine ⟨home, homed, ?_⟩
      rw [looked]
      split_ifs with here
      · rw [here.1, here.2, absent] at was
        cases was
      · exact was
  · intro j other stands
    rw [present] at stands
    split_ifs at stands with same
    · cases stands
      exact ⟨sound.once, sound.written, sound.done, (fun no => by cases no), (fun no => by cases no),
        (fun _ no => by cases no), (fun _ no => by cases no), fun _ => ⟨fresh.2, fun none => by cases tabled.symm.trans none⟩⟩
    · exact ledger.sound j other stands
  · intro j outcome reader
    obtain ⟨old, was, rest⟩ := ledger.reading j outcome reader
    have apart : j ≠ i := by
      rintro rfl
      cases found.symm.trans was
      obtain ⟨⟨answered, member⟩, -⟩ := rest
      rw [untaken] at member
      cases member
    exact ⟨old, by rw [present, if_neg apart, was], rest⟩

end

/-! ## Removals -/

section

variable (s : SessionCore) (table : PendingTable) (key : Bytes) (remover : Remover)

/-- The tables after an erasure. -/
theorem erasePending_lookup (other : PendingTable) (probe : Bytes) :
    ((s.erasePending table key remover).pending other).lookup probe =
      if other = table ∧ probe = key then none else (s.pending other).lookup probe := by
  unfold erasePending
  cases stands : (s.pending table).lookup key with
  | none =>
    split_ifs with here
    · rw [here.1, here.2, stands]
    · rfl
  | some i =>
    change (Function.update s.pending table ((s.pending table).erase key) other).lookup probe = _
    by_cases same : other = table
    · subst same
      rw [Function.update_self]
      by_cases here : probe = key
      · subst here
        simp
      · rw [AList.lookup_erase_ne here, if_neg (by simp [here])]
    · rw [Function.update_of_ne same, if_neg (by simp [same])]

/-- The operations after an erasure: the one whose entry it was is taken. -/
theorem erasePending_ops (j : Nat) : (s.erasePending table key remover).ops[j]? =
      if (s.pending table).lookup key = some j then (s.ops[j]?).map (removedBy remover)
      else s.ops[j]? := by
  unfold erasePending
  cases (s.pending table).lookup key with
  | none => simp
  | some i =>
    by_cases same : i = j
    · simp [SessionCore.modifyOp, same]
    · simp [SessionCore.modifyOp, same]

/-- An erasure is not the reader's business. -/
theorem erasePending_reader : (s.erasePending table key remover).reader = s.reader := by
  unfold erasePending
  cases (s.pending table).lookup key <;> rfl

end

/-- An erasure takes the entry it finds. -/
theorem PendingLedger.erase (ledger : s.PendingLedger) (table : PendingTable) (key : Bytes)
    (remover : Remover) : (s.erasePending table key remover).PendingLedger := by
  have frame := outFrame_erasePending s table key remover
  refine ⟨?_, ?_, ?_, ?_, ?_⟩
  · intro other probe j stands
    rw [erasePending_lookup] at stands
    split_ifs at stands with here
    obtain ⟨old, present, tabled, keyed, rest⟩ := ledger.entry other probe j stands
    refine ⟨old, ?_, tabled, keyed, rest⟩
    rw [erasePending_ops, if_neg, present]
    intro taken
    obtain ⟨same, found, tabled', keyed', -⟩ := ledger.entry table key j taken
    cases present.symm.trans found
    exact here ⟨some.inj (tabled.symm.trans tabled'), keyed.symm.trans keyed'⟩
  · intro j other present registered untaken
    rw [erasePending_ops] at present
    split_ifs at present with taken
    · obtain ⟨old, _, rfl⟩ := map_eq_some_iff.mp present
      simp [removedBy] at untaken
    · obtain ⟨home, homed, looked⟩ := ledger.listed j other present registered untaken
      refine ⟨home, homed, ?_⟩
      rw [erasePending_lookup, if_neg]
      · exact looked
      · rintro ⟨rfl, rfl⟩
        exact taken looked
  · intro j other present
    rw [erasePending_ops] at present
    split_ifs at present with taken
    · obtain ⟨old, was, rfl⟩ := map_eq_some_iff.mp present
      obtain ⟨same, found, -, -, registered, untaken⟩ := ledger.entry table key j taken
      cases was.symm.trans found
      have sound := ledger.sound j old was
      have unwritten : old.writes = 0 := by
        have behind := sound.written
        rw [untaken, length_nil] at behind
        omega
      refine ⟨by simp [removedBy, untaken], ?_, sound.done, ?_, sound.begun, ?_,
        sound.completed, sound.named⟩
      · simp [removedBy, unwritten]
      · intro unregistered
        exact absurd (registered.symm.trans unregistered) (by decide)
      · intro _ _
        simp [removedBy]
    · exact ledger.sound j other present
  · intro j outcome reading
    rw [erasePending_reader] at reading
    obtain ⟨old, present, taken, unwritten⟩ := ledger.reading j outcome reading
    rw [erasePending_ops]
    split_ifs
    · obtain ⟨answered, member⟩ := taken
      exact ⟨old.removedBy remover, by rw [present]; rfl,
        ⟨answered, mem_append_left _ member⟩, unwritten⟩
    · exact ⟨old, present, taken, unwritten⟩
  · intro reached other probe
    rw [frame.killer] at reached
    rw [erasePending_lookup]
    split_ifs
    · rfl
    · exact ledger.closed reached other probe

/-- After an operation erased under its own key, its entry is taken, by itself or earlier. -/
theorem PendingLedger.eraseOwn_taken (ledger : s.PendingLedger) (found : s.ops[i]? = some op)
    (registered : op.registered = true) :
    ∃ later, (s.eraseOwn i op).ops[i]? = some later ∧ later.removals ≠ [] ∧
      later.registered = true ∧ later.key = op.key ∧ later.kind = op.kind := by
  by_cases untaken : op.removals = []
  · obtain ⟨table, tabled, looked⟩ := ledger.listed i op found registered untaken
    refine ⟨op.removedBy (.caller i), ?_, by simp [removedBy], registered, rfl, rfl⟩
    simp only [eraseOwn, tabled]
    rw [erasePending_ops, if_pos looked, found]
    rfl
  · cases tabled : op.table with
    | none => exact ⟨op, by simp [eraseOwn, tabled, found], untaken, registered, rfl, rfl⟩
    | some table =>
      have later := erasePending_ops s table op.key (.caller i) i
      simp only [eraseOwn, tabled]
      rw [found] at later
      split_ifs at later
      · exact ⟨_, later, by simp [removedBy], registered, rfl, rfl⟩
      · exact ⟨op, later, untaken, registered, rfl, rfl⟩

/-! ## Outcomes -/

/-- The party that took an entry writes its outcome. -/
theorem PendingLedger.publish (ledger : s.PendingLedger) (found : s.ops[i]? = some op)
    (taken : op.removals ≠ []) (unwritten : op.writes = 0) (outcome : Outcome)
    (free : ∀ other, s.reader ≠ some (i, other)) :
    (s.modifyOp i (Operation.publish outcome)).PendingLedger := by
  have present : ∀ j, (s.modifyOp i (Operation.publish outcome)).ops[j]? =
      if j = i then some (op.publish outcome) else s.ops[j]? := by
    intro j
    by_cases same : j = i
    · subst same
      simp [SessionCore.modifyOp, found]
    · simp [SessionCore.modifyOp, same, Ne.symm same]
  refine ⟨?_, ?_, ?_, ?_, ledger.closed⟩
  · intro table key j stands
    obtain ⟨old, was, rest⟩ := ledger.entry table key j stands
    have apart : j ≠ i := by
      rintro rfl
      cases found.symm.trans was
      exact taken rest.2.2.2
    exact ⟨old, by rw [present, if_neg apart, was], rest⟩
  · intro j other stands registered untaken
    rw [present] at stands
    split_ifs at stands with same
    · cases stands
      exact absurd untaken taken
    · exact ledger.listed j other stands registered untaken
  · intro j other stands
    rw [present] at stands
    split_ifs at stands with same
    · cases stands
      have sound := ledger.sound i op found
      refine ⟨sound.once, ?_, ?_, sound.unregistered, sound.begun, sound.ended, ?_, sound.named⟩
      · have some : 0 < op.removals.length := length_pos_of_ne_nil taken
        simp only [Operation.publish, unwritten]
        omega
      · simp [Operation.publish, unwritten]
      · intro result returned registered
        have wrote := (sound.completed result returned registered).1
        omega
    · exact ledger.sound j other stands
  · intro j result reading
    obtain ⟨old, was, rest⟩ := ledger.reading j result reading
    have apart : j ≠ i := by
      rintro rfl
      exact free result reading
    exact ⟨old, by rw [present, if_neg apart, was], rest⟩

/-- An entry that is erased with its outcome written in the same section. -/
theorem PendingLedger.settle (ledger : s.PendingLedger) (table : PendingTable) (key : Bytes)
    (remover : Remover) (outcome : Operation → Outcome) :
    (s.settlePending table key remover outcome).PendingLedger := by
  unfold settlePending
  cases looked : (s.pending table).lookup key with
  | none => exact ledger
  | some i =>
    obtain ⟨op, found, -, -, _, untaken⟩ := ledger.entry table key i looked
    have erased := ledger.erase table key remover
    have present : (s.erasePending table key remover).ops[i]? = some (op.removedBy remover) := by
      rw [erasePending_ops, if_pos looked, found]
      rfl
    have unwritten : op.writes = 0 := by
      have behind := (ledger.sound i op found).written
      rw [untaken, length_nil] at behind
      omega
    have same : (s.erasePending table key remover).modifyOp i (fun op => op.publish (outcome op)) =
        (s.erasePending table key remover).modifyOp i
          (Operation.publish (outcome (op.removedBy remover))) := by
      unfold SessionCore.modifyOp
      congr 1
      apply ext_getElem?
      intro j
      rw [getElem?_modify, getElem?_modify]
      by_cases here : i = j
      · subst here
        rw [present]
        rfl
      · simp [here]
    dsimp only
    rw [same]
    apply erased.publish present (by simp [Operation.removedBy]) unwritten
    intro other reading
    rw [erasePending_reader] at reading
    obtain ⟨old, was, taken, -⟩ := ledger.reading i other reading
    cases found.symm.trans was
    obtain ⟨answered, member⟩ := taken
    rw [untaken] at member
    cases member

/-- The tables after an entry was settled. -/
theorem settlePending_lookup (s : SessionCore) (table : PendingTable) (key : Bytes)
    (remover : Remover) (outcome : Operation → Outcome) (other : PendingTable) (probe : Bytes) :
    ((s.settlePending table key remover outcome).pending other).lookup probe =
      if other = table ∧ probe = key then none else (s.pending other).lookup probe := by
  unfold settlePending
  cases looked : (s.pending table).lookup key with
  | none =>
    split_ifs with here
    · rw [here.1, here.2, looked]
    · rfl
  | some i => exact erasePending_lookup s table key remover other probe

/-- One loop of `FailPending` keeps the ledger and empties its table. -/
theorem PendingLedger.failTable (ledger : s.PendingLedger) (table : PendingTable) :
    (s.failTable table).PendingLedger ∧ ∀ other key,
      ((s.failTable table).pending other).lookup key =
        if other = table then none else (s.pending other).lookup key := by
  have loop : ∀ (keys : List Bytes) (s : SessionCore), s.PendingLedger →
      (keys.foldl (fun s key => s.settlePending table key .kill fun op =>
        .error (settledPendingError op.committed)) s).PendingLedger ∧ ∀ other key,
        ((keys.foldl (fun s key => s.settlePending table key .kill fun op =>
          .error (settledPendingError op.committed)) s).pending other).lookup key =
            if other = table ∧ key ∈ keys then none else (s.pending other).lookup key := by
    intro keys
    induction keys with
    | nil =>
      intro s ledger
      exact ⟨ledger, fun other key => by simp⟩
    | cons first rest ih =>
      intro s ledger
      obtain ⟨kept, looked⟩ := ih _ (ledger.settle table first .kill fun op =>
        .error (settledPendingError op.committed))
      refine ⟨kept, fun other key => ?_⟩
      rw [foldl_cons, looked, settlePending_lookup]
      split_ifs <;> simp_all
  obtain ⟨kept, looked⟩ := loop (s.pending table).keys s ledger
  refine ⟨kept, fun other key => ?_⟩
  unfold SessionCore.failTable
  rw [looked]
  by_cases same : other = table
  · subst same
    rw [if_pos rfl]
    split_ifs with member
    · rfl
    · rw [AList.lookup_eq_none, AList.mem_keys]
      simpa using member
  · simp [same]

/-! ## Runs -/

section

variable (ledger : s.PendingLedger)

include ledger

/-- The reader takes the entry of a frame, and has its outcome in hand. -/
theorem PendingLedger.take (table : PendingTable) (key : Bytes)
    (answered : Option Nat) (frame : SessionFrame) :
    (s.takePending table key answered frame).PendingLedger := by
  unfold takePending
  cases looked : (s.pending table).lookup key with
  | none => exact ledger
  | some i =>
    have erased := ledger.erase table key (.reply answered)
    refine ⟨erased.entry, erased.listed, erased.sound, ?_, erased.closed⟩
    intro j outcome reading
    obtain ⟨op, found, taken⟩ := map_eq_some_iff.mp reading
    cases taken
    obtain ⟨same, present, -, -, -, untaken⟩ := ledger.entry table key i looked
    cases found.symm.trans present
    refine ⟨op.removedBy (.reply answered), ?_, ⟨answered, by simp [removedBy]⟩, ?_⟩
    · change (s.erasePending table key (.reply answered)).ops[i]? = _
      rw [erasePending_ops, if_pos looked, found]
      rfl
    · have behind := (ledger.sound i op found).written
      rw [untaken, length_nil] at behind
      exact Nat.le_zero.mp behind

/-- The owner of an entry that a key finds. -/
theorem PendingLedger.found {key : Bytes} {table : PendingTable}
    (looked : s.findPending key = some (table, i)) :
    (s.pending table).lookup key = some i ∧ ∃ op, s.ops[i]? = some op ∧ op.table = some table ∧
      op.key = key ∧ op.registered = true ∧ op.removals = [] := by
  have stands := findPending_lookup looked
  exact ⟨stands, ledger.entry table key i stands⟩

/-- The commit marks an entry and hands the bytes over. -/
theorem PendingLedger.commit (item : OutItem) : (s.commitItem item).PendingLedger := by
  have marked : (s.markCommitted item).PendingLedger := by
    unfold markCommitted
    split_ifs
    · exact ledger
    · cases looked : s.findPending item.key with
      | none => exact ledger
      | some found =>
        obtain ⟨table, i⟩ := found
        obtain ⟨-, op, present, -, -, registered, -⟩ := ledger.found looked
        have sound := ledger.sound i op present
        apply ledger.modifyOp present ?_ rfl rfl rfl rfl rfl
        exact ⟨sound.once, sound.written, sound.done,
          (fun no => absurd (registered.symm.trans no) (by decide)), sound.begun, sound.ended,
          sound.completed, sound.named⟩
  unfold commitItem
  cases item.origin with
  | none => exact marked
  | some origin =>
    cases found : (s.markCommitted item).ops[origin]? with
    | none =>
      have same : ((s.markCommitted item).modifyOp origin fun op =>
          { op with handed := true }).ops = (s.markCommitted item).ops :=
        modify_eq_self (getElem?_eq_none_iff.mp found)
      exact marked.congr same rfl rfl rfl
    | some op =>
      have sound := marked.sound origin op found
      have handed := marked.modifyOp (f := fun op => { op with handed := true }) found
        ⟨sound.once, sound.written, sound.done, sound.unregistered, sound.begun, sound.ended,
          sound.completed, sound.named⟩ rfl rfl rfl rfl rfl
      exact handed.congr rfl rfl rfl rfl

/-- Whatever a registration decides. -/
theorem PendingLedger.register (order : s.KillOrder)
    (found : s.ops[i]? = some op) (begun : op.pc = .begun) : (s.register i op).PendingLedger := by
  have fresh := (ledger.sound i op found).begun begun
  have refused : ∀ error, (s.goto i (.failed error)).PendingLedger := by
    intro error
    apply ledger.goto found (fun same => by cases same)
    · intro registered
      exact absurd (registered.symm.trans fresh.1) (by decide)
    · intro outcome returned
      cases returned
  rcases register_cases s i op with ⟨-, same⟩ | ⟨error, same⟩ | ⟨table, tabled, died, absent, same⟩
  · rw [same]
    exact ledger.proceed found (by decide) rfl
  · rw [same]
    exact refused error
  · rw [same]
    apply ledger.insert found begun tabled absent
    intro completed
    have dead : s.dead = true := order.dead.mpr (by rw [completed]; decide)
    exact absurd (dead.symm.trans died) (by decide)

/-- An operation that erased its own entry goes on. -/
theorem PendingLedger.eraseOwn (found : s.ops[i]? = some op)
    (later : pc ≠ .begun) (unfinished : ∀ outcome, pc ≠ .completed outcome) :
    ((s.eraseOwn i op).goto i pc).PendingLedger := by
  have erased : (s.eraseOwn i op).PendingLedger := by
    unfold SessionCore.eraseOwn
    cases op.table with
    | none => exact ledger
    | some table => exact ledger.erase table op.key (.caller i)
  cases present : (s.eraseOwn i op).ops[i]? with
  | none =>
    have same : ((s.eraseOwn i op).goto i pc).ops = (s.eraseOwn i op).ops :=
      modify_eq_self (getElem?_eq_none_iff.mp present)
    exact erased.congr same rfl rfl rfl
  | some after =>
    apply erased.goto present later
    · intro registered _
      -- The erasure changes removals only, so the operation was registered before.
      have was : op.registered = true := by
        unfold SessionCore.eraseOwn at present
        cases tabled : op.table with
        | none =>
          rw [tabled] at present
          cases found.symm.trans present
          exact registered
        | some table =>
          rw [tabled] at present
          rw [erasePending_ops, found] at present
          split_ifs at present
          · cases present
            exact registered
          · cases present
            exact registered
      obtain ⟨other, same, taken, -⟩ := ledger.eraseOwn_taken found was
      rw [present] at same
      cases same
      exact taken
    · intro outcome returned
      exact absurd returned (unfinished outcome)

/-- Every move keeps the ledger. -/
theorem PendingLedger.move {label : SessionLabel}
    (order : s.KillOrder) (move : Move protobuf s label next) : next.PendingLedger := by
  cases move with
  | submit kind request budget =>
    obtain ⟨op, seqCounter, made, fresh⟩ := submit_spec protobuf s kind request budget
    rw [made]
    exact ledger.submit fresh
  | register found pc => exact ledger.register order found pc
  | @count i op found pc =>
    have gained : (s.gainInflight op.request.traffic).PendingLedger := ledger.congr rfl rfl rfl rfl
    exact gained.proceed found (by decide) rfl
  | @enqueue i op found pc =>
    have queued := ledger.frame (pendingFrame_enqueue s (itemOf i op))
    have present : (s.enqueue (itemOf i op)).ops[i]? = some op :=
      (congrArg (·[i]?) (pendingFrame_enqueue s (itemOf i op)).ops).trans found
    unfold enqueueOp
    cases s.enqueueGate (itemOf i op) with
    | ok value => exact queued.proceed present (by decide) rfl
    | error error =>
      split_ifs with tabled
      · exact queued.proceed present (fun same => by cases same) rfl
      · apply queued.goto present (fun same => by cases same)
        · intro registered
          have table := ((ledger.sound i op found).named registered).2
          rw [not_isSome_iff_eq_none] at tabled
          exact absurd tabled table
        · intro outcome returned
          cases returned
  | unregister found pc | expire found pc table =>
    exact ledger.eraseOwn found (fun same => by cases same) fun outcome same => by cases same
  | @uncount i op error found pc =>
    have lost : (s.loseInflight op.request.traffic).PendingLedger := ledger.congr rfl rfl rfl rfl
    apply lost.goto found (fun same => by cases same)
    · intro registered _
      exact (ledger.sound i op found).ended registered (by rw [pc]; rfl)
    · intro outcome returned
      cases returned
  | @accepted i op found pc plain =>
    have lost : ((s.loseInflight op.request.traffic).countFinished
        op.request.traffic).PendingLedger := ledger.congr rfl rfl rfl rfl
    have unregistered : ¬op.registered = true := fun registered =>
      ((ledger.sound i op found).named registered).2 plain
    apply lost.goto found (fun same => by cases same)
    · intro registered
      exact absurd registered unregistered
    · intro outcome _ registered
      exact absurd registered unregistered
  | @complete i op found pc table done =>
    have sound := ledger.sound i op found
    have wrote : op.writes = 1 := sound.done.mp done
    have lost : ((s.loseInflight op.request.traffic).countFinished
        op.request.traffic).PendingLedger := ledger.congr rfl rfl rfl rfl
    apply lost.goto found (fun same => by cases same)
    · intro _ _ untaken
      have behind := sound.written
      rw [untaken, length_nil] at behind
      omega
    · intro outcome returned _
      cases returned
      exact ⟨wrote, rfl⟩
  | @leave i op cancelled committed error found pc =>
    have lost : ((s.loseInflight op.request.traffic).countDropped
        op.request.traffic).PendingLedger := ledger.congr rfl rfl rfl rfl
    apply lost.goto found (fun same => by cases same)
    · intro registered _
      exact (ledger.sound i op found).ended registered (by rw [pc]; rfl)
    · intro outcome returned
      cases returned
  | stale | starve | writerExit | gateFails | written | writeFails | countSettled
  | writerKillLate | registerWait | endWait | passDeadline | returnReply | arrive | refuse
  | accept | finish | dequeue =>
    exact ledger.congr rfl rfl rfl rfl
  | @response frame answered free kind =>
    have struck : PendingLedger { s with
        unanswered := s.unanswered.filter fun i => some i ≠ answered } :=
      ledger.congr rfl rfl rfl rfl
    exact struck.take .calls frame.requestId answered frame
  | @sendAccepted frame answered free kind =>
    have struck : PendingLedger { s with
        unanswered := s.unanswered.filter fun i => some i ≠ answered } :=
      ledger.congr rfl rfl rfl rfl
    exact struck.take .sends frame.messageId answered frame
  | @publish i outcome reading =>
    obtain ⟨op, found, taken, unwritten⟩ := ledger.reading i outcome reading
    have idle : PendingLedger { s with reader := none } :=
      ⟨ledger.entry, ledger.listed, ledger.sound, (fun j other no => by cases no), ledger.closed⟩
    obtain ⟨answered, member⟩ := taken
    have published := idle.publish found (ne_nil_of_mem member) unwritten outcome
      fun other no => by cases no
    exact published.congr rfl rfl rfl rfl
  | @commit item writer => exact (ledger.commit item).congr rfl rfl rfl rfl
  | @failItem item error writer =>
    have failed : (s.failItemPending item error).PendingLedger := by
      unfold failItemPending
      split_ifs
      · exact ledger
      · cases s.findPending item.key with
        | none => exact ledger
        | some found => exact ledger.settle _ _ _ _
    exact failed.congr rfl rfl rfl rfl
  | @settle item outcome writer =>
    have published := ledger.frame (pendingFrame_publishSettle s item outcome)
    exact published.congr rfl rfl rfl rfl
  | writerKill closing alive | kill alive =>
    exact ⟨ledger.entry, ledger.listed, ledger.sound, ledger.reading, fun reached => by cases reached⟩
  | sealOut marked =>
    have shut : PendingLedger { s with outSealed := true, killer := .sealed } :=
      ⟨ledger.entry, ledger.listed, ledger.sound, ledger.reading, fun reached => by cases reached⟩
    exact shut.frame (pendingFrame_sealOut s)
  | failPending shut =>
    obtain ⟨first, callsEmpty⟩ := ledger.failTable .calls
    obtain ⟨second, sendsEmpty⟩ := first.failTable .sends
    refine ⟨second.entry, second.listed, second.sound, second.reading, fun _ table key => ?_⟩
    change (((s.failTable .calls).failTable .sends).pending table).lookup key = none
    rw [sendsEmpty, callsEmpty]
    cases table <;> rfl
  | post lane bytes awaits => exact ledger.frame (pendingFrame_post s lane bytes awaits)

end

/-- The ledger and the order of `Kill` hold in every reachable state. -/
theorem reachable_pendingLedger {options : ClientOptions} {epoch : UInt64}
    (reachable : (machine protobuf options epoch).Reachable s) : s.PendingLedger ∧ s.KillOrder := by
  apply reachable_invariant (fun s => s.PendingLedger ∧ s.KillOrder) ?_ ?_ reachable
  · refine ⟨⟨?_, ?_, ?_, ?_, ?_⟩, by simp, by simp⟩
    · intro table key i found
      cases found
    · intro i op found
      cases found
    · intro i op found
      cases found
    · intro i outcome reading
      cases reading
    · intro reached
      cases reached
  · intro s label next held move
    exact ⟨held.1.move held.2 move, held.2.step move.killStep⟩

/-- A completed `Kill` stays completed for ever. -/
theorem completed_forever {options : ClientOptions} {epoch : UInt64}
    {labels : List SessionLabel} (order : s.KillOrder) (reached : s.killer = .completed)
    (ran : (machine protobuf options epoch).exec s labels = some next) :
    next.killer = .completed := by
  induction labels generalizing s with
  | nil =>
    cases ran
    exact reached
  | cons label rest ih =>
    obtain ⟨middle, stepped, later⟩ := bind_eq_some_iff.mp ran
    have step := (step_move stepped).killStep
    exact ih (order.step step) (step.completed order reached) later

/-- How the pending operations of a session are settled. -/
structure SettledOnce (s : SessionCore) : Prop where
  /-- A registered entry stands in its table until somebody takes it. -/
  standing : ∀ (i : Nat) (op : Operation), s.ops[i]? = some op → op.registered = true →
    (op.removals = [] ↔ ∃ table, op.table = some table ∧ (s.pending table).lookup op.key = some i)
  /-- It is taken at most once, and its outcome is written at most once. -/
  once : ∀ (i : Nat) (op : Operation), s.ops[i]? = some op → op.registered = true →
    op.removals.length ≤ 1 ∧ op.writes ≤ 1
  /-- By the time the caller returns it is taken, exactly once. -/
  returned : ∀ (i : Nat) (op : Operation), s.ops[i]? = some op → op.registered = true →
    ((∃ outcome, op.pc = .completed outcome) ∨ ∃ error, op.pc = .failed error) →
    op.removals.length = 1
  /-- A caller that reads the outcome reads what was written, once. -/
  read : ∀ (i : Nat) (op : Operation) (outcome : Outcome), s.ops[i]? = some op →
    op.registered = true → op.pc = .completed outcome → op.writes = 1 ∧ op.outcome = outcome
  /-- After `Kill` every entry is taken, exactly once, and both tables are empty. -/
  killed : s.killer = .completed → (∀ table, s.pending table = ∅) ∧
    ∀ (i : Nat) (op : Operation), s.ops[i]? = some op → op.registered = true →
      op.removals.length = 1

/-- Under the ledger no operation is settled twice. -/
theorem PendingLedger.settledOnce (ledger : s.PendingLedger) : s.SettledOnce := by
  have exact_once : ∀ (i : Nat) (op : Operation), s.ops[i]? = some op → op.removals ≠ [] →
      op.removals.length = 1 := by
    intro i op found taken
    have most := (ledger.sound i op found).once
    have least : 0 < op.removals.length := length_pos_of_ne_nil taken
    omega
  refine ⟨?_, ?_, ?_, ?_, ?_⟩
  · intro i op found registered
    constructor
    · exact ledger.listed i op found registered
    · intro stands
      obtain ⟨table, -, looked⟩ := stands
      obtain ⟨same, present, -, -, -, untaken⟩ := ledger.entry table op.key i looked
      cases found.symm.trans present
      exact untaken
  · intro i op found _
    have sound := ledger.sound i op found
    exact ⟨sound.once, Nat.le_trans sound.written sound.once⟩
  · intro i op found registered returned
    apply exact_once i op found
    apply (ledger.sound i op found).ended registered
    rcases returned with ⟨outcome, pc⟩ | ⟨error, pc⟩
    · rw [pc]
      rfl
    · rw [pc]
      rfl
  · intro i op outcome found registered pc
    exact (ledger.sound i op found).completed outcome pc registered
  · intro reached
    have empty := ledger.closed reached
    constructor
    · intro table
      apply AList.ext
      apply eq_nil_iff_forall_not_mem.mpr
      intro entry member
      have looked := AList.lookup_eq_some_iff.mpr member
      rw [empty table entry.1] at looked
      cases looked
    · intro i op found registered
      apply exact_once i op found
      intro untaken
      obtain ⟨table, -, looked⟩ := ledger.listed i op found registered untaken
      rw [empty table op.key] at looked
      cases looked

/-- In every reachable state of a session, every registered operation is taken out of its table
at most once, and exactly once by the time its caller returns; its outcome is written at most
once, before its caller reads it; and from the end of `Kill` on both tables are empty. -/
theorem settled_exactly_once {protobuf : Protobuf} {options : ClientOptions} {epoch : UInt64}
    (reachable : (machine protobuf options epoch).Reachable s) :
    s.SettledOnce ∧ (s.killer = .completed → ∀ labels next,
      (machine protobuf options epoch).exec s labels = some next →
        next.killer = .completed ∧ ∀ table, next.pending table = ∅) := by
  obtain ⟨ledger, order⟩ := reachable_pendingLedger reachable
  refine ⟨ledger.settledOnce, fun reached labels next ran => ?_⟩
  have later := completed_forever order reached ran
  obtain ⟨before, run⟩ := reachable
  have nextReachable : (machine protobuf options epoch).Reachable next :=
    ⟨before ++ labels, run.append_exec ran⟩
  exact ⟨later, ((reachable_pendingLedger nextReachable).1.settledOnce.killed later).1⟩

/-- A request that a call can carry, under a given id. -/
def plainCall (requestId : Bytes) : Request where
  service := text "s"
  method := text "m"
  requestId := requestId
  requestSchema := text "a"
  responseSchema := text "b"
  reply := .required

/-- A call whose frame is queued when the session is killed, and that returns afterwards. -/
def killedCall : List SessionLabel :=
  [.submit .call (plainCall []) 1000, .register 0, .count 0, .enqueue 0, .kill, .sealOut,
    .failPending, .complete 0]

/-- A call that `Kill` settles is taken once and returns what `Kill` wrote. -/
theorem settled_exactly_once_killed_call :
    ∃ s : SessionCore, (decide (s.killer = .completed) && s.ops.any fun op => op.registered) = true ∧
      s.SettledOnce := by
  obtain ⟨s, reachable, ended⟩ := Machine.exists_reachable
    (m := machine Pb.runtime { localIdentity := text "a" } 1) killedCall
    (fun s => decide (s.killer = .completed) && s.ops.any fun op => op.registered) rfl
    (by decide +kernel)
  exact ⟨s, ended, (settled_exactly_once reachable).1⟩

end SessionCore

end BbtInfra.Rpc
