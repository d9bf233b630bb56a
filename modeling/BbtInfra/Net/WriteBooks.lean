import BbtInfra.Net.WriteState

/-!
# The books of the writes

Every record is counted, the active ones are named by `m_ops` in the order of acceptance, and
the terminal ones are reported once. The loops along `m_ops` work on the first active record:
what they do to it is said once, and carried along the list.
-/
namespace BbtInfra.Net

open Lib WriteSide List

namespace AcceptedWrite

/-- The bytes of a write that were sent. -/
def sentBytes (op : AcceptedWrite) : Bytes := op.data.take op.sent

/-- The bytes of a write that were not. -/
def unsentBytes (op : AcceptedWrite) : Bytes := op.data.drop op.sent

/-- What is reported of a settled write. -/
def completed (op : AcceptedWrite) : CompletedWrite := ⟨op.id, op.sent, op.error⟩

/-- The counters of a record. -/
structure Balanced (op : AcceptedWrite) : Prop where
  total : op.total = op.data.length
  active : op.terminal = false → op.sent + op.remaining = op.total ∧ 0 < op.remaining
  settled : op.terminal = true →
    op.sent ≤ op.total ∧ (op.error.failed = false ↔ op.sent = op.total)

end AcceptedWrite

namespace WriteSide

/-- The records of the active writes. -/
def active (s : WriteSide) : List AcceptedWrite := s.records.filter fun op => !op.terminal

/-- The sent bytes of all writes, in the order of acceptance. -/
def sentBytes (s : WriteSide) : Bytes := s.records.flatMap AcceptedWrite.sentBytes

/-- The unsent bytes of the active writes. -/
def unsentBytes (s : WriteSide) : Bytes := s.active.flatMap AcceptedWrite.unsentBytes

/-- The completions reported, and those to report. -/
def completions (s : WriteSide) : List CompletedWrite := s.popped ++ s.pendingTerminal

/-- The records, the active list and the completions agree. -/
structure Booked (s : WriteSide) : Prop where
  ids : (s.records.map (·.id)).Pairwise (· < ·)
  fresh : ∀ op ∈ s.records, op.id < s.nextOp
  ops : s.ops = s.active.map (·.id)
  balanced : ∀ op ∈ s.records, op.Balanced
  late : s.records.Pairwise fun earlier later => earlier.terminal = false → later.sent = 0
  completed : s.completions.Perm
    ((s.records.filter (·.terminal)).map AcceptedWrite.completed)
  limited : s.ops.length + s.pendingTerminal.length ≤ s.maxOps

/-- The first active record among the others. -/
structure Front (s : WriteSide) (op : AcceptedWrite) (before after : List AcceptedWrite) :
    Prop where
  records : s.records = before ++ op :: after
  active : op.terminal = false
  settled : ∀ other ∈ before, other.terminal = true
  apart : ∀ other ∈ before ++ after, other.id ≠ op.id
  untouched : ∀ other ∈ after, other.sent = 0

variable {s : WriteSide} {id : Nat} {later : List Nat} {op : AcceptedWrite}
  {before after : List AcceptedWrite}

/-- The first id of `m_ops` is the id of the first active record. -/
theorem Booked.front (booked : s.Booked) (first : s.ops = id :: later) :
    ∃ op before after, s.Front op before after ∧ op.id = id ∧
      later = (after.filter fun op => !op.terminal).map (·.id) := by
  have named := booked.ops.symm.trans first
  rw [active, map_eq_cons_iff] at named
  obtain ⟨op, rest, split, rfl, rfl⟩ := named
  obtain ⟨before, after, records, settled, unfinished, tail⟩ := filter_eq_cons_iff.mp split
  have ids := booked.ids
  have late := booked.late
  rw [records, map_append, map_cons, pairwise_append, pairwise_cons] at ids
  rw [records, pairwise_append, pairwise_cons] at late
  have active : op.terminal = false := by simpa using unfinished
  refine ⟨op, before, after, ⟨records, active, ?_, ?_, ?_⟩, rfl, by rw [tail]⟩
  · intro other inside
    simpa using settled other inside
  · intro other inside same
    rcases mem_append.mp inside with early | behind
    · have less := ids.2.2 other.id (mem_map_of_mem early) op.id mem_cons_self
      omega
    · have less := ids.2.1.1 other.id (mem_map_of_mem behind)
      omega
  · intro other inside
    exact late.2.1.1 other inside active

/-- Its record is found by its id. -/
theorem Front.record (front : s.Front op before after) : s.record op.id = some op := by
  have none' : before.find? (fun other => decide (other.id = op.id)) = none := by
    rw [find?_eq_none]
    intro other inside
    simpa using front.apart other (mem_append_left _ inside)
  rw [WriteSide.record, front.records, find?_append, none']
  simp

/-- A change by its id reaches no other record. -/
theorem Front.revise (front : s.Front op before after)
    (change : AcceptedWrite → AcceptedWrite) :
    (s.revise op.id change).records = before ++ change op :: after := by
  have others : ∀ list : List AcceptedWrite, (∀ other ∈ list, other.id ≠ op.id) →
      (list.map fun other => if other.id = op.id then change other else other) = list := by
    intro list apart
    rw [map_congr_left fun other inside => if_neg (apart other inside), map_id']
  simp only [WriteSide.revise, front.records, map_append, map_cons, if_true]
  rw [others before fun other inside => front.apart other (mem_append_left _ inside),
    others after fun other inside => front.apart other (mem_append_right _ inside)]

/-- Terminal records in front are not active. -/
theorem active_of {rest : List AcceptedWrite} (records : s.records = before ++ rest)
    (settled : ∀ other ∈ before, other.terminal = true) :
    s.active = rest.filter fun op => !op.terminal := by
  have none' : before.filter (fun op => !op.terminal) = [] := by
    rw [filter_eq_nil_iff]
    intro other inside
    simp [settled other inside]
  rw [active, records, filter_append, none', nil_append]

/-- The active records begin with it. -/
theorem Front.actives (front : s.Front op before after) :
    s.active = op :: after.filter fun op => !op.terminal := by
  rw [active_of front.records front.settled, filter_cons_of_pos (by simp [front.active])]

/-- Records that sent nothing add nothing to the sent bytes. -/
theorem sentBytes_of (records : s.records = before ++ op :: after)
    (untouched : ∀ other ∈ after, other.sent = 0) :
    s.sentBytes = before.flatMap AcceptedWrite.sentBytes ++ op.sentBytes := by
  have none' : after.flatMap AcceptedWrite.sentBytes = [] := by
    rw [flatMap_eq_nil_iff]
    intro other inside
    rw [AcceptedWrite.sentBytes, untouched other inside, take_zero]
  rw [sentBytes, records, flatMap_append, flatMap_cons, none',
    append_nil]

/-- The unsent bytes begin with its own. -/
theorem Front.unsentBytes (front : s.Front op before after) :
    s.unsentBytes = op.unsentBytes ++
      (after.filter fun op => !op.terminal).flatMap AcceptedWrite.unsentBytes := by
  rw [WriteSide.unsentBytes, front.actives, flatMap_cons]

/-- A completion joins the others: there is room while its write was active. -/
theorem pushTerminal_append [CompletionBuffer] (write : CompletedWrite)
    (room : s.pendingTerminal.length < s.maxOps) :
    s.pushTerminal write = { s with pendingTerminal := s.pendingTerminal ++ [write] } := by
  rw [pushTerminal, CompletionBuffer.pushBack_room]
  exact Nat.lt_of_lt_of_le room (Nat.le_max_right _ _)

/-- What happens to records leaves the rest of the state alone. -/
def Kept (s next : WriteSide) : Prop :=
  next = { s with
    records := next.records, ops := next.ops, pendingTerminal := next.pendingTerminal }

/-- Nothing happens. -/
theorem Kept.refl (s : WriteSide) : s.Kept s := rfl

/-- Two such steps. -/
theorem Kept.trans {first second third : WriteSide} (left : first.Kept second)
    (right : second.Kept third) : first.Kept third := by
  rw [Kept, right, left]

/-- The records with the first active one changed. -/
theorem Booked.changed {change : AcceptedWrite → AcceptedWrite} (booked : s.Booked)
    (records : s.records = before ++ op :: after)
    (id : (change op).id = op.id) (balanced : (change op).Balanced)
    (settled : ∀ other ∈ before, other.terminal = true)
    (untouched : ∀ other ∈ after, other.sent = 0) :
    ((before ++ change op :: after).map (·.id)).Pairwise (· < ·) ∧
      (∀ other ∈ before ++ change op :: after, other.id < s.nextOp) ∧
      (∀ other ∈ before ++ change op :: after, other.Balanced) ∧
      (before ++ change op :: after).Pairwise
        fun earlier later => earlier.terminal = false → later.sent = 0 := by
  have ids := booked.ids
  have fresh := booked.fresh
  have all := booked.balanced
  have late := booked.late
  rw [records] at ids fresh all late
  have same : (before ++ change op :: after).map (·.id) =
      (before ++ op :: after).map (·.id) := by
    rw [map_append, map_cons, id, map_append, map_cons]
  refine ⟨same ▸ ids, ?_, ?_, ?_⟩
  · intro other inside
    rcases mem_append.mp inside with early | behind
    · exact fresh other (mem_append_left _ early)
    · rcases mem_cons.mp behind with rfl | behind
      · rw [id]
        exact fresh op (by simp)
      · exact fresh other (by simp [behind])
  · intro other inside
    rcases mem_append.mp inside with early | behind
    · exact all other (mem_append_left _ early)
    · rcases mem_cons.mp behind with rfl | behind
      · exact balanced
      · exact all other (by simp [behind])
  · rw [pairwise_append, pairwise_cons] at late ⊢
    refine ⟨late.1, ⟨?_, late.2.1.2⟩, ?_⟩
    · intro other inside _
      exact untouched other inside
    · intro other inside next _ active
      rw [settled other inside] at active
      cases active

/-- The books after the first active write was settled. -/
theorem Booked.settleFront [CompletionBuffer] (booked : s.Booked)
    (change : AcceptedWrite → AcceptedWrite)
    (front : s.Front op before after) (id : (change op).id = op.id)
    (terminal : (change op).terminal = true) (balanced : (change op).Balanced) :
    let later := (after.filter fun op => !op.terminal).map (·.id)
    let next := s.settleFront op.id later change (change op).completed
    next.Booked ∧ next.records = before ++ change op :: after ∧ next.ops = later ∧
      s.Kept next := by
  intro later next
  have ops : s.ops = op.id :: later := by rw [booked.ops, front.actives, map_cons]
  have limited := booked.limited
  rw [ops, length_cons] at limited
  have pushed : next = { s.revise op.id change with
      ops := later, pendingTerminal := s.pendingTerminal ++ [(change op).completed] } :=
    pushTerminal_append _ (show s.pendingTerminal.length < s.maxOps by omega)
  have records : next.records = before ++ change op :: after := by
    exact front.revise change
  have books := booked.changed front.records id balanced front.settled front.untouched
  have pending : next.pendingTerminal = s.pendingTerminal ++ [(change op).completed] := by
    rw [pushed]
  have fields : next.nextOp = s.nextOp ∧ next.popped = s.popped ∧ next.ops = later ∧
      next.maxOps = s.maxOps := by
    exact ⟨rfl, rfl, rfl, rfl⟩
  refine ⟨⟨?_, ?_, ?_, ?_, ?_, ?_, ?_⟩, records, fields.2.2.1, ?_⟩
  · rw [records]
    exact books.1
  · rw [records, fields.1]
    exact books.2.1
  · rw [active_of records front.settled, filter_cons_of_neg (by simp [terminal]),
      fields.2.2.1]
  · rw [records]
    exact books.2.2.1
  · rw [records]
    exact books.2.2.2
  · have before' := booked.completed
    rw [completions, front.records, filter_append,
      filter_cons_of_neg (by simp [front.active])] at before'
    rw [completions, pending, fields.2.1, ← append_assoc, records, filter_append,
      filter_cons_of_pos (by simp [terminal]), map_append, map_cons]
    have moved := (before'.append_right [(change op).completed])
    rw [map_append] at moved
    apply moved.trans
    rw [append_assoc]
    exact (perm_append_singleton _ _).append_left _
  · rw [fields.2.2.1, fields.2.2.2, pending, length_append, length_singleton]
    omega
  · rw [Kept, pushed]
    rfl

/-- The first active write is sent in part. -/
theorem Booked.revised (booked : s.Booked) (change : AcceptedWrite → AcceptedWrite)
    (front : s.Front op before after) (id : (change op).id = op.id)
    (active : (change op).terminal = false) (balanced : (change op).Balanced) :
    (s.revise op.id change).Booked ∧
      (s.revise op.id change).Front (change op) before after ∧
      s.Kept (s.revise op.id change) := by
  have records := front.revise change
  have books := booked.changed front.records id balanced front.settled front.untouched
  have next : (s.revise op.id change).Front (change op) before after := by
    refine ⟨records, active, front.settled, ?_, front.untouched⟩
    intro other inside
    rw [id]
    exact front.apart other inside
  refine ⟨⟨?_, ?_, ?_, ?_, ?_, ?_, booked.limited⟩, next, rfl⟩
  · rw [records]
    exact books.1
  · rw [records]
    exact books.2.1
  · rw [next.actives, map_cons, id]
    have ops := booked.ops
    rw [front.actives, map_cons] at ops
    exact ops
  · rw [records]
    exact books.2.2.1
  · rw [records]
    exact books.2.2.2
  · have completed := booked.completed
    rw [front.records, filter_append, filter_cons_of_neg (by simp [front.active])]
      at completed
    rw [records, filter_append, filter_cons_of_neg (by simp [active])]
    exact completed

/-- The writes of a state, in the order of acceptance. -/
def keys (s : WriteSide) : List (Nat × Bytes) := s.records.map fun op => (op.id, op.data)

/-- No write comes or goes, and records never change once they are terminal. -/
structure Final (s next : WriteSide) : Prop where
  keys : next.keys = s.keys
  terminal : ∀ op ∈ s.records, op.terminal = true → op ∈ next.records

/-- Nothing happens. -/
theorem Final.refl (s : WriteSide) : s.Final s := ⟨rfl, fun _ inside _ => inside⟩

/-- Two such steps. -/
theorem Final.trans {first second third : WriteSide} (left : first.Final second)
    (right : second.Final third) : first.Final third := by
  refine ⟨right.keys.trans left.keys, ?_⟩
  intro op inside terminal
  exact right.terminal op (left.terminal op inside terminal) terminal

/-- A change of the first active record changes no terminal one. -/
theorem Front.final (front : s.Front op before after) {changed : AcceptedWrite}
    {next : WriteSide} (records : next.records = before ++ changed :: after)
    (same : changed.id = op.id ∧ changed.data = op.data) : s.Final next := by
  constructor
  · rw [keys, records, keys, front.records]
    simp only [map_append, map_cons, same.1, same.2]
  · intro other inside terminal
    rw [front.records, mem_append, mem_cons] at inside
    rw [records, mem_append, mem_cons]
    rcases inside with early | rfl | behind
    · exact .inl early
    · rw [front.active] at terminal
      cases terminal
    · exact .inr (.inr behind)

/-- What became terminal did so without an error. -/
def Clean (s next : WriteSide) : Prop :=
  ∀ op ∈ next.records, op.terminal = true → op ∈ s.records ∨ op.error = .success

/-- The change of the first active record does when it settles without an error. -/
theorem Front.clean (front : s.Front op before after) {changed : AcceptedWrite}
    {next : WriteSide} (records : next.records = before ++ changed :: after)
    (success : changed.terminal = true → changed.error = .success) : s.Clean next := by
  intro other inside terminal
  rw [records, mem_append, mem_cons] at inside
  rw [front.records, mem_append, mem_cons]
  rcases inside with early | rfl | behind
  · exact .inl (.inl early)
  · exact .inr (success terminal)
  · exact .inl (.inr (.inr behind))

end WriteSide

namespace AcceptedWrite

variable {op : AcceptedWrite} {taken : Nat}

/-- Attributing bytes to a write leaves its id. -/
theorem attributed_id : (op.attributed taken).id = op.id := by
  unfold attributed
  split_ifs <;> rfl

/-- It adds them to what was sent. -/
theorem attributed_sent : (op.attributed taken).sent = op.sent + taken := by
  unfold attributed
  split_ifs <;> rfl

/-- It leaves the data. -/
theorem attributed_data : (op.attributed taken).data = op.data := by
  unfold attributed
  split_ifs <;> rfl

/-- A write that they complete has succeeded. -/
theorem attributed_error (active : op.terminal = false)
    (terminal : (op.attributed taken).terminal = true) :
    (op.attributed taken).error = .success := by
  unfold attributed at terminal ⊢
  split_ifs with whole
  · rfl
  · rw [if_neg whole] at terminal
    exact absurd terminal (by simp [active])

/-- They complete it just when they are all that remained. -/
theorem attributed_terminal (active : op.terminal = false) :
    (op.attributed taken).terminal = decide (op.remaining = taken) := by
  unfold attributed
  split_ifs with whole
  · exact (decide_eq_true whole).symm
  · exact active.trans (decide_eq_false whole).symm

/-- Sending bytes of an active write balances its record. -/
theorem Balanced.attributed (balanced : op.Balanced) (active : op.terminal = false)
    (fits : taken ≤ op.remaining) : (op.attributed taken).Balanced := by
  have counted := balanced.active active
  have total := balanced.total
  unfold AcceptedWrite.attributed
  split_ifs with whole
  · refine ⟨total, ?_, ?_⟩
    · intro contrary
      cases contrary
    · intro _
      dsimp only
      refine ⟨by omega, ?_⟩
      constructor
      · intro _
        omega
      · intro _
        rfl
  · refine ⟨total, ?_, ?_⟩
    · intro _
      dsimp only
      omega
    · intro contrary
      rw [active] at contrary
      cases contrary

/-- The bytes that were sent move from the unsent to the sent ones. -/
theorem attributed_bytes (op : AcceptedWrite) (taken : Nat) :
    (op.attributed taken).sentBytes = op.sentBytes ++ op.unsentBytes.take taken ∧
      (op.attributed taken).unsentBytes = op.unsentBytes.drop taken := by
  constructor
  · rw [sentBytes, attributed_data, attributed_sent, take_add]
    rfl
  · rw [unsentBytes, attributed_data, attributed_sent, unsentBytes, drop_drop]

/-- The unsent bytes of an active write are counted by `remaining`. -/
theorem Balanced.unsent (balanced : op.Balanced) (active : op.terminal = false) :
    op.unsentBytes.length = op.remaining := by
  have counted := balanced.active active
  have total := balanced.total
  rw [unsentBytes, length_drop]
  omega

end AcceptedWrite

namespace WriteSide

variable {s : WriteSide} {op : AcceptedWrite} {before after : List AcceptedWrite}

/-- `AttributeSentLocked` moves the bytes from the unsent to the sent ones of the writes. -/
theorem Booked.attributeSentLocked [CompletionBuffer] {ops : List Nat}
    (booked : s.Booked) (named : s.ops = ops)
    {bytes : Nat} (enough : bytes ≤ s.unsentBytes.length) :
    let next := (s.attributeSentLocked ops bytes).2
    next.Booked ∧ next.sentBytes = s.sentBytes ++ s.unsentBytes.take bytes ∧
      next.unsentBytes = s.unsentBytes.drop bytes ∧ s.Kept next ∧ s.Final next ∧
      s.Clean next := by
  induction ops generalizing s bytes with
  | nil =>
    have none' : s.active = [] := by
      have ops := booked.ops
      rw [named] at ops
      exact map_eq_nil_iff.mp ops.symm
    have unsent : s.unsentBytes = [] := by rw [unsentBytes, none', flatMap_nil]
    simp only [attributeSentLocked, unsent, take_nil, append_nil,
      drop_nil]
    exact ⟨booked, trivial, trivial, .refl s, .refl s, fun _ inside _ => .inl inside⟩
  | cons id later ih =>
    rw [attributeSentLocked]
    by_cases nothing : bytes = 0
    · rw [if_pos nothing, nothing, take_zero, append_nil, drop_zero]
      exact ⟨booked, rfl, rfl, .refl s, .refl s, fun _ inside _ => .inl inside⟩
    rw [if_neg nothing]
    obtain ⟨op, before, after, front, rfl, rfl⟩ := booked.front named
    have balanced : op.Balanced := booked.balanced op (by rw [front.records]; simp)
    have size := balanced.unsent front.active
    have unsent := front.unsentBytes
    have sent := sentBytes_of front.records front.untouched
    have attributed := balanced.attributed front.active (Nat.min_le_right bytes op.remaining)
    have moved := op.attributed_bytes (min bytes op.remaining)
    have same : (op.attributed (min bytes op.remaining)).id = op.id ∧
        (op.attributed (min bytes op.remaining)).data = op.data :=
      ⟨AcceptedWrite.attributed_id, AcceptedWrite.attributed_data⟩
    have success : (op.attributed (min bytes op.remaining)).terminal = true →
        (op.attributed (min bytes op.remaining)).error = .success :=
      AcceptedWrite.attributed_error front.active
    rw [front.record]
    dsimp only
    by_cases whole : op.remaining = min bytes op.remaining
    · rw [if_pos whole]
      have terminal : (op.attributed (min bytes op.remaining)).terminal = true := by
        rw [AcceptedWrite.attributed_terminal front.active, decide_eq_true whole]
      have completed : (op.attributed (min bytes op.remaining)).completed =
          ⟨op.id, op.sent + min bytes op.remaining, .success⟩ := by
        rw [AcceptedWrite.completed, AcceptedWrite.attributed, if_pos whole]
      have settled := booked.settleFront (AcceptedWrite.attributed · (min bytes op.remaining))
        front AcceptedWrite.attributed_id terminal attributed
      rw [completed] at settled
      obtain ⟨books, records, ops, kept⟩ := settled
      have rest := sentBytes_of records front.untouched
      have left := active_of records front.settled
      rw [filter_cons_of_neg (by simp [terminal])] at left
      generalize s.settleFront op.id _ _ _ = mid at books records ops kept rest left ⊢
      have tail : mid.unsentBytes =
          (after.filter fun op => !op.terminal).flatMap AcceptedWrite.unsentBytes := by
        rw [unsentBytes, left]
      have size' : s.unsentBytes.length = op.remaining + mid.unsentBytes.length := by
        rw [unsent, tail, length_append, size]
      obtain ⟨books', sent', unsent', kept', final', clean'⟩ :=
        ih books ops (show bytes - min bytes op.remaining ≤ mid.unsentBytes.length by omega)
      refine ⟨books', ?_, ?_, kept.trans kept', (front.final records same).trans final', ?_⟩
      · rw [sent', rest, moved.1, sent, unsent, tail, append_assoc, append_assoc,
          append_assoc, take_append, size, ← whole,
          take_of_length_le (show op.unsentBytes.length ≤ op.remaining by omega),
          take_of_length_le (show op.unsentBytes.length ≤ bytes by omega)]
      · rw [unsent', unsent, tail, drop_append, size, ← whole,
          drop_of_length_le (show op.unsentBytes.length ≤ bytes by omega), nil_append]
      · intro other inside terminal'
        rcases clean' other inside terminal' with early | done
        · exact front.clean records success other early terminal'
        · exact .inr done
    · rw [if_neg whole]
      have active : (op.attributed (min bytes op.remaining)).terminal = false := by
        rw [AcceptedWrite.attributed_terminal front.active, decide_eq_false whole]
      obtain ⟨books, next, kept⟩ := booked.revised
        (AcceptedWrite.attributed · (min bytes op.remaining)) front AcceptedWrite.attributed_id
        active attributed
      refine ⟨books, ?_, ?_, kept, front.final next.records same,
        front.clean next.records success⟩
      · rw [sentBytes_of next.records next.untouched, moved.1, sent, unsent, append_assoc,
          take_append_of_le_length (by omega)]
        congr 3
        omega
      · rw [next.unsentBytes, moved.2, unsent, drop_append_of_le_length (by omega)]
        congr 2
        omega

/-- A settlement of an unfinished write with an error. -/
def Settlement (error : StdErrorCode) (change : AcceptedWrite → AcceptedWrite) : Prop :=
  error.failed = true ∧ ∀ op, change op =
    { op with terminal := true, error, remaining := (change op).remaining }

/-- The records after a settlement of the active writes. -/
def settledRecords (change : AcceptedWrite → AcceptedWrite) (records : List AcceptedWrite) :
    List AcceptedWrite := records.map fun op => if op.terminal then op else change op

/-- Records that are all terminal stay as they are. -/
theorem settledRecords_terminal {change : AcceptedWrite → AcceptedWrite}
    {records : List AcceptedWrite} (settled : ∀ op ∈ records, op.terminal = true) :
    settledRecords change records = records := by
  rw [settledRecords, map_congr_left fun op inside => if_pos (settled op inside),
    map_id']

section Settlement

variable {error : StdErrorCode} {change : AcceptedWrite → AcceptedWrite}

/-- A settled write is terminal. -/
theorem Settlement.terminal (settlement : Settlement error change) (op : AcceptedWrite) :
    (change op).terminal = true := by rw [settlement.2 op]

/-- It keeps its id. -/
theorem Settlement.id (settlement : Settlement error change) (op : AcceptedWrite) :
    (change op).id = op.id := by rw [settlement.2 op]

/-- What is reported of the write. -/
theorem Settlement.completed (settlement : Settlement error change) (op : AcceptedWrite) :
    (change op).completed = ⟨op.id, op.sent, error⟩ := by
  rw [AcceptedWrite.completed, settlement.2 op]

/-- The sent bytes stay. -/
theorem Settlement.sentBytes (settlement : Settlement error change) (op : AcceptedWrite) :
    (change op).sentBytes = op.sentBytes := by
  rw [AcceptedWrite.sentBytes, settlement.2 op, AcceptedWrite.sentBytes]

/-- An unfinished write that is settled with an error is balanced. -/
theorem Settlement.balanced (settlement : Settlement error change) {op : AcceptedWrite}
    (balanced : op.Balanced) (active : op.terminal = false) : (change op).Balanced := by
  have counted := balanced.active active
  have failed := settlement.1
  rw [settlement.2 op]
  refine ⟨balanced.total, ?_, ?_⟩
  · intro contrary
    cases contrary
  · intro _
    dsimp only
    refine ⟨by omega, ?_⟩
    rw [failed]
    constructor
    · intro contrary
      cases contrary
    · intro whole
      omega

/-- The loop settles every active write, in order. -/
theorem Booked.settleOps [CompletionBuffer] (settlement : Settlement error change) {ops : List Nat}
    (booked : s.Booked) (named : s.ops = ops) :
    let next := s.settleOps error change ops
    next.Booked ∧ next.ops = [] ∧ next.records = settledRecords change s.records ∧
      s.Kept next := by
  induction ops generalizing s with
  | nil =>
    have none' : s.active = [] := by
      have ops := booked.ops
      rw [named] at ops
      exact map_eq_nil_iff.mp ops.symm
    have settled : ∀ op ∈ s.records, op.terminal = true := by
      intro op inside
      simpa using filter_eq_nil_iff.mp none' op inside
    exact ⟨booked, named, (settledRecords_terminal settled).symm, .refl s⟩
  | cons id later ih =>
    obtain ⟨op, before, after, front, rfl, rfl⟩ := booked.front named
    have balanced : op.Balanced := booked.balanced op (by rw [front.records]; simp)
    have settled := booked.settleFront change front (settlement.id op) (settlement.terminal op)
      (settlement.balanced balanced front.active)
    rw [settleOps, front.record]
    rw [settlement.completed op] at settled
    obtain ⟨books, records, ops, kept⟩ := settled
    obtain ⟨books', none', records', kept'⟩ := ih books ops
    refine ⟨books', none', ?_, kept.trans kept'⟩
    rw [records', records, front.records]
    simp only [settledRecords, map_append, map_cons, settlement.terminal op, if_true,
      front.active, Bool.false_eq_true, if_false]

end Settlement

end WriteSide

end BbtInfra.Net
