import BbtInfra.Rpc.OwnerQuiet

/-!
# What the critical sections of an owner can do

One lemma for each critical section that is not quiet: its outcomes with the guards under
which they happen, and their effect on the quota ledger, `by_identity` entries plus reserved
records.
-/
namespace BbtInfra.Rpc

open Lib AList

namespace SessionOwnerState

variable {o o' : SessionOwnerState} {id : Nat} {key peer : Bytes}

/-- A check on records allocated so far does not see a new one. -/
theorem reserve_isReserved {record : Nat} (allocated : record < o.records.length) :
    (o.reserve key).isReserved record = o.isReserved record := by
  simp [isReserved, reserve, List.getElem?_append_left allocated]

/-- A reservation counts one. -/
theorem reserve_occupied (absent : o.establishing.lookup key = none)
    (allocated : ∀ key record, o.establishing.lookup key = some record →
      record < o.records.length) : (o.reserve key).occupied = o.occupied + 1 := by
  have fresh : (o.reserve key).isReserved o.records.length = true := by
    simp [isReserved, reserve]
  have old : o.establishing.count (o.reserve key).isReserved = o.reservedCount := by
    apply List.countP_congr
    intro record member
    obtain ⟨other, found⟩ := mem_values_iff.mp member
    rw [reserve_isReserved (allocated other record found)]
  have counted := count_insert_new (o.reserve key).isReserved o.records.length absent
  rw [if_pos fresh, old] at counted
  change o.byIdentity.size + count (o.reserve key).isReserved
    (o.establishing.insert key o.records.length) = o.occupied + 1
  rw [counted, occupied]
  omega

/-- The outcomes of the first critical section of `GetSession`: the caller is turned away,
served, or joins a record after a quiet step, or it makes a reservation. -/
inductive EnterOutcome (o : SessionOwnerState) (key : Bytes) : SessionOwnerState × Entered → Prop
  | refused {o' : _} (quiet : Quiet o o') (error : Error) : EnterOutcome o key (o', .refused error)
  | live {o' : _} (quiet : Quiet o o') (session : Nat) : EnterOutcome o key (o', .live session)
  | waiter {o' : _} (quiet : Quiet o o') (record : Nat)
      (joined : o'.establishing.lookup key = some record) : EnterOutcome o key (o', .waiter record)
  | establisher {o' : _} (quiet : Quiet o o') (absent : o'.establishing.lookup key = none)
      (room : o'.occupied < o'.options.maxSessions) :
      EnterOutcome o key (o'.reserve key, .establisher o'.records.length)

/-- Joining or reserving after a quiet step. -/
theorem joinOrReserve_outcome (quiet : Quiet o o') : EnterOutcome o key (o'.joinOrReserve key) := by
  unfold joinOrReserve
  cases found : o'.establishing.lookup key with
  | some record => exact .waiter quiet record found
  | none =>
    by_cases full : o'.occupied ≥ o'.options.maxSessions
    · rw [if_pos full]
      exact .refused quiet _
    · rw [if_neg full]
      exact .establisher quiet found (Nat.lt_of_not_le full)

/-- The first critical section of `GetSession` has no other outcome. -/
theorem enterLocked_outcome (o : SessionOwnerState) (key : Bytes) :
    EnterOutcome o key (o.enterLocked key) := by
  unfold enterLocked
  by_cases closed : o.closed = true
  · rw [if_pos closed]
    exact .refused (Quiet.refl o) _
  rw [if_neg closed]
  have swept := quiet_driveRelease o
  dsimp only
  cases o.driveRelease.byEndpoint.lookup key with
  | none => exact joinOrReserve_outcome swept
  | some session =>
    dsimp only
    by_cases dead : o.driveRelease.isDead session = true
    · rw [if_pos dead]
      exact joinOrReserve_outcome (swept.trans (quiet_eraseEndpoint _ key))
    · rw [if_neg dead]
      exact .live swept session

/-- The direction test of `InstallSession`: the new link replaces the installed one. -/
def prefers (o : SessionOwnerState) (session : Session) : Prop :=
  o.keepOutbound session.peerIdentity = session.outbound

instance (o : SessionOwnerState) (session : Session) : Decidable (o.prefers session) :=
  inferInstanceAs (Decidable (_ = _))

/-- The four outcomes of `InstallSession`, each with its guard. -/
inductive InstallOutcome (o : SessionOwnerState) (id : Nat) (session : Session) (endpoint : Bytes)
    (record : Option Nat) : SessionOwnerState × Installed → Prop
  | refused (error : Error) (guard : o.closed = true ∨
      (o.byIdentity.lookup session.peerIdentity = none ∧
        o.options.maxSessions ≤ o.occupiedByOthers record)) :
      InstallOutcome o id session endpoint record (o, .refused error)
  | fenced (winner : Nat) (opened : o.closed = false)
      (mapped : o.byIdentity.lookup session.peerIdentity = some winner)
      (loses : ¬ o.prefers session) :
      InstallOutcome o id session endpoint record
        (o.fenceLocked id session.conn endpoint winner, .fenced winner)
  | evicted (winner : Nat) (opened : o.closed = false)
      (mapped : o.byIdentity.lookup session.peerIdentity = some winner)
      (wins : o.prefers session) :
      InstallOutcome o id session endpoint record
        ((o.mapIdentity session.peerIdentity id).adoptLocked id endpoint (some winner),
          .won (some winner))
  | added (opened : o.closed = false)
      (absent : o.byIdentity.lookup session.peerIdentity = none)
      (room : o.occupiedByOthers record < o.options.maxSessions) :
      InstallOutcome o id session endpoint record
        (((o.convertReservation record).mapIdentity session.peerIdentity id).adoptLocked id
          endpoint none, .won none)

/-- `InstallSession` has no other outcome. -/
theorem installLocked_outcome (o : SessionOwnerState) (id : Nat) (session : Session)
    (endpoint : Bytes) (record : Option Nat) :
    InstallOutcome o id session endpoint record (o.installLocked id session endpoint record) := by
  unfold installLocked
  by_cases closed : o.closed = true
  · rw [if_pos closed]
    exact .refused _ (.inl closed)
  rw [if_neg closed]
  have opened := eq_false_of_ne_true closed
  cases mapped : o.byIdentity.lookup session.peerIdentity with
  | some winner =>
    dsimp only
    by_cases wins : o.prefers session
    · rw [if_pos (show o.keepOutbound _ = _ from wins)]
      exact .evicted winner opened mapped wins
    · rw [if_neg (show ¬ o.keepOutbound _ = _ from wins)]
      exact .fenced winner opened mapped wins
  | none =>
    by_cases full : o.occupiedByOthers record ≥ o.options.maxSessions
    · rw [if_pos full]
      exact .refused _ (.inr ⟨mapped, full⟩)
    · rw [if_neg full]
      exact .added opened mapped (Nat.lt_of_not_le full)

/-- Adopting a session changes no entry of `by_identity` and no record. -/
theorem adoptLocked_occupied (o : SessionOwnerState) (id : Nat) (endpoint : Bytes)
    (evicted : Option Nat) : (o.adoptLocked id endpoint evicted).occupied = o.occupied := rfl

/-- Replacing an entry counts nothing. -/
theorem mapIdentity_occupied {winner : Nat} (mapped : o.byIdentity.lookup peer = some winner) :
    (o.mapIdentity peer id).occupied = o.occupied := by
  change size (o.byIdentity.insert peer id) + o.reservedCount = o.occupied
  rw [size_insert_present mapped, occupied]

/-- A converted reservation is the only one that changes. -/
theorem convertReservation_isReserved (record : Option Nat) (other : Nat) :
    (o.convertReservation record).isReserved other =
      (o.isReserved other && decide (record ≠ some other)) := by
  cases record with
  | none => simp [convertReservation]
  | some own =>
    simp only [convertReservation, modifyRecord, isReserved, List.getElem?_modify]
    by_cases same : own = other
    · cases o.records[other]? <;> simp [same]
    · cases o.records[other]? <;> simp [same]

/-- Adding an entry under its own reservation, or with room for one more, stays within the
quota. -/
theorem added_occupied {record : Option Nat}
    (ledger : o.occupied ≤ o.options.maxSessions) (absent : o.byIdentity.lookup peer = none)
    (registered : ∀ own, record = some own → own ∈ o.establishing.values)
    (room : o.occupiedByOthers record < o.options.maxSessions) :
    ((o.convertReservation record).mapIdentity peer id).occupied ≤ o.options.maxSessions := by
  have tables : (o.convertReservation record).byIdentity = o.byIdentity ∧
      (o.convertReservation record).establishing = o.establishing := by
    cases record <;> exact ⟨rfl, rfl⟩
  have weaker : ∀ other ∈ o.establishing.values,
      (o.convertReservation record).isReserved other = true → o.isReserved other = true := by
    intro other _ kept
    rw [convertReservation_isReserved] at kept
    exact (Bool.and_eq_true_iff.mp kept).1
  have total : ((o.convertReservation record).mapIdentity peer id).occupied =
      o.byIdentity.size + 1 + o.establishing.count (o.convertReservation record).isReserved := by
    change size ((o.convertReservation record).byIdentity.insert peer id) +
      count _ (o.convertReservation record).establishing = _
    rw [tables.1, tables.2, size_insert_new absent]
    rfl
  have fewer := count_le_count o.establishing weaker
  unfold occupiedByOthers at room
  simp only [occupied, reservedCount] at ledger room
  cases record with
  | none => simp only at room; omega
  | some own =>
    by_cases reserved : o.isReserved own = true
    · -- the reservation turns into the entry
      have fails : (o.convertReservation (some own)).isReserved own = false := by
        rw [convertReservation_isReserved]
        simp
      have lost := count_lt_count weaker (registered own rfl) reserved fails
      omega
    · simp only [reserved, if_false, Bool.false_eq_true] at room
      omega

/-- Adopting keeps `by_endpoint` on installed sessions: endpoints of the evicted session are
taken over. -/
theorem adoptLocked_endpoints {endpoint : Bytes} {evicted : Option Nat}
    (member : id ∈ o.byIdentity.values)
    (installed : ∀ key other, o.byEndpoint.lookup key = some other →
      other ∈ o.byIdentity.values ∨ evicted = some other) :
    (o.adoptLocked id endpoint evicted).EndpointsInstalled := by
  have mapped : ∀ key other,
      (if endpoint = [] then o.byEndpoint else o.byEndpoint.insert endpoint id).lookup key =
        some other → other ∈ o.byIdentity.values ∨ evicted = some other := by
    intro key other found
    split at found
    · exact installed key other found
    · by_cases same : key = endpoint
      · rw [same, lookup_insert] at found
        exact .inl (Option.some.inj found ▸ member)
      · rw [lookup_insert_ne same] at found
        exact installed key other found
  intro key other found
  cases evicted with
  | none => exact (mapped key other found).resolve_right nofun
  | some old =>
    simp only [adoptLocked, lookup_mapValues, Option.map_eq_some_iff] at found
    obtain ⟨before, present, moved⟩ := found
    split at moved
    · exact moved ▸ member
    · rename_i apart
      subst moved
      exact (mapped key before present).resolve_right fun same =>
        apart (Option.some.inj same).symm

/-- The values after mapping a peer: the new session, and every other one that was there. -/
theorem mapIdentity_values {other : Nat} :
    other ∈ (o.mapIdentity peer id).byIdentity.values ↔
      other = id ∨ ∃ key, key ≠ peer ∧ o.byIdentity.lookup key = some other := by
  rw [mem_values_iff]
  constructor
  · rintro ⟨key, found⟩
    by_cases same : key = peer
    · subst same
      rw [mapIdentity, lookup_insert] at found
      exact .inl (Option.some.inj found).symm
    · rw [mapIdentity, lookup_insert_ne same] at found
      exact .inr ⟨key, same, found⟩
  · rintro (rfl | ⟨key, apart, found⟩)
    · exact ⟨peer, lookup_insert _⟩
    · exact ⟨key, (lookup_insert_ne apart).trans found⟩

/-- A session that won `InstallSession` is mapped, its endpoints are, and the quota holds. -/
theorem installLocked_won {session : Session} {endpoint : Bytes} {record : Option Nat}
    {evicted : Option Nat} (ledger : o.occupied ≤ o.options.maxSessions)
    (endpoints : o.EndpointsInstalled)
    (registered : ∀ own, record = some own → own ∈ o.establishing.values)
    (won : (o.installLocked id session endpoint record) = (o', .won evicted)) :
    o'.occupied ≤ o.options.maxSessions ∧ o'.EndpointsInstalled ∧
      o'.byIdentity.lookup session.peerIdentity = some id ∧
      ∀ other ∈ o'.byIdentity.values, other = id ∨ other ∈ o.byIdentity.values := by
  have outcome := installLocked_outcome o id session endpoint record
  rw [won] at outcome
  have values : ∀ (base : SessionOwnerState), base.byIdentity = o.byIdentity →
      ∀ other ∈ (base.mapIdentity session.peerIdentity id).byIdentity.values,
        other = id ∨ other ∈ o.byIdentity.values := by
    intro base same other member
    refine (mapIdentity_values.mp member).imp_right ?_
    rintro ⟨key, _, found⟩
    exact mem_values_iff.mpr ⟨key, same ▸ found⟩
  cases outcome with
  | evicted winner opened mapped wins =>
    refine ⟨?_, ?_, lookup_insert _, values o rfl⟩
    · rw [adoptLocked_occupied, mapIdentity_occupied mapped]
      exact ledger
    · refine adoptLocked_endpoints (mapIdentity_values.mpr (.inl rfl)) fun key other found => ?_
      obtain ⟨peer, entry⟩ := mem_values_iff.mp (endpoints key other found)
      by_cases same : peer = session.peerIdentity
      · exact .inr (mapped.symm.trans (same ▸ entry))
      · exact .inl (mapIdentity_values.mpr (.inr ⟨peer, same, entry⟩))
  | added opened absent room =>
    have same : (o.convertReservation record).byIdentity = o.byIdentity := by
      cases record <;> rfl
    have sameEndpoint : (o.convertReservation record).byEndpoint = o.byEndpoint := by
      cases record <;> rfl
    refine ⟨?_, ?_, lookup_insert _, values _ same⟩
    · rw [adoptLocked_occupied]
      exact added_occupied ledger absent registered room
    · refine adoptLocked_endpoints (mapIdentity_values.mpr (.inl rfl)) fun key other found => ?_
      obtain ⟨peer, entry⟩ := mem_values_iff.mp (endpoints key other (sameEndpoint ▸ found))
      refine .inl (mapIdentity_values.mpr (.inr ⟨peer, ?_, same ▸ entry⟩))
      rintro rfl
      rw [absent] at entry
      cases entry

end SessionOwnerState

end BbtInfra.Rpc
