import BbtInfra.Rpc.OwnerInvariant

/-!
# Every step keeps the owner's invariant

One lemma for each kind of step that is not quiet, and one for each function of
`OwnerSystem`; `inv_step` assembles them over the events and `inv_reachable` carries the
invariant to every reachable state.
-/
namespace BbtInfra.Rpc

open Lib SessionOwnerState Quiet AList Way Option

namespace Way

variable {o : SessionOwnerState} {key : Bytes} {way : Way} {conn : Nat}

/-- A thread that failed still has its record. -/
@[simp] theorem failed_record (error : Error) : (way.failed conn error).record? = way.record := by
  cases way <;> rfl

/-- It has no session. -/
@[simp] theorem failed_handle (error : Error) : (way.failed conn error).handle? = none := by
  cases way <;> rfl

/-- It has no bare connection. -/
@[simp] theorem failed_bareConn (error : Error) : (way.failed conn error).bareConn? = none := by
  cases way <;> rfl

/-- Nor has a thread that finished. -/
@[simp] theorem finished_bareConn (session : Nat) :
    (way.finished conn session).bareConn? = none := by
  cases way <;> rfl

/-- It still has its record. -/
@[simp] theorem finished_record (session : Nat) :
    (way.finished conn session).record? = way.record := by
  cases way <;> rfl

/-- It has no session to publish. -/
@[simp] theorem finished_handle (session : Nat) : (way.finished conn session).handle? = none := by
  cases way <;> rfl

/-- Refusing a link is quiet. -/
theorem quiet_refuse (o : SessionOwnerState) (way : Way) (conn : Nat) :
    Quiet o (way.refuse o conn) := by
  cases way with
  | outbound record => exact quiet_requestClose o conn
  | inbound => exact refl o

/-- What a coroutine on its way relies on survives a quiet step. -/
theorem Sound.quiet {o' : SessionOwnerState} (sound : way.Sound o key conn) (quiet : Quiet o o') :
    way.Sound o' key conn :=
  (Others.of_quiet quiet none none none none).way (fun _ _ => nofun) sound

/-- A failed establishment is settled with its connection still on record. -/
theorem Sound.failed (sound : way.Sound o key conn) (error : Error) :
    (way.failed conn error).Sound o key := by
  cases way with
  | inbound => trivial
  | outbound record =>
    refine ⟨sound.toRunning, fun c _ kept _ => ?_⟩
    cases kept
    exact ⟨sound.dialed, .inr sound.known⟩

/-- A finished establishment is settled with its session. -/
theorem Sound.finished (sound : way.Sound o key conn) (session : Nat) :
    (way.finished conn session).Sound o key := by
  cases way with
  | inbound => trivial
  | outbound record => exact ⟨Tracked.toRunning sound, fun _ _ _ => nofun⟩

end Way

namespace OwnerSystem

variable {s s' : OwnerSystem} {t : Nat} {key : Bytes} {pc : Pc} {o' : SessionOwnerState}

/-- The next step of the same coroutine overwrites the last one. -/
theorem resume_resume (s : OwnerSystem) (t : Nat) (key : Bytes) (o o' : SessionOwnerState)
    (pc pc' : Pc) : (s.resume t key o pc).resume t key o' pc' = s.resume t key o' pc' := by
  simp [resume, List.set_set]

/-- A coroutine that moved is found at its new program counter. -/
theorem resume_present (present : s.callers[t]? = some ⟨key, pc⟩) (o : SessionOwnerState) (pc' : Pc) :
    (s.resume t key o pc').callers[t]? = some ⟨key, pc'⟩ :=
  List.getElem?_set_self (List.getElem?_eq_some_iff.mp present).1

/-- Reserving quota for a new establishment keeps the invariant. -/
theorem Inv.reserve (inv : s.Inv) (present : s.callers[t]? = some ⟨key, .entering⟩)
    (absent : s.owner.establishing.lookup key = none)
    (room : s.owner.occupied < s.owner.options.maxSessions) :
    (s.resume t key (s.owner.reserve key) (.dialing s.owner.records.length)).Inv := by
  have old : ∀ record, record < s.owner.records.length →
      (s.owner.reserve key).records[record]? = s.owner.records[record]? :=
    fun record inside => List.getElem?_append_left inside
  have stays : ∀ other record, s.owner.establishing.lookup other = some record →
      (s.owner.reserve key).establishing.lookup other = some record := by
    intro other record found
    refine (lookup_insert_ne ?_).trans found
    rintro rfl
    rw [absent] at found
    cases found
  have done : ∀ record, s.owner.isDone record = true →
      (s.owner.reserve key).isDone record = true := by
    intro record done
    have inside : record < s.owner.records.length := by
      by_contra outside
      simp [isDone, List.getElem?_eq_none (Nat.le_of_not_lt outside)] at done
    rw [isDone, old record inside]
    exact done
  refine inv.resume present
    { records := by simp [SessionOwnerState.reserve]
      registered := fun other record _ => stays other record
      known := fun record _ inside => by rw [recordConn, old record inside, recordConn]
      reserved := fun record _ inside => reserve_isReserved inside
      done := done
      conns := Nat.le_refl _
      asked := fun _ asked => asked
      links := fun _ _ found => found
      values := fun _ member => .inl member
      built := fun session member => .inl ⟨session, member, rfl⟩ } ?_ ?_ inv.endpoints ?_
    ?_ ?_ ?_ ?_
  · exact
      { endpoint := inv.sound t _ present
        allocated := by simp [SessionOwnerState.reserve]
        registered := lookup_insert _
        reserved := by simp [isReserved, SessionOwnerState.reserve] }
  · rw [reserve_occupied absent fun _ _ => inv.allocated]
    exact room
  · intro record made
    cases made
    -- the new record has no runner: every runner's record is allocated
    exact .inr fun u a found runs =>
      Nat.lt_irrefl _ ((inv.sound u a found).running runs).allocated
  · intro handle held
    cases held
  · intro conn bare
    cases bare
  · intro other record found
    by_cases same : other = key
    · subst same
      exact .inl ⟨rfl, congrArg some (Option.some.inj ((lookup_insert _).symm.trans found))⟩
    · exact .inr ⟨fun running => (by cases running), (lookup_insert_ne same).symm.trans found⟩
  · intro record r found pending
    by_cases inside : record < s.owner.records.length
    · rw [old record inside] at found
      obtain ⟨other, registered⟩ := inv.undone record r found pending
      exact ⟨other, stays other record registered⟩
    · have last : record = s.owner.records.length := by
        have bound := (List.getElem?_eq_some_iff.mp found).1
        simp only [SessionOwnerState.reserve, List.length_append, List.length_singleton] at bound
        omega
      exact ⟨key, last ▸ lookup_insert _⟩

/-- The first critical section of `GetSession` keeps the invariant. -/
theorem Inv.enterStep (inv : s.Inv) (present : s.callers[t]? = some ⟨key, .entering⟩) :
    (s.enterStep t key).Inv := by
  have outcome := enterLocked_outcome s.owner key
  unfold OwnerSystem.enterStep
  revert outcome
  generalize s.owner.enterLocked key = entered
  intro outcome
  cases outcome with
  | refused quiet error | live quiet session =>
    exact inv.quiet present quiet rfl rfl (fun _ => nofun) trivial
  | waiter quiet record joined =>
    refine inv.quiet present quiet rfl rfl (fun _ => nofun) ?_
    change record < _
    rw [quiet.records]
    exact inv.allocated (quiet.establishing ▸ joined)
  | establisher quiet absent room =>
    exact (inv.environment quiet s.sealedSessions s.sealedConns).reserve present absent room

variable {conn record id : Nat} {way : Way} {f : Establishing → Establishing}

/-- A look of a waiter at its record keeps the invariant. -/
theorem Inv.pollStep (inv : s.Inv) {polled : Bool}
    (present : s.callers[t]? = some ⟨key, .waiting record polled⟩) :
    (s.pollStep t key record).Inv := by
  have allocated : record < s.owner.records.length := inv.sound t _ present
  refine inv.quiet present (refl _) ?_ ?_ ?_ ?_
  · split
    · split <;> rfl
    · rfl
  · split
    · split <;> rfl
    · rfl
  · intro conn holds
    split at holds
    · split at holds <;> cases holds
    · cases holds
  · split
    · rename_i r found
      split
      · rename_i done
        exact ⟨allocated, fun _ _ => by simpa [isDone, found] using done⟩
      · exact allocated
    · exact allocated

section

variable (o : SessionOwnerState) (record : Nat)

/-- Rewriting the record that a coroutine runs leaves the other records alone. -/
theorem others_modifyRecord
    (keeps : ∀ r, r.done = true → (f r).done = true) (handle bare : Option Nat) :
    Others o (o.modifyRecord record f) (some record) (some record) handle bare where
  records := by simp [modifyRecord]
  registered := fun _ _ _ found => found
  known := by
    intro other apart _
    have differs : record ≠ other := fun same => apart (congrArg some same)
    simp [recordConn, modifyRecord, differs]
  reserved := by
    intro other apart _
    have differs : record ≠ other := fun same => apart (congrArg some same)
    simp [isReserved, modifyRecord, differs]
  done := by
    intro other done
    simp only [isDone, modifyRecord, List.getElem?_modify] at done ⊢
    cases found : o.records[other]? with
    | none => simp [found] at done
    | some r =>
      simp only [found, map_some, getD_some] at done
      by_cases same : record = other
      · simp [same, keeps r done]
      · simp [same, done]
  conns := Nat.le_refl _
  asked := fun _ asked => asked
  links := fun _ _ found => found
  values := fun _ member => .inl member
  built := fun session member => .inl ⟨session, member, rfl⟩

/-- A rewrite of a record that keeps its reservation changes no count. -/
theorem modifyRecord_isReserved (keeps : ∀ r, (f r).reserved = r.reserved) :
    (o.modifyRecord record f).isReserved = o.isReserved := by
  funext other
  simp only [isReserved, modifyRecord, List.getElem?_modify]
  cases o.records[other]? with
  | none => rfl
  | some r => by_cases same : record = other <;> simp [same, keeps]

/-- A rewrite of a record that keeps its reservation counts nothing. -/
theorem modifyRecord_occupied (keeps : ∀ r, (f r).reserved = r.reserved) :
    (o.modifyRecord record f).occupied = o.occupied := by
  unfold occupied reservedCount
  rw [modifyRecord_isReserved o record keeps]
  rfl

end

/-- A record that is not done after a rewrite was not done before. -/
theorem modifyRecord_undone {o : SessionOwnerState} {other : Nat} {r : Establishing}
    (found : (o.modifyRecord record f).records[other]? = some r) (pending : r.done = false)
    (keeps : ∀ r, r.done = true → (f r).done = true) :
    ∃ old, o.records[other]? = some old ∧ old.done = false ∧
      (record = other → (f old).done = false) := by
  simp only [modifyRecord, List.getElem?_modify, map_eq_map, map_eq_some_iff] at found
  obtain ⟨old, present, same⟩ := found
  refine ⟨old, present, ?_, ?_⟩
  · by_contra finished
    rw [Bool.not_eq_false] at finished
    split at same
    · exact Bool.false_ne_true (pending.symm.trans (same ▸ keeps old finished))
    · exact Bool.false_ne_true (pending.symm.trans (same ▸ finished))
  · rintro rfl
    rw [if_pos rfl] at same
    exact same ▸ pending

/-- Publishing the dialled connection on the record keeps the invariant. -/
theorem Inv.publish (inv : s.Inv) {record conn : Nat}
    (present : s.callers[t]? = some ⟨key, .dialed record conn⟩) :
    (s.resume t key (s.owner.modifyRecord record fun r => { r with conn := some conn })
      (.gated record conn)).Inv := by
  obtain ⟨reserving, bare⟩ := inv.sound t _ present
  have running := reserving.toRunning
  refine inv.resume present (others_modifyRecord s.owner record ?_ none (some conn)) ?_ ?_
    inv.endpoints (fun _ runs => .inl runs) (fun _ => nofun) (fun _ holds => .inl holds) ?_ ?_
  · exact fun _ done => done
  · refine ⟨?_, ⟨bare.present, bare.unused⟩, ?_⟩
    · exact
      { endpoint := running.endpoint
        allocated := by simpa [modifyRecord] using running.allocated
        registered := running.registered
        dialed := bare.present
        known := by
          simp [recordConn, modifyRecord, List.getElem?_eq_getElem running.allocated] }
    · rw [modifyRecord_isReserved]
      · exact reserving.reserved
      · exact fun _ => rfl
  · rw [modifyRecord_occupied]
    · exact inv.ledger
    · exact fun _ => rfl
  · intro other found_record found
    by_cases own : some record = some found_record
    · exact .inl ⟨inv.endpoint_unique present own found, own⟩
    · exact .inr ⟨own, found⟩
  · intro other r found pending
    obtain ⟨old, before, undone, _⟩ := modifyRecord_undone found pending fun _ done => done
    exact inv.undone other old before undone

/-- The critical section after the dial keeps the invariant. -/
theorem Inv.publishStep (inv : s.Inv)
    (present : s.callers[t]? = some ⟨key, .dialed record conn⟩) :
    (s.publishStep t key record conn).Inv := by
  have published := inv.publish present
  unfold OwnerSystem.publishStep publishConn
  by_cases closed : s.owner.closed = true
  · -- the owner was closed in the meantime: the connection is asked to close again
    have there := resume_present present
      (s.owner.modifyRecord record fun r => { r with conn := some conn }) (.gated record conn)
    have tracked : Tracked _ key record conn := (published.sound t _ there).1
    have sound : Way.Sound _ key conn (.outbound record) :=
      Way.Sound.quiet tracked (quiet_requestClose _ conn)
    have moved : ((s.resume t key _ _).resume t key _
        (failed (.outbound record) conn (err .closed "owner closed"))).Inv :=
      published.quiet there (quiet_requestClose _ conn) rfl rfl (fun _ => nofun) (sound.failed _)
    rw [resume_resume] at moved
    rw [if_pos (by exact closed)]
    exact moved
  · rw [if_neg (by exact closed)]
    exact published

/-- A new session object leaves everything to the others. -/
theorem others_newSession (o : SessionOwnerState) (conn : Nat) (peer : Bytes) (outbound : Bool)
    (mine converted handle : Option Nat) :
    Others o (newSession o conn peer outbound) mine converted handle (some conn) where
  records := Nat.le_refl _
  registered := fun _ _ _ found => found
  known := fun _ _ _ => rfl
  reserved := fun _ _ _ => rfl
  done := fun _ done => done
  conns := Nat.le_refl _
  asked := fun _ asked => asked
  links := by
    intro id link found
    rw [newSession, List.getElem?_append_left (lt_of_link found)]
    exact found
  values := fun _ member => .inl member
  built := by
    intro session member
    rcases List.mem_append.mp member with before | new
    · exact .inl ⟨session, before, rfl⟩
    · rw [List.mem_singleton.mp new]
      exact .inr rfl

/-- A new session object is known to its coroutine only. -/
theorem Inv.unpublished_newSession (inv : s.Inv) (conn : Nat) (peer : Bytes) (outbound : Bool) :
    (newSession s.owner conn peer outbound).Unpublished s.owner.heap.length conn outbound where
  built := ⟨peer, by simp [newSession, Session.link]⟩
  absent := fun member => Nat.lt_irrefl _ (inv.installed _ member)

/-- Nobody holds the next session object. -/
theorem Inv.unheld_next (inv : s.Inv) :
    Unheld s.callers (fun a => a.pc.handle?) s.owner.heap.length := by
  intro u a found holds
  obtain ⟨conn, outbound, unpublished⟩ := (inv.sound u a found).unpublished holds
  obtain ⟨peer, built⟩ := unpublished.built
  exact Nat.lt_irrefl _ (lt_of_link built)

/-- The session object of a finished handshake keeps the invariant. -/
theorem Inv.shaken (inv : s.Inv) (present : s.callers[t]? = some ⟨key, pc⟩)
    (bare : pc.bareConn? = some conn) (same : pc.record? = way.record)
    (sound : way.Sound s.owner key conn) (peer : Bytes) :
    (s.resume t key (newSession s.owner conn peer way.isOutbound)
      (.installing way s.owner.heap.length conn)).Inv := by
  have others := others_newSession s.owner conn peer way.isOutbound none none pc.handle?
  refine inv.resume present (bare ▸ others.weaken _ nofun) ?_ inv.ledger inv.endpoints
    (fun _ runs => .inl (same.trans runs)) ?_ (fun _ => nofun) ?_ inv.undone
  · exact ⟨others.way (fun _ _ => nofun) sound, inv.unpublished_newSession conn peer _⟩
  · rintro id ⟨⟩
    exact .inr inv.unheld_next
  · intro other record found
    by_cases own : pc.record? = some record
    · exact .inl ⟨inv.endpoint_unique present own found, same.symm.trans own⟩
    · exact .inr ⟨own, found⟩

/-- A coroutine that arrives and runs no record keeps the invariant, over an owner that may
have one more connection. -/
theorem Inv.arrive (inv : s.Inv) {arrived : Caller} {o' : SessionOwnerState}
    (others : Others s.owner o' none none none none)
    (kept : o'.options = s.owner.options ∧ o'.establishing = s.owner.establishing ∧
      o'.records = s.owner.records ∧ o'.byIdentity = s.owner.byIdentity ∧
      o'.byEndpoint = s.owner.byEndpoint)
    (sound : arrived.pc.Sound o' arrived.key) (idle : arrived.pc.record? = none)
    (unbuilt : arrived.pc.handle? = none)
    (fresh : ∀ conn, arrived.pc.bareConn? = some conn → s.owner.conns.length ≤ conn) :
    ({ s with owner := o', callers := s.callers ++ [arrived] } : OwnerSystem).Inv := by
  obtain ⟨options, establishing, records, byIdentity, byEndpoint⟩ := kept
  refine
    { ledger := ?_
      endpoints := ?_
      installed := ?_
      used := ?_
      sound := ?_
      runners := inv.runners.concat fun record runs => absurd (idle.symm.trans runs) nofun
      handles := inv.handles.concat fun id holds => absurd (unbuilt.symm.trans holds) nofun
      bares := inv.bares.concat fun conn holds => inv.unheld_conn (fresh conn holds)
      covered := ?_
      undone := ?_ }
  · change o'.occupied ≤ o'.options.maxSessions
    have counts : o'.occupied = s.owner.occupied := by
      unfold occupied reservedCount isReserved
      rw [establishing, records, byIdentity]
    rw [counts, options]
    exact inv.ledger
  · intro other id found
    rw [byIdentity]
    exact inv.endpoints other id (by rw [← byEndpoint]; exact found)
  · intro id member
    exact others.heap (inv.installed id (by rw [← byIdentity]; exact member))
  · intro session member
    obtain ⟨old, before, same⟩ := (others.built session member).resolve_right nofun
    exact same ▸ Nat.lt_of_lt_of_le (inv.used old before) others.conns
  · intro u a found
    rcases List.getElem?_push_cases found with ⟨_, rfl⟩ | found
    · exact sound
    · exact others.sound (fun _ _ => nofun) (fun _ _ => nofun) (fun _ _ => nofun)
        (inv.sound u a found)
  · intro other record found
    obtain ⟨u, pc, at_u, runs⟩ := inv.covered other record (by rw [← establishing]; exact found)
    exact ⟨u, pc, (List.getElem?_append_left (List.getElem?_eq_some_iff.mp at_u).1).trans at_u, runs⟩
  · intro record r found pending
    obtain ⟨other, registered⟩ := inv.undone record r (by rw [← records]; exact found) pending
    exact ⟨other, by change o'.establishing.lookup other = _; rw [establishing]; exact registered⟩

/-- Converting a reservation changes neither the connection nor the end of any record. -/
theorem convertReservation_records (o : SessionOwnerState) (record : Option Nat) (other : Nat) :
    ((o.convertReservation record).records[other]?).map (fun r => (r.conn, r.done)) =
      (o.records[other]?).map fun r => (r.conn, r.done) := by
  cases record with
  | none => rfl
  | some own =>
    simp only [convertReservation, modifyRecord, List.getElem?_modify]
    cases o.records[other]? with
    | none => rfl
    | some r => by_cases same : own = other <;> simp [same]

/-- An installation takes nothing from the others but the session it publishes. -/
theorem others_adopted (o : SessionOwnerState) (record : Option Nat) (peer : Bytes) (id : Nat)
    (endpoint : Bytes) (evicted bare : Option Nat) :
    Others o (((o.convertReservation record).mapIdentity peer id).adoptLocked id endpoint evicted)
      none record (some id) bare := by
  have fields := convertReservation_records o record
  have same : (o.convertReservation record).establishing = o.establishing ∧
      (o.convertReservation record).conns = o.conns ∧ (o.convertReservation record).heap = o.heap ∧
      (o.convertReservation record).byIdentity = o.byIdentity ∧
      (o.convertReservation record).records.length = o.records.length := by
    cases record <;> simp [convertReservation, modifyRecord]
  refine
    { records := Nat.le_of_eq same.2.2.2.2.symm
      registered := fun other r _ found => (congrArg (lookup other) same.1).trans found
      known := ?_
      reserved := ?_
      done := ?_
      conns := Nat.le_of_eq (congrArg List.length same.2.1).symm
      asked := fun conn asked => by
        change ((o.convertReservation record).conns[conn]?.map _).getD false = true
        rw [same.2.1]
        exact asked
      links := ?_
      values := ?_
      built := ?_ }
  · intro other _ _
    have conns := congrArg (Option.map Prod.fst) (fields other)
    simp only [Option.map_map] at conns
    exact congrArg (fun found => found.getD none) conns
  · intro other apart _
    exact (convertReservation_isReserved record other).trans (by simp [apart])
  · intro other done
    have ends := congrArg (Option.map Prod.snd) (fields other)
    simp only [Option.map_map] at ends
    exact (congrArg (fun found => found.getD false) ends).trans done
  · intro other link found
    have kept := (quiet_modifySession o id (f := fun s => { s with quotaHeld := s.quotaHeld })
      (fun _ => rfl) (fun _ dead => dead) fun _ held => held).link other
    simp only [adoptLocked, mapIdentity, modifySession, List.getElem?_modify, same.2.2.1] at kept ⊢
    rw [← found]
    cases o.heap[other]? with
    | none => rfl
    | some session => by_cases equal : id = other <;> simp [equal, Session.link]
  · intro other member
    rcases mapIdentity_values.mp member with rfl | ⟨key, _, found⟩
    · exact .inr rfl
    · exact .inl (mem_values_iff.mpr ⟨key, same.2.2.2.1 ▸ found⟩)
  · intro session member
    obtain ⟨other, found⟩ := List.mem_iff_getElem?.mp member
    simp only [adoptLocked, mapIdentity, modifySession, List.getElem?_modify, same.2.2.1,
      Option.map_eq_map, Option.map_eq_some_iff] at found
    obtain ⟨old, before, equal⟩ := found
    refine .inl ⟨old, List.mem_of_getElem? before, ?_⟩
    rw [← equal]
    split <;> rfl

section

variable (inv : s.Inv)

include inv

/-- Publishing a session keeps the invariant, once the quota and the endpoints are accounted
for. -/
theorem Inv.adopt
    (present : s.callers[t]? = some ⟨key, .installing way id conn⟩) (record : Option Nat)
    (own : ∀ r, record = some r → way.record = some r) (peer : Bytes) (evicted : Option Nat)
    (adopted : o' = ((s.owner.convertReservation record).mapIdentity peer id).adoptLocked id key
      evicted)
    (ledger : o'.occupied ≤ s.owner.options.maxSessions) (endpoints : o'.EndpointsInstalled) :
    (s.resume t key o' (.evicting way id conn evicted)).Inv := by
  obtain ⟨sound, _⟩ := inv.sound t _ present
  have others := others_adopted s.owner record peer id key evicted none
  rw [← adopted] at others
  have options : o'.options = s.owner.options ∧ o'.establishing = s.owner.establishing := by
    rw [adopted]
    cases record <;> exact ⟨rfl, rfl⟩
  refine inv.resume present (others.weaken _ own) ?_ (options.1 ▸ ledger) endpoints
    (fun _ runs => .inl runs) (fun _ => nofun) (fun _ => nofun) ?_ ?_
  · exact others.way (fun _ _ => nofun) sound
  · intro other own found
    rw [options.2] at found
    by_cases runs : way.record = some own
    · exact .inl ⟨inv.endpoint_unique present runs found, runs⟩
    · exact .inr ⟨runs, found⟩
  · intro other r found pending
    have fields := convertReservation_records s.owner record other
    rw [show (s.owner.convertReservation record).records[other]? = some r by
      rw [adopted] at found; exact found] at fields
    obtain ⟨old, before, equal⟩ := map_eq_some_iff.mp fields.symm
    rw [options.2]
    exact inv.undone other old before ((congrArg Prod.snd equal).trans pending)

/-- The critical section of `InstallSession` keeps the invariant. -/
theorem Inv.installStep
    (present : s.callers[t]? = some ⟨key, .installing way id conn⟩) (session : Session) :
    (s.installStep t key way id conn session).Inv := by
  obtain ⟨sound, _⟩ := inv.sound t _ present
  have registered : ∀ own, way.record = some own → own ∈ s.owner.establishing.values :=
    fun own runs => mem_values_iff.mpr ⟨key, (sound.running runs).registered⟩
  have outcome := installLocked_outcome s.owner id session key way.record
  unfold OwnerSystem.installStep
  cases result : s.owner.installLocked id session key way.record with
  | mk owner installed =>
    rw [result] at outcome
    cases installed with
    | refused error =>
      have same : owner = s.owner := by
        cases outcome
        rfl
      subst same
      have quiet := quiet_refuse s.owner way conn
      exact inv.quiet present quiet (failed_record error) (failed_handle error)
        (fun _ => by simp) ((sound.quiet quiet).failed error)
    | fenced winner =>
      have quiet : Quiet s.owner owner := by
        cases outcome with
        | fenced _ opened mapped loses =>
          exact quiet_fenceLocked s.owner id session.conn key (mem_values_of_lookup mapped)
      exact inv.quiet present quiet (finished_record winner)
        (finished_handle winner) (fun _ => by simp) ((sound.quiet quiet).finished winner)
    | won evicted =>
      obtain ⟨ledger, endpoints, _, _⟩ :=
        installLocked_won inv.ledger inv.endpoints registered result
      cases outcome with
      | evicted winner opened mapped wins =>
        exact inv.adopt present none nofun session.peerIdentity (some winner) rfl ledger endpoints
      | added opened absent room =>
        exact inv.adopt present way.record (fun _ own => own) session.peerIdentity none rfl ledger
          endpoints

/-- `evicted->Kill` keeps the invariant. -/
theorem Inv.evictStep {evicted : Option Nat}
    (present : s.callers[t]? = some ⟨key, .evicting way id conn evicted⟩) :
    (s.resume t key (evicted.elim s.owner s.owner.kill) (.starting way id conn)).Inv := by
  have quiet : Quiet s.owner (evicted.elim s.owner s.owner.kill) := by
    cases evicted with
    | none => exact refl _
    | some old => exact quiet_kill _ old
  exact inv.quiet present quiet rfl rfl (fun _ => nofun)
    (Way.Sound.quiet (inv.sound t _ present) quiet)

/-- The registration of reader and writer keeps the invariant. -/
theorem Inv.beginStep
    (present : s.callers[t]? = some ⟨key, .starting way id conn⟩) (reader writer : Bool) :
    (s.beginStep t key way id conn reader writer).Inv := by
  have sound : way.Sound s.owner key conn := inv.sound t _ present
  have quiet := quiet_startTasks s.owner id reader writer
  unfold OwnerSystem.beginStep
  cases result : s.owner.startTasks id reader writer with
  | mk owner started =>
    rw [result] at quiet
    cases started with
    | ok session =>
      exact inv.quiet present quiet (finished_record session)
        (finished_handle session) (fun _ => by simp) ((sound.quiet quiet).finished session)
    | error error =>
      have refused := quiet.trans (quiet_refuse owner way conn)
      exact inv.quiet present refused (failed_record error)
        (failed_handle error) (fun _ => by simp) ((sound.quiet refused).failed error)

/-- The last critical section of `GetSession` keeps the invariant. -/
theorem Inv.settleStep {conn : Option Nat} {made : Except Error Nat}
    (present : s.callers[t]? = some ⟨key, .settling record conn made⟩) :
    (s.settleStep t key record conn made).Inv := by
  obtain ⟨running, answered⟩ := inv.sound t _ present
  have ends : ∀ r : Establishing, (r.settled made).done = true := by
    intro r
    cases made <;> rfl
  have keeps : ∀ r : Establishing, (r.settled made).reserved = r.reserved := by
    intro r
    cases made <;> rfl
  have others := others_modifyRecord s.owner record (f := fun r => r.settled made)
    (fun r _ => ends r) none none
  unfold OwnerSystem.settleStep settleLocked
  dsimp only
  rw [if_pos (by exact running.registered)]
  -- the endpoint of another record is not the one that is erased
  have apart : ∀ other r, record ≠ r → s.owner.establishing.lookup other = some r → other ≠ key := by
    rintro other r differs found rfl
    exact differs (Option.some.inj (running.registered.symm.trans found))
  refine inv.resume present
    { others with
      registered := fun other r differs found => (lookup_erase_ne
        (apart other r (fun same => differs (congrArg some same)) found)).trans found } ?_ ?_
    inv.endpoints (fun _ => nofun) (fun _ => nofun) (fun _ => nofun) ?_ ?_
  · rintro c error kept failed
    obtain ⟨dialed, asked⟩ := answered c error kept failed
    cases failed
    exact ⟨dialed, asked⟩
  · refine Nat.le_trans (Nat.le_trans ?_ (Nat.le_of_eq (modifyRecord_occupied s.owner record keeps)))
      inv.ledger
    exact Nat.add_le_add_left (count_erase_le _ _ _) _
  · intro other r found
    by_cases same : other = key
    · rw [same] at found
      exact absurd ((lookup_erase _ _).symm.trans found) nofun
    · have before := (lookup_erase_ne same).symm.trans found
      refine .inr ⟨fun runs => same (inv.endpoint_unique present runs before), before⟩
  · intro other r found pending
    obtain ⟨old, before, undone, own⟩ := modifyRecord_undone found pending fun r _ => ends r
    have differs : record ≠ other := fun same => absurd (ends old) (by simp [own same])
    obtain ⟨endpoint, registered⟩ := inv.undone other old before undone
    exact ⟨endpoint, (lookup_erase_ne (apart endpoint other differs registered)).trans
      registered⟩

/-- Closing the connection that a failed establishment left behind keeps the invariant. -/
theorem Inv.abandonStep {conn abandoned : Option Nat} {made : Except Error Nat}
    (present : s.callers[t]? = some ⟨key, .abandoning conn abandoned made⟩) :
    (s.resume t key (abandoned.elim s.owner s.owner.requestClose)
      (.returned (.established conn made))).Inv := by
  have quiet : Quiet s.owner (abandoned.elim s.owner s.owner.requestClose) := by
    cases abandoned with
    | none => exact refl _
    | some old => exact quiet_requestClose _ old
  refine inv.quiet present quiet rfl rfl (fun _ => nofun) ?_
  intro c error kept failed
  obtain ⟨dialed, asked | left⟩ := inv.sound t _ present c error kept failed
  · exact quiet.asked c asked
  · rw [left]
    exact closeAsked_requestClose dialed

/-- A connection that was just dialled or accepted has no session. -/
theorem Inv.bare_dialed :
    Bare { s.owner with conns := s.owner.conns ++ [{}] } s.owner.conns.length where
  present := by simp
  unused := fun session member same => Nat.lt_irrefl _ (same ▸ inv.used session member)

end

/-- A failure that is settled without a connection. -/
theorem Sound.unconnected {o : SessionOwnerState} (running : o.Running key record)
    (made : Except Error Nat) : (Pc.settling record none made).Sound o key :=
  ⟨running, fun _ _ => nofun⟩

/-- The steps of a coroutine keep the invariant. -/
theorem Inv.callerStep (inv : s.Inv) (present : s.callers[t]? = some ⟨key, pc⟩) {event : OwnerEvent}
    (stepped : s.callerStep t key pc event = some s') : s'.Inv := by
  have sound := inv.sound t _ present
  unfold OwnerSystem.callerStep at stepped
  split at stepped
  case h_3 | h_4 =>
    cases stepped
    exact inv.quiet present (refl _) rfl rfl (fun _ => nofun) ⟨sound, fun _ => nofun⟩
  case h_5 | h_7 =>
    cases stepped
    exact inv.quiet present (refl _) rfl rfl (fun _ => nofun)
      (Sound.unconnected (Reserving.toRunning sound) _)
  case h_10 | h_13 =>
    rename_i record conn _ error
    cases stepped
    have quiet := quiet_requestClose s.owner conn
    have way : Way.Sound s.owner key conn (.outbound record) := sound.1
    exact inv.quiet present quiet rfl rfl (fun _ => nofun) ((way.quiet quiet).failed error)
  case h_11 | h_14 =>
    rename_i record conn _ error
    cases stepped
    have way : Way.Sound s.owner key conn (.outbound record) := sound.1
    exact inv.quiet present (refl _) rfl rfl (fun _ => nofun) (way.failed error)
  case h_16 | h_17 =>
    cases stepped
    exact inv.quiet present (refl _) rfl rfl (fun _ => nofun) trivial
  case h_21 | h_23 =>
    rename_i error
    cases stepped
    exact inv.quiet present (refl _) (failed_record error) (failed_handle error)
      (fun _ => by simp) (Way.Sound.failed sound error)
  -- the first critical section, then the waiter
  · cases stepped
    exact inv.enterStep present
  · cases stepped
    exact inv.pollStep present
  -- the dial
  · cases stepped
    have quiet := quiet_dialed s.owner
    refine inv.quiet present quiet rfl rfl ?_ ⟨?_, inv.bare_dialed⟩
    · rintro conn ⟨⟩
      exact .inr (Nat.le_refl _)
    · exact (Others.of_quiet quiet none none none none).reserving nofun nofun sound
  · cases stepped
    exact inv.publishStep present
  -- the checkpoint and the handshake
  · cases stepped
    exact inv.quiet present (refl _) rfl rfl (fun _ same => .inl same) sound
  · rename_i record conn _ peer
    split at stepped <;> cases stepped
    have way : Way.Sound s.owner key conn (.outbound record) := sound.1
    exact inv.shaken present rfl rfl way peer
  · rename_i conn _ peer
    split at stepped <;> cases stepped
    have way : Way.Sound s.owner key conn .inbound := trivial
    exact inv.shaken present rfl rfl way peer
  -- the installation
  · obtain ⟨session, _, rfl⟩ := map_eq_some_iff.mp stepped
    exact inv.installStep present session
  · rename_i error
    cases stepped
    exact inv.quiet present (refl _) (failed_record error) (failed_handle error)
      (fun _ => by simp) (sound.1.failed error)
  · cases stepped
    exact inv.evictStep present
  · cases stepped
    exact inv.beginStep present _ _
  -- the settlement
  · cases stepped
    exact inv.settleStep present
  · cases stepped
    exact inv.abandonStep present
  · cases stepped
    exact inv.quiet present (quiet_requestClose _ _) rfl rfl (fun _ => nofun) trivial
  · cases stepped

/-- A seal is quiet for sessions and records. -/
theorem quiet_sealed (o : SessionOwnerState) (closed : Bool) (reason : Option Error) :
    Quiet o { o with closed, closeReason := reason } :=
  { refl o with
    endpoints := id
    holders := id
    dead := fun _ dead => dead
    asked := fun _ asked => asked }

/-- The steps of the environment keep the invariant. -/
theorem Inv.environmentStep (inv : s.Inv) {event : OwnerEvent}
    (stepped : s.environmentStep event = some s') : s'.Inv := by
  have quietly : ∀ {o'}, Quiet s.owner o' → ({ s with owner := o' } : OwnerSystem).Inv :=
    fun quiet => inv.environment quiet s.sealedSessions s.sealedConns
  cases environmentStep_turn stepped with
  | call named =>
    exact inv.arrive (Others.of_quiet (refl _) none none none none) ⟨rfl, rfl, rfl, rfl, rfl⟩
      named rfl rfl (fun _ => nofun)
  | accept =>
    refine inv.arrive (Others.of_quiet (quiet_dialed _) none none none none) ⟨rfl, rfl, rfl, rfl, rfl⟩
      inv.bare_dialed rfl rfl ?_
    rintro conn ⟨⟩
    exact Nat.le_refl _
  | kill => exact quietly (quiet_kill _ _)
  | killExit => exact quietly (quiet_killExit _ _)
  | taskExit => exact quietly (quiet_taskExit _ _)
  | release => exact quietly (quiet_releaseExit _ _)
  | sweep => exact quietly (quiet_releasedLocked _ _)
  | connReleased => exact quietly (quiet_markReleased _ _)
  | sealing =>
    unfold OwnerSystem.sealStep
    dsimp only
    split
    · exact quietly (quiet_sealed s.owner s.owner.closed _)
    · exact inv.environment (quiet_sealed s.owner true _) _ _
  | sealKill => exact inv.environment (quiet_kill _ _) _ _
  | sealClose => exact inv.environment (quiet_requestClose _ _) _ _

/-- Every step keeps the invariant. -/
theorem Inv.step (inv : s.Inv) {event : OwnerEvent} (stepped : s.step event = some s') : s'.Inv := by
  unfold OwnerSystem.step at stepped
  split at stepped
  · rename_i t _
    obtain ⟨caller, present, stepped⟩ := bind_eq_some_iff.mp stepped
    exact inv.callerStep present stepped
  · exact inv.environmentStep stepped

/-- A fresh owner has the invariant. -/
theorem inv_start (begun : IsStart s) : s.Inv := by
  obtain ⟨options, _, rfl⟩ := begun
  exact
    { ledger := Nat.zero_le _
      endpoints := by intro key id found; simp at found
      installed := by intro id member; simp [AList.values] at member
      sound := by intro t a found; simp at found
      runners := Exclusive.nil
      handles := Exclusive.nil
      covered := by intro key record found; simp at found
      undone := by intro record r found; simp at found
      used := by intro session member; simp at member
      bares := Exclusive.nil }

/-- Every reachable state has the invariant. -/
theorem inv_reachable (reachable : machine.Reachable s) : s.Inv :=
  reachable.invariant Inv (fun _ begun => inv_start begun) fun _ _ _ inv stepped => inv.step stepped

end OwnerSystem

end BbtInfra.Rpc
