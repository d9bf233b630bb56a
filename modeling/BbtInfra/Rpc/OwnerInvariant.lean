import BbtInfra.Lib.Exclusive
import BbtInfra.Rpc.OwnerLedger

/-!
# The invariant of a session owner

What holds between the critical sections of any number of coroutines: the quota ledger, the
correspondence of establishing records with the coroutines that run them, and what each
coroutine may rely on at its program counter. A step moves one coroutine and rewrites the
owner; `Others` says what such a rewrite leaves to every other coroutine, and the step
lemmas follow the kinds of rewrite: quiet, a reservation, a published connection, a new
session, an installation, a settlement.
-/
namespace BbtInfra.Rpc

open Lib

namespace SessionOwnerState

/-- The connection that a record knows. -/
def recordConn (o : SessionOwnerState) (record : Nat) : Option Nat :=
  (o.records[record]?.map Establishing.conn).getD none

/-- The record is done. -/
def isDone (o : SessionOwnerState) (record : Nat) : Bool :=
  (o.records[record]?.map Establishing.done).getD false

/-- The coroutine with this endpoint runs the establishment of this record. -/
structure Running (o : SessionOwnerState) (key : Bytes) (record : Nat) : Prop where
  endpoint : key ≠ []
  allocated : record < o.records.length
  registered : o.establishing.lookup key = some record

/-- An establishment that still holds its reservation. -/
structure Reserving (o : SessionOwnerState) (key : Bytes) (record : Nat) : Prop extends
    Running o key record where
  reserved : o.isReserved record = true

/-- A connection whose closing is settled: it was asked to close, or somebody still has it. -/
def Answered (o : SessionOwnerState) (conn : Nat) (kept : Option Nat) : Prop :=
  conn < o.conns.length ∧ (o.closeAsked conn = true ∨ kept = some conn)

/-- An establishment whose record knows its connection. -/
structure Tracked (o : SessionOwnerState) (key : Bytes) (record conn : Nat) : Prop extends
    Running o key record where
  dialed : conn < o.conns.length
  known : o.recordConn record = some conn

/-- A session whose link is known is in the heap. -/
theorem lt_of_link {o : SessionOwnerState} {id : Nat} {link : Nat × Bytes × Bool}
    (found : (o.heap[id]?).map Session.link = some link) : id < o.heap.length := by
  obtain ⟨session, present, _⟩ := Option.map_eq_some_iff.mp found
  exact (List.getElem?_eq_some_iff.mp present).1

/-- No session has this connection. -/
def Unused (o : SessionOwnerState) (conn : Nat) : Prop :=
  ∀ session ∈ o.heap, session.conn ≠ conn

/-- A connection whose handshake is not over. -/
structure Bare (o : SessionOwnerState) (conn : Nat) : Prop where
  present : conn < o.conns.length
  unused : o.Unused conn

/-- A session object that only the coroutine at `InstallSession` knows. -/
structure Unpublished (o : SessionOwnerState) (id conn : Nat) (outbound : Bool) : Prop where
  built : ∃ peer, (o.heap[id]?).map Session.link = some (conn, peer, outbound)
  absent : id ∉ o.byIdentity.values

end SessionOwnerState

open SessionOwnerState

/-- An outbound way. -/
def Way.isOutbound : Way → Bool
  | .outbound _ => true
  | .inbound => false

/-- What a coroutine on this way relies on. -/
def Way.Sound (o : SessionOwnerState) (key : Bytes) (conn : Nat) : Way → Prop
  | .outbound record => o.Tracked key record conn
  | .inbound => True

/-- What a coroutine relies on at its program counter. -/
def Pc.Sound (o : SessionOwnerState) (key : Bytes) : Pc → Prop
  | .entering => key ≠ []
  | .waiting record _ => record < o.records.length
  | .dialing record => o.Reserving key record
  | .dialed record conn => o.Reserving key record ∧ o.Bare conn
  | .gated record conn | .shaking record conn =>
    o.Tracked key record conn ∧ o.Bare conn ∧ o.isReserved record = true
  | .greeting conn => o.Bare conn
  | .installing way id conn => way.Sound o key conn ∧ o.Unpublished id conn way.isOutbound
  | .evicting way _ conn _ | .starting way _ conn => way.Sound o key conn
  | .settling record conn made =>
    o.Running key record ∧
      ∀ c error, conn = some c → made = .error error → o.Answered c (o.recordConn record)
  | .abandoning conn abandoned made =>
    ∀ c error, conn = some c → made = .error error → o.Answered c abandoned
  | .returned (.established conn made) =>
    ∀ c error, conn = some c → made = .error error → o.closeAsked c = true
  | .returned (.waited record ending) =>
    record < o.records.length ∧ ∀ result, ending = .sawDone result → o.isDone record = true
  | .rejecting _ | .returned _ => True

variable {o o' : SessionOwnerState} {key : Bytes} {pc : Pc}

/-- An outbound way runs the establishment of its record. -/
theorem Way.Sound.running {conn record : Nat} {way : Way}
    (sound : way.Sound o key conn) (runs : way.record = some record) : o.Running key record := by
  cases way with
  | inbound => cases runs
  | outbound own =>
    cases runs
    exact Tracked.toRunning sound

/-- A coroutine that runs a record runs the establishment of its own endpoint. -/
theorem Pc.Sound.running {record : Nat}
    (sound : pc.Sound o key) (runs : pc.record? = some record) : o.Running key record := by
  cases pc with
  | entering | waiting | greeting | abandoning | rejecting | returned => cases runs
  | dialing =>
    cases runs
    exact Reserving.toRunning sound
  | dialed | gated | shaking =>
    cases runs
    exact sound.1.toRunning
  | settling =>
    cases runs
    exact sound.1
  | installing way id conn => exact sound.1.running runs
  | evicting | starting => exact Way.Sound.running sound runs

/-- A session that only one coroutine knows is in the heap and not installed. -/
theorem Pc.Sound.unpublished {id : Nat} (sound : pc.Sound o key) (holds : pc.handle? = some id) :
    ∃ conn outbound, o.Unpublished id conn outbound := by
  cases pc with
  | installing way session conn =>
    cases holds
    exact ⟨conn, way.isOutbound, sound.2⟩
  | _ => cases holds

/-- The connection of an unfinished handshake exists and no session has it. -/
theorem Pc.Sound.bare {conn : Nat}
    (sound : pc.Sound o key) (holds : pc.bareConn? = some conn) : o.Bare conn := by
  cases pc with
  | dialed =>
    cases holds
    exact sound.2
  | gated | shaking =>
    cases holds
    exact sound.2.1
  | greeting =>
    cases holds
    exact sound
  | _ => cases holds

/-- What a rewrite of the owner by one coroutine leaves to the others, when the coroutine may
rewrite the record `mine`, convert the reservation of `converted`, and holds the session
`handle` and the connection `bare`. -/
structure Others (o o' : SessionOwnerState) (mine converted handle bare : Option Nat) : Prop where
  records : o.records.length ≤ o'.records.length
  registered : ∀ key record, mine ≠ some record → o.establishing.lookup key = some record →
    o'.establishing.lookup key = some record
  known : ∀ record, mine ≠ some record → record < o.records.length →
    o'.recordConn record = o.recordConn record
  reserved : ∀ record, converted ≠ some record → record < o.records.length →
    o'.isReserved record = o.isReserved record
  done : ∀ record, o.isDone record = true → o'.isDone record = true
  conns : o.conns.length ≤ o'.conns.length
  asked : ∀ conn, o.closeAsked conn = true → o'.closeAsked conn = true
  links : ∀ (id : Nat) (link : Nat × Bytes × Bool), (o.heap[id]?).map Session.link = some link →
    (o'.heap[id]?).map Session.link = some link
  values : ∀ id ∈ o'.byIdentity.values, id ∈ o.byIdentity.values ∨ handle = some id
  built : ∀ session ∈ o'.heap, (∃ old ∈ o.heap, old.conn = session.conn) ∨
    bare = some session.conn

/-- A rewrite that may touch less leaves at least as much. -/
theorem Others.weaken {converted handle bare : Option Nat}
    (others : Others o o' none converted handle bare) (mine : Option Nat)
    (own : ∀ record, converted = some record → mine = some record) :
    Others o o' mine mine handle bare :=
  { others with
    registered := fun key record _ => others.registered key record nofun
    known := fun record _ => others.known record nofun
    reserved := fun record apart =>
      others.reserved record fun same => apart (own record same) }

/-- A quiet step leaves everything to the others. -/
theorem Others.of_quiet (quiet : Quiet o o')
    (mine converted handle bare : Option Nat) : Others o o' mine converted handle bare where
  records := by rw [quiet.records]
  registered := fun key record _ found => by rw [quiet.establishing]; exact found
  known := fun record _ _ => by rw [recordConn, quiet.records, recordConn]
  reserved := fun record _ _ => by rw [isReserved, quiet.records, isReserved]
  done := fun record done => by rw [isDone, quiet.records]; exact done
  conns := quiet.conns
  asked := quiet.asked
  links := fun id link found => by rw [quiet.link]; exact found
  values := fun id member => .inl (quiet.values member)
  built := by
    intro session member
    have link : session.link ∈ o.heap.map Session.link := by
      rw [← quiet.links]
      exact List.mem_map_of_mem member
    obtain ⟨old, present, same⟩ := List.mem_map.mp link
    exact .inl ⟨old, present, congrArg Prod.fst same⟩

/-- Sessions stay in the heap. -/
theorem Others.heap {mine converted handle bare : Option Nat}
    (others : Others o o' mine converted handle bare) {id : Nat} (inside : id < o.heap.length) :
    id < o'.heap.length :=
  lt_of_link (others.links id _ (by rw [List.getElem?_eq_getElem inside]; rfl))

section Frame

variable {o o' : SessionOwnerState} {mine converted handle bare : Option Nat} {key : Bytes}

variable {conn record : Nat}

section

variable (others : Others o o' mine converted handle bare)

include others

/-- A record that another thread runs keeps running. -/
theorem Others.running
    (apart : mine ≠ some record) (running : o.Running key record) : o'.Running key record where
  endpoint := running.endpoint
  allocated := Nat.lt_of_lt_of_le running.allocated others.records
  registered := others.registered key record apart running.registered

/-- It keeps its reservation. -/
theorem Others.reserving (apart : mine ≠ some record) (kept : converted ≠ some record)
    (reserving : o.Reserving key record) : o'.Reserving key record where
  toRunning := others.running apart reserving.toRunning
  reserved := by rw [others.reserved record kept reserving.allocated, reserving.reserved]

/-- It keeps its connection. -/
theorem Others.tracked (apart : mine ≠ some record) (tracked : o.Tracked key record conn) :
    o'.Tracked key record conn where
  toRunning := others.running apart tracked.toRunning
  dialed := Nat.lt_of_lt_of_le tracked.dialed others.conns
  known := by rw [others.known record apart tracked.allocated, tracked.known]

/-- An answered dial stays answered. -/
theorem Others.answered {kept : Option Nat}
    (answered : o.Answered conn kept) : o'.Answered conn kept :=
  ⟨Nat.lt_of_lt_of_le answered.1 others.conns, answered.2.imp_left (others.asked conn)⟩

/-- A session of another thread stays unpublished. -/
theorem Others.unpublished {id : Nat} {outbound : Bool}
    (apart : handle ≠ some id) (unpublished : o.Unpublished id conn outbound) :
    o'.Unpublished id conn outbound where
  built
    := unpublished.built.imp fun _ found => others.links _ _ found
  absent := fun member => (others.values id member).elim unpublished.absent apart

/-- A bare connection of another thread stays bare. -/
theorem Others.kept_bare (apart : bare ≠ some conn) (sound : o.Bare conn) : o'.Bare conn where
  present := Nat.lt_of_lt_of_le sound.present others.conns
  unused := by
    rintro session member rfl
    rcases others.built session member with ⟨old, present, same⟩ | own
    · exact sound.unused old present same
    · exact apart own

/-- The way of another thread stays sound. -/
theorem Others.way {way : Way} (apart : ∀ record, way.record = some record → mine ≠ some record)
    (sound : way.Sound o key conn) : way.Sound o' key conn := by
  cases way with
  | outbound record => exact others.tracked (apart record rfl) sound
  | inbound => trivial

end

/-- What a coroutine relies on survives the rewrite by another one. -/
theorem Others.sound (others : Others o o' mine mine handle bare) {pc : Pc}
    (apart : ∀ record, pc.record? = some record → mine ≠ some record)
    (unheld : ∀ id, pc.handle? = some id → handle ≠ some id)
    (other : ∀ conn, pc.bareConn? = some conn → bare ≠ some conn) (sound : pc.Sound o key) :
    pc.Sound o' key := by
  cases pc with
  | entering => exact sound
  | waiting record polled => exact Nat.lt_of_lt_of_le sound others.records
  | dialing record => exact others.reserving (apart record rfl) (apart record rfl) sound
  | dialed record conn =>
    exact ⟨others.reserving (apart record rfl) (apart record rfl) sound.1,
      others.kept_bare (other conn rfl) sound.2⟩
  | gated record conn | shaking record conn =>
    refine ⟨others.tracked (apart record rfl) sound.1,
      others.kept_bare (other conn rfl) sound.2.1, ?_⟩
    rw [others.reserved record (apart record rfl) sound.1.allocated, sound.2.2]
  | greeting conn => exact others.kept_bare (other conn rfl) sound
  | installing way id conn =>
    exact ⟨others.way apart sound.1, others.unpublished (unheld id rfl) sound.2⟩
  | evicting way id conn evicted => exact others.way apart sound
  | starting way id conn => exact others.way apart sound
  | settling record conn made =>
    refine ⟨others.running (apart record rfl) sound.1, fun c error kept failed => ?_⟩
    rw [others.known record (apart record rfl) sound.1.allocated]
    exact others.answered (sound.2 c error kept failed)
  | abandoning conn abandoned made =>
    exact fun c error kept failed => others.answered (sound c error kept failed)
  | rejecting conn => trivial
  | returned exit =>
    cases exit with
    | established conn made =>
      exact fun c error kept failed => others.asked c (sound c error kept failed)
    | waited record ending =>
      exact ⟨Nat.lt_of_lt_of_le sound.1 others.records,
        fun result seen => others.done record (sound.2 result seen)⟩
    | refused | live | inbound => trivial

end Frame

/-- The invariant of the owner and its coroutines. -/
structure OwnerSystem.Inv (s : OwnerSystem) : Prop where
  /-- Entries and reservations fit the quota. -/
  ledger : s.owner.occupied ≤ s.owner.options.maxSessions
  endpoints : s.owner.EndpointsInstalled
  installed : ∀ id ∈ s.owner.byIdentity.values, id < s.owner.heap.length
  /-- Sessions have connections. -/
  used : ∀ session ∈ s.owner.heap, session.conn < s.owner.conns.length
  sound : ∀ (t : Nat) (a : Caller), s.callers[t]? = some a → a.pc.Sound s.owner a.key
  /-- A record is run by at most one coroutine. -/
  runners : Exclusive s.callers fun a => a.pc.record?
  /-- An unpublished session belongs to one coroutine. -/
  handles : Exclusive s.callers fun a => a.pc.handle?
  /-- A connection without a session belongs to one coroutine. -/
  bares : Exclusive s.callers fun a => a.pc.bareConn?
  /-- A registered record is run by a coroutine with its endpoint. -/
  covered : ∀ key record, s.owner.establishing.lookup key = some record →
    ∃ (t : Nat) (pc : Pc), s.callers[t]? = some ⟨key, pc⟩ ∧ pc.record? = some record
  /-- A record that is not done is registered. -/
  undone : ∀ record r, s.owner.records[record]? = some r → r.done = false →
    ∃ key, s.owner.establishing.lookup key = some record

namespace OwnerSystem

variable {s : OwnerSystem} {t : Nat} {key : Bytes} {pc pc' : Pc} {o' : SessionOwnerState}

section

variable (inv : s.Inv)

include inv

/-- A registered record is allocated. -/
theorem Inv.allocated {key : Bytes} {record : Nat}
    (found : s.owner.establishing.lookup key = some record) : record < s.owner.records.length := by
  obtain ⟨t, pc, present, runs⟩ := inv.covered key record found
  exact ((inv.sound t _ present).running runs).allocated

/-- A record that a coroutine runs is registered under its endpoint only. -/
theorem Inv.endpoint_unique (present : s.callers[t]? = some ⟨key, pc⟩)
    {record : Nat} (runs : pc.record? = some record) {other : Bytes}
    (found : s.owner.establishing.lookup other = some record) : other = key := by
  obtain ⟨u, pc', at_u, runs'⟩ := inv.covered other record found
  cases inv.runners u t _ _ record at_u present runs' runs
  rw [present] at at_u
  cases at_u
  rfl

/-- A step that moves one coroutine and rewrites the owner keeps the invariant, when the
rewrite leaves the others what they rely on and the record it runs is accounted for. -/
theorem Inv.resume (present : s.callers[t]? = some ⟨key, pc⟩)
    (others : Others s.owner o' pc.record? pc.record? pc.handle? pc.bareConn?) (sound : pc'.Sound o' key)
    (ledger : o'.occupied ≤ o'.options.maxSessions) (endpoints : o'.EndpointsInstalled)
    (runner : ∀ record, pc'.record? = some record →
      pc.record? = some record ∨ Unheld s.callers (fun a => a.pc.record?) record)
    (handle : ∀ id, pc'.handle? = some id →
      pc.handle? = some id ∨ Unheld s.callers (fun a => a.pc.handle?) id)
    (bare : ∀ conn, pc'.bareConn? = some conn →
      pc.bareConn? = some conn ∨ Unheld s.callers (fun a => a.pc.bareConn?) conn)
    (covered : ∀ other record, o'.establishing.lookup other = some record →
      (other = key ∧ pc'.record? = some record) ∨
        (pc.record? ≠ some record ∧ s.owner.establishing.lookup other = some record))
    (undone : ∀ record r, o'.records[record]? = some r → r.done = false →
      ∃ key, o'.establishing.lookup key = some record) : (s.resume t key o' pc').Inv where
  ledger := ledger
  endpoints := endpoints
  installed := by
    intro id member
    rcases others.values id member with before | own
    · exact others.heap (inv.installed id before)
    · obtain ⟨conn, outbound, unpublished⟩ := (inv.sound t _ present).unpublished own
      obtain ⟨peer, built⟩ := unpublished.built
      exact others.heap (lt_of_link built)
  used := by
    intro session member
    refine Nat.lt_of_lt_of_le ?_ others.conns
    rcases others.built session member with ⟨old, before, same⟩ | own
    · exact same ▸ inv.used old before
    · exact ((inv.sound t _ present).bare own).present
  sound := by
    intro u a found
    rcases List.getElem?_set_apart found with ⟨rfl, rfl⟩ | ⟨other, found⟩
    · exact sound
    · refine others.sound ?_ ?_ ?_ (inv.sound u a found)
      · exact fun record runs own => other (inv.runners u t a _ record found present runs own)
      · exact fun id holds own => other (inv.handles u t a _ id found present holds own)
      · exact fun conn holds own => other (inv.bares u t a _ conn found present holds own)
  runners := inv.runners.set present runner
  handles := inv.handles.set present handle
  bares := inv.bares.set present bare
  covered := by
    intro other record found
    have inside : t < s.callers.length := (List.getElem?_eq_some_iff.mp present).1
    rcases covered other record found with ⟨rfl, runs⟩ | ⟨mine, before⟩
    · exact ⟨t, pc', List.getElem?_set_self inside, runs⟩
    · obtain ⟨u, pc_u, at_u, runs⟩ := inv.covered other record before
      have apart : t ≠ u := by
        rintro rfl
        rw [present] at at_u
        cases at_u
        exact mine runs
      exact ⟨u, pc_u, (List.getElem?_set_ne apart).trans at_u, runs⟩
  undone := undone

/-- Nobody holds a connection that does not exist yet. -/
theorem Inv.unheld_conn {conn : Nat} (absent : s.owner.conns.length ≤ conn) :
    Unheld s.callers (fun a => a.pc.bareConn?) conn :=
  fun u a found holds => Nat.lt_irrefl _
    (Nat.lt_of_lt_of_le ((inv.sound u a found).bare holds).present absent)

/-- A quiet step of a coroutine that goes on to run the same record, or none still. -/
theorem Inv.quiet (present : s.callers[t]? = some ⟨key, pc⟩)
    (quiet : Quiet s.owner o') (same : pc'.record? = pc.record?) (unheld : pc'.handle? = none)
    (bare : ∀ conn, pc'.bareConn? = some conn → pc.bareConn? = some conn ∨ s.owner.conns.length ≤ conn)
    (sound : pc'.Sound o' key) : (s.resume t key o' pc').Inv := by
  refine inv.resume present (Others.of_quiet quiet _ _ _ _) sound ?_ (quiet.endpoints inv.endpoints)
    (fun record runs => .inl (same ▸ runs)) (fun id holds => ?_)
    (fun conn holds => (bare conn holds).imp_right inv.unheld_conn) ?_ ?_
  · rw [quiet.options]
    exact Nat.le_trans quiet.occupied_le inv.ledger
  · rw [unheld] at holds
    cases holds
  · intro other record found
    rw [quiet.establishing] at found
    by_cases own : pc.record? = some record
    · exact .inl ⟨inv.endpoint_unique present own found, same.trans own⟩
    · exact .inr ⟨own, found⟩
  · intro record r found pending
    rw [quiet.records] at found
    obtain ⟨other, registered⟩ := inv.undone record r found pending
    exact ⟨other, quiet.establishing ▸ registered⟩

/-- A step of the environment that is quiet for the owner. -/
theorem Inv.environment (quiet : Quiet s.owner o') (sessions conns : List Nat) :
    ({ s with owner := o', sealedSessions := sessions, sealedConns := conns } : OwnerSystem).Inv where
  ledger := by
    rw [quiet.options]
    exact Nat.le_trans quiet.occupied_le inv.ledger
  endpoints := quiet.endpoints inv.endpoints
  installed := fun id member =>
    (Others.of_quiet quiet none none none none).heap (inv.installed id (quiet.values member))
  used := by
    intro session member
    obtain ⟨old, before, same⟩ :=
      ((Others.of_quiet quiet none none none none).built session member).resolve_right nofun
    exact same ▸ Nat.lt_of_lt_of_le (inv.used old before) quiet.conns
  sound := fun u a found =>
    (Others.of_quiet quiet none none none none).sound (fun _ _ => nofun) (fun _ _ => nofun)
      (fun _ _ => nofun) (inv.sound u a found)
  runners := inv.runners
  handles := inv.handles
  bares := inv.bares
  covered := fun other record found =>
    inv.covered other record (by rw [← quiet.establishing]; exact found)
  undone := by
    intro record r found pending
    obtain ⟨other, registered⟩ := inv.undone record r (by rw [← quiet.records]; exact found) pending
    exact ⟨other, quiet.establishing ▸ registered⟩

end

end OwnerSystem

end BbtInfra.Rpc
