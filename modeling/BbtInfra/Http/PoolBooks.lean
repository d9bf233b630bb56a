import Mathlib.Data.List.Nodup
import BbtInfra.Http.Pool
import BbtInfra.Lib.Census
import BbtInfra.Lib.Exclusive

/-!
# Who owns the connections of a pool

Every connection has at most one owner among the calls: a lease, the waiter it was handed to, or
the dial that has just brought it. An entry that is active has its owner, an entry that is idle
has none, and an entry that is being dialled is known to one dial. What the sections of the pool
do to the entries and to the calls is stated for each of the two alone, and put together by the
phases of the entries.
-/
namespace BbtInfra.Http

open Lib Call Option

namespace Call

/-- The connection that a lease, or the waiter of a call, holds. -/
def token (call : Call) : Option Nat :=
  match call.pc with
  | .leased connection => some connection
  | .registering _ | .parked _ | .woken _ => call.handed
  | _ => none

/-- The record that a dial has brought and not stored yet. -/
def record (call : Call) : Option Nat :=
  match call.pc with
  | .dialled _ (.connected record) => some record
  | .dialled _ (.failed _ record) => record
  | _ => none

/-- The connection or record that the call alone may hold. -/
def stake (call : Call) : Option Nat := call.token.or call.record

/-- The entry that the call is dialling. -/
def dial (call : Call) : Option Nat :=
  match call.pc with
  | .dialing id | .dialled id _ => some id
  | _ => none

variable {call : Call} {c : Nat}

/-- A call holds a connection or a record, not both. -/
theorem stake_of_token (held : call.token = some c) : call.stake = some c := by
  rw [stake, held]
  rfl

/-- A record is a stake. -/
theorem stake_of_record (brought : call.record = some c) : call.stake = some c := by
  have none' : call.token = none := by
    unfold record at brought
    unfold token
    split at brought <;> simp_all
  rw [stake, none', brought]
  rfl

/-- A stake is a connection held or a record brought. -/
theorem stake_cases (stake : call.stake = some c) : call.token = some c ∨ call.record = some c := by
  cases held : call.token with
  | none =>
    rw [Call.stake, held] at stake
    exact .inr stake
  | some d =>
    rw [Call.stake, held] at stake
    exact .inl stake

end Call

/-- Some call holds the connection. -/
def Held (calls : List Call) (c : Nat) : Prop :=
  ∃ (i : Nat) (call : Call), calls[i]? = some call ∧ call.token = some c

/-- The phase of an entry fits what is held. -/
def Entry.Fits (entry : Entry) (held : Nat → Prop) : Prop :=
  match entry.phase with
  | .dialing => entry.connection = none
  | .active => ∃ c, entry.connection = some c ∧ held c
  | .idle => ∃ c, entry.connection = some c ∧ ¬ held c
  | .retiring => True

/-- A call that waits in the queue and holds nothing. -/
def Call.queues (call : Call) : Bool :=
  match call.pc with
  | .registering _ | .parked _ | .woken _ => call.handed.isNone
  | _ => false

/-- Such a call has no stake and dials nothing. -/
theorem Call.queues_spec {call : Call} (queues : call.queues = true) :
    call.token = none ∧ call.record = none ∧ call.dial = none ∧
      ∀ c, Call.token { call with handed := some c } = some c := by
  unfold Call.queues at queues
  unfold token record dial
  cases pc : call.pc <;> simp_all

namespace PoolState

/-- What holds of the entries alone. -/
structure Files (s : PoolState) : Prop where
  budget : s.entries.length ≤ s.limits.maxConnections
  distinct : (s.entries.map Entry.id).Nodup
  older : ∀ entry ∈ s.entries, entry.id < s.nextEntry
  filed : ∀ entry ∈ s.entries, ∀ c, entry.connection = some c →
    entry.reclaim = some c ∧ ∃ conn, s.conns[c]? = some conn ∧ conn.origin = entry.origin
  known : ∀ entry ∈ s.entries, ∀ d, entry.reclaim = some d → d < s.conns.length
  apart : ∀ entry ∈ s.entries, ∀ other ∈ s.entries, ∀ c, entry.connection = some c →
    other.connection = some c → entry.id = other.id

/-- What holds of the calls alone. -/
structure Stakes (s : PoolState) : Prop where
  staked : Exclusive s.calls stake
  asked : ∀ (i : Nat) (call : Call) (c : Nat), s.calls[i]? = some call → call.stake = some c →
    ∃ conn, s.conns[c]? = some conn ∧ conn.origin = call.origin
  reserving : Exclusive s.calls dial

/-- What holds of the dials and their entries. -/
structure Dials (s : PoolState) : Prop where
  unfiled : ∀ (i : Nat) (call : Call) (d : Nat), s.calls[i]? = some call → call.record = some d →
    ∀ entry ∈ s.entries, entry.reclaim ≠ some d
  reserved : ∀ (i : Nat) (call : Call) (id : Nat), s.calls[i]? = some call → call.dial = some id →
    id < s.nextEntry ∧ ∀ entry ∈ s.entries, entry.id = id → entry.connection = none ∧
      entry.reclaim = none ∧ entry.origin = call.origin ∧
      (entry.phase = .dialing ∧ s.phase ≠ .closed ∨ entry.phase = .retiring ∧ s.phase = .closed)

/-- The invariant of the entries and the calls. -/
structure Books (s : PoolState) : Prop where
  files : s.Files
  kept : s.count .idle ≤ s.limits.maxKeepaliveConnections
  stakes : s.Stakes
  dials : s.Dials
  fits : ∀ entry ∈ s.entries, entry.Fits (Held s.calls)

variable {s next : PoolState} {i : Nat} {call moved : Call} {entry : Entry}

/-- Entries change at most in their phase and their expiry, or go. -/
structure Refiled (s next : PoolState) : Prop where
  origin : ∀ entry ∈ next.entries, ∃ old ∈ s.entries, entry.id = old.id ∧
    entry.origin = old.origin ∧ entry.connection = old.connection ∧ entry.reclaim = old.reclaim ∧
    (entry.phase = old.phase ∨ old.connection ≠ none ∨
      entry.phase = .retiring ∧ next.phase = .closed)
  ids : (next.entries.map Entry.id).Sublist (s.entries.map Entry.id)
  limits : next.limits = s.limits
  conns : next.conns = s.conns
  nextEntry : next.nextEntry = s.nextEntry
  closed : s.phase = .closed → next.phase = .closed
  closing : next.phase = .closed → s.phase = .closed ∨ ∀ entry ∈ next.entries,
    entry.phase = .retiring

/-- Then what holds of the entries goes on holding. -/
theorem Files.refile (files : s.Files) (refiled : s.Refiled next) : next.Files := by
  refine ⟨?_, refiled.ids.nodup files.distinct, ?_, ?_, ?_, ?_⟩
  · have fewer := refiled.ids.length_le
    rw [List.length_map, List.length_map] at fewer
    rw [refiled.limits]
    exact Nat.le_trans fewer files.budget
  · intro entry member
    obtain ⟨old, before, id, _⟩ := refiled.origin entry member
    rw [refiled.nextEntry, id]
    exact files.older old before
  · intro entry member c connected
    obtain ⟨old, before, _, origin, connection, reclaim, _⟩ := refiled.origin entry member
    rw [refiled.conns, origin, reclaim]
    exact files.filed old before c (connection.symm.trans connected)
  · intro entry member d reclaimed
    obtain ⟨old, before, _, _, _, reclaim, _⟩ := refiled.origin entry member
    rw [refiled.conns]
    exact files.known old before d (reclaim.symm.trans reclaimed)
  · intro entry member other member' c connected connected'
    obtain ⟨old, before, id, _, connection, _⟩ := refiled.origin entry member
    obtain ⟨old', before', id', _, connection', _⟩ := refiled.origin other member'
    rw [id, id']
    exact files.apart old before old' before' c (connection.symm.trans connected)
      (connection'.symm.trans connected')

/-- The dials see only what stays. -/
theorem Dials.refile (dials : s.Dials) (refiled : s.Refiled next)
    (records : ∀ (i : Nat) (call : Call) (d : Nat), next.calls[i]? = some call →
      call.record = some d → ∃ (j : Nat) (old : Call), s.calls[j]? = some old ∧
        old.record = some d)
    (reserved : ∀ (i : Nat) (call : Call) (id : Nat), next.calls[i]? = some call →
      call.dial = some id → ∃ (j : Nat) (old : Call), s.calls[j]? = some old ∧
        old.dial = some id ∧ old.origin = call.origin) : next.Dials := by
  refine ⟨?_, ?_⟩
  · intro i call d found brought entry member
    obtain ⟨j, old, before, brought'⟩ := records i call d found brought
    obtain ⟨file, member', _, _, _, reclaim, _⟩ := refiled.origin entry member
    rw [reclaim]
    exact dials.unfiled j old d before brought' file member'
  · intro i call id found dialled
    obtain ⟨j, old, before, dialled', same⟩ := reserved i call id found dialled
    obtain ⟨older, known⟩ := dials.reserved j old id before dialled'
    refine ⟨by rw [refiled.nextEntry]; exact older, ?_⟩
    intro entry member place
    obtain ⟨file, member', id', origin, connection, reclaim, phase⟩ :=
      refiled.origin entry member
    obtain ⟨nothing, empty, asked, stage⟩ := known file member' (id'.symm.trans place)
    refine ⟨connection.trans nothing, reclaim.trans empty, origin.trans (asked.trans same), ?_⟩
    rcases phase with kept | connected | closing
    · rcases stage with ⟨dialing, open'⟩ | ⟨retiring, closed⟩
      · by_cases closed : next.phase = .closed
        · rcases refiled.closing closed with before' | retired
          · exact absurd before' open'
          · exact .inr ⟨retired entry member, closed⟩
        · exact .inl ⟨kept.trans dialing, closed⟩
      · exact .inr ⟨kept.trans retiring, refiled.closed closed⟩
    · exact absurd nothing connected
    · exact .inr closing

variable {c : Nat} {f : Entry → Entry}

/-- A write to one entry, of nothing but its phase and its expiry. -/
theorem updateEntry_refiled (s : PoolState) (id : Nat)
    (same : ∀ entry, (f entry).id = entry.id ∧ (f entry).origin = entry.origin ∧
      (f entry).connection = entry.connection ∧ (f entry).reclaim = entry.reclaim)
    (connected : ∀ entry ∈ s.entries, entry.id = id → entry.connection ≠ none) :
    s.Refiled (s.updateEntry id f) := by
  refine ⟨?_, ?_, rfl, rfl, rfl, fun closed => closed, fun closed => .inl closed⟩
  · intro entry member
    obtain ⟨old, before, rfl⟩ := List.mem_map.mp member
    refine ⟨old, before, ?_⟩
    by_cases here : old.id = id
    · rw [if_pos here]
      obtain ⟨id', origin, connection, reclaim⟩ := same old
      exact ⟨id', origin, connection, reclaim, .inr (.inl (connected old before here))⟩
    · rw [if_neg here]
      exact ⟨rfl, rfl, rfl, rfl, .inl rfl⟩
  · rw [updateEntry, List.map_map]
    have kept : (Entry.id ∘ fun entry => if entry.id = id then f entry else entry) = Entry.id := by
      funext entry
      by_cases here : entry.id = id
      · simp only [Function.comp_apply, if_pos here, (same entry).1]
      · simp only [Function.comp_apply, if_neg here]
    rw [kept]

/-- What the sweep leaves of an entry. -/
theorem sweepEntry_spec {swept : Entry} (left : s.sweepEntry entry = some swept) :
    swept = entry ∨ entry.phase = .idle ∧ swept = retired entry := by
  unfold sweepEntry at left
  split at left
  · split_ifs at left
    cases left
    exact .inl rfl
  · rename_i idle
    split_ifs at left
    · cases left
      exact .inr ⟨idle, rfl⟩
    · cases left
      exact .inl rfl
  · cases left
    exact .inl rfl
  · cases left
    exact .inl rfl

/-- An idle entry behind the sweep was seen and found fresh, and it has not expired. -/
theorem sweepEntry_idle {swept : Entry} (left : s.sweepEntry entry = some swept)
    (idle : swept.phase = .idle) : swept = entry ∧ s.stale entry = false := by
  rcases sweepEntry_spec left with rfl | ⟨_, rfl⟩
  · refine ⟨rfl, ?_⟩
    simp only [sweepEntry, idle] at left
    split_ifs at left with spoiled
    · have changed := congrArg (Option.map Entry.phase) left
      rw [Option.map_some, Option.map_some, idle] at changed
      cases changed
    · simp only [Bool.or_eq_true, not_or, Bool.not_eq_true] at spoiled
      exact spoiled.1
  · cases idle

/-- The sweep retires idle entries and erases retiring ones. -/
theorem sweepLocked_refiled (s : PoolState)
    (connected : ∀ entry ∈ s.entries, entry.phase = .idle → entry.connection ≠ none) :
    s.Refiled s.sweepLocked := by
  refine ⟨?_, ?_, rfl, rfl, rfl, fun closed => closed, fun closed => .inl closed⟩
  · intro entry member
    obtain ⟨old, before, left⟩ := List.mem_filterMap.mp member
    refine ⟨old, before, ?_⟩
    rcases sweepEntry_spec left with rfl | ⟨idle, rfl⟩
    · exact ⟨rfl, rfl, rfl, rfl, .inl rfl⟩
    · exact ⟨rfl, rfl, rfl, rfl, .inr (.inl (connected old before idle))⟩
  · apply List.filterMap_sublist_map
    intro old entry left
    rcases sweepEntry_spec left with rfl | ⟨_, rfl⟩
    · rfl
    · rfl

/-- An idle entry has a connection. -/
theorem Books.idle_connected (books : s.Books) (member : entry ∈ s.entries)
    (idle : entry.phase = .idle) : entry.connection ≠ none := by
  have fits := books.fits entry member
  rw [Entry.Fits, idle] at fits
  obtain ⟨c, connected, _⟩ := fits
  rw [connected]
  exact some_ne_none c

/-- `SweepLocked` keeps the books. -/
theorem Books.sweep (books : s.Books) : s.sweepLocked.Books := by
  have refiled := s.sweepLocked_refiled fun entry member => books.idle_connected member
  refine ⟨books.files.refile refiled, ?_, ⟨books.stakes.staked, books.stakes.asked,
    books.stakes.reserving⟩, books.dials.refile refiled ?_ ?_, ?_⟩
  · apply Nat.le_trans _ books.kept
    rw [count, count, sweepLocked, List.countP_filterMap]
    apply List.countP_mono_left
    intro entry _ counted
    cases left : s.sweepEntry entry with
    | none =>
      rw [left] at counted
      cases counted
    | some swept =>
      rw [left, map_some, getD_some, decide_eq_true_eq] at counted
      rw [decide_eq_true_eq]
      rw [(sweepEntry_idle left counted).1] at counted
      exact counted
  · intro i call d found brought
    exact ⟨i, call, found, brought⟩
  · intro i call id found dialled
    exact ⟨i, call, found, dialled, rfl⟩
  · intro entry member
    obtain ⟨old, before, left⟩ := List.mem_filterMap.mp member
    rcases sweepEntry_spec left with rfl | ⟨_, rfl⟩
    · exact books.fits _ before
    · trivial

/-- What is held after one call has moved. -/
theorem held_set {calls : List Call} (found : calls[i]? = some call) :
    Held (calls.set i moved) c ↔ moved.token = some c ∨
      ∃ (j : Nat) (other : Call), j ≠ i ∧ calls[j]? = some other ∧ other.token = some c := by
  constructor
  · rintro ⟨j, other, found', holds⟩
    rcases List.getElem?_set_apart found' with ⟨_, rfl⟩ | ⟨apart, before⟩
    · exact .inl holds
    · exact .inr ⟨j, other, apart, before, holds⟩
  · rintro (holds | ⟨j, other, apart, before, holds⟩)
    · exact ⟨i, moved, List.getElem?_set_found found, holds⟩
    · exact ⟨j, other, by rwa [List.getElem?_set_ne (Ne.symm apart)], holds⟩

/-- A connection that the call did not hold and does not hold is held as before. -/
theorem held_set_of_same {calls : List Call} (found : calls[i]? = some call)
    (same : moved.token = some c ↔ call.token = some c) :
    Held (calls.set i moved) c ↔ Held calls c := by
  rw [held_set found, same]
  constructor
  · rintro (holds | ⟨j, other, _, before, holds⟩)
    · exact ⟨i, call, found, holds⟩
    · exact ⟨j, other, before, holds⟩
  · rintro ⟨j, other, before, holds⟩
    by_cases here : j = i
    · subst here
      rw [found] at before
      cases before
      exact .inl holds
    · exact .inr ⟨j, other, here, before, holds⟩

/-- One call moves on: its stake was its own before, or nobody's. -/
theorem Stakes.set (stakes : s.Stakes) (found : s.calls[i]? = some call)
    (calls : next.calls = s.calls.set i moved)
    (conns : ∀ (c : Nat) (conn : NetConn), s.conns[c]? = some conn → ∃ conn',
      next.conns[c]? = some conn' ∧ conn'.origin = conn.origin)
    (origin : moved.origin = call.origin)
    (own : ∀ c, moved.stake = some c → call.stake = some c ∨
      Unheld s.calls stake c ∧ ∃ conn, next.conns[c]? = some conn ∧ conn.origin = call.origin)
    (dial : ∀ id, moved.dial = some id → call.dial = some id ∨ Unheld s.calls Call.dial id) :
    next.Stakes := by
  have old : ∀ (j : Nat) (other : Call) (c : Nat), s.calls[j]? = some other →
      other.stake = some c → ∃ conn, next.conns[c]? = some conn ∧ conn.origin = other.origin := by
    intro j other c found' held
    obtain ⟨conn, known, asked⟩ := stakes.asked j other c found' held
    obtain ⟨conn', known', same⟩ := conns c conn known
    exact ⟨conn', known', same.trans asked⟩
  refine ⟨?_, ?_, ?_⟩
  · rw [calls]
    apply stakes.staked.set found
    intro c held
    rcases own c held with before | ⟨unheld, _⟩
    · exact .inl before
    · exact .inr unheld
  · rw [calls]
    intro j other c found' held
    rcases List.getElem?_set_cases found' with ⟨_, rfl⟩ | before
    · rw [origin]
      rcases own c held with before | ⟨_, known⟩
      · exact old i call c found before
      · exact known
    · exact old j other c before held
  · rw [calls]
    exact stakes.reserving.set found dial

/-- What the books do not see of a step that only touches the calls. -/
structure SameFiles (s next : PoolState) : Prop where
  entries : next.entries = s.entries
  limits : next.limits = s.limits
  conns : next.conns = s.conns
  nextEntry : next.nextEntry = s.nextEntry
  phase : next.phase = s.phase

/-- Then every entry is filed as before. -/
theorem SameFiles.refiled (same : s.SameFiles next) : s.Refiled next := by
  refine ⟨?_, ?_, same.limits, same.conns, same.nextEntry, ?_, ?_⟩
  · rw [same.entries]
    intro entry member
    exact ⟨entry, member, rfl, rfl, rfl, rfl, .inl rfl⟩
  · rw [same.entries]
  · rw [same.phase]
    exact fun closed => closed
  · rw [same.phase]
    exact fun closed => .inl closed

/-- The phase of an entry that stays as it is still fits, if its connection is held as before. -/
theorem fits_of_held {held held' : Nat → Prop} (fits : entry.Fits held)
    (same : ∀ c, entry.connection = some c → (held' c ↔ held c)) : entry.Fits held' := by
  unfold Entry.Fits at fits ⊢
  split at fits
  · exact fits
  · obtain ⟨c, connected, holds⟩ := fits
    exact ⟨c, connected, (same c connected).mpr holds⟩
  · obtain ⟨c, connected, free⟩ := fits
    exact ⟨c, connected, fun holds => free ((same c connected).mp holds)⟩
  · trivial

/-- The dials of a pool in which one call moved on without a new record or a new entry. -/
theorem Dials.set (dials : s.Dials) (refiled : s.Refiled next) (found : s.calls[i]? = some call)
    (calls : next.calls = s.calls.set i moved) (origin : moved.origin = call.origin)
    (record : ∀ d, moved.record = some d → call.record = some d)
    (dial : ∀ id, moved.dial = some id → call.dial = some id) : next.Dials := by
  apply dials.refile refiled
  · rw [calls]
    intro j other d found' brought
    rcases List.getElem?_set_cases found' with ⟨_, rfl⟩ | before
    · exact ⟨i, call, found, record d brought⟩
    · exact ⟨j, other, before, brought⟩
  · rw [calls]
    intro j other id found' dialled
    rcases List.getElem?_set_cases found' with ⟨_, rfl⟩ | before
    · exact ⟨i, call, found, dial id dialled, origin.symm⟩
    · exact ⟨j, other, before, dialled, rfl⟩

/-- A call goes on with what it holds. -/
theorem Books.goOn (books : s.Books) (found : s.calls[i]? = some call)
    (calls : next.calls = s.calls.set i moved) (same : s.SameFiles next)
    (origin : moved.origin = call.origin) (token : moved.token = call.token)
    (record : ∀ d, moved.record = some d → call.record = some d)
    (dial : ∀ id, moved.dial = some id → call.dial = some id) : next.Books := by
  refine ⟨books.files.refile same.refiled, ?_, ?_,
    books.dials.set same.refiled found calls origin record dial, ?_⟩
  · rw [count, same.entries, same.limits]
    exact books.kept
  · apply books.stakes.set found calls _ origin _ fun id dialled => .inl (dial id dialled)
    · rw [same.conns]
      exact fun c conn known => ⟨conn, known, rfl⟩
    · intro c stake
      left
      rcases stake_cases stake with held | brought
      · exact stake_of_token (token.symm.trans held)
      · exact stake_of_record (record c brought)
  · rw [same.entries, calls]
    intro entry member
    apply fits_of_held (books.fits entry member)
    intro c _
    exact held_set_of_same found (by rw [token])

/-- Entries in one place are one entry. -/
theorem Files.eq_of_id (files : s.Files) {other : Entry} (member : entry ∈ s.entries)
    (member' : other ∈ s.entries) (same : entry.id = other.id) : entry = other :=
  List.inj_on_of_nodup_map files.distinct member member' same

/-- The entry with a connection changes its phase while calls move on with that connection. -/
theorem Books.rephase (books : s.Books) (member : entry ∈ s.entries)
    (connected : entry.connection = some c)
    (same : ∀ entry, (f entry).id = entry.id ∧ (f entry).origin = entry.origin ∧
      (f entry).connection = entry.connection ∧ (f entry).reclaim = entry.reclaim)
    (files : (s.updateEntry entry.id f).SameFiles next)
    (kept : next.count .idle ≤ next.limits.maxKeepaliveConnections)
    (stakes : next.Stakes) (dials : s.Refiled next → next.Dials)
    (held : ∀ d, d ≠ c → (Held next.calls d ↔ Held s.calls d))
    (fits : (f entry).Fits (Held next.calls)) : next.Books := by
  have updated := s.updateEntry_refiled entry.id same (by
    intro other member' here
    rw [← books.files.eq_of_id member member' here.symm, connected]
    exact some_ne_none c)
  have refiled : s.Refiled next := by
    refine ⟨?_, ?_, files.limits, files.conns, files.nextEntry, ?_, ?_⟩
    · rw [files.entries, files.phase]
      exact updated.origin
    · rw [files.entries]
      exact updated.ids
    · rw [files.phase]
      exact fun closed => closed
    · rw [files.phase]
      exact fun closed => .inl closed
  refine ⟨books.files.refile refiled, kept, stakes, dials refiled, ?_⟩
  rw [files.entries]
  intro other member'
  obtain ⟨old, before, rfl⟩ := List.mem_map.mp member'
  by_cases here : old.id = entry.id
  · rw [if_pos here, books.files.eq_of_id before member here]
    exact fits
  · rw [if_neg here]
    apply fits_of_held (books.fits old before)
    intro d connected'
    apply held
    rintro rfl
    exact here (books.files.apart old before entry member d connected' connected)

/-- A write that leaves the idle phase adds no idle entry. -/
theorem count_updateEntry_le (s : PoolState) (id : Nat)
    (busy : ∀ entry, (f entry).phase ≠ .idle) :
    (s.updateEntry id f).count .idle ≤ s.count .idle := by
  rw [count, count, updateEntry, List.countP_map]
  apply List.countP_mono_left
  intro entry _ counted
  rw [Function.comp_apply, decide_eq_true_eq] at counted
  rw [decide_eq_true_eq]
  by_cases here : entry.id = id
  · rw [if_pos here] at counted
    exact absurd counted (busy entry)
  · rw [if_neg here] at counted
    exact counted

/-- `TakeIdleLocked` for a call that held nothing. -/
theorem Books.take (books : s.Books) (found : s.calls[i]? = some call)
    (member : entry ∈ s.entries) (connected : entry.connection = some c)
    (idle : entry.phase = .idle) (asked : entry.origin = call.origin)
    (files : (s.updateEntry entry.id taken).SameFiles next)
    (calls : next.calls = s.calls.set i moved) (origin : moved.origin = call.origin)
    (before : call.token = none) (token : moved.token = some c)
    (record : moved.record = none) (dial : moved.dial = none) : next.Books := by
  have fits := books.fits entry member
  rw [Entry.Fits, idle] at fits
  obtain ⟨d, connected', free⟩ := fits
  obtain rfl : d = c := Option.some.inj (connected'.symm.trans connected)
  obtain ⟨reclaimed, conn, known, from'⟩ := books.files.filed entry member d connected
  have unheld : Unheld s.calls Call.stake d := by
    intro j other found' stake
    rcases stake_cases stake with held | brought
    · exact free ⟨j, other, found', held⟩
    · exact books.dials.unfiled j other d found' brought entry member reclaimed
  have same : ∀ entry, (taken entry).id = entry.id ∧ (taken entry).origin = entry.origin ∧
      (taken entry).connection = entry.connection ∧ (taken entry).reclaim = entry.reclaim :=
    fun _ => ⟨rfl, rfl, rfl, rfl⟩
  apply books.rephase member connected same files
  · rw [count, files.entries, files.limits]
    exact Nat.le_trans (s.count_updateEntry_le entry.id fun _ => EntryPhase.noConfusion) books.kept
  · apply books.stakes.set found calls _ origin
    · intro e stake
      right
      rcases stake_cases stake with held | brought
      · obtain rfl : d = e := Option.some.inj (token.symm.trans held)
        rw [files.conns]
        exact ⟨unheld, conn, known, from'.trans asked⟩
      · rw [record] at brought
        cases brought
    · intro id dialled
      rw [dial] at dialled
      cases dialled
    · rw [files.conns]
      exact fun c conn known => ⟨conn, known, rfl⟩
  · intro refiled
    apply books.dials.set refiled found calls origin
    · intro e brought
      rw [record] at brought
      cases brought
    · intro id dialled
      rw [dial] at dialled
      cases dialled
  · intro e other
    rw [calls]
    apply held_set_of_same found
    rw [before, token]
    constructor
    · intro same
      exact absurd (Option.some.inj same).symm other
    · intro absurd'
      cases absurd'
  · refine ⟨d, connected, ?_⟩
    rw [calls]
    exact (held_set found).mpr (.inl token)

/-- A call gives up the connection that it holds, and nothing else happens. -/
structure Drops (s next : PoolState) (i : Nat) (call moved : Call) (c : Nat) : Prop where
  found : s.calls[i]? = some call
  held : call.token = some c
  calls : next.calls = s.calls.set i moved
  files : s.SameFiles next
  origin : moved.origin = call.origin
  stake : moved.stake = none
  dial : moved.dial = none

section

variable (drops : s.Drops next i call moved c)

include drops

/-- Without a stake there is no connection. -/
theorem Drops.token : moved.token = none := by
  have none' := drops.stake
  rw [Call.stake, or_eq_none_iff] at none'
  exact none'.1

/-- Without a stake there is no record. -/
theorem Drops.record : moved.record = none := by
  have none' := drops.stake
  rw [Call.stake, or_eq_none_iff] at none'
  exact none'.2

/-- The calls stay in order. -/
theorem Drops.stakes (stakes : s.Stakes) : next.Stakes := by
  apply stakes.set drops.found drops.calls _ drops.origin
  · intro d stake
    rw [drops.stake] at stake
    cases stake
  · intro id dialled
    rw [drops.dial] at dialled
    cases dialled
  · rw [drops.files.conns]
    exact fun c conn known => ⟨conn, known, rfl⟩

/-- Other connections are held as before. -/
theorem Drops.others (d : Nat) (other : d ≠ c) : Held next.calls d ↔ Held s.calls d := by
  rw [drops.calls]
  apply held_set_of_same drops.found
  rw [drops.token, drops.held]
  constructor
  · intro absurd'
    cases absurd'
  · intro same
    exact absurd (some.inj same).symm other

/-- Nobody has a stake in the connection any more. -/
theorem Drops.unheld (stakes : s.Stakes) : Unheld next.calls Call.stake c := by
  intro j other found stake
  rw [drops.calls] at found
  rcases List.getElem?_set_apart found with ⟨_, rfl⟩ | ⟨apart, before⟩
  · rw [drops.stake] at stake
    cases stake
  · exact apart (stakes.staked j i other call c before drops.found stake
      (stake_of_token drops.held))

/-- In particular nobody holds it. -/
theorem Drops.free (stakes : s.Stakes) : ¬ Held next.calls c := by
  rintro ⟨j, other, found, held⟩
  exact drops.unheld stakes j other found (stake_of_token held)

end

section

variable (books : s.Books) (drops : s.Drops next i call moved c) (member : entry ∈ s.entries)
  (connected : entry.connection = some c)

include books drops member connected

/-- The entry of a connection that was given up changes its phase, to none that needs an owner. -/
theorem Books.reenter (same : ∀ entry, (f entry).id = entry.id ∧ (f entry).origin = entry.origin ∧
      (f entry).connection = entry.connection ∧ (f entry).reclaim = entry.reclaim)
    (kept : (next.updateEntry entry.id f).count .idle ≤ next.limits.maxKeepaliveConnections)
    (fits : (f entry).Fits (Held next.calls)) : (next.updateEntry entry.id f).Books := by
  have files : (s.updateEntry entry.id f).SameFiles (next.updateEntry entry.id f) := by
    refine ⟨?_, drops.files.limits, drops.files.conns, drops.files.nextEntry, drops.files.phase⟩
    simp only [updateEntry, drops.files.entries]
  have stakes := drops.stakes books.stakes
  apply books.rephase member connected same files kept
    ⟨stakes.staked, stakes.asked, stakes.reserving⟩ _ drops.others fits
  intro refiled
  apply books.dials.set refiled drops.found drops.calls drops.origin
  · intro d brought
    rw [drops.record] at brought
    cases brought
  · intro id dialled
    rw [drops.dial] at dialled
    cases dialled

/-- `RetireLocked` of the entry of a connection that was given up. -/
theorem Books.retire : (next.retireLocked entry.id).Books := by
  have same : ∀ entry, (retired entry).id = entry.id ∧ (retired entry).origin = entry.origin ∧
      (retired entry).connection = entry.connection ∧
      (retired entry).reclaim = entry.reclaim := fun _ => ⟨rfl, rfl, rfl, rfl⟩
  apply books.reenter drops member connected same _ trivial
  apply Nat.le_trans (next.count_updateEntry_le entry.id fun _ => EntryPhase.noConfusion)
  rw [count, drops.files.entries, drops.files.limits]
  exact books.kept

/-- `AdmitToIdleLocked` of the entry of a connection that was given up. -/
theorem Books.admitToIdle : (next.admitToIdleLocked entry.id).Books := by
  unfold admitToIdleLocked
  by_cases shut : next.phase ≠ .open'
  · rw [if_pos shut]
    exact books.retire drops member connected
  rw [if_neg shut]
  by_cases room : next.count .idle < next.limits.maxKeepaliveConnections
  · rw [if_pos room]
    apply books.reenter drops member connected
    · exact fun _ => ⟨rfl, rfl, rfl, rfl⟩
    · have distinct := books.files.distinct
      rw [← drops.files.entries] at distinct
      have more := List.countP_map_named_le distinct entry.id
        (fun entry => { entry with
          phase := .idle, expireAt := next.limits.keepaliveExpiry.map (next.now + ·) })
        fun entry => decide (entry.phase = .idle)
      exact Nat.le_trans more room
    · exact ⟨c, connected, drops.free books.stakes⟩
  · rw [if_neg room]
    exact books.retire drops member connected

/-- A connection that was given up goes to a queued call of its origin. -/
theorem Books.handOver {j : Nat} {waiter : Call} (found : next.calls[j]? = some waiter)
    (queues : waiter.queues = true) (asked : waiter.origin = entry.origin) :
    (next.handOver entry.id c j waiter).Books := by
  obtain ⟨token, record, dial, handed⟩ := queues_spec queues
  have stakes := drops.stakes books.stakes
  obtain ⟨_, conn, known, from'⟩ := books.files.filed entry member c connected
  have same : ∀ entry : Entry, ({ entry with phase := .active } : Entry).id = entry.id ∧
      ({ entry with phase := .active } : Entry).origin = entry.origin ∧
      ({ entry with phase := .active } : Entry).connection = entry.connection ∧
      ({ entry with phase := .active } : Entry).reclaim = entry.reclaim :=
    fun _ => ⟨rfl, rfl, rfl, rfl⟩
  have entries : (next.handOver entry.id c j waiter).entries =
      (s.updateEntry entry.id fun entry => { entry with phase := .active }).entries := by
    simp only [PoolState.handOver, updateEntry, give, dequeueLocked, setCall,
      drops.files.entries]
  have record' : Call.record { waiter with handed := some c } = none := record
  have dial' : Call.dial { waiter with handed := some c } = none := dial
  apply books.rephase member connected same
    ⟨entries, drops.files.limits, drops.files.conns, drops.files.nextEntry, drops.files.phase⟩
  · rw [count, entries]
    change _ ≤ next.limits.maxKeepaliveConnections
    rw [drops.files.limits]
    exact Nat.le_trans (s.count_updateEntry_le entry.id fun _ => EntryPhase.noConfusion) books.kept
  · have calls : (next.handOver entry.id c j waiter).calls =
        next.calls.set j { waiter with handed := some c } := rfl
    apply stakes.set found calls (fun c conn known => ⟨conn, known, rfl⟩) rfl
    · intro d stake
      right
      rcases stake_cases stake with held | brought
      · obtain rfl : c = d := Option.some.inj ((handed c).symm.trans held)
        refine ⟨drops.unheld books.stakes, conn, ?_, from'.trans asked.symm⟩
        exact (congrArg (fun conns => conns[c]?) drops.files.conns).trans known
      · rw [record'] at brought
        cases brought
    · intro id dialled
      rw [dial'] at dialled
      cases dialled
  · intro refiled
    apply books.dials.refile refiled
    · intro k other d found' brought
      rcases List.getElem?_set_cases found' with ⟨_, rfl⟩ | before
      · rw [record'] at brought
        cases brought
      · change next.calls[k]? = some other at before
        rw [drops.calls] at before
        rcases List.getElem?_set_cases before with ⟨_, rfl⟩ | before
        · rw [drops.record] at brought
          cases brought
        · exact ⟨k, other, before, brought⟩
    · intro k other id found' dialled
      rcases List.getElem?_set_cases found' with ⟨_, rfl⟩ | before
      · rw [dial'] at dialled
        cases dialled
      · change next.calls[k]? = some other at before
        rw [drops.calls] at before
        rcases List.getElem?_set_cases before with ⟨_, rfl⟩ | before
        · rw [drops.dial] at dialled
          cases dialled
        · exact ⟨k, other, before, dialled, rfl⟩
  · intro d other
    apply Iff.trans (held_set_of_same found _) (drops.others d other)
    rw [handed c, token]
    constructor
    · intro same
      exact absurd (Option.some.inj same).symm other
    · intro absurd'
      cases absurd'
  · exact ⟨c, connected, (held_set found).mpr (.inl (handed c))⟩

end

/-- What `FindLocked` finds. -/
theorem findLocked_spec (found : s.findLocked c = some entry) :
    entry ∈ s.entries ∧ entry.connection = some c := by
  have connected := List.find?_some found
  exact ⟨List.mem_of_find?_eq_some found, of_decide_eq_true connected⟩

/-- The call that gets a connection is in the queue and asked for its origin. -/
theorem nextWaiter_spec {origin : Origin} {j : Nat} {waiter : Call}
    (chosen : s.nextWaiter origin = some (j, waiter)) :
    j ∈ s.waiters ∧ s.calls[j]? = some waiter ∧ waiter.origin = origin := by
  obtain ⟨k, first, found⟩ := bind_eq_some_iff.mp chosen
  rw [map_eq_some_iff] at found
  obtain ⟨other, found, same⟩ := found
  cases same
  have asked := List.find?_some first
  rw [found] at asked
  exact ⟨List.mem_of_find?_eq_some first, found, of_decide_eq_true asked⟩

/-- A connection that was given up goes back to the pool, or to the next in the queue. -/
theorem Books.giveBack (books : s.Books) (drops : s.Drops next i call moved c)
    (line : ∀ j ∈ next.waiters, ∃ waiter, next.calls[j]? = some waiter ∧ waiter.queues = true)
    (healthy : Bool) : (next.returnLocked c healthy).Books := by
  unfold returnLocked
  cases found : next.findLocked c with
  | none =>
    refine ⟨books.files.refile drops.files.refiled, ?_, drops.stakes books.stakes, ?_, ?_⟩
    · rw [count, drops.files.entries, drops.files.limits]
      exact books.kept
    · apply books.dials.set drops.files.refiled drops.found drops.calls drops.origin
      · intro d brought
        rw [drops.record] at brought
        cases brought
      · intro id dialled
        rw [drops.dial] at dialled
        cases dialled
    · intro entry member
      rw [drops.files.entries] at member
      apply fits_of_held (books.fits entry member)
      intro d connected
      apply drops.others
      rintro rfl
      rw [findLocked, List.find?_eq_none, drops.files.entries] at found
      exact found entry member (decide_eq_true connected)
  | some entry =>
    obtain ⟨member, connected⟩ := findLocked_spec found
    rw [drops.files.entries] at member
    dsimp only
    by_cases retires : (!healthy || decide (next.phase ≠ .open')) = true
    · rw [if_pos retires]
      exact books.retire drops member connected
    rw [if_neg retires]
    cases chosen : next.nextWaiter entry.origin with
    | none => exact books.admitToIdle drops member connected
    | some pair =>
      obtain ⟨j, waiter⟩ := pair
      obtain ⟨queued, present, asked⟩ := nextWaiter_spec chosen
      obtain ⟨other, present', queues⟩ := line j queued
      obtain rfl : other = waiter := Option.some.inj (present'.symm.trans present)
      exact books.handOver drops member connected present queues asked

end PoolState

end BbtInfra.Http
