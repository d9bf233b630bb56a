import BbtInfra.Http.PoolTurns

/-!
# The steps of a pool and its books

What is left of the sections of the pool: an entry is reserved, dialled and settled, a pool is
closed, the network changes its connections. Then every step keeps the books, together with the
order of the queue and the count of the calls in flight.
-/
namespace BbtInfra.Http

open Lib Call CallPc

/-- A running call, or a lease that is not released. -/
def Call.counts (call : Call) : Bool :=
  match call.pc with
  | .returned _ | .released => false
  | _ => true

/-- Between its sections the call owns nothing and stands in no queue. -/
def CallPc.plain : CallPc → Bool
  | .entered | .fast | .reserve | .slice | .enqueue _ | .judge _ | .failing _ => true
  | _ => false

/-- A call that walks is between two sections. -/
theorem CallPc.Walks.plain {pc next : CallPc} (walks : pc.Walks next) :
    pc.plain = true ∧ next.plain = true := by
  cases walks with
  | closed reason looks => obtain rfl | rfl | ⟨_, rfl⟩ := looks <;> exact ⟨rfl, rfl⟩
  | _ => exact ⟨rfl, rfl⟩

/-- So is one that looks for a connection. -/
theorem CallPc.plain_of_looks {pc first : CallPc} (plain : first.plain = true)
    (looks : pc = first ∨ ∃ sliceEnd, pc = .enqueue sliceEnd) : pc.plain = true := by
  obtain rfl | ⟨_, rfl⟩ := looks
  · exact plain
  · rfl

/-- What that means for the books. -/
theorem CallPc.plain_spec {call : Call} (plain : call.pc.plain = true) :
    call.token = none ∧ call.record = none ∧ call.dial = none ∧ call.counts = true ∧
      call.queues = false := by
  unfold Call.token record dial counts queues
  cases pc : call.pc <;> simp_all [CallPc.plain]

namespace PoolState

variable {s next : PoolState} {i : Nat} {call moved : Call} {entry : Entry}

section

variable (books : s.Books) (found : s.calls[i]? = some call)

include books found

/-- A dial within the budget. -/
theorem Books.reserveDial (token : call.token = none) (open' : s.phase = .open')
    (room : s.entries.length < s.limits.maxConnections) : (s.reserveDial i call).Books := by
  have files := books.files
  have unheld : Unheld s.calls dial s.nextEntry := by
    intro j other found' dialled
    exact Nat.lt_irrefl _ (books.dials.reserved j other _ found' dialled).1
  have members : ∀ entry ∈ (s.reserveDial i call).entries,
      entry ∈ s.entries ∨ entry = { id := s.nextEntry, origin := call.origin } := by
    intro entry member
    simpa [PoolState.reserveDial] using member
  have calls : (s.reserveDial i call).calls =
      s.calls.set i { call with pc := .dialing s.nextEntry } := rfl
  refine ⟨⟨?_, ?_, ?_, ?_, ?_, ?_⟩, ?_, ?_, ⟨?_, ?_⟩, ?_⟩
  · simp only [PoolState.reserveDial, List.length_append, List.length_singleton]
    exact room
  · simp only [PoolState.reserveDial, List.map_append, List.map_cons, List.map_nil]
    rw [List.nodup_append]
    refine ⟨files.distinct, List.nodup_singleton _, ?_⟩
    intro id member other new
    obtain ⟨entry, old, rfl⟩ := List.mem_map.mp member
    rw [List.mem_singleton.mp new]
    exact Nat.ne_of_lt (files.older entry old)
  · intro entry member
    rcases members entry member with old | rfl
    · exact Nat.lt_succ_of_lt (files.older entry old)
    · exact Nat.lt_succ_self _
  · intro entry member c connected
    rcases members entry member with old | rfl
    · exact files.filed entry old c connected
    · cases connected
  · intro entry member d reclaimed
    rcases members entry member with old | rfl
    · exact files.known entry old d reclaimed
    · cases reclaimed
  · intro entry member other member' c connected connected'
    rcases members entry member with old | rfl
    · rcases members other member' with old' | rfl
      · exact files.apart entry old other old' c connected connected'
      · cases connected'
    · cases connected
  · simp only [count, PoolState.reserveDial, List.countP_append]
    exact books.kept
  · apply books.stakes.set found calls (fun c conn known => ⟨conn, known, rfl⟩) rfl
    · intro c stake
      cases stake
    · intro id dialled
      cases dialled
      exact .inr unheld
  · intro j other d found' brought entry member
    rcases members entry member with old | rfl
    · rw [calls] at found'
      rcases List.getElem?_set_cases found' with ⟨_, rfl⟩ | before
      · cases brought
      · exact books.dials.unfiled j other d before brought entry old
    · intro reclaimed
      cases reclaimed
  · intro j other id found' dialled
    rcases List.getElem?_set_cases found' with ⟨_, rfl⟩ | before
    · cases dialled
      refine ⟨Nat.lt_succ_self _, ?_⟩
      intro entry member here
      rcases members entry member with old | rfl
      · exact absurd here (Nat.ne_of_lt (files.older entry old))
      · refine ⟨rfl, rfl, rfl, .inl ⟨rfl, ?_⟩⟩
        exact fun closed => by cases open'.symm.trans closed
    · obtain ⟨older, known⟩ := books.dials.reserved j other id before dialled
      refine ⟨Nat.lt_succ_of_lt older, ?_⟩
      intro entry member here
      rcases members entry member with old | rfl
      · exact known entry old here
      · exact absurd here (Nat.ne_of_gt older)
  · intro entry member
    rcases members entry member with old | rfl
    · apply fits_of_held (books.fits entry old)
      intro c _
      apply held_set_of_same found
      rw [token]
      rfl
    · rfl

/-- The record of a dial is known, and in no entry. -/
theorem Books.record_known {d : Nat} (brought : call.record = some d) :
    (∃ conn, s.conns[d]? = some conn ∧ conn.origin = call.origin) ∧ d < s.conns.length := by
  have asked := books.stakes.asked i call d found (stake_of_record brought)
  obtain ⟨conn, known, origin⟩ := asked
  exact ⟨⟨conn, known, origin⟩, (List.getElem?_eq_some_iff.mp known).1⟩

/-- The section of a dial writes its result to its entry: a receipt alone, or with it the
connection, which goes to the call or to nobody. -/
theorem Books.settle {id : Nat}
    (dialling : call.dial = some id) (nothing : call.token = none) (f : Entry → Entry)
    (moved : Call)
    (same : ∀ entry, (f entry).id = entry.id ∧ (f entry).origin = entry.origin)
    (connection : ∀ entry c, entry.connection = none → (f entry).connection = some c →
      call.record = some c ∧ (f entry).reclaim = some c)
    (reclaim : ∀ entry d, (f entry).reclaim = some d → call.record = some d)
    (busy : ∀ entry, (f entry).phase ≠ .idle)
    (fits : ∀ entry, (f entry).Fits fun c => moved.token = some c)
    (files : (s.updateEntry id f).SameFiles next) (calls : next.calls = s.calls.set i moved)
    (origin : moved.origin = call.origin) (token : ∀ c, moved.token = some c → call.record = some c)
    (record : moved.record = none) (dial : moved.dial = none) : next.Books := by
  have before := books.files
  obtain ⟨_, mine⟩ := books.dials.reserved i call id found dialling
  -- An entry is the one that is written, or an old one in another place.
  have members : ∀ entry ∈ next.entries, (∃ old ∈ s.entries, old.id = id ∧
      old.connection = none ∧ old.origin = call.origin ∧ entry = f old) ∨
      entry ∈ s.entries ∧ entry.id ≠ id := by
    intro entry member
    rw [files.entries] at member
    obtain ⟨old, old', rfl⟩ := List.mem_map.mp member
    by_cases here : old.id = id
    · obtain ⟨none', _, asked, _⟩ := mine old old' here
      rw [if_pos here]
      exact .inl ⟨old, old', here, none', asked, rfl⟩
    · rw [if_neg here]
      exact .inr ⟨old', here⟩
  have unfiled := books.dials.unfiled i call
  have ids : next.entries.map Entry.id = s.entries.map Entry.id := by
    rw [files.entries, updateEntry, List.map_map]
    apply List.map_congr_left
    intro entry _
    by_cases here : entry.id = id
    · simp only [Function.comp_apply, if_pos here, (same entry).1]
    · simp only [Function.comp_apply, if_neg here]
  refine ⟨⟨?_, ?_, ?_, ?_, ?_, ?_⟩, ?_, ?_, ⟨?_, ?_⟩, ?_⟩
  · have lengths := congrArg List.length ids
    rw [List.length_map, List.length_map] at lengths
    rw [lengths, files.limits]
    exact before.budget
  · rw [ids]
    exact before.distinct
  · intro entry member
    rw [files.nextEntry]
    rcases members entry member with ⟨old, old', _, _, _, rfl⟩ | ⟨old, _⟩
    · rw [(same old).1]
      exact before.older old old'
    · exact before.older entry old
  · intro entry member c connected
    rw [files.conns]
    rcases members entry member with ⟨old, _, _, none', asked, rfl⟩ | ⟨old, _⟩
    · obtain ⟨brought, reclaimed⟩ := connection old c none' connected
      obtain ⟨⟨conn, known, from'⟩, _⟩ := books.record_known found brought
      rw [(same old).2, asked]
      exact ⟨reclaimed, conn, known, from'⟩
    · exact before.filed entry old c connected
  · intro entry member d reclaimed
    rw [files.conns]
    rcases members entry member with ⟨old, _, _, _, _, rfl⟩ | ⟨old, _⟩
    · exact (books.record_known found (reclaim old d reclaimed)).2
    · exact before.known entry old d reclaimed
  · intro entry member other member' c connected connected'
    rcases members entry member with ⟨old, _, here, none', _, rfl⟩ | ⟨old, _⟩
    · obtain ⟨brought, _⟩ := connection old c none' connected
      rcases members other member' with ⟨old₂, _, here₂, _, _, rfl⟩ | ⟨old₂, _⟩
      · rw [(same old).1, (same old₂).1, here, here₂]
      · exact absurd (before.filed other old₂ c connected').1 (unfiled c found brought other old₂)
    · rcases members other member' with ⟨old₂, _, _, none', _, rfl⟩ | ⟨old₂, _⟩
      · obtain ⟨brought, _⟩ := connection old₂ c none' connected'
        exact absurd (before.filed entry old c connected).1 (unfiled c found brought entry old)
      · exact before.apart entry old other old₂ c connected connected'
  · rw [count, files.entries, files.limits]
    exact Nat.le_trans (s.count_updateEntry_le id busy) books.kept
  · apply books.stakes.set found calls _ origin
    · intro c stake
      left
      rcases stake_cases stake with held | brought
      · exact stake_of_record (token c held)
      · rw [record] at brought
        cases brought
    · intro other dialled
      rw [dial] at dialled
      cases dialled
    · rw [files.conns]
      exact fun c conn known => ⟨conn, known, rfl⟩
  · intro j other d found' brought entry member
    rw [calls] at found'
    rcases List.getElem?_set_apart found' with ⟨_, rfl⟩ | ⟨apart, there⟩
    · rw [record] at brought
      cases brought
    · rcases members entry member with ⟨old, _, _, _, _, rfl⟩ | ⟨old, _⟩
      · intro reclaimed
        exact apart (books.stakes.staked j i other call d there found
          (stake_of_record brought) (stake_of_record (reclaim old d reclaimed)))
      · exact books.dials.unfiled j other d there brought entry old
  · intro j other place found' dialled
    rw [calls] at found'
    rcases List.getElem?_set_apart found' with ⟨_, rfl⟩ | ⟨apart, there⟩
    · rw [dial] at dialled
      cases dialled
    · obtain ⟨older, known⟩ := books.dials.reserved j other place there dialled
      refine ⟨by rw [files.nextEntry]; exact older, ?_⟩
      intro entry member here
      rw [files.phase]
      rcases members entry member with ⟨old, _, place', _, _, rfl⟩ | ⟨old, _⟩
      · rw [(same old).1, place'] at here
        rw [← here] at dialled
        exact absurd (books.stakes.reserving j i other call id there found dialled dialling) apart
      · exact known entry old here
  · intro entry member
    rw [calls]
    rcases members entry member with ⟨old, _, _, _, _, rfl⟩ | ⟨old, _⟩
    · have fit := fits old
      unfold Entry.Fits at fit ⊢
      split at fit
      · exact fit
      · obtain ⟨c, connected, held⟩ := fit
        exact ⟨c, connected, (held_set found).mpr (.inl held)⟩
      · rename_i idle
        exact absurd idle (busy old)
      · trivial
    · apply fits_of_held (books.fits entry old)
      intro c connected
      apply held_set_of_same found
      rw [nothing]
      constructor
      · intro held
        exact absurd (before.filed entry old c connected).1
          (unfiled c found (token c held) entry old)
      · intro absurd'
        cases absurd'

end

variable {id c : Nat} {result : DialResult}

/-- The section of `DialReserved` keeps the books, wherever it writes to. -/
theorem Books.settleDial (books : s.Books) (found : s.calls[i]? = some call)
    (pc : call.pc = .dialled id result) (thrown : Option Bytes) :
    (s.settleDial i call id result thrown).Books := by
  have dialling : call.dial = some id := by simp only [dial, pc]
  have nothing : call.token = none := by simp only [Call.token, pc]
  have kept : Books { s with
      dangling := s.dangling || !s.entries.any fun entry => decide (entry.id = id) } :=
    ⟨⟨books.files.1, books.files.2, books.files.3, books.files.4, books.files.5, books.files.6⟩,
      books.kept, ⟨books.stakes.1, books.stakes.2, books.stakes.3⟩,
      ⟨books.dials.1, books.dials.2⟩, books.fits⟩
  unfold PoolState.settleDial
  cases result with
  | failed error record =>
    have brought : call.record = record := by simp only [Call.record, pc]
    refine kept.settle found dialling nothing
      (fun entry => { entry with reclaim := record, phase := .retiring })
      { call with pc := .failing (.connect error) } (fun _ => ⟨rfl, rfl⟩) ?_ ?_
      (fun _ => EntryPhase.noConfusion) (fun _ => trivial) ⟨rfl, rfl, rfl, rfl, rfl⟩ rfl rfl
      ?_ rfl rfl
    · intro entry c none' connected
      exact absurd (none'.symm.trans connected) (Option.some_ne_none c).symm
    · intro entry d reclaimed
      exact brought.trans reclaimed
    · intro c held
      cases held
  | connected record =>
    have brought : call.record = some record := by simp only [Call.record, pc]
    have spoiled : ∀ exit, ((updateEntry { s with
        dangling := s.dangling || !s.entries.any fun entry => decide (entry.id = id) } id
          fun entry => { entry with
            connection := some record, reclaim := some record, phase := .retiring }).move i call
        (.failing exit)).Books := by
      intro exit
      refine kept.settle found dialling nothing
        (fun entry => { entry with
          connection := some record, reclaim := some record, phase := .retiring })
        { call with pc := .failing exit } (fun _ => ⟨rfl, rfl⟩) ?_ ?_
        (fun _ => EntryPhase.noConfusion) (fun _ => trivial) ⟨rfl, rfl, rfl, rfl, rfl⟩ rfl rfl
        ?_ rfl rfl
      · intro entry c _ connected
        exact ⟨brought.trans connected, connected⟩
      · intro entry d reclaimed
        exact brought.trans reclaimed
      · intro c held
        cases held
    dsimp only
    by_cases shut : s.phase ≠ .open'
    · rw [if_pos shut]
      exact spoiled _
    rw [if_neg shut]
    cases thrown with
    | some what => exact spoiled _
    | none =>
      refine kept.settle found dialling nothing
        (fun entry => { entry with
          connection := some record, reclaim := some record, phase := .active })
        { call with pc := .leased record } (fun _ => ⟨rfl, rfl⟩) ?_ ?_
        (fun _ => EntryPhase.noConfusion) ?_ ⟨rfl, rfl, rfl, rfl, rfl⟩ rfl rfl ?_ rfl rfl
      · intro entry c _ connected
        exact ⟨brought.trans connected, connected⟩
      · intro entry d reclaimed
        exact brought.trans reclaimed
      · intro entry
        exact ⟨record, rfl, rfl⟩
      · intro c held
        exact brought.trans held

/-- The network got on: no connection is gone, and none is for another origin. -/
structure Grown (s next : PoolState) : Prop where
  conns : ∀ (c : Nat) (conn : NetConn), s.conns[c]? = some conn → ∃ conn',
    next.conns[c]? = some conn' ∧ conn'.origin = conn.origin
  length : s.conns.length ≤ next.conns.length
  entries : next.entries = s.entries
  limits : next.limits = s.limits
  nextEntry : next.nextEntry = s.nextEntry
  phase : next.phase = s.phase

/-- The entries do not see that. -/
theorem Files.grow (files : s.Files) (grown : s.Grown next) : next.Files := by
  refine ⟨?_, ?_, ?_, ?_, ?_, ?_⟩
  · rw [grown.entries, grown.limits]
    exact files.budget
  · rw [grown.entries]
    exact files.distinct
  · rw [grown.entries, grown.nextEntry]
    exact files.older
  · rw [grown.entries]
    intro entry member c connected
    obtain ⟨reclaimed, conn, known, origin⟩ := files.filed entry member c connected
    obtain ⟨conn', known', same⟩ := grown.conns c conn known
    exact ⟨reclaimed, conn', known', same.trans origin⟩
  · rw [grown.entries]
    intro entry member d reclaimed
    exact Nat.lt_of_lt_of_le (files.known entry member d reclaimed) grown.length
  · rw [grown.entries]
    exact files.apart

/-- A step of the network keeps the books. -/
theorem Books.grow (books : s.Books) (grown : s.Grown next) (calls : next.calls = s.calls) :
    next.Books := by
  refine ⟨books.files.grow grown, ?_, ⟨?_, ?_, ?_⟩, ⟨?_, ?_⟩, ?_⟩
  · rw [count, grown.entries, grown.limits]
    exact books.kept
  · rw [calls]
    exact books.stakes.staked
  · rw [calls]
    intro j other c found stake
    obtain ⟨conn, known, origin⟩ := books.stakes.asked j other c found stake
    obtain ⟨conn', known', same⟩ := grown.conns c conn known
    exact ⟨conn', known', same.trans origin⟩
  · rw [calls]
    exact books.stakes.reserving
  · rw [calls, grown.entries]
    exact books.dials.unfiled
  · rw [calls, grown.entries, grown.nextEntry, grown.phase]
    exact books.dials.reserved
  · rw [calls, grown.entries]
    exact books.fits

/-- A submitted dial has brought its record, with a connection or without. -/
theorem Books.dialled (books : s.Books) (found : s.calls[i]? = some call)
    (pc : call.pc = .dialing id)
    (brings : record { call with pc := .dialled id result } = some s.conns.length) :
    Books { s.move i call (.dialled id result) with
      conns := s.conns ++ [{ origin := call.origin }] } := by
  have dialling : call.dial = some id := by simp only [dial, pc]
  have nothing : call.token = none := by simp only [Call.token, pc]
  have files := books.files
  have last : (s.conns ++ [({ origin := call.origin } : NetConn)])[s.conns.length]? =
      some { origin := call.origin } := by
    rw [List.getElem?_append_right (Nat.le_refl _), Nat.sub_self]
    rfl
  have grown : s.Grown { s with conns := s.conns ++ [{ origin := call.origin }] } := by
    refine ⟨?_, ?_, rfl, rfl, rfl, rfl⟩
    · intro c conn known
      exact ⟨conn, List.getElem?_push_old known, rfl⟩
    · simp only [List.length_append]
      omega
  have after := books.grow grown rfl
  refine ⟨files.grow ⟨grown.conns, grown.length, rfl, rfl, rfl, rfl⟩, books.kept, ?_, ⟨?_, ?_⟩, ?_⟩
  · have calls : (s.move i call (.dialled id result)).calls =
        s.calls.set i { call with pc := .dialled id result } := rfl
    refine after.stakes.set found calls (fun c conn known => ⟨conn, known, rfl⟩) rfl ?_ ?_
    · intro c stake
      right
      have new : c = s.conns.length := by
        rcases stake_cases stake with held | brought
        · cases held
        · exact Option.some.inj (brought.symm.trans brings)
      subst new
      refine ⟨?_, _, last, rfl⟩
      intro j other found' stake'
      obtain ⟨conn, known, _⟩ := books.stakes.asked j other _ found' stake'
      exact Nat.lt_irrefl _ (List.getElem?_eq_some_iff.mp known).1
    · intro place dialled
      cases dialled
      exact .inl dialling
  · intro j other d found' brought entry member reclaimed
    rcases List.getElem?_set_cases found' with ⟨_, rfl⟩ | before
    · have new := Option.some.inj (brought.symm.trans brings)
      exact Nat.ne_of_lt (files.known entry member d reclaimed) new
    · exact books.dials.unfiled j other d before brought entry member reclaimed
  · intro j other place found' dialled
    rcases List.getElem?_set_cases found' with ⟨_, rfl⟩ | before
    · cases dialled
      exact books.dials.reserved i call id found dialling
    · exact books.dials.reserved j other place before dialled
  · intro entry member
    apply fits_of_held (books.fits entry member)
    intro c _
    apply held_set_of_same found
    rw [nothing]
    rfl

/-- `Close` keeps the books. -/
theorem Books.close (books : s.Books) (reason : Error) : (s.close reason).Books := by
  unfold PoolState.close
  by_cases closed : s.phase = .closed
  · rw [if_pos closed]
    exact books.grow ⟨fun c conn known => ⟨conn, known, rfl⟩, Nat.le_refl _, rfl, rfl, rfl, rfl⟩ rfl
  rw [if_neg closed]
  have refiled : s.Refiled { s with
      closeReason := some (s.closeReason.getD reason), phase := .closed,
      entries := s.entries.map retired, waiters := [] } := by
    refine ⟨?_, ?_, rfl, rfl, rfl, fun _ => rfl, fun _ => .inr ?_⟩
    · intro entry member
      obtain ⟨old, before, rfl⟩ := List.mem_map.mp member
      exact ⟨old, before, rfl, rfl, rfl, rfl, .inr (.inr ⟨rfl, rfl⟩)⟩
    · rw [List.map_map]
      exact List.Sublist.refl _
    · intro entry member
      obtain ⟨old, _, rfl⟩ := List.mem_map.mp member
      rfl
  refine ⟨books.files.refile refiled, ?_, ⟨books.stakes.staked, books.stakes.asked,
    books.stakes.reserving⟩, books.dials.refile refiled ?_ ?_, ?_⟩
  · rw [count, List.countP_map]
    apply Nat.le_trans (Nat.le_of_eq (List.countP_eq_zero.mpr _)) (Nat.zero_le _)
    intro entry _ counted
    cases counted
  · intro j other d found brought
    exact ⟨j, other, found, brought⟩
  · intro j other place found dialled
    exact ⟨j, other, found, dialled, rfl⟩
  · intro entry member
    obtain ⟨old, _, rfl⟩ := List.mem_map.mp member
    trivial

/-- The queue names calls that wait and hold nothing, each once. -/
structure Lined (s : PoolState) : Prop where
  nodup : s.waiters.Nodup
  queued : ∀ j ∈ s.waiters, ∃ waiter, s.calls[j]? = some waiter ∧ waiter.queues = true

/-- The invariant of a pool, for every run. -/
structure Sound (s : PoolState) : Prop where
  books : s.Books
  line : s.Lined
  counted : s.inflight = s.calls.countP counts
  drained : ∀ (j n : Nat), s.shutdowns[j]? = some (.ok n) → n = 0

section

variable (line : s.Lined) (found : s.calls[i]? = some call)

include line found

/-- A call in the queue waits and holds nothing. -/
theorem Lined.own (member : i ∈ s.waiters) : call.queues = true := by
  obtain ⟨waiter, present, queues⟩ := line.queued i member
  cases found.symm.trans present
  exact queues

/-- A call that does not queue is not in the queue. -/
theorem Lined.absent (aside : call.queues = false) : i ∉ s.waiters := by
  intro member
  rw [line.own found member] at aside
  cases aside

/-- One call moves on, and some leave the queue. -/
theorem Lined.set
    (calls : next.calls = s.calls.set i moved) (waiters : next.waiters.Sublist s.waiters)
    (queues : i ∈ next.waiters → moved.queues = true) : next.Lined := by
  refine ⟨waiters.nodup line.nodup, ?_⟩
  rw [calls]
  intro j member
  by_cases here : j = i
  · subst here
    exact ⟨moved, List.getElem?_set_found found, queues member⟩
  · rw [List.getElem?_set_ne (Ne.symm here)]
    exact line.queued j (waiters.subset member)

end

/-- The count of a pool in which one call moved on. -/
theorem counts_set (found : s.calls[i]? = some call) (moved : Call) :
    (s.calls.set i moved).countP Call.counts + (if call.counts then 1 else 0) =
      s.calls.countP Call.counts + if moved.counts then 1 else 0 := by
  rw [List.set_eq_modify]
  exact List.countP_modify (fun _ => moved) counts found

/-- A call that is in flight before and after leaves the count. -/
theorem counts_set_same (found : s.calls[i]? = some call) (same : moved.counts = call.counts) :
    (s.calls.set i moved).countP counts = s.calls.countP counts := by
  have counted := counts_set found moved
  rw [same] at counted
  omega

/-- A call that ends takes one from the count. -/
theorem counts_set_end (found : s.calls[i]? = some call) (before : call.counts = true)
    (after : moved.counts = false) :
    (s.calls.set i moved).countP counts = s.calls.countP counts - 1 := by
  have counted := counts_set found moved
  rw [before, after] at counted
  simp only [if_true, Bool.false_eq_true, if_false] at counted
  omega

section

variable (sound : s.Sound) (found : s.calls[i]? = some call)

include sound found

/-- One call moves on while the queue and the shutdowns stay. -/
theorem Sound.set (books : next.Books)
    (calls : next.calls = s.calls.set i moved) (waiters : next.waiters.Sublist s.waiters)
    (inflight : next.inflight = s.inflight) (shutdowns : next.shutdowns = s.shutdowns)
    (counts : moved.counts = call.counts) (queues : i ∈ next.waiters → moved.queues = true) :
    next.Sound := by
  refine ⟨books, sound.line.set found calls waiters queues, ?_, ?_⟩
  · rw [inflight, calls, counts_set_same found counts]
    exact sound.counted
  · rw [shutdowns]
    exact sound.drained

/-- One call moves on with what it holds, without a new record or a new dial. -/
theorem Sound.goOn (calls : next.calls = s.calls.set i moved) (same : s.SameFiles next)
    (waiters : next.waiters.Sublist s.waiters) (inflight : next.inflight = s.inflight)
    (shutdowns : next.shutdowns = s.shutdowns) (origin : moved.origin = call.origin)
    (token : moved.token = call.token) (record : moved.record = none)
    (dial : ∀ id, moved.dial = some id → call.dial = some id) (counts : moved.counts = call.counts)
    (queues : i ∈ next.waiters → moved.queues = true) : next.Sound := by
  refine sound.set found ?_ calls waiters inflight shutdowns counts queues
  apply sound.books.goOn found calls same origin token _ dial
  intro d brought
  rw [record] at brought
  cases brought

/-- A call goes from one place where it owns nothing to another. -/
theorem Sound.plain (before : call.pc.plain = true) {pc : CallPc} (after : pc.plain = true) :
    (s.move i call pc).Sound := by
  obtain ⟨token, _, _, counts, queues⟩ := plain_spec before
  obtain ⟨token', record', dial', counts', _⟩ :=
    plain_spec (show ({ call with pc } : Call).pc.plain = true from after)
  refine sound.goOn found rfl ⟨rfl, rfl, rfl, rfl, rfl⟩ (List.Sublist.refl _) rfl rfl rfl
    (token'.trans token.symm) record' ?_ (counts'.trans counts.symm) ?_
  · rw [dial']
    exact fun id dialled => by cases dialled
  · exact fun member => absurd member (sound.line.absent found queues)

end

/-- `SweepLocked`. -/
theorem Sound.sweep (sound : s.Sound) : s.sweepLocked.Sound :=
  ⟨sound.books.sweep, ⟨sound.line.nodup, sound.line.queued⟩, sound.counted, sound.drained⟩

/-- What `TakeIdleLocked` finds. -/
theorem findIdle_spec {origin : Origin} (found : s.findIdle origin = some (entry, c)) :
    entry ∈ s.entries ∧ entry.phase = .idle ∧ entry.origin = origin ∧
      entry.connection = some c := by
  obtain ⟨first, chosen, connected⟩ := Option.bind_eq_some_iff.mp found
  rw [Option.map_eq_some_iff] at connected
  obtain ⟨d, connected, same⟩ := connected
  cases same
  have matches' := List.find?_some chosen
  have fits := of_decide_eq_true matches'
  exact ⟨List.mem_of_find?_eq_some chosen, fits.1, fits.2, connected⟩

/-- An idle connection goes to a call that owned nothing. -/
theorem Sound.take (sound : s.Sound) (found : s.calls[i]? = some call)
    (idle : s.findIdle call.origin = some (entry, c)) (token : call.token = none)
    (counts : call.counts = true) (moved : Call) (origin : moved.origin = call.origin)
    (token' : moved.token = some c) (record : moved.record = none) (dial : moved.dial = none)
    (counts' : moved.counts = true) (files : (s.updateEntry entry.id taken).SameFiles next)
    (calls : next.calls = s.calls.set i moved) (waiters : next.waiters = s.waiters.erase i)
    (inflight : next.inflight = s.inflight) (shutdowns : next.shutdowns = s.shutdowns) :
    next.Sound := by
  obtain ⟨member, idle', asked, connected⟩ := findIdle_spec idle
  have books := sound.books.take found member connected idle' asked files calls origin token
    token' record dial
  apply sound.set found books calls _ inflight shutdowns (counts'.trans counts.symm)
  · rw [waiters]
    intro queued
    exact absurd queued (sound.line.nodup.not_mem_erase)
  · rw [waiters]
    exact List.erase_sublist

/-- A call that owned nothing reserves an entry. -/
theorem Sound.reserveDial (sound : s.Sound) (found : s.calls[i]? = some call)
    (plain : call.pc.plain = true) (open' : s.phase = .open')
    (room : s.entries.length < s.limits.maxConnections) : (s.reserveDial i call).Sound := by
  obtain ⟨token, _, _, counts, queues⟩ := plain_spec plain
  have calls : (s.reserveDial i call).calls =
      s.calls.set i { call with pc := .dialing s.nextEntry } := rfl
  apply sound.set found (sound.books.reserveDial found token open' room) calls (List.Sublist.refl _)
    rfl rfl counts.symm
  intro member
  exact absurd member (sound.line.absent found queues)

/-- `RetireOtherIdleLocked`. -/
theorem Sound.retireOtherIdle (sound : s.Sound) (origin : Origin) :
    (s.retireOtherIdleLocked origin).Sound := by
  unfold retireOtherIdleLocked
  cases chosen : s.entries.find? fun entry =>
    decide (entry.phase = .idle ∧ entry.origin ≠ origin) with
  | none => exact sound
  | some entry =>
    have books := sound.books
    have member := List.mem_of_find?_eq_some chosen
    have matches' := List.find?_some chosen
    have idle : entry.phase = .idle := (of_decide_eq_true matches').1
    obtain ⟨c, connected⟩ := Option.ne_none_iff_exists'.mp (books.idle_connected member idle)
    have same : ∀ entry, (retired entry).id = entry.id ∧ (retired entry).origin = entry.origin ∧
        (retired entry).connection = entry.connection ∧
        (retired entry).reclaim = entry.reclaim := fun _ => ⟨rfl, rfl, rfl, rfl⟩
    refine ⟨?_, ⟨sound.line.nodup, sound.line.queued⟩, sound.counted, sound.drained⟩
    apply books.rephase member connected same ⟨rfl, rfl, rfl, rfl, rfl⟩
    · exact Nat.le_trans (s.count_updateEntry_le entry.id fun _ => EntryPhase.noConfusion)
        books.kept
    · exact ⟨books.stakes.staked, books.stakes.asked, books.stakes.reserving⟩
    · intro refiled
      apply books.dials.refile refiled
      · exact fun j other d found brought => ⟨j, other, found, brought⟩
      · exact fun j other id found dialled => ⟨j, other, found, dialled, rfl⟩
    · exact fun _ _ => Iff.rfl
    · trivial

/-- A call that owned nothing enters the queue. -/
theorem Sound.enterQueue (sound : s.Sound) (found : s.calls[i]? = some call)
    (plain : call.pc.plain = true) (sliceEnd : Nat) :
    Sound { s.setCall i { call with
      pc := .registering sliceEnd, handed := none, admitted := true } with
        waiters := s.waiters ++ [i] } := by
  obtain ⟨token, _, _, counts, queues⟩ := plain_spec plain
  have absent := sound.line.absent found queues
  let moved : Call := { call with pc := .registering sliceEnd, handed := none, admitted := true }
  have same : Call.counts moved = call.counts := counts.symm
  refine ⟨?_, ⟨?_, ?_⟩, ?_, sound.drained⟩
  · refine sound.books.goOn found rfl ⟨rfl, rfl, rfl, rfl, rfl⟩ rfl token.symm ?_ ?_
    · exact fun d brought => by cases brought
    · exact fun id dialled => by cases dialled
  · change (s.waiters ++ [i]).Nodup
    rw [List.nodup_append]
    refine ⟨sound.line.nodup, List.nodup_singleton i, ?_⟩
    intro j member k last same
    rw [List.mem_singleton.mp last] at same
    exact absent (same ▸ member)
  · intro j member
    rcases List.mem_append.mp member with before | last
    · obtain ⟨waiter, present, queues'⟩ := sound.line.queued j before
      by_cases here : j = i
      · exact ⟨moved, by rw [here]; exact List.getElem?_set_found found, rfl⟩
      · refine ⟨waiter, ?_, queues'⟩
        exact (List.getElem?_set_ne (Ne.symm here)).trans present
    · rw [List.mem_singleton.mp last]
      exact ⟨moved, List.getElem?_set_found found, rfl⟩
  · exact sound.counted.trans (counts_set_same found same).symm

/-- What a connection that comes back does to the calls: nothing, or one queued call gets it. -/
theorem returnLocked_calls (s : PoolState) (c : Nat) (healthy : Bool) :
    s.SameCalls (s.returnLocked c healthy) ∨ ∃ entry j waiter, s.phase = .open' ∧ healthy = true ∧
      s.findLocked c = some entry ∧ s.nextWaiter entry.origin = some (j, waiter) ∧
      s.returnLocked c healthy = s.handOver entry.id c j waiter := by
  unfold returnLocked
  cases found : s.findLocked c with
  | none => exact .inl ⟨rfl, rfl, rfl, rfl, rfl, rfl, rfl⟩
  | some entry =>
    dsimp only
    by_cases retires : (!healthy || decide (s.phase ≠ .open')) = true
    · rw [if_pos retires]
      exact .inl ⟨rfl, rfl, rfl, rfl, rfl, rfl, rfl⟩
    rw [if_neg retires]
    cases chosen : s.nextWaiter entry.origin with
    | none =>
      left
      unfold admitToIdleLocked
      split_ifs <;> exact ⟨rfl, rfl, rfl, rfl, rfl, rfl, rfl⟩
    | some pair =>
      rw [Bool.or_eq_true, not_or, Bool.not_eq_true, Bool.not_eq_false', decide_eq_true_eq,
        not_not] at retires
      exact .inr ⟨entry, pair.1, pair.2, retires.2, retires.1, rfl, chosen, rfl⟩

/-- It changes no limit. -/
theorem returnLocked_limits (s : PoolState) (c : Nat) (healthy : Bool) :
    (s.returnLocked c healthy).limits = s.limits := by
  unfold returnLocked
  repeat' split
  all_goals first | rfl | (unfold admitToIdleLocked; split_ifs <;> rfl)

section

variable (sound : s.Sound)

include sound

/-- A connection that was given up goes back to the pool, or to the next in the queue. -/
theorem Sound.giveBack (drops : s.Drops next i call moved c)
    (line : next.Lined) (counted : next.inflight = next.calls.countP Call.counts)
    (shutdowns : next.shutdowns = s.shutdowns) (healthy : Bool) :
    (next.returnLocked c healthy).Sound := by
  have books := sound.books.giveBack drops line.queued healthy
  rcases next.returnLocked_calls c healthy with same | ⟨entry, j, waiter, _, _, _, chosen, goes⟩
  · refine ⟨books, ⟨?_, ?_⟩, ?_, ?_⟩
    · rw [same.waiters]
      exact line.nodup
    · rw [same.waiters, same.calls]
      exact line.queued
    · rw [same.inflight, same.calls]
      exact counted
    · rw [same.shutdowns, shutdowns]
      exact sound.drained
  · rw [goes] at books ⊢
    obtain ⟨_, present, _⟩ := nextWaiter_spec chosen
    have calls : (next.handOver entry.id c j waiter).calls =
        next.calls.set j { waiter with handed := some c } := rfl
    refine ⟨books, line.set present calls List.erase_sublist ?_, ?_, ?_⟩
    · intro member
      exact absurd member line.nodup.not_mem_erase
    · have same : counts { waiter with handed := some c } = waiter.counts := rfl
      rw [calls, counts_set_same present same]
      exact counted
    · change ∀ (k n : Nat), next.shutdowns[k]? = some (.ok n) → n = 0
      rw [shutdowns]
      exact sound.drained

/-- The section of `DialReserved`. -/
theorem Sound.settleDial (found : s.calls[i]? = some call)
    (pc : call.pc = .dialled id result) (thrown : Option Bytes) :
    (s.settleDial i call id result thrown).Sound := by
  have books := sound.books.settleDial found pc thrown
  have counts : call.counts = true := by simp only [Call.counts, pc]
  have queues : call.queues = false := by simp only [Call.queues, pc]
  have absent := sound.line.absent found queues
  have goes : ∃ pc : CallPc, (s.settleDial i call id result thrown).calls =
      s.calls.set i { call with pc } ∧ Call.counts { call with pc } = true := by
    unfold PoolState.settleDial
    dsimp only
    split
    · exact ⟨_, rfl, rfl⟩
    · split_ifs
      · exact ⟨_, rfl, rfl⟩
      · split <;> exact ⟨_, rfl, rfl⟩
  have rest : (s.settleDial i call id result thrown).waiters = s.waiters ∧
      (s.settleDial i call id result thrown).inflight = s.inflight ∧
      (s.settleDial i call id result thrown).shutdowns = s.shutdowns := by
    unfold PoolState.settleDial
    dsimp only
    split
    · exact ⟨rfl, rfl, rfl⟩
    · split_ifs
      · exact ⟨rfl, rfl, rfl⟩
      · split <;> exact ⟨rfl, rfl, rfl⟩
  obtain ⟨place, calls, counts'⟩ := goes
  apply sound.set found books calls _ rest.2.1 rest.2.2 (counts'.trans counts.symm)
  · rw [rest.1]
    exact fun member => absurd member absent
  · rw [rest.1]

/-- `Acquire` gives back its count behind a failure. -/
theorem Sound.end' (found : s.calls[i]? = some call) {exit : AcquireExit}
    (pc : call.pc = .failing exit) :
    (PoolState.move { s with inflight := s.inflight - 1 } i call (.returned exit)).Sound := by
  have plain : call.pc.plain = true := by rw [pc]; rfl
  obtain ⟨token, _, _, counts, queues⟩ := plain_spec plain
  have absent := sound.line.absent found queues
  refine ⟨?_, ?_, ?_, sound.drained⟩
  · refine sound.books.goOn found rfl ⟨rfl, rfl, rfl, rfl, rfl⟩ rfl token.symm ?_ ?_
    · exact fun d brought => by cases brought
    · exact fun id dialled => by cases dialled
  · exact sound.line.set found rfl (List.Sublist.refl _) (fun member => absurd member absent)
  · have ended : Call.counts { call with pc := .returned exit } = false := rfl
    exact (congrArg (· - 1) sound.counted).trans (counts_set_end found counts ended).symm

/-- `Lease::Release`. -/
theorem Sound.release (found : s.calls[i]? = some call)
    (pc : call.pc = .leased c) (healthy : Bool) : (s.release i call c healthy).Sound := by
  have token : call.token = some c := by simp only [Call.token, pc]
  have counts : call.counts = true := by simp only [Call.counts, pc]
  have queues : call.queues = false := by simp only [Call.queues, pc]
  have absent := sound.line.absent found queues
  let moved : Call := { call with pc := .released }
  have drops : s.Drops (PoolState.move { s with inflight := s.inflight - 1 } i call .released) i
      call moved c := ⟨found, token, rfl, ⟨rfl, rfl, rfl, rfl, rfl⟩, rfl, rfl, rfl⟩
  refine sound.giveBack drops ?_ ?_ rfl healthy
  · exact sound.line.set found drops.calls (List.Sublist.refl _)
      (fun member => absurd member absent)
  · have ended : Call.counts moved = false := rfl
    exact (congrArg (· - 1) sound.counted).trans (counts_set_end found counts ended).symm

/-- A sweep. -/
theorem Sound.swept (swept : s.Swept next) : next.Sound := by
  cases swept with
  | same => exact sound
  | swept => exact sound.sweep

/-- A turn of a call. -/
theorem Sound.turn (found : s.calls[i]? = some call) {label : PoolLabel}
    (turn : s.Turn i call label next) : next.Sound := by
  have gone : i ∉ (s.dequeueLocked i).waiters := sound.line.nodup.not_mem_erase
  cases turn with
  | walk _ swept walks =>
    exact (sound.swept swept).plain (swept.calls.calls ▸ found) walks.plain.1 walks.plain.2
  | full thrown place =>
    have same := s.sweepLocked.retireOther_calls call.origin
    exact (sound.sweep.retireOtherIdle call.origin).plain (same.calls ▸ found)
      (by rw [place]; rfl) rfl
  | @enter sliceEnd thrown place =>
    have same := s.sweepLocked.retireOther_calls call.origin
    have entered := (sound.sweep.retireOtherIdle call.origin).enterQueue (same.calls ▸ found)
      (by rw [place]; rfl) sliceEnd
    rw [same.waiters] at entered
    exact entered
  | @take entry c thrown place _ idle =>
    obtain ⟨token, _, _, counts, queues⟩ := plain_spec (plain_of_looks rfl place)
    have absent := sound.line.absent found queues
    exact sound.sweep.take found idle token counts { call with pc := .leased c } rfl rfl rfl
      rfl rfl ⟨rfl, rfl, rfl, rfl, rfl⟩ rfl (List.erase_of_not_mem absent).symm rfl rfl
  | @takeParked sliceEnd entry c place empty _ idle =>
    exact sound.sweep.take found idle (by simp only [Call.token, place, empty])
      (by simp only [Call.counts, place]) { call with pc := .parked sliceEnd, handed := some c }
      rfl rfl rfl rfl rfl ⟨rfl, rfl, rfl, rfl, rfl⟩ rfl rfl rfl rfl
  | park place swept =>
    have found' := found
    rw [← swept.calls.calls] at found'
    refine (sound.swept swept).goOn found' rfl ⟨rfl, rfl, rfl, rfl, rfl⟩ (List.Sublist.refl _) rfl
      rfl rfl (by simp only [Call.token, place]) rfl nofun (by simp only [Call.counts, place]) ?_
    intro member
    simpa only [Call.queues, place] using (sound.swept swept).line.own found' member
  | reserve thrown place swept open' room =>
    rw [← swept.calls.limits] at room
    refine (sound.swept swept).reserveDial (swept.calls.calls ▸ found)
      (plain_of_looks rfl place) ?_ room
    cases swept <;> exact open'
  | unclaimed thrown place empty =>
    exact sound.goOn found rfl ⟨rfl, rfl, rfl, rfl, rfl⟩ List.erase_sublist rfl rfl rfl
      (by simp only [Call.token, place, empty]) rfl nofun (by simp only [Call.counts, place])
      (fun member => absurd member gone)
  | claim thrown place handed =>
    exact sound.goOn found rfl ⟨rfl, rfl, rfl, rfl, rfl⟩ List.erase_sublist rfl rfl rfl
      (by simp only [Call.token, place, handed]) rfl nofun (by simp only [Call.counts, place])
      (fun member => absurd member gone)
  | @giveUp status c thrown place late handed =>
    let moved : Call := { call with pc := .judge status, handed := none }
    have drops : s.Drops ((s.dequeueLocked i).setCall i moved) i call moved c :=
      ⟨found, by simp only [Call.token, place, handed], rfl, ⟨rfl, rfl, rfl, rfl, rfl⟩, rfl, rfl,
        rfl⟩
    refine sound.giveBack drops ?_ ?_ rfl true
    · exact sound.line.set found drops.calls List.erase_sublist (fun member => absurd member gone)
    · have same : Call.counts moved = call.counts := by simp only [Call.counts, place, moved]
      exact sound.counted.trans (counts_set_same found same).symm
  | settle thrown place => exact sound.settleDial found place thrown
  | wake status place =>
    refine sound.goOn found rfl ⟨rfl, rfl, rfl, rfl, rfl⟩ (List.Sublist.refl _) rfl rfl rfl ?_ rfl
      nofun ?_ fun member => ?_
    · obtain place | place := place <;> simp only [Call.token, place]
    · obtain place | place := place <;> simp only [Call.counts, place]
    · have queues := sound.line.own found member
      obtain place | place := place <;> simpa only [Call.queues, place] using queues
  | refused answer error place =>
    refine sound.goOn found rfl ⟨rfl, rfl, rfl, rfl, rfl⟩ (List.Sublist.refl _) rfl rfl rfl
      (by simp only [Call.token, place]) rfl ?_ (by simp only [Call.counts, place]) ?_
    · intro id dialled
      cases dialled
      simp only [dial, place]
    · exact fun member =>
        absurd member (sound.line.absent found (by simp only [Call.queues, place]))
  | dialled answer place brings =>
    exact sound.set found (sound.books.dialled found place brings) rfl (List.Sublist.refl _) rfl rfl
      (by simp only [Call.counts, place])
      (fun member => absurd member (sound.line.absent found (by simp only [Call.queues, place])))
  | fail thrown place => exact sound.end' found place
  | release healthy place => exact sound.release found place healthy

end

/-- A change of the network is for one connection and leaves its origin. -/
theorem apply_origin (change : NetChange) (conn : NetConn) :
    (change.apply conn).origin = conn.origin := by
  cases change <;> rfl

/-- The books do not see what the queue, the counters and the histories are. -/
theorem Books.aside (books : s.Books) (same : s.SameFiles next) (calls : next.calls = s.calls) :
    next.Books := by
  refine books.grow ⟨?_, ?_, same.entries, same.limits, same.nextEntry, same.phase⟩ calls
  · rw [same.conns]
    exact fun c conn known => ⟨conn, known, rfl⟩
  · exact Nat.le_of_eq (congrArg List.length same.conns).symm

/-- A new call of `Acquire`, counted or turned away. -/
theorem Sound.acquire (sound : s.Sound) (new : Call) (inflight : Nat)
    (nothing : new.token = none ∧ new.record = none ∧ new.dial = none)
    (counts : inflight = s.inflight + if new.counts then 1 else 0) :
    Sound { s with calls := s.calls ++ [new], inflight } := by
  have books := sound.books
  have stake : new.stake = none := by rw [Call.stake, nothing.1, nothing.2.1]; rfl
  have held : ∀ c, Held (s.calls ++ [new]) c ↔ Held s.calls c := by
    intro c
    constructor
    · rintro ⟨j, other, found, holds⟩
      rcases List.getElem?_push_cases found with ⟨_, rfl⟩ | before
      · rw [nothing.1] at holds
        cases holds
      · exact ⟨j, other, before, holds⟩
    · rintro ⟨j, other, found, holds⟩
      exact ⟨j, other, List.getElem?_push_old found, holds⟩
  refine ⟨⟨⟨books.files.1, books.files.2, books.files.3, books.files.4, books.files.5,
    books.files.6⟩, books.kept, ⟨?_, ?_, ?_⟩, ⟨?_, ?_⟩, ?_⟩, ⟨sound.line.nodup, ?_⟩, ?_,
    sound.drained⟩
  · apply books.stakes.staked.concat
    intro c absurd'
    rw [stake] at absurd'
    cases absurd'
  · intro j other c found stake'
    rcases List.getElem?_push_cases found with ⟨_, rfl⟩ | before
    · rw [stake] at stake'
      cases stake'
    · exact books.stakes.asked j other c before stake'
  · apply books.stakes.reserving.concat
    intro c absurd'
    rw [nothing.2.2] at absurd'
    cases absurd'
  · intro j other d found brought
    rcases List.getElem?_push_cases found with ⟨_, rfl⟩ | before
    · rw [nothing.2.1] at brought
      cases brought
    · exact books.dials.unfiled j other d before brought
  · intro j other id found dialled
    rcases List.getElem?_push_cases found with ⟨_, rfl⟩ | before
    · rw [nothing.2.2] at dialled
      cases dialled
    · exact books.dials.reserved j other id before dialled
  · intro entry member
    exact fits_of_held (books.fits entry member) fun c _ => held c
  · intro j member
    obtain ⟨waiter, present, queues⟩ := sound.line.queued j member
    exact ⟨waiter, List.getElem?_push_old present, queues⟩
  · change inflight = (s.calls ++ [new]).countP Call.counts
    rw [List.countP_push, counts, sound.counted]

/-- `Close`. -/
theorem Sound.close (sound : s.Sound) (reason : Error) : (s.close reason).Sound := by
  refine ⟨sound.books.close reason, ⟨?_, ?_⟩, ?_, ?_⟩
  all_goals
    unfold PoolState.close
    by_cases closed : s.phase = .closed
  · rw [if_pos closed]
    exact sound.line.nodup
  · rw [if_neg closed]
    exact List.nodup_nil
  · rw [if_pos closed]
    exact sound.line.queued
  · rw [if_neg closed]
    exact fun j member => absurd member List.not_mem_nil
  · rw [if_pos closed]
    exact sound.counted
  · rw [if_neg closed]
    exact sound.counted
  · rw [if_pos closed]
    exact sound.drained
  · rw [if_neg closed]
    exact sound.drained

/-- A result of `Shutdown` is ok only with nothing in flight. -/
theorem drained_append {results : List ShutdownPc} {result : ShutdownPc}
    (before : ∀ (j n : Nat), results[j]? = some (.ok n) → n = 0)
    (new : ∀ n, result = .ok n → n = 0) :
    ∀ (j n : Nat), (results ++ [result])[j]? = some (.ok n) → n = 0 := by
  intro j n found
  rcases List.getElem?_push_cases found with ⟨_, same⟩ | old
  · exact new n same.symm
  · exact before j n old

/-- `Shutdown` up to its loop. -/
theorem Sound.shutdown (sound : s.Sound) : s.shutdown.Sound := by
  unfold PoolState.shutdown
  split
  case h_1 _ =>
    refine ⟨sound.books.aside ⟨rfl, rfl, rfl, rfl, rfl⟩ rfl, ⟨sound.line.nodup,
      sound.line.queued⟩, sound.counted, drained_append sound.drained ?_⟩
    exact fun n absurd' => by cases absurd'
  case h_2 _ =>
    refine ⟨sound.books.aside ⟨rfl, rfl, rfl, rfl, rfl⟩ rfl, ⟨sound.line.nodup,
      sound.line.queued⟩, sound.counted, drained_append sound.drained ?_⟩
    intro n result
    split_ifs at result with none'
    cases result
    exact none'
  case h_3 phase =>
    have refiled : s.Refiled { s with
        phase := .draining, waiters := [], shutdowns := s.shutdowns ++ [.waiting] } := by
      refine ⟨?_, List.Sublist.refl _, rfl, rfl, rfl, ?_, fun closed => by cases closed⟩
      · exact fun entry member => ⟨entry, member, rfl, rfl, rfl, rfl, .inl rfl⟩
      · rw [phase]
        exact fun closed => by cases closed
    have books := sound.books
    refine ⟨⟨books.files.refile refiled, books.kept, ⟨books.stakes.staked, books.stakes.asked,
      books.stakes.reserving⟩, books.dials.refile refiled ?_ ?_, books.fits⟩,
      ⟨List.nodup_nil, fun j member => absurd member List.not_mem_nil⟩, sound.counted,
      drained_append sound.drained fun n absurd' => by cases absurd'⟩
    · exact fun j other d found brought => ⟨j, other, found, brought⟩
    · exact fun j other id found dialled => ⟨j, other, found, dialled, rfl⟩

/-- Every step keeps the invariant. -/
theorem Sound.step (sound : s.Sound) {label : PoolLabel} (stepped : s.step label = some next) :
    next.Sound := by
  cases label with
  | acquire origin deadline =>
    rw [PoolState.step] at stepped
    by_cases shut : s.phase ≠ .open'
    · rw [if_pos shut] at stepped
      cases stepped
      exact sound.acquire _ s.inflight ⟨rfl, rfl, rfl⟩ rfl
    · rw [if_neg shut] at stepped
      cases stepped
      exact sound.acquire _ (s.inflight + 1) ⟨rfl, rfl, rfl⟩ rfl
  | check i | act i | callback i | resume i | dial i | release i =>
    obtain ⟨call, found, turn⟩ := step_turn rfl stepped
    exact sound.turn found turn
  | stats =>
    cases stepped
    exact sound.sweep
  | close reason =>
    cases stepped
    exact sound.close reason
  | shutdown =>
    cases stepped
    exact sound.shutdown
  | drain j late =>
    rw [PoolState.step] at stepped
    by_cases waiting : s.shutdowns[j]? = some .waiting
    · rw [if_pos waiting] at stepped
      cases stepped
      refine ⟨sound.books.aside ⟨rfl, rfl, rfl, rfl, rfl⟩ rfl, ⟨sound.line.nodup,
        sound.line.queued⟩, sound.counted, ?_⟩
      intro k n found
      rcases List.getElem?_set_cases found with ⟨_, result⟩ | before
      · unfold drainRound at result
        by_cases none' : s.inflight = 0
        · rw [if_pos none'] at result
          cases result
          exact none'
        · rw [if_neg none'] at result
          split at result
          · cases result
          · split_ifs at result
      · exact sound.drained k n before
    · rw [if_neg waiting] at stepped
      cases stepped
  | tick =>
    cases stepped
    exact ⟨sound.books.aside ⟨rfl, rfl, rfl, rfl, rfl⟩ rfl, ⟨sound.line.nodup,
      sound.line.queued⟩, sound.counted, sound.drained⟩
  | net c change =>
    cases stepped
    refine ⟨sound.books.grow ⟨?_, ?_, rfl, rfl, rfl, rfl⟩ rfl, ⟨sound.line.nodup,
      sound.line.queued⟩, sound.counted, sound.drained⟩
    · intro d conn known
      by_cases here : c = d
      · subst here
        refine ⟨change.apply conn, ?_, apply_origin change conn⟩
        rw [List.getElem?_modify_eq, known]
        rfl
      · refine ⟨conn, ?_, rfl⟩
        rw [List.getElem?_modify, known]
        exact congrArg some (if_neg here)
    · exact Nat.le_of_eq (List.length_modify _ _ _).symm

/-- A new pool is sound. -/
theorem make_sound (limits : PoolLimits) : (make limits).Sound := by
  refine ⟨⟨⟨Nat.zero_le _, List.nodup_nil, ?_, ?_, ?_, ?_⟩, Nat.zero_le _, ⟨Exclusive.nil, ?_,
    Exclusive.nil⟩, ⟨?_, ?_⟩, ?_⟩, ⟨List.nodup_nil, ?_⟩, rfl, ?_⟩
  · exact fun entry member => absurd member List.not_mem_nil
  · exact fun entry member => absurd member List.not_mem_nil
  · exact fun entry member => absurd member List.not_mem_nil
  · exact fun entry member => absurd member List.not_mem_nil
  · exact fun j call c found => by cases found
  · exact fun j call d found => by cases found
  · exact fun j call id found => by cases found
  · exact fun entry member => absurd member List.not_mem_nil
  · exact fun j member => absurd member List.not_mem_nil
  · exact fun j n found => by cases found

/-- Every reachable pool is sound. -/
theorem reachable_sound {limits : PoolLimits} (reachable : (poolMachine limits).Reachable s) :
    s.Sound := by
  apply reachable.invariant Sound
  · rintro state rfl
    exact make_sound limits
  · intro state label next sound stepped
    exact sound.step stepped

/-- Whatever `Stats` erases, no two calls hold or retire one connection, an idle entry offers one
that no call holds, and the calls in the queue are distinct and hold and dial none. -/
theorem connections_apart {limits : PoolLimits} (reachable : (poolMachine limits).Reachable s) :
    Exclusive s.calls stake ∧
    (∀ entry ∈ s.entries, entry.phase = .idle →
      ∃ c, entry.connection = some c ∧ ¬ Held s.calls c) ∧
    s.waiters.Nodup ∧ ∀ j ∈ s.waiters, ∃ waiter, s.calls[j]? = some waiter ∧
      waiter.token = none ∧ waiter.record = none ∧ waiter.dial = none := by
  obtain ⟨books, line, -, -⟩ := reachable_sound reachable
  refine ⟨books.stakes.staked, ?_, line.nodup, ?_⟩
  · intro entry member idle
    have fits := books.fits entry member
    rwa [Entry.Fits, idle] at fits
  · intro j member
    obtain ⟨waiter, found, queues⟩ := line.queued j member
    obtain ⟨token, record, dial, -⟩ := queues_spec queues
    exact ⟨waiter, found, token, record, dial⟩

/-- A call waits for the only connection, which another one holds. -/
theorem connections_apart_waiting : ∃ s, (poolMachine { maxConnections := 1 }).Reachable s ∧
    s.waiters.length = 1 ∧ s.waiters.Nodup := by
  let origin : Origin := { scheme := [], host := [], port := 80 }
  obtain ⟨s, reachable, waits⟩ := Machine.exists_reachable (m := poolMachine { maxConnections := 1 })
    ([.acquire origin none, .check 0 none, .act 0 none, .act 0 none, .dial 0 .connected, .act 0 none,
      .acquire origin none, .check 1 none] ++ List.replicate 4 (.act 1 none))
    (fun s => decide (s.waiters.length = 1)) rfl (by decide +kernel)
  exact ⟨s, reachable, of_decide_eq_true waits, (connections_apart reachable).2.2.1⟩

end PoolState

end BbtInfra.Http
