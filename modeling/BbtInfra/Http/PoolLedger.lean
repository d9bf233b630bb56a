import BbtInfra.Http.PoolSteps

/-!
# The ledger of a pool

A dial in flight writes its result into the entry that it reserved, so the entry has to be there
until then. `Close` retires the entry with an empty receipt, and `Stats` is the only sweep that
runs on a closed pool: it erases such an entry at once. As long as no `Stats` does that, nothing
that was dialled is forgotten, and the ledger holds.
-/
namespace BbtInfra.Http

open Lib Call

/-- A call of `Acquire` that has neither returned nor got its lease. -/
def Call.running (call : Call) : Bool :=
  match call.pc with
  | .returned _ | .leased _ | .released => false
  | _ => true

/-- An outstanding lease. -/
def Call.leasing (call : Call) : Bool :=
  match call.pc with
  | .leased _ => true
  | _ => false

namespace PoolState

/-- Every dial in flight has its entry. -/
def Placed (s : PoolState) : Prop :=
  ∀ (i : Nat) (call : Call) (id : Nat), s.calls[i]? = some call → call.dial = some id →
    ∃ entry ∈ s.entries, entry.id = id

/-- Every submitted dial whose connection is not released is known to an entry, or to the call
that dialled. -/
def Remembered (s : PoolState) : Prop :=
  ∀ (d : Nat) (conn : NetConn), s.conns[d]? = some conn → conn.released = true ∨
    (∃ entry ∈ s.entries, entry.reclaim = some d) ∨
    ∃ (i : Nat) (call : Call), s.calls[i]? = some call ∧ call.record = some d

/-- The ledger of the pool. -/
structure Ledger (s : PoolState) : Prop where
  budget : s.entries.length ≤ s.limits.maxConnections
  kept : s.count .idle ≤ s.limits.maxKeepaliveConnections
  owned : ∀ entry ∈ s.entries, entry.phase = .active → ∃ c, entry.connection = some c ∧
    ∃! i : Nat, ∃ call : Call, s.calls[i]? = some call ∧ call.token = some c
  single : Exclusive s.calls Call.token
  origin : ∀ (i : Nat) (call : Call) (c : Nat), s.calls[i]? = some call → call.token = some c →
    ∃ conn, s.conns[c]? = some conn ∧ conn.origin = call.origin
  placed : s.Placed
  remembered : s.Remembered
  intact : s.dangling = false
  inflight : s.inflight = s.calls.countP running + s.calls.countP leasing
  drained : ∀ (j n : Nat), s.shutdowns[j]? = some (.ok n) → n = 0

/-- `Stats` on a closed pool with a dial in flight. -/
def strands (s : PoolState) (label : PoolLabel) : Bool :=
  decide (label = .stats) && decide (s.phase = .closed) &&
    s.calls.any fun call => call.dial.isSome

/-- The part of the ledger that depends on it. -/
structure Intact (s : PoolState) : Prop where
  placed : s.Placed
  remembered : s.Remembered
  intact : s.dangling = false

variable {s next : PoolState} {i : Nat} {call moved : Call} {entry : Entry}

/-- Every entry has a successor with its receipt. -/
structure Kept (s next : PoolState) : Prop where
  entries : ∀ entry ∈ s.entries, ∃ later ∈ next.entries, later.id = entry.id ∧
    later.reclaim = entry.reclaim
  conns : next.conns = s.conns
  dangling : next.dangling = s.dangling

/-- Entries that change in other things stay where they are. -/
theorem updateEntry_kept (s : PoolState) (id : Nat) {f : Entry → Entry}
    (same : ∀ entry, (f entry).id = entry.id ∧ (f entry).reclaim = entry.reclaim) :
    s.Kept (s.updateEntry id f) := by
  refine ⟨?_, rfl, rfl⟩
  intro entry member
  refine ⟨_, List.mem_map_of_mem member, ?_⟩
  by_cases here : entry.id = id
  · rw [if_pos here]
    exact same entry
  · rw [if_neg here]
    exact ⟨rfl, rfl⟩

section

variable (intact : s.Intact)

include intact

/-- The calls keep their records, and dial nothing new. -/
theorem Intact.keep (kept : s.Kept next)
    (dials : ∀ (i : Nat) (call : Call) (id : Nat), next.calls[i]? = some call →
      call.dial = some id → ∃ (j : Nat) (old : Call), s.calls[j]? = some old ∧ old.dial = some id)
    (records : ∀ (i : Nat) (call : Call) (d : Nat), s.calls[i]? = some call →
      call.record = some d → ∃ (j : Nat) (new : Call), next.calls[j]? = some new ∧
        new.record = some d) : next.Intact := by
  refine ⟨?_, ?_, kept.dangling.trans intact.intact⟩
  · intro j other id found dialled
    obtain ⟨k, old, before, dialled'⟩ := dials j other id found dialled
    obtain ⟨entry, member, here⟩ := intact.placed k old id before dialled'
    obtain ⟨later, member', id', _⟩ := kept.entries entry member
    exact ⟨later, member', id'.trans here⟩
  · intro d conn known
    rw [kept.conns] at known
    rcases intact.remembered d conn known with released | filed | brought
    · exact .inl released
    · obtain ⟨entry, member, reclaimed⟩ := filed
      obtain ⟨later, member', _, reclaim⟩ := kept.entries entry member
      exact .inr (.inl ⟨later, member', reclaim.trans reclaimed⟩)
    · obtain ⟨j, other, found, record⟩ := brought
      exact .inr (.inr (records j other d found record))

/-- One call moves on with its record and its dial. -/
theorem Intact.set (kept : s.Kept next) (found : s.calls[i]? = some call)
    (calls : next.calls = s.calls.set i moved)
    (dial : ∀ id, moved.dial = some id → call.dial = some id)
    (record : ∀ d, call.record = some d → moved.record = some d) : next.Intact := by
  apply intact.keep kept
  · rw [calls]
    intro j other id found' dialled
    rcases List.getElem?_set_cases found' with ⟨_, rfl⟩ | before
    · exact ⟨i, call, found, dial id dialled⟩
    · exact ⟨j, other, before, dialled⟩
  · rw [calls]
    intro j other d found' brought
    by_cases here : j = i
    · subst here
      cases found.symm.trans found'
      exact ⟨j, moved, List.getElem?_set_found found, record d brought⟩
    · exact ⟨j, other, by rwa [List.getElem?_set_ne (Ne.symm here)], brought⟩

/-- The calls do not change. -/
theorem Intact.stay (kept : s.Kept next) (calls : next.calls = s.calls) : next.Intact := by
  apply intact.keep kept
  · rw [calls]
    exact fun j other id found dialled => ⟨j, other, found, dialled⟩
  · rw [calls]
    exact fun j other d found brought => ⟨j, other, found, brought⟩

/-- The sweep erases an entry only when what it knows is released, and no dial needs it. -/
theorem Intact.sweep (sound : s.Sound)
    (none' : s.phase = .closed → ∀ call ∈ s.calls, call.dial = none) : s.sweepLocked.Intact := by
  have survives : ∀ entry ∈ s.entries, (∃ later ∈ s.sweepLocked.entries, later.id = entry.id ∧
      later.reclaim = entry.reclaim) ∨ entry.phase = .retiring ∧ s.reclaimed entry = true := by
    intro entry member
    cases left : s.sweepEntry entry with
    | some later =>
      left
      refine ⟨later, List.mem_filterMap.mpr ⟨entry, member, left⟩, ?_⟩
      rcases sweepEntry_spec left with rfl | ⟨_, rfl⟩
      · exact ⟨rfl, rfl⟩
      · exact ⟨rfl, rfl⟩
    | none =>
      right
      unfold sweepEntry at left
      split at left
      · rename_i retiring
        split_ifs at left with gone
        exact ⟨retiring, gone⟩
      · split_ifs at left
      · cases left
      · cases left
  refine ⟨?_, ?_, intact.intact⟩
  · intro j other id found dialled
    obtain ⟨entry, member, here⟩ := intact.placed j other id found dialled
    rcases survives entry member with ⟨later, member', id', _⟩ | ⟨retiring, _⟩
    · exact ⟨later, member', id'.trans here⟩
    · obtain ⟨_, known⟩ := sound.books.dials.reserved j other id found dialled
      obtain ⟨_, _, _, ⟨dialing, _⟩ | ⟨_, closed⟩⟩ := known entry member here
      · rw [retiring] at dialing
        cases dialing
      · have absent := none' closed other (List.mem_of_getElem? found)
        rw [absent] at dialled
        cases dialled
  · intro d conn known
    rcases intact.remembered d conn known with released | filed | brought
    · exact .inl released
    · obtain ⟨entry, member, reclaimed⟩ := filed
      rcases survives entry member with ⟨later, member', _, reclaim⟩ | ⟨_, gone⟩
      · exact .inr (.inl ⟨later, member', reclaim.trans reclaimed⟩)
      · left
        have released : s.isReleased d = true := by
          rw [PoolState.reclaimed] at gone
          cases connected : entry.connection with
          | none =>
            rw [connected, reclaimed] at gone
            exact gone
          | some c =>
            have same := (sound.books.files.filed entry member c connected).1
            rw [reclaimed] at same
            cases same
            rw [connected] at gone
            exact gone
        rw [isReleased, show s.conns[d]? = some conn from known] at released
        exact released
    · exact .inr (.inr brought)

/-- A call that owned nothing moves on and still dials nothing. -/
theorem Intact.plain (found : s.calls[i]? = some call)
    (plain : call.pc.plain = true) (kept : s.Kept next) (calls : next.calls = s.calls.set i moved)
    (dial : moved.dial = none) : next.Intact := by
  obtain ⟨_, record, _⟩ := CallPc.plain_spec plain
  apply intact.set kept found calls
  · rw [dial]
    exact fun id dialled => by cases dialled
  · rw [record]
    exact fun d brought => by cases brought

end

/-- A step that leaves the entries, the connections and the calls. -/
theorem Kept.of_same (entries : next.entries = s.entries) (conns : next.conns = s.conns)
    (dangling : next.dangling = s.dangling) : s.Kept next := by
  refine ⟨?_, conns, dangling⟩
  rw [entries]
  exact fun entry member => ⟨entry, member, rfl, rfl⟩

section

variable (intact : s.Intact)

include intact

/-- A new entry is the one that its call dials. -/
theorem Intact.reserveDial (found : s.calls[i]? = some call)
    (plain : call.pc.plain = true) : (s.reserveDial i call).Intact := by
  obtain ⟨_, record, _⟩ := CallPc.plain_spec plain
  have new : ({ id := s.nextEntry, origin := call.origin } : Entry) ∈
      (s.reserveDial i call).entries := List.mem_append_right _ (List.mem_singleton_self _)
  have old : ∀ entry ∈ s.entries, entry ∈ (s.reserveDial i call).entries :=
    fun entry member => List.mem_append_left _ member
  refine ⟨?_, ?_, intact.intact⟩
  · intro j other id found' dialled
    rcases List.getElem?_set_cases found' with ⟨_, rfl⟩ | before
    · cases dialled
      exact ⟨_, new, rfl⟩
    · obtain ⟨entry, member, here⟩ := intact.placed j other id before dialled
      exact ⟨entry, old entry member, here⟩
  · intro d conn known
    rcases intact.remembered d conn known with released | filed | brought
    · exact .inl released
    · obtain ⟨entry, member, reclaimed⟩ := filed
      exact .inr (.inl ⟨entry, old entry member, reclaimed⟩)
    · obtain ⟨j, other, found', brought⟩ := brought
      have apart : j ≠ i := by
        rintro rfl
        cases found.symm.trans found'
        rw [record] at brought
        cases brought
      exact .inr (.inr ⟨j, other, (List.getElem?_set_ne (Ne.symm apart)).trans found', brought⟩)

/-- `TakeIdleLocked` for a call that owned nothing. -/
theorem Intact.take (found : s.calls[i]? = some call)
    (record : call.record = none) (entry : Entry) (moved : Call)
    (dial : moved.dial = none) (files : (s.updateEntry entry.id taken).entries = next.entries)
    (conns : next.conns = s.conns) (dangling : next.dangling = s.dangling)
    (calls : next.calls = s.calls.set i moved) : next.Intact := by
  have updated := s.updateEntry_kept entry.id (f := taken) fun _ => ⟨rfl, rfl⟩
  refine intact.set ⟨?_, conns, dangling⟩ found calls ?_ ?_
  · rw [← files]
    exact updated.entries
  · rw [dial]
    exact fun id dialled => by cases dialled
  · rw [record]
    exact fun d brought => by cases brought

/-- A connection that comes back leaves every entry in its place. -/
theorem Intact.returnLocked (c : Nat) (healthy : Bool) : (s.returnLocked c healthy).Intact := by
  have updates : ∀ (id : Nat) (f : Entry → Entry), (∀ entry, (f entry).id = entry.id ∧
      (f entry).reclaim = entry.reclaim) → (s.updateEntry id f).Intact :=
    fun id f same => intact.stay (s.updateEntry_kept id same) rfl
  unfold PoolState.returnLocked
  split
  · exact intact
  rename_i entry _
  by_cases retires : (!healthy || decide (s.phase ≠ .open')) = true
  · rw [if_pos retires]
    exact updates entry.id retired fun _ => ⟨rfl, rfl⟩
  rw [if_neg retires]
  cases chosen : s.nextWaiter entry.origin with
  | none =>
    unfold admitToIdleLocked
    split_ifs
    · exact updates entry.id retired fun _ => ⟨rfl, rfl⟩
    · exact updates entry.id _ fun _ => ⟨rfl, rfl⟩
    · exact updates entry.id retired fun _ => ⟨rfl, rfl⟩
  | some pair =>
    obtain ⟨j, waiter⟩ := pair
    obtain ⟨_, present, _⟩ := nextWaiter_spec chosen
    have updated := s.updateEntry_kept entry.id
      (f := fun entry => { entry with phase := .active }) fun _ => ⟨rfl, rfl⟩
    exact intact.set ⟨updated.entries, rfl, rfl⟩ present rfl (fun id dialled => dialled)
      (fun d brought => brought)

/-- The result of a dial goes to the entry that was reserved for it. -/
theorem Intact.settle (sound : s.Sound) (found : s.calls[i]? = some call)
    {id : Nat} (dialling : call.dial = some id) (f : Entry → Entry) (moved : Call)
    (reclaim : ∀ entry, (f entry).reclaim = call.record)
    (entries : next.entries = (s.updateEntry id f).entries) (conns : next.conns = s.conns)
    (calls : next.calls = s.calls.set i moved) (dial : moved.dial = none)
    (dangling : next.dangling =
      (s.dangling || !s.entries.any fun entry => decide (entry.id = id))) : next.Intact := by
  obtain ⟨mine, member, here⟩ := intact.placed i call id found dialling
  obtain ⟨_, known⟩ := sound.books.dials.reserved i call id found dialling
  have others : ∀ entry ∈ s.entries, entry.id ≠ id → entry ∈ next.entries := by
    intro entry old apart
    rw [entries]
    exact List.mem_map.mpr ⟨entry, old, if_neg apart⟩
  have written : f mine ∈ next.entries := by
    rw [entries]
    exact List.mem_map.mpr ⟨mine, member, if_pos here⟩
  refine ⟨?_, ?_, ?_⟩
  · rw [Placed, calls]
    intro j other place found' dialled
    rcases List.getElem?_set_apart found' with ⟨_, rfl⟩ | ⟨apart, before⟩
    · rw [dial] at dialled
      cases dialled
    · obtain ⟨entry, old, there⟩ := intact.placed j other place before dialled
      refine ⟨entry, others entry old ?_, there⟩
      intro same'
      rw [← there, same'] at dialled
      exact apart (sound.books.stakes.reserving j i other call id before found dialled dialling)
  · rw [Remembered, calls, conns]
    intro d conn there
    rcases intact.remembered d conn there with released | filed | brought
    · exact .inl released
    · obtain ⟨entry, old, reclaimed⟩ := filed
      right; left
      refine ⟨entry, others entry old ?_, reclaimed⟩
      intro same'
      rw [(known entry old same').2.1] at reclaimed
      cases reclaimed
    · obtain ⟨j, other, found', record⟩ := brought
      right
      by_cases same' : j = i
      · subst same'
        cases found.symm.trans found'
        exact .inl ⟨f mine, written, (reclaim mine).trans record⟩
      · exact .inr ⟨j, other, (List.getElem?_set_ne (Ne.symm same')).trans found', record⟩
  · rw [dangling, intact.intact, Bool.false_or, Bool.not_eq_false']
    exact List.any_eq_true.mpr ⟨mine, member, decide_eq_true here⟩

/-- The section of `DialReserved`. -/
theorem Intact.settleDial (sound : s.Sound)
    (found : s.calls[i]? = some call) {id : Nat} {result : DialResult}
    (pc : call.pc = .dialled id result) (thrown : Option Bytes) :
    (s.settleDial i call id result thrown).Intact := by
  have dialling : call.dial = some id := by simp only [dial, pc]
  unfold PoolState.settleDial
  cases result with
  | failed error record =>
    have brought : call.record = record := by simp only [Call.record, pc]
    exact intact.settle sound found dialling
      (fun entry => { entry with reclaim := record, phase := .retiring })
      { call with pc := .failing (.connect error) } (fun _ => brought.symm) rfl rfl rfl rfl rfl
  | connected record =>
    have brought : call.record = some record := by simp only [Call.record, pc]
    dsimp only
    by_cases shut : s.phase ≠ .open'
    · rw [if_pos shut]
      exact intact.settle sound found dialling
        (fun entry => { entry with
          connection := some record, reclaim := some record, phase := .retiring })
        { call with pc := .failing (.closed s.closedErrorLocked) } (fun _ => brought.symm) rfl rfl
        rfl rfl rfl
    rw [if_neg shut]
    cases thrown with
    | some what =>
      exact intact.settle sound found dialling
        (fun entry => { entry with
          connection := some record, reclaim := some record, phase := .retiring })
        { call with pc := .failing (.thrown what) } (fun _ => brought.symm) rfl rfl rfl rfl rfl
    | none =>
      exact intact.settle sound found dialling
        (fun entry => { entry with
          connection := some record, reclaim := some record, phase := .active })
        { call with pc := .leased record } (fun _ => brought.symm) rfl rfl rfl rfl rfl

/-- A submitted dial is known to its call. -/
theorem Intact.dialled (found : s.calls[i]? = some call) {id : Nat}
    (pc : call.pc = .dialing id) {result : DialResult}
    (brings : Call.record { call with pc := .dialled id result } = some s.conns.length) :
    Intact { s.move i call (.dialled id result) with
      conns := s.conns ++ [{ origin := call.origin }] } := by
  have dialling : call.dial = some id := by simp only [dial, pc]
  have record : call.record = none := by simp only [Call.record, pc]
  refine ⟨?_, ?_, intact.intact⟩
  · intro j other place found' dialled
    rcases List.getElem?_set_cases found' with ⟨_, rfl⟩ | before
    · cases dialled
      exact intact.placed i call id found dialling
    · exact intact.placed j other place before dialled
  · intro d conn known
    rcases List.getElem?_push_cases known with ⟨rfl, rfl⟩ | before
    · exact .inr (.inr ⟨i, _, List.getElem?_set_found found, brings⟩)
    · rcases intact.remembered d conn before with released | filed | brought
      · exact .inl released
      · exact .inr (.inl filed)
      · obtain ⟨j, other, found', brought⟩ := brought
        have apart : j ≠ i := by
          rintro rfl
          cases found.symm.trans found'
          rw [record] at brought
          cases brought
        exact .inr (.inr ⟨j, other, (List.getElem?_set_ne (Ne.symm apart)).trans found', brought⟩)

end

/-- What is released stays released. -/
theorem apply_released (change : NetChange) {conn : NetConn} (released : conn.released = true) :
    (change.apply conn).released = true := by
  cases change <;> first | exact released | rfl

section

variable (intact : s.Intact)

include intact

/-- The network goes on. -/
theorem Intact.net (c : Nat) (change : NetChange) :
    Intact { s with conns := s.conns.modify c change.apply } := by
  refine ⟨intact.placed, ?_, intact.intact⟩
  intro d conn known
  rcases List.getElem?_modify_cases known with ⟨rfl, old, before, rfl⟩ | ⟨_, before⟩
  · rcases intact.remembered d old before with released | rest
    · exact .inl (apply_released change released)
    · exact .inr rest
  · exact intact.remembered d conn before

/-- A sweep. -/
theorem Intact.swept (sound : s.Sound) (swept : s.Swept next) : next.Intact := by
  cases swept with
  | same => exact intact
  | swept open' => exact intact.sweep sound fun closed => by cases open'.symm.trans closed

/-- `RetireOtherIdleLocked` behind the sweep. -/
theorem Intact.retireOther (sound : s.Sound) (open' : s.phase = .open')
    (origin : Origin) : (s.sweepLocked.retireOtherIdleLocked origin).Intact := by
  refine (intact.swept sound (.swept open')).stay ?_ (retireOther_calls _ origin).calls
  unfold retireOtherIdleLocked
  split
  · exact updateEntry_kept _ _ fun _ => ⟨rfl, rfl⟩
  · exact .of_same rfl rfl rfl

/-- One call moves on that brings no record, and it dials nothing. -/
theorem Intact.goOn (found : s.calls[i]? = some call) (kept : s.Kept next)
    (calls : next.calls = s.calls.set i moved) (record : call.record = none)
    (dial : moved.dial = none) : next.Intact := by
  apply intact.set kept found calls
  · rw [dial]
    exact fun id dialled => by cases dialled
  · rw [record]
    exact fun d brought => by cases brought

/-- A turn of a call. -/
theorem Intact.turn (sound : s.Sound) (found : s.calls[i]? = some call)
    {label : PoolLabel} (turn : s.Turn i call label next) : next.Intact := by
  cases turn with
  | @walk _ _ pc _ swept walks =>
    obtain ⟨_, _, dial, _⟩ :=
      CallPc.plain_spec (show ({ call with pc } : Call).pc.plain = true from walks.plain.2)
    exact (intact.swept sound swept).plain (swept.calls.calls ▸ found) walks.plain.1
      (.of_same rfl rfl rfl) rfl dial
  | full thrown place open' | enter thrown place open' =>
    have same := s.sweepLocked.retireOther_calls call.origin
    exact (intact.retireOther sound open' call.origin).plain (same.calls ▸ found)
      (by rw [place]; rfl) (.of_same rfl rfl rfl) rfl rfl
  | @take entry c thrown place open' =>
    obtain ⟨_, record, _⟩ := CallPc.plain_spec (CallPc.plain_of_looks rfl place)
    exact (intact.swept sound (.swept open')).take found record entry
      { call with pc := .leased c } rfl rfl rfl rfl rfl
  | @takeParked sliceEnd entry c place _ open' =>
    exact (intact.swept sound (.swept open')).take found (by simp only [Call.record, place]) entry
      { call with pc := .parked sliceEnd, handed := some c } rfl rfl rfl rfl rfl
  | park place swept =>
    exact (intact.swept sound swept).goOn (swept.calls.calls ▸ found) (.of_same rfl rfl rfl) rfl
      (by simp only [Call.record, place]) rfl
  | reserve thrown place swept =>
    exact (intact.swept sound swept).reserveDial (swept.calls.calls ▸ found)
      (CallPc.plain_of_looks rfl place)
  | unclaimed thrown place | claim thrown place =>
    exact intact.goOn found (.of_same rfl rfl rfl) rfl (by simp only [Call.record, place]) rfl
  | @giveUp status c thrown place =>
    have dropped : ((s.dequeueLocked i).setCall i
        { call with pc := .judge status, handed := none }).Intact :=
      intact.goOn found (.of_same rfl rfl rfl) rfl (by simp only [Call.record, place]) rfl
    exact dropped.returnLocked c true
  | settle thrown place => exact intact.settleDial sound found place thrown
  | wake status place =>
    refine intact.goOn found (.of_same rfl rfl rfl) rfl ?_ rfl
    obtain place | place := place <;> simp only [Call.record, place]
  | refused answer error place =>
    refine intact.set (.of_same rfl rfl rfl) found rfl ?_ ?_
    · intro id dialled
      cases dialled
      simp only [Call.dial, place]
    · intro d brought
      simp only [Call.record, place] at brought
      cases brought
  | dialled answer place brings => exact intact.dialled found place brings
  | fail thrown place =>
    exact intact.plain found (by rw [place]; rfl) (.of_same rfl rfl rfl) rfl rfl
  | @release c healthy place =>
    have dropped : (PoolState.move { s with inflight := s.inflight - 1 } i call
        .released).Intact :=
      intact.goOn found (.of_same rfl rfl rfl) rfl (by simp only [Call.record, place]) rfl
    exact dropped.returnLocked c healthy

/-- A step keeps the ledger, unless it is a `Stats` that strands a dial. -/
theorem Intact.step (sound : s.Sound) {label : PoolLabel}
    (safe : s.strands label = false) (stepped : s.step label = some next) : next.Intact := by
  cases label with
  | acquire origin deadline =>
    rw [PoolState.step] at stepped
    have grows : ∀ new : Call, new.dial = none → ∀ inflight,
        Intact { s with calls := s.calls ++ [new], inflight } := by
      intro new dial inflight
      refine intact.keep (.of_same rfl rfl rfl) ?_ ?_
      · intro j other id found dialled
        rcases List.getElem?_push_cases found with ⟨_, rfl⟩ | before
        · rw [dial] at dialled
          cases dialled
        · exact ⟨j, other, before, dialled⟩
      · exact fun j other d found brought => ⟨j, other, List.getElem?_push_old found, brought⟩
    split_ifs at stepped <;> cases stepped <;> exact grows _ rfl _
  | check i | act i | callback i | resume i | dial i | release i =>
    obtain ⟨call, found, turn⟩ := step_turn rfl stepped
    exact intact.turn sound found turn
  | stats =>
    cases stepped
    apply intact.sweep sound
    intro closed call member
    simp only [strands, closed, decide_true, Bool.true_and, List.any_eq_false] at safe
    simpa using safe call member
  | close reason =>
    cases stepped
    unfold PoolState.close
    by_cases closed : s.phase = .closed
    · rw [if_pos closed]
      exact intact.stay (.of_same rfl rfl rfl) rfl
    · rw [if_neg closed]
      refine intact.stay ⟨?_, rfl, rfl⟩ rfl
      exact fun entry member => ⟨_, List.mem_map_of_mem member, rfl, rfl⟩
  | shutdown =>
    cases stepped
    unfold PoolState.shutdown
    split <;> exact intact.stay (.of_same rfl rfl rfl) rfl
  | drain j late =>
    rw [PoolState.step] at stepped
    split_ifs at stepped
    cases stepped
    exact intact.stay (.of_same rfl rfl rfl) rfl
  | tick =>
    cases stepped
    exact intact.stay (.of_same rfl rfl rfl) rfl
  | net c change =>
    cases stepped
    exact intact.net c change

end

/-- Nothing is in flight in a new pool. -/
theorem make_intact (limits : PoolLimits) : (make limits).Intact :=
  ⟨fun _ _ _ found => (by cases found), fun _ _ known => (by cases known), rfl⟩

/-- The calls in flight are the running ones and the leases. -/
theorem counts_running (calls : List Call) :
    calls.countP Call.counts = calls.countP Call.running + calls.countP Call.leasing := by
  induction calls with
  | nil => rfl
  | cons call calls ih =>
    simp only [List.countP_cons, ih]
    have one : (if call.counts then 1 else 0) =
        (if call.running then 1 else 0) + if call.leasing then 1 else 0 := by
      unfold counts running leasing
      cases call.pc <;> rfl
    omega

/-- The two invariants make the ledger. -/
theorem Sound.ledger (sound : s.Sound) (intact : s.Intact) : s.Ledger := by
  have single : Exclusive s.calls Call.token := by
    intro j k one other c found found' held held'
    exact sound.books.stakes.staked j k one other c found found' (stake_of_token held)
      (stake_of_token held')
  refine ⟨sound.books.files.budget, sound.books.kept, ?_, single, ?_, intact.placed,
    intact.remembered, intact.intact, sound.counted.trans (counts_running s.calls), sound.drained⟩
  · intro entry member active
    have fits := sound.books.fits entry member
    rw [Entry.Fits, active] at fits
    obtain ⟨c, connected, j, call, found, held⟩ := fits
    refine ⟨c, connected, j, ⟨call, found, held⟩, ?_⟩
    rintro k ⟨other, found', held'⟩
    exact single k j other call c found' found held' held
  · intro j call c found held
    exact sound.books.stakes.asked j call c found (stake_of_token held)

/-- A `Stats` on a closed pool erases the entry of a dial in flight. -/
theorem Sound.stranded (sound : s.Sound) {label : PoolLabel}
    (strands : s.strands label = true) (stepped : s.step label = some next) : ¬ next.Placed := by
  simp only [PoolState.strands, Bool.and_eq_true, decide_eq_true_eq, List.any_eq_true] at strands
  obtain ⟨⟨rfl, closed⟩, call, member, dialling⟩ := strands
  cases stepped
  obtain ⟨i, found⟩ := List.mem_iff_getElem?.mp member
  obtain ⟨id, dialled⟩ := Option.isSome_iff_exists.mp dialling
  intro placed
  obtain ⟨entry, left, here⟩ := placed i call id found dialled
  obtain ⟨old, before, swept⟩ := List.mem_filterMap.mp left
  have same : entry.id = old.id := by
    rcases sweepEntry_spec swept with rfl | ⟨_, rfl⟩ <;> rfl
  obtain ⟨_, known⟩ := sound.books.dials.reserved i call id found dialled
  obtain ⟨connection, reclaim, _, ⟨_, open'⟩ | ⟨retiring, _⟩⟩ :=
    known old before (same.symm.trans here)
  · exact open' closed
  · have gone : s.reclaimed old = true := by
      rw [reclaimed, connection, reclaim]
      rfl
    rw [sweepEntry, retiring] at swept
    simp only [gone, if_true] at swept
    cases swept

/-- Nor does a turn change a limit. -/
theorem turn_limits {label : PoolLabel} (turn : s.Turn i call label next) :
    next.limits = s.limits := by
  cases turn with
  | walk _ swept | park _ swept | reserve _ _ swept => exact swept.calls.limits
  | full | enter => exact (retireOther_calls _ _).limits
  | giveUp => exact returnLocked_limits _ _ _
  | release => exact returnLocked_limits _ _ _
  | settle =>
    unfold settleDial
    dsimp only
    repeat' split
    all_goals rfl
  | _ => rfl

/-- The limits of a pool are constant. -/
theorem step_limits {label : PoolLabel} (stepped : s.step label = some next) :
    next.limits = s.limits := by
  cases label with
  | check i | act i | callback i | resume i | dial i | release i =>
    obtain ⟨call, _, turn⟩ := step_turn rfl stepped
    exact turn_limits turn
  | acquire => unfold step at stepped; split_ifs at stepped <;> cases stepped <;> rfl
  | stats | tick | net => cases stepped; rfl
  | close reason => cases stepped; unfold close; dsimp only; split_ifs <;> rfl
  | shutdown => cases stepped; unfold shutdown; split <;> rfl
  | drain j late => obtain ⟨_, rfl⟩ := guarded_some stepped; rfl

/-- Every reachable pool has the limits it was made with. -/
theorem reachable_limits {limits : PoolLimits} (reachable : (poolMachine limits).Reachable s) :
    s.limits = limits := by
  apply reachable.invariant fun s => s.limits = limits
  · rintro state rfl
    rfl
  · intro state label next same stepped
    exact (step_limits stepped).trans same

/-- No dial is stranded before a step of a guarded run, so the ledger holds. -/
theorem run_intact {limits : PoolLimits} {labels : List PoolLabel}
    (run : (poolMachine limits).GuardedRun (fun s label => s.strands label = false) labels s) :
    s.Intact := by
  apply run.reachableInvariant Intact
  · rintro state rfl
    exact make_intact limits
  · intro state label next reachable intact safe stepped
    exact intact.step (reachable_sound reachable) safe stepped

/-- As long as no `Stats` on a closed pool finds a dial in flight, the ledger holds in every state
of every run, and the next step keeps it exactly when it is not such a `Stats` itself. -/
theorem pool_ledger {limits : PoolLimits} {labels : List PoolLabel}
    (run : (poolMachine limits).GuardedRun (fun s label => s.strands label = false) labels s) :
    s.limits = limits ∧ s.Ledger ∧ ∀ label next, s.step label = some next →
      (next.Ledger ↔ s.strands label = false) := by
  have sound := reachable_sound run.reachable
  have intact := run_intact run
  refine ⟨reachable_limits run.reachable, sound.ledger intact, ?_⟩
  intro label next stepped
  constructor
  · intro ledger
    apply Bool.eq_false_iff.mpr
    intro strands
    exact sound.stranded strands stepped ledger.placed
  · intro safe
    exact (sound.step stepped).ledger (intact.step sound safe stepped)

/-- One call has its lease, and another has begun. -/
theorem pool_ledger_lease : ∃ labels s, (poolMachine {}).GuardedRun
    (fun s label => s.strands label = false) labels s ∧ s.Ledger ∧
    s.calls.countP Call.leasing = 1 ∧ s.inflight = 2 := by
  let origin : Origin := { scheme := [], host := [], port := 80 }
  obtain ⟨s, run, tested⟩ := Machine.exists_guardedRun (m := poolMachine {})
    [.acquire origin none, .check 0 none, .act 0 none, .act 0 none, .dial 0 .connected, .act 0 none,
      .acquire origin none, .stats]
    (fun s label => !s.strands label)
    (fun s => decide (s.calls.countP leasing = 1 ∧ s.inflight = 2)) rfl (by decide +kernel)
  simp only [Bool.not_eq_true'] at run
  exact ⟨_, s, run, (pool_ledger run).2.1, of_decide_eq_true tested⟩

/-- A pool is closed while a call dials, and `Stats` runs before the connection is there: its
result goes to freed memory, and no entry knows the connection. -/
theorem stats_forgets_dial : ∃ s, (poolMachine {}).Reachable s ∧ s.dangling = true ∧
    s.entries = [] ∧ (∃ conn, s.conns = [conn] ∧ conn.released = false) ∧
    s.calls.all (fun call => call.record.isNone) = true ∧ ¬ s.Ledger := by
  let origin : Origin := { scheme := [], host := [], port := 80 }
  obtain ⟨s, reachable, tested⟩ := Machine.exists_reachable (m := poolMachine {})
    [.acquire origin none, .check 0 none, .act 0 none, .act 0 none, .close {}, .stats,
      .dial 0 .connected, .act 0 none]
    (fun s => decide (s.dangling = true ∧ s.entries = [] ∧ s.conns = [{ origin }] ∧
      s.calls.all (fun call => call.record.isNone) = true)) rfl (by decide +kernel)
  obtain ⟨dangling, entries, conns, records⟩ := of_decide_eq_true tested
  refine ⟨s, reachable, dangling, entries, ⟨_, conns, rfl⟩, records, ?_⟩
  intro ledger
  rw [ledger.intact] at dangling
  cases dangling

end PoolState

end BbtInfra.Http
