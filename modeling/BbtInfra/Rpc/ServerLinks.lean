import BbtInfra.Rpc.OwnerReadings
import BbtInfra.Rpc.Retirement
import BbtInfra.Rpc.ServerSystem

/-!
# The links of a server

`ServeInbound` pushes whatever `InstallSession` returned and sweeps only the entries that have
expired by then. As long as none of its links loses the duplicate election every entry of
`links` is the session of one connection that it accepted, and the sum of the `MaxConnections`
test counts each connection once. Nothing else removes an entry: the connection of a session
may be released while its entry is still counted.
-/
namespace BbtInfra.Rpc

open Lib SessionOwnerState OwnerSystem ServedLink List

namespace SessionOwnerState

variable {o o' : SessionOwnerState}

/-- Which connections are released. -/
def releases (o : SessionOwnerState) : List Bool := o.conns.map Connection.released

/-- No critical section of the owner releases a connection. -/
theorem releases_blind : Blind releases where
  asked := by
    intro o conn
    apply ext_getElem?
    intro other
    simp only [releases, requestClose, getElem?_map, getElem?_modify, Option.map_eq_map,
      Option.map_map]
    congr 1
    funext c
    by_cases same : conn = other <;> simp [same]
  tables := fun _ _ _ _ _ _ _ _ => rfl

/-- What `IsReleased` reads. -/
theorem connReleased_eq (o : SessionOwnerState) (conn : Nat) :
    o.connReleased conn = (o.releases[conn]?).getD false := by
  simp [connReleased, releases]

/-- Connections that exist are as released as they were. -/
theorem connReleased_of_prefix (kept : o.releases <+: o'.releases) {conn : Nat}
    (present : conn < o.conns.length) : o'.connReleased conn = o.connReleased conn := by
  have inside : conn < o.releases.length := by
    rw [releases, length_map]
    exact present
  rw [connReleased_eq, connReleased_eq]
  rw [prefix_iff_getElem?.mp kept conn inside, getElem?_eq_getElem inside]

/-- An inbound session on this connection. -/
def Inbound (o : SessionOwnerState) (id conn : Nat) : Prop :=
  ∃ peer, (o.heap[id]?).map Session.link = some (conn, peer, false)

/-- An inbound session is an object of the heap. -/
theorem Inbound.session {id conn : Nat} (inbound : o.Inbound id conn) :
    ∃ session, o.heap[id]? = some session ∧ session.outbound = false ∧ session.conn = conn := by
  obtain ⟨peer, link⟩ := inbound
  obtain ⟨session, found, same⟩ := Option.map_eq_some_iff.mp link
  simp only [Session.link, Prod.mk.injEq] at same
  exact ⟨session, found, same.2.2, same.1⟩

/-- `InstallSession` hands back another session only on its losing branch. -/
theorem fences_of_fenced {id winner : Nat} {session : Session} {endpoint : Bytes}
    {record : Option Nat}
    (fenced : (o.installLocked id session endpoint record).2 = .fenced winner) :
    o.fences session = true := by
  have outcome := installLocked_outcome o id session endpoint record
  revert outcome fenced
  generalize o.installLocked id session endpoint record = result
  intro fenced outcome
  cases outcome with
  | refused | evicted | added => cases fenced
  | fenced other opened mapped loses => simp [fences, opened, mapped, loses]

end SessionOwnerState

namespace OwnerSystem

variable {s s' : OwnerSystem} {event : OwnerEvent} {t : Nat} {key : Bytes} {pc : Pc}

/-- A step of a coroutine moves this coroutine. -/
theorem callerStep_resume (stepped : s.callerStep t key pc event = some s') :
    ∃ o' pc', s' = s.resume t key o' pc' := by
  unfold callerStep at stepped
  split at stepped
  case h_8 =>
    cases stepped
    unfold publishStep
    split <;> exact ⟨_, _, rfl⟩
  case h_18 =>
    obtain ⟨session, _, rfl⟩ := Option.map_eq_some_iff.mp stepped
    unfold installStep
    split <;> exact ⟨_, _, rfl⟩
  case h_22 =>
    cases stepped
    unfold beginStep
    split <;> exact ⟨_, _, rfl⟩
  all_goals first
    | cases stepped
      exact ⟨_, _, rfl⟩
    | split at stepped
      · cases stepped
      · cases stepped
        exact ⟨_, _, rfl⟩
    | cases stepped

/-- The environment adds coroutines and moves none. -/
theorem environmentStep_callers (stepped : s.environmentStep event = some s') :
    s.callers <+: s'.callers := by
  cases environmentStep_turn stepped with
  | call | accept => exact prefix_append _ _
  | sealing =>
    unfold sealStep
    dsimp only
    split <;> exact prefix_refl _
  | _ => exact prefix_refl _

/-- A coroutine stays where it is while others move. -/
theorem step_callers {caller : Caller} (present : s.callers[t]? = some caller)
    (other : caller? event ≠ some t) (stepped : s.step event = some s') :
    s'.callers[t]? = some caller := by
  unfold step at stepped
  split at stepped
  · rename_i u mine
    obtain ⟨moving, _, stepped⟩ := Option.bind_eq_some_iff.mp stepped
    obtain ⟨o', pc', rfl⟩ := callerStep_resume stepped
    have apart : u ≠ t := by
      rintro rfl
      exact other mine
    exact (List.getElem?_set_ne apart).trans present
  · obtain ⟨arrived, longer⟩ := environmentStep_callers stepped
    have inside : t < s.callers.length := (List.getElem?_eq_some_iff.mp present).1
    rw [← longer, List.getElem?_append_left inside]
    exact present

/-- Sessions keep their connection, their peer and their direction. -/
theorem step_link {id : Nat} {link : Nat × Bytes × Bool}
    (found : (s.owner.heap[id]?).map Session.link = some link)
    (stepped : s.step event = some s') :
    (s'.owner.heap[id]?).map Session.link = some link := by
  have effect := step_effect stepped
  revert effect
  generalize s'.owner = o'
  intro effect
  cases effect with
  | ledger records establishing quiet =>
    rw [quiet.link id]
    exact found
  | built quiet conn peer outbound =>
    rw [← quiet.link id] at found
    have inside := lt_of_link found
    rw [newSession, getElem?_append_left inside]
    exact found
  | adopted u key way own conn session evicted asked present own_found won =>
    have outcome := installLocked_outcome s.owner own session key way.record
    rw [won] at outcome
    cases outcome with
    | evicted winner opened mapped wins =>
      exact (others_adopted s.owner none _ own key (some winner) none).links id link found
    | added opened absent room =>
      exact (others_adopted s.owner way.record _ own key none none).links id link found

/-- A reading that is the same after a step. -/
theorem prefix_of_same {o' : SessionOwnerState} (same : o'.releases = s.owner.releases) :
    s.owner.releases <+: o'.releases := same ▸ prefix_refl _

/-- A connection that is added is not released. -/
theorem releases_dialed (o : SessionOwnerState) :
    o.releases <+: ({ o with conns := o.conns ++ [{}] } : SessionOwnerState).releases := by
  rw [releases, releases, map_append]
  exact prefix_append _ _

/-- No coroutine releases a connection. -/
theorem callerStep_releases (stepped : s.callerStep t key pc event = some s') :
    s.owner.releases <+: s'.owner.releases := by
  unfold callerStep at stepped
  split at stepped
  case h_1 =>
    cases stepped
    exact prefix_of_same (releases_blind.enterLocked s.owner key)
  case h_6 =>
    cases stepped
    exact releases_dialed s.owner
  case h_8 record conn _ =>
    cases stepped
    have learnt := releases_blind.publishConn s.owner record conn
    unfold publishStep
    split <;> rename_i result <;> rw [result] at learnt <;> exact prefix_of_same learnt
  case h_18 way id conn _ =>
    obtain ⟨session, _, rfl⟩ := Option.map_eq_some_iff.mp stepped
    have installed := releases_blind.installLocked s.owner id session key way.record
    unfold installStep
    split <;> rename_i result <;> rw [result] at installed
    · exact prefix_of_same ((releases_blind.refuse way _ conn).trans installed)
    · exact prefix_of_same installed
    · exact prefix_of_same installed
  case h_20 evicted _ =>
    cases stepped
    cases evicted with
    | none => exact prefix_refl _
    | some old => exact prefix_of_same (releases_blind.kill s.owner old)
  case h_22 way id conn _ reader writer =>
    cases stepped
    have started := releases_blind.startTasks s.owner id reader writer
    unfold beginStep
    split <;> rename_i result <;> rw [result] at started
    · exact prefix_of_same started
    · exact prefix_of_same ((releases_blind.refuse way _ conn).trans started)
  case h_24 record conn made _ =>
    cases stepped
    exact prefix_of_same (releases_blind.settleLocked s.owner key record made)
  case h_25 abandoned _ _ =>
    cases stepped
    cases abandoned with
    | none => exact prefix_refl _
    | some old => exact prefix_of_same (releases_blind.asked s.owner old)
  all_goals first
    | cases stepped
      exact prefix_refl _
    | cases stepped
      exact prefix_of_same (releases_blind.asked s.owner _)
    | split at stepped
      · cases stepped
      · cases stepped
        exact prefix_refl _
    | cases stepped

/-- Only the network layer releases connections. -/
theorem step_releases (other : ∀ conn, event ≠ .connReleased conn)
    (stepped : s.step event = some s') : s.owner.releases <+: s'.owner.releases := by
  unfold step at stepped
  split at stepped
  · obtain ⟨caller, _, stepped⟩ := Option.bind_eq_some_iff.mp stepped
    exact callerStep_releases stepped
  cases environmentStep_turn stepped with
  | accept => exact releases_dialed s.owner
  | kill id | sealKill => exact prefix_of_same (releases_blind.kill s.owner _)
  | release id | sweep id => exact prefix_of_same (releases_blind.releasedLocked _ id)
  | connReleased conn => exact absurd rfl (other conn)
  | sealing =>
    unfold sealStep
    dsimp only
    split <;> exact prefix_refl _
  | sealClose => exact prefix_of_same (releases_blind.asked s.owner _)
  | call | killExit | taskExit => exact prefix_refl _

/-- A connection that exists is released by its own event only. -/
theorem step_connReleased {conn : Nat} (present : conn < s.owner.conns.length)
    (other : event ≠ .connReleased conn) (stepped : s.step event = some s') :
    s'.owner.connReleased conn = s.owner.connReleased conn := by
  by_cases network : ∃ released, event = .connReleased released
  · obtain ⟨released, rfl⟩ := network
    have apart : released ≠ conn := fun same => other (same ▸ rfl)
    simp only [step, caller?, environmentStep, Option.some.injEq] at stepped
    simp [← stepped, connReleased, markReleased, apart]
  · have prefixed := step_releases (fun conn same => network ⟨conn, same⟩) stepped
    exact connReleased_of_prefix prefixed present

/-- Connections are only added. -/
theorem step_conns (stepped : s.step event = some s') :
    s.owner.conns.length ≤ s'.owner.conns.length := by
  by_cases network : ∃ released, event = .connReleased released
  · obtain ⟨released, rfl⟩ := network
    simp only [step, caller?, environmentStep, Option.some.injEq] at stepped
    simp [← stepped, markReleased]
  · have prefixed := step_releases (fun conn same => network ⟨conn, same⟩) stepped
    have lengths := prefixed.length_le
    rw [releases, releases, length_map, length_map] at lengths
    exact lengths

/-- Inbound sessions stay what they are. -/
theorem step_inbound {id conn : Nat} (inbound : s.owner.Inbound id conn)
    (stepped : s.step event = some s') : s'.owner.Inbound id conn := by
  obtain ⟨peer, found⟩ := inbound
  exact ⟨peer, step_link found stepped⟩

end OwnerSystem

/-- A coroutine at a program counter of `ServeInbound` for this connection. -/
def Pc.Serves (o : SessionOwnerState) (conn : Nat) : Pc → Prop
  | .greeting own | .rejecting own => own = conn
  | .installing way id own | .evicting way id own _ | .starting way id own =>
    way = .inbound ∧ own = conn ∧ o.Inbound id conn
  | .returned _ => True
  | _ => False

namespace OwnerSystem

variable {s s' : OwnerSystem} {event : OwnerEvent} {t conn : Nat} {key : Bytes} {pc : Pc}

/-- What a serving coroutine relies on stays as long as inbound sessions do. -/
theorem serves_of_inbound {o o' : SessionOwnerState}
    (kept : ∀ id, o.Inbound id conn → o'.Inbound id conn) (serves : pc.Serves o conn) :
    pc.Serves o' conn := by
  cases pc with
  | greeting own | rejecting own => exact serves
  | installing way id own | starting way id own =>
    exact ⟨serves.1, serves.2.1, kept id serves.2.2⟩
  | evicting way id own evicted => exact ⟨serves.1, serves.2.1, kept id serves.2.2⟩
  | returned exit => trivial
  | entering | waiting | dialing | dialed | gated | shaking | settling | abandoning =>
    exact serves.elim

/-- The critical section of `InstallSession`, for a link that does not lose. -/
theorem install_serves {id : Nat} {session : Session}
    (present : s.callers[t]? = some ⟨key, .installing .inbound id conn⟩)
    (found : s.owner.heap[id]? = some session) (wins : s.loses t = false)
    (inbound : (s.installStep t key .inbound id conn session).owner.Inbound id conn) :
    ∃ pc', (s.installStep t key .inbound id conn session).callers[t]? = some ⟨key, pc'⟩ ∧
      pc'.Serves (s.installStep t key .inbound id conn session).owner conn ∧
      ∀ live, s.handedBack (.install t) = some live →
        (s.installStep t key .inbound id conn session).owner.Inbound live conn := by
  have unfenced : s.owner.fences session = false := by
    simpa [loses, present, found] using wins
  have handed : s.handedBack (.install t) = none := by
    simp only [handedBack, present, found, Option.bind_some]
    split
    · rename_i winner fenced
      rw [fences_of_fenced fenced] at unfenced
      cases unfenced
    · rfl
  rw [handed]
  unfold installStep at inbound ⊢
  split at inbound
  · exact ⟨_, resume_present present _ _, rfl, nofun⟩
  · rename_i winner result
    have fenced := congrArg Prod.snd result
    rw [fences_of_fenced fenced] at unfenced
    cases unfenced
  · exact ⟨_, resume_present present _ _, ⟨rfl, rfl, inbound⟩, nofun⟩

/-- The registration of reader and writer hands back the session of the link, or nothing. -/
theorem begin_serves {id : Nat} {reader writer : Bool}
    (present : s.callers[t]? = some ⟨key, .starting .inbound id conn⟩)
    (inbound : (s.beginStep t key .inbound id conn reader writer).owner.Inbound id conn) :
    ∃ pc', (s.beginStep t key .inbound id conn reader writer).callers[t]? = some ⟨key, pc'⟩ ∧
      pc'.Serves (s.beginStep t key .inbound id conn reader writer).owner conn ∧
      ∀ live, s.handedBack (.begin t reader writer) = some live →
        (s.beginStep t key .inbound id conn reader writer).owner.Inbound live conn := by
  have handed : s.handedBack (.begin t reader writer) =
      (s.owner.startTasks id reader writer).2.toOption := by
    simp only [handedBack, present]
  have own : ∀ live, (s.owner.startTasks id reader writer).2 = .ok live → live = id := by
    intro live started
    unfold startTasks at started
    dsimp only at started
    split at started <;> cases started
    rfl
  rw [handed]
  unfold beginStep at inbound ⊢
  cases result : s.owner.startTasks id reader writer with
  | mk owner started =>
    rw [result] at own inbound
    cases started with
    | ok session =>
      refine ⟨_, resume_present present _ _, trivial, fun live handed => ?_⟩
      have same : session = live := by simpa [Except.toOption] using handed
      rw [← same, own session rfl]
      exact inbound
    | error error =>
      exact ⟨_, resume_present present _ _, rfl, fun _ handed => by cases handed⟩

/-- One step of a serving coroutine. Unless it loses the election, a session that
`InstallSession` hands back is the session of its own connection. -/
theorem step_serves (present : s.callers[t]? = some ⟨key, pc⟩) (serves : pc.Serves s.owner conn)
    (mine : caller? event = some t) (wins : event = .install t → s.loses t = false)
    (stepped : s.step event = some s') :
    ∃ pc', s'.callers[t]? = some ⟨key, pc'⟩ ∧ pc'.Serves s'.owner conn ∧
      ∀ live, s.handedBack event = some live → s'.owner.Inbound live conn := by
  have kept : ∀ id, s.owner.Inbound id conn → s'.owner.Inbound id conn :=
    fun id inbound => step_inbound inbound stepped
  have moved : s.callerStep t key pc event = some s' := by
    simpa only [step, mine, present, Option.bind_some] using stepped
  unfold callerStep at moved
  split at moved
  case h_15 own u peer =>
    -- the session is built on the connection of the handshake
    split at moved
    · cases moved
    · cases moved
      have same : own = conn := serves
      subst same
      have built : Inbound (newSession s.owner own peer false) s.owner.heap.length own :=
        ⟨peer, by simp [newSession, Session.link]⟩
      exact ⟨_, resume_present present _ _, ⟨rfl, rfl, built⟩, fun _ handed => by cases handed⟩
  case h_18 way id own u =>
    obtain ⟨rfl, rfl, inbound⟩ := serves
    obtain rfl : u = t := Option.some.inj mine
    obtain ⟨session, found, rfl⟩ := Option.map_eq_some_iff.mp moved
    exact install_serves present found (wins rfl) (kept id inbound)
  case h_22 way id own u reader writer =>
    obtain ⟨rfl, rfl, inbound⟩ := serves
    obtain rfl : u = t := Option.some.inj mine
    cases moved
    exact begin_serves present (kept id inbound)
  case h_19 | h_21 | h_23 =>
    -- an exception turns the link away
    obtain ⟨rfl, rfl, _⟩ := serves
    cases moved
    exact ⟨_, resume_present present _ _, rfl, fun _ handed => by cases handed⟩
  case h_20 =>
    obtain ⟨rfl, rfl, inbound⟩ := serves
    cases moved
    exact ⟨_, resume_present present _ _, ⟨rfl, rfl, kept _ inbound⟩,
      fun _ handed => by cases handed⟩
  case h_16 | h_17 =>
    cases moved
    exact ⟨_, resume_present present _ _, serves, fun _ handed => by cases handed⟩
  case h_26 =>
    cases moved
    exact ⟨_, resume_present present _ _, trivial, fun _ handed => by cases handed⟩
  case h_27 => cases moved
  all_goals exact serves.elim

end OwnerSystem

/-- Following a coroutine changes only what `InstallSession` returned. -/
theorem ServedLink.follow_fields (s : OwnerSystem) (event : OwnerEvent) (link : ServedLink) :
    (link.follow s event).conn = link.conn ∧ (link.follow s event).caller = link.caller ∧
      (link.follow s event).finished = link.finished := by
  unfold follow
  split <;> exact ⟨rfl, rfl, rfl⟩

namespace ServerSystem

variable {s s' : ServerSystem} {event : ServerEvent} {link : ServedLink} {i : Nat}

/-- What holds of a server none of whose links has lost the duplicate election. -/
structure Ledger (s : ServerSystem) : Prop where
  conns : s.acceptedConns.Nodup
  allocated : ∀ conn ∈ s.acceptedConns, conn < s.system.owner.conns.length
  serving : ∀ link ∈ s.served, ∃ key pc, s.system.callers[link.caller]? = some ⟨key, pc⟩ ∧
    pc.Serves s.system.owner link.conn
  live : ∀ link ∈ s.served, ∀ id, link.live = some id → s.system.owner.Inbound id link.conn
  /-- A link that is not finished has its entry in `handshakes`. -/
  pending : ∀ link ∈ s.served, link.finished = false → link.conn ∈ s.handshakes
  entries : ∀ id ∈ s.links, ∃ conn, s.system.owner.Inbound id conn
  /-- Each connection is counted once. -/
  once : s.counted.Nodup
  accepted : s.counted ⊆ s.acceptedConns

/-- What `counted` takes from an entry of `links`. -/
theorem conn_of_inbound {o : SessionOwnerState} {id conn : Nat} (inbound : o.Inbound id conn) :
    (o.heap[id]?).map Session.conn = some conn := by
  obtain ⟨session, found, _, same⟩ := inbound.session
  rw [found, Option.map_some, same]

/-- A link that ends keeps its connection. -/
theorem acceptedConns_endLink (found : s.served[i]? = some link) (links : List Nat) :
    (s.endLink i link links).acceptedConns = s.acceptedConns := by
  apply List.ext_getElem?
  intro j
  simp only [acceptedConns, endLink, List.getElem?_map, List.getElem?_set]
  by_cases same : i = j
  · subst same
    obtain ⟨inside, entry⟩ := List.getElem?_eq_some_iff.mp found
    simp [inside, entry]
  · simp [same]

/-- The end of `ServeInbound` for one link: what it leaves counted was counted before. -/
theorem Ledger.endLink (ledger : s.Ledger) (found : s.served[i]? = some link) {links : List Nat}
    (entries : ∀ id ∈ links, ∃ conn, s.system.owner.Inbound id conn)
    (fewer : (s.endLink i link links).counted.Subperm s.counted) :
    (s.endLink i link links).Ledger where
  conns := by
    rw [acceptedConns_endLink found]
    exact ledger.conns
  allocated := by
    rw [acceptedConns_endLink found]
    exact ledger.allocated
  serving := by
    intro other member
    rcases mem_or_eq_of_mem_set member with before | rfl
    · exact ledger.serving other before
    · exact ledger.serving link (mem_of_getElem? found)
  live := by
    intro other member id live
    rcases mem_or_eq_of_mem_set member with before | rfl
    · exact ledger.live other before id live
    · exact ledger.live link (mem_of_getElem? found) id live
  pending := by
    intro other member unfinished
    obtain ⟨j, at_j⟩ := mem_iff_getElem?.mp member
    rcases getElem?_set_apart at_j with ⟨rfl, rfl⟩ | ⟨apart, before⟩
    · cases unfinished
    · -- connections tell links apart, so the entry of the other link stays
      have differs : other.conn ≠ link.conn := by
        intro same
        have first : s.acceptedConns[j]? = some other.conn := by
          rw [acceptedConns, List.getElem?_map, before, Option.map_some]
        have second : s.acceptedConns[i]? = some link.conn := by
          rw [acceptedConns, List.getElem?_map, found, Option.map_some]
        have inside := (List.getElem?_eq_some_iff.mp first).1
        exact apart ((List.getElem?_inj inside ledger.conns).mp
          (first.trans (same ▸ second.symm)))
      have entry := ledger.pending other (mem_of_getElem? before) unfinished
      exact (mem_erase_of_ne differs).mpr entry
  entries := entries
  once := by
    obtain ⟨kept, same, sub⟩ := fewer
    exact same.nodup_iff.mp (sub.nodup ledger.once)
  accepted := by
    rw [acceptedConns_endLink found]
    exact fun _ member => ledger.accepted (fewer.subset member)

/-- Publishing a link moves its connection from `handshakes` to `links`, at most. -/
theorem Ledger.counted_publish (ledger : s.Ledger) (member : link ∈ s.served)
    (unfinished : link.finished = false) {live : Nat} (installed : link.live = some live) :
    (s.publishStep i link live).counted.Subperm s.counted := by
  have own := ledger.live link member live installed
  have entry : link.conn ∈ s.handshakes := ledger.pending link member unfinished
  let conn := fun id : Nat => (s.system.owner.heap[id]?).map Session.conn
  have pushed : (s.links ++ [live]).filterMap conn = s.links.filterMap conn ++ [link.conn] := by
    have last : conn live = some link.conn := conn_of_inbound own
    rw [filterMap_append, filterMap_cons_some last, filterMap_nil]
  have fewer : (s.publishStep i link live).counted.Sublist
      (s.links.filterMap conn ++ [link.conn] ++ s.handshakes.erase link.conn) := by
    rw [← pushed]
    exact (filter_sublist.filterMap conn).append_right _
  have same : (s.links.filterMap conn ++ [link.conn] ++ s.handshakes.erase link.conn).Perm
      s.counted := by
    rw [append_assoc]
    exact (perm_cons_erase entry).symm.append_left _
  exact fewer.subperm.trans same.subperm

/-- A link that is turned away leaves `handshakes`. -/
theorem counted_finish : (s.endLink i link s.links).counted.Subperm s.counted :=
  (erase_sublist.append_left _).subperm

/-- Publishing a link keeps the ledger. -/
theorem Ledger.publish (ledger : s.Ledger) (found : s.served[i]? = some link)
    (unfinished : link.finished = false) {live : Nat} (installed : link.live = some live) :
    (s.publishStep i link live).Ledger := by
  have member := mem_of_getElem? found
  have own := ledger.live link member live installed
  apply ledger.endLink found
  · intro id pushed
    rcases mem_append.mp (mem_of_mem_filter pushed) with before | last
    · exact ledger.entries id before
    · exact ⟨link.conn, mem_singleton.mp last ▸ own⟩
  · exact ledger.counted_publish member unfinished installed

/-- The connections of entries stay as long as inbound sessions do. -/
theorem conns_kept {o o' : SessionOwnerState} {links : List Nat}
    (entries : ∀ id ∈ links, ∃ conn, o.Inbound id conn)
    (kept : ∀ id conn, o.Inbound id conn → o'.Inbound id conn) :
    links.filterMap (fun id => (o'.heap[id]?).map Session.conn) =
      links.filterMap fun id => (o.heap[id]?).map Session.conn := by
  apply filterMap_congr
  intro id member
  obtain ⟨conn, inbound⟩ := entries id member
  rw [conn_of_inbound inbound, conn_of_inbound (kept id conn inbound)]

section

variable {event : OwnerEvent} {system : OwnerSystem} (ledger : s.Ledger)
  (moved : s.system.step event = some system)

include ledger moved

/-- The connections of entries stay under a step of the owner. -/
theorem Ledger.conns_step :
    s.links.filterMap (fun id => (system.owner.heap[id]?).map Session.conn) =
      s.links.filterMap fun id => (s.system.owner.heap[id]?).map Session.conn :=
  conns_kept ledger.entries fun _ _ inbound => step_inbound inbound moved

/-- Admitting a connection counts it. -/
theorem Ledger.counted_accept {served : List ServedLink} {conn : Nat} :
    ({ s with system, served, handshakes := s.handshakes ++ [conn] } : ServerSystem).counted =
      s.counted ++ [conn] := by
  rw [counted, counted, ledger.conns_step moved]
  exact (append_assoc _ _ _).symm

end

/-- Admitting a connection. -/
theorem Ledger.accept (ledger : s.Ledger) (stepped : s.acceptStep = some s') : s'.Ledger := by
  unfold acceptStep at stepped
  split at stepped
  · cases stepped
    exact ledger
  obtain ⟨system, moved, rfl⟩ := Option.map_eq_some_iff.mp stepped
  have kept : ∀ id conn, s.system.owner.Inbound id conn → system.owner.Inbound id conn :=
    fun id conn inbound => OwnerSystem.step_inbound inbound moved
  have stays : ∀ t caller, s.system.callers[t]? = some caller →
      system.callers[t]? = some caller :=
    fun t caller present => OwnerSystem.step_callers present (fun same => by cases same) moved
  have fresh : s.system.owner.conns.length ∉ s.acceptedConns :=
    fun member => Nat.lt_irrefl _ (ledger.allocated _ member)
  have arriving := moved
  simp only [OwnerSystem.step, OwnerSystem.caller?, OwnerSystem.environmentStep,
    Option.some.injEq] at arriving
  let arrived : ServedLink :=
    { conn := s.system.owner.conns.length, caller := s.system.callers.length }
  refine
    { conns := ?_
      allocated := ?_
      serving := ?_
      live := ?_
      pending := ?_
      entries := fun id member => (ledger.entries id member).imp fun conn => kept id conn
      once := ?_
      accepted := ?_ }
  · change (map ServedLink.conn (s.served ++ [arrived])).Nodup
    rw [map_append]
    exact nodup_append'.mpr ⟨ledger.conns, nodup_singleton _, by
      simpa [acceptedConns, arrived] using fresh⟩
  · intro conn member
    change conn ∈ map ServedLink.conn (s.served ++ [arrived]) at member
    rw [map_append] at member
    have longer : system.owner.conns.length = s.system.owner.conns.length + 1 := by
      simp [← arriving]
    rcases mem_append.mp member with before | last
    · have inside := ledger.allocated conn before
      change conn < system.owner.conns.length
      omega
    · have own : conn = s.system.owner.conns.length := mem_singleton.mp last
      change conn < system.owner.conns.length
      omega
  · intro link member
    rcases mem_append.mp member with before | last
    · obtain ⟨key, pc, present, serves⟩ := ledger.serving link before
      exact ⟨key, pc, stays _ _ present,
        OwnerSystem.serves_of_inbound (fun id => kept id _) serves⟩
    · cases mem_singleton.mp last
      exact ⟨[], .greeting s.system.owner.conns.length, by simp [← arriving], rfl⟩
  · intro link member id live
    rcases mem_append.mp member with before | last
    · exact kept id _ (ledger.live link before id live)
    · cases mem_singleton.mp last
      cases live
  · intro link member unfinished
    rcases mem_append.mp member with before | last
    · exact mem_append_left _ (ledger.pending link before unfinished)
    · cases mem_singleton.mp last
      exact mem_append_right _ (mem_singleton_self _)
  · refine (congrArg List.Nodup (ledger.counted_accept moved)).mpr ?_
    exact nodup_append'.mpr ⟨ledger.once, nodup_singleton _, by
      simpa using fun member => fresh (ledger.accepted member)⟩
  · intro conn member
    change conn ∈ map ServedLink.conn (s.served ++ [arrived])
    have mixed := (congrArg (conn ∈ ·) (ledger.counted_accept moved)).mp member
    rw [map_append]
    rcases mem_append.mp mixed with before | last
    · exact mem_append_left _ (ledger.accepted before)
    · exact mem_append_right _ last

/-- A step under the owner, unless a link of this server loses the election. -/
theorem Ledger.owner (ledger : s.Ledger) {event : OwnerEvent}
    (elected : s.elected (.owner event) = true)
    (stepped : s.step (.owner event) = some s') : s'.Ledger := by
  obtain ⟨system, moved, rfl⟩ := Option.map_eq_some_iff.mp stepped
  have kept : ∀ id conn, s.system.owner.Inbound id conn → system.owner.Inbound id conn :=
    fun id conn inbound => step_inbound inbound moved
  have followed := fun link => follow_fields s.system event link
  have conns : map ServedLink.conn (s.served.map fun link => link.follow s.system event) =
      s.acceptedConns := by
    rw [map_map]
    exact map_congr_left fun link _ => (followed link).1
  have wins : ∀ link ∈ s.served, event = .install link.caller →
      s.system.loses link.caller = false := by
    rintro link member rfl
    have served : (s.served.any fun other => other.caller == link.caller) = true :=
      any_eq_true.mpr ⟨link, member, by simp⟩
    simpa [ServerSystem.elected, served] using elected
  have counted := ledger.conns_step moved
  refine
    { conns := ?_
      allocated := ?_
      serving := ?_
      live := ?_
      pending := ?_
      entries := fun id member => (ledger.entries id member).imp fun conn => kept id conn
      once := ?_
      accepted := ?_ }
  · exact (congrArg List.Nodup conns).mpr ledger.conns
  · intro conn member
    have before := ledger.allocated conn ((congrArg (conn ∈ ·) conns).mp member)
    exact Nat.lt_of_lt_of_le before (step_conns moved)
  · intro link member
    obtain ⟨old, before, rfl⟩ := mem_map.mp member
    obtain ⟨same, caller, _⟩ := followed old
    obtain ⟨key, pc, present, serves⟩ := ledger.serving old before
    rw [same, caller]
    by_cases mine : OwnerSystem.caller? event = some old.caller
    · obtain ⟨pc', there, serves, _⟩ :=
        step_serves present serves mine (wins old before) moved
      exact ⟨key, pc', there, serves⟩
    · exact ⟨key, pc, step_callers present mine moved,
        serves_of_inbound (fun id => kept id _) serves⟩
  · intro link member id live
    obtain ⟨old, before, rfl⟩ := mem_map.mp member
    rw [(followed old).1]
    by_cases mine : OwnerSystem.caller? event = some old.caller
    · obtain ⟨key, pc, present, serves⟩ := ledger.serving old before
      obtain ⟨_, _, _, handed⟩ :=
        step_serves present serves mine (wins old before) moved
      rw [ServedLink.follow, if_pos mine] at live
      exact handed id live
    · rw [ServedLink.follow, if_neg mine] at live
      exact kept id _ (ledger.live old before id live)
  · intro link member unfinished
    obtain ⟨old, before, rfl⟩ := mem_map.mp member
    obtain ⟨same, _, finished⟩ := followed old
    rw [same]
    exact ledger.pending old before (finished.symm.trans unfinished)
  · change (filterMap _ s.links ++ s.handshakes).Nodup
    rw [counted]
    exact ledger.once
  · intro conn member
    change conn ∈ filterMap _ s.links ++ s.handshakes at member
    rw [counted] at member
    exact (congrArg (conn ∈ ·) conns).mpr (ledger.accepted member)

/-- A server has no links at its start. -/
theorem ledger_start (started : s.IsStart) : s.Ledger := by
  obtain ⟨_, _, fresh⟩ := started
  rw [fresh]
  constructor <;> simp [acceptedConns, counted]

/-- Every step keeps the ledger, unless a link of this server loses the election in it. -/
theorem Ledger.step (ledger : s.Ledger) (elected : s.elected event = true)
    (stepped : s.step event = some s') : s'.Ledger := by
  cases event with
  | accept => exact ledger.accept stepped
  | owner event => exact ledger.owner elected stepped
  | publish i =>
    obtain ⟨link, found, stepped⟩ := Option.bind_eq_some_iff.mp stepped
    split at stepped
    · cases stepped
    · rename_i unfinished
      obtain ⟨live, installed, rfl⟩ := Option.map_eq_some_iff.mp stepped
      exact ledger.publish found (by simpa using unfinished) installed
  | finish i =>
    obtain ⟨link, found, stepped⟩ := Option.bind_eq_some_iff.mp stepped
    split at stepped
    · cases stepped
    · split at stepped <;> cases stepped
      exact ledger.endLink found ledger.entries counted_finish
  | destroy id =>
    simp only [ServerSystem.step] at stepped
    split at stepped <;> cases stepped
    exact { ledger with }
  | stop =>
    cases stepped
    exact { ledger with }

/-- A sum that counts each connection once counts the entries of `links` one by one. -/
theorem Ledger.length_counted (ledger : s.Ledger) :
    s.counted.length = s.links.length + s.handshakes.length := by
  have entered : (s.links.filterMap fun id =>
      (s.system.owner.heap[id]?).map Session.conn).length = s.links.length := by
    apply filterMap_length_eq_length.mpr
    intro id member
    obtain ⟨conn, inbound⟩ := ledger.entries id member
    rw [conn_of_inbound inbound]
    rfl
  rw [counted, length_append, entered]

/-- Entries of `links` are distinct, since their connections are. -/
theorem Ledger.links_nodup (ledger : s.Ledger) : s.links.Nodup := by
  have conns := pairwise_filterMap.mp (nodup_append'.mp ledger.once).1
  apply conns.imp_of_mem
  rintro id other member _ apart rfl
  obtain ⟨conn, inbound⟩ := ledger.entries id member
  exact apart conn (conn_of_inbound inbound) conn (conn_of_inbound inbound) rfl

/-- Entries of `links` are sessions that the server accepted. -/
theorem Ledger.acceptedLink (ledger : s.Ledger) {id : Nat} (member : id ∈ s.links) :
    s.Accepted id := by
  obtain ⟨conn, inbound⟩ := ledger.entries id member
  obtain ⟨session, found, outbound, same⟩ := inbound.session
  have entry : conn ∈ s.links.filterMap fun id => (s.system.owner.heap[id]?).map Session.conn :=
    mem_filterMap.mpr ⟨id, member, conn_of_inbound inbound⟩
  exact ⟨session, found, outbound, same ▸ ledger.accepted (mem_append_left _ entry)⟩

/-- No connection of the sum is released. -/
def Held (s : ServerSystem) : Prop :=
  ∀ conn ∈ s.counted, s.system.owner.connReleased conn = false

/-- A server counts nothing at its start. -/
theorem held_start (started : s.IsStart) : s.Held := by
  obtain ⟨_, _, fresh⟩ := started
  rw [fresh]
  intro conn member
  simp [counted] at member

/-- Every step keeps the connections of the sum unreleased, unless one of them is released in
it. -/
theorem Held.step (held : s.Held) (ledger : s.Ledger) (swept : s.swept event = true)
    (stepped : s.step event = some s') : s'.Held := by
  have present : ∀ conn ∈ s.counted, conn < s.system.owner.conns.length :=
    fun conn member => ledger.allocated conn (ledger.accepted member)
  cases event with
  | accept =>
    change s.acceptStep = some s' at stepped
    unfold acceptStep at stepped
    split at stepped
    · cases stepped
      exact held
    obtain ⟨system, moved, rfl⟩ := Option.map_eq_some_iff.mp stepped
    intro conn member
    rw [ledger.counted_accept moved] at member
    rcases mem_append.mp member with before | last
    · have same := OwnerSystem.step_connReleased (present conn before)
        (fun same => by cases same) moved
      exact same.trans (held conn before)
    · cases mem_singleton.mp last
      simp only [OwnerSystem.step, OwnerSystem.caller?, OwnerSystem.environmentStep,
        Option.some.injEq] at moved
      simp [← moved, connReleased]
  | owner event =>
    obtain ⟨system, moved, rfl⟩ := Option.map_eq_some_iff.mp stepped
    intro conn member
    have before : conn ∈ s.counted := by
      change conn ∈ filterMap _ s.links ++ s.handshakes at member
      rw [ledger.conns_step moved] at member
      exact member
    have apart : event ≠ .connReleased conn := by
      rintro rfl
      simp [ServerSystem.swept, before] at swept
    exact (OwnerSystem.step_connReleased (present conn before) apart moved).trans
      (held conn before)
  | publish i =>
    obtain ⟨link, found, stepped⟩ := Option.bind_eq_some_iff.mp stepped
    split at stepped
    · cases stepped
    · rename_i unfinished
      obtain ⟨live, installed, rfl⟩ := Option.map_eq_some_iff.mp stepped
      have fewer := ledger.counted_publish (i := i) (mem_of_getElem? found)
        (by simpa using unfinished) installed
      exact fun conn member => held conn (fewer.subset member)
  | finish i =>
    obtain ⟨link, _, stepped⟩ := Option.bind_eq_some_iff.mp stepped
    split at stepped
    · cases stepped
    · split at stepped <;> cases stepped
      exact fun conn member => held conn (counted_finish.subset member)
  | destroy id =>
    simp only [ServerSystem.step] at stepped
    split at stepped <;> cases stepped
    exact held
  | stop =>
    cases stepped
    exact held

/-- The links of a server, in every run in which none of them loses the duplicate election and
no connection is released while the sum of the `MaxConnections` test counts it. -/
theorem link_ledger {labels : List ServerEvent}
    (run : machine.GuardedRun (fun s e => s.undisturbed e = true) labels s) : s.Counts := by
  have kept : s.Ledger ∧ s.Held := by
    apply run.invariant fun s => s.Ledger ∧ s.Held
    · intro state started
      exact ⟨ledger_start started, held_start started⟩
    · rintro state event next ⟨ledger, held⟩ undisturbed stepped
      obtain ⟨elected, swept⟩ := Bool.and_eq_true_iff.mp undisturbed
      exact ⟨ledger.step elected stepped, held.step ledger swept stepped⟩
  obtain ⟨ledger, held⟩ := kept
  have unreleased : s.counted ⊆ s.unreleased := by
    intro conn member
    exact mem_filter.mpr ⟨ledger.accepted member, by simp [held conn member]⟩
  have fits := (ledger.once.subperm unreleased).length_le
  rw [ledger.length_counted] at fits
  exact
    { distinct := ledger.links_nodup.sublist filter_sublist
      accepted := fun id live => ledger.acceptedLink (mem_of_mem_filter live)
      bounded := fits }

/-- The sum is at its limit and no link is on its way. -/
def lockedOut (s : ServerSystem) : Bool :=
  decide (s.options.maxConnections ≤ s.links.length) && s.served.all finished

/-- A server with this limit over a fresh owner that accepts links from smaller peers only. -/
def fresh (maxConnections : Nat) : ServerSystem :=
  { system := OwnerSystem.fresh [0x61] 4, options := { maxConnections } }

/-- A positive limit gives a start state. -/
theorem fresh_start {maxConnections : Nat} (positive : 0 < maxConnections)
    (bounded : maxConnections ≤ kNetworkLimitsMaxConnections) :
    machine.start (fresh maxConnections) := by
  refine ⟨OwnerSystem.fresh_start 0x61 4 (by decide) (by decide) (by decide), ?_, rfl⟩
  have limit : ¬ (maxConnections = 0 ∨ maxConnections > kNetworkLimitsMaxConnections) := by omega
  change ServerOptions.validate { maxConnections } = .ok ()
  simp only [ServerOptions.validate, if_neg limit]
  rfl

/-- The path of the first link from its handshake to `links`. -/
def installFirst : List ServerEvent :=
  [.owner (.handshake 0 (.ok [0x62])), .owner (.install 0), .owner (.evict 0),
    .owner (.begin 0 true true), .publish 0]

/-- Two links, of which the second is turned away and released. -/
def oneTurnedAway : List ServerEvent :=
  [.accept, .accept, .owner (.handshake 1 (.error (err .closed "handshake"))),
    .owner (.reject 1), .finish 1, .owner (.connReleased 1)] ++ installFirst

/-- Such a run keeps the count right. -/
theorem link_ledger_turned_away :
    ∃ s, machine.GuardedRun (fun s e => s.undisturbed e = true) oneTurnedAway s ∧
      s.links = [0] ∧ s.Counts := by
  have started : machine.start (fresh 4) := fresh_start (by decide) (by decide)
  obtain ⟨s, run, links⟩ := Machine.exists_guardedRun oneTurnedAway undisturbed
    (fun s => decide (s.links = [0])) started (by decide +kernel)
  exact ⟨s, run, of_decide_eq_true links, link_ledger run⟩

/-- Two links of one peer: the second loses, and the session of the first is entered twice. -/
def secondLoses : List ServerEvent :=
  [.accept, .accept] ++ installFirst ++
    [.owner (.handshake 1 (.ok [0x62])), .owner (.install 1), .publish 1]

/-- The only link dies and is released, and its session is destroyed. -/
def onlyLinkDies : List ServerEvent :=
  [.accept] ++ installFirst ++
    [.owner (.kill 0), .owner (.killExit 0), .owner (.taskExit 0), .owner (.taskExit 0),
      .owner (.connReleased 0), .owner (.release 0), .destroy 0]

/-- A session is entered twice; and a server whose only connection is released for good counts
it still and admits no other. -/
theorem links_miscounted :
    (∃ s, machine.Reachable s ∧ s.liveLinks = [0, 0] ∧ ¬ s.Counts) ∧
      ∃ s, machine.Reachable s ∧ s.unreleased = [] ∧ s.lockedOut = true ∧ ¬ s.Counts := by
  have four : machine.start (fresh 4) := fresh_start (by decide) (by decide)
  have one : machine.start (fresh 1) := fresh_start (by decide) (by decide)
  constructor
  · obtain ⟨s, reachable, live⟩ := Machine.exists_reachable secondLoses
      (fun s : ServerSystem => decide (s.liveLinks = [0, 0])) four (by decide +kernel)
    have twice : s.liveLinks = [0, 0] := of_decide_eq_true live
    refine ⟨s, reachable, twice, fun counts => ?_⟩
    have distinct := counts.distinct
    rw [twice] at distinct
    exact absurd distinct (by decide)
  · obtain ⟨s, reachable, tested⟩ := Machine.exists_reachable onlyLinkDies
      (fun s : ServerSystem =>
        decide (s.unreleased = []) && s.lockedOut && decide (0 < s.links.length)) one
      (by decide +kernel)
    simp only [Bool.and_eq_true, decide_eq_true_eq] at tested
    obtain ⟨⟨released, locked⟩, entered⟩ := tested
    refine ⟨s, reachable, released, locked, fun counts => ?_⟩
    have bounded := counts.bounded
    rw [released, length_nil] at bounded
    omega

end ServerSystem

end BbtInfra.Rpc
