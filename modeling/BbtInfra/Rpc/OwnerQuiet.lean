import BbtInfra.Rpc.OwnerSystem

/-!
# Quiet steps of an owner

Most critical sections install no session and touch no establishing record: they kill,
close, count responsibilities down, release. `Quiet` says once what all of them leave alone
and in which direction they may move the rest; every invariant of the owner is then kept by
quiet steps for one reason. The remaining operations are treated one by one where the
invariants are proved.
-/
namespace BbtInfra.Rpc

open Lib AList

/-- What never changes in a session object after it was built. -/
def Session.link (session : Session) : Nat × Bytes × Bool :=
  (session.conn, session.peerIdentity, session.outbound)

namespace SessionOwnerState

variable {o o' o'' : SessionOwnerState}

/-- Every weak pointer of `by_endpoint` refers to an installed session. -/
def EndpointsInstalled (o : SessionOwnerState) : Prop :=
  ∀ key id, o.byEndpoint.lookup key = some id → id ∈ o.byIdentity.values

/-- Every session that holds quota is an entry of `by_identity`. -/
def HoldersInstalled (o : SessionOwnerState) : Prop :=
  ∀ id session, o.heap[id]? = some session → session.quotaHeld = true → id ∈ o.byIdentity.values

/-- A step that installs no session and touches no establishing record. -/
structure Quiet (o o' : SessionOwnerState) : Prop where
  options : o'.options = o.options
  establishing : o'.establishing = o.establishing
  records : o'.records = o.records
  /-- Entries of `by_identity` may only go. -/
  mapped : ∀ peer id, o'.byIdentity.lookup peer = some id → o.byIdentity.lookup peer = some id
  endpoints : o.EndpointsInstalled → o'.EndpointsInstalled
  holders : o.HoldersInstalled → o'.HoldersInstalled
  links : o'.heap.map Session.link = o.heap.map Session.link
  dead : ∀ id, o.isDead id = true → o'.isDead id = true
  conns : o.conns.length ≤ o'.conns.length
  asked : ∀ conn, o.closeAsked conn = true → o'.closeAsked conn = true

/-- Nothing happens. -/
theorem Quiet.refl (o : SessionOwnerState) : Quiet o o where
  options := rfl
  establishing := rfl
  records := rfl
  mapped := fun _ _ found => found
  endpoints := id
  holders := id
  links := rfl
  dead := fun _ dead => dead
  conns := Nat.le_refl _
  asked := fun _ asked => asked

/-- Two quiet steps. -/
theorem Quiet.trans (first : Quiet o o') (second : Quiet o' o'') : Quiet o o'' where
  options := second.options.trans first.options
  establishing := second.establishing.trans first.establishing
  records := second.records.trans first.records
  mapped := fun peer id found => first.mapped peer id (second.mapped peer id found)
  endpoints := second.endpoints ∘ first.endpoints
  holders := second.holders ∘ first.holders
  links := second.links.trans first.links
  dead := fun id dead => second.dead id (first.dead id dead)
  conns := Nat.le_trans first.conns second.conns
  asked := fun conn asked => second.asked conn (first.asked conn asked)

/-- A quiet step creates no session. -/
theorem Quiet.heap_length (quiet : Quiet o o') : o'.heap.length = o.heap.length := by
  simpa using congrArg List.length quiet.links

/-- A quiet step keeps the connection, peer and direction of each session. -/
theorem Quiet.link (quiet : Quiet o o') (id : Nat) :
    (o'.heap[id]?).map Session.link = (o.heap[id]?).map Session.link := by
  simpa [List.getElem?_map] using congrArg (fun links => links[id]?) quiet.links

/-- A quiet step leaves the quota count where it was or lowers it. -/
theorem Quiet.occupied_le (quiet : Quiet o o') : o'.occupied ≤ o.occupied := by
  have entries : o'.byIdentity.size ≤ o.byIdentity.size :=
    size_le_of_lookup quiet.mapped
  have reserved : o'.reservedCount = o.reservedCount := by
    unfold reservedCount isReserved
    rw [quiet.establishing, quiet.records]
  simp only [occupied, reserved]
  omega

/-- Installed sessions were installed before a quiet step. -/
theorem Quiet.values (quiet : Quiet o o') {id : Nat} (member : id ∈ o'.byIdentity.values) :
    id ∈ o.byIdentity.values := by
  obtain ⟨peer, found⟩ := mem_values_iff.mp member
  exact mem_values_iff.mpr ⟨peer, quiet.mapped peer id found⟩

section

variable (o : SessionOwnerState) (conn : Nat)

include conn

/-- Rewriting a connection without withdrawing a close request is quiet. -/
theorem quiet_modifyConn {f : Connection → Connection}
    (keeps : ∀ c, c.closeRequested = true → (f c).closeRequested = true) :
    Quiet o { o with conns := o.conns.modify conn f } where
  options := rfl
  establishing := rfl
  records := rfl
  mapped := fun _ _ found => found
  endpoints := id
  holders := id
  links := rfl
  dead := fun _ dead => dead
  conns := by simp
  asked := by
    intro other asked
    simp only [closeAsked, List.getElem?_modify] at asked ⊢
    cases entry : o.conns[other]? with
    | none => simp [entry] at asked
    | some c =>
      simp only [entry, Option.map_some, Option.getD_some] at asked
      by_cases same : conn = other
      · simp [same, keeps c asked]
      · simp [same, asked]

/-- `RequestClose` is quiet. -/
theorem quiet_requestClose : Quiet o (o.requestClose conn) :=
  quiet_modifyConn o conn fun _ _ => rfl

/-- The physical release of a connection is quiet. -/
theorem quiet_markReleased : Quiet o (o.markReleased conn) :=
  quiet_modifyConn o conn fun _ asked => asked

end

/-- A connection that was asked to close is known as such. -/
theorem closeAsked_requestClose {conn : Nat} (present : conn < o.conns.length) :
    (o.requestClose conn).closeAsked conn = true := by
  simp [closeAsked, requestClose, List.getElem?_eq_getElem present]

section

variable (o : SessionOwnerState)

/-- Rewriting a session is quiet when its link stays, death is not undone and no quota is
taken. -/
theorem quiet_modifySession (id : Nat) {f : Session → Session}
    (link : ∀ s, (f s).link = s.link) (dead : ∀ s, s.dead = true → (f s).dead = true)
    (quota : ∀ s, (f s).quotaHeld = true → s.quotaHeld = true) : Quiet o (o.modifySession id f) where
  options := rfl
  establishing := rfl
  records := rfl
  mapped := fun _ _ found => found
  endpoints := fun installed => installed
  holders := by
    intro installed other session found held
    simp only [modifySession, List.getElem?_modify, Option.map_eq_map, Option.map_eq_some_iff] at found
    obtain ⟨old, present, same⟩ := found
    refine installed other old present ?_
    split at same
    · exact quota old (same ▸ held)
    · exact same ▸ held
  links := by
    apply List.ext_getElem?
    intro other
    simp only [modifySession, List.getElem?_map, List.getElem?_modify, Option.map_eq_map,
      Option.map_map]
    congr 1
    funext s
    by_cases same : id = other <;> simp [same, link]
  dead := by
    intro other was
    simp only [isDead, modifySession, List.getElem?_modify] at was ⊢
    cases entry : o.heap[other]? with
    | none => simp [entry] at was
    | some s =>
      simp only [entry, Option.map_some, Option.getD_some] at was
      by_cases same : id = other
      · simp [same, dead s was]
      · simp [same, was]
  conns := Nat.le_refl _
  asked := fun _ asked => asked

/-- `Kill` is quiet. -/
theorem quiet_kill (id : Nat) : Quiet o (o.kill id) := by
  unfold kill
  split
  · exact Quiet.refl o
  · split
    · exact Quiet.refl o
    · refine Quiet.trans ?_ (quiet_requestClose _ _)
      exact quiet_modifySession o id (fun _ => rfl) (fun _ _ => rfl) fun _ held => held

/-- The decrement of `ExitDone` is quiet. -/
theorem quiet_exitDone (id : Nat) : Quiet o (o.exitDone id) :=
  quiet_modifySession o id (fun _ => rfl) (fun _ dead => dead) fun _ held => held

/-- The end of `Kill` is quiet. -/
theorem quiet_killExit (id : Nat) : Quiet o (o.killExit id) := by
  refine Quiet.trans ?_ (quiet_exitDone _ id)
  exact quiet_modifySession o id (fun _ => rfl) (fun _ dead => dead) fun _ held => held

/-- The end of a reader or writer is quiet. -/
theorem quiet_taskExit (id : Nat) : Quiet o (o.taskExit id) := by
  refine Quiet.trans ?_ (quiet_exitDone _ id)
  exact quiet_modifySession o id (fun _ => rfl) (fun _ dead => dead) fun _ held => held

/-- `ReleasedLocked` is quiet: the session that loses its table entries loses its quota too. -/
theorem quiet_releasedLocked (id : Nat) : Quiet o (o.releasedLocked id) := by
  unfold releasedLocked
  split
  · exact Quiet.refl o
  split
  · exact Quiet.refl o
  split
  · exact Quiet.refl o
  have kept := quiet_modifySession o id (f := fun s => { s with quotaHeld := false })
    (fun _ => rfl) (fun _ dead => dead) fun _ held => by cases held
  have stays : ∀ other, other ≠ id → other ∈ o.byIdentity.values →
      other ∈ (o.byIdentity.filterValues fun entry => entry ≠ id).values := by
    intro other apart member
    obtain ⟨peer, found⟩ := mem_values_iff.mp member
    exact mem_values_iff.mpr
      ⟨peer, lookup_filterValues_eq_some.mpr ⟨found, decide_eq_true apart⟩⟩
  refine
    { options := rfl
      establishing := rfl
      records := rfl
      mapped := fun peer other found => (lookup_filterValues_eq_some.mp found).1
      endpoints := ?_
      holders := ?_
      links := kept.links
      dead := kept.dead
      conns := Nat.le_refl _
      asked := fun _ asked => asked }
  · intro installed key other found
    obtain ⟨found, apart⟩ := lookup_filterValues_eq_some.mp found
    exact stays other (of_decide_eq_true apart) (installed key other found)
  · intro installed other session found held
    have apart : other ≠ id := by
      rintro rfl
      simp only [modifySession, List.getElem?_modify, Option.map_eq_map,
        Option.map_eq_some_iff] at found
      obtain ⟨old, _, same⟩ := found
      simp [← same] at held
    exact stays other apart (kept.holders installed other session found held)

/-- The critical section of the last `ExitDone` is quiet. -/
theorem quiet_releaseExit (id : Nat) : Quiet o (o.releaseExit id) := by
  refine Quiet.trans ?_ (quiet_releasedLocked _ id)
  exact quiet_modifySession o id (fun _ => rfl) (fun _ dead => dead) fun _ held => held

/-- The sweep of `GetSession` is quiet. -/
theorem quiet_driveRelease : Quiet o o.driveRelease := by
  have sweep : ∀ (ids : List Nat) (owner : SessionOwnerState), Quiet o owner →
      Quiet o (ids.foldl releasedLocked owner) := by
    intro ids
    induction ids with
    | nil => exact fun _ before => before
    | cons id _ ih =>
      exact fun owner before => ih _ (before.trans (quiet_releasedLocked owner id))
  exact sweep o.byIdentity.values o (Quiet.refl o)

/-- Dropping an endpoint is quiet. -/
theorem quiet_eraseEndpoint (key : Bytes) :
    Quiet o { o with byEndpoint := o.byEndpoint.erase key } :=
  { Quiet.refl o with
    endpoints := by
      intro installed other id found
      by_cases same : other = key
      · rw [same, lookup_erase] at found
        cases found
      · rw [lookup_erase_ne same] at found
        exact installed other id found
    holders := id
    dead := fun _ dead => dead
    asked := fun _ asked => asked }

/-- Pointing an endpoint at an installed session is quiet. -/
theorem quiet_insertEndpoint (key : Bytes) {winner : Nat} (member : winner ∈ o.byIdentity.values) :
    Quiet o { o with byEndpoint := o.byEndpoint.insert key winner } :=
  { Quiet.refl o with
    endpoints := by
      intro installed other id found
      by_cases same : other = key
      · rw [same, lookup_insert] at found
        exact Option.some.inj found ▸ member
      · rw [lookup_insert_ne same] at found
        exact installed other id found
    holders := id
    dead := fun _ dead => dead
    asked := fun _ asked => asked }

/-- Fencing a new link in favour of an installed one is quiet. -/
theorem quiet_fenceLocked (id conn : Nat) (endpoint : Bytes) {winner : Nat}
    (member : winner ∈ o.byIdentity.values) : Quiet o (o.fenceLocked id conn endpoint winner) := by
  have closed : Quiet o ((o.modifySession id fun s => { s with dead := true }).requestClose conn) := by
    refine Quiet.trans ?_ (quiet_requestClose _ _)
    exact quiet_modifySession o id (fun _ => rfl) (fun _ _ => rfl) fun _ held => held
  unfold fenceLocked
  split
  · exact closed
  · exact closed.trans (quiet_insertEndpoint _ endpoint member)

/-- Registering reader and writer is quiet, also when it fails. -/
theorem quiet_startTasks (id : Nat) (reader writer : Bool) :
    Quiet o (o.startTasks id reader writer).1 := by
  have counted := quiet_modifySession o id (f := fun s =>
    { s with
      responsibilities := s.responsibilities + 1 +
        (if reader then if writer then 2 else 1 else 0 : Nat)
      tasks := s.tasks + if reader then if writer then 2 else 1 else 0 })
    (fun _ => rfl) (fun _ dead => dead) fun _ held => held
  unfold startTasks
  dsimp only
  split
  · exact counted
  · exact counted.trans (quiet_kill _ _)

/-- A new connection is quiet. -/
theorem quiet_dialed : Quiet o { o with conns := o.conns ++ [{}] } :=
  { Quiet.refl o with
    endpoints := id
    holders := id
    dead := fun _ dead => dead
    conns := by simp
    asked := by
      intro conn asked
      have present : conn < o.conns.length := by
        by_contra outside
        simp [closeAsked, List.getElem?_eq_none (Nat.le_of_not_lt outside)] at asked
      simpa [closeAsked, List.getElem?_append_left present] using asked }

end

end SessionOwnerState

end BbtInfra.Rpc
