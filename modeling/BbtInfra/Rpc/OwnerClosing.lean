import BbtInfra.Rpc.OwnerReadings
import BbtInfra.Rpc.Retirement

/-!
# What a close publishes and what the other steps make of it

Only a seal writes `closed` and `close_reason`. Every other step leaves both alone, installs
nothing and registers no establishment once the owner is closed, and asks a connection that
it publishes on a closed owner to close again.
-/
namespace BbtInfra.Rpc

open Lib SessionOwnerState Option

namespace SessionOwnerState

variable {o o' o'' : SessionOwnerState}

/-- What `Close` publishes: the close bit and the reason. -/
def published (o : SessionOwnerState) : Bool × Option Error := (o.closed, o.closeReason)

/-- Only a seal publishes. -/
theorem published_blind : Blind published where
  asked := fun _ _ => rfl
  tables := fun _ _ _ _ _ _ _ _ => rfl

/-- A step that is no seal, as far as a close is concerned. -/
structure Latched (o o' : SessionOwnerState) : Prop where
  published : o'.published = o.published
  heap : o.heap.length ≤ o'.heap.length
  conns : o.conns.length ≤ o'.conns.length
  dead : ∀ id, o.isDead id = true → o'.isDead id = true
  asked : ∀ conn, o.closeAsked conn = true → o'.closeAsked conn = true
  /-- A closed owner installs nothing. -/
  installed : o.closed = true → ∀ id ∈ o'.byIdentity.values, id ∈ o.byIdentity.values
  /-- A closed owner registers no establishment. -/
  registered : o.closed = true → ∀ key record, o'.establishing.lookup key = some record →
    o.establishing.lookup key = some record
  /-- A connection that a record learns is closed again on a closed owner. -/
  recorded : ∀ record conn, o'.recordConn record = some conn → o.recordConn record = some conn ∨
    conn < o'.conns.length ∧ (o.closed = true → o'.closeAsked conn = true)

/-- The close bit is among what is published. -/
theorem Latched.closed (latched : Latched o o') : o'.closed = o.closed :=
  congrArg Prod.fst latched.published

/-- The reason is among what is published. -/
theorem Latched.closeReason (latched : Latched o o') : o'.closeReason = o.closeReason :=
  congrArg Prod.snd latched.published

/-- A quiet step that publishes nothing. -/
theorem Quiet.latched (quiet : Quiet o o') (published : o'.published = o.published) :
    Latched o o' where
  published := published
  heap := Nat.le_of_eq quiet.heap_length.symm
  conns := quiet.conns
  dead := quiet.dead
  asked := quiet.asked
  installed := fun _ _ member => quiet.values member
  registered := fun _ _ _ found => quiet.establishing ▸ found
  recorded := by
    intro record conn known
    rw [recordConn, quiet.records] at known
    exact .inl known

/-- A step that leaves the owner alone. -/
theorem Latched.refl (o : SessionOwnerState) : Latched o o := (Quiet.refl o).latched rfl

/-- Two such steps in a row. -/
theorem Latched.trans (first : Latched o o') (second : Latched o' o'') : Latched o o'' where
  published := second.published.trans first.published
  heap := Nat.le_trans first.heap second.heap
  conns := Nat.le_trans first.conns second.conns
  dead := fun id dead => second.dead id (first.dead id dead)
  asked := fun conn asked => second.asked conn (first.asked conn asked)
  installed := fun closed id member =>
    first.installed closed id (second.installed (first.closed.trans closed) id member)
  registered := fun closed key record found =>
    first.registered closed key record (second.registered (first.closed.trans closed) key record found)
  recorded := by
    intro record conn known
    rcases second.recorded record conn known with before | ⟨present, asked⟩
    · rcases first.recorded record conn before with earlier | ⟨present, asked⟩
      · exact .inl earlier
      · exact .inr ⟨Nat.lt_of_lt_of_le present second.conns,
          fun closed => second.asked conn (asked closed)⟩
    · exact .inr ⟨present, fun closed => asked (first.closed.trans closed)⟩

/-- A record that was rewritten without learning a connection. -/
theorem recordConn_modifyRecord {record other conn : Nat} {f : Establishing → Establishing}
    (forgets : ∀ r, (f r).conn = some conn → r.conn = some conn)
    (known : (o.modifyRecord record f).recordConn other = some conn) :
    o.recordConn other = some conn := by
  simp only [recordConn, modifyRecord, List.getElem?_modify] at known ⊢
  cases found : o.records[other]? with
  | none => simp [found] at known
  | some r =>
    simp only [found, map_eq_map, map_some, getD_some] at known ⊢
    by_cases same : record = other
    · rw [if_pos same] at known
      exact forgets r known
    · rw [if_neg same] at known
      exact known

/-- Rewriting a record without teaching it a connection. -/
theorem latched_modifyRecord (o : SessionOwnerState) (record : Nat)
    {f : Establishing → Establishing}
    (forgets : ∀ r conn, (f r).conn = some conn → r.conn = some conn) :
    Latched o (o.modifyRecord record f) :=
  { Latched.refl o with
    published := rfl
    dead := fun _ dead => dead
    asked := fun _ asked => asked
    recorded := fun _ conn known => .inl (recordConn_modifyRecord (fun r => forgets r conn) known) }

/-- The settlement of a record forgets its connection. -/
theorem settled_conn (r : Establishing) (made : Except Error Nat) : (r.settled made).conn = none := by
  cases made <;> rfl

section

variable (o : SessionOwnerState)

/-- The last critical section of `GetSession`. -/
theorem latched_settleLocked (key : Bytes) (record : Nat)
    (made : Except Error Nat) : Latched o (o.settleLocked key record made).1 := by
  have forgotten := latched_modifyRecord o record (f := fun r => r.settled made) (by
    intro r conn known
    rw [settled_conn] at known
    cases known)
  unfold settleLocked
  dsimp only
  split
  · refine { forgotten with registered := ?_ }
    intro _ other entry found
    by_cases same : other = key
    · rw [same, AList.lookup_erase] at found
      cases found
    · rwa [AList.lookup_erase_ne same] at found
  · exact forgotten

/-- The critical section after the dial. -/
theorem latched_publishConn (record : Nat) {conn : Nat}
    (present : conn < o.conns.length) : Latched o (o.publishConn record conn).1 := by
  have learnt : ∀ other c,
      (o.modifyRecord record fun r => { r with conn := some conn }).recordConn other = some c →
        o.recordConn other = some c ∨ c = conn := by
    intro other c known
    by_cases same : c = conn
    · exact .inr same
    · refine .inl (recordConn_modifyRecord ?_ known)
      intro r taught
      exact absurd (Option.some.inj taught).symm same
  unfold publishConn
  by_cases closed : o.closed = true
  · rw [if_pos (by exact closed)]
    have asking := quiet_requestClose o conn
    refine { asking.latched rfl with recorded := ?_, published := rfl }
    intro other c known
    rcases learnt other c known with before | rfl
    · exact .inl before
    · exact .inr ⟨Nat.lt_of_lt_of_le present asking.conns, fun _ => closeAsked_requestClose present⟩
  · rw [if_neg (by exact closed)]
    refine { Latched.refl o with recorded := ?_, published := rfl }
    intro other c known
    rcases learnt other c known with before | rfl
    · exact .inl before
    · exact .inr ⟨present, fun now => absurd now closed⟩

/-- The first critical section of `GetSession`. -/
theorem latched_enterLocked (key : Bytes) : Latched o (o.enterLocked key).1 := by
  have outcome := enterLocked_outcome o key
  have published := published_blind.enterLocked o key
  by_cases closed : o.closed = true
  · unfold enterLocked
    rw [if_pos closed]
    exact Latched.refl o
  · revert outcome published
    generalize o.enterLocked key = entered
    intro outcome published
    cases outcome with
    | refused quiet error | live quiet session | waiter quiet record joined =>
      exact quiet.latched published
    | @establisher o' quiet absent room =>
      refine
        { quiet.latched published with
          installed := fun now => absurd now closed
          registered := fun now => absurd now closed
          recorded := ?_ }
      intro record conn known
      refine .inl ?_
      rw [recordConn, ← quiet.records]
      simp only [recordConn, reserve] at known
      by_cases inside : record < o'.records.length
      · rwa [List.getElem?_append_left inside] at known
      · exfalso
        rw [List.getElem?_append_right (Nat.le_of_not_lt inside)] at known
        cases last : record - o'.records.length <;> simp [last] at known

/-- A new session object. -/
theorem latched_newSession (conn : Nat) (peer : Bytes) (outbound : Bool) :
    Latched o (OwnerSystem.newSession o conn peer outbound) :=
  { Latched.refl o with
    published := rfl
    heap := by simp [OwnerSystem.newSession]
    dead := by
      intro id dead
      have inside : id < o.heap.length := by
        by_contra outside
        simp [isDead, List.getElem?_eq_none (Nat.le_of_not_lt outside)] at dead
      simpa [isDead, OwnerSystem.newSession, List.getElem?_append_left inside] using dead
    asked := fun _ asked => asked }

/-- A new link takes over its peer, which happens on an open owner only. -/
theorem latched_adopted (opened : o.closed = false) (record : Option Nat)
    (peer : Bytes) (id : Nat) (endpoint : Bytes) (evicted : Option Nat) :
    Latched o (((o.convertReservation record).mapIdentity peer id).adoptLocked id endpoint
      evicted) := by
  have converted : Latched o (o.convertReservation record) := by
    cases record with
    | none => exact Latched.refl o
    | some own => exact latched_modifyRecord o own fun _ _ known => known
  have still : (o.convertReservation record).closed = false := converted.closed.trans opened
  refine converted.trans
    { Latched.refl (o.convertReservation record) with
      published := rfl
      heap := by simp [adoptLocked, mapIdentity, modifySession]
      dead := ?_
      asked := fun _ asked => asked
      installed := fun closed => absurd (still.symm.trans closed) (by decide)
      recorded := fun _ _ known => .inl known }
  intro other dead
  simp only [isDead, adoptLocked, mapIdentity, modifySession, List.getElem?_modify] at dead ⊢
  cases entry : (o.convertReservation record).heap[other]? with
  | none => simp [entry] at dead
  | some session =>
    simp only [entry, map_some, getD_some] at dead
    by_cases same : id = other <;> simp [same, dead]

/-- The critical section of `InstallSession`. -/
theorem latched_installLocked (id : Nat) (session : Session)
    (endpoint : Bytes) (record : Option Nat) :
    Latched o (o.installLocked id session endpoint record).1 := by
  have outcome := installLocked_outcome o id session endpoint record
  revert outcome
  generalize o.installLocked id session endpoint record = result
  intro outcome
  cases outcome with
  | refused error guard => exact Latched.refl o
  | fenced winner opened mapped loses =>
    exact (quiet_fenceLocked o id _ endpoint (AList.mem_values_of_lookup mapped)).latched
      (published_blind.fenceLocked o _ _ _ _)
  | evicted winner opened mapped wins =>
    exact (latched_adopted o opened none session.peerIdentity id endpoint (some winner) :)
  | added opened absent room => exact latched_adopted o opened record _ id endpoint none

end

end SessionOwnerState

namespace OwnerSystem

variable {s s' : OwnerSystem} {event : OwnerEvent} {t : Nat} {key : Bytes} {pc : Pc}

/-- Refusing a link. -/
theorem latched_refuse (o : SessionOwnerState) (way : Way) (conn : Nat) :
    Latched o (way.refuse o conn) :=
  (Way.quiet_refuse o way conn).latched (published_blind.refuse way o conn)

/-- `RequestClose` on a connection. -/
theorem latched_requestClose (o : SessionOwnerState) (conn : Nat) :
    Latched o (o.requestClose conn) := (quiet_requestClose o conn).latched rfl

/-- `Kill` of a session. -/
theorem latched_kill (o : SessionOwnerState) (id : Nat) : Latched o (o.kill id) :=
  (quiet_kill o id).latched (published_blind.kill o id)

section

variable (s : OwnerSystem) (t : Nat) (key : Bytes)

/-- The step that installs a link. -/
theorem latched_installStep (way : Way) (id conn : Nat)
    (session : Session) : Latched s.owner (s.installStep t key way id conn session).owner := by
  have installed := latched_installLocked s.owner id session key way.record
  unfold installStep
  split
  · rename_i result
    rw [result] at installed
    exact installed.trans (latched_refuse _ way conn)
  · rename_i result
    rw [result] at installed
    exact installed
  · rename_i result
    rw [result] at installed
    exact installed

/-- The step that registers reader and writer. -/
theorem latched_beginStep (way : Way) (id conn : Nat) (reader writer : Bool) :
    Latched s.owner (s.beginStep t key way id conn reader writer).owner := by
  have started := (quiet_startTasks s.owner id reader writer).latched
    (published_blind.startTasks s.owner id reader writer)
  unfold beginStep
  split
  · rename_i result
    rw [result] at started
    exact started
  · rename_i result
    rw [result] at started
    exact started.trans (latched_refuse _ way conn)

/-- The step that publishes a dialled connection. -/
theorem latched_publishStep (record : Nat) {conn : Nat} (present : conn < s.owner.conns.length) :
    Latched s.owner (s.publishStep t key record conn).owner := by
  have learnt := latched_publishConn s.owner record present
  unfold publishStep
  split
  · rename_i result
    rw [result] at learnt
    exact learnt
  · rename_i result
    rw [result] at learnt
    exact learnt

end

/-- The steps of the coroutines. -/
theorem latched_callerStep (inv : s.Inv) (present : s.callers[t]? = some ⟨key, pc⟩)
    (stepped : s.callerStep t key pc event = some s') : Latched s.owner s'.owner := by
  unfold callerStep at stepped
  split at stepped
  case h_1 =>
    cases stepped
    exact latched_enterLocked s.owner key
  case h_6 =>
    cases stepped
    exact (quiet_dialed _).latched rfl
  case h_8 =>
    cases stepped
    obtain ⟨_, bare⟩ := inv.sound t _ present
    exact latched_publishStep s t key _ bare.present
  case h_18 =>
    obtain ⟨session, _, rfl⟩ := map_eq_some_iff.mp stepped
    exact latched_installStep s t key _ _ _ session
  case h_20 evicted _ =>
    cases stepped
    cases evicted with
    | none => exact Latched.refl _
    | some old => exact latched_kill _ old
  case h_22 =>
    cases stepped
    exact latched_beginStep s t key _ _ _ _ _
  case h_24 =>
    cases stepped
    exact latched_settleLocked s.owner key _ _
  case h_25 abandoned _ _ =>
    cases stepped
    cases abandoned with
    | none => exact Latched.refl _
    | some old => exact latched_requestClose _ old
  -- the other steps leave the owner alone, ask a connection to close or build a session
  all_goals first
    | cases stepped
      exact Latched.refl _
    | cases stepped
      exact latched_requestClose _ _
    | split at stepped
      · cases stepped
      · cases stepped
        exact latched_newSession _ _ _ _
    | cases stepped

/-- The steps of the environment other than a seal. -/
theorem latched_environmentStep (other : ∀ reason, event ≠ .seal reason)
    (stepped : s.environmentStep event = some s') : Latched s.owner s'.owner := by
  cases environmentStep_turn stepped with
  | call => exact Latched.refl _
  | accept => exact (quiet_dialed _).latched rfl
  | kill | sealKill => exact latched_kill _ _
  | killExit => exact (quiet_killExit _ _).latched rfl
  | taskExit => exact (quiet_taskExit _ _).latched rfl
  | release => exact (quiet_releaseExit _ _).latched (published_blind.releasedLocked _ _)
  | sweep => exact (quiet_releasedLocked _ _).latched (published_blind.releasedLocked _ _)
  | connReleased => exact (quiet_markReleased _ _).latched rfl
  | sealing reason => exact absurd rfl (other reason)
  | sealClose => exact latched_requestClose _ _

/-- Every step that is no seal. -/
theorem latched_step (inv : s.Inv) (other : ∀ reason, event ≠ .seal reason)
    (stepped : s.step event = some s') : Latched s.owner s'.owner := by
  unfold step at stepped
  split at stepped
  · obtain ⟨caller, present, stepped⟩ := bind_eq_some_iff.mp stepped
    exact latched_callerStep inv present stepped
  · exact latched_environmentStep other stepped

/-- What the seals still have to kill and to close. -/
def due (s : OwnerSystem) : List Nat × List Nat := (s.sealedSessions, s.sealedConns)

section

variable (s : OwnerSystem) (t : Nat) (key : Bytes)

/-- Publishing a dialled connection settles nothing. -/
theorem due_publishStep (record conn : Nat) : (s.publishStep t key record conn).due = s.due := by
  unfold publishStep
  split <;> rfl

/-- Installing a session settles nothing. -/
theorem due_installStep (way : Way) (id conn : Nat)
    (session : Session) : (s.installStep t key way id conn session).due = s.due := by
  unfold installStep
  split <;> rfl

/-- Starting its tasks settles nothing. -/
theorem due_beginStep (way : Way) (id conn : Nat)
    (reader writer : Bool) : (s.beginStep t key way id conn reader writer).due = s.due := by
  unfold beginStep
  split <;> rfl

end

/-- No coroutine takes over what a seal has to do. -/
theorem due_callerStep (stepped : s.callerStep t key pc event = some s') : s'.due = s.due := by
  unfold callerStep at stepped
  split at stepped
  case h_8 =>
    cases stepped
    exact due_publishStep s t key _ _
  case h_18 =>
    obtain ⟨session, _, rfl⟩ := map_eq_some_iff.mp stepped
    exact due_installStep s t key _ _ _ session
  case h_22 =>
    cases stepped
    exact due_beginStep s t key _ _ _ _ _
  all_goals first
    | cases stepped
      rfl
    | split at stepped
      · cases stepped
      · cases stepped
        rfl
    | cases stepped

/-- A session that was killed is dead. -/
theorem isDead_kill {o : SessionOwnerState} {id : Nat} (present : id < o.heap.length) :
    (o.kill id).isDead id = true := by
  unfold kill
  rw [List.getElem?_eq_getElem present]
  dsimp only
  split
  · rename_i dead
    simp [isDead, List.getElem?_eq_getElem present, dead]
  · simp [isDead, requestClose, modifySession, List.getElem?_eq_getElem present]

/-- What a seal has to do stays to be done until it is done. -/
structure Progress (s s' : OwnerSystem) : Prop where
  kills : ∀ id ∈ s.sealedSessions, id < s.owner.heap.length →
    s'.owner.isDead id = true ∨ id ∈ s'.sealedSessions
  closes : ∀ conn ∈ s.sealedConns, conn < s.owner.conns.length →
    s'.owner.closeAsked conn = true ∨ conn ∈ s'.sealedConns
  sessions : s'.sealedSessions ⊆ s.sealedSessions
  conns : s'.sealedConns ⊆ s.sealedConns

/-- A step that does nothing for the seals. -/
theorem Progress.of_due (same : s'.due = s.due) : Progress s s' where
  kills := by
    intro id member _
    have sessions : s'.sealedSessions = s.sealedSessions := congrArg Prod.fst same
    exact .inr (sessions ▸ member)
  closes := by
    intro conn member _
    have conns : s'.sealedConns = s.sealedConns := congrArg Prod.snd same
    exact .inr (conns ▸ member)
  sessions := by
    have sessions : s'.sealedSessions = s.sealedSessions := congrArg Prod.fst same
    exact sessions ▸ List.Subset.refl _
  conns := by
    have conns : s'.sealedConns = s.sealedConns := congrArg Prod.snd same
    exact conns ▸ List.Subset.refl _

/-- Every step that is no seal makes progress on the seals or leaves them. -/
theorem progress_step (other : ∀ reason, event ≠ .seal reason) (stepped : s.step event = some s') :
    Progress s s' := by
  unfold step at stepped
  split at stepped
  · obtain ⟨caller, _, stepped⟩ := bind_eq_some_iff.mp stepped
    exact .of_due (due_callerStep stepped)
  cases environmentStep_turn stepped with
  | sealing reason => exact absurd rfl (other reason)
  | sealKill queue =>
    refine
      { kills := ?_
        closes := fun conn member _ => .inr member
        sessions := queue ▸ List.subset_cons_self _ _
        conns := List.Subset.refl _ }
    intro id member present
    rw [queue] at member
    rcases List.mem_cons.mp member with rfl | later
    · exact .inl (isDead_kill present)
    · exact .inr later
  | sealClose queue =>
    refine
      { kills := fun id member _ => .inr member
        closes := ?_
        sessions := List.Subset.refl _
        conns := queue ▸ List.subset_cons_self _ _ }
    intro other member present
    rw [queue] at member
    rcases List.mem_cons.mp member with rfl | later
    · exact .inl (closeAsked_requestClose present)
    · exact .inr later
  | _ => exact .of_due rfl

/-- A seal rewrites nothing but what it publishes and what it has to do. -/
theorem sealStep_owner (s : OwnerSystem) (reason : Error) :
    (s.sealStep reason).owner = { s.owner with
      closed := true
      closeReason := s.owner.closeReason.or (some reason) } := by
  unfold sealStep
  dsimp only
  split
  · rename_i closed
    rw [← closed]
  · rfl

/-- The connections that records know exist. -/
theorem recordConn_lt (reachable : machine.Reachable s) {record conn : Nat}
    (known : s.owner.recordConn record = some conn) : conn < s.owner.conns.length := by
  revert record conn
  obtain ⟨labels, run⟩ := reachable
  refine run.reachableInvariant (fun s => ∀ {record conn : Nat},
    s.owner.recordConn record = some conn → conn < s.owner.conns.length) ?_ ?_
  · rintro _ ⟨options, _, rfl⟩ record conn known
    simp [recordConn] at known
  · intro s event s' reachable before _ stepped record conn known
    by_cases sealing : ∃ reason, event = .seal reason
    · obtain ⟨reason, rfl⟩ := sealing
      cases stepped
      rw [sealStep_owner] at known ⊢
      exact before known
    · have latched := latched_step (inv_reachable reachable) (fun reason same => sealing ⟨reason, same⟩)
        stepped
      rcases latched.recorded record conn known with earlier | ⟨present, _⟩
      · exact Nat.lt_of_lt_of_le (before earlier) latched.conns
      · exact present

end OwnerSystem

end BbtInfra.Rpc
