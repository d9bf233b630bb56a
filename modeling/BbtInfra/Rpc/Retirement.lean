import BbtInfra.Rpc.Establishment

/-!
# Sessions in retirement

A session that was killed or evicted keeps its quota, and a killed one keeps its entry in
`by_identity`, until its connection is physically released. Two consequences: the quota
covers retiring sessions exactly as long as no installation evicts one, and the duplicate
election of `InstallSession` may find a dead entry.
-/
namespace BbtInfra.Rpc

open Lib SessionOwnerState Quiet

namespace SessionOwnerState

variable {o o' : SessionOwnerState}

/-- `InstallSession` would take its eviction branch for this session. -/
def evicts (o : SessionOwnerState) (session : Session) : Prop :=
  o.closed = false ∧ (∃ winner, o.byIdentity.lookup session.peerIdentity = some winner) ∧
    o.prefers session

/-- A quiet step stays quiet over other records and reservations. -/
theorem Quiet.over (quiet : Quiet o o') (records : List Establishing)
    (establishing : Table Bytes Nat) :
    Quiet { o with records, establishing } { o' with records, establishing } :=
  { quiet with
    establishing := rfl
    records := rfl
    endpoints := quiet.endpoints
    holders := quiet.holders
    dead := quiet.dead
    asked := quiet.asked }

/-- Fencing a session kills no other one. -/
theorem fenceLocked_isDead {id other : Nat} (apart : other ≠ id) (conn : Nat) (endpoint : Bytes)
    (winner : Nat) : (o.fenceLocked id conn endpoint winner).isDead other = o.isDead other := by
  have dead : ((o.modifySession id fun s => { s with dead := true }).requestClose conn).isDead
      other = o.isDead other := by
    simp [isDead, requestClose, modifySession, Ne.symm apart]
  unfold fenceLocked
  split <;> exact dead

/-- Quota holders that are all installed are no more than the entries of `by_identity`. -/
theorem quotaHolders_le (installed : o.HoldersInstalled) : o.quotaHolders ≤ o.byIdentity.size :=
  AList.countP_le_size installed

end SessionOwnerState

namespace OwnerSystem

variable {s s' : OwnerSystem} {event : OwnerEvent} {t : Nat} {key : Bytes} {pc : Pc}

/-- What one step does to the owner: a quiet step up to records and reservations, a new
session object, or a session that wins its installation. -/
inductive Effect (s : OwnerSystem) (event : OwnerEvent) : SessionOwnerState → Prop
  | ledger {o' : _} (records : List Establishing) (establishing : Table Bytes Nat)
      (quiet : Quiet { s.owner with records, establishing } o') : Effect s event o'
  | built {mid : _} (quiet : Quiet s.owner mid) (conn : Nat) (peer : Bytes) (outbound : Bool) :
      Effect s event (newSession mid conn peer outbound)
  | adopted {o' : _} (t : Nat) (key : Bytes) (way : Way) (id conn : Nat) (session : Session)
      (evicted : Option Nat) (asked : event = .install t)
      (present : s.callers[t]? = some ⟨key, .installing way id conn⟩)
      (found : s.owner.heap[id]? = some session)
      (won : s.owner.installLocked id session key way.record = (o', .won evicted)) :
      Effect s event o'

/-- A quiet step has a quiet effect. -/
theorem Effect.of_quiet {o' : SessionOwnerState} (quiet : Quiet s.owner o') : Effect s event o' :=
  .ledger s.owner.records s.owner.establishing quiet

/-- The effect of the first critical section of `GetSession`. -/
theorem enterStep_effect (s : OwnerSystem) (t : Nat) (key : Bytes) :
    Effect s event (s.enterStep t key).owner := by
  have outcome := enterLocked_outcome s.owner key
  unfold enterStep
  revert outcome
  generalize s.owner.enterLocked key = entered
  intro outcome
  cases outcome with
  | refused quiet error => exact .of_quiet quiet
  | live quiet session => exact .of_quiet quiet
  | waiter quiet record joined => exact .of_quiet quiet
  | establisher quiet absent room => exact .ledger _ _ (quiet.over _ _)

/-- The effect of the critical section after the dial. -/
theorem publishStep_effect (s : OwnerSystem) (t : Nat) (key : Bytes) (record conn : Nat) :
    Effect s event (s.publishStep t key record conn).owner := by
  unfold publishStep publishConn
  dsimp only
  split
  · rename_i published
    split at published
    · cases published
    · cases published
      exact .ledger _ s.owner.establishing (refl _)
  · rename_i published
    split at published
    · cases published
      exact .ledger _ s.owner.establishing (quiet_requestClose _ conn)
    · cases published

/-- The effect of the critical section of `InstallSession`. -/
theorem installStep_effect {way : Way} {id conn : Nat} {session : Session}
    (asked : event = .install t) (present : s.callers[t]? = some ⟨key, .installing way id conn⟩)
    (found : s.owner.heap[id]? = some session) :
    Effect s event (s.installStep t key way id conn session).owner := by
  have outcome := installLocked_outcome s.owner id session key way.record
  unfold installStep
  cases result : s.owner.installLocked id session key way.record with
  | mk owner installed =>
    rw [result] at outcome
    cases installed with
    | refused error =>
      have same : owner = s.owner := by
        cases outcome
        rfl
      subst same
      exact .of_quiet (Way.quiet_refuse s.owner way conn)
    | fenced winner =>
      cases outcome with
      | fenced _ opened mapped loses =>
        exact .of_quiet (quiet_fenceLocked _ id _ key (AList.mem_values_of_lookup mapped))
    | won evicted => exact .adopted t key way id conn session evicted asked present found result

/-- The effect of the registration of reader and writer. -/
theorem beginStep_effect (s : OwnerSystem) (t : Nat) (key : Bytes) (way : Way) (id conn : Nat)
    (reader writer : Bool) : Effect s event (s.beginStep t key way id conn reader writer).owner := by
  have quiet := quiet_startTasks s.owner id reader writer
  unfold beginStep
  cases result : s.owner.startTasks id reader writer with
  | mk owner started =>
    rw [result] at quiet
    cases started with
    | ok session => exact .of_quiet quiet
    | error error => exact .of_quiet (quiet.trans (Way.quiet_refuse owner way conn))

/-- The effect of the last critical section of `GetSession`. -/
theorem settleStep_effect (s : OwnerSystem) (t : Nat) (key : Bytes) (record : Nat)
    (conn : Option Nat) (made : Except Error Nat) :
    Effect s event (s.settleStep t key record conn made).owner := by
  unfold settleStep settleLocked
  dsimp only
  split
  · exact .ledger _ _ (refl _)
  · exact .ledger _ s.owner.establishing (refl _)

/-- The effect of a step of one coroutine. -/
theorem callerStep_effect (mine : caller? event = some t)
    (present : s.callers[t]? = some ⟨key, pc⟩)
    (stepped : s.callerStep t key pc event = some s') : Effect s event s'.owner := by
  unfold callerStep at stepped
  split at stepped
  case h_1 =>
    cases stepped
    exact enterStep_effect s t key
  case h_6 =>
    cases stepped
    exact .of_quiet (quiet_dialed _)
  case h_8 =>
    cases stepped
    exact publishStep_effect s t key _ _
  case h_18 =>
    obtain ⟨session, found, rfl⟩ := Option.map_eq_some_iff.mp stepped
    exact installStep_effect (congrArg OwnerEvent.install (Option.some.inj mine)) present found
  case h_20 evicted _ =>
    cases stepped
    cases evicted with
    | none => exact .of_quiet (refl _)
    | some old => exact .of_quiet (quiet_kill _ old)
  case h_22 =>
    cases stepped
    exact beginStep_effect s t key _ _ _ _ _
  case h_24 =>
    cases stepped
    exact settleStep_effect s t key _ _ _
  case h_25 abandoned _ _ =>
    cases stepped
    cases abandoned with
    | none => exact .of_quiet (refl _)
    | some old => exact .of_quiet (quiet_requestClose _ old)
  -- the other steps are quiet or build a session
  all_goals first
    | cases stepped
      exact .of_quiet (refl _)
    | cases stepped
      exact .of_quiet (quiet_requestClose _ _)
    | split at stepped
      · cases stepped
      · cases stepped
        exact .built (refl _) _ _ _
    | cases stepped

/-- The effect of a step of the environment. -/
theorem environmentStep_effect (stepped : s.environmentStep event = some s') :
    Effect s event s'.owner := by
  cases environmentStep_turn stepped with
  | call => exact .of_quiet (refl _)
  | accept => exact .of_quiet (quiet_dialed _)
  | kill | sealKill => exact .of_quiet (quiet_kill _ _)
  | killExit => exact .of_quiet (quiet_killExit _ _)
  | taskExit => exact .of_quiet (quiet_taskExit _ _)
  | release => exact .of_quiet (quiet_releaseExit _ _)
  | sweep => exact .of_quiet (quiet_releasedLocked _ _)
  | connReleased => exact .of_quiet (quiet_markReleased _ _)
  | sealing =>
    unfold sealStep
    dsimp only
    split
    · exact .of_quiet (quiet_sealed s.owner s.owner.closed _)
    · exact .of_quiet (quiet_sealed s.owner true _)
  | sealClose => exact .of_quiet (quiet_requestClose _ _)

/-- Every step has one of the three effects. -/
theorem step_effect (stepped : s.step event = some s') : Effect s event s'.owner := by
  unfold step at stepped
  split at stepped
  · rename_i t mine
    obtain ⟨caller, present, stepped⟩ := Option.bind_eq_some_iff.mp stepped
    exact callerStep_effect mine present stepped
  · exact environmentStep_effect stepped

/-- No installation takes the eviction branch in this step. -/
def NoEviction (s : OwnerSystem) (event : OwnerEvent) : Prop :=
  ∀ (t : Nat) (key : Bytes) (way : Way) (id conn : Nat) (session : Session), event = .install t →
    s.callers[t]? = some ⟨key, .installing way id conn⟩ → s.owner.heap[id]? = some session →
    ¬ s.owner.evicts session

/-- Adding a session under a new peer keeps all quota holders installed. -/
theorem holders_added {o : SessionOwnerState} (installed : o.HoldersInstalled) {peer : Bytes}
    (absent : o.byIdentity.lookup peer = none) (id : Nat) (endpoint : Bytes) (record : Option Nat) :
    (((o.convertReservation record).mapIdentity peer id).adoptLocked id endpoint
      none).HoldersInstalled := by
  have same : (o.convertReservation record).heap = o.heap ∧
      (o.convertReservation record).byIdentity = o.byIdentity := by
    cases record <;> exact ⟨rfl, rfl⟩
  intro other session found held
  refine mapIdentity_values.mpr ?_
  by_cases own : other = id
  · exact .inl own
  · have before : o.heap[other]? = some session := by
      simpa [adoptLocked, mapIdentity, modifySession, same.1, List.getElem?_modify, Ne.symm own]
        using found
    obtain ⟨key, entry⟩ := AList.mem_values_iff.mp (installed other session before held)
    refine .inr ⟨key, ?_, same.2 ▸ entry⟩
    rintro rfl
    rw [absent] at entry
    cases entry

/-- A step that evicts nobody keeps all quota holders installed. -/
theorem holders_step (installed : s.owner.HoldersInstalled) (calm : NoEviction s event)
    (stepped : s.step event = some s') : s'.owner.HoldersInstalled := by
  have effect := step_effect stepped
  revert effect
  generalize s'.owner = after
  intro effect
  cases effect with
  | ledger records establishing quiet => exact quiet.holders installed
  | built quiet conn peer outbound =>
    intro id session found held
    rcases List.getElem?_push_cases found with ⟨_, rfl⟩ | found
    · cases held
    · exact quiet.holders installed id session found held
  | adopted t key way id conn session evicted asked present found won =>
    have outcome := installLocked_outcome s.owner id session key way.record
    rw [won] at outcome
    cases outcome with
    | evicted winner opened mapped wins =>
      exact absurd ⟨opened, ⟨winner, mapped⟩, wins⟩
        (calm t key way id conn session asked present found)
    | added opened absent room => exact holders_added installed absent id key way.record

/-- As long as no installation evicts a session, quota holders and reservations stay within
`MaxSessions`. -/
theorem quota_covers_retiring {labels : List OwnerEvent}
    (run : machine.GuardedRun NoEviction labels s) :
    s.owner.quotaHolders + s.owner.reservedCount ≤ s.owner.options.maxSessions := by
  have installed : s.owner.HoldersInstalled := by
    refine run.invariant (fun s => s.owner.HoldersInstalled) ?_ ?_
    · rintro _ ⟨options, _, rfl⟩ id session found
      simp at found
    · exact fun _ _ _ before calm stepped => holders_step before calm stepped
  have ledger : s.owner.byIdentity.size + s.owner.reservedCount ≤ s.owner.options.maxSessions :=
    (inv_reachable run.reachable).ledger
  have holders := quotaHolders_le installed
  omega

/-- An event that is not an installation evicts nobody. -/
theorem noEviction_of_ne (other : ∀ t, event ≠ .install t) : NoEviction s event :=
  fun t _ _ _ _ _ asked => absurd asked (other t)

/-- A run that accepts one link and installs it within a quota of one. -/
theorem quota_covers_retiring_accepted :
    ∃ s, machine.GuardedRun NoEviction [.accept, .handshake 0 (.ok [0x61]), .install 0] s ∧
      s.owner.quotaHolders = 1 ∧
      s.owner.quotaHolders + s.owner.reservedCount ≤ s.owner.options.maxSessions := by
  obtain ⟨s, run, empty, s', stepped, held⟩ :
      ∃ s, machine.GuardedRun NoEviction ([] ++ [.accept] ++ [.handshake 0 (.ok [0x61])]) s ∧ s.owner.byIdentity = ∅ ∧
        ∃ s', machine.step s (.install 0) = some s' ∧ s'.owner.quotaHolders = 1 :=
    ⟨_, .step (.step (.start (fresh_start 0x62 1 (by decide) (by decide) (by decide)))
      (noEviction_of_ne nofun) rfl) (noEviction_of_ne nofun) rfl, rfl, _, rfl, rfl⟩
  have calm : NoEviction s (.install 0) := by
    rintro t key way id conn session _ _ _ ⟨_, ⟨winner, mapped⟩, _⟩
    rw [empty] at mapped
    cases mapped
  exact ⟨s', run.step calm stepped, held, quota_covers_retiring (run.step calm stepped)⟩

/-- Two links of one peer whose second evicts the first: both hold quota of a quota of one. -/
theorem evicted_exceeds_quota : ¬ ∀ s, machine.Reachable s →
    s.owner.quotaHolders + s.owner.reservedCount ≤ s.owner.options.maxSessions := by
  intro every
  obtain ⟨s, reachable, held, limit⟩ : ∃ s, machine.Reachable s ∧ s.owner.quotaHolders = 2 ∧
      s.owner.options.maxSessions = 1 :=
    ⟨_, Machine.reachable_of_exec (fresh_start 0x62 1 (by decide) (by decide) (by decide))
      (rfl : machine.exec (fresh [0x62] 1)
        [.accept, .accept, .handshake 0 (.ok [0x61]), .handshake 1 (.ok [0x61]), .install 0,
          .install 1] = some _), rfl, rfl⟩
  have bound := every s reachable
  omega

/-- A new link is fenced in favour of a live session, whenever it is fenced, exactly when the
owner is closed, the new link wins its direction, or the entry of its peer is alive. -/
theorem fenced_winner_alive_iff (reachable : machine.Reachable s) {way : Way} {id conn : Nat}
    {session : Session} (present : s.callers[t]? = some ⟨key, .installing way id conn⟩)
    (found : s.owner.heap[id]? = some session) :
    (∀ o' winner, s.owner.installLocked id session key way.record = (o', .fenced winner) →
      o'.isDead winner = false) ↔
    (s.owner.closed = true ∨ s.owner.prefers session ∨
      ∀ winner, s.owner.byIdentity.lookup session.peerIdentity = some winner →
        s.owner.isDead winner = false) := by
  have unpublished := ((inv_reachable reachable).sound t _ present).2
  have survives : ∀ winner, s.owner.byIdentity.lookup session.peerIdentity = some winner →
      (s.owner.fenceLocked id session.conn key winner).isDead winner = s.owner.isDead winner := by
    intro winner mapped
    refine fenceLocked_isDead ?_ _ _ _
    rintro rfl
    exact unpublished.absent (AList.mem_values_of_lookup mapped)
  have outcome := installLocked_outcome s.owner id session key way.record
  constructor
  · intro alive
    by_contra none
    obtain ⟨opened, loses, dead⟩ : s.owner.closed = false ∧ ¬ s.owner.prefers session ∧
        ∃ winner, s.owner.byIdentity.lookup session.peerIdentity = some winner ∧
          s.owner.isDead winner = true := by
      simpa using none
    obtain ⟨winner, mapped, dead⟩ := dead
    cases result : s.owner.installLocked id session key way.record with
    | mk owner installed =>
      rw [result] at outcome
      cases outcome with
      | refused error guard =>
        rcases guard with closed | ⟨absent, _⟩
        · exact Bool.false_ne_true (opened.symm.trans closed)
        · rw [absent] at mapped
          cases mapped
      | fenced other _ entry _ =>
        have still := alive _ other result
        rw [survives other entry] at still
        rw [entry] at mapped
        cases mapped
        exact Bool.false_ne_true (still.symm.trans dead)
      | evicted other _ _ wins => exact loses wins
      | added _ absent _ =>
        rw [absent] at mapped
        cases mapped
  · intro condition o' winner result
    rw [result] at outcome
    cases outcome with
    | fenced _ opened mapped loses =>
      rw [survives winner mapped]
      rcases condition with closed | wins | alive
      · exact absurd closed (by simp [opened])
      · exact absurd wins loses
      · exact alive winner mapped

/-- The owner "b" dials "a", installs the link, loses it without its release, and dials again. -/
def redial : List OwnerEvent :=
  [.call [0x65], .enter 0, .dial 0 (.ok ()), .publish 0, .gate 0 (.ok ()),
    .handshake 0 (.ok [0x61]), .install 0, .evict 0, .begin 0 true true, .settle 0, .abandon 0,
    .kill 0, .call [0x65], .enter 1, .dial 1 (.ok ()), .publish 1, .gate 1 (.ok ()),
    .handshake 1 (.ok [0x61])]

/-- The session object of the redial. -/
def redialed : Session := { conn := 1, peerIdentity := [0x61], outbound := true }

/-- The second handshake of the redial reaches its installation, where a dead entry is. -/
theorem redial_installing : ∃ s, machine.Reachable s ∧
    s.callers[1]? = some ⟨[0x65], .installing (.outbound 1) 1 1⟩ ∧
    s.owner.heap[1]? = some redialed ∧ s.owner.closed = false ∧ ¬ s.owner.prefers redialed ∧
    s.owner.byIdentity.lookup [0x61] = some 0 ∧ s.owner.isDead 0 = true ∧
    ∃ o', s.owner.installLocked 1 redialed [0x65] (some 1) = (o', .fenced 0) ∧
      o'.isDead 0 = true :=
  ⟨_, Machine.reachable_of_exec (fresh_start 0x62 2 (by decide) (by decide) (by decide))
    (rfl : machine.exec (fresh [0x62] 2) redial = some _), rfl, rfl, rfl,
    (show ¬ decide (([0x62] : Bytes) < [0x61]) = true by decide), rfl, rfl, _, rfl, rfl⟩

/-- At the end of the redial the dead entry decides the election. -/
theorem fenced_winner_alive_iff_redial : ∃ s, machine.Reachable s ∧
    ¬ ∀ o' winner, s.owner.installLocked 1 redialed [0x65] (some 1) = (o', .fenced winner) →
      o'.isDead winner = false := by
  obtain ⟨s, reachable, present, found, opened, loses, mapped, dead, _⟩ := redial_installing
  refine ⟨s, reachable, fun alive => ?_⟩
  rcases (fenced_winner_alive_iff reachable present found).mp alive with closed | wins | entry
  · exact Bool.false_ne_true (opened.symm.trans closed)
  · exact loses wins
  · exact Bool.false_ne_true ((entry 0 mapped).symm.trans dead)

/-- The redialled link is fenced in favour of a session that is dead. -/
theorem dead_winner_fences : ¬ ∀ s, machine.Reachable s →
    ∀ (t : Nat) (key : Bytes) (way : Way) (id conn : Nat) (session : Session)
      (o' : SessionOwnerState) (winner : Nat),
      s.callers[t]? = some ⟨key, .installing way id conn⟩ → s.owner.heap[id]? = some session →
      s.owner.installLocked id session key way.record = (o', .fenced winner) →
      o'.isDead winner = false := by
  intro every
  obtain ⟨s, reachable, present, found, _, _, _, _, o', fenced, dead⟩ := redial_installing
  have alive := every s reachable 1 _ _ 1 1 redialed o' 0 present found fenced
  exact Bool.false_ne_true (alive.symm.trans dead)

end OwnerSystem

end BbtInfra.Rpc
