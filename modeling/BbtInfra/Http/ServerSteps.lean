import BbtInfra.Http.ServerTasks

/-!
# Steps of the HTTP server

The accept task with the `Submit` of each session, and the calls with the `Submit` of the accept
task. With the tasks of the sessions these are all the steps of a server, and each of them is some
events of its service.
-/
namespace BbtInfra.Http

open Lib ServerSession TaskLease AcceptPc Client List Option

namespace ServerState

variable {o : ServerConfig} {s next : ServerState} {k : Nat}

/-- A server whose accept task exists was started. -/
theorem Sound.started (sound : Sound o s) (active : s.accept.active = true) : s.started = true := by
  by_contra fresh
  obtain ⟨-, absent, -⟩ := sound.fresh (by simpa using fresh)
  rw [absent] at active
  cases active

/-- The accept task rewrites the session it is busy with, if any, and goes on elsewhere. -/
theorem sound_accept (sound : Sound o s) (f : ServerSession → ServerSession) (task : AcceptPc)
    (tasks : Nat) (failNextTask : Bool) (before : s.accept.active = true)
    (active : task.active = true)
    (fits : ∀ session, s.heap[k]? = some session → SessionFits (s.accept.submitting k) session →
      SessionFits (task.submitting k) (f session))
    (others : ∀ other, other ≠ k → task.submitting other = s.accept.submitting other)
    (thrown : ∀ other, task.thrown = some other → other = k ∧
      ∀ session, s.heap[k]? = some session → (f session).lease.counts = false)
    (room : task.roomy = true → s.sessions.length < o.maxConnections)
    (named : ∀ other, task.named = some other → other < s.heap.length) :
    Sound o { s.put k f with accept := task, tasks, failNextTask } := by
  refine ⟨?_, sound.once, ?_, ?_, ?_, room, ?_⟩
  · intro pc starts
    have lease := sound.front pc starts
    rw [before] at lease
    rw [active]
    exact lease
  · intro fresh
    have started := sound.started before
    rw [show s.started = false from fresh] at started
    cases started
  · intro other session found
    rcases getElem?_modify_cases found with ⟨rfl, old, here, rfl⟩ | ⟨away, here⟩
    · exact fits old here (sound.session _ old here)
    · rw [others other away]
      exact sound.session other session here
  · intro other session marked found
    obtain ⟨rfl, uncounted⟩ := thrown other marked
    rcases getElem?_modify_cases found with ⟨-, old, here, rfl⟩ | ⟨away, -⟩
    · exact uncounted old here
    · exact absurd rfl away
  · intro other name
    rw [put, length_modify]
    exact named other name

variable {c : Nat} {session : ServerSession} {pc : SubmitPc} {f : ServerSession → ServerSession}
  {old : ServerCallPc}

/-- The lease of a session that is there. -/
theorem lease_found (found : s.heap[k]? = some session) : s.lease (some k) = session.lease := by
  simp [lease, found]

/-- `Submit` goes on, or has ended, with its session rewritten. -/
theorem follows_submit (sound : Sound o s) (at' : s.accept = .submit k pc)
    (found : s.heap[k]? = some session)
    (f : ServerSession → ServerSession) (task : AcceptPc) {tasks : Nat} (failNextTask : Bool)
    (after : Option SubmitPc) (active : task.active = true) (submits : task.submitting k = after)
    (names : ∀ other, task.named = some other → other = k)
    (apart : ∀ other, other ≠ k → task.submitting other = none)
    (thrown : task.thrown ≠ none → (f session).lease.counts = false)
    (roomless : task.roomy = false)
    (fits : SessionFits (some pc) session → SessionFits after (f session))
    (events : ∃ events, s.service.exec o.limits events =
      some { s.service with
        tasks
        clients := (s.heap.modify k f).map client }) :
    Follows o s { s.put k f with accept := task, tasks, failNextTask } := by
  have here : ∀ other, s.heap[k]? = some other → other = session := by
    intro other found'
    rw [found] at found'
    exact (Option.some.inj found').symm
  have inside : k < s.heap.length := (List.getElem?_eq_some_iff.mp found).1
  refine ⟨sound_accept sound f task tasks failNextTask (by rw [at']; rfl) active ?_ ?_ ?_ ?_ ?_,
    events⟩
  · intro other found' before
    rw [here other found'] at before ⊢
    rw [at', submitting, if_pos rfl] at before
    rw [submits]
    exact fits before
  · intro other away
    rw [apart other away, at', submitting, if_neg (Ne.symm away)]
  · intro other marked
    have named : task.named = some other := by
      cases task <;> simp_all [AcceptPc.thrown, AcceptPc.named]
    refine ⟨names other named, ?_⟩
    intro session' found'
    rw [here session' found']
    exact thrown (by rw [marked]; simp)
  · intro room
    rw [roomless] at room
    cases room
  · intro other named
    rw [names other named]
    exact inside

section

variable (found : s.heap[k]? = some session)

include found

/-- The start of a task that is not done. -/
theorem start_event (open' : s.stopping = false) (uncounted : session.lease.counts = false)
    (early : session.taskDone = false)
    (follows : (f session).client = Client.start session.client) :
    ∃ events, s.service.exec o.limits events =
      some { s.service with
        tasks := s.tasks + 1
        clients := (s.heap.modify k f).map client } := by
  have able : s.service.client k (fun c => !c.task && !c.done) = true := by
    rw [service_client found]
    simp [client, uncounted, early]
  have clients : (s.heap.modify k f).map client =
      (s.heap.map client).modify k start := by
    apply clients_modify
    intro other found'
    cases found.symm.trans found'
    exact follows
  refine one_event (.start k) ?_
  rw [Service.step, if_pos ⟨open', able⟩, clients]
  rfl

/-- The end of a task that holds no request, with the lease of its session. -/
theorem finish_events (counts : session.lease.counts = true) (idle : session.authorized = false)
    (follows : (f session).client = Client.finish session.client) :
    ∃ events, s.service.exec o.limits events =
      some { s.service with
        tasks := s.tasks - 1
        clients := (s.heap.modify k f).map client } := by
  have clients : (s.heap.modify k f).map client =
      (s.heap.map client).modify k finish := by
    apply clients_modify
    intro other found'
    cases found.symm.trans found'
    exact follows
  refine one_event (.finish k) ?_
  rw [finish_event found counts idle, clients]
  rfl

/-- A session that gets no task. -/
theorem done_event (uncounted : session.lease.counts = false)
    (follows : (f session).client = Client.skip session.client) :
    ∃ events, s.service.exec o.limits events =
      some { s.service with
        tasks := s.tasks
        clients := (s.heap.modify k f).map client } := by
  have able : s.service.client k (fun c => !c.task) = true := by
    rw [service_client found]
    simp [client, uncounted]
  have clients : (s.heap.modify k f).map client =
      (s.heap.map client).modify k skip := by
    apply clients_modify
    intro other found'
    cases found.symm.trans found'
    exact follows
  refine one_event (.done k) ?_
  rw [Service.step, if_pos able, clients]
  rfl

/-- A rewrite of a session that is no event. -/
theorem same_event (same : (f session).client = session.client) :
    ∃ events, s.service.exec o.limits events =
      some { s.service with
        tasks := s.tasks
        clients := (s.heap.modify k f).map client } := by
  have clients : (s.heap.modify k f).map client =
      s.heap.map client := by
    apply clients_same
    intro other found'
    cases found.symm.trans found'
    exact same
  rw [clients]
  exact no_event rfl

end

/-- Where the accept task is behind a step of `Submit`. -/
def afterSubmit (k : Nat) : SubmitPc ⊕ SubmitOutcome → AcceptPc
  | .inl pc => .submit k pc
  | .inr .registered => .gate
  | .inr .refused => .refuse k
  | .inr .threw => .caught k

/-- The facts about it that do not depend on the step. -/
theorem afterSubmit_active (k : Nat) (result : SubmitPc ⊕ SubmitOutcome) :
    (afterSubmit k result).active = true ∧ (afterSubmit k result).roomy = false ∧
      (∀ other, (afterSubmit k result).named = some other → other = k) ∧
      ∀ other, other ≠ k → (afterSubmit k result).submitting other = none := by
  match result with
  | .inl pc =>
    refine ⟨rfl, rfl, fun other name => (Option.some.inj name).symm, fun other away => ?_⟩
    rw [afterSubmit, submitting, if_neg (Ne.symm away)]
  | .inr .registered =>
    exact ⟨rfl, rfl, by simp [afterSubmit, named], fun _ _ => rfl⟩
  | .inr .refused => exact ⟨rfl, rfl, fun _ name => (Option.some.inj name).symm, fun _ _ => rfl⟩
  | .inr .threw => exact ⟨rfl, rfl, fun _ name => (Option.some.inj name).symm, fun _ _ => rfl⟩

/-- Behind a `Submit` no session is in it. -/
theorem submitting_outcome (k : Nat) (outcome : SubmitOutcome) :
    (afterSubmit k (.inr outcome)).submitting k = none := by
  cases outcome <;> rfl

/-- A step of the `Submit` of a session. -/
theorem submitSession_follows (sound : Sound o s) (at' : s.accept = .submit k pc)
    {move : SubmitMove} {result : SubmitPc ⊕ SubmitOutcome}
    (stepped : s.submit (some k) pc move = some (next, result)) :
    Follows o s { next with accept := afterSubmit k result } := by
  have inside : k < s.heap.length := sound.named k (by rw [at']; rfl)
  have found : s.heap[k]? = some s.heap[k] := getElem?_eq_getElem inside
  obtain ⟨active, roomless, names, apart⟩ := afterSubmit_active k result
  have fits := sound.session k _ found
  rw [at', submitting, if_pos rfl] at fits
  generalize s.heap[k] = session at found fits
  have place : ∀ f (tasks : Nat) (failNextTask : Bool) after,
      (afterSubmit k result).submitting k = after →
      ((afterSubmit k result).thrown ≠ none → (f session).lease.counts = false) →
      (SessionFits (some pc) session → SessionFits after (f session)) →
      (∃ events, s.service.exec o.limits events = some { s.service with
        tasks
        clients := (s.heap.modify k f).map client }) →
      Follows o s { s.put k f with accept := afterSubmit k result, tasks, failNextTask } :=
    fun f tasks failNextTask after submits thrown fits events =>
      follows_submit sound at' found f _ failNextTask after active submits names apart thrown
        roomless fits events
  unfold submit at stepped
  split at stepped
  · -- the lease is allocated, or there is no memory for it
    obtain ⟨lease, idle⟩ := fits.lease
    split_ifs at stepped with room
    · cases stepped
      refine place _ s.tasks s.failNextTask (some .count) (if_pos rfl) (by simp [afterSubmit,
        AcceptPc.thrown]) ?_ (same_event found ?_)
      · intro fits
        exact ⟨⟨rfl, idle⟩, fits.holding, fits.serving, fun _ => fits.early rfl⟩
      · simp [client, lease, TaskLease.counts]
    · cases stepped
      have same := place id s.tasks s.failNextTask none rfl
        (by simp [lease, TaskLease.counts]) ?_ (same_event found rfl)
      · rwa [put_id] at same
      · intro fits
        exact ⟨by simp [LeaseFits, lease, idle], fits.holding, fits.serving, by simp⟩
  · obtain ⟨lease, idle⟩ := fits.lease
    have early := fits.early rfl
    have uncounted : session.lease.counts = false := by simp [lease, TaskLease.counts]
    -- both refusals leave an uncounted lease behind and a session without a task
    have refused : ∀ failNextTask, result = .inr .refused → Follows o s
        { (s.setLease {} (some k)).markDone (some k) with
          accept := afterSubmit k result, failNextTask } := by
      intro failNextTask ended
      rw [setLease, markDone, put_put]
      refine place _ s.tasks failNextTask none (by rw [ended]; rfl)
        (fun _ => rfl) ?_ (done_event found uncounted ?_)
      · intro fits
        exact ⟨⟨rfl, idle.symm, by simp [idle]⟩, fits.holding, fits.serving, by simp⟩
      · simp [client, skip, uncounted]
        rfl
    split_ifs at stepped with sealed injected
    · cases stepped
      exact refused s.failNextTask rfl
    · cases stepped
      exact refused false rfl
    · cases stepped
      refine place _ _ s.failNextTask (some .register) (if_pos rfl) (by simp [afterSubmit,
        AcceptPc.thrown]) ?_ (start_event found (by simpa using sealed) uncounted early ?_)
      · intro fits
        exact ⟨⟨rfl, idle⟩, fits.holding, fits.serving, fun _ => fits.early rfl⟩
      · simp [client, start, TaskLease.counts, live]
  · obtain ⟨lease, idle⟩ := fits.lease
    split_ifs at stepped with registered
    · cases stepped
      rw [lease_found found, registerTask]
      refine place _ s.tasks s.failNextTask (some (.drop .registered)) (if_pos rfl)
        (by simp [afterSubmit, AcceptPc.thrown]) ?_ (same_event found ?_)
      · intro fits
        have holds := not_authorized fits (holding_of_idle idle)
        exact ⟨⟨by simp [lease], by simp [lease], rfl, fun _ => rfl⟩, by simp [holds],
          by simp [ServePc.serving], by simp [SubmitPc.early]⟩
      · simp [client, lease, TaskLease.counts, live]
    · cases stepped
      have same := place id s.tasks s.failNextTask (some (.drop _)) (if_pos rfl)
        (by simp [afterSubmit, AcceptPc.thrown]) ?_ (same_event found rfl)
      · rwa [put_id] at same
      · intro fits
        exact ⟨⟨by simp [lease], by simp [lease], by simp [lease, idle], by simp [idle]⟩,
          fits.holding, fits.serving, by simp [SubmitPc.early]⟩
  · -- the local lease is dropped: the callback has it, or nobody does
    obtain ⟨counted, held, captured, registered⟩ := fits.lease
    cases stepped
    rw [lease_found found, dropLease]
    by_cases active : session.task.active = true
    · have left : ({ session.lease with held := false } : TaskLease).live = true := by
        simp [live, captured, active]
      rw [left, Bool.not_true, Bool.and_false, if_neg (by simp), setLease]
      refine place _ s.tasks s.failNextTask none (by rw [registered active]; rfl) ?_ ?_
        (same_event found ?_)
      · rw [registered active]
        simp [afterSubmit, AcceptPc.thrown]
      · intro fits
        exact ⟨⟨rfl, captured, fun _ => counted⟩, fits.holding, fits.serving, by simp⟩
      · simp [client, TaskLease.counts, live, counted, captured, active]
    · have idle : session.task.active = false := by simpa using active
      have left : ({ session.lease with held := false } : TaskLease).live = false := by
        simp [live, captured, idle]
      have holds := not_authorized fits (holding_of_idle idle)
      have counts : session.lease.counts = true := by
        simp [TaskLease.counts, live, counted, held]
      rw [left, Bool.not_false, Bool.and_true, if_pos counted, setLease, markDone, put_put]
      refine place _ _ s.failNextTask none (submitting_outcome k _) ?_ ?_
        (finish_events found counts holds ?_)
      · intro _
        exact Bool.and_eq_false_iff.mpr (.inr left)
      · intro fits
        exact ⟨⟨rfl, captured, by simp [idle]⟩, fits.holding, fits.serving, by simp⟩
      · have uncounted : ({ session.lease with held := false } : TaskLease).counts = false :=
          Bool.and_eq_false_iff.mpr (.inr left)
        simp [client, finish, uncounted]
  · cases stepped

/-- One step behind another. -/
theorem Follows.trans {mid : ServerState} (first : Follows o s mid) (second : Follows o mid next) :
    Follows o s next := by
  refine ⟨second.sound, ?_⟩
  obtain ⟨events, executed⟩ := first.events
  obtain ⟨later, executed'⟩ := second.events
  exact ⟨events ++ later, Service.exec_append executed executed'⟩

/-- The accept task goes on elsewhere and is busy with no session before or behind. -/
theorem follows_accept (sound : Sound o s) (task : AcceptPc) (before : s.accept.active = true)
    (active : task.active = true) (free : ∀ k, s.accept.submitting k = none)
    (plain : task.named = none)
    (room : task.roomy = true → s.sessions.length < o.maxConnections) :
    Follows o s { s with accept := task } := by
  have submits : ∀ k, task.submitting k = none := by
    intro k
    cases task <;> simp_all [submitting, AcceptPc.named]
  have throws : task.thrown = none := by
    cases task <;> simp_all [thrown, AcceptPc.named]
  refine ⟨?_, no_event rfl⟩
  have same := sound_accept (k := 0) sound id task s.tasks s.failNextTask before active ?_ ?_ ?_
    room ?_
  · rwa [put_id] at same
  · intro session _ fits
    rw [free] at fits
    rw [submits]
    exact fits
  · intro other _
    rw [submits, free]
  · intro other marked
    rw [throws] at marked
    cases marked
  · intro other named
    rw [plain] at named
    cases named

/-- A removal of sessions is one of clients. -/
theorem sweep_follows (sound : Sound o s) : Follows o s s.sweep := by
  refine ⟨sound.calm ⟨rfl, rfl, rfl, rfl, length_filter_le _ _, rfl, ?_⟩, ?_⟩
  · intro k session found
    exact ⟨session, found, fun _ fits => fits, fun uncounted => uncounted⟩
  · refine one_event .sweep ?_
    rw [Service.step]
    have same : ∀ k, s.service.client k past = s.swept k := by
      intro k
      simp only [Service.client, service, swept, getElem?_map, Option.any_map]
      rfl
    simp only [same]
    rfl

/-- The critical section of `Stop`. -/
theorem seal_follows (sound : Sound o s) (force : Bool) (reason : Option Error) :
    Follows o s (s.seal' force reason) := by
  have unseen : ∀ closing session, (sealSession closing session).client = session.client :=
    fun _ _ => rfl
  refine ⟨sound.calm ⟨rfl, rfl, rfl, rfl, Nat.le_refl _, length_mapIdx, ?_⟩, ?_⟩
  · intro k session' found
    simp only [seal', getElem?_mapIdx, map_eq_some_iff] at found
    obtain ⟨session, before, rfl⟩ := found
    refine ⟨session, before, fun pc fits => ?_, fun uncounted => ?_⟩
    · split_ifs
      · exact ⟨fits.lease, fits.holding, fits.serving, fits.early⟩
      · exact fits
    · split_ifs <;> exact uncounted
  · refine one_event .seal' ?_
    rw [Service.step]
    have same : (s.heap.mapIdx fun k session =>
        if k ∈ s.sessions then sealSession (s.closing || force) session else session).map
        client = s.heap.map client := by
      apply ext_getElem?
      intro k
      rw [getElem?_map, getElem?_mapIdx, getElem?_map]
      cases s.heap[k]? with
      | none => rfl
      | some session =>
        simp only [map_some]
        split_ifs
        · rw [unseen]
        · rfl
    simp only [seal', service, same]

/-- A write to a session that the ledger does not read. -/
theorem follows_closeRequested (sound : Sound o s) (k : Nat) :
    Follows o s (s.put k fun session => { session with closeRequested := true }) := by
  cases found : s.heap[k]? with
  | none =>
    have same : s.heap.modify k (fun session => { session with closeRequested := true }) = s.heap :=
      modify_eq_self (getElem?_eq_none_iff.mp found)
    rw [put, same]
    exact ⟨sound, no_event rfl⟩
  | some session =>
    exact follows_quiet sound found _
      (fun _ fits => ⟨fits.lease, fits.holding, fits.serving, fits.early⟩) rfl

/-- There is a `Start` in its `Submit`, or there is none. -/
theorem exists_starting (s : ServerState) : ∃ pc, s.Starting pc := by
  by_cases starts : ∃ (c : Nat) (pc : SubmitPc), s.calls[c]? = some (.startSubmit pc)
  · obtain ⟨c, pc, found⟩ := starts
    exact ⟨some pc, c, found⟩
  · exact ⟨none, fun c pc found => starts ⟨c, pc, found⟩⟩

/-- The lease of the accept task counts while its callback exists. -/
theorem Sound.front_counts (sound : Sound o s) (active : s.accept.active = true) :
    s.acceptLease.counts = true := by
  obtain ⟨pc, starts⟩ := s.exists_starting
  have fits := sound.front pc starts
  rw [active] at fits
  exact counts_of_fits fits

/-- A connection is placed. -/
theorem place_follows (sound : Sound o s) (at' : s.accept = .place) :
    Follows o s { s with
      accepted := s.accepted + 1
      heap := s.heap ++ [if s.stopping then { closeRequested := true, taskDone := true } else {}]
      sessions := s.sessions ++ [s.heap.length]
      accept := if s.stopping then .ended else .submit s.heap.length .make } := by
  have active : s.accept.active = true := by rw [at']; rfl
  have room := sound.room (by rw [at']; rfl)
  have front := sound.front_counts active
  have free : ∀ k, s.accept.submitting k = none := fun _ => by rw [at']; rfl
  refine ⟨⟨?_, sound.once, ?_, ?_, ?_, ?_, ?_⟩, ?_⟩
  · intro pc starts
    have fits := sound.front pc starts
    rw [active] at fits
    split_ifs <;> exact fits
  · intro fresh
    have started := sound.started active
    rw [show s.started = false from fresh] at started
    cases started
  · intro k session found
    rcases List.getElem?_push_cases found with ⟨rfl, rfl⟩ | old
    · dsimp only
      split_ifs
      · exact ⟨⟨rfl, rfl, by simp [ServePc.active]⟩, by simp, by simp [ServePc.serving],
          by simp [submitting]⟩
      · rw [submitting, if_pos rfl]
        exact ⟨⟨rfl, rfl⟩, by simp, by simp [ServePc.serving], fun _ => rfl⟩
    · have fits := sound.session k session old
      have inside := (List.getElem?_eq_some_iff.mp old).1
      rw [free] at fits
      split_ifs
      · exact fits
      · rw [submitting, if_neg (by omega)]
        exact fits
  · intro k session marked
    split_ifs at marked <;> cases marked
  · intro roomy
    split_ifs at roomy <;> cases roomy
  · intro k named
    rw [List.length_append]
    split_ifs at named
    · cases named
    · have same : s.heap.length = k := Option.some.inj named
      simp only [List.length_singleton]
      omega
  · -- behind the seal the client comes without a task
    have arrived : s.service.step o.limits .arrive = some { s.service with
        clients := s.service.clients ++ [{}]
        listed := s.service.listed ++ [s.service.clients.length] } := by
      rw [Service.step, if_pos ⟨front, room⟩]
    have length : s.service.clients.length = s.heap.length := by simp [service]
    by_cases sealed : s.stopping = true
    · refine ⟨[.arrive, .done s.heap.length], ?_⟩
      rw [Service.exec, arrived, bind_some, Service.exec, Service.step,
        if_pos (by simp [Service.client, ← length])]
      rw [Service.update, ← length, List.modify_push, length]
      simp [Service.exec, service, ServerSession.client, counts, skip, sealed]
    · refine one_event .arrive ?_
      rw [arrived, length, if_neg sealed]
      simp [service, ServerSession.client, counts]

/-- The runtime destroys the callback of the accept task. -/
theorem destroyAccept_follows (sound : Sound o s) (at' : s.accept = .ended) :
    Follows o s { s.dropLease none { s.acceptLease with captured := false } with
      accept := .gone } := by
  have active : s.accept.active = true := by rw [at']; rfl
  have front := sound.front_counts active
  have counted : s.acceptLease.counted = true := by
    simp only [TaskLease.counts, Bool.and_eq_true] at front
    exact front.1
  have kept : ∀ tasks, Sound o { s with
      acceptLease := { s.acceptLease with captured := false }
      tasks
      accept := .gone } := by
    intro tasks
    refine ⟨?_, sound.once, ?_, ?_, ?_, ?_, ?_⟩
    · intro pc starts
      have fits := sound.front pc starts
      rw [active] at fits
      rcases pc with _ | pc
      · exact ⟨fits.1, rfl, by simp [AcceptPc.active]⟩
      · cases pc with
        | drop => exact ⟨fits.1, fits.2.1, rfl, by simp [AcceptPc.active]⟩
        | _ => simp [LeaseFits] at fits
    · intro fresh
      have started := sound.started active
      rw [show s.started = false from fresh] at started
      cases started
    · intro k session found
      have fits := sound.session k session found
      rw [at'] at fits
      exact fits
    · intro k session marked
      cases marked
    · intro roomy
      cases roomy
    · intro k named
      cases named
  by_cases held : s.acceptLease.held = true
  · have left : ({ s.acceptLease with captured := false } : TaskLease).live = true := by
      simp [live, held]
    rw [dropLease, left, Bool.not_true, Bool.and_false, if_neg (by simp), setLease]
    refine ⟨kept s.tasks, no_event ?_⟩
    have counts : ({ s.acceptLease with captured := false } : TaskLease).counts = true :=
      Bool.and_eq_true_iff.mpr ⟨counted, left⟩
    simp only [service, front, counts]
  · have free : s.acceptLease.held = false := by simpa using held
    have left : ({ s.acceptLease with captured := false } : TaskLease).live = false := by
      simp [live, free]
    rw [dropLease, left, Bool.not_false, Bool.and_true, if_pos counted, setLease, markDone]
    refine ⟨kept _, one_event .lower ?_⟩
    have uncounted : ({ s.acceptLease with captured := false } : TaskLease).counts = false :=
      Bool.and_eq_false_iff.mpr (.inr left)
    have front' : s.service.front = true := front
    rw [Service.step, if_pos front']
    simp only [service, uncounted]

/-- A step of the accept task. -/
theorem accept_follows (sound : Sound o s) {pc : AcceptPc} (at' : s.accept = pc)
    {move : AcceptMove} (stepped : s.actAccept o pc move = some next) : Follows o s next := by
  unfold actAccept at stepped
  split at stepped
  case h_1 | h_11 =>
    cases stepped
    exact follows_accept sound _ (by rw [at']; rfl) rfl (fun _ => by rw [at']; rfl) rfl
      (fun wrong => by cases wrong)
  · -- the list is swept, and there may be room
    have swept := sweep_follows sound
    have free : ∀ k, s.sweep.accept.submitting k = none := fun _ => by
      rw [show s.sweep.accept = s.accept from rfl, at']
      rfl
    have active : s.sweep.accept.active = true := by
      rw [show s.sweep.accept = s.accept from rfl, at']
      rfl
    dsimp only at stepped
    split_ifs at stepped with sealed full
    · cases stepped
      exact swept.trans (follows_accept swept.sound .ended active rfl free rfl
        (by simp [roomy]))
    · cases stepped
      exact swept.trans (follows_accept swept.sound .gate active rfl free rfl
        (by simp [roomy]))
    · cases stepped
      exact swept.trans (follows_accept swept.sound .make active rfl free rfl fun _ => by omega)
  · cases stepped
    have room := sound.room (by rw [at']; rfl)
    exact follows_accept sound _ (by rw [at']; rfl) (by split_ifs <;> rfl)
      (fun _ => by rw [at']; rfl) (by split_ifs <;> rfl) (fun _ => room)
  · have room := sound.room (by rw [at']; rfl)
    split at stepped
    all_goals
      cases stepped
      exact follows_accept sound _ (by rw [at']; rfl) rfl (fun _ => by rw [at']; rfl) rfl
        (fun _ => room)
  · cases stepped
    exact place_follows sound at'
  · next k pc move =>
    rw [map_eq_some_iff] at stepped
    obtain ⟨⟨mid, result⟩, submitted, rfl⟩ := stepped
    have follows := submitSession_follows sound at' submitted
    rcases result with pc | outcome
    · exact follows
    · cases outcome <;> exact follows
  · next k =>
    cases stepped
    have closed := follows_closeRequested sound k
    exact closed.trans (follows_accept closed.sound .gate (by rw [put, at']; rfl) rfl
      (fun _ => by rw [put, at']; rfl) rfl (by simp [roomy]))
  · next k =>
    cases stepped
    have inside := sound.named k (by rw [at']; rfl)
    have found : s.heap[k]? = some s.heap[k] := getElem?_eq_getElem inside
    refine ⟨sound_accept sound _ (.mark k) s.tasks s.failNextTask (by rw [at']; rfl) rfl ?_
      (fun _ _ => by rw [at']; rfl) ?_ (by simp [roomy]) ?_, same_event found rfl⟩
    · intro session _ fits
      rw [at'] at fits
      exact ⟨fits.lease, fits.holding, fits.serving, fits.early⟩
    · intro other marked
      refine ⟨(Option.some.inj marked).symm, fun session found => ?_⟩
      exact sound.thrown k session (by rw [at']; rfl) found
    · intro other named
      obtain rfl : k = other := Option.some.inj named
      exact inside
  · next k =>
    cases stepped
    have inside := sound.named k (by rw [at']; rfl)
    have found : s.heap[k]? = some s.heap[k] := getElem?_eq_getElem inside
    have uncounted := sound.thrown k _ (by rw [at']; rfl) found
    refine ⟨sound_accept sound _ .gate s.tasks s.failNextTask (by rw [at']; rfl) rfl ?_
      (fun _ _ => by rw [at']; rfl) (fun _ marked => by cases marked) (by simp [roomy])
      (fun _ named => by cases named), done_event found uncounted rfl⟩
    intro session _ fits
    rw [at'] at fits
    exact ⟨fits.lease, fits.holding, fits.serving, by simp [submitting]⟩
  · cases stepped
    have sealed := seal_follows sound false none
    exact sealed.trans (follows_accept sealed.sound .sealed (by rw [seal', at']; rfl) rfl
      (fun _ => by rw [seal', at']; rfl) rfl (by simp [roomy]))
  · cases stepped
    exact destroyAccept_follows sound at'
  · cases stepped

/-- The `Submit` in which a call is. -/
def submitOf : ServerCallPc → Option SubmitPc
  | .startSubmit pc => some pc
  | _ => none

section

variable (sound : Sound o s)

include sound

/-- The calls change, and the same ones are in a `Submit`. -/
theorem follows_calls {calls : List ServerCallPc} (draining : Bool)
    (same : ∀ (d : Nat) pc, calls[d]? = some (.startSubmit pc) ↔
      s.calls[d]? = some (.startSubmit pc)) : Follows o s { s with calls, draining } := by
  have starting : ∀ pc, ({ s with calls, draining } : ServerState).Starting pc ↔
      s.Starting pc := by
    intro pc
    cases pc with
    | none => exact forall_congr' fun d => forall_congr' fun pc => not_congr (same d pc)
    | some pc => exact exists_congr fun d => same d pc
  refine ⟨⟨fun pc starts => sound.front pc ((starting pc).mp starts), ?_, ?_, sound.session,
    sound.thrown, sound.room, sound.named⟩, no_event rfl⟩
  · intro d e pc pc' first second
    exact sound.once d e pc pc' ((same d pc).mp first) ((same e pc').mp second)
  · intro fresh
    obtain ⟨lease, absent, none'⟩ := sound.fresh fresh
    exact ⟨lease, absent, (starting none).mpr none'⟩

/-- A call goes on elsewhere, in no `Submit` before or behind. -/
theorem follows_call
    (found : s.calls[c]? = some old) (before : submitOf old = none) (new : ServerCallPc)
    (after : submitOf new = none) (draining : Bool) :
    Follows o s { s.call c new with draining } := by
  refine follows_calls sound draining fun d pc => ?_
  show (s.calls.set c new)[d]? = _ ↔ _
  by_cases here : d = c
  · subst here
    rw [List.getElem?_set_found found, found]
    constructor
    · intro wrong
      cases wrong
      cases after
    · intro wrong
      cases wrong
      cases before
  · rw [List.getElem?_set_ne (Ne.symm here)]

/-- A new call is in no `Submit`. -/
theorem follows_newCall (new : ServerCallPc) (plain : submitOf new = none) :
    Follows o s { s with calls := s.calls ++ [new] } := by
  refine follows_calls sound s.draining fun d pc => ?_
  constructor
  · intro found
    rcases getElem?_push_cases found with ⟨-, rfl⟩ | old
    · cases plain
    · exact old
  · exact getElem?_push_old

/-- The call that is in the `Submit` of the accept task goes on, with the lease and the accept
task as they are then. -/
theorem sound_start
    (found : s.calls[c]? = some (.startSubmit pc)) (new : ServerCallPc) (lease : TaskLease)
    (accept : AcceptPc) (tasks : Nat) (failNextTask : Bool)
    (moves : accept = s.accept ∨ accept = .ready ∧ s.accept.active = false)
    (fits : LeaseFits accept.active lease (submitOf new)) :
    Sound o { s.call c new with acceptLease := lease, accept, tasks, failNextTask } := by
  have here : ∀ (d : Nat) pc', (s.calls.set c new)[d]? = some (.startSubmit pc') →
      d = c ∧ submitOf new = some pc' := by
    intro d pc' starts
    by_cases same : d = c
    · subst same
      rw [List.getElem?_set_found found] at starts
      cases starts
      exact ⟨rfl, rfl⟩
    · rw [List.getElem?_set_ne (Ne.symm same)] at starts
      exact absurd (sound.once d c pc' pc starts found) same
  have submits : ∀ k, accept.submitting k = s.accept.submitting k := by
    intro k
    rcases moves with rfl | ⟨rfl, idle⟩
    · rfl
    · cases at' : s.accept <;> simp_all [active, submitting]
  have plain : accept = s.accept ∨ accept = .ready := moves.imp_right And.left
  refine ⟨?_, ?_, ?_, ?_, ?_, ?_, ?_⟩
  · intro pc' starts
    have same : pc' = submitOf new := by
      cases pc' with
      | some pc' =>
        obtain ⟨d, at'⟩ := starts
        exact (here d pc' at').2.symm
      | none =>
        cases new' : submitOf new with
        | none => rfl
        | some pc' =>
          have at' : (s.calls.set c new)[c]? = some (.startSubmit pc') := by
            rw [List.getElem?_set_found found]
            cases new <;> cases new'
            rfl
          exact absurd at' (starts c pc')
    rw [same]
    exact fits
  · intro d e pc' pc'' first second
    exact (here d pc' first).1.trans (here e pc'' second).1.symm
  · intro fresh
    obtain ⟨-, -, none'⟩ := sound.fresh fresh
    exact absurd found (none' c pc)
  · intro k session at'
    have fits' := sound.session k session at'
    rw [← submits] at fits'
    exact fits'
  · intro k session marked at'
    rcases plain with rfl | rfl
    · exact sound.thrown k session marked at'
    · cases marked
  · intro roomy
    rcases plain with rfl | rfl
    · exact sound.room roomy
    · cases roomy
  · intro k named
    rcases plain with rfl | rfl
    · exact sound.named k named
    · cases named

/-- A step of the `Submit` of the accept task. -/
theorem submitAccept_follows (found : s.calls[c]? = some (.startSubmit pc)) {move : SubmitMove}
    {result : SubmitPc ⊕ SubmitOutcome} (stepped : s.submit none pc move = some (next, result))
    (new : ServerCallPc) (goes : submitOf new = result.getLeft?) :
    Follows o s (next.call c new) := by
  have fits := sound.front (some pc) ⟨c, found⟩
  have front : s.service.front = s.acceptLease.counts := rfl
  unfold submit at stepped
  split at stepped
  · obtain ⟨lease, idle⟩ := fits
    split_ifs at stepped
    · cases stepped
      refine ⟨sound_start sound found new { held := true } s.accept s.tasks s.failNextTask
        (.inl rfl) ?_, no_event ?_⟩
      · rw [goes]
        exact ⟨rfl, idle⟩
      · simp [service, call, setLease, lease, counts]
    · cases stepped
      refine ⟨sound_start sound found new s.acceptLease s.accept s.tasks s.failNextTask (.inl rfl)
        ?_, no_event rfl⟩
      rw [goes, lease, idle]
      exact ⟨rfl, rfl, by simp⟩
  · obtain ⟨lease, idle⟩ := fits
    split_ifs at stepped with sealed injected
    · cases stepped
      refine ⟨sound_start sound found new {} s.accept s.tasks s.failNextTask (.inl rfl) ?_,
        no_event ?_⟩
      · rw [goes, idle]
        exact ⟨rfl, rfl, by simp⟩
      · simp [service, call, setLease, markDone, lease, counts]
    · cases stepped
      refine ⟨sound_start sound found new {} s.accept s.tasks false (.inl rfl) ?_, no_event ?_⟩
      · rw [goes, idle]
        exact ⟨rfl, rfl, by simp⟩
      · simp [service, call, setLease, markDone, lease, counts]
    · cases stepped
      refine ⟨sound_start sound found new { counted := true, held := true } s.accept _
        s.failNextTask (.inl rfl) ?_, one_event .raise ?_⟩
      · rw [goes]
        exact ⟨rfl, idle⟩
      · have down : s.service.front = false := by
          rw [front, lease]
          rfl
        have open' : s.service.sealed' = false := by simpa [service] using sealed
        rw [Service.step, if_pos ⟨open', down⟩]
        simp [service, call, setLease, counts, live]
  · obtain ⟨lease, idle⟩ := fits
    split_ifs at stepped with registered
    · cases stepped
      refine ⟨sound_start sound found new { s.acceptLease with captured := true } .ready s.tasks
        s.failNextTask (.inr ⟨rfl, idle⟩) ?_, no_event ?_⟩
      · rw [goes, lease]
        exact ⟨rfl, rfl, rfl, fun _ => rfl⟩
      · simp [service, call, registerTask, ServerState.lease, lease, counts,
          live]
    · cases stepped
      refine ⟨sound_start sound found new s.acceptLease s.accept s.tasks s.failNextTask (.inl rfl)
        ?_, no_event rfl⟩
      rw [goes, lease, idle]
      exact ⟨rfl, rfl, rfl, by simp⟩
  · obtain ⟨counted, held, captured, _⟩ := fits
    cases stepped
    rw [ServerState.lease, dropLease]
    by_cases active : s.accept.active = true
    · have left : ({ s.acceptLease with held := false } : TaskLease).live = true := by
        simp [live, captured, active]
      rw [left, Bool.not_true, Bool.and_false, if_neg (by simp), setLease]
      refine ⟨sound_start sound found new { s.acceptLease with held := false } s.accept s.tasks
        s.failNextTask (.inl rfl) ?_, no_event ?_⟩
      · rw [goes]
        exact ⟨rfl, captured, fun _ => counted⟩
      · simp [service, call, counts, live, counted, captured, active]
    · have idle : s.accept.active = false := by simpa using active
      have left : ({ s.acceptLease with held := false } : TaskLease).live = false := by
        simp [live, captured, idle]
      rw [left, Bool.not_false, Bool.and_true, if_pos counted, setLease, markDone]
      refine ⟨sound_start sound found new { s.acceptLease with held := false } s.accept _
        s.failNextTask (.inl rfl) ?_, one_event .lower ?_⟩
      · rw [goes]
        exact ⟨rfl, captured, by simp [idle]⟩
      · have up : s.service.front = true := by
          rw [front, counts, live, counted, held]
          rfl
        have uncounted : ({ s.acceptLease with held := false } : TaskLease).counts = false :=
          Bool.and_eq_false_iff.mpr (.inr left)
        rw [Service.step, if_pos up]
        simp only [service, call, uncounted]
  · cases stepped

section

variable (found : s.calls[c]? = some old) (before : submitOf old = none)

include found before

/-- A turn of a wait for the requests in flight. -/
theorem wait_follows (expired : Bool) :
    Follows o s (s.drainWait c expired) ∧ Follows o s (s.shutdownWait c expired) := by
  constructor
  · unfold drainWait
    split
    · exact follows_call sound found before _ rfl s.draining
    · exact follows_call sound found before _ rfl s.draining
  · unfold shutdownWait
    split
    · exact follows_call sound found before _ rfl s.draining
    · exact follows_call sound found before _ rfl s.draining

/-- A turn of the loop of `WaitStopped`. -/
theorem stoppedWait_follows (expired : Bool) : Follows o s (s.stoppedWait c expired) := by
  have swept := sweep_follows sound
  have found' : s.sweep.calls[c]? = some old := found
  unfold stoppedWait
  dsimp only
  split_ifs
  · exact swept.trans (follows_call swept.sound found' before _ rfl s.draining)
  · exact swept.trans (follows_call swept.sound found' before _ rfl s.draining)
  · exact swept.trans (follows_call swept.sound found' before _ rfl s.draining)

/-- A `Stop` of a call. -/
theorem sealCall_follows (force : Bool)
    (reason : Option Error) (new : ServerCallPc) (after : submitOf new = none) :
    Follows o s ((s.seal' force reason).call c new) := by
  have sealed := seal_follows sound force reason
  have found' : (s.seal' force reason).calls[c]? = some old := found
  exact sealed.trans (follows_call sealed.sound found' before new after s.draining)

end

/-- A step of a call. -/
theorem actCall_follows {pc : ServerCallPc} (found : s.calls[c]? = some pc) {move : ServerCallMove}
    (stepped : s.actCall c pc move = some next) : Follows o s next := by
  unfold actCall at stepped
  split at stepped
  case h_4 | h_6 | h_7 =>
    cases stepped
    exact follows_call sound found rfl _ rfl s.draining
  · split_ifs at stepped with refused ready
    · cases stepped
      exact follows_call sound found rfl _ rfl s.draining
    · -- the one `Start` that gets to its `Submit`
      cases stepped
      simp only [not_or, Bool.not_eq_true] at refused
      obtain ⟨lease, absent, none'⟩ := sound.fresh refused.2
      have here : ∀ (d : Nat) pc', (s.calls.set c (.startSubmit .make))[d]? =
          some (.startSubmit pc') → d = c ∧ pc' = .make := by
        intro d pc' starts
        rcases List.getElem?_set_cases starts with ⟨rfl, same⟩ | old
        · cases same
          exact ⟨rfl, rfl⟩
        · exact absurd old (none' d pc')
      refine ⟨⟨?_, ?_, fun fresh => Bool.noConfusion fresh, sound.session, sound.thrown, sound.room,
        sound.named⟩, no_event rfl⟩
      · intro pc' starts
        cases pc' with
        | some pc' =>
          obtain ⟨d, at'⟩ := starts
          obtain ⟨-, rfl⟩ := here d pc' at'
          exact ⟨lease, by rw [call, absent]; rfl⟩
        | none => exact absurd (List.getElem?_set_found found) (starts c .make)
      · intro d e pc' pc'' first second
        exact (here d pc' first).1.trans (here e pc'' second).1.symm
    · cases stepped
      exact follows_call sound found rfl _ rfl s.draining
  · rw [map_eq_some_iff] at stepped
    obtain ⟨⟨mid, result⟩, submitted, rfl⟩ := stepped
    refine submitAccept_follows sound found submitted _ ?_
    rcases result with pc | outcome
    · rfl
    · cases outcome <;> rfl
  · cases stepped
    exact sealCall_follows sound found rfl false none _ rfl
  · cases stepped
    exact sealCall_follows sound found rfl _ _ _ rfl
  · split at stepped
    · cases stepped
      exact follows_call sound found rfl _ rfl s.draining
    · split_ifs at stepped
      · cases stepped
        exact follows_call sound found rfl _ rfl s.draining
      · cases stepped
        exact follows_call sound found rfl _ rfl s.draining
      · cases stepped
        exact follows_call sound found rfl _ rfl true
  · cases stepped
    exact sealCall_follows sound found rfl false none _ rfl
  · cases stepped
    exact (wait_follows sound found rfl _).2
  · cases stepped
    exact (wait_follows sound found rfl _).2
  · split_ifs at stepped
    · cases stepped
      exact (wait_follows sound found rfl _).1
    · cases stepped
      exact follows_call sound found rfl _ rfl s.draining
  · cases stepped
    exact (wait_follows sound found rfl _).1
  · split_ifs at stepped
    · cases stepped
      exact stoppedWait_follows sound found rfl _
    · cases stepped
      exact follows_call sound found rfl _ rfl s.draining
  · cases stepped
    exact stoppedWait_follows sound found rfl _
  · cases stepped

/-- The connection of a session is released. -/
theorem released_follows (k : Nat) :
    Follows o s (s.put k fun session => { session with released := true }) := by
  have calm : Calm s (s.put k fun session => { session with released := true }) := by
    refine calm_put (f := fun session => { session with released := true }) ?_ ?_ s.requests
      s.inflight s.tasks
    · intro session _ pc fits
      exact ⟨fits.lease, fits.holding, fits.serving, fits.early⟩
    · intro session _ uncounted
      exact uncounted
  have clients := clients_modify (s := s) (k := k) (g := leave)
    (f := fun session => { session with released := true }) fun _ _ => rfl
  refine ⟨sound.calm calm, one_event (.leave k) ?_⟩
  simp only [Service.step, service, Service.update, put, clients]

/-- Every step is some events of the service and keeps the invariant. -/
theorem step_follows {label : ServerLabel}
    (stepped : s.step o label = some next) : Follows o s next := by
  cases label with
  | call call host =>
    cases stepped
    refine follows_newCall sound _ ?_
    cases call <;> first | rfl | (simp only [begin']; split_ifs <;> rfl)
  | act c move =>
    obtain ⟨pc, found, stepped⟩ := bind_eq_some_iff.mp stepped
    exact actCall_follows sound found stepped
  | accept move => exact accept_follows sound rfl stepped
  | serve k move =>
    obtain ⟨session, found, stepped⟩ := bind_eq_some_iff.mp stepped
    exact serve_follows sound found rfl stepped
  | released k =>
    cases stepped
    exact released_follows sound k
  | acceptingStopped | failNextTask =>
    cases stepped
    exact ⟨sound.calm ⟨rfl, rfl, rfl, rfl, Nat.le_refl _, rfl, fun _ session found =>
      ⟨session, found, fun _ fits => fits, fun uncounted => uncounted⟩⟩, no_event rfl⟩
  | stats =>
    cases stepped
    exact sweep_follows sound

end

/-- A server begins sound. -/
theorem sound_init (o : ServerConfig) : Sound o {} where
  front pc starts := by
    cases pc with
    | none => exact ⟨rfl, rfl, by simp [active]⟩
    | some pc =>
      obtain ⟨c, found⟩ := starts
      simp at found
  once c d pc pc' first := by simp at first
  fresh _ := ⟨rfl, rfl, fun c pc found => by simp at found⟩
  session k session found := by simp at found
  thrown k session marked := by cases marked
  room roomy := by cases roomy
  named k named := by cases named

/-- A reachable server is sound, and its books are right. -/
theorem reachable_sound (reachable : (serverMachine o).Reachable s) :
    Sound o s ∧ Service.Balanced o.limits s.service := by
  refine reachable.invariant (fun s => Sound o s ∧ Service.Balanced o.limits s.service) ?_ ?_
  · rintro _ rfl
    refine ⟨sound_init o, rfl, rfl, Nat.zero_le _, Nat.zero_le _, ?_, ?_, ?_⟩ <;>
      intro k c found <;> simp [service] at found
  · intro s label next kept stepped
    have follows := step_follows kept.1 stepped
    obtain ⟨events, executed⟩ := follows.events
    exact ⟨follows.sound, Service.exec_balanced kept.2 executed⟩

end ServerState

end BbtInfra.Http
