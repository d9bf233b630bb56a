import BbtInfra.Http.Server
import BbtInfra.Lib.Service

/-!
# Tasks of the HTTP server

The counters and the list of `Server::State` are those of a service: each step of the server is
one of its events, two, or none. The invariant says where the lease of a task is while its
`Submit` and its callback run, so that the event is one that can happen. Here are the steps of the
tasks of sessions.
-/
namespace BbtInfra.Http

open Lib ServerSession TaskLease

/-- What a service takes under these options. -/
def ServerConfig.limits (o : ServerConfig) : ServiceLimits where
  connections := o.maxConnections
  inflight := o.maxInflight

/-- A session as a client of the service. -/
def ServerSession.client (session : ServerSession) : Client where
  task := session.lease.counts
  granted := session.authorized
  done := session.taskDone
  gone := session.released

/-- The service of a server. -/
def ServerState.service (s : ServerState) : Service where
  sealed' := s.stopping
  front := s.acceptLease.counts
  tasks := s.tasks
  inflight := s.inflight
  clients := s.heap.map client
  listed := s.sessions

/-- A lease while its `Submit` stands there, or behind it, and its callback exists or not. -/
def LeaseFits (active : Bool) (lease : TaskLease) : Option SubmitPc → Prop
  | some .make => lease = {} ∧ active = false
  | some .count => lease = { held := true } ∧ active = false
  | some .register => lease = { counted := true, held := true } ∧ active = false
  | some (.drop outcome) =>
    lease.counted = true ∧ lease.held = true ∧ lease.captured = active ∧
      (active = true → outcome = .registered)
  | none => lease.held = false ∧ lease.captured = active ∧ (active = true → lease.counted = true)

/-- The task may hold a request: it serves one, or it has thrown. -/
def ServePc.holding (pc : ServePc) : Bool := pc.serving || pc == .leave || pc == .release

/-- The `Submit` has not registered the task yet. -/
def SubmitPc.early : SubmitPc → Bool
  | .drop _ => false
  | _ => true

/-- A session whose `Submit` stands there. -/
structure SessionFits (submitting : Option SubmitPc) (session : ServerSession) : Prop where
  lease : LeaseFits session.task.active session.lease submitting
  holding : session.authorized = true → session.task.holding = true
  serving : session.task.serving = true → session.authorized = true
  early : submitting.any SubmitPc.early = true → session.taskDone = false

namespace AcceptPc

/-- The `Submit` of this session, while the accept task is in it. -/
def submitting (k : Nat) : AcceptPc → Option SubmitPc
  | .submit k' pc => if k' = k then some pc else none
  | _ => none

/-- The session that the accept task is busy with. -/
def named : AcceptPc → Option Nat
  | .submit k _ | .refuse k | .caught k | .mark k => some k
  | _ => none

/-- The session whose `Submit` has thrown. -/
def thrown : AcceptPc → Option Nat
  | .caught k | .mark k => some k
  | _ => none

/-- The accept task has found room. -/
def roomy : AcceptPc → Bool
  | .make | .take | .place => true
  | _ => false

end AcceptPc

namespace ServerState

variable {o : ServerConfig} {s next : ServerState} {k : Nat}

/-- The `Submit` of the accept task, while a `Start` is in it. -/
def Starting (s : ServerState) : Option SubmitPc → Prop
  | some pc => ∃ c : Nat, s.calls[c]? = some (.startSubmit pc)
  | none => ∀ (c : Nat) pc, s.calls[c]? ≠ some (.startSubmit pc)

/-- Leases, tasks and sessions go together. -/
structure Sound (o : ServerConfig) (s : ServerState) : Prop where
  front : ∀ pc, s.Starting pc → LeaseFits s.accept.active s.acceptLease pc
  /-- One `Start` at most gets to its `Submit`. -/
  once : ∀ (c d : Nat) pc pc', s.calls[c]? = some (.startSubmit pc) →
    s.calls[d]? = some (.startSubmit pc') → c = d
  fresh : s.started = false → s.acceptLease = {} ∧ s.accept = .absent ∧ s.Starting none
  session : ∀ k session, s.heap[k]? = some session → SessionFits (s.accept.submitting k) session
  thrown : ∀ k session, s.accept.thrown = some k → s.heap[k]? = some session →
    session.lease.counts = false
  room : s.accept.roomy = true → s.sessions.length < o.maxConnections
  named : ∀ k, s.accept.named = some k → k < s.heap.length

/-- What a step does: it keeps the invariant and is some events of the service. -/
structure Follows (o : ServerConfig) (s next : ServerState) : Prop where
  sound : Sound o next
  events : ∃ events, s.service.exec o.limits events = some next.service

/-- A step that is one event. -/
theorem one_event (event : ServiceEvent) {service : Service} {limits : ServiceLimits}
    {after : Service} (stepped : service.step limits event = some after) :
    ∃ events, service.exec limits events = some after :=
  ⟨[event], by simp [Service.exec, stepped]⟩

/-- A step that is no event. -/
theorem no_event {limits : ServiceLimits} {service after : Service} (same : after = service) :
    ∃ events, service.exec limits events = some after := ⟨[], by simp [Service.exec, same]⟩

/-- A step that leaves the accept task and the calls alone and moves no session out of place. -/
structure Calm (s next : ServerState) : Prop where
  accept : next.accept = s.accept
  acceptLease : next.acceptLease = s.acceptLease
  started : next.started = s.started
  calls : next.calls = s.calls
  sessions : next.sessions.length ≤ s.sessions.length
  heap : next.heap.length = s.heap.length
  session : ∀ (k : Nat) session', next.heap[k]? = some session' →
    ∃ session, s.heap[k]? = some session ∧
      (∀ pc, SessionFits pc session → SessionFits pc session') ∧
      (session.lease.counts = false → session'.lease.counts = false)

/-- Such a step keeps the invariant. -/
theorem Sound.calm (sound : Sound o s) (calm : Calm s next) : Sound o next := by
  have starting : ∀ pc, next.Starting pc → s.Starting pc := by
    intro pc starts
    cases pc <;> simpa only [Starting, calm.calls] using starts
  refine ⟨?_, ?_, ?_, ?_, ?_, ?_, ?_⟩
  · intro pc starts
    rw [calm.accept, calm.acceptLease]
    exact sound.front pc (starting pc starts)
  · rw [calm.calls]
    exact sound.once
  · intro fresh
    rw [calm.started] at fresh
    obtain ⟨lease, absent, none'⟩ := sound.fresh fresh
    refine ⟨by rw [calm.acceptLease, lease], by rw [calm.accept, absent], ?_⟩
    simpa only [Starting, calm.calls] using none'
  · intro k session' found
    obtain ⟨session, before, fits, -⟩ := calm.session k session' found
    rw [calm.accept]
    exact fits _ (sound.session k session before)
  · intro k session' marked found
    obtain ⟨session, before, -, uncounted⟩ := calm.session k session' found
    rw [calm.accept] at marked
    exact uncounted (sound.thrown k session marked before)
  · intro room
    rw [calm.accept] at room
    exact Nat.lt_of_le_of_lt calm.sessions (sound.room room)
  · intro k name
    rw [calm.accept] at name
    rw [calm.heap]
    exact sound.named k name

variable {session : ServerSession} {pc : Option SubmitPc} {f : ServerSession → ServerSession}

/-- A step that rewrites one session, and counters. -/
theorem calm_put (fits : ∀ session, s.heap[k]? = some session → ∀ pc, SessionFits pc session →
      SessionFits pc (f session))
    (uncounted : ∀ session, s.heap[k]? = some session → session.lease.counts = false →
      (f session).lease.counts = false) (requests inflight tasks : Nat) :
    Calm s { s.put k f with requests, inflight, tasks } := by
  refine ⟨rfl, rfl, rfl, rfl, Nat.le_refl _, List.length_modify .., ?_⟩
  intro k' session' found
  rcases List.getElem?_modify_cases found with ⟨rfl, old, before, rfl⟩ | ⟨-, before⟩
  · exact ⟨old, before, fits old before, uncounted old before⟩
  · exact ⟨session', before, fun _ fits => fits, fun uncounted => uncounted⟩

/-- A rewrite of one session that the service does not see. -/
theorem clients_same
    (same : ∀ session, s.heap[k]? = some session → (f session).client = session.client) :
    (s.heap.modify k f).map client = s.heap.map client := by
  apply List.ext_getElem?
  intro other
  rw [List.getElem?_map, List.getElem?_map, List.getElem?_modify]
  by_cases here : k = other
  · subst here
    cases found : s.heap[k]? with
    | none => simp
    | some session => simp [same session found]
  · simp [here]

/-- A rewrite of one session is one of its client. -/
theorem clients_modify {g : Client → Client}
    (follows : ∀ session, s.heap[k]? = some session → (f session).client = g session.client) :
    (s.heap.modify k f).map client =
      (s.heap.map client).modify k g := by
  apply List.ext_getElem?
  intro other
  rw [List.getElem?_map, List.getElem?_modify, List.getElem?_modify, List.getElem?_map]
  by_cases here : k = other
  · subst here
    cases found : s.heap[k]? with
    | none => simp
    | some session => simp [follows session found]
  · simp [here]

/-- The client of a session. -/
theorem service_client (found : s.heap[k]? = some session)
    (test : Client → Bool) : s.service.client k test = test session.client := by
  simp [Service.client, service, found]

section

variable (sound : Sound o s) (found : s.heap[k]? = some session) (f : ServerSession → ServerSession)

include sound found

/-- A rewrite of one session that the service does not see. -/
theorem follows_quiet (fits : ∀ pc, SessionFits pc session → SessionFits pc (f session))
    (same : (f session).client = session.client) : Follows o s (s.put k f) := by
  have here : ∀ other, s.heap[k]? = some other → other = session := by
    intro other found'
    rw [found] at found'
    exact (Option.some.inj found').symm
  have counts : (f session).lease.counts = session.lease.counts := congrArg Client.task same
  have calm : Calm s (s.put k f) := by
    refine calm_put ?_ ?_ s.requests s.inflight s.tasks
    · intro other found' pc
      rw [here other found']
      exact fits pc
    · intro other found' uncounted
      rw [here other found'] at uncounted ⊢
      rw [counts, uncounted]
  have clients : (s.heap.modify k f).map client = s.heap.map client :=
    clients_same fun other found' => by rw [here other found', same]
  refine ⟨sound.calm calm, no_event ?_⟩
  simp only [service, put, clients]

/-- A rewrite of one session that is an event of its client. -/
theorem follows_event (g : Client → Client) (event : ServiceEvent) {requests inflight tasks : Nat}
    (fits : ∀ pc, SessionFits pc session → SessionFits pc (f session))
    (uncounted : session.lease.counts = false → (f session).lease.counts = false)
    (follows : (f session).client = g session.client) (stepped : s.service.step o.limits event =
      some { s.service.update k g with inflight, tasks }) :
    Follows o s { s.put k f with requests, inflight, tasks } := by
  have here : ∀ other, s.heap[k]? = some other → other = session := by
    intro other found'
    rw [found] at found'
    exact (Option.some.inj found').symm
  have calm : Calm s { s.put k f with requests, inflight, tasks } := by
    apply calm_put
    · intro other found' pc
      rw [here other found']
      exact fits pc
    · intro other found' before
      rw [here other found'] at before ⊢
      exact uncounted before
  have clients : (s.heap.modify k f).map client =
      (s.heap.map client).modify k g :=
    clients_modify fun other found' => by rw [here other found', follows]
  refine ⟨sound.calm calm, one_event event (stepped.trans ?_)⟩
  simp only [service, Service.update, put, clients]

end

/-- A session whose task goes on elsewhere. -/
theorem fits_move (fits : SessionFits pc session)
    (task : ServePc) (active : task.active = session.task.active)
    (holding : session.authorized = true → task.holding = true)
    (serving : task.serving = true → session.authorized = true) :
    SessionFits pc { session with task } := by
  refine ⟨?_, holding, serving, fits.early⟩
  rw [active]
  exact fits.lease

/-- The task of a session goes on elsewhere. -/
theorem follows_goTo (sound : Sound o s) (found : s.heap[k]? = some session) (task : ServePc)
    (active : task.active = session.task.active)
    (holding : session.authorized = true → task.holding = true)
    (serving : task.serving = true → session.authorized = true) :
    Follows o s (s.goTo k task) :=
  follows_quiet sound found _ (fun _ fits => fits_move fits task active holding serving) rfl

/-- The end of a task that holds a request. -/
theorem settle_event (found : s.heap[k]? = some session)
    (authorized : session.authorized = true) :
    s.service.step o.limits (.settle k) =
      some { s.service.update k Client.settle with inflight := s.inflight - 1 } := by
  have granted : s.service.client k Client.granted = true := by
    rw [service_client found]
    exact authorized
  rw [Service.step, if_pos granted]
  rfl

/-- The start of a request. -/
theorem grant_event (found : s.heap[k]? = some session)
    (open' : s.stopping = false) (free : s.inflight < o.maxInflight)
    (counts : session.lease.counts = true) (idle : session.authorized = false) :
    s.service.step o.limits (.grant k) =
      some { s.service.update k Client.grant with inflight := s.inflight + 1 } := by
  have able : s.service.client k (fun c => c.task && !c.granted) = true := by
    rw [service_client found]
    simp [client, counts, idle]
  rw [Service.step, if_pos ⟨open', free, able⟩]
  rfl

/-- A task that cannot hold a request holds none. -/
theorem not_authorized (fits : SessionFits pc session) (idle : session.task.holding = false) :
    session.authorized = false := by
  by_contra held
  have holding := fits.holding (by simpa using held)
  rw [idle] at holding
  cases holding

/-- The lease of a callback counts. -/
theorem counts_of_fits {lease : TaskLease} (fits : LeaseFits true lease pc) :
    lease.counts = true := by
  match pc, fits with
  | some .make, ⟨_, wrong⟩ => cases wrong
  | some .count, ⟨_, wrong⟩ => cases wrong
  | some .register, ⟨_, wrong⟩ => cases wrong
  | some (.drop _), ⟨counted, held, _, _⟩ => simp [counts, live, counted, held]
  | none, ⟨_, captured, counted⟩ => simp [counts, live, captured, counted rfl]

/-- The lease of a task whose callback exists counts. -/
theorem counts_of_active (fits : SessionFits pc session) (active : session.task.active = true) :
    session.lease.counts = true := by
  have lease := fits.lease
  rw [active] at lease
  exact counts_of_fits lease

/-- A task that serves exists. -/
theorem active_of_serving {pc : ServePc} (serving : pc.serving = true) : pc.active = true := by
  cases pc <;> first | rfl | cases serving

/-- A task that serves may hold its request. -/
theorem holding_of_serving {pc : ServePc} (serving : pc.serving = true) : pc.holding = true := by
  simp [ServePc.holding, serving]

/-- A task that does not exist holds nothing. -/
theorem holding_of_idle {pc : ServePc} (idle : pc.active = false) : pc.holding = false := by
  cases pc <;> first | rfl | cases idle

/-- A rewrite of a session that goes on serving. -/
theorem serving_rewritten (sound : Sound o s)
    (found : s.heap[k]? = some session) (f : ServerSession → ServerSession)
    (before : session.task.serving = true) (after : (f session).task.serving = true)
    (lease : (f session).lease = session.lease)
    (authorized : (f session).authorized = session.authorized)
    (done : (f session).taskDone = session.taskDone)
    (released : (f session).released = session.released) : Follows o s (s.put k f) := by
  refine follows_quiet sound found f ?_ ?_
  · intro pc fits
    refine ⟨?_, fun _ => holding_of_serving after, ?_, ?_⟩
    · rw [lease, active_of_serving after, ← active_of_serving before]
      exact fits.lease
    · intro _
      rw [authorized]
      exact fits.serving before
    · rw [done]
      exact fits.early
  · simp only [client, lease, authorized, done, released]

/-- A task goes on serving. -/
theorem serving_goes (sound : Sound o s)
    (found : s.heap[k]? = some session) (task : ServePc) (before : session.task.serving = true)
    (after : task.serving = true) : Follows o s (s.goTo k task) :=
  serving_rewritten sound found _ before after rfl rfl rfl rfl

/-- A write behind a write to one session. -/
theorem put_put (s : ServerState) (k : Nat) (f g : ServerSession → ServerSession) :
    (s.put k f).put k g = s.put k (g ∘ f) := by
  simp only [put, List.modify_modify_eq]

/-- A write that changes nothing. -/
theorem put_id (s : ServerState) (k : Nat) : s.put k id = s := by
  simp only [put, List.modify_id]

/-- The end of a task that holds no request. -/
theorem finish_event (found : s.heap[k]? = some session)
    (counts : session.lease.counts = true) (idle : session.authorized = false) :
    s.service.step o.limits (.finish k) =
      some { s.service.update k Client.finish with tasks := s.tasks - 1 } := by
  have able : s.service.client k (fun c => c.task && !c.granted) = true := by
    rw [service_client found]
    simp [client, counts, idle]
  rw [Service.step, if_pos able]
  rfl

/-- The runtime destroys the callback of a session. -/
theorem destroy_follows (sound : Sound o s)
    (found : s.heap[k]? = some session) (task : session.task = .ended) :
    Follows o s ((s.dropLease (some k) { session.lease with captured := false }).goTo k .gone) := by
  have fits := sound.session k session found
  have active : session.task.active = true := by rw [task]; rfl
  have idle := not_authorized fits (by rw [task]; rfl)
  have counts := counts_of_active fits active
  have counted : session.lease.counted = true := by
    simp only [TaskLease.counts, Bool.and_eq_true] at counts
    exact counts.1
  -- whether `Submit` still holds the lease decides who destroys it
  by_cases held : session.lease.held = true
  · have left : ({ session.lease with captured := false } : TaskLease).live = true := by
      simp [live, held]
    rw [dropLease, left, Bool.not_true, Bool.and_false, if_neg (by simp), setLease, goTo, put_put]
    refine follows_quiet sound found _ ?_ ?_
    · intro pc fits
      refine ⟨?_, by simp [idle], by simp [ServePc.serving], fits.early⟩
      have lease := fits.lease
      rw [active] at lease
      match pc, lease with
      | some (.drop _), ⟨counted, held, _, _⟩ =>
        exact ⟨counted, held, rfl, by simp [ServePc.active]⟩
      | none, ⟨free, _⟩ => exact absurd held (by simp [free])
    · simp [client, TaskLease.counts, live, held, counted]
  · have free : session.lease.held = false := by simpa using held
    have left : ({ session.lease with captured := false } : TaskLease).live = false := by
      simp [live, free]
    rw [dropLease, left, Bool.not_false, Bool.and_true, if_pos counted, setLease, markDone, goTo]
    have same : ∀ tasks, ({ (s.put k fun session' =>
        { session' with lease := { session.lease with captured := false } }).put k fun session =>
        { session with taskDone := true } with tasks } : ServerState).put k (fun session =>
        { session with task := .gone }) = { s.put k fun session' =>
          { session' with
            lease := { session.lease with captured := false }
            taskDone := true
            task := .gone } with tasks } := by
      intro tasks
      simp only [put, List.modify_modify_eq]
      rfl
    rw [same]
    refine follows_event sound found _ Client.finish (.finish k) ?_ (by simp [counts]) ?_
      (finish_event found counts idle)
    · intro pc fits
      refine ⟨?_, by simp [idle], by simp [ServePc.serving], ?_⟩
      · have lease := fits.lease
        rw [active] at lease
        match pc, lease with
        | some (.drop _), ⟨_, held, _, _⟩ => exact absurd held (by simp [free])
        | none, _ => exact ⟨free, rfl, by simp [ServePc.active]⟩
      · have lease := fits.lease
        rw [active] at lease
        match pc, lease with
        | some (.drop _), _ => exact fun early => by cases early
        | none, _ => exact fun early => by cases early
    · simp [client, Client.finish, TaskLease.counts, live, free, idle]

/-- A step of the task of a session. -/
theorem serve_follows (sound : Sound o s)
    (found : s.heap[k]? = some session) {pc : ServePc} (task : session.task = pc) {move : ServeMove}
    (stepped : s.serve o k session pc move = some next) : Follows o s next := by
  have fits := sound.session k session found
  unfold serve at stepped
  split at stepped
  case h_1 | h_3 | h_4 | h_5 =>
    cases stepped
    have idle := not_authorized fits (by rw [task]; rfl)
    exact follows_goTo sound found _ (by rw [task]; rfl) (by simp [idle])
      (by simp [ServePc.serving])
  case h_7 | h_8 | h_9 | h_12 | h_13 =>
    cases stepped
    exact serving_goes sound found _ (by rw [task]; rfl) rfl
  case h_14 | h_15 =>
    cases stepped
    exact serving_rewritten sound found _ (by rw [task]; rfl) rfl rfl rfl rfl rfl
  · cases stepped
    have idle := not_authorized fits (by rw [task]; rfl)
    refine follows_goTo sound found _ ?_ (by simp [idle]) ?_
    · rw [task]
      split_ifs <;> rfl
    · split_ifs <;> simp [ServePc.serving]
  · -- the request may start
    have idle := not_authorized fits (by rw [task]; rfl)
    have active : session.task.active = true := by rw [task]; rfl
    have counts := counts_of_active fits active
    split_ifs at stepped with refused
    · cases stepped
      exact follows_goTo sound found _ (by rw [task]; rfl) (by simp [idle])
        (by simp [ServePc.serving])
    · cases stepped
      simp only [not_or, Bool.not_eq_true] at refused
      obtain ⟨open', -, free⟩ := refused
      refine follows_event sound found _ Client.grant (.grant k) ?_ (fun uncounted => uncounted) rfl
        (grant_event found open' (by omega) counts idle)
      intro pc fits
      refine ⟨?_, fun _ => rfl, fun _ => rfl, fits.early⟩
      have lease := fits.lease
      rw [active] at lease
      exact lease
  · split_ifs at stepped
    cases stepped
    exact serving_goes sound found _ (by rw [task]; rfl) rfl
  · cases stepped
    refine serving_rewritten sound found _ (by rw [task]; rfl) ?_ rfl rfl rfl rfl
    split_ifs <;> rfl
  · -- the reply is settled
    cases stepped
    have serving : session.task.serving = true := by rw [task]; rfl
    refine follows_event sound found _ Client.settle (.settle k) ?_ (fun uncounted => uncounted) rfl
      (settle_event found (fits.serving serving))
    intro pc fits
    refine ⟨?_, by simp, ?_, fits.early⟩
    · have lease := fits.lease
      rw [task] at lease
      split_ifs <;> exact lease
    · dsimp only
      split_ifs <;> simp [ServePc.serving]
  · cases stepped
    refine follows_quiet sound found _ ?_ rfl
    intro pc fits
    refine ⟨?_, fun _ => rfl, by simp [ServePc.serving], fits.early⟩
    have lease := fits.lease
    rw [task] at lease
    exact lease
  · -- an exception has left the request to the callback
    split_ifs at stepped with authorized
    · cases stepped
      refine follows_event sound found _ Client.settle (.settle k) ?_ (fun uncounted => uncounted)
        rfl (settle_event found authorized)
      intro pc fits
      refine ⟨?_, by simp, by simp [ServePc.serving], fits.early⟩
      have lease := fits.lease
      rw [task] at lease
      exact lease
    · cases stepped
      exact follows_goTo sound found _ (by rw [task]; rfl) (by simp [authorized])
        (by simp [ServePc.serving])
  · -- the callback is destroyed
    cases stepped
    exact destroy_follows sound found task
  · split_ifs at stepped with place
    cases stepped
    refine follows_goTo sound found _ ?_ (fun _ => rfl) (by simp [ServePc.serving])
    rw [task]
    rcases place with rfl | serving
    · rfl
    · exact (active_of_serving serving).symm
  · cases stepped

end ServerState

end BbtInfra.Http
