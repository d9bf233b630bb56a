import BbtInfra.Http.ServerSteps

/-!
# The ledger of the HTTP server

What a server counts is right in every state, nothing starts behind the seal, and what
`WaitStopped`, `Drain` and `Shutdown` promise when they return is said of every later state. A
repeated `Shutdown` promises too much: it answers from a flag that is set before the seal.
-/
namespace BbtInfra.Http

open Lib Service

namespace ServerState

variable {o : ServerConfig} {s next : ServerState}

/-- What a call that stands there relies on, or promises. -/
def Promises (s : ServerState) : ServerCallPc → Prop
  | .shutdownSealed | .shutdownWait | .drainWait | .waitStoppedAgain => s.stopping = true
  | .returned .waitStopped (.ok ()) => s.service.Quiet ∧ s.acceptingStopped = true
  | .returned .drain (.ok ()) => s.stopping = true ∧ s.inflight = 0
  | _ => True

/-- A repeated `Shutdown` that is about to answer that all is drained. -/
def repeats (s : ServerState) (c : Nat) : Prop :=
  s.calls[c]? = some .shutdown ∧ s.closeReason = none ∧ s.draining = true ∧ s.inflight = 0

/-- What a step of a call does to the calls. -/
structure Advances (s next : ServerState) (c : Nat) (new : ServerCallPc) : Prop where
  calls : next.calls = s.calls.set c new
  accepting : next.acceptingStopped = s.acceptingStopped
  promises : Promises next new
  shutdown : new = .returned .shutdown (.ok ()) →
    s.repeats c ∨ next.stopping = true ∧ next.inflight = 0

/-- A wait that returns well has found nothing in flight. -/
theorem drained_ok {expired : Bool} {what : String}
    (ok : s.drained expired what = some (.ok ())) : s.inflight = 0 := by
  by_contra left
  rw [drained, if_neg left] at ok
  cases reason : s.closeReason with
  | some reason => simp [reason] at ok
  | none =>
    simp only [reason] at ok
    split_ifs at ok
    cases ok

section

variable (sealed : s.stopping = true) (c : Nat) (expired : Bool)

include sealed

/-- A wait of `Drain` behind the seal. -/
theorem drainWait_advances : ∃ new, Advances s (s.drainWait c expired) c new := by
  unfold drainWait
  split
  · next result ended =>
    refine ⟨_, rfl, rfl, ?_, by simp⟩
    match result, ended with
    | .ok (), ended => exact ⟨sealed, drained_ok ended⟩
    | .error _, _ => trivial
  · exact ⟨_, rfl, rfl, sealed, by simp⟩

/-- A wait of `Shutdown` behind the seal. -/
theorem shutdownWait_advances : ∃ new, Advances s (s.shutdownWait c expired) c new := by
  unfold shutdownWait
  split
  · next result ended =>
    refine ⟨_, rfl, rfl, by cases result <;> trivial, ?_⟩
    intro ok
    cases ok
    exact .inr ⟨sealed, drained_ok ended⟩
  · exact ⟨_, rfl, rfl, sealed, by simp⟩

/-- A turn of `WaitStopped` behind the seal. -/
theorem stoppedWait_advances : ∃ new, Advances s (s.stoppedWait c expired) c new := by
  unfold stoppedWait
  dsimp only
  split_ifs with quiet
  · exact ⟨_, rfl, rfl, ⟨⟨sealed, quiet.1, quiet.2.1⟩, quiet.2.2⟩, by simp⟩
  · exact ⟨_, rfl, rfl, trivial, by simp⟩
  · exact ⟨_, rfl, rfl, sealed, by simp⟩

end

/-- `Submit` leaves the calls alone. -/
theorem submit_calls {target : Option Nat} {pc : SubmitPc} {move : SubmitMove}
    {result : SubmitPc ⊕ SubmitOutcome} (stepped : s.submit target pc move = some (next, result)) :
    next.calls = s.calls ∧ next.acceptingStopped = s.acceptingStopped := by
  unfold submit dropLease at stepped
  cases target <;> split at stepped <;> (try split_ifs at stepped) <;> cases stepped <;>
    exact ⟨rfl, rfl⟩

/-- A step of a call advances it. -/
theorem actCall_advances {c : Nat} {pc : ServerCallPc} (found : s.calls[c]? = some pc)
    (promised : Promises s pc) {move : ServerCallMove}
    (stepped : s.actCall c pc move = some next) : ∃ new, Advances s next c new := by
  unfold actCall at stepped
  split at stepped
  case h_3 | h_4 | h_5 | h_6 | h_7 =>
    cases stepped
    exact ⟨_, rfl, rfl, trivial, by simp⟩
  · split_ifs at stepped
    · cases stepped
      exact ⟨_, rfl, rfl, trivial, by simp⟩
    · cases stepped
      exact ⟨_, rfl, rfl, trivial, by simp⟩
    · cases stepped
      exact ⟨_, rfl, rfl, trivial, by simp⟩
  · rw [Option.map_eq_some_iff] at stepped
    obtain ⟨⟨mid, result⟩, submitted, rfl⟩ := stepped
    obtain ⟨calls, accepting⟩ := submit_calls submitted
    refine ⟨_, congrArg (List.set · c _) calls, accepting, ?_, ?_⟩
    · rcases result with pc | outcome
      · trivial
      · cases outcome <;> trivial
    · rcases result with pc | outcome
      · simp
      · cases outcome <;> simp
  · split at stepped
    · cases stepped
      exact ⟨_, rfl, rfl, trivial, by simp⟩
    · next open' =>
      split_ifs at stepped with draining none'
      · -- the answer of a repeated call
        cases stepped
        exact ⟨_, rfl, rfl, trivial, fun _ => .inl ⟨found, open', draining, none'⟩⟩
      · cases stepped
        exact ⟨_, rfl, rfl, trivial, by simp⟩
      · cases stepped
        exact ⟨_, rfl, rfl, trivial, by simp⟩
  · cases stepped
    exact ⟨_, rfl, rfl, rfl, by simp⟩
  · cases stepped
    exact shutdownWait_advances promised c _
  · cases stepped
    exact shutdownWait_advances promised c _
  · split_ifs at stepped with sealed
    · cases stepped
      exact drainWait_advances sealed c _
    · cases stepped
      exact ⟨_, rfl, rfl, trivial, by simp⟩
  · cases stepped
    exact drainWait_advances promised c _
  · split_ifs at stepped with sealed
    · cases stepped
      exact stoppedWait_advances sealed c _
    · cases stepped
      exact ⟨_, rfl, rfl, trivial, by simp⟩
  · cases stepped
    exact stoppedWait_advances promised c _
  · cases stepped

/-- What outlasts every step. -/
structure Lasts (o : ServerConfig) (s next : ServerState) : Prop where
  follows : Follows o s next
  accepting : s.acceptingStopped = true → next.acceptingStopped = true

/-- A promise is kept. -/
theorem Promises.lasts {pc : ServerCallPc} (promised : Promises s pc)
    (balanced : Service.Balanced o.limits s.service) (lasts : Lasts o s next) :
    Promises next pc := by
  obtain ⟨events, executed⟩ := lasts.follows.events
  have grants := exec_noGrant executed
  have sealed : s.stopping = true → next.stopping = true := grants.sealed'
  cases pc with
  | shutdownSealed | shutdownWait | drainWait | waitStoppedAgain => exact sealed promised
  | returned call result =>
    match call, result, promised with
    | .waitStopped, .ok (), ⟨quiet, accepting⟩ =>
      exact ⟨exec_quiet balanced quiet executed, lasts.accepting accepting⟩
    | .drain, .ok (), ⟨stopping, none'⟩ =>
      have fewer : next.inflight ≤ s.inflight := grants.inflight stopping
      exact ⟨sealed stopping, by omega⟩
    | .waitStopped, .error _, _ => trivial
    | .drain, .error _, _ => trivial
    | .start, _, _ => trivial
    | .stopAccepting, _, _ => trivial
    | .close _, _, _ => trivial
    | .shutdown, _, _ => trivial
  | _ => trivial

/-- The accept task leaves the calls alone. -/
theorem actAccept_calls {pc : AcceptPc} {move : AcceptMove}
    (stepped : s.actAccept o pc move = some next) :
    next.calls = s.calls ∧ next.acceptingStopped = s.acceptingStopped := by
  unfold actAccept at stepped
  split at stepped
  case h_1 | h_3 | h_5 | h_7 | h_8 | h_9 | h_10 | h_11 =>
    cases stepped
    exact ⟨rfl, rfl⟩
  · dsimp only at stepped
    split_ifs at stepped <;> cases stepped <;> exact ⟨rfl, rfl⟩
  · split at stepped <;> cases stepped <;> exact ⟨rfl, rfl⟩
  · rw [Option.map_eq_some_iff] at stepped
    obtain ⟨⟨mid, result⟩, submitted, rfl⟩ := stepped
    obtain ⟨calls, accepting⟩ := submit_calls submitted
    exact ⟨calls, accepting⟩
  · cases stepped
    unfold dropLease
    split_ifs <;> exact ⟨rfl, rfl⟩
  · cases stepped

/-- The task of a session leaves the calls alone. -/
theorem serve_calls {k : Nat} {session : ServerSession} {pc : ServePc} {move : ServeMove}
    (stepped : s.serve o k session pc move = some next) :
    next.calls = s.calls ∧ next.acceptingStopped = s.acceptingStopped := by
  unfold serve dropLease at stepped
  split at stepped <;> (try split_ifs at stepped) <;> cases stepped <;> exact ⟨rfl, rfl⟩

/-- Only the call that takes the step moves, and only its own step ends a `Shutdown`. -/
theorem step_calls (promised : ∀ pc ∈ s.calls, Promises s pc) {label : ServerLabel}
    (stepped : s.step o label = some next) :
    (s.acceptingStopped = true → next.acceptingStopped = true) ∧
      ∀ pc ∈ next.calls, pc ∈ s.calls ∨ Promises next pc ∧
        (pc = .returned .shutdown (.ok ()) →
          (∃ c move, label = .act c move ∧ s.repeats c) ∨
            next.stopping = true ∧ next.inflight = 0) := by
  have alone : next.calls = s.calls ∧ next.acceptingStopped = s.acceptingStopped →
      (s.acceptingStopped = true → next.acceptingStopped = true) ∧
        ∀ pc ∈ next.calls, pc ∈ s.calls ∨ Promises next pc ∧
          (pc = .returned .shutdown (.ok ()) →
            (∃ c move, label = .act c move ∧ s.repeats c) ∨
              next.stopping = true ∧ next.inflight = 0) := by
    rintro ⟨calls, accepting⟩
    rw [calls, accepting]
    exact ⟨fun stopped => stopped, fun pc member => .inl member⟩
  cases label with
  | call call host =>
    cases stepped
    refine ⟨fun stopped => stopped, fun pc member => ?_⟩
    rcases List.mem_append.mp member with old | new
    · exact .inl old
    · obtain rfl := List.mem_singleton.mp new
      refine .inr ⟨?_, ?_⟩
      · cases call <;> cases host <;> trivial
      · cases call <;> cases host <;> simp [begin']
  | act c move =>
    obtain ⟨pc, found, stepped⟩ := Option.bind_eq_some_iff.mp stepped
    obtain ⟨new, advances⟩ :=
      actCall_advances found (promised pc (List.mem_of_getElem? found)) stepped
    refine ⟨by rw [advances.accepting]; exact id, fun pc' member => ?_⟩
    rw [advances.calls] at member
    rcases List.mem_or_eq_of_mem_set member with old | rfl
    · exact .inl old
    · refine .inr ⟨advances.promises, fun ok => ?_⟩
      exact (advances.shutdown ok).imp_left fun again => ⟨c, move, rfl, again⟩
  | accept move => exact alone (actAccept_calls stepped)
  | serve k move =>
    obtain ⟨session, -, stepped⟩ := Option.bind_eq_some_iff.mp stepped
    exact alone (serve_calls stepped)
  | released | stats | failNextTask =>
    cases stepped
    exact alone ⟨rfl, rfl⟩
  | acceptingStopped =>
    cases stepped
    exact ⟨fun _ => rfl, fun pc member => .inl member⟩

/-- A reachable server with the promises of its calls. -/
structure Honest (o : ServerConfig) (s : ServerState) : Prop where
  sound : Sound o s
  balanced : Service.Balanced o.limits s.service
  promised : ∀ pc ∈ s.calls, Promises s pc

/-- A step keeps all promises. -/
theorem Honest.step (honest : Honest o s) {label : ServerLabel}
    (stepped : s.step o label = some next) : Honest o next := by
  have follows := step_follows honest.sound stepped
  obtain ⟨events, executed⟩ := follows.events
  obtain ⟨accepting, calls⟩ := step_calls honest.promised stepped
  refine ⟨follows.sound, exec_balanced honest.balanced executed, fun pc member => ?_⟩
  rcases calls pc member with old | ⟨promised, -⟩
  · exact (honest.promised pc old).lasts honest.balanced ⟨follows, accepting⟩
  · exact promised

/-- Every reachable server keeps its promises. -/
theorem reachable_honest (reachable : (serverMachine o).Reachable s) : Honest o s := by
  refine reachable.invariant (Honest o) ?_ fun s label next honest stepped => honest.step stepped
  rintro _ rfl
  have books := reachable_sound (o := o) (s := {}) ⟨[], .start rfl⟩
  exact ⟨books.1, books.2, fun pc member => by cases member⟩

/-- The books of a server, read off its state. -/
structure Ledger (o : ServerConfig) (s : ServerState) : Prop where
  inflight : s.inflight = s.heap.countP ServerSession.authorized
  bounded : s.inflight ≤ o.maxInflight
  tasks : s.tasks = s.heap.countP (fun session => session.lease.counts) +
    if s.acceptLease.counts then 1 else 0
  connections : s.sessions.length ≤ o.maxConnections
  /-- A session that is authorized is in the table. -/
  authorized : ∀ (k : Nat) session, s.heap[k]? = some session → session.authorized = true →
    k ∈ s.sessions
  /-- What has left the table has no task and no connection. -/
  left : ∀ (k : Nat) session, s.heap[k]? = some session → k ∉ s.sessions →
    session.taskDone = true ∧ session.released = true

/-- Right books of the service are right books of the server. -/
theorem Honest.ledger (honest : Honest o s) : Ledger o s := by
  have balanced := honest.balanced
  have client : ∀ (k : Nat) session, s.heap[k]? = some session →
      s.service.clients[k]? = some session.client := by
    intro k session found
    simp [service, found]
  refine ⟨?_, balanced.bounded, ?_, balanced.room, ?_, ?_⟩
  · have inflight := balanced.inflight
    simp only [service, List.countP_map] at inflight
    exact inflight
  · have tasks := balanced.tasks
    simp only [service, List.countP_map] at tasks
    exact tasks
  · intro k session found authorized
    have task := balanced.granted k _ (client k session found) authorized
    have running := balanced.running k _ (client k session found) task
    rcases balanced.present k _ (client k session found) with listed | past
    · exact listed
    · rw [Client.past, running] at past
      cases past
  · intro k session found gone
    rcases balanced.present k _ (client k session found) with listed | past
    · exact absurd listed gone
    · simpa [Client.past, ServerSession.client] using past

/-- A `WaitStopped` has returned well. -/
def Stopped (s : ServerState) : Prop := .returned .waitStopped (.ok ()) ∈ s.calls

/-- No task, no session, and accepting has stopped. -/
structure Empty (s : ServerState) : Prop where
  tasks : s.tasks = 0
  sessions : s.sessions = []
  acceptingStopped : s.acceptingStopped = true

/-- Behind a `WaitStopped` that has returned well nothing appears again. -/
theorem Honest.stays_empty (honest : Honest o s) (stopped : s.Stopped) {labels : List ServerLabel}
    {later : ServerState} (executed : (serverMachine o).exec s labels = some later) :
    Empty later := by
  have promised : s.service.Quiet ∧ s.acceptingStopped = true := honest.promised _ stopped
  have kept : Honest o later ∧ later.service.Quiet ∧ later.acceptingStopped = true := by
    clear stopped
    induction labels generalizing s with
    | nil =>
      cases executed
      exact ⟨honest, promised⟩
    | cons label labels ih =>
      obtain ⟨middle, stepped, rest⟩ := Option.bind_eq_some_iff.mp executed
      have stepped' : s.step o label = some middle := stepped
      obtain ⟨events, books⟩ := (step_follows honest.sound stepped').events
      obtain ⟨accepting, -⟩ := step_calls honest.promised stepped'
      exact ih (honest.step stepped') rest
        ⟨exec_quiet honest.balanced promised.1 books, accepting promised.2⟩
  exact ⟨kept.2.1.tasks, kept.2.1.listed, kept.2.2⟩

/-- Nothing is authorized behind the seal. -/
theorem Honest.no_grant (honest : Honest o s) {label : ServerLabel}
    (stepped : s.step o label = some next) (sealed : s.stopping = true) {k : Nat}
    {session : ServerSession} (found : next.heap[k]? = some session)
    (authorized : session.authorized = true) :
    ∃ before, s.heap[k]? = some before ∧ before.authorized = true := by
  obtain ⟨events, executed⟩ := (step_follows honest.sound stepped).events
  have granted : next.service.client k Client.granted = true := by
    rw [service_client found]
    exact authorized
  have before := (exec_noGrant executed).granted sealed k granted
  obtain ⟨client, found', held⟩ := client_found before
  simp only [service, List.getElem?_map, Option.map_eq_some_iff] at found'
  obtain ⟨old, there, rfl⟩ := found'
  exact ⟨old, there, held⟩

/-- The books of a server are right in every state, no session is authorized behind the seal, and
behind a `WaitStopped` that has returned well there is no task and no session again. -/
theorem server_ledger (o : ServerConfig) (s : ServerState)
    (reachable : (serverMachine o).Reachable s) :
    Ledger o s ∧
    (∀ label next, s.step o label = some next → s.stopping = true →
      ∀ (k : Nat) session, next.heap[k]? = some session → session.authorized = true →
        ∃ before, s.heap[k]? = some before ∧ before.authorized = true) ∧
    (s.Stopped → ∀ labels later, (serverMachine o).exec s labels = some later → Empty later) := by
  have honest := reachable_honest reachable
  refine ⟨honest.ledger, ?_, ?_⟩
  · intro label next stepped sealed k session found authorized
    exact honest.no_grant stepped sealed found authorized
  · intro stopped labels later executed
    exact honest.stays_empty stopped executed

/-- A server for one connection and one request at a time. -/
def single : ServerConfig := { maxConnections := 1, maxInflight := 1 }

/-- The server starts, and a connection is accepted and looks for a request. -/
def acceptedRun : List ServerLabel :=
  [.call .start true, .act 0 (.start true), .act 0 (.submit (.make true)),
    .act 0 (.submit .count), .act 0 (.submit (.register .registered)), .act 0 (.submit .drop),
    .accept .run, .accept .look, .accept (.make true), .accept (.take .connection), .accept .place,
    .accept (.submit (.make true)), .accept (.submit .count),
    .accept (.submit (.register .registered)), .accept (.submit .drop),
    .serve 0 .run, .serve 0 .look]

/-- One connection is accepted, serves one request, and everything is stopped. -/
def wholeRun : List ServerLabel :=
  acceptedRun ++ [.serve 0 (.complete false), .serve 0 (.authorize false),
    .call .stopAccepting true, .act 1 .go, .act 1 .go,
    .serve 0 .handled, .serve 0 .alive, .serve 0 (.buffered true), .serve 0 .close,
    .serve 0 .settle, .serve 0 .leave, .serve 0 .release, .serve 0 .destroy, .released 0,
    .accept .look, .accept .destroy, .acceptingStopped,
    .call .waitStopped true, .act 2 (.wait false)]

/-- At its end the `WaitStopped` has returned well. -/
theorem server_ledger_stopped : ∃ s, (serverMachine single).Reachable s ∧ s.requests = 1 ∧
    s.Stopped ∧ Ledger single s ∧ Empty s := by
  have begun : (serverMachine single).start {} := rfl
  obtain ⟨s, reachable, test⟩ := Machine.exists_reachable wholeRun
    (fun s : ServerState => decide (s.requests = 1 ∧ .returned .waitStopped (.ok ()) ∈ s.calls))
    begun (by decide +kernel)
  obtain ⟨requests, stopped⟩ := of_decide_eq_true test
  obtain ⟨ledger, -, empty⟩ := server_ledger single s reachable
  exact ⟨s, reachable, requests, stopped, ledger, empty stopped [] s rfl⟩

/-- A `Shutdown` or a `Drain` has returned well. -/
def Drained (s : ServerState) : Prop :=
  .returned .shutdown (.ok ()) ∈ s.calls ∨ .returned .drain (.ok ()) ∈ s.calls

/-- Nothing is in flight, and no session is authorized. -/
structure Idle (s : ServerState) : Prop where
  inflight : s.inflight = 0
  authorized : ∀ (k : Nat) session, s.heap[k]? = some session → session.authorized = false

/-- The step does not answer a repeated `Shutdown` well before the server is sealed. -/
def Patient (s : ServerState) : ServerLabel → Prop
  | .act c _ => s.repeats c → s.stopping = true
  | _ => True

instance (c : Nat) : Decidable (s.repeats c) := inferInstanceAs (Decidable (_ ∧ _ ∧ _ ∧ _))

instance (label : ServerLabel) : Decidable (Patient s label) :=
  match label with
  | .act c _ => inferInstanceAs (Decidable (s.repeats c → s.stopping = true))
  | .call _ _ | .accept _ | .serve _ _ | .released _ | .acceptingStopped | .stats
  | .failNextTask => inferInstanceAs (Decidable True)

/-- In a run whose steps are patient, once a `Shutdown` or a `Drain` has returned well nothing is
in flight any more and no handler is authorized again. -/
theorem drained_final (o : ServerConfig) {labels : List ServerLabel} {s : ServerState}
    (run : (serverMachine o).GuardedRun Patient labels s) (drained : s.Drained) : Idle s := by
  have kept : Honest o s ∧
      (.returned .shutdown (.ok ()) ∈ s.calls → s.stopping = true ∧ s.inflight = 0) := by
    refine run.invariant (fun s => Honest o s ∧
      (.returned .shutdown (.ok ()) ∈ s.calls → s.stopping = true ∧ s.inflight = 0)) ?_ ?_
    · rintro _ rfl
      exact ⟨reachable_honest ⟨[], .start rfl⟩, fun wrong => by cases wrong⟩
    · rintro s label next ⟨honest, before⟩ patient stepped
      refine ⟨honest.step stepped, fun ended => ?_⟩
      obtain ⟨events, executed⟩ := (step_follows honest.sound stepped).events
      have grants := exec_noGrant executed
      have lasts : s.stopping = true ∧ s.inflight = 0 →
          next.stopping = true ∧ next.inflight = 0 := by
        rintro ⟨sealed, none'⟩
        have fewer : next.inflight ≤ s.inflight := grants.inflight sealed
        exact ⟨grants.sealed' sealed, by omega⟩
      rcases (step_calls honest.promised stepped).2 _ ended with old | ⟨-, ends⟩
      · exact lasts (before old)
      · rcases ends rfl with ⟨c, move, rfl, again⟩ | now
        · exact lasts ⟨patient again, again.2.2.2⟩
        · exact now
  obtain ⟨honest, shutdown⟩ := kept
  have none' : s.inflight = 0 := by
    rcases drained with ended | ended
    · exact (shutdown ended).2
    · exact (honest.promised _ ended : s.stopping = true ∧ s.inflight = 0).2
  refine ⟨none', fun k session found => ?_⟩
  have count := honest.ledger.inflight
  rw [none'] at count
  exact List.not_of_countP_eq_zero found count.symm

/-- One request is served beside a `Shutdown` that waits for it. -/
def shutdownRun : List ServerLabel :=
  acceptedRun ++ [.serve 0 (.complete true), .serve 0 (.authorize false),
    .call .shutdown true, .act 1 .go, .act 1 .go, .act 1 (.wait false),
    .serve 0 .handled, .serve 0 .alive, .serve 0 (.buffered true), .serve 0 .close,
    .serve 0 .settle, .act 1 (.wait false)]

/-- All its steps are patient, and at its end nothing is in flight. -/
theorem drained_final_shutdown : ∃ s, (serverMachine single).GuardedRun Patient shutdownRun s ∧
    s.requests = 1 ∧ s.Drained ∧ Idle s := by
  have begun : (serverMachine single).start {} := rfl
  obtain ⟨s, run, test⟩ := Machine.exists_guardedRun shutdownRun
    (fun s label => decide (Patient s label))
    (fun s : ServerState => decide (s.requests = 1 ∧ .returned .shutdown (.ok ()) ∈ s.calls)) begun
    (by decide +kernel)
  have patient : (serverMachine single).GuardedRun Patient shutdownRun s :=
    run.mono fun _ _ met => of_decide_eq_true met
  obtain ⟨requests, ended⟩ := of_decide_eq_true test
  exact ⟨s, patient, requests, .inl ended, drained_final single patient (.inl ended)⟩

/-- A second `Shutdown` answers before the first has sealed the server, and a session that has
read its request is authorized behind it. -/
def hastyRun : List ServerLabel :=
  acceptedRun ++ [.serve 0 (.complete true),
    .call .shutdown true, .act 1 .go, .call .shutdown true, .act 2 .go,
    .serve 0 (.authorize false)]

/-- A `Shutdown` that has returned well is not final. -/
theorem drained_not_final : ∃ s, (serverMachine single).Reachable s ∧ s.Drained ∧ ¬Idle s := by
  have begun : (serverMachine single).start {} := rfl
  obtain ⟨s, reachable, test⟩ := Machine.exists_reachable hastyRun
    (fun s : ServerState => decide (s.inflight = 1 ∧ .returned .shutdown (.ok ()) ∈ s.calls)) begun
    (by decide +kernel)
  obtain ⟨inflight, ended⟩ := of_decide_eq_true test
  refine ⟨s, reachable, .inl ended, fun idle => ?_⟩
  have none' := idle.inflight
  omega

end ServerState

end BbtInfra.Http
