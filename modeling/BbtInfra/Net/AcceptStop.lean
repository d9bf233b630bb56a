import BbtInfra.Lib.Machine

/-!
# Stopping to accept

`Engine::RequestStopAccepting` sets a latch, closes the handoff and leaves the listeners to their
owner, which reports the physical close. `Engine::Run` installs the listeners, offers the stop again
in its loop, and reports it itself once it has unbound the owner. A call that finds no owner reports
the stop when the phase says that there are no listeners. Any number of calls, the owner of the
listeners and the thread in `Run`, later in the destructor, take their steps in any order.
-/
namespace BbtInfra.Net

open Lib

/-- `EnginePhase`. -/
inductive EnginePhase
  | idle | starting | running | closing | stopped
  deriving DecidableEq, Repr

/-- The handlers for the owner of the listeners. -/
inductive AcceptTask
  /-- `InstallOnOwner` with the addresses. -/
  | install
  /-- `StopAcceptingOnOwner`. -/
  | stop
  /-- `SealServiceOnOwner`. -/
  | seal'
  deriving DecidableEq, Repr

/-- Where the owner of the listeners stands. -/
inductive AcceptOwnerPc
  | rest
  /-- `InstallOnOwner` before its first look at the request. -/
  | install
  /-- So many addresses are still to be opened. -/
  | opening (left : Nat)
  /-- A socket listens that is not in `m_listeners` yet. -/
  | listening (left : Nat)
  /-- All sockets are open, and the second look is next. -/
  | recheck
  /-- The installed listeners are about to be closed again. -/
  | rollback
  /-- `StopAcceptingOnOwner` has closed the listeners and is about to mark the stop. -/
  | stopped
  /-- A handler has thrown, and the driver has failed. -/
  | dead
  deriving DecidableEq, Repr

/-- Where `TryPostAcceptStop` stands. -/
inductive PostPc
  | look
  | claim
  | submit
  | retract
  deriving DecidableEq, Repr

/-- Where a call of `RequestStopAccepting` stands. -/
inductive RequestPc
  | exchange
  /-- The latch is set, and the handoff is to be closed and emptied. -/
  | drain
  /-- Before it reads the owner and the phase. -/
  | look
  | post (pc : PostPc)
  | mark
  | returned
  deriving DecidableEq, Repr

/-- Where the control thread stands once it unbinds the drivers. -/
inductive SettlePc
  | unbind
  | finalize
  | release
  | look
  | mark
  | clear
  deriving DecidableEq, Repr

/-- Where `Run` stands. -/
inductive RunPc
  | idle
  /-- The phase is `Starting`, and the request is not looked at yet. -/
  | entry
  | setup
  /-- The reactors are published, and their installation is about to be posted. -/
  | install
  | wait
  | check
  | announce
  | mark
  | publish
  | loop
  | post (pc : PostPc)
  /-- The phase is `Closing`, and the owner is about to get its seal. -/
  | seal'
  | sealed
  /-- The drivers are unbound, by `abort_install`, or at the end of `Run` and in the destructor. -/
  | settle (final : Bool) (pc : SettlePc)
  /-- `fail` is about to store `Stopped`. -/
  | fail
  | returned
  deriving DecidableEq, Repr

/-- How a step ends that may fail. -/
inductive AcceptOutcome
  | ok
  | failed
  /-- A handler throws. -/
  | throws
  /-- `Run` returns and keeps its slots. -/
  | kept
  /-- `Run` leaves its loop for a requested close; behind `Run`, the engine is destroyed. -/
  | close
  deriving DecidableEq, Repr

/-- What decides about the listeners of an engine. -/
structure AcceptStop where
  /-- `accept_stop_requested`, `accept_stop_posted`, `accept_stop_done`. -/
  requested : Bool := false
  posted : Bool := false
  done : Bool := false
  phase : EnginePhase := .idle
  /-- `main_reactor` is set, and its `m_driver`. -/
  main : Bool := false
  driver : Bool := false
  /-- The driver of the owner is unregistered, and no handler runs on it any more. -/
  unbound : Bool := false
  /-- `m_installed` of the owner. -/
  installed : Bool := false
  /-- The listening descriptors that are open. -/
  openFds : Nat := 0
  queue : List AcceptTask := []
  owner : AcceptOwnerPc := .rest
  /-- The result of the installation of the owner, once its promise is set. -/
  result : Option Bool := none
  run : RunPc := .idle
  calls : List RequestPc := []
  deriving DecidableEq, Repr

/-- The steps that concern the listeners of an engine. -/
inductive AcceptStopLabel
  | run (outcome : AcceptOutcome)
  | owner (outcome : AcceptOutcome)
  /-- `RequestStopAccepting` is called. -/
  | request
  | act (i : Nat) (outcome : AcceptOutcome)
  deriving DecidableEq, Repr

namespace AcceptStop

/-- `AcceptingStopped`. -/
def acceptingStopped (s : AcceptStop) : Bool := s.requested && s.done

/-- The next step of `TryPostAcceptStop`, and where it stands then. -/
def post (s : AcceptStop) (outcome : AcceptOutcome) : PostPc → AcceptStop × Option PostPc
  | .look => (s, if s.done then none else some .claim)
  | .claim => if s.posted then (s, none) else ({ s with posted := true }, some .submit)
  | .submit =>
    if outcome = .ok ∧ s.driver then ({ s with queue := s.queue ++ [.stop] }, none)
    else (s, some .retract)
  | .retract => ({ s with posted := false }, none)

/-- The next step of the owner of the listeners. -/
def actOwner (addresses : Nat) (s : AcceptStop) (outcome : AcceptOutcome) : Option AcceptStop :=
  if s.unbound then none
  else
    match s.owner, outcome with
    | .rest, .throws => some { s with owner := .dead }
    | .rest, .ok =>
      match s.queue with
      | [] => none
      | .install :: rest => some { s with queue := rest, owner := .install }
      | .stop :: rest => some { s with queue := rest, openFds := 0, owner := .stopped }
      | .seal' :: rest => some { s with queue := rest, openFds := 0 }
    | .install, .ok =>
      if s.requested then some { s with owner := .rest, result := some false }
      else if s.installed then some { s with owner := .rest, result := some true }
      else some { s with owner := .opening addresses }
    | .opening 0, .ok => some { s with installed := true, owner := .recheck }
    | .opening (left + 1), .ok =>
      some { s with openFds := s.openFds + 1, owner := .listening left }
    | .opening _, .failed => some { s with owner := .rollback }
    | .opening _, .throws => some { s with owner := .dead }
    | .listening left, .ok => some { s with owner := .opening left }
    | .listening _, .failed => some { s with openFds := s.openFds - 1, owner := .rollback }
    | .listening _, .throws => some { s with openFds := s.openFds - 1, owner := .dead }
    | .recheck, .ok =>
      if s.requested then some { s with owner := .rollback }
      else some { s with owner := .rest, result := some true }
    | .rollback, .ok => some { s with openFds := 0, owner := .rest, result := some false }
    | .stopped, .ok => some { s with done := true, owner := .rest }
    | _, _ => none

/-- The next step of the control thread while it unbinds the drivers. -/
def actSettle (s : AcceptStop) (final : Bool) (outcome : AcceptOutcome) :
    SettlePc → Option AcceptStop
  | .unbind =>
    if outcome = .failed then some { s with phase := .closing, run := .returned }
    -- `UnregisterProcesserDriver` does not interrupt a handler.
    else if s.owner = .rest ∨ s.owner = .dead then
      some { s with unbound := true, run := .settle final .finalize }
    else none
  | .finalize => some { s with openFds := 0, run := .settle final .release }
  | .release => some { s with driver := false, run := .settle final .look }
  | .look => some { s with run := .settle final (if s.requested then .mark else .clear) }
  | .mark => some { s with done := true, run := .settle final .clear }
  | .clear =>
    some (if final then { s with main := false, phase := .stopped, run := .returned }
      else { s with main := false, run := .fail })

/-- The next step of `Run`. -/
def actRun (addresses : Nat) (s : AcceptStop) (outcome : AcceptOutcome) : Option AcceptStop :=
  match s.run, outcome with
  | .idle, .ok => some { s with phase := .starting, run := .entry }
  | .entry, .ok => some { s with run := if 0 < addresses ∧ s.requested then .fail else .setup }
  | .setup, .failed => some { s with run := .fail }
  | .setup, .kept => some { s with phase := .closing, run := .returned }
  | .setup, .ok => some { s with main := decide (0 < addresses), driver := true, run := .install }
  | .install, .failed => some { s with result := some false, run := .wait }
  | .install, .ok =>
    some { s with
      queue := if 0 < addresses then s.queue ++ [.install] else s.queue
      run := .wait }
  -- The installation of another reactor may fail as well, or a driver.
  | .wait, .failed => some { s with run := .settle false .unbind }
  | .wait, .kept => some { s with phase := .closing, run := .returned }
  | .wait, .ok =>
    if addresses = 0 ∨ s.result = some true then some { s with run := .check } else none
  | .check, .ok =>
    some { s with
      run := if 0 < addresses ∧ s.requested then .settle false .unbind else .announce }
  | .announce, .ok =>
    some { s with run := if addresses = 0 ∧ s.requested then .mark else .publish }
  | .mark, .ok => some { s with done := true, run := .publish }
  | .publish, .ok => some { s with phase := .running, run := .loop }
  | .loop, .ok =>
    some { s with run := if 0 < addresses ∧ s.requested then .post .look else .loop }
  | .loop, .failed => some { s with phase := .closing, run := .settle true .unbind }
  | .loop, .close => some { s with phase := .closing, run := .seal' }
  | .post pc, outcome =>
    let (s, next) := s.post outcome pc
    some { s with run := (next.map .post).getD .loop }
  | .seal', .ok =>
    some { s with
      queue := if 0 < addresses then s.queue ++ [.seal'] else s.queue
      run := .sealed }
  -- The wait for the seals is over, by their promises or by a failed driver.
  | .sealed, .ok => some { s with run := .settle true .unbind }
  | .settle final pc, outcome => s.actSettle final outcome pc
  | .fail, .ok => some { s with phase := .stopped, run := .returned }
  | .returned, .close =>
    if s.phase = .closing then some { s with run := .settle true .unbind } else none
  | _, _ => none

/-- A call goes on. -/
def setCall (s : AcceptStop) (i : Nat) (pc : RequestPc) : AcceptStop :=
  { s with calls := s.calls.set i pc }

/-- The next step of a call of `RequestStopAccepting`. -/
def actCall (s : AcceptStop) (i : Nat) (outcome : AcceptOutcome) : RequestPc → Option AcceptStop
  | .exchange =>
    if s.requested then some (s.setCall i .returned)
    else some ({ s with requested := true }.setCall i .drain)
  -- Every exception is caught.
  | .drain => some (s.setCall i (if outcome = .ok then .look else .returned))
  | .look =>
    some (s.setCall i
      (if s.main then .post .look
      else if s.phase = .idle ∨ s.phase = .running ∨ s.phase = .stopped then .mark
      else .returned))
  | .post pc =>
    let (s, next) := s.post outcome pc
    some (s.setCall i ((next.map .post).getD .returned))
  | .mark => some ({ s with done := true }.setCall i .returned)
  | .returned => none

/-- The state after a step. -/
def step (addresses : Nat) (s : AcceptStop) : AcceptStopLabel → Option AcceptStop
  | .run outcome => s.actRun addresses outcome
  | .owner outcome => s.actOwner addresses outcome
  | .request => some { s with calls := s.calls ++ [.exchange] }
  | .act i outcome => (s.calls[i]?).bind (s.actCall i outcome)

end AcceptStop

/-- An engine that is to listen on so many addresses, from its construction on. -/
def acceptStopMachine (addresses : Nat) : Machine AcceptStop AcceptStopLabel where
  start s := s = {}
  step := AcceptStop.step addresses

namespace AcceptStop

/-- The owner is past its first look at the request and may have descriptors open. -/
def opens (s : AcceptStop) : Bool :=
  match s.owner with
  | .opening _ | .listening _ | .recheck | .rollback => true
  | _ => false

/-- The request is there, nothing is open and the owner is not about to open anything. -/
def Shut (s : AcceptStop) : Prop := s.requested = true ∧ s.openFds = 0 ∧ s.opens = false

/-- Nothing is open, and no installation is on the way. -/
def Inert (s : AcceptStop) : Prop :=
  s.openFds = 0 ∧ s.opens = false ∧
    (s.unbound = true ∨ .install ∉ s.queue ∧ s.owner ≠ .install)

/-- What the place of `Run` says about the phase, the owner and the listeners. -/
def Placed (addresses : Nat) (s : AcceptStop) : Prop :=
  match s.run with
  | .idle => s.phase = .idle ∧ s.main = false ∧ s.Inert
  | .entry | .setup | .fail => s.phase = .starting ∧ s.main = false ∧ s.Inert
  | .install => s.phase = .starting ∧ s.main = decide (0 < addresses) ∧ s.Inert
  | .mark => s.phase = .starting ∧ addresses = 0 ∧ s.requested = true ∧ s.main = false
  | .wait | .check | .announce | .publish =>
    s.phase = .starting ∧ s.main = decide (0 < addresses)
  | .loop => s.phase = .running ∧ s.main = decide (0 < addresses)
  | .post _ => s.phase = .running ∧ s.main = decide (0 < addresses) ∧ s.requested = true
  | .seal' | .sealed => s.phase = .closing
  | .settle final pc =>
    s.phase = (if final then .closing else .starting) ∧
      match pc with
      | .unbind => True
      | .finalize => s.unbound = true
      | .mark => s.Inert ∧ s.requested = true
      | _ => s.Inert
  | .returned => s.phase = .closing ∨ s.phase = .stopped ∧ s.main = false ∧ s.Inert

/-- What holds in every state of every run. -/
structure Sound (addresses : Nat) (s : AcceptStop) : Prop where
  placed : s.Placed addresses
  client : addresses = 0 → s.Inert
  unbound : s.unbound = true → s.opens = false
  marking : s.owner = .stopped → s.requested = true ∧ s.openFds = 0
  queued : .stop ∈ s.queue → s.requested = true
  latched : ∀ pc ∈ s.calls, pc ≠ .exchange → s.requested = true
  marks : .mark ∈ s.calls → s.Shut
  done : s.done = true → s.Shut

variable {addresses : Nat} {s s' : AcceptStop} {label : AcceptStopLabel}
  {outcome : AcceptOutcome}

/-- What the place of `Run` says stays true when others go on. -/
theorem Placed.mono (placed : s.Placed addresses) (run : s'.run = s.run)
    (phase : s'.phase = s.phase) (main : s'.main = s.main)
    (unbound : s.unbound = true → s'.unbound = true)
    (requested : s.requested = true → s'.requested = true)
    (inert : s.Inert → s'.Inert) : s'.Placed addresses := by
  unfold Placed at placed ⊢
  rw [run, phase, main]
  generalize s.run = place at placed ⊢
  cases place with
  | settle final pc => cases pc <;> simp_all
  | returned => exact placed.imp_right fun ⟨stopped, off, quiet⟩ => ⟨stopped, off, inert quiet⟩
  | _ => simp_all

/-- What a step of the owner leaves alone, and what it may do. -/
structure OwnerTurn (s s' : AcceptStop) : Prop where
  bound : s.unbound = false ∧ s'.unbound = false
  requested : s'.requested = s.requested
  phase : s'.phase = s.phase
  main : s'.main = s.main
  driver : s'.driver = s.driver
  run : s'.run = s.run
  calls : s'.calls = s.calls
  queue : s'.queue ⊆ s.queue
  stops : s'.owner = .stopped → .stop ∈ s.queue ∧ s'.openFds = 0
  done : s'.done = s.done ∨
    s'.done = true ∧ s.owner = .stopped ∧ s'.openFds = s.openFds ∧ s'.owner = .rest
  shut : s.Shut → s'.Shut
  inert : s.Inert → s'.Inert

/-- A step of the owner does what a turn may do. -/
theorem actOwner_turn (stepped : s.actOwner addresses outcome = some s') : s.OwnerTurn s' := by
  unfold actOwner at stepped
  split at stepped
  · cases stepped
  · rename_i bound
    split at stepped
    case h_2 =>
      split at stepped
      · cases stepped
      all_goals
        cases stepped
        constructor <;> simp_all [Shut, Inert, opens]
    case h_3 =>
      split at stepped
      · cases stepped
        constructor <;> simp_all [Shut, Inert, opens]
      · split at stepped <;> cases stepped <;> constructor <;> simp_all [Shut, Inert, opens]
    case h_11 =>
      split at stepped <;> cases stepped <;> constructor <;> simp_all [Shut, Inert, opens]
    all_goals
      cases stepped
      try constructor <;> simp_all [Shut, Inert, opens]

/-- `TryPostAcceptStop` submits the stop or leaves everything but its flag. -/
theorem post_turn (s : AcceptStop) (outcome : AcceptOutcome) (pc : PostPc) :
    ∃ posted tasks, tasks ⊆ [AcceptTask.stop] ∧
    (s.post outcome pc).1 = { s with posted, queue := s.queue ++ tasks } := by
  cases pc with
  | look => exact ⟨s.posted, [], by simp, by simp [post]⟩
  | claim =>
    by_cases posted : s.posted = true
    · refine ⟨s.posted, [], by simp, ?_⟩
      simp only [post]
      rw [if_pos posted]
      simp
    · exact ⟨true, [], by simp, by simp [post, posted]⟩
  | submit =>
    by_cases accepted : outcome = .ok ∧ s.driver = true
    · exact ⟨s.posted, [.stop], by simp, by simp [post, accepted]⟩
    · exact ⟨s.posted, [], by simp, by simp [post, accepted]⟩
  | retract => exact ⟨false, [], by simp, by simp [post]⟩

/-- What a step of a call leaves alone, and what it may do. -/
structure CallTurn (s s' : AcceptStop) (i : Nat) (pc pc' : RequestPc) : Prop where
  owner : s'.owner = s.owner
  openFds : s'.openFds = s.openFds
  unbound : s'.unbound = s.unbound
  phase : s'.phase = s.phase
  main : s'.main = s.main
  driver : s'.driver = s.driver
  run : s'.run = s.run
  calls : s'.calls = s.calls.set i pc'
  requested : s'.requested = true ∨ pc ≠ .exchange ∧ s'.requested = s.requested
  queue : ∃ tasks, tasks ⊆ [AcceptTask.stop] ∧ s'.queue = s.queue ++ tasks
  leaves : pc' ≠ .exchange
  done : s'.done = s.done ∨ s'.done = true ∧ pc = .mark
  marks : pc' = .mark → pc = .look ∧ s.main = false ∧
    (s.phase = .idle ∨ s.phase = .running ∨ s.phase = .stopped)

variable {i : Nat} {pc pc' : RequestPc}

/-- A step of a call does what a turn may do. -/
theorem actCall_turn (stepped : s.actCall i outcome pc = some s') :
    ∃ pc', s.CallTurn s' i pc pc' := by
  have same : ∃ tasks, tasks ⊆ [AcceptTask.stop] ∧ s.queue = s.queue ++ tasks :=
    ⟨[], by simp, by simp⟩
  cases pc with
  | exchange =>
    simp only [actCall] at stepped
    split at stepped <;> cases stepped
    · exact ⟨.returned, by constructor <;> simp_all [setCall]⟩
    · exact ⟨.drain, by constructor <;> simp_all [setCall]⟩
  | drain =>
    cases stepped
    refine ⟨if outcome = .ok then .look else .returned, ?_⟩
    split <;> constructor <;> simp_all [setCall]
  | look =>
    cases stepped
    refine ⟨_, ⟨rfl, rfl, rfl, rfl, rfl, rfl, rfl, rfl, ?_, same, ?_, .inl rfl, ?_⟩⟩
    · exact .inr ⟨by simp, rfl⟩
    · split
      · simp
      · split <;> simp
    · intro marks
      by_cases main : s.main = true
      · simp [main] at marks
      · rw [if_neg main] at marks
        refine ⟨rfl, by simpa using main, ?_⟩
        by_contra other
        rw [if_neg other] at marks
        cases marks
  | post pc =>
    simp only [actCall] at stepped
    obtain ⟨posted, tasks, stops, after⟩ := s.post_turn outcome pc
    rw [after] at stepped
    cases stepped
    refine ⟨_, ⟨rfl, rfl, rfl, rfl, rfl, rfl, rfl, rfl, ?_, ⟨tasks, stops, rfl⟩, ?_, .inl rfl, ?_⟩⟩
    · exact .inr ⟨by simp, rfl⟩
    · cases (s.post outcome pc).2 <;> simp
    · cases (s.post outcome pc).2 <;> simp
  | mark =>
    cases stepped
    exact ⟨.returned, by constructor <;> simp_all [setCall]⟩
  | returned => cases stepped

/-- What is shut stays shut when a call goes on. -/
theorem CallTurn.shut (turn : s.CallTurn s' i pc pc') (shut : s.Shut) : s'.Shut := by
  obtain ⟨requested, fds, opens⟩ := shut
  refine ⟨?_, turn.openFds.trans fds, ?_⟩
  · rcases turn.requested with now | ⟨_, kept⟩
    · exact now
    · exact kept.trans requested
  · unfold AcceptStop.opens at opens ⊢
    rw [turn.owner]
    exact opens

/-- What is inert stays inert when a call goes on. -/
theorem CallTurn.inert (turn : s.CallTurn s' i pc pc') (inert : s.Inert) : s'.Inert := by
  obtain ⟨fds, opens, quiet⟩ := inert
  obtain ⟨tasks, stops, queue⟩ := turn.queue
  refine ⟨turn.openFds.trans fds, ?_, ?_⟩
  · unfold AcceptStop.opens at opens ⊢
    rw [turn.owner]
    exact opens
  · rw [turn.unbound, turn.owner, queue]
    apply quiet.imp_right
    rintro ⟨absent, owner⟩
    refine ⟨?_, owner⟩
    intro member
    rcases List.mem_append.mp member with old | new
    · exact absent old
    · have stop := List.mem_singleton.mp (stops new)
      cases stop

/-- What is inert and requested is shut. -/
theorem Inert.shut (inert : s.Inert) (requested : s.requested = true) : s.Shut :=
  ⟨requested, inert.1, inert.2.1⟩

/-- Once the phase is `Stopped`, `Run` has returned and there is no owner. -/
theorem Sound.stopped (sound : s.Sound addresses) (stopped : s.phase = .stopped) :
    s.run = .returned ∧ s.main = false ∧ s.Inert := by
  have placed := sound.placed
  unfold Placed at placed
  split at placed
  case h_15 final pc place =>
    rw [placed.1] at stopped
    cases final <;> cases stopped
  case h_16 place =>
    refine ⟨place, ?_⟩
    rcases placed with closing | ⟨_, behind⟩
    · rw [closing] at stopped
      cases stopped
    · exact behind
  all_goals simp_all

/-- A call that finds no owner and goes to mark the stop finds the listeners inert. -/
theorem Sound.unowned (sound : s.Sound addresses) (main : s.main = false)
    (phase : s.phase = .idle ∨ s.phase = .running ∨ s.phase = .stopped) : s.Inert := by
  have placed := sound.placed
  have client := sound.client
  unfold Placed at placed
  split at placed <;> grind

/-- What a step of `Run` leaves alone, and what it may do. -/
structure RunTurn (addresses : Nat) (s s' : AcceptStop) : Prop where
  owner : s'.owner = s.owner
  calls : s'.calls = s.calls
  requested : s'.requested = s.requested
  openFds : s'.openFds = s.openFds ∨ s'.openFds = 0
  unbound : s'.unbound = s.unbound ∨
    s'.unbound = true ∧ (s.owner = .rest ∨ s.owner = .dead)
  queue : ∃ tasks, s'.queue = s.queue ++ tasks ∧
    (.install ∈ tasks → 0 < addresses ∧ s.run = .install ∧ s'.run = .wait) ∧
    (.stop ∈ tasks → ∃ pc, s.run = .post pc)
  done : s'.done = s.done ∨
    s'.done = true ∧ (s.run = .mark ∨ ∃ final, s.run = .settle final .mark)

/-- A step of the unbinding does what a turn may do. -/
theorem actSettle_turn {final : Bool} {pc : SettlePc} (place : s.run = .settle final pc)
    (stepped : s.actSettle final outcome pc = some s') : s.RunTurn addresses s' := by
  have same : ∃ tasks, s.queue = s.queue ++ tasks ∧
      (.install ∈ tasks → 0 < addresses ∧ s.run = .install ∧ s'.run = .wait) ∧
      (.stop ∈ tasks → ∃ pc, s.run = .post pc) := ⟨[], by simp, by simp, by simp⟩
  cases pc with
  | unbind =>
    simp only [actSettle] at stepped
    split at stepped
    · cases stepped
      exact ⟨rfl, rfl, rfl, .inl rfl, .inl rfl, same, .inl rfl⟩
    · split at stepped
      · rename_i rests
        cases stepped
        exact ⟨rfl, rfl, rfl, .inl rfl, .inr ⟨rfl, rests⟩, same, .inl rfl⟩
      · cases stepped
  | finalize =>
    cases stepped
    exact ⟨rfl, rfl, rfl, .inr rfl, .inl rfl, same, .inl rfl⟩
  | mark =>
    cases stepped
    exact ⟨rfl, rfl, rfl, .inl rfl, .inl rfl, same, .inr ⟨rfl, .inr ⟨final, place⟩⟩⟩
  | clear =>
    cases final <;> cases stepped <;>
      exact ⟨rfl, rfl, rfl, .inl rfl, .inl rfl, same, .inl rfl⟩
  | _ =>
    cases stepped
    exact ⟨rfl, rfl, rfl, .inl rfl, .inl rfl, same, .inl rfl⟩

/-- A step of `Run` does what a turn may do. -/
theorem actRun_turn (stepped : s.actRun addresses outcome = some s') :
    s.RunTurn addresses s' := by
  have same : ∃ tasks, s.queue = s.queue ++ tasks ∧
      (.install ∈ tasks → 0 < addresses ∧ s.run = .install ∧ s'.run = .wait) ∧
      (.stop ∈ tasks → ∃ pc, s.run = .post pc) := ⟨[], by simp, by simp, by simp⟩
  unfold actRun at stepped
  split at stepped
  case h_7 place =>
    cases stepped
    refine ⟨rfl, rfl, rfl, .inl rfl, .inl rfl, ?_, .inl rfl⟩
    by_cases server : 0 < addresses
    · exact ⟨[.install], by simp [server], fun _ => ⟨server, place, rfl⟩, by simp⟩
    · exact ⟨[], by simp [server], by simp, by simp⟩
  case h_10 =>
    split at stepped <;> cases stepped
    exact ⟨rfl, rfl, rfl, .inl rfl, .inl rfl, same, .inl rfl⟩
  case h_13 place =>
    cases stepped
    exact ⟨rfl, rfl, rfl, .inl rfl, .inl rfl, same, .inr ⟨rfl, .inl place⟩⟩
  case h_18 event _ _ pc place =>
    obtain ⟨posted, tasks, stops, after⟩ := s.post_turn event pc
    simp only [after, Option.some.injEq] at stepped
    subst stepped
    refine ⟨rfl, rfl, rfl, .inl rfl, .inl rfl, ⟨tasks, rfl, ?_, fun _ => ⟨pc, place⟩⟩, .inl rfl⟩
    intro member
    have stop := List.mem_singleton.mp (stops member)
    cases stop
  case h_19 =>
    cases stepped
    refine ⟨rfl, rfl, rfl, .inl rfl, .inl rfl, ?_, .inl rfl⟩
    by_cases server : 0 < addresses
    · exact ⟨[.seal'], by simp [server], by simp, by simp⟩
    · exact ⟨[], by simp [server], by simp, by simp⟩
  case h_21 place => exact actSettle_turn place stepped
  case h_23 =>
    split at stepped <;> cases stepped
    exact ⟨rfl, rfl, rfl, .inl rfl, .inl rfl, same, .inl rfl⟩
  case h_24 => cases stepped
  all_goals
    cases stepped
    exact ⟨rfl, rfl, rfl, .inl rfl, .inl rfl, same, .inl rfl⟩

/-- What is shut stays shut when `Run` goes on. -/
theorem RunTurn.shut (turn : RunTurn addresses s s') (shut : s.Shut) : s'.Shut := by
  obtain ⟨requested, fds, opens⟩ := shut
  refine ⟨turn.requested.trans requested, ?_, ?_⟩
  · rcases turn.openFds with kept | closed
    · exact kept.trans fds
    · exact closed
  · unfold AcceptStop.opens at opens ⊢
    rw [turn.owner]
    exact opens

/-- What is inert stays inert when `Run` goes on and does not install. -/
theorem RunTurn.inert (turn : RunTurn addresses s s')
    (other : addresses = 0 ∨ s'.run ≠ .wait) (inert : s.Inert) : s'.Inert := by
  obtain ⟨fds, opens, quiet⟩ := inert
  refine ⟨?_, ?_, ?_⟩
  · rcases turn.openFds with kept | closed
    · exact kept.trans fds
    · exact closed
  · unfold AcceptStop.opens at opens ⊢
    rw [turn.owner]
    exact opens
  · obtain ⟨tasks, queue, installs, _⟩ := turn.queue
    rcases turn.unbound with kept | ⟨now, _⟩
    · rw [kept, turn.owner, queue]
      apply quiet.imp_right
      rintro ⟨absent, owner⟩
      refine ⟨?_, owner⟩
      intro member
      rcases List.mem_append.mp member with old | new
      · exact absent old
      · obtain ⟨server, _, wait⟩ := installs new
        rcases other with client | elsewhere
        · omega
        · exact elsewhere wait
    · exact .inl now

section

variable (sound : s.Sound addresses)

include sound

/-- What the new place of the unbinding says. -/
theorem Sound.actSettle_placed {final : Bool} {pc : SettlePc} (place : s.run = .settle final pc)
    (stepped : s.actSettle final outcome pc = some s') : s'.Placed addresses := by
  have placed := sound.placed
  have rests := sound.unbound
  unfold Placed at placed
  rw [place] at placed
  cases pc with
  | unbind =>
    simp only [actSettle] at stepped
    split at stepped
    · cases stepped
      exact .inl rfl
    · split at stepped <;> cases stepped
      exact ⟨placed.1, rfl⟩
  | finalize =>
    cases stepped
    exact ⟨placed.1, rfl, rests placed.2, .inl placed.2⟩
  | release =>
    cases stepped
    exact placed
  | look =>
    cases stepped
    by_cases requested : s.requested = true
    · rw [if_pos requested]
      exact ⟨placed.1, placed.2, requested⟩
    · rw [if_neg requested]
      exact placed
  | mark =>
    cases stepped
    exact ⟨placed.1, placed.2.1⟩
  | clear =>
    cases final <;> cases stepped
    · exact ⟨placed.1, rfl, placed.2⟩
    · exact .inr ⟨rfl, rfl, placed.2⟩

/-- What the new place of `Run` says. -/
theorem Sound.actRun_placed
    (stepped : s.actRun addresses outcome = some s') : s'.Placed addresses := by
  have placed := sound.placed
  unfold Placed at placed
  unfold actRun at stepped
  split at stepped
  case h_1 place =>
    rw [place] at placed
    cases stepped
    exact ⟨rfl, placed.2⟩
  case h_2 place =>
    rw [place] at placed
    cases stepped
    split <;> exact placed
  case h_3 place =>
    rw [place] at placed
    cases stepped
    exact placed
  case h_5 place =>
    rw [place] at placed
    cases stepped
    exact ⟨placed.1, rfl, placed.2.2⟩
  case h_6 place =>
    rw [place] at placed
    cases stepped
    exact ⟨placed.1, placed.2.1⟩
  case h_7 place =>
    rw [place] at placed
    cases stepped
    exact ⟨placed.1, placed.2.1⟩
  case h_8 place =>
    rw [place] at placed
    cases stepped
    exact ⟨placed.1, trivial⟩
  case h_10 place =>
    rw [place] at placed
    split at stepped <;> cases stepped
    exact placed
  case h_11 place =>
    rw [place] at placed
    cases stepped
    split
    · exact ⟨placed.1, trivial⟩
    · exact placed
  case h_12 place =>
    rw [place] at placed
    cases stepped
    split
    · rename_i client
      refine ⟨placed.1, client.1, client.2, ?_⟩
      simpa [client.1] using placed.2
    · exact placed
  case h_13 place =>
    rw [place] at placed
    cases stepped
    exact ⟨placed.1, by simp [placed.2.1, placed.2.2.2]⟩
  case h_14 place =>
    rw [place] at placed
    cases stepped
    exact ⟨rfl, placed.2⟩
  case h_15 place =>
    rw [place] at placed
    cases stepped
    split
    · rename_i asked
      exact ⟨placed.1, placed.2, asked.2⟩
    · exact placed
  case h_18 event _ _ pc place =>
    rw [place] at placed
    obtain ⟨posted, tasks, _, after⟩ := s.post_turn event pc
    simp only [after, Option.some.injEq] at stepped
    subst stepped
    cases (s.post event pc).2 with
    | none => exact ⟨placed.1, placed.2.1⟩
    | some next => exact placed
  case h_19 place =>
    rw [place] at placed
    cases stepped
    exact placed
  case h_20 place =>
    rw [place] at placed
    cases stepped
    exact ⟨placed, trivial⟩
  case h_21 place => exact sound.actSettle_placed place stepped
  case h_22 place =>
    rw [place] at placed
    cases stepped
    exact .inr ⟨rfl, placed.2⟩
  case h_23 _ =>
    split at stepped
    · rename_i closing
      cases stepped
      exact ⟨closing, trivial⟩
    · cases stepped
  case h_24 => cases stepped
  -- `Run` returns with its slots, or leaves its loop.
  case h_4 | h_9 =>
    cases stepped
    exact .inl rfl
  case h_16 =>
    cases stepped
    exact ⟨rfl, trivial⟩
  case h_17 =>
    cases stepped
    rfl

/-- A step of `Run` keeps what holds in every state. -/
theorem Sound.actRun (stepped : s.actRun addresses outcome = some s') : s'.Sound addresses := by
  have turn := actRun_turn stepped
  have placed := sound.placed
  unfold Placed at placed
  constructor
  · exact sound.actRun_placed stepped
  · intro client
    exact turn.inert (.inl client) (sound.client client)
  · intro unbound
    have same : s'.opens = s.opens := by
      unfold AcceptStop.opens
      rw [turn.owner]
    rw [same]
    rcases turn.unbound with kept | ⟨_, rest | dead⟩
    · exact sound.unbound (kept.symm.trans unbound)
    · simp [AcceptStop.opens, rest]
    · simp [AcceptStop.opens, dead]
  · intro stopped
    rw [turn.owner] at stopped
    obtain ⟨requested, fds⟩ := sound.marking stopped
    refine ⟨turn.requested.trans requested, ?_⟩
    rcases turn.openFds with kept | closed
    · exact kept.trans fds
    · exact closed
  · intro member
    rw [turn.requested]
    obtain ⟨tasks, queue, _, stops⟩ := turn.queue
    rw [queue] at member
    rcases List.mem_append.mp member with old | new
    · exact sound.queued old
    · obtain ⟨pc, place⟩ := stops new
      rw [place] at placed
      exact placed.2.2
  · rw [turn.calls, turn.requested]
    exact sound.latched
  · rw [turn.calls]
    exact fun member => turn.shut (sound.marks member)
  · intro done
    apply turn.shut
    rcases turn.done with kept | ⟨_, mark | ⟨final, mark⟩⟩
    · exact sound.done (kept.symm.trans done)
    · rw [mark] at placed
      exact (sound.client placed.2.1).shut placed.2.2.1
    · rw [mark] at placed
      exact placed.2.1.shut placed.2.2

/-- A step of the owner keeps what holds in every state. -/
theorem Sound.actOwner (stepped : s.actOwner addresses outcome = some s') : s'.Sound addresses := by
  have turn := actOwner_turn stepped
  constructor
  · apply sound.placed.mono turn.run turn.phase turn.main _ _ turn.inert
    · intro unbound
      exact absurd unbound (by simp [turn.bound.1])
    · exact turn.requested.trans
  · exact fun client => turn.inert (sound.client client)
  · intro unbound
    exact absurd unbound (by simp [turn.bound.2])
  · intro stopped
    obtain ⟨member, fds⟩ := turn.stops stopped
    exact ⟨turn.requested.trans (sound.queued member), fds⟩
  · exact fun member => turn.requested.trans (sound.queued (turn.queue member))
  · rw [turn.calls, turn.requested]
    exact sound.latched
  · rw [turn.calls]
    exact fun member => turn.shut (sound.marks member)
  · intro done
    rcases turn.done with kept | ⟨_, marking, fds, rest⟩
    · exact turn.shut (sound.done (kept.symm.trans done))
    · obtain ⟨requested, closed⟩ := sound.marking marking
      exact ⟨turn.requested.trans requested, fds.trans closed, by simp [AcceptStop.opens, rest]⟩

/-- A step of a call keeps what holds in every state. -/
theorem Sound.actCall (found : s.calls[i]? = some pc)
    (stepped : s.actCall i outcome pc = some s') : s'.Sound addresses := by
  obtain ⟨pc', turn⟩ := actCall_turn stepped
  have member := List.mem_of_getElem? found
  have requested : s'.requested = true := by
    rcases turn.requested with now | ⟨past, kept⟩
    · exact now
    · exact kept.trans (sound.latched pc member past)
  have same : s'.opens = s.opens := by
    unfold AcceptStop.opens
    rw [turn.owner]
  constructor
  · exact sound.placed.mono turn.run turn.phase turn.main (turn.unbound.trans ·)
      (fun _ => requested) turn.inert
  · exact fun client => turn.inert (sound.client client)
  · rw [turn.unbound, same]
    exact sound.unbound
  · rw [turn.owner, turn.openFds]
    exact fun stopped => ⟨requested, (sound.marking stopped).2⟩
  · exact fun _ => requested
  · exact fun _ _ _ => requested
  · rw [turn.calls]
    intro marks
    rcases List.mem_or_eq_of_mem_set marks with old | new
    · exact turn.shut (sound.marks old)
    · obtain ⟨_, main, phase⟩ := turn.marks new.symm
      exact (turn.inert (sound.unowned main phase)).shut requested
  · intro done
    apply turn.shut
    rcases turn.done with kept | ⟨_, mark⟩
    · exact sound.done (kept.symm.trans done)
    · exact sound.marks (mark ▸ member)

/-- A new call keeps what holds in every state. -/
theorem Sound.request : Sound addresses { s with calls := s.calls ++ [.exchange] } := by
  refine ⟨sound.placed, sound.client, sound.unbound, sound.marking, sound.queued, ?_, ?_,
    sound.done⟩
  · intro pc member past
    rcases List.mem_append.mp member with old | new
    · exact sound.latched pc old past
    · exact absurd (List.mem_singleton.mp new) past
  · intro member
    rcases List.mem_append.mp member with old | new
    · exact sound.marks old
    · cases List.mem_singleton.mp new

/-- Every step keeps what holds in every state. -/
theorem Sound.step (stepped : s.step addresses label = some s') : s'.Sound addresses := by
  cases label with
  | run outcome => exact sound.actRun stepped
  | owner outcome => exact sound.actOwner stepped
  | request =>
    cases stepped
    exact sound.request
  | act i outcome =>
    obtain ⟨pc, found, acted⟩ := Option.bind_eq_some_iff.mp stepped
    exact sound.actCall found acted

end

/-- Every step keeps shut what is shut. -/
theorem Shut.step (shut : s.Shut) (stepped : s.step addresses label = some s') : s'.Shut := by
  cases label with
  | run outcome => exact (actRun_turn stepped).shut shut
  | owner outcome => exact (actOwner_turn stepped).shut shut
  | request =>
    cases stepped
    exact shut
  | act i outcome =>
    obtain ⟨pc, _, acted⟩ := Option.bind_eq_some_iff.mp stepped
    obtain ⟨pc', turn⟩ := actCall_turn acted
    exact turn.shut shut

/-- What holds in every state holds of reachable ones. -/
theorem reachable_sound (reachable : (acceptStopMachine addresses).Reachable s) :
    s.Sound addresses := by
  apply reachable.invariant
  · rintro _ rfl
    constructor <;> simp [Placed, Inert, opens]
  · exact fun _ _ _ sound stepped => sound.step stepped

end AcceptStop

end BbtInfra.Net
