import BbtInfra.Lib.Census
import BbtInfra.Lib.Machine

/-!
# The ledger of a service

A service accepts clients with one task at its front and runs a task for each of them. It counts
the tasks that have not ended and the requests that run, keeps a list of the clients whose task
or connection is left, and can be sealed: then no task starts and no request is granted. The
counters are kept by hand; they agree with a census of the clients in every state.
-/
namespace BbtInfra.Lib

open List

/-- A client of a service. -/
structure Client where
  /-- Its task is counted and has not ended. -/
  task : Bool := false
  /-- It holds one of the places for requests that run. -/
  granted : Bool := false
  /-- No task runs for it any more. -/
  done : Bool := false
  /-- Its connection is released. -/
  gone : Bool := false
  deriving DecidableEq, Repr

namespace Client

/-- Nothing is left of a client. -/
def past (client : Client) : Bool := client.done && client.gone

/-- Its task starts. -/
def start (client : Client) : Client := { client with task := true }

/-- Its task ends. -/
def finish (client : Client) : Client := { client with task := false, done := true }

/-- It will have no task. -/
def skip (client : Client) : Client := { client with done := true }

/-- A request of it may run. -/
def grant (client : Client) : Client := { client with granted := true }

/-- The request of it is over. -/
def settle (client : Client) : Client := { client with granted := false }

/-- Its connection is released. -/
def leave (client : Client) : Client := { client with gone := true }

end Client

/-- What a service counts and lists. -/
structure Service where
  sealed' : Bool := false
  /-- The task at the front is counted and has not ended. -/
  front : Bool := false
  tasks : Nat := 0
  inflight : Nat := 0
  clients : List Client := []
  /-- The clients of the list, by their index. -/
  listed : List Nat := []
  deriving DecidableEq, Repr

/-- How much a service takes. -/
structure ServiceLimits where
  connections : Nat
  inflight : Nat

/-- What can happen to a service. -/
inductive ServiceEvent
  | seal'
  | raise
  | lower
  | arrive
  | start (k : Nat)
  | finish (k : Nat)
  | done (k : Nat)
  | grant (k : Nat)
  | settle (k : Nat)
  | leave (k : Nat)
  | sweep

namespace Service

/-- The client of one index, rewritten. -/
def update (s : Service) (k : Nat) (f : Client → Client) : Service :=
  { s with clients := s.clients.modify k f }

/-- A client of this index passes a test. -/
def client (s : Service) (k : Nat) (test : Client → Bool) : Bool := s.clients[k]?.any test

/-- The service after an event. -/
def step (limits : ServiceLimits) (s : Service) : ServiceEvent → Option Service
  | .seal' => some { s with sealed' := true }
  | .raise =>
    if s.sealed' = false ∧ s.front = false then
      some { s with front := true, tasks := s.tasks + 1 }
    else none
  | .lower => if s.front then some { s with front := false, tasks := s.tasks - 1 } else none
  | .arrive =>
    if s.front ∧ s.listed.length < limits.connections then
      some { s with clients := s.clients ++ [{}], listed := s.listed ++ [s.clients.length] }
    else none
  | .start k =>
    if s.sealed' = false ∧ s.client k (fun c => !c.task && !c.done) then
      some { s.update k Client.start with tasks := s.tasks + 1 }
    else none
  | .finish k =>
    if s.client k (fun c => c.task && !c.granted) then
      some { s.update k Client.finish with tasks := s.tasks - 1 }
    else none
  | .done k =>
    if s.client k (fun c => !c.task) then some (s.update k Client.skip)
    else none
  | .grant k =>
    if s.sealed' = false ∧ s.inflight < limits.inflight ∧
        s.client k (fun c => c.task && !c.granted) then
      some { s.update k Client.grant with inflight := s.inflight + 1 }
    else none
  | .settle k =>
    if s.client k Client.granted then
      some { s.update k Client.settle with inflight := s.inflight - 1 }
    else none
  | .leave k => some (s.update k Client.leave)
  | .sweep => some { s with listed := s.listed.filter fun k => !s.client k Client.past }

/-- The service after some events, when each of them can happen. -/
def exec (limits : ServiceLimits) (s : Service) : List ServiceEvent → Option Service
  | [] => some s
  | event :: events => (s.step limits event).bind fun next => next.exec limits events

/-- The books of a service are right. -/
structure Balanced (limits : ServiceLimits) (s : Service) : Prop where
  tasks : s.tasks = s.clients.countP Client.task + if s.front then 1 else 0
  inflight : s.inflight = s.clients.countP Client.granted
  bounded : s.inflight ≤ limits.inflight
  room : s.listed.length ≤ limits.connections
  /-- Requests run in tasks. -/
  granted : ∀ (k : Nat) (c : Client), s.clients[k]? = some c → c.granted = true → c.task = true
  running : ∀ (k : Nat) (c : Client), s.clients[k]? = some c → c.task = true → c.done = false
  /-- A client is on the list as long as something is left of it. -/
  present : ∀ (k : Nat) (c : Client), s.clients[k]? = some c → k ∈ s.listed ∨ c.past = true

variable {limits : ServiceLimits} {s next : Service} {k : Nat}

/-- A client that passes a test is there. -/
theorem client_found {test : Client → Bool} (passes : s.client k test = true) :
    ∃ c, s.clients[k]? = some c ∧ test c = true := by
  rw [client, Option.any_eq_true] at passes
  exact passes

/-- What a rewrite of one client must keep for the facts about single clients. -/
structure Keeps (s : Service) (k : Nat) (f : Client → Client) : Prop where
  granted : ∀ c, s.clients[k]? = some c → (f c).granted = true → (f c).task = true
  running : ∀ c, s.clients[k]? = some c → (f c).task = true → (f c).done = false
  past : ∀ c, s.clients[k]? = some c → c.past = true → (f c).past = true

/-- A rewrite of one client leaves the books right when it keeps its facts and the counters
follow it. -/
theorem Balanced.update (balanced : Balanced limits s) (f : Client → Client) (keeps : s.Keeps k f)
    {tasks inflight : Nat}
    (counted : tasks = (s.clients.modify k f).countP Client.task + if s.front then 1 else 0)
    (running : inflight = (s.clients.modify k f).countP Client.granted)
    (bounded : inflight ≤ limits.inflight) :
    Balanced limits { s.update k f with tasks, inflight } := by
  refine ⟨counted, running, bounded, balanced.room, ?_, ?_, ?_⟩
  · intro other c found granted
    rcases getElem?_modify_cases found with ⟨rfl, old, before, rfl⟩ | ⟨-, before⟩
    · exact keeps.granted old before granted
    · exact balanced.granted other c before granted
  · intro other c found task
    rcases getElem?_modify_cases found with ⟨rfl, old, before, rfl⟩ | ⟨-, before⟩
    · exact keeps.running old before task
    · exact balanced.running other c before task
  · intro other c found
    rcases getElem?_modify_cases found with ⟨rfl, old, before, rfl⟩ | ⟨-, before⟩
    · exact (balanced.present other old before).imp_right (keeps.past old before)
    · exact balanced.present other c before

variable {events : List ServiceEvent} {event : ServiceEvent}

/-- Every event leaves the books right. -/
theorem step_balanced (balanced : Balanced limits s)
    (stepped : s.step limits event = some next) : Balanced limits next := by
  cases event with
  | seal' =>
    cases stepped
    exact ⟨balanced.tasks, balanced.inflight, balanced.bounded, balanced.room, balanced.granted,
      balanced.running, balanced.present⟩
  | raise =>
    obtain ⟨⟨-, down⟩, rfl⟩ := guarded_some stepped
    have tasks := balanced.tasks
    rw [down] at tasks
    exact ⟨by simp only [if_true]; simpa using tasks, balanced.inflight, balanced.bounded,
      balanced.room, balanced.granted, balanced.running, balanced.present⟩
  | lower =>
    obtain ⟨up, rfl⟩ := guarded_some stepped
    have tasks := balanced.tasks
    rw [up] at tasks
    refine ⟨?_, balanced.inflight, balanced.bounded, balanced.room, balanced.granted,
      balanced.running, balanced.present⟩
    simp only [if_true] at tasks
    simp only [Bool.false_eq_true, if_false]
    omega
  | arrive =>
    obtain ⟨⟨-, free⟩, rfl⟩ := guarded_some stepped
    refine ⟨?_, ?_, balanced.bounded, ?_, ?_, ?_, ?_⟩
    · rw [countP_push]
      exact balanced.tasks
    · rw [countP_push]
      exact balanced.inflight
    · rw [length_append]
      exact free
    · intro other c found granted
      rcases getElem?_push_cases found with ⟨-, rfl⟩ | before
      · cases granted
      · exact balanced.granted other c before granted
    · intro other c found task
      rcases getElem?_push_cases found with ⟨-, rfl⟩ | before
      · cases task
      · exact balanced.running other c before task
    · intro other c found
      rcases getElem?_push_cases found with ⟨rfl, -⟩ | before
      · exact .inl (by simp)
      · exact (balanced.present other c before).imp_left fun member => by simp [member]
  | start k =>
    obtain ⟨⟨-, passes⟩, rfl⟩ := guarded_some stepped
    obtain ⟨c, found, idle⟩ := client_found passes
    simp only [Bool.and_eq_true, Bool.not_eq_true'] at idle
    have gain : (s.clients.modify k Client.start).countP Client.task =
        s.clients.countP Client.task + 1 := countP_modify_gain found idle.1 rfl
    have same : (s.clients.modify k Client.start).countP Client.granted =
        s.clients.countP Client.granted := countP_modify_same fun _ _ => rfl
    have tasks := balanced.tasks
    have keeps : s.Keeps k Client.start := by
      refine ⟨fun _ _ _ => rfl, ?_, fun c _ past => past⟩
      intro other found' _
      cases found.symm.trans found'
      exact idle.2
    exact balanced.update Client.start keeps (by omega) (by rw [same]; exact balanced.inflight)
      balanced.bounded
  | finish k =>
    obtain ⟨passes, rfl⟩ := guarded_some stepped
    obtain ⟨c, found, busy⟩ := client_found passes
    simp only [Bool.and_eq_true, Bool.not_eq_true'] at busy
    have loss : (s.clients.modify k Client.finish).countP Client.task + 1 =
        s.clients.countP Client.task := countP_modify_loss found busy.1 rfl
    have same : (s.clients.modify k Client.finish).countP Client.granted =
        s.clients.countP Client.granted := countP_modify_same fun _ _ => rfl
    have tasks := balanced.tasks
    have keeps : s.Keeps k Client.finish := by
      refine ⟨?_, fun _ _ task => Bool.noConfusion task, ?_⟩
      · intro other found' granted
        cases found.symm.trans found'
        have held : c.granted = true := granted
        simp [busy.2] at held
      · intro other _ past
        simp only [Client.past, Bool.and_eq_true] at past ⊢
        exact ⟨rfl, past.2⟩
    exact balanced.update Client.finish keeps (by omega) (by rw [same]; exact balanced.inflight)
      balanced.bounded
  | done k =>
    obtain ⟨passes, rfl⟩ := guarded_some stepped
    obtain ⟨c, found, idle⟩ := client_found passes
    simp only [Bool.not_eq_true'] at idle
    have same : (s.clients.modify k Client.skip).countP Client.task =
        s.clients.countP Client.task := countP_modify_same fun _ _ => rfl
    have same' : (s.clients.modify k Client.skip).countP Client.granted =
        s.clients.countP Client.granted := countP_modify_same fun _ _ => rfl
    have keeps : s.Keeps k Client.skip := by
      refine ⟨fun c found => balanced.granted k c found, ?_, ?_⟩
      · intro other found' task
        cases found.symm.trans found'
        have held : c.task = true := task
        simp [idle] at held
      · intro other _ past
        simp only [Client.past, Bool.and_eq_true] at past ⊢
        exact ⟨rfl, past.2⟩
    exact balanced.update Client.skip keeps (by rw [same]; exact balanced.tasks)
      (by rw [same']; exact balanced.inflight) balanced.bounded
  | grant k =>
    obtain ⟨⟨-, free, passes⟩, rfl⟩ := guarded_some stepped
    obtain ⟨c, found, busy⟩ := client_found passes
    simp only [Bool.and_eq_true, Bool.not_eq_true'] at busy
    have gain : (s.clients.modify k Client.grant).countP Client.granted =
        s.clients.countP Client.granted + 1 := countP_modify_gain found busy.2 rfl
    have same : (s.clients.modify k Client.grant).countP Client.task =
        s.clients.countP Client.task := countP_modify_same fun _ _ => rfl
    have inflight := balanced.inflight
    have keeps : s.Keeps k Client.grant := by
      refine ⟨?_, fun c found => balanced.running k c found, fun _ _ past => past⟩
      intro other found' _
      cases found.symm.trans found'
      exact busy.1
    exact balanced.update Client.grant keeps (by rw [same]; exact balanced.tasks) (by omega) free
  | settle k =>
    obtain ⟨passes, rfl⟩ := guarded_some stepped
    obtain ⟨c, found, granted⟩ := client_found passes
    have loss : (s.clients.modify k Client.settle).countP Client.granted + 1 =
        s.clients.countP Client.granted := countP_modify_loss found granted rfl
    have same : (s.clients.modify k Client.settle).countP Client.task =
        s.clients.countP Client.task := countP_modify_same fun _ _ => rfl
    have inflight := balanced.inflight
    have bounded := balanced.bounded
    have keeps : s.Keeps k Client.settle :=
      ⟨fun _ _ wrong => Bool.noConfusion wrong, fun c found => balanced.running k c found,
        fun _ _ past => past⟩
    exact balanced.update Client.settle keeps (by rw [same]; exact balanced.tasks) (by omega)
      (by omega)
  | leave k =>
    cases stepped
    have same : (s.clients.modify k Client.leave).countP Client.task =
        s.clients.countP Client.task := countP_modify_same fun _ _ => rfl
    have same' : (s.clients.modify k Client.leave).countP Client.granted =
        s.clients.countP Client.granted := countP_modify_same fun _ _ => rfl
    have keeps : s.Keeps k Client.leave := by
      refine ⟨fun c found => balanced.granted k c found,
        fun c found => balanced.running k c found, ?_⟩
      intro c _ past
      simp only [Client.past, Bool.and_eq_true] at past ⊢
      exact ⟨past.1, rfl⟩
    exact balanced.update Client.leave keeps (by rw [same]; exact balanced.tasks)
      (by rw [same']; exact balanced.inflight) balanced.bounded
  | sweep =>
    cases stepped
    refine ⟨balanced.tasks, balanced.inflight, balanced.bounded,
      Nat.le_trans (length_filter_le _ _) balanced.room, balanced.granted, balanced.running,
      ?_⟩
    intro other c found
    rcases balanced.present other c found with member | past
    · by_cases past : c.past = true
      · exact .inr past
      · refine .inl (mem_filter.mpr ⟨member, ?_⟩)
        simpa [client, found] using past
    · exact .inr past

/-- Sealed, and nothing is left: no task and no client on the list. -/
structure Quiet (s : Service) : Prop where
  sealed' : s.sealed' = true
  tasks : s.tasks = 0
  listed : s.listed = []

/-- A quiet service stays quiet. -/
theorem step_quiet (balanced : Balanced limits s) (quiet : s.Quiet)
    (stepped : s.step limits event = some next) : next.Quiet := by
  have lowered : s.front = false := by
    have tasks := balanced.tasks
    rw [quiet.tasks] at tasks
    by_contra up
    rw [if_pos (by simpa using up)] at tasks
    omega
  have open' : s.sealed' ≠ false := by simp [quiet.sealed']
  cases event with
  | seal' =>
    cases stepped
    exact ⟨rfl, quiet.tasks, quiet.listed⟩
  | raise | start | grant => simp [step, open'] at stepped
  | lower | arrive => simp [step, lowered] at stepped
  | finish k =>
    obtain ⟨-, rfl⟩ := guarded_some stepped
    exact ⟨quiet.sealed', by simp [quiet.tasks], quiet.listed⟩
  | done | settle =>
    obtain ⟨-, rfl⟩ := guarded_some stepped
    exact ⟨quiet.sealed', quiet.tasks, quiet.listed⟩
  | leave k =>
    cases stepped
    exact ⟨quiet.sealed', quiet.tasks, quiet.listed⟩
  | sweep =>
    cases stepped
    exact ⟨quiet.sealed', quiet.tasks, by simp [quiet.listed]⟩

/-- What a sealed service is granted it was granted before, and the seal stays. -/
structure NoGrant (s next : Service) : Prop where
  sealed' : s.sealed' = true → next.sealed' = true
  inflight : s.sealed' = true → next.inflight ≤ s.inflight
  granted : s.sealed' = true → ∀ k, next.client k Client.granted = true →
    s.client k Client.granted = true

/-- A rewrite that grants nothing. -/
theorem client_update (f : Client → Client) {other : Nat}
    (less : ∀ c : Client, (f c).granted = true → c.granted = true)
    (granted : (s.update k f).client other Client.granted = true) :
    s.client other Client.granted = true := by
  obtain ⟨c, found, granted⟩ := client_found granted
  rcases getElem?_modify_cases found with ⟨rfl, old, before, rfl⟩ | ⟨-, before⟩
  · simp [client, before, less old granted]
  · simp [client, before, granted]

/-- No event grants anything behind the seal. -/
theorem step_noGrant (stepped : s.step limits event = some next) : NoGrant s next := by
  cases event with
  | seal' =>
    cases stepped
    exact ⟨fun _ => rfl, fun _ => Nat.le_refl _, fun _ _ granted => granted⟩
  | raise | lower =>
    obtain ⟨-, rfl⟩ := guarded_some stepped
    exact ⟨fun up => up, fun _ => Nat.le_refl _, fun _ _ granted => granted⟩
  | arrive =>
    obtain ⟨-, rfl⟩ := guarded_some stepped
    refine ⟨fun up => up, fun _ => Nat.le_refl _, fun _ k granted => ?_⟩
    obtain ⟨c, found, granted⟩ := client_found granted
    rcases getElem?_push_cases found with ⟨-, rfl⟩ | before
    · cases granted
    · simp [client, before, granted]
  | start k =>
    obtain ⟨-, rfl⟩ := guarded_some stepped
    exact ⟨fun up => up, fun _ => Nat.le_refl _,
      fun _ _ granted => client_update Client.start (fun _ held => held) granted⟩
  | finish k =>
    obtain ⟨-, rfl⟩ := guarded_some stepped
    exact ⟨fun up => up, fun _ => Nat.le_refl _,
      fun _ _ granted => client_update Client.finish (fun _ held => held) granted⟩
  | done k =>
    obtain ⟨-, rfl⟩ := guarded_some stepped
    exact ⟨fun up => up, fun _ => Nat.le_refl _,
      fun _ _ granted => client_update Client.skip (fun _ held => held) granted⟩
  | grant k =>
    simp only [step, Option.ite_none_right_eq_some] at stepped
    obtain ⟨⟨unsealed, -⟩, -⟩ := stepped
    refine ⟨?_, ?_, ?_⟩ <;> intro up <;> simp [unsealed] at up
  | settle k =>
    obtain ⟨-, rfl⟩ := guarded_some stepped
    exact ⟨fun up => up, fun _ => Nat.sub_le _ _,
      fun _ _ granted => client_update Client.settle (fun _ held => Bool.noConfusion held) granted⟩
  | leave k =>
    cases stepped
    exact ⟨fun up => up, fun _ => Nat.le_refl _,
      fun _ _ granted => client_update Client.leave (fun _ held => held) granted⟩
  | sweep =>
    cases stepped
    exact ⟨fun up => up, fun _ => Nat.le_refl _, fun _ _ granted => granted⟩

/-- What every event keeps is kept by any number of them. -/
theorem exec_keeps (property : Service → Prop)
    (kept : ∀ s event next, property s → s.step limits event = some next → property next)
    (begun : property s) (executed : s.exec limits events = some next) : property next := by
  induction events generalizing s with
  | nil =>
    cases executed
    exact begun
  | cons event events ih =>
    obtain ⟨middle, stepped, rest⟩ := Option.bind_eq_some_iff.mp executed
    exact ih (kept s event middle begun stepped) rest

/-- Events behind events. -/
theorem exec_append {middle : Service} {later : List ServiceEvent}
    (first : s.exec limits events = some middle) (second : middle.exec limits later = some next) :
    s.exec limits (events ++ later) = some next := by
  induction events generalizing s with
  | nil =>
    cases first
    exact second
  | cons event events ih =>
    obtain ⟨after, stepped, rest⟩ := Option.bind_eq_some_iff.mp first
    rw [cons_append, exec, stepped]
    exact ih rest

/-- Any number of events leave the books right. -/
theorem exec_balanced (balanced : Balanced limits s)
    (executed : s.exec limits events = some next) : Balanced limits next :=
  exec_keeps (Balanced limits) (fun _ _ _ kept stepped => step_balanced kept stepped) balanced
    executed

/-- A quiet service with right books stays quiet. -/
theorem exec_quiet (balanced : Balanced limits s) (quiet : s.Quiet)
    (executed : s.exec limits events = some next) : next.Quiet := by
  have both : Balanced limits next ∧ next.Quiet := by
    refine exec_keeps (fun s => Balanced limits s ∧ s.Quiet) ?_ ⟨balanced, quiet⟩
      executed
    intro middle event after kept stepped
    exact ⟨step_balanced kept.1 stepped, step_quiet kept.1 kept.2 stepped⟩
  exact both.2

/-- Any number of events grant nothing behind the seal. -/
theorem exec_noGrant (executed : s.exec limits events = some next) : NoGrant s next := by
  have same : NoGrant s s := ⟨fun up => up, fun _ => Nat.le_refl _, fun _ _ granted => granted⟩
  refine exec_keeps (NoGrant s) (fun middle event after kept stepped => ?_) same executed
  have one := step_noGrant stepped
  exact ⟨fun up => one.sealed' (kept.sealed' up),
    fun up => Nat.le_trans (one.inflight (kept.sealed' up)) (kept.inflight up),
    fun up k granted => kept.granted up k (one.granted (kept.sealed' up) k granted)⟩

end Service

end BbtInfra.Lib
