import BbtInfra.Net.ConnectSeal

/-!
# The ledger of pending connects

Every handler does one of three things to its connect: it waits for another callback, it concludes
it, or it concludes it behind a registration. From this the counter is the number of unresolved
connects in every run, and each is settled once. The completion of the seal runs once, with nothing
left, in the runs in which no delivery timer fails, no connection stays open under the seal, and the
repeated seal is not left by an exception.
-/
namespace BbtInfra.Net

open ConnectReactor List

open Lib (Machine guarded_none)

/-- A connect that is concluded. -/
def Connect.settle (connect : Connect) : Connect := connect.resolve.finish

/-- What is settled when a connect is concluded, apart from the completion. -/
def ConnectReactor.settled (s : ConnectReactor) (k : Nat) : ConnectReactor :=
  { s with
    connects := s.connects.modify k Connect.settle
    pendingCallbacks := s.pendingCallbacks - 1 }

/-- The books that are kept in every run. -/
structure ConnectReactor.Booked (s : ConnectReactor) : Prop where
  counter : s.pendingCallbacks = s.unresolved
  finishes : ∀ connect ∈ s.connects,
    connect.finishes = if connect.begun = true ∧ connect.stage = .resolved then 1 else 0
  clean : s.finishedAtZero = false
  left : s.onPendingZero = true → s.sealed = true ∧ 0 < s.pendingCallbacks
  waiting : ∀ connect ∈ s.connects, connect.stage ≠ .resolved → connect.begun = true

/-- What a handler does with its connect. -/
inductive HandlerStep (s : ConnectReactor) (k : Nat) : ConnectReactor → Prop
  | awaits {stage : ConnectStage} (open' : stage ≠ .resolved)
    (stranded : stage ≠ .stranded) (unsealed : s.sealed = false) :
    HandlerStep s k (s.await k stage)
  | concludes : HandlerStep s k (s.conclude k)
  | registers (closed : Bool) (unsealed : s.sealed = false) :
    HandlerStep s k ((s.register closed).conclude k)
  | settles (unsealed : s.sealed = false) :
    HandlerStep s k ((s.finishConnectCallback k).write k Connect.resolve)

section Handlers

variable {s : ConnectReactor} {k : Nat}

/-- `AdoptFdOnOwner`. -/
theorem adoptFdOnOwner_cases (delayedDelivery : Bool) (choices : AdoptChoices) :
    HandlerStep s k (s.adoptFdOnOwner k delayedDelivery choices) := by
  rw [adoptFdOnOwner]
  split
  · exact .concludes
  case isFalse serving =>
    have unsealed : s.sealed = false := by
      have both : s.sealed = false ∧ choices.engineSealed = false := by simpa using serving
      exact both.1
    split
    · exact .awaits (by decide) (by decide) unsealed
    · split
      · exact .concludes
      · split
        · exact .concludes
        · split
          · exact .registers true unsealed
          · split
            · exact .registers true unsealed
            · exact .registers false unsealed

/-- `StartConnectSocketOnOwner`. -/
theorem startConnectSocketOnOwner_cases (choices : StartChoices) :
    HandlerStep s k (s.startConnectSocketOnOwner k choices) := by
  rw [startConnectSocketOnOwner]
  split
  · exact .concludes
  case isFalse serving =>
    have unsealed : s.sealed = false := by
      have both : s.sealed = false ∧ choices.engineSealed = false := by simpa using serving
      exact both.1
    split
    · exact .concludes
    · split
      · exact .concludes
      · split
        · exact .settles unsealed
        · exact .awaits (by decide) (by decide) unsealed

/-- The callback of the start timer. -/
theorem startTimer_cases (connect : Connect) (failed engineSealed : Bool)
    (choices : StartChoices) :
    HandlerStep s k (s.startTimer k connect failed engineSealed choices) := by
  rw [startTimer]
  split
  · exact .concludes
  · split
    · exact .concludes
    · exact startConnectSocketOnOwner_cases choices

/-- The callback of `async_wait`. -/
theorem waited_cases (connect : Connect) (waitError socketError : Bool) (choices : AdoptChoices) :
    HandlerStep s k (s.waited k connect waitError socketError choices) := by
  rw [waited]
  split
  · exact .concludes
  · split
    · exact .concludes
    · split
      · exact .concludes
      · exact adoptFdOnOwner_cases false choices

end Handlers

section Conclude

variable {s : ConnectReactor} {k : Nat} {connect : Connect}

/-- A write that resolves one connect takes it from the unresolved ones. -/
theorem unresolved_settle (found : s.connects[k]? = some connect)
    (waits : connect.unresolved = true) :
    (s.connects.modify k Connect.settle).countP Connect.unresolved + 1 = s.unresolved :=
  countP_modify_loss found waits (by simp [Connect.settle, Connect.resolve, Connect.finish,
    Connect.unresolved])

/-- Writing a connect twice. -/
theorem write_write (f g : Connect → Connect) :
    (s.write k f).write k g = s.write k (g ∘ f) := by
  simp [write, modify_modify_eq]

/-- `FinishConnectCallback` while connects are pending. -/
theorem finishConnectCallback_pending (pending : s.pendingCallbacks ≠ 0) :
    s.finishConnectCallback k =
      if s.pendingCallbacks = 1 ∧ s.onPendingZero = true then
        { s.write k Connect.finish with pendingCallbacks := 0, onPendingZero := false }.complete
      else { s.write k Connect.finish with pendingCallbacks := s.pendingCallbacks - 1 } := by
  have one : (s.pendingCallbacks - 1 = 0) = (s.pendingCallbacks = 1) := by
    apply propext
    omega
  by_cases last : s.pendingCallbacks = 1
  · simp [finishConnectCallback, write, last]
  · simp [finishConnectCallback, write, pending, one, last]

/-- What concluding a connect comes to: it is settled, and the last one behind the seal runs the
completion. -/
def ConnectReactor.concluded (s : ConnectReactor) (k : Nat) : ConnectReactor :=
  if s.pendingCallbacks = 1 ∧ s.onPendingZero = true then
    { s.settled k with onPendingZero := false }.complete
  else s.settled k

section

variable (booked : s.Booked)

include booked

section

variable (found : s.connects[k]? = some connect) (waits : connect.unresolved = true)

include found waits

/-- Concluding a connect. -/
theorem conclude_eq : s.conclude k = s.concluded k := by
  have fewer := unresolved_settle found waits
  have counter := booked.counter
  have pending : (s.write k Connect.resolve).pendingCallbacks ≠ 0 := by
    simp only [write]
    omega
  rw [conclude, finishConnectCallback_pending pending, write_write]
  by_cases last : s.pendingCallbacks = 1
  · simp [concluded, write, settled, last]
    rfl
  · simp [concluded, write, settled, last]
    rfl

/-- Settling a connect before it is resolved, which no seal has to wait for. -/
theorem settle_late_eq (unsealed : s.sealed = false) :
    (s.finishConnectCallback k).write k Connect.resolve = s.concluded k := by
  have fewer := unresolved_settle found waits
  have counter := booked.counter
  have pending : s.pendingCallbacks ≠ 0 := by omega
  have nothing : s.onPendingZero = false := by
    by_contra stored
    cases unsealed.symm.trans (booked.left (by simpa using stored)).1
  rw [finishConnectCallback_pending pending]
  simp [concluded, nothing, write, settled,
    modify_modify_eq]
  rfl

end

/-- A registration does not touch the books. -/
theorem ConnectReactor.Booked.register (closed : Bool) : (s.register closed).Booked where
  counter := booked.counter
  finishes := booked.finishes
  clean := booked.clean
  left := booked.left
  waiting := booked.waiting

section

variable (found : s.connects[k]? = some connect) (waits : connect.unresolved = true)

include found waits

/-- Waiting for another callback does not touch the books. -/
theorem ConnectReactor.Booked.await {stage : ConnectStage} (open' : stage ≠ .resolved) :
    (s.await k stage).Booked := by
  have begun : connect.begun = true ∧ connect.stage ≠ .resolved := by
    simpa [Connect.unresolved] using waits
  have same : (s.await k stage).unresolved = s.unresolved := by
    refine countP_modify_same fun object here => ?_
    rw [found] at here
    rw [← Option.some.inj here, waits]
    simp [Connect.unresolved, begun.1, open']
  refine ⟨?_, ?_, booked.clean, booked.left, ?_⟩
  · rw [same]
    exact booked.counter
  · refine forall_mem_modify found booked.finishes ?_
    have kept := booked.finishes connect (mem_of_getElem? found)
    simpa [begun.1, begun.2, open'] using kept
  · exact forall_mem_modify found booked.waiting fun _ => begun.1

/-- Settling keeps the books, apart from what the completion is left for. -/
theorem settled_books : (s.settled k).pendingCallbacks = (s.settled k).unresolved ∧
      (∀ connect ∈ (s.settled k).connects,
        connect.finishes = if connect.begun = true ∧ connect.stage = .resolved then 1 else 0) ∧
      ∀ connect ∈ (s.settled k).connects, connect.stage ≠ .resolved → connect.begun = true := by
  have begun : connect.begun = true ∧ connect.stage ≠ .resolved := by
    simpa [Connect.unresolved] using waits
  have fewer := unresolved_settle found waits
  have counter := booked.counter
  refine ⟨?_, ?_, ?_⟩
  · simp only [settled, unresolved] at counter fewer ⊢
    omega
  · refine forall_mem_modify found booked.finishes ?_
    have kept := booked.finishes connect (mem_of_getElem? found)
    simp only [begun.2, and_false, if_false] at kept
    simp [Connect.settle, Connect.resolve, Connect.finish, begun.1, kept]
  · exact forall_mem_modify found booked.waiting (by simp [Connect.settle, Connect.resolve,
      Connect.finish])

/-- Concluding a connect keeps the books. -/
theorem ConnectReactor.Booked.concluded : (s.concluded k).Booked := by
  obtain ⟨counter, finishes, waiting⟩ := settled_books booked found waits
  rw [ConnectReactor.concluded]
  split
  · exact ⟨counter, finishes, booked.clean, by simp [ConnectReactor.complete], waiting⟩
  case isFalse notLast =>
    refine ⟨counter, finishes, booked.clean, ?_, waiting⟩
    intro stored
    have before := booked.left stored
    refine ⟨before.1, ?_⟩
    have more : s.pendingCallbacks ≠ 1 := fun last => notLast ⟨last, stored⟩
    simp only [ConnectReactor.settled]
    omega

end

end

/-- What a handler comes to. -/
theorem HandlerStep.cases' {next : ConnectReactor} (step : HandlerStep s k next)
    (booked : s.Booked) (found : s.connects[k]? = some connect)
    (waits : connect.unresolved = true) :
    (∃ stage, stage ≠ .resolved ∧ stage ≠ .stranded ∧ s.sealed = false ∧
      next = s.await k stage) ∨
    next = s.concluded k ∨
    ∃ closed, s.sealed = false ∧ next = (s.register closed).concluded k := by
  cases step with
  | awaits open' stranded unsealed => exact .inl ⟨_, open', stranded, unsealed, rfl⟩
  | concludes => exact .inr (.inl (conclude_eq booked found waits))
  | registers closed unsealed =>
    have foundBehind : (s.register closed).connects[k]? = some connect := found
    exact .inr (.inr ⟨closed, unsealed, conclude_eq (booked.register closed) foundBehind waits⟩)
  | settles unsealed => exact .inr (.inl (settle_late_eq booked found waits unsealed))

/-- Every handler keeps the books. -/
theorem HandlerStep.booked {next : ConnectReactor} (step : HandlerStep s k next)
    (booked : s.Booked) (found : s.connects[k]? = some connect)
    (waits : connect.unresolved = true) : next.Booked := by
  rcases step.cases' booked found waits with
    ⟨stage, open', _, _, rfl⟩ | rfl | ⟨closed, _, rfl⟩
  · exact booked.await found waits open'
  · exact booked.concluded found waits
  · exact (booked.register closed).concluded found waits

end Conclude

section Runs

variable {s next : ConnectReactor}

section

variable (connect : Connect)

/-- Canceling a connect only marks it. -/
@[simp]
theorem cancel_stage : connect.cancel.stage = connect.stage := by
  simp only [Connect.cancel]
  split <;> rfl

/-- A connect that is canceled while it waits is marked. -/
theorem cancel_canceled
    (waiting : connect.cancel.stage = .startDelay ∨ connect.cancel.stage = .connecting) :
    connect.cancel.canceled = true := by
  rw [cancel_stage] at waiting
  rcases waiting with here | here <;> simp [Connect.cancel, here]

/-- Cancelling begins nothing. -/
@[simp]
theorem cancel_begun : connect.cancel.begun = connect.begun := by
  simp only [Connect.cancel]
  split <;> rfl

/-- It finishes nothing. -/
@[simp]
theorem cancel_finishes : connect.cancel.finishes = connect.finishes := by
  simp only [Connect.cancel]
  split <;> rfl

/-- It resolves nothing. -/
@[simp]
theorem cancel_unresolved : connect.cancel.unresolved = connect.unresolved := by
  simp [Connect.unresolved]

end

/-- The call that begins a connect keeps the books. -/
theorem beginConnect_booked (booked : s.Booked) (engineSealed startDelay : Bool)
    (choices : StartChoices) : (s.beginConnectOnOwner engineSealed startDelay choices).Booked := by
  have counter := booked.counter
  rw [beginConnectOnOwner]
  split
  case isTrue =>
    refine ⟨?_, ?_, booked.clean, booked.left, ?_⟩
    · rw [unresolved, countP_push]
      exact counter
    · exact forall_mem_push booked.finishes rfl
    · exact forall_mem_push booked.waiting fun open' => absurd rfl open'
  case isFalse serving =>
    have unsealed : s.sealed = false := by
      have both : s.sealed = false ∧ engineSealed = false := by simpa using serving
      exact both.1
    have counted : ({ s with
        pendingCallbacks := s.pendingCallbacks + 1
        connects := s.connects ++ [{ stage := .startDelay }] } : ConnectReactor).Booked := by
      refine ⟨?_, ?_, booked.clean, ?_, ?_⟩
      · rw [unresolved, countP_push]
        exact congrArg (· + 1) counter
      · exact forall_mem_push booked.finishes rfl
      · exact fun stored => by cases unsealed.symm.trans (booked.left stored).1
      · exact forall_mem_push booked.waiting fun _ => rfl
    split
    case isTrue => exact counted
    case isFalse =>
      exact (startConnectSocketOnOwner_cases choices).booked counted getElem?_concat_length rfl

/-- One call of the seal keeps the books. -/
theorem sealServiceOnOwner_booked (booked : s.Booked) (outcomes : List ShutdownOutcome) :
    (s.sealServiceOnOwner outcomes).1.Booked := by
  have same : (s.connects.map Connect.cancel).countP Connect.unresolved = s.unresolved := by
    rw [countP_map]
    exact countP_congr fun connect _ => by simp
  have marked : ({ s with
      sealed := true
      connects := s.connects.map Connect.cancel
      conns := (sealLoop s.conns outcomes).1 } : ConnectReactor).Booked := by
    refine ⟨booked.counter.trans same.symm, ?_, booked.clean,
      fun stored => ⟨rfl, (booked.left stored).2⟩, ?_⟩
    · exact forall_mem_map.mpr fun old member => by simpa using booked.finishes old member
    · exact forall_mem_map.mpr fun old member => by simpa using booked.waiting old member
  simp only [sealServiceOnOwner]
  split
  · exact marked
  · split
    case isTrue none =>
      exact ⟨marked.counter, marked.finishes, marked.clean, marked.left, marked.waiting⟩
    case isFalse some_pending =>
      exact ⟨marked.counter, marked.finishes, marked.clean,
        fun _ => ⟨rfl, Nat.pos_of_ne_zero some_pending⟩, marked.waiting⟩

/-- A callback comes to a connect that waits. -/
theorem callback_eq {k : Nat} {stage : ConnectStage} {run : Connect → ConnectReactor}
    (stepped : s.callback k stage run = some next) :
    ∃ connect, s.connects[k]? = some connect ∧ connect.stage = stage ∧ next = run connect := by
  rw [callback] at stepped
  split at stepped
  case h_2 => simp at stepped
  case h_1 connect found =>
    simp only [Option.ite_none_right_eq_some, Option.some.injEq] at stepped
    exact ⟨connect, found, stepped.1, stepped.2.symm⟩

/-- A connect that waits for a callback was begun. -/
theorem unresolved_of_stage (booked : s.Booked) {k : Nat} {connect : Connect}
    (found : s.connects[k]? = some connect) (open' : connect.stage ≠ .resolved) :
    connect.unresolved = true := by
  have begun := booked.waiting connect (mem_of_getElem? found) open'
  simp [Connect.unresolved, begun, open']

/-- Every step keeps the books. -/
theorem booked_step (booked : s.Booked) {label : ConnectLabel}
    (stepped : s.step label = some next) : next.Booked := by
  cases label with
  | beginConnect engineSealed startDelay choices =>
    cases stepped
    exact beginConnect_booked booked engineSealed startDelay choices
  | startTimer k failed engineSealed choices =>
    obtain ⟨connect, found, stage, rfl⟩ := callback_eq stepped
    have waits := unresolved_of_stage booked found (by simp [stage])
    exact (startTimer_cases connect failed engineSealed choices).booked booked found waits
  | waited k waitError socketError choices =>
    obtain ⟨connect, found, stage, rfl⟩ := callback_eq stepped
    have waits := unresolved_of_stage booked found (by simp [stage])
    exact (waited_cases connect waitError socketError choices).booked booked found waits
  | delivered k failed choices =>
    obtain ⟨connect, found, stage, rfl⟩ := callback_eq stepped
    have waits := unresolved_of_stage booked found (by simp [stage])
    simp only [ConnectReactor.delivered]
    split
    · exact booked.await found waits (by decide)
    · exact (adoptFdOnOwner_cases true choices).booked booked found waits
  | cancelConnect k =>
    cases stepped
    have same : (s.connects.modify k Connect.cancel).countP Connect.unresolved = s.unresolved :=
      countP_modify_same fun object _ => cancel_unresolved object
    refine ⟨booked.counter.trans same.symm, ?_, booked.clean, booked.left, ?_⟩
    · exact forall_mem_modify_of booked.finishes fun old kept => by simpa using kept
    · exact forall_mem_modify_of booked.waiting fun old kept => by simpa using kept
  | adoptAccepted =>
    cases stepped
    split
    · exact booked
    · exact booked.register false
  | closeConn | removeConn =>
    cases stepped
    exact ⟨booked.counter, booked.finishes, booked.clean, booked.left, booked.waiting⟩
  | sealService throwsEarly first second =>
    obtain ⟨_, rfl⟩ := guarded_none stepped
    have posted : ({ s with sealPosted := true } : ConnectReactor).Booked :=
      ⟨booked.counter, booked.finishes, booked.clean, booked.left, booked.waiting⟩
    cases throwsEarly with
    | true => exact sealServiceOnOwner_booked posted second
    | false =>
      have attempt := sealServiceOnOwner_booked posted first
      simp only [postedSeal, Bool.false_eq_true, if_false]
      split
      · exact sealServiceOnOwner_booked attempt second
      · exact attempt

/-- The books are kept in every run. -/
theorem booked_of_reachable (reachable : connectReactor.Reachable s) : s.Booked := by
  refine reachable.invariant ConnectReactor.Booked ?_ fun _ _ _ booked stepped =>
    booked_step booked stepped
  rintro s rfl
  exact ⟨rfl, by simp, rfl, by simp, by simp⟩

end Runs

/-- A delivery timer does not fail, `ShutdownOwner` closes what the seal shuts down, and the
repeated seal is not left by an exception. -/
def ShutsDown : ConnectLabel → Prop
  | .delivered _ failed _ => failed = false
  | .sealService _ first second => .kept ∉ first ∧ .kept ∉ second ∧ .threw ∉ second
  | .beginConnect _ _ _ | .startTimer _ _ _ _ | .waited _ _ _ _ | .cancelConnect _ | .adoptAccepted
  | .closeConn _ | .removeConn _ => True

/-- The loop of the seal empties the registry unless something stays open or throws. -/
theorem sealLoop_done {conns : List RegisteredConn} {outcomes : List ShutdownOutcome}
    (closes : .kept ∉ outcomes) :
    sealLoop conns outcomes = ([], .done) ∨ (sealLoop conns outcomes).2 = .threw ∧
      .threw ∈ outcomes := by
  induction conns generalizing outcomes with
  | nil => exact .inl rfl
  | cons conn rest ih =>
    rw [sealLoop.eq_def]
    simp only
    split
    · exact ih closes
    · cases outcomes with
      | nil => exact ih closes
      | cons outcome more =>
        have later : .kept ∉ more := fun member => closes (mem_cons_of_mem _ member)
        cases outcome with
        | closed =>
          rcases ih later with done | ⟨threw, member⟩
          · exact .inl done
          · exact .inr ⟨threw, mem_cons_of_mem _ member⟩
        | kept => exact absurd mem_cons_self closes
        | threw => exact .inr ⟨rfl, mem_cons_self⟩

/-- What a completion of the seal is to find. -/
def nothingLeft : SealReport := { pending := 0, unresolved := 0, registered := 0 }

/-- What holds in the runs in which the seal shuts down. -/
structure ConnectReactor.Sealing (s : ConnectReactor) : Prop where
  posted : s.sealed = s.sealPosted
  present : ∀ connect ∈ s.connects, connect.stage ≠ .stranded
  empty : s.sealed = true → s.conns = []
  canceled : s.sealed = true → ∀ connect ∈ s.connects,
    connect.stage = .startDelay ∨ connect.stage = .connecting → connect.canceled = true
  stored : s.onPendingZero = true ↔ s.sealed = true ∧ 0 < s.pendingCallbacks
  completed : s.completions =
    if s.sealed = true ∧ s.pendingCallbacks = 0 then [nothingLeft] else []

section Sealing

variable {s next : ConnectReactor} {k : Nat} {connect : Connect}

/-- Concluding a connect: the last one behind the seal finds nothing left. -/
theorem ConnectReactor.Sealing.concluded (sealing : s.Sealing) (booked : s.Booked)
    (found : s.connects[k]? = some connect) (waits : connect.unresolved = true) :
    (s.concluded k).Sealing := by
  have fewer := unresolved_settle found waits
  have counter := booked.counter
  have present : ∀ written ∈ (s.settled k).connects, written.stage ≠ .stranded :=
    forall_mem_modify found sealing.present (by simp [Connect.settle, Connect.resolve,
      Connect.finish])
  have canceled : s.sealed = true → ∀ written ∈ (s.settled k).connects,
      written.stage = .startDelay ∨ written.stage = .connecting → written.canceled = true :=
    fun sealed => forall_mem_modify found (sealing.canceled sealed) (by simp [Connect.settle,
      Connect.resolve, Connect.finish])
  have positive : 0 < s.pendingCallbacks := by omega
  have before : s.completions = [] := by
    rw [sealing.completed, if_neg]
    omega
  rw [ConnectReactor.concluded]
  split
  case isTrue last =>
    have sealed := (sealing.stored.mp last.2).1
    have none_left : (s.settled k).unresolved = 0 := by
      simp only [ConnectReactor.unresolved, ConnectReactor.settled] at counter fewer ⊢
      omega
    have zero : (s.settled k).pendingCallbacks = 0 := by
      simp only [ConnectReactor.settled]
      omega
    refine ⟨sealing.posted, present, sealing.empty, canceled, ?_, ?_⟩
    · simp [ConnectReactor.complete, zero]
    · have report : ({ s.settled k with onPendingZero := false } : ConnectReactor).complete.completions
          = s.completions ++ [{ pending := (s.settled k).pendingCallbacks
                                unresolved := (s.settled k).unresolved
                                registered := s.conns.length }] := rfl
      have ended : ({ s.settled k with onPendingZero := false } : ConnectReactor).complete.sealed = true ∧
          ({ s.settled k with onPendingZero := false } : ConnectReactor).complete.pendingCallbacks =
            0 := ⟨sealed, zero⟩
      rw [report, if_pos ended, before, zero, none_left, sealing.empty sealed]
      rfl
  case isFalse notLast =>
    refine ⟨sealing.posted, present, sealing.empty, canceled, ?_, ?_⟩
    · constructor
      · intro stored
        have both := sealing.stored.mp stored
        have more : s.pendingCallbacks ≠ 1 := fun one => notLast ⟨one, stored⟩
        refine ⟨both.1, ?_⟩
        simp only [ConnectReactor.settled]
        omega
      · rintro ⟨sealed, _⟩
        exact sealing.stored.mpr ⟨sealed, positive⟩
    · have unsealed_or_more : ¬(s.sealed = true ∧ (s.settled k).pendingCallbacks = 0) := by
        rintro ⟨sealed, zero⟩
        have stored := sealing.stored.mpr ⟨sealed, positive⟩
        simp only [ConnectReactor.settled] at zero
        exact notLast ⟨by omega, stored⟩
      exact before.trans (if_neg unsealed_or_more).symm

/-- A registration in front of the seal. -/
theorem ConnectReactor.Sealing.register (sealing : s.Sealing) (unsealed : s.sealed = false)
    (closed : Bool) : (s.register closed).Sealing := by
  refine ⟨sealing.posted, sealing.present, ?_, sealing.canceled, sealing.stored, sealing.completed⟩
  exact fun sealed => by cases unsealed.symm.trans sealed

/-- A handler keeps what holds up to the seal and behind it. -/
theorem HandlerStep.sealing (step : HandlerStep s k next) (sealing : s.Sealing) (booked : s.Booked)
    (found : s.connects[k]? = some connect) (waits : connect.unresolved = true) : next.Sealing := by
  rcases step.cases' booked found waits with
    ⟨stage, _, stranded, unsealed, rfl⟩ | rfl | ⟨closed, unsealed, rfl⟩
  · refine ⟨sealing.posted, ?_, sealing.empty, ?_, sealing.stored, sealing.completed⟩
    · exact forall_mem_modify found sealing.present stranded
    · exact fun sealed => by cases unsealed.symm.trans sealed
  · exact sealing.concluded booked found waits
  · exact (sealing.register unsealed closed).concluded (booked.register closed) found waits

/-- The call that begins a connect. -/
theorem beginConnect_sealing (sealing : s.Sealing) (booked : s.Booked)
    (engineSealed startDelay : Bool) (choices : StartChoices) :
    (s.beginConnectOnOwner engineSealed startDelay choices).Sealing := by
  rw [beginConnectOnOwner]
  split
  case isTrue =>
    refine ⟨sealing.posted, ?_, sealing.empty, ?_, sealing.stored, sealing.completed⟩
    · exact forall_mem_push sealing.present nofun
    · exact fun sealed => forall_mem_push (sealing.canceled sealed) (by simp)
  case isFalse serving =>
    have unsealed : s.sealed = false := by
      have both : s.sealed = false ∧ engineSealed = false := by simpa using serving
      exact both.1
    have notSealed : ¬s.sealed = true := by simp [unsealed]
    have nothing : s.onPendingZero = false := by
      by_contra stored
      exact notSealed (sealing.stored.mp (by simpa using stored)).1
    have counted : ({ s with
        pendingCallbacks := s.pendingCallbacks + 1
        connects := s.connects ++ [{ stage := .startDelay }] } : ConnectReactor).Sealing := by
      refine ⟨sealing.posted, ?_, sealing.empty, fun sealed => absurd sealed notSealed, ?_, ?_⟩
      · exact forall_mem_push sealing.present nofun
      · simp [unsealed, nothing]
      · simp [sealing.completed, unsealed]
    have countedBooks : ({ s with
        pendingCallbacks := s.pendingCallbacks + 1
        connects := s.connects ++ [{ stage := .startDelay }] } : ConnectReactor).Booked := by
      have delayed := beginConnect_booked booked false true {}
      simpa [beginConnectOnOwner, unsealed] using delayed
    split
    case isTrue => exact counted
    case isFalse =>
      exact (startConnectSocketOnOwner_cases choices).sealing counted countedBooks
        getElem?_concat_length rfl

/-- A call of the seal that shuts everything down. -/
theorem sealServiceOnOwner_sealing (booked : s.Booked) (posted : s.sealPosted = true)
    (present : ∀ connect ∈ s.connects, connect.stage ≠ .stranded) (fresh : s.completions = [])
    (nothing : s.onPendingZero = false) {outcomes : List ShutdownOutcome}
    (looped : sealLoop s.conns outcomes = ([], .done)) :
    (s.sealServiceOnOwner outcomes).1.Sealing := by
  have markedPresent : ∀ connect ∈ s.connects.map Connect.cancel, connect.stage ≠ .stranded :=
    forall_mem_map.mpr fun old member => by simpa using present old member
  have marked : ∀ connect ∈ s.connects.map Connect.cancel,
      connect.stage = .startDelay ∨ connect.stage = .connecting → connect.canceled = true :=
    forall_mem_map.mpr fun old _ => cancel_canceled old
  have counter := (sealServiceOnOwner_booked booked outcomes).counter
  simp only [sealServiceOnOwner, looped] at counter ⊢
  by_cases none_left : s.pendingCallbacks = 0
  · simp only [none_left, reduceCtorEq, if_false, if_true] at counter ⊢
    refine ⟨posted.symm, markedPresent, fun _ => rfl, fun _ => marked, ?_, ?_⟩
    · simp [complete, nothing]
    · have zero : (s.connects.map Connect.cancel).countP Connect.unresolved = 0 := counter.symm
      simp [complete, unresolved, nothingLeft, fresh, zero]
  · simp only [none_left, reduceCtorEq, if_false]
    refine ⟨posted.symm, markedPresent, fun _ => rfl, fun _ => marked, ?_, ?_⟩
    · simp [Nat.pos_of_ne_zero none_left]
    · simp [fresh, none_left]

/-- What a call of the seal leaves that an exception leaves: nothing of the completion. -/
theorem sealServiceOnOwner_threw {outcomes : List ShutdownOutcome}
    (threw : (s.sealServiceOnOwner outcomes).2 = true) :
    (s.sealServiceOnOwner outcomes).1.sealPosted = s.sealPosted ∧
      (s.sealServiceOnOwner outcomes).1.connects = s.connects.map Connect.cancel ∧
      (s.sealServiceOnOwner outcomes).1.completions = s.completions ∧
      (s.sealServiceOnOwner outcomes).1.onPendingZero = s.onPendingZero := by
  simp only [sealServiceOnOwner] at threw ⊢
  split
  · exact ⟨rfl, rfl, rfl, rfl⟩
  case isFalse ended =>
    rw [if_neg ended] at threw
    split at threw <;> simp at threw

section

variable (sealing : s.Sealing) (booked : s.Booked)

include sealing booked

/-- The posted seal. -/
theorem postedSeal_sealing
    (unposted : s.sealPosted = false) {throwsEarly : Bool} {first second : List ShutdownOutcome}
    (closesFirst : .kept ∉ first) (closesSecond : .kept ∉ second) (returns : .threw ∉ second) :
    ({ s with sealPosted := true }.postedSeal throwsEarly first second : ConnectReactor).Sealing := by
  have unsealed : s.sealed = false := sealing.posted.trans unposted
  have fresh : s.completions = [] := by simp [sealing.completed, unsealed]
  have nothing : s.onPendingZero = false := by
    by_contra stored
    cases unsealed.symm.trans (sealing.stored.mp (by simpa using stored)).1
  have posted : ({ s with sealPosted := true } : ConnectReactor).Booked :=
    ⟨booked.counter, booked.finishes, booked.clean, booked.left, booked.waiting⟩
  have again : ∀ conns, sealLoop conns second = ([], .done) := by
    intro conns
    rcases @sealLoop_done conns second closesSecond with done | ⟨_, threw⟩
    · exact done
    · exact absurd threw returns
  cases throwsEarly with
  | true =>
    exact sealServiceOnOwner_sealing posted rfl sealing.present fresh nothing (again _)
  | false =>
    simp only [postedSeal, Bool.false_eq_true, if_false]
    split
    case isTrue threw =>
      obtain ⟨stillPosted, connects, completions, stored⟩ := sealServiceOnOwner_threw threw
      refine sealServiceOnOwner_sealing (sealServiceOnOwner_booked posted first) stillPosted ?_
        (completions.trans fresh) (stored.trans nothing) (again _)
      rw [connects]
      exact forall_mem_map.mpr fun old member => by simpa using sealing.present old member
    case isFalse returned =>
      refine sealServiceOnOwner_sealing posted rfl sealing.present fresh nothing ?_
      rcases @sealLoop_done s.conns first closesFirst with done | ⟨threw, _⟩
      · exact done
      · exact absurd (by simp [sealServiceOnOwner, threw]) returned

/-- Every step of such a run keeps what holds up to the seal and behind it. -/
theorem sealing_step {label : ConnectLabel}
    (shuts : ShutsDown label) (stepped : s.step label = some next) : next.Sealing := by
  cases label with
  | beginConnect engineSealed startDelay choices =>
    cases stepped
    exact beginConnect_sealing sealing booked engineSealed startDelay choices
  | startTimer k failed engineSealed choices =>
    obtain ⟨connect, found, stage, rfl⟩ := callback_eq stepped
    have waits := unresolved_of_stage booked found (by simp [stage])
    exact (startTimer_cases connect failed engineSealed choices).sealing sealing booked found waits
  | waited k waitError socketError choices =>
    obtain ⟨connect, found, stage, rfl⟩ := callback_eq stepped
    have waits := unresolved_of_stage booked found (by simp [stage])
    exact (waited_cases connect waitError socketError choices).sealing sealing booked found waits
  | delivered k failed choices =>
    obtain ⟨connect, found, stage, rfl⟩ := callback_eq stepped
    have waits := unresolved_of_stage booked found (by simp [stage])
    have fires : failed = false := shuts
    simp only [ConnectReactor.delivered, fires, Bool.false_eq_true, if_false]
    exact (adoptFdOnOwner_cases true choices).sealing sealing booked found waits
  | cancelConnect k =>
    cases stepped
    refine ⟨sealing.posted, ?_, sealing.empty, ?_, sealing.stored, sealing.completed⟩
    · exact forall_mem_modify_of sealing.present fun old kept => by simpa using kept
    · exact fun sealed => forall_mem_modify_of (sealing.canceled sealed)
        fun old _ => cancel_canceled old
  | adoptAccepted =>
    cases stepped
    split
    case isTrue => exact sealing
    case isFalse notSealed => exact sealing.register (Bool.eq_false_iff.mpr notSealed) false
  | closeConn | removeConn =>
    cases stepped
    exact ⟨sealing.posted, sealing.present, fun sealed => by simp [sealing.empty sealed],
      sealing.canceled, sealing.stored, sealing.completed⟩
  | sealService throwsEarly first second =>
    obtain ⟨met, rfl⟩ := guarded_none stepped
    exact postedSeal_sealing sealing booked (Bool.eq_false_iff.mpr met) shuts.1 shuts.2.1
      shuts.2.2

/-- Behind the seal the next callback of a connect concludes it. -/
theorem callback_concludes (sealed : s.sealed = true)
    (found : s.connects[k]? = some connect) (open' : connect.stage ≠ .resolved)
    {label : ConnectLabel} (comes : (∃ failed engineSealed choices,
        label = .startTimer k failed engineSealed choices) ∨
      (∃ waitError socketError choices, label = .waited k waitError socketError choices) ∨
      ∃ choices, label = .delivered k false choices)
    (stepped : s.step label = some next) : next = s.concluded k := by
  have waits := unresolved_of_stage booked found open'
  have concluded := conclude_eq booked found waits
  have canceled := sealing.canceled sealed connect (mem_of_getElem? found)
  rcases comes with ⟨failed, engineSealed, choices, rfl⟩ | ⟨waitError, socketError, choices, rfl⟩ |
    ⟨choices, rfl⟩
  · obtain ⟨other, _, _, rfl⟩ := callback_eq stepped
    simp [startTimer, sealed, concluded]
  · obtain ⟨other, otherFound, stage, rfl⟩ := callback_eq stepped
    have same : other = connect := Option.some.inj (otherFound.symm.trans found)
    have marked := canceled (.inr (by rw [← same]; exact stage))
    simp [waited, same, marked, concluded]
  · obtain ⟨other, _, _, rfl⟩ := callback_eq stepped
    simp [delivered, adoptFdOnOwner, sealed, concluded]

end

/-- What holds along a run in which the seal shuts down. -/
theorem sealing_of_guardedRun {labels : List ConnectLabel}
    (run : connectReactor.GuardedRun (fun _ label => ShutsDown label) labels s) : s.Sealing := by
  refine run.reachableInvariant ConnectReactor.Sealing ?_ ?_
  · rintro s rfl
    exact ⟨rfl, by simp, by simp, by simp, by simp, by simp⟩
  · intro s label next reachable sealing shuts stepped
    exact sealing_step sealing (booked_of_reachable reachable) shuts stepped

/-- The pending connects and the seal. In every run the counter is the number of begun connects that
are not resolved, `FinishConnectCallback` never finds it at zero, and a begun connect is settled once
when it is resolved and not before. In a run in which no delivery timer fails, no connection stays
open under the seal and the repeated seal is not left by an exception, an unresolved connect waits
for a callback, which concludes it behind the seal; the completion of the posted seal runs once,
when nothing is pending any more, and finds no connection. -/
theorem seal_waits_for_connects {labels : List ConnectLabel}
    (run : connectReactor.GuardedRun (fun _ label => ShutsDown label) labels s) :
    s.pendingCallbacks = s.unresolved ∧
    s.finishedAtZero = false ∧
    (∀ connect ∈ s.connects, connect.finishes =
      if connect.begun = true ∧ connect.stage = .resolved then 1 else 0) ∧
    (∀ k connect, s.connects[k]? = some connect → connect.stage ≠ .resolved →
      (connect.stage = .startDelay ∨ connect.stage = .connecting ∨ connect.stage = .delivering) ∧
      ∀ label next, s.sealed = true → ((∃ failed engineSealed choices,
          label = .startTimer k failed engineSealed choices) ∨
        (∃ waitError socketError choices, label = .waited k waitError socketError choices) ∨
        ∃ choices, label = .delivered k false choices) →
        s.step label = some next → next.unresolved + 1 = s.unresolved) ∧
    (s.sealed = true → s.conns = []) ∧
    s.completions =
      if s.sealPosted = true ∧ s.unresolved = 0 then
        [{ pending := 0, unresolved := 0, registered := 0 }]
      else [] := by
  have booked := booked_of_reachable run.reachable
  have sealing := sealing_of_guardedRun run
  refine ⟨booked.counter, booked.clean, booked.finishes, ?_, sealing.empty, ?_⟩
  · intro k connect found open'
    refine ⟨?_, ?_⟩
    · have present := sealing.present connect (mem_of_getElem? found)
      cases stage : connect.stage <;> simp [stage] at open' present ⊢
    · intro label next sealed comes stepped
      have concluded := callback_concludes sealing booked sealed found open' comes stepped
      have waits := unresolved_of_stage booked found open'
      have fewer := unresolved_settle found waits
      rw [concluded, ← fewer, ConnectReactor.concluded]
      split <;> rfl
  · rw [← sealing.posted, ← booked.counter]
    exact sealing.completed

end Sealing

section Stuck

variable {s next : ConnectReactor}

/-- A sealed reactor waits for a connect that nothing will resolve. -/
structure ConnectReactor.Stuck (s : ConnectReactor) : Prop where
  booked : s.Booked
  sealed : s.sealed = true
  posted : s.sealPosted = true
  stranded : ∃ (j : Nat) (connect : Connect), s.connects[j]? = some connect ∧
    connect.stage = .stranded
  silent : s.completions = []

/-- Concluding another connect does not help. -/
theorem ConnectReactor.Stuck.concluded (stuck : s.Stuck) {k : Nat} {connect : Connect}
    (found : s.connects[k]? = some connect) (waits : connect.unresolved = true)
    (other : connect.stage ≠ .stranded) : (s.concluded k).Stuck := by
  obtain ⟨j, lost, lostFound, lostStage⟩ := stuck.stranded
  have apart : k ≠ j := by
    rintro rfl
    have same : connect = lost := Option.some.inj (found.symm.trans lostFound)
    exact other (same ▸ lostStage)
  have still : (s.connects.modify k Connect.settle)[j]? = some lost := by
    simp [apart, lostFound]
  have lostWaits : lost.unresolved = true :=
    unresolved_of_stage stuck.booked lostFound (by simp [lostStage])
  have one : 0 < (s.connects.modify k Connect.settle).countP Connect.unresolved :=
    countP_pos_iff.mpr ⟨lost, mem_of_getElem? still, lostWaits⟩
  have fewer := unresolved_settle found waits
  have counter := stuck.booked.counter
  have more : ¬(s.pendingCallbacks = 1 ∧ s.onPendingZero = true) := by
    rintro ⟨last, _⟩
    omega
  have booked := stuck.booked.concluded found waits
  rw [ConnectReactor.concluded, if_neg more] at booked ⊢
  exact ⟨booked, stuck.sealed, stuck.posted, ⟨j, lost, still, lostStage⟩, stuck.silent⟩

/-- Nothing gets such a reactor on. -/
theorem stuck_step (stuck : s.Stuck) {label : ConnectLabel} (stepped : s.step label = some next) :
    next.Stuck := by
  have booked := booked_step stuck.booked stepped
  have sealed := stuck.sealed
  obtain ⟨j, lost, lostFound, lostStage⟩ := stuck.stranded
  have callback : ∀ {k connect}, s.connects[k]? = some connect → connect.stage ≠ .resolved →
      connect.stage ≠ .stranded → HandlerStep s k next → next.Stuck := by
    intro k connect found open' other step
    have waits := unresolved_of_stage stuck.booked found open'
    rcases step.cases' stuck.booked found waits with
      ⟨_, _, _, unsealed, _⟩ | same | ⟨_, unsealed, _⟩
    · simp [sealed] at unsealed
    · rw [same]
      exact stuck.concluded found waits other
    · simp [sealed] at unsealed
  cases label with
  | beginConnect engineSealed startDelay choices =>
    simp only [ConnectReactor.step, beginConnectOnOwner, sealed, Bool.true_or, if_true,
      Option.some.injEq] at stepped
    rw [← stepped] at booked ⊢
    have old : (s.connects ++ [{ stage := .resolved, begun := false }])[j]? = some lost :=
      getElem?_push_old lostFound
    exact ⟨booked, rfl, stuck.posted, ⟨j, lost, old, lostStage⟩, stuck.silent⟩
  | startTimer k failed engineSealed choices =>
    obtain ⟨connect, found, stage, same⟩ := callback_eq stepped
    have step := startTimer_cases (s := s) (k := k) connect failed engineSealed choices
    exact callback found (by simp [stage]) (by simp [stage]) (same ▸ step)
  | waited k waitError socketError choices =>
    obtain ⟨connect, found, stage, same⟩ := callback_eq stepped
    have step := waited_cases (s := s) (k := k) connect waitError socketError choices
    exact callback found (by simp [stage]) (by simp [stage]) (same ▸ step)
  | delivered k failed choices =>
    obtain ⟨connect, found, stage, same⟩ := callback_eq stepped
    cases failed with
    | true =>
      simp only [ConnectReactor.delivered, if_true] at same
      rw [same] at booked ⊢
      refine ⟨booked, sealed, stuck.posted, ⟨k, { connect with stage := .stranded }, ?_, rfl⟩,
        stuck.silent⟩
      simp [await, write, found]
    | false =>
      have step := adoptFdOnOwner_cases (s := s) (k := k) true choices
      exact callback found (by simp [stage]) (by simp [stage]) (same ▸ step)
  | cancelConnect k =>
    cases stepped
    have kept : ∃ connect, (s.connects.modify k Connect.cancel)[j]? = some connect ∧
        connect.stage = .stranded := by
      rw [getElem?_modify, lostFound]
      by_cases here : k = j
      · exact ⟨lost.cancel, by simp [here], by simp [lostStage]⟩
      · exact ⟨lost, by simp [here], lostStage⟩
    obtain ⟨connect, found, stage⟩ := kept
    exact ⟨booked, sealed, stuck.posted, ⟨j, connect, found, stage⟩, stuck.silent⟩
  | adoptAccepted =>
    simp only [ConnectReactor.step, sealed, if_true, Option.some.injEq] at stepped
    rw [← stepped]
    exact stuck
  | closeConn | removeConn =>
    cases stepped
    exact ⟨booked, sealed, stuck.posted, ⟨j, lost, lostFound, lostStage⟩, stuck.silent⟩
  | sealService throwsEarly first second => simp [ConnectReactor.step, stuck.posted] at stepped

/-- A connect whose delivery timer has failed keeps the seal from its completion, for ever. -/
theorem stuck_exec (reachable : connectReactor.Reachable s) (sealed : s.sealed = true)
    (posted : s.sealPosted = true)
    (stranded : ∃ (j : Nat) (connect : Connect), s.connects[j]? = some connect ∧
      connect.stage = .stranded)
    (silent : s.completions = []) {later : List ConnectLabel}
    (executed : connectReactor.exec s later = some next) : next.completions = [] := by
  have stuck : s.Stuck := ⟨booked_of_reachable reachable, sealed, posted, stranded, silent⟩
  exact (reachable.exec ConnectReactor.Stuck stuck
    (fun _ _ _ _ stuck stepped => stuck_step stuck stepped) executed).silent

end Stuck

section Samples

instance (label : ConnectLabel) : Decidable (ShutsDown label) :=
  match label with
  | .delivered _ failed _ => inferInstanceAs (Decidable (failed = false))
  | .sealService _ first second =>
    inferInstanceAs (Decidable (.kept ∉ first ∧ .kept ∉ second ∧ .threw ∉ second))
  | .beginConnect _ _ _ | .startTimer _ _ _ _ | .waited _ _ _ _ | .cancelConnect _ | .adoptAccepted
  | .closeConn _ | .removeConn _ => inferInstanceAs (Decidable True)

/-- One connect succeeds, another is canceled by the seal; its callback runs the completion. -/
theorem seal_waits_for_connects_two :
    ∃ s, connectReactor.Reachable s ∧ s.sealPosted = true ∧ s.unresolved = 0 ∧
      s.connects.length = 2 ∧
      s.completions = [{ pending := 0, unresolved := 0, registered := 0 }] := by
  obtain ⟨s, run, tested⟩ := Machine.exists_guardedRun
    [.beginConnect false false {}, .waited 0 false false {}, .beginConnect false false {},
      .sealService false [.closed] [], .waited 1 false false {}]
    (m := connectReactor) (fun _ label => decide (ShutsDown label))
    (fun s => decide (s.sealPosted = true) && decide (s.unresolved = 0) &&
      decide (s.connects.length = 2)) rfl (by decide +kernel)
  have shuts := run.mono fun s label met => of_decide_eq_true met
  simp only [Bool.and_eq_true, decide_eq_true_eq] at tested
  obtain ⟨⟨posted, resolved⟩, size⟩ := tested
  have completed := (seal_waits_for_connects shuts).2.2.2.2.2
  rw [if_pos ⟨posted, resolved⟩] at completed
  exact ⟨s, run.reachable, posted, resolved, size, completed⟩

/-- A failed delivery timer: the connect is not settled, and whatever follows the seal, its
completion does not run. A connection that stays open: the completion runs beside it. -/
theorem seal_leaves_connects :
    (∃ s, connectReactor.Reachable s ∧ s.sealPosted = true ∧
      s.connects = [{ stage := .stranded, finishes := 0 }] ∧ s.pendingCallbacks = 1 ∧
      ∀ later next, connectReactor.exec s later = some next → next.completions = []) ∧
    ∃ s, connectReactor.Reachable s ∧
      s.completions = [{ pending := 0, unresolved := 0, registered := 1 }] := by
  constructor
  · obtain ⟨s, reachable, tested⟩ := Machine.exists_reachable
      [.beginConnect false false {}, .waited 0 false false { deliveryDelay := true },
        .delivered 0 true {}, .sealService false [] []]
      (m := connectReactor) (fun s => decide (s.sealPosted = true) &&
        decide (s.connects = [{ stage := .stranded, finishes := 0 }]) &&
        decide (s.pendingCallbacks = 1) && decide (s.sealed = true) &&
        decide (s.completions = [])) rfl (by decide +kernel)
    simp only [Bool.and_eq_true, decide_eq_true_eq] at tested
    obtain ⟨⟨⟨⟨posted, connects⟩, pending⟩, sealed⟩, silent⟩ := tested
    refine ⟨s, reachable, posted, connects, pending, ?_⟩
    intro later next executed
    have stranded : ∃ (j : Nat) (connect : Connect), s.connects[j]? = some connect ∧
        connect.stage = .stranded :=
      ⟨0, { stage := .stranded, finishes := 0 }, by rw [connects]; rfl, rfl⟩
    exact stuck_exec reachable sealed posted stranded silent executed
  · have reached := Machine.exists_reachable [.adoptAccepted, .sealService false [.kept] []]
      (m := connectReactor) (fun s => decide (s.completions =
        [{ pending := 0, unresolved := 0, registered := 1 }])) rfl (by decide +kernel)
    simpa using reached

end Samples

end BbtInfra.Net
