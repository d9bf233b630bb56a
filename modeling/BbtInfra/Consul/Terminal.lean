import BbtInfra.Consul.Client
import BbtInfra.Lib.Census

/-!
# Terminal state of the Consul client

Two invariants. The gate: the counter of operations, and the one way from `closed` over the HTTP
close to `terminal`. The waits: a waiter that hears nothing by itself belongs to the `Close` that
waits on it, and it is on the list as long as `terminal` is not set and among those to be notified
behind it.
-/
namespace BbtInfra.Consul

open Lib ClientState Publishing List Option

namespace ClientState

variable {s next : ClientState} {c d k w : Nat}

/-- The flags and the counter go together. -/
structure Gate (s : ClientState) : Prop where
  inflight : s.inflight = s.ops.countP OpPc.isInside
  started : s.httpCloseStarted = true → s.closed = true ∧ s.inflight = 0
  /-- Whoever starts the HTTP close has it before it or behind it. -/
  http : s.publishing.countP (· == .http) + s.httpCloses = if s.httpCloseStarted then 1 else 0
  publish : s.publishing.countP (· == .publish) + (if s.httpClosed then 1 else 0) = s.httpCloses
  terminal : s.terminal = s.httpClosed
  publications : s.publications = if s.terminal then 1 else 0

section

variable (gate : Gate s)

include gate

/-- Where nobody has started the HTTP close, it has not happened. -/
theorem Gate.fresh (idle : s.httpCloseStarted = false) :
    s.httpCloses = 0 ∧ s.httpClosed = false ∧ s.terminal = false := by
  have http := gate.http
  have publish := gate.publish
  rw [idle, if_neg (by simp)] at http
  have closes : s.httpCloses = 0 := by omega
  have closed : s.httpClosed = false := by
    by_contra closed
    rw [if_pos (by simpa using closed)] at publish
    omega
  exact ⟨closes, closed, by rw [gate.terminal, closed]⟩

/-- A started HTTP close is the last thing that happens to the flags. -/
theorem Gate.http_next (found : s.publishing[d]? = some .http) :
    s.httpCloseStarted = true ∧ s.httpCloses = 0 := by
  have some' : 0 < s.publishing.countP (· == .http) :=
    countP_pos_iff.mpr ⟨.http, mem_of_getElem? found, rfl⟩
  have http := gate.http
  by_cases started : s.httpCloseStarted = true
  · rw [if_pos started] at http
    exact ⟨started, by omega⟩
  · rw [if_neg started] at http
    omega

/-- Between the HTTP close and its publication nothing is published. -/
theorem Gate.publish_next (found : s.publishing[d]? = some .publish) :
    s.httpCloseStarted = true ∧ s.httpCloses = 1 ∧ s.httpClosed = false := by
  have some' : 0 < s.publishing.countP (· == .publish) :=
    countP_pos_iff.mpr ⟨.publish, mem_of_getElem? found, rfl⟩
  have http := gate.http
  have publish := gate.publish
  have started : s.httpCloseStarted = true := by
    by_contra idle
    rw [if_neg idle] at http
    omega
  rw [if_pos started] at http
  refine ⟨started, by omega, ?_⟩
  by_contra closed
  rw [if_pos (by simpa using closed)] at publish
  omega

/-- The publication: all three conditions hold, so it is made. -/
theorem Gate.published (found : s.publishing[d]? = some .publish) :
    markTerminalLocked { s with httpClosed := true } =
      ({ s with
        httpClosed := true
        terminal := true
        publications := s.publications + 1
        coWaiters := [] }, some s.coWaiters) := by
  obtain ⟨started, -, open'⟩ := gate.publish_next found
  obtain ⟨closed, idle⟩ := gate.started started
  have terminal : s.terminal = false := by rw [gate.terminal, open']
  simp [markTerminalLocked, terminal, closed, idle]

/-- The ways of `~OpScope` and of the first critical section of `Close`: the HTTP close is started
by the last who can, and nothing is published. -/
theorem leave_eq (found : s.ops[k]? = some .inside) : s.leave k =
      if s.closed = true ∧ s.inflight = 1 then
        ({ s with inflight := 0, httpCloseStarted := true }.spawn .http).opTo k
          (.publishing s.publishing.length)
      else { s with inflight := s.inflight - 1 }.opTo k .left := by
  have positive : 0 < s.inflight := by
    rw [gate.inflight]
    exact countP_pos_iff.mpr ⟨.inside, mem_of_getElem? found, rfl⟩
  have idle : s.httpCloseStarted = false := by
    by_contra started
    have none' := (gate.started (by simpa using started)).2
    omega
  obtain ⟨-, open', -⟩ := gate.fresh idle
  by_cases last : s.closed = true ∧ s.inflight = 1
  · simp [leave, beginHttpCloseLocked, idle, last]
  · rw [if_neg last]
    have others : s.closed = false ∨ s.inflight - 1 ≠ 0 := by
      by_cases closed : s.closed = true
      · exact .inr fun none' => last ⟨closed, by omega⟩
      · exact .inl (by simpa using closed)
    have begins : ({ s with inflight := s.inflight - 1 } : ClientState).beginHttpCloseLocked =
        ({ s with inflight := s.inflight - 1 }, false) := by
      rw [beginHttpCloseLocked, if_pos]
      rcases others with closed | more
      · exact .inl closed
      · exact .inr (.inl more)
    have marks : ({ s with inflight := s.inflight - 1 } : ClientState).markTerminalLocked =
        ({ s with inflight := s.inflight - 1 }, none) := by
      rw [markTerminalLocked, if_pos (.inr (.inr (.inr open')))]
    simp [leave, begins, marks]

/-- An operation goes on and the counter follows it. -/
theorem Gate.opTo (k : Nat) (pc : OpPc) (inflight : Nat)
    (counted : inflight = (s.ops.set k pc).countP OpPc.isInside)
    (fewer : s.httpCloseStarted = true → inflight = 0) :
    Gate { s.opTo k pc with inflight } :=
  ⟨counted, fun started => ⟨(gate.started started).1, fewer started⟩, gate.http, gate.publish,
    gate.terminal, gate.publications⟩

/-- The HTTP close is started when it is due. -/
theorem Gate.start (closed : s.closed = true) (none' : s.inflight = 0)
    (idle : s.httpCloseStarted = false) :
    Gate ({ s with httpCloseStarted := true }.spawn .http) := by
  have http := gate.http
  have publish := gate.publish
  rw [idle, if_neg (by simp)] at http
  refine ⟨gate.inflight, fun _ => ⟨closed, none'⟩, ?_, ?_, gate.terminal, gate.publications⟩
  · simp only [spawn, countP_push, if_true]
    rw [if_pos (by rfl)]
    omega
  · simp only [spawn, countP_push]
    exact publish

end

variable {p : Publishing}

/-- A call of `CompleteHttpClose` or `WakeAll` goes on behind its publication. -/
theorem Gate.publisher (gate : Gate s) {q : Publishing} (found : s.publishing[d]? = some p)
    (past : p ≠ .http ∧ p ≠ .publish) (past' : q ≠ .http ∧ q ≠ .publish) :
    Gate (s.publisher d q) := by
  have same : ∀ test : Publishing → Bool, test p = false → test q = false →
      (s.publishing.set d q).countP test = s.publishing.countP test := by
    intro test before after
    have counted := countP_modify (fun _ => q) test found
    rw [← set_eq_modify, before, after] at counted
    simpa using counted
  refine ⟨gate.inflight, gate.started, ?_, ?_, gate.terminal, gate.publications⟩
  · rw [ClientState.publisher, same _ (by simpa using past.1) (by simpa using past'.1)]
    exact gate.http
  · rw [ClientState.publisher, same _ (by simpa using past.2) (by simpa using past'.2)]
    exact gate.publish

/-- Nothing of the gate is in the waiters and the calls of `Close`. -/
theorem Gate.aside (gate : Gate s) (coWaiters : List Nat) (heap : List CoWaiter)
    (closers : List Closer) : Gate { s with coWaiters, heap, closers } :=
  ⟨gate.inflight, gate.started, gate.http, gate.publish, gate.terminal, gate.publications⟩

/-- The censuses behind a step of `CompleteHttpClose` or `WakeAll`. -/
theorem counted_publishing (found : s.publishing[d]? = some p) (q : Publishing)
    (test : Publishing → Bool) :
    (s.publishing.set d q).countP test + (if test p then 1 else 0) =
      s.publishing.countP test + if test q then 1 else 0 := by
  rw [set_eq_modify]
  exact countP_modify (fun _ => q) test found

/-- A step of `CompleteHttpClose` or `WakeAll` keeps the gate. -/
theorem Gate.publishes (gate : Gate s) (found : s.publishing[d]? = some p)
    (stepped : s.publish d p = some next) : Gate next := by
  have http := gate.http
  have publish := gate.publish
  match p with
  | .http =>
    cases stepped
    have less := counted_publishing found .publish (· == .http)
    have more := counted_publishing found .publish (· == .publish)
    rw [if_pos (by rfl), if_neg (by decide)] at less
    rw [if_neg (by decide), if_pos (by rfl)] at more
    refine ⟨gate.inflight, gate.started, ?_, ?_, gate.terminal, gate.publications⟩
    · show (s.publishing.set d .publish).countP (· == .http) + (s.httpCloses + 1) = _
      exact Eq.trans (by omega) http
    · show (s.publishing.set d .publish).countP (· == .publish) +
        (if s.httpClosed then 1 else 0) = s.httpCloses + 1
      omega
  | .publish =>
    obtain ⟨started, closes, open'⟩ := gate.publish_next found
    have terminal : s.terminal = false := by rw [gate.terminal, open']
    have publications := gate.publications
    rw [ClientState.publish, gate.published found] at stepped
    cases stepped
    have same := counted_publishing found (.notify s.coWaiters) (· == .http)
    have less := counted_publishing found (.notify s.coWaiters) (· == .publish)
    rw [if_neg (by decide), if_neg (by simp)] at same
    rw [if_pos (by rfl), if_neg (by simp)] at less
    rw [terminal, if_neg (by simp)] at publications
    refine ⟨gate.inflight, gate.started, ?_, ?_, rfl, ?_⟩
    · show (s.publishing.set d (.notify s.coWaiters)).countP (· == .http) + s.httpCloses = _
      exact Eq.trans (by omega) http
    · show (s.publishing.set d (.notify s.coWaiters)).countP (· == .publish) + 1 = s.httpCloses
      omega
    · show s.publications + 1 = 1
      omega
  | .notify woken =>
    cases stepped
    exact (gate.publisher found (by simp) (q := .wake woken) (by simp)).aside _ _ _
  | .wake [] =>
    cases stepped
    exact gate.publisher found (by simp) (by simp)
  | .wake (w :: woken) =>
    cases stepped
    exact (gate.publisher found (by simp) (q := .wake woken) (by simp)).aside _ _ _
  | .done => cases stepped

/-- The first critical section of `Close`. -/
theorem seal'_eq (s : ClientState) (c : Nat) :
    s.seal' c =
      if s.inflight = 0 ∧ s.httpCloseStarted = false then
        ({ s with closed := true, httpCloseStarted := true }.spawn .http).closeTo c
          (.publishing s.publishing.length)
      else { s with closed := true }.closeTo c .await := by
  by_cases due : s.inflight = 0 ∧ s.httpCloseStarted = false
  · simp [seal', beginHttpCloseLocked, due]
  · rw [if_neg due]
    have begins : ({ s with closed := true } : ClientState).beginHttpCloseLocked =
        ({ s with closed := true }, false) := by
      rw [beginHttpCloseLocked, if_pos]
      by_cases busy : s.inflight = 0
      · exact .inr (.inr (by simpa using fun idle => due ⟨busy, idle⟩))
      · exact .inr (.inl busy)
    simp [seal', begins]

/-- A client whose `closed` is set. -/
theorem Gate.closes (gate : Gate s) : Gate { s with closed := true } :=
  ⟨gate.inflight, fun started => ⟨rfl, (gate.started started).2⟩, gate.http, gate.publish,
    gate.terminal, gate.publications⟩

/-- A step of `Close` keeps the gate. -/
theorem Gate.act (gate : Gate s) {coroutine : Bool} {pc : ClosePc} {move : CloseMove}
    (stepped : s.act c coroutine pc move = some next) : Gate next := by
  unfold ClientState.act at stepped
  split at stepped
  · cases stepped
    rw [seal'_eq]
    split_ifs with due
    · exact (gate.closes.start rfl due.1 due.2).aside _ _ _
    · exact gate.closes.aside _ _ _
  all_goals first
    | (cases stepped; exact gate.aside _ _ _)
    | (split_ifs at stepped <;> cases stepped <;> exact gate.aside _ _ _)
    | (split at stepped <;> cases stepped <;> exact gate.aside _ _ _)
    | cases stepped

/-- A step of an operation keeps the gate. -/
theorem Gate.operate (gate : Gate s) {pc : OpPc} (found : s.ops[k]? = some pc)
    (stepped : s.operate k pc = some next) : Gate next := by
  have inflight := gate.inflight
  have counted : ∀ after, (s.ops.set k after).countP OpPc.isInside +
      (if pc.isInside then 1 else 0) =
      s.ops.countP OpPc.isInside + if after.isInside then 1 else 0 := by
    intro after
    rw [set_eq_modify]
    exact countP_modify (fun _ => after) OpPc.isInside found
  match pc with
  | .enter =>
    rw [ClientState.operate] at stepped
    split_ifs at stepped with closed
    · cases stepped
      have same := counted .refused
      simp only [OpPc.isInside, Bool.false_eq_true, if_false] at same
      exact gate.opTo k _ s.inflight (by omega) fun started => (gate.started started).2
    · cases stepped
      have more := counted .inside
      simp only [OpPc.isInside, Bool.false_eq_true, if_false, if_true] at more
      exact gate.opTo k _ _ (by omega) fun started => absurd (gate.started started).1 closed
  | .inside =>
    cases stepped
    rw [leave_eq gate found]
    have positive : 0 < s.ops.countP OpPc.isInside :=
      countP_pos_iff.mpr ⟨.inside, mem_of_getElem? found, rfl⟩
    have idle : s.httpCloseStarted = false := by
      by_contra started
      have none' := (gate.started (by simpa using started)).2
      omega
    split_ifs with last
    · have less := counted (.publishing s.publishing.length)
      simp only [OpPc.isInside, Bool.false_eq_true, if_false, if_true] at less
      have left := gate.opTo k (.publishing s.publishing.length) 0
        (by omega) fun started => absurd started (by simp [idle])
      exact left.start last.1 rfl idle
    · have less := counted .left
      simp only [OpPc.isInside, Bool.false_eq_true, if_false, if_true] at less
      exact gate.opTo k _ (s.inflight - 1) (by omega) fun started =>
        absurd started (by simp [idle])
  | .publishing e =>
    rw [ClientState.operate] at stepped
    split_ifs at stepped
    cases stepped
    have same := counted .left
    simp only [OpPc.isInside, Bool.false_eq_true, if_false] at same
    exact gate.opTo k _ s.inflight (by omega) fun started => (gate.started started).2
  | .refused | .left => cases stepped

end ClientState

namespace ClosePc

/-- The waiter of a `Close`. -/
def waiter : ClosePc → Option Nat
  | .register w | .begin' w | .armed w | .hail w | .park w | .parked w | .erase w _ | .withdraw w =>
    some w
  | _ => none

/-- What its wait is there. -/
def Fits (waiting : Waiting) : ClosePc → Prop
  | .register _ | .begin' _ => waiting = .idle
  | .armed _ | .hail _ | .park _ => waiting = .pending ∨ waiting = .notified
  | .parked _ => waiting = .parked ∨ waiting = .notified
  | .erase _ _ | .withdraw _ => waiting = .over'
  | _ => True

/-- The waiter is on the list. -/
def listed : ClosePc → Option Nat
  | .begin' w | .armed w | .hail w | .park w | .parked w => some w
  | _ => none

/-- Nobody but a publication looks after the waiter. -/
def alone : ClosePc → Option Nat
  | .park w | .parked w => some w
  | _ => none

end ClosePc

/-- A waiter that `Notify` reaches. -/
def Waiting.unheard (waiting : Waiting) : Bool := waiting == .pending || waiting == .parked

/-- The notification of a waiter is due. -/
def Publishing.Owes (w : Nat) : Publishing → Prop
  | .notify woken | .wake woken => w ∈ woken
  | _ => False

/-- How many steps a notification still takes. -/
def Publishing.due : Publishing → Nat
  | .notify woken => woken.length + 2
  | .wake woken => woken.length + 1
  | _ => 0

namespace ClientState

variable {s next : ClientState} {c d k w : Nat}

/-- Waiters, the list and the notifications go together. -/
structure Waits (s : ClientState) : Prop where
  named : ∀ (c : Nat) closer (w : Nat), s.closers[c]? = some closer → closer.pc.waiter = some w →
    ∃ waiter, s.heap[w]? = some waiter ∧ waiter.owner = c ∧ closer.pc.Fits waiter.waiting
  owned : ∀ (w : Nat) waiter, s.heap[w]? = some waiter → waiter.waiting.unheard = true →
    ∃ closer, s.closers[waiter.owner]? = some closer ∧ closer.pc.waiter = some w
  listed : ∀ (c : Nat) closer (w : Nat), s.closers[c]? = some closer → closer.pc.listed = some w →
    s.terminal = false → w ∈ s.coWaiters
  /-- Behind the publication each waiter that waits is to be notified. -/
  alone : ∀ (c : Nat) closer (w : Nat) waiter, s.closers[c]? = some closer →
    closer.pc.alone = some w → s.heap[w]? = some waiter → waiter.waiting.unheard = true →
    s.terminal = true → ∃ p ∈ s.publishing, p.Owes w
  blocked : ∀ (c : Nat) closer, s.closers[c]? = some closer → closer.pc = .blocked →
    s.terminal = true → ∃ woken, .notify woken ∈ s.publishing
  returned : ∀ (c : Nat) closer, s.closers[c]? = some closer → closer.pc = .returned →
    s.terminal = true

variable {pc : ClosePc} {closer : Closer} {p : Publishing}

/-- A notification leaves a wait where its `Close` expects it. -/
theorem fits_notify {waiting : Waiting} (fits : pc.Fits waiting) : pc.Fits waiting.notify := by
  cases pc <;> simp only [ClosePc.Fits] at fits ⊢ <;> rcases fits with rfl | rfl <;>
    simp [Waiting.notify]

/-- Nothing reaches a waiter that was notified. -/
theorem unheard_notify (waiting : Waiting) : waiting.notify.unheard = false := by
  cases waiting <;> rfl

/-- The waiter of a `Close` that nobody else looks after, or that is on the list. -/
theorem waiter_of_alone (alone : pc.alone = some w) : pc.listed = some w ∧ pc.waiter = some w := by
  cases pc <;> simp_all [ClosePc.alone, ClosePc.listed, ClosePc.waiter]

/-- A waiter on the list is the waiter of its `Close`. -/
theorem waiter_of_listed (listed : pc.listed = some w) : pc.waiter = some w := by
  cases pc <;> simp_all [ClosePc.listed, ClosePc.waiter]

/-- Whatever the old calls of `WakeAll` owe, the new ones owe it. -/
structure Covers (old new : List Publishing) : Prop where
  owes : ∀ p ∈ old, ∀ w, p.Owes w → ∃ q ∈ new, q.Owes w
  stirs : ∀ woken, .notify woken ∈ old → ∃ woken, .notify woken ∈ new

/-- Calls stay. -/
theorem Covers.refl (publishing : List Publishing) : Covers publishing publishing :=
  ⟨fun p member _ owes => ⟨p, member, owes⟩, fun woken member => ⟨woken, member⟩⟩

/-- A call is added. -/
theorem Covers.concat (publishing : List Publishing) (p : Publishing) :
    Covers publishing (publishing ++ [p]) :=
  ⟨fun p member _ owes => ⟨p, mem_append_left _ member, owes⟩,
    fun woken member => ⟨woken, mem_append_left _ member⟩⟩

/-- What the waits say about one `Close`. -/
structure Stands (s : ClientState) (c : Nat) (closer : Closer) : Prop where
  named : ∀ w, closer.pc.waiter = some w →
    ∃ waiter, s.heap[w]? = some waiter ∧ waiter.owner = c ∧ closer.pc.Fits waiter.waiting
  listed : ∀ w, closer.pc.listed = some w → s.terminal = false → w ∈ s.coWaiters
  alone : ∀ w waiter, closer.pc.alone = some w → s.heap[w]? = some waiter →
    waiter.waiting.unheard = true → s.terminal = true → ∃ p ∈ s.publishing, p.Owes w
  blocked : closer.pc = .blocked → s.terminal = true → ∃ woken, .notify woken ∈ s.publishing
  returned : closer.pc = .returned → s.terminal = true

/-- The waits of one `Close`. -/
theorem Waits.stands (waits : Waits s) (found : s.closers[c]? = some closer) :
    Stands s c closer where
  named w := waits.named c closer w found
  listed w := waits.listed c closer w found
  alone w waiter := waits.alone c closer w waiter found
  blocked := waits.blocked c closer found
  returned := waits.returned c closer found

/-- The waits are those of each `Close`, and no waiter is left behind. -/
theorem waits_of_stands
    (owned : ∀ (w : Nat) waiter, s.heap[w]? = some waiter → waiter.waiting.unheard = true →
      ∃ closer, s.closers[waiter.owner]? = some closer ∧ closer.pc.waiter = some w)
    (stands : ∀ (c : Nat) closer, s.closers[c]? = some closer → Stands s c closer) : Waits s where
  named c closer w found := (stands c closer found).named w
  owned := owned
  listed c closer w found := (stands c closer found).listed w
  alone c closer w waiter found := (stands c closer found).alone w waiter
  blocked c closer found := (stands c closer found).blocked
  returned c closer found := (stands c closer found).returned

/-- A `Close` without a waiter. -/
theorem Stands.without (none' : closer.pc.waiter = none)
    (blocked : closer.pc = .blocked → s.terminal = false)
    (returned : closer.pc = .returned → s.terminal = true) : Stands s c closer := by
  refine ⟨?_, ?_, ?_, ?_, returned⟩
  · intro w names
    rw [none'] at names
    cases names
  · intro w names
    rw [waiter_of_listed names] at none'
    cases none'
  · intro w waiter names
    rw [(waiter_of_alone names).2] at none'
    cases none'
  · intro stands sealed
    rw [sealed] at blocked
    cases blocked stands

/-- Others go on, and leave its waiter where it is. -/
theorem Stands.keep (stands : Stands s c closer) (terminal : next.terminal = s.terminal)
    (heap : ∀ w, closer.pc.waiter = some w → next.heap[w]? = s.heap[w]?)
    (list : ∀ w, closer.pc.waiter = some w → w ∈ s.coWaiters → w ∈ next.coWaiters)
    (covers : Covers s.publishing next.publishing) : Stands next c closer := by
  refine ⟨?_, ?_, ?_, ?_, terminal ▸ stands.returned⟩
  · intro w names
    rw [heap w names]
    exact stands.named w names
  · intro w names open'
    rw [terminal] at open'
    exact list w (waiter_of_listed names) (stands.listed w names open')
  · intro w waiter names there unheard sealed
    rw [terminal] at sealed
    rw [heap w (waiter_of_alone names).2] at there
    obtain ⟨p, member, owes⟩ := stands.alone w waiter names there unheard sealed
    exact covers.owes p member w owes
  · intro blocked sealed
    rw [terminal] at sealed
    obtain ⟨woken, member⟩ := stands.blocked blocked sealed
    exact covers.stirs woken member

/-- A `Close` that goes on is where it goes, and the others are where they were. -/
theorem closeTo_cases {c' : Nat} {closer' : Closer}
    (found : (s.closeTo c pc).closers[c']? = some closer') :
    (c' = c ∧ closer'.pc = pc) ∨ (c' ≠ c ∧ s.closers[c']? = some closer') := by
  rcases getElem?_modify_cases found with ⟨rfl, old, -, rfl⟩ | old
  · exact .inl ⟨rfl, rfl⟩
  · exact .inr old

section

variable (waits : Waits s) (found : s.closers[c]? = some closer)

include waits found

/-- The `Close` of a waiter is not one that has none, or another. -/
theorem Waits.owner_away
    (other : closer.pc.waiter ≠ some w) {waiter : CoWaiter} (there : s.heap[w]? = some waiter)
    (unheard : waiter.waiting.unheard = true) :
    ∃ closer, (s.closeTo c pc).closers[waiter.owner]? = some closer ∧
      closer.pc.waiter = some w := by
  obtain ⟨owner, found', names⟩ := waits.owned w waiter there unheard
  have away : waiter.owner ≠ c := by
    rintro rfl
    cases found.symm.trans found'
    exact other names
  exact ⟨owner, (getElem?_modify_ne _ _ (Ne.symm away)).trans found', names⟩

/-- A `Close` goes on without a waiter. -/
theorem Waits.aside (before : closer.pc.waiter = none) (after : pc.waiter = none)
    (blocked : pc = .blocked → s.terminal = false) (returned : pc = .returned → s.terminal = true) :
    Waits (s.closeTo c pc) := by
  refine waits_of_stands ?_ ?_
  · intro w waiter there unheard
    exact waits.owner_away found (by simp [before]) there unheard
  · intro c' closer' found'
    rcases closeTo_cases found' with ⟨-, rfl⟩ | ⟨-, old⟩
    · exact .without after blocked returned
    · exact (waits.stands old).keep rfl (fun _ _ => rfl) (fun _ _ member => member) (.refl _)

/-- A `Close` goes on with its waiter, which it may write to. -/
theorem Waits.move (before : closer.pc.waiter = some w) (pc : ClosePc) (f : Waiting → Waiting)
    (coWaiters : List Nat) (others : ∀ other ∈ s.coWaiters, other ≠ w → other ∈ coWaiters)
    (after : ∀ waiting, closer.pc.Fits waiting →
      (pc.waiter = some w ∧ pc.Fits (f waiting)) ∨
        (pc.waiter = none ∧ (f waiting).unheard = false))
    (listed : pc.listed = some w → s.terminal = false → w ∈ coWaiters)
    (alone : pc.alone = some w → s.terminal = true →
      ∀ waiter, s.heap[w]? = some waiter → closer.pc.Fits waiter.waiting →
        (f waiter.waiting).unheard = true → ∃ p ∈ s.publishing, p.Owes w)
    (blocked : pc ≠ .blocked) (returned : pc = .returned → s.terminal = true) : Waits ({ s with
      coWaiters
      heap := s.heap.modify w fun waiter =>
        { waiter with waiting := f waiter.waiting } }.closeTo c pc) := by
  obtain ⟨mine, here, rfl, fits⟩ := waits.named c closer w found before
  -- nobody else has this waiter
  have apart : ∀ (c' : Nat) closer' w', c' ≠ mine.owner → s.closers[c']? = some closer' →
      closer'.pc.waiter = some w' → w' ≠ w := by
    rintro c' closer' w' away old names rfl
    obtain ⟨other, there, owner, -⟩ := waits.named c' closer' w' old names
    rw [here] at there
    cases there
    exact away owner.symm
  have names_of : ∀ w', pc.waiter = some w' → w' = w := by
    intro w' names
    rcases after mine.waiting fits with ⟨same, -⟩ | ⟨none', -⟩
    · rw [same] at names
      exact (Option.some.inj names).symm
    · rw [none'] at names
      cases names
  have heap : ∀ w', w' ≠ w → (s.heap.modify w fun waiter =>
      { waiter with waiting := f waiter.waiting })[w']? = s.heap[w']? := by
    intro w' away
    exact getElem?_modify_ne _ _ (Ne.symm away)
  have now : (s.heap.modify w fun waiter => { waiter with waiting := f waiter.waiting })[w]? =
      some { mine with waiting := f mine.waiting } := by
    rw [getElem?_modify_eq, here]
    rfl
  refine waits_of_stands ?_ ?_
  · intro w' waiter there unheard
    by_cases same : w' = w
    · subst same
      have there' := now.symm.trans there
      cases there'
      rcases after mine.waiting fits with ⟨names, -⟩ | ⟨-, heard⟩
      · refine ⟨{ closer with pc }, ?_, names⟩
        show (s.closers.modify mine.owner fun closer => { closer with pc })[mine.owner]? = _
        rw [getElem?_modify_eq, found]
        rfl
      · rw [show (f mine.waiting).unheard = true from unheard] at heard
        cases heard
    · exact waits.owner_away found (by simpa [before] using Ne.symm same)
        ((heap w' same).symm.trans there) unheard
  · intro c' closer' found'
    rcases closeTo_cases found' with ⟨rfl, rfl⟩ | ⟨away, old⟩
    · refine ⟨?_, ?_, ?_, fun stands => absurd stands blocked, returned⟩
      · intro w' names
        obtain rfl := names_of w' names
        rcases after mine.waiting fits with ⟨-, fits'⟩ | ⟨none', -⟩
        · exact ⟨_, now, rfl, fits'⟩
        · rw [none'] at names
          cases names
      · intro w' names open'
        obtain rfl := names_of w' (waiter_of_listed names)
        exact listed names open'
      · intro w' waiter names there unheard sealed
        obtain rfl := names_of w' (waiter_of_alone names).2
        have there' := now.symm.trans there
        cases there'
        exact alone names sealed mine here fits unheard
    · exact (waits.stands old).keep rfl (fun w' names => heap w' (apart c' closer' w' away old names))
        (fun w' names member => others w' member (apart c' closer' w' away old names)) (.refl _)

end

/-- The waits see nothing of the gate but `terminal` and the notifications that are due. -/
theorem Waits.gate (waits : Waits s) (closed httpCloseStarted httpClosed : Bool)
    (inflight httpCloses publications : Nat) (ops : List OpPc) {publishing : List Publishing}
    (covers : Covers s.publishing publishing) : Waits { s with
      closed, httpCloseStarted, httpClosed, inflight, httpCloses, publications, ops
      publishing } :=
  waits_of_stands waits.owned fun _ _ found =>
    (waits.stands found).keep rfl (fun _ _ => rfl) (fun _ _ member => member) covers

/-- A `Close` creates a waiter. -/
theorem Waits.creates (waits : Waits s) (found : s.closers[c]? = some closer)
    (before : closer.pc.waiter = none) :
    Waits ((s.create c).closeTo c (.register s.heap.length)) := by
  refine waits_of_stands ?_ ?_
  · intro w waiter there unheard
    rcases getElem?_push_cases there with ⟨-, rfl⟩ | old
    · cases unheard
    · exact waits.owner_away found (by simp [before]) old unheard
  · intro c' closer' found'
    rcases closeTo_cases found' with ⟨rfl, same⟩ | ⟨-, old⟩
    · refine ⟨?_, ?_, ?_, ?_, ?_⟩ <;> rw [same]
      · intro w names
        obtain rfl : s.heap.length = w := Option.some.inj names
        exact ⟨_, getElem?_concat_length, rfl, rfl⟩
      all_goals nofun
    · refine (waits.stands old).keep rfl ?_ (fun _ _ member => member) (.refl _)
      intro w names
      obtain ⟨waiter, there, -⟩ := waits.named c' closer' w old names
      exact (getElem?_push_old there).trans there.symm

/-- A `Close` goes on and writes its waiter, or not, and leaves the list alone. -/
theorem Waits.writes (waits : Waits s) (found : s.closers[c]? = some closer)
    (before : closer.pc.waiter = some w) (pc : ClosePc) (f : Waiting → Waiting)
    (after : ∀ waiting, closer.pc.Fits waiting →
      (pc.waiter = some w ∧ pc.Fits (f waiting)) ∨
        (pc.waiter = none ∧ (f waiting).unheard = false))
    (listed : pc.listed = some w → closer.pc.listed = some w)
    (alone : pc.alone = some w → s.terminal = true →
      ∀ waiter, s.heap[w]? = some waiter → closer.pc.Fits waiter.waiting →
        (f waiter.waiting).unheard = true → ∃ p ∈ s.publishing, p.Owes w)
    (blocked : pc ≠ .blocked) (returned : pc = .returned → s.terminal = true) : Waits ({ s with
      heap := s.heap.modify w fun waiter =>
        { waiter with waiting := f waiter.waiting } }.closeTo c pc) :=
  waits.move found before pc f s.coWaiters (fun _ member _ => member) after
    (fun names open' => waits.listed c closer w found (listed names) open') alone blocked returned

/-- A write of nothing. -/
theorem heap_same (s : ClientState) (w : Nat) :
    (s.heap.modify w fun waiter => { waiter with waiting := id waiter.waiting }) = s.heap :=
  modify_id ..

/-- The wait of a `Close` has ended. -/
theorem Waits.ends (waits : Waits s) (found : s.closers[c]? = some closer)
    (before : closer.pc.waiter = some w)
    (after : pc.waiter = some w ∧ pc.Fits .over') (unlisted : pc.listed = none) :
    Waits ((s.setWaiting w .over').closeTo c pc) := by
  have unlooked : pc.alone = none := by
    by_contra looked
    obtain ⟨w', looked⟩ := ne_none_iff_exists'.mp looked
    rw [(waiter_of_alone looked).1] at unlisted
    cases unlisted
  refine waits.writes found before _ (fun _ => .over') (fun _ _ => .inl after) ?_ ?_ ?_ ?_
  · rw [unlisted]
    exact fun wrong => by cases wrong
  · rw [unlooked]
    exact fun wrong => by cases wrong
  · rintro rfl
    cases after.1
  · rintro rfl
    cases after.1

/-- A step of `Close` keeps the waits. -/
theorem Waits.act (waits : Waits s) {coroutine : Bool} {move : CloseMove}
    (found : s.closers[c]? = some { coroutine, pc })
    (stepped : s.act c coroutine pc move = some next) : Waits next := by
  unfold ClientState.act at stepped
  split at stepped
  · -- `closed` is set, and the HTTP close is started when nobody is inside
    cases stepped
    rw [seal'_eq]
    split_ifs
    · have spawned := waits.gate true true s.httpClosed s.inflight s.httpCloses s.publications s.ops
        (.concat _ .http)
      exact spawned.aside found rfl rfl (by simp) (by simp)
    · have sealed := waits.gate true s.httpCloseStarted s.httpClosed s.inflight s.httpCloses
        s.publications s.ops (.refl _)
      exact sealed.aside found rfl rfl (by simp) (by simp)
  · split_ifs at stepped
    cases stepped
    exact waits.aside found rfl rfl (by simp) (by simp)
  · cases stepped
    refine waits.aside found rfl ?_ ?_ ?_ <;> split_ifs <;> simp [ClosePc.waiter]
  · split_ifs at stepped
    · cases stepped
      exact waits.creates found rfl
    · cases stepped
      exact waits.aside found rfl rfl (by simp) (by simp)
  · rename_i w
    split_ifs at stepped with sealed
    · cases stepped
      have left := waits.writes found rfl .returned id ?_ (by simp [ClosePc.listed])
        (by simp [ClosePc.alone]) (by simp) (fun _ => sealed)
      · rwa [heap_same] at left
      · intro waiting fits
        obtain rfl : waiting = .idle := fits
        exact .inr ⟨rfl, rfl⟩
    · cases stepped
      have enlisted := waits.move found rfl (.begin' w) id (s.coWaiters ++ [w])
        (fun _ member _ => mem_append_left _ member) ?_
        (fun _ _ => mem_append_right _ (mem_singleton_self w)) (by simp [ClosePc.alone])
        (by simp) (by simp)
      · rwa [heap_same] at enlisted
      · intro waiting fits
        exact .inl ⟨rfl, fits⟩
  · rename_i w began
    split at stepped
    · cases stepped
      refine waits.writes found rfl _ (fun _ => .pending) ?_ ?_ (by simp [ClosePc.alone]) (by simp)
        (by simp)
      · exact fun _ _ => .inl ⟨rfl, .inl rfl⟩
      ·        exact fun names => names
    · cases stepped
      exact waits.ends found rfl ⟨rfl, rfl⟩ rfl
    · cases stepped
      exact waits.ends found rfl ⟨rfl, rfl⟩ rfl
  · -- the callback looks at `terminal`
    rename_i w
    cases stepped
    have looked := waits.writes found rfl
      (if s.terminal = true then .hail w else .park w) id ?_ ?_ ?_ ?_ ?_
    · rwa [heap_same] at looked
    · intro waiting fits
      refine .inl ?_
      split_ifs
      · exact ⟨rfl, fits⟩
      · exact ⟨rfl, fits⟩
    ·      exact fun _ => rfl
    · intro names sealed
      rw [if_pos sealed] at names
      cases names
    · split_ifs <;> simp
    · split_ifs <;> simp
  · cases stepped
    refine waits.writes found rfl _ Waiting.notify ?_ ?_ ?_ (by simp) (by simp)
    · intro waiting fits
      exact .inl ⟨rfl, fits_notify fits⟩
    ·      exact fun names => names
    · intro _ _ waiter _ _ unheard
      rw [unheard_notify] at unheard
      cases unheard
  · rename_i w
    split_ifs at stepped with unheard
    · cases stepped
      refine waits.writes found rfl _ (fun _ => .parked) (fun _ _ => .inl ⟨rfl, .inl rfl⟩) ?_ ?_
        (by simp) (by simp)
      ·        exact fun names => names
      · intro _ sealed waiter there _ _
        simp only [ClientState.unheard, there, any_some] at unheard
        exact waits.alone c _ w waiter found rfl there unheard sealed
    · cases stepped
      exact waits.ends found rfl ⟨rfl, rfl⟩ rfl
  · split_ifs at stepped
    cases stepped
    exact waits.ends found rfl ⟨rfl, rfl⟩ rfl
  iterate 5
    · cases stepped
      exact waits.ends found rfl ⟨rfl, rfl⟩ rfl
  · -- the waiter is taken off the list again
    rename_i w tired
    cases stepped
    have gone := waits.move found rfl
      (if s.terminal = true then .returned else if tired = true then .yield else .create) id
      (s.coWaiters.filter (· ≠ w)) ?_ ?_ ?_ ?_ ?_ ?_
    · rwa [heap_same] at gone
    · exact fun other member away => mem_filter.mpr ⟨member, by simpa using away⟩
    · intro waiting fits
      obtain rfl : waiting = .over' := fits
      refine .inr ⟨?_, rfl⟩
      split_ifs <;> rfl
    · split_ifs <;> simp [ClosePc.listed]
    · split_ifs <;> simp [ClosePc.alone]
    · split_ifs <;> simp
    · split_ifs with sealed
      · exact fun _ => sealed
      · simp
      · simp
  · rename_i w
    cases stepped
    have gone := waits.move found rfl .host id (s.coWaiters.filter (· ≠ w))
      (fun other member away => mem_filter.mpr ⟨member, by simpa using away⟩) ?_
      (by simp [ClosePc.listed]) (by simp [ClosePc.alone]) (by simp) (by simp)
    · rwa [heap_same] at gone
    · intro waiting fits
      obtain rfl : waiting = .over' := fits
      exact .inr ⟨rfl, rfl⟩
  · cases stepped
    exact waits.aside found rfl rfl (by simp) (by simp)
  · cases stepped
    refine waits.aside found rfl ?_ ?_ ?_
    · split_ifs <;> rfl
    · split_ifs with sealed
      · simp
      · exact fun _ => by simpa using sealed
    · split_ifs with sealed
      · exact fun _ => sealed
      · simp
  · cases stepped
    exact waits.aside found rfl rfl (by simp) (by simp)
  · cases stepped

/-- Another call of `CompleteHttpClose` or `WakeAll` is where it was. -/
theorem mem_publisher {q r : Publishing} (found : s.publishing[d]? = some p)
    (member : r ∈ s.publishing) (other : r ≠ p) : r ∈ s.publishing.set d q := by
  obtain ⟨e, there⟩ := mem_iff_getElem?.mp member
  have away : d ≠ e := by
    rintro rfl
    rw [found] at there
    exact other (Option.some.inj there).symm
  exact mem_of_getElem? ((getElem?_set_ne away).trans there)

/-- The one that goes on is where it goes. -/
theorem mem_publisher_self (found : s.publishing[d]? = some p) (q : Publishing) :
    q ∈ s.publishing.set d q :=
  List.mem_of_getElem? (List.getElem?_set_found found)

section

variable (waits : Waits s)

include waits

/-- A call that owes nothing goes on. -/
theorem Waits.goes {q : Publishing} (found : s.publishing[d]? = some p)
    (owes : ∀ w, ¬p.Owes w) (stirred : ∀ woken, p ≠ .notify woken) (httpCloses : Nat) :
    Waits { s.publisher d q with httpCloses } := by
  refine waits.gate s.closed s.httpCloseStarted s.httpClosed s.inflight httpCloses s.publications
    s.ops ⟨?_, ?_⟩
  · intro r member w owes'
    refine ⟨r, mem_publisher found member ?_, owes'⟩
    rintro rfl
    exact owes w owes'
  · intro woken member
    exact ⟨woken, mem_publisher found member fun same => stirred woken same.symm⟩

/-- The publication takes every waiter on the list along. -/
theorem Waits.published (found : s.publishing[d]? = some .publish) : Waits ({ s with
      httpClosed := true
      terminal := true
      publications := s.publications + 1
      coWaiters := [] }.publisher d (.notify s.coWaiters)) := by
  have here := mem_publisher_self found (.notify s.coWaiters)
  refine ⟨waits.named, waits.owned, ?_, ?_, ?_, fun _ _ _ _ => rfl⟩
  · intro c closer w _ _ open'
    cases open'
  · intro c closer w waiter found' names there unheard _
    cases sealed : s.terminal
    · have listed := waits.listed c closer w found' (waiter_of_alone names).1 sealed
      exact ⟨_, here, listed⟩
    · obtain ⟨p, member, owes⟩ := waits.alone c closer w waiter found' names there unheard sealed
      refine ⟨p, mem_publisher found member ?_, owes⟩
      rintro rfl
      exact owes
  · exact fun _ _ _ _ _ => ⟨_, here⟩

/-- The condition variable is notified: nobody is blocked. -/
theorem Waits.stirs {woken : List Nat} (found : s.publishing[d]? = some (.notify woken)) :
    Waits { s.publisher d (.wake woken) with closers := s.closers.map Closer.stir } := by
  refine waits_of_stands ?_ ?_
  · intro w waiter there unheard
    obtain ⟨closer, found', names⟩ := waits.owned w waiter there unheard
    refine ⟨closer, ?_, names⟩
    have busy : closer.pc ≠ .blocked := by
      intro blocked
      rw [blocked] at names
      cases names
    rw [getElem?_map, found', map_some, Closer.stir, if_neg busy]
  · intro c closer' found'
    rw [getElem?_map, map_eq_some_iff] at found'
    obtain ⟨closer, there, rfl⟩ := found'
    by_cases blocked : closer.pc = .blocked
    · rw [Closer.stir, if_pos blocked]
      exact .without rfl nofun nofun
    · rw [Closer.stir, if_neg blocked]
      have stands := waits.stands there
      refine ⟨stands.named, stands.listed, ?_, fun stands => absurd stands blocked,
        stands.returned⟩
      intro w waiter names here unheard sealed
      obtain ⟨p, member, owes⟩ := stands.alone w waiter names here unheard sealed
      by_cases mine : p = .notify woken
      · subst mine
        exact ⟨.wake woken, mem_publisher_self found _, owes⟩
      · exact ⟨p, mem_publisher found member mine, owes⟩

/-- One waiter is notified. -/
theorem Waits.wakes {woken : List Nat} (found : s.publishing[d]? = some (.wake (w :: woken))) :
    Waits ((s.notify w).publisher d (.wake woken)) := by
  have old : ∀ (w' : Nat) waiter', (s.notify w).heap[w']? = some waiter' →
      ∃ waiter, s.heap[w']? = some waiter ∧ waiter'.owner = waiter.owner ∧
        (waiter'.waiting = waiter.waiting ∧ w' ≠ w ∨
          waiter'.waiting = waiter.waiting.notify ∧ w' = w) := by
    intro w' waiter' there
    rcases getElem?_modify_cases there with ⟨rfl, waiter, before, rfl⟩ | ⟨away, before⟩
    · exact ⟨waiter, before, rfl, .inr ⟨rfl, rfl⟩⟩
    · exact ⟨waiter', before, rfl, .inl ⟨rfl, away⟩⟩
  refine ⟨?_, ?_, waits.listed, ?_, ?_, waits.returned⟩
  · intro c closer w' found' names
    obtain ⟨waiter, there, owner, fits⟩ := waits.named c closer w' found' names
    by_cases here : w' = w
    · subst here
      have now : (s.notify w').heap[w']? =
          some { waiter with waiting := waiter.waiting.notify } := by
        rw [notify, getElem?_modify_eq, there]
        rfl
      exact ⟨_, now, owner, fits_notify fits⟩
    · exact ⟨waiter, (getElem?_modify_ne _ _ (Ne.symm here)).trans there, owner, fits⟩
  · intro w' waiter' there unheard
    obtain ⟨waiter, before, owner, ⟨same, -⟩ | ⟨heard, -⟩⟩ := old w' waiter' there
    · rw [same] at unheard
      rw [owner]
      exact waits.owned w' waiter before unheard
    · rw [heard, unheard_notify] at unheard
      cases unheard
  · intro c closer w' waiter' found' names there unheard sealed
    obtain ⟨waiter, before, owner, ⟨same, away⟩ | ⟨heard, -⟩⟩ := old w' waiter' there
    · rw [same] at unheard
      obtain ⟨p, member, owes⟩ :=
        waits.alone c closer w' waiter found' names before unheard sealed
      by_cases mine : p = .wake (w :: woken)
      · subst mine
        refine ⟨.wake woken, mem_publisher_self found _, ?_⟩
        rcases mem_cons.mp owes with here | later
        · exact absurd here away
        · exact later
      · exact ⟨p, mem_publisher found member mine, owes⟩
    · rw [heard, unheard_notify] at unheard
      cases unheard
  · intro c closer found' stands sealed
    obtain ⟨others, member⟩ := waits.blocked c closer found' stands sealed
    exact ⟨others, mem_publisher found member (by simp)⟩

/-- A step of `CompleteHttpClose` or `WakeAll` keeps the waits. -/
theorem Waits.publishes (gate : Gate s)
    (found : s.publishing[d]? = some p) (stepped : s.publish d p = some next) : Waits next := by
  match p with
  | .http =>
    cases stepped
    exact waits.goes found (fun _ owes => owes) (by simp) _
  | .publish =>
    rw [publish, gate.published found] at stepped
    cases stepped
    exact waits.published found
  | .notify woken =>
    cases stepped
    exact waits.stirs found
  | .wake [] =>
    cases stepped
    exact waits.goes found (fun w owes => by cases owes) (by simp) s.httpCloses
  | .wake (w :: woken) =>
    cases stepped
    exact waits.wakes found
  | .done => cases stepped

/-- A step of an operation keeps the waits. -/
theorem Waits.operate (gate : Gate s) {pc : OpPc} (found : s.ops[k]? = some pc)
    (stepped : s.operate k pc = some next) : Waits next := by
  have same : ∀ (inflight : Nat) (ops : List OpPc), Waits { s with inflight, ops } :=
    fun inflight ops => waits.gate s.closed s.httpCloseStarted s.httpClosed inflight s.httpCloses
      s.publications ops (.refl _)
  match pc with
  | .enter =>
    rw [ClientState.operate] at stepped
    split_ifs at stepped
    · cases stepped
      exact same s.inflight _
    · cases stepped
      exact same _ _
  | .inside =>
    cases stepped
    rw [leave_eq gate found]
    split_ifs
    · exact waits.gate s.closed true s.httpClosed 0 s.httpCloses s.publications _ (.concat _ .http)
    · exact same _ _
  | .publishing e =>
    rw [ClientState.operate] at stepped
    split_ifs at stepped
    cases stepped
    exact same s.inflight _
  | .refused | .left => cases stepped

end

/-- A step keeps the gate. -/
theorem Gate.step (gate : Gate s) {label : ClientLabel} (stepped : s.step label = some next) :
    Gate next := by
  cases label with
  | enter =>
    cases stepped
    refine ⟨?_, gate.started, gate.http, gate.publish, gate.terminal, gate.publications⟩
    rw [countP_push, gate.inflight]
    rfl
  | op k =>
    obtain ⟨pc, found, stepped⟩ := bind_eq_some_iff.mp stepped
    exact gate.operate found stepped
  | publishing d =>
    obtain ⟨p, found, stepped⟩ := bind_eq_some_iff.mp stepped
    exact gate.publishes found stepped
  | close coroutine =>
    cases stepped
    exact gate.aside s.coWaiters s.heap _
  | act c move =>
    obtain ⟨closer, _, stepped⟩ := bind_eq_some_iff.mp stepped
    exact gate.act stepped

/-- A step keeps the waits. -/
theorem Waits.step (waits : Waits s) (gate : Gate s) {label : ClientLabel}
    (stepped : s.step label = some next) : Waits next := by
  cases label with
  | enter =>
    cases stepped
    exact ⟨waits.named, waits.owned, waits.listed, waits.alone, waits.blocked, waits.returned⟩
  | op k =>
    obtain ⟨pc, found, stepped⟩ := bind_eq_some_iff.mp stepped
    exact waits.operate gate found stepped
  | publishing d =>
    obtain ⟨p, found, stepped⟩ := bind_eq_some_iff.mp stepped
    exact waits.publishes gate found stepped
  | close coroutine =>
    cases stepped
    refine waits_of_stands ?_ ?_
    · intro w waiter there unheard
      obtain ⟨closer, found, names⟩ := waits.owned w waiter there unheard
      exact ⟨closer, getElem?_push_old found, names⟩
    · intro c closer found
      rcases getElem?_push_cases found with ⟨-, rfl⟩ | before
      · exact .without rfl nofun nofun
      · exact (waits.stands before).keep rfl (fun _ _ => rfl) (fun _ _ member => member) (.refl _)
  | act c move =>
    obtain ⟨⟨coroutine, pc⟩, found, stepped⟩ := bind_eq_some_iff.mp stepped
    exact waits.act found stepped

/-- Both invariants hold in every reachable state. -/
theorem reachable_gated (reachable : clientMachine.Reachable s) : Gate s ∧ Waits s := by
  refine reachable.invariant (fun s => Gate s ∧ Waits s) ?_ ?_
  · rintro _ rfl
    refine ⟨⟨rfl, by simp, rfl, rfl, rfl, rfl⟩, ?_⟩
    refine ⟨?_, ?_, ?_, ?_, ?_, ?_⟩ <;> intro _ _ <;> simp
  · rintro s label next ⟨gate, waits⟩ stepped
    exact ⟨gate.step stepped, waits.step gate stepped⟩

/-- What a step never takes back, and what it does only in time. -/
structure Onward (s next : ClientState) : Prop where
  closed : s.closed = true → next.closed = true
  terminal : s.terminal = true → next.terminal = true
  /-- The HTTP client is closed when nobody is inside and nobody can get inside. -/
  http : next.httpCloses ≠ s.httpCloses → s.closed = true ∧ s.inflight = 0 ∧ s.httpCloses = 0
  /-- Nobody is admitted behind the seal. -/
  admitted : s.closed = true → ∀ k : Nat, next.ops[k]? = some .inside → s.ops[k]? = some .inside

/-- The HTTP client and the operations stay. -/
theorem Onward.aside (closed : s.closed = true → next.closed = true)
    (terminal : s.terminal = true → next.terminal = true) (http : next.httpCloses = s.httpCloses)
    (ops : next.ops = s.ops) : Onward s next :=
  ⟨closed, terminal, fun moved => absurd http moved, fun _ _ inside => ops ▸ inside⟩

/-- A step of `Close` is one onward. -/
theorem act_onward {coroutine : Bool} {move : CloseMove}
    (stepped : s.act c coroutine pc move = some next) : Onward s next := by
  have same : ∀ (coWaiters : List Nat) (heap : List CoWaiter) (closers : List Closer),
      Onward s { s with coWaiters, heap, closers } := fun _ _ _ =>
    .aside id id rfl rfl
  unfold act at stepped
  split at stepped
  · cases stepped
    rw [seal'_eq]
    split_ifs
    · exact .aside (fun _ => rfl) id rfl rfl
    · exact .aside (fun _ => rfl) id rfl rfl
  all_goals first
    | (cases stepped; exact same _ _ _)
    | (split_ifs at stepped <;> cases stepped <;> exact same _ _ _)
    | (split at stepped <;> cases stepped <;> exact same _ _ _)
    | cases stepped

/-- Every step is one onward. -/
theorem Gate.onward (gate : Gate s) {label : ClientLabel} (stepped : s.step label = some next) :
    Onward s next := by
  cases label with
  | enter =>
    cases stepped
    refine ⟨id, id, absurd rfl, fun _ k inside => ?_⟩
    rcases getElem?_push_cases inside with ⟨-, wrong⟩ | old
    · cases wrong
    · exact old
  | op k =>
    obtain ⟨pc, found, stepped⟩ := bind_eq_some_iff.mp stepped
    have outside : ∀ (after : OpPc) (inflight : Nat) (httpCloseStarted : Bool) publishing,
        after ≠ .inside → Onward s { s with
          ops := s.ops.set k after, inflight, httpCloseStarted, publishing } := by
      intro after _ _ _ away
      refine ⟨id, id, absurd rfl, fun _ k' inside => ?_⟩
      rcases getElem?_set_cases inside with ⟨-, wrong⟩ | old
      · exact absurd wrong.symm away
      · exact old
    match pc with
    | .enter =>
      rw [ClientState.operate] at stepped
      split_ifs at stepped with closed
      · cases stepped
        exact outside _ _ _ _ (by simp)
      · cases stepped
        exact ⟨id, id, absurd rfl, fun up => absurd up closed⟩
    | .inside =>
      cases stepped
      rw [leave_eq gate found]
      split_ifs
      · exact outside _ _ _ _ (by simp)
      · exact outside _ _ _ _ (by simp)
    | .publishing e =>
      rw [ClientState.operate] at stepped
      split_ifs at stepped
      cases stepped
      exact outside _ _ _ _ (by simp)
    | .refused | .left => cases stepped
  | publishing d =>
    obtain ⟨p, found, stepped⟩ := bind_eq_some_iff.mp stepped
    match p with
    | .http =>
      cases stepped
      obtain ⟨started, closes⟩ := gate.http_next found
      obtain ⟨closed, none'⟩ := gate.started started
      exact ⟨id, id, fun _ => ⟨closed, none', closes⟩, fun _ _ => id⟩
    | .publish =>
      rw [ClientState.publish, gate.published found] at stepped
      cases stepped
      exact .aside id (fun _ => rfl) rfl rfl
    | .notify woken =>
      cases stepped
      exact .aside id id rfl rfl
    | .wake [] =>
      cases stepped
      exact .aside id id rfl rfl
    | .wake (w :: woken) =>
      cases stepped
      exact .aside id id rfl rfl
    | .done => cases stepped
  | close coroutine =>
    cases stepped
    exact .aside id id rfl rfl
  | act c move =>
    obtain ⟨closer, -, stepped⟩ := bind_eq_some_iff.mp stepped
    exact act_onward stepped

/-- Nobody waits: no waiter is registered unheard, and no `Close` is blocked. -/
structure Woken (s : ClientState) : Prop where
  heap : ∀ (w : Nat) waiter, s.heap[w]? = some waiter → waiter.waiting ≠ .parked
  closers : ∀ (c : Nat) closer, s.closers[c]? = some closer → closer.pc ≠ .blocked

/-- A waiter that is parked stands with its `Close`, and the notification is due. -/
theorem Waits.parked (waits : Waits s) (sealed : s.terminal = true) {waiter : CoWaiter}
    (there : s.heap[w]? = some waiter) (parked : waiter.waiting = .parked) :
    ∃ p ∈ s.publishing, p.Owes w := by
  obtain ⟨closer, found, names⟩ := waits.owned w waiter there (by rw [parked]; rfl)
  obtain ⟨same, here, -, fits⟩ := waits.named _ closer w found names
  rw [there] at here
  cases here
  have alone : closer.pc.alone = some w := by
    generalize closer.pc = pc at fits names
    cases pc <;> simp_all [ClosePc.Fits, ClosePc.waiter, ClosePc.alone]
  exact waits.alone _ closer w waiter found alone there (by rw [parked]; rfl) sealed

/-- Once `terminal` is set, those that have begun to notify wake everybody, whatever else does not
move. -/
theorem wakes_all (gate : Gate s) (waits : Waits s) (sealed : s.terminal = true) :
    ∃ labels later, clientMachine.exec s labels = some later ∧
      (∀ label ∈ labels, ∃ d, label = .publishing d) ∧ Woken later := by
  generalize total : (s.publishing.map due).sum = n
  induction n using Nat.strongRecOn generalizing s with
  | _ n ih =>
    by_cases idle : ∀ p ∈ s.publishing, p.due = 0
    · refine ⟨[], s, rfl, by simp, ?_, ?_⟩
      · intro w waiter there parked
        obtain ⟨p, member, owes⟩ := waits.parked sealed there parked
        have none' := idle p member
        cases p <;> simp_all [due, Publishing.Owes]
      · intro c closer found blocked
        obtain ⟨woken, member⟩ := waits.blocked c closer found blocked sealed
        have none' := idle _ member
        simp [due] at none'
    · push Not at idle
      obtain ⟨p, member, busy⟩ := idle
      obtain ⟨d, found⟩ := mem_iff_getElem?.mp member
      -- one step of it is possible and leaves less to do
      have goes : ∃ q next, s.publish d p = some next ∧ next.publishing = s.publishing.set d q ∧
          q.due < p.due := by
        match p with
        | .notify woken => exact ⟨.wake woken, _, rfl, rfl, by simp [due]⟩
        | .wake [] => exact ⟨.done, _, rfl, rfl, by simp [due]⟩
        | .wake (w :: woken) => exact ⟨.wake woken, _, rfl, rfl, by simp [due]⟩
        | .http | .publish | .done => exact absurd rfl busy
      obtain ⟨q, next, published, publishing, less⟩ := goes
      have stepped : s.step (.publishing d) = some next := by
        rw [ClientState.step, found]
        exact published
      have sum := sum_map_set due q found
      rw [← publishing] at sum
      obtain ⟨labels, later, executed, only, woken⟩ := ih _ (by omega) (gate.step stepped)
        (waits.step gate stepped) ((gate.onward stepped).terminal sealed) rfl
      refine ⟨.publishing d :: labels, later, ?_, ?_, woken⟩
      · rw [Machine.exec, bind_eq_some_iff]
        exact ⟨next, stepped, executed⟩
      · intro label member
        rcases mem_cons.mp member with rfl | rest
        · exact ⟨d, rfl⟩
        · exact only label rest

/-- The terminal state, with all that it stands for. -/
structure Final (s : ClientState) : Prop where
  terminal : s.terminal = true
  closed : s.closed = true
  httpClosed : s.httpClosed = true
  inflight : s.inflight = 0
  httpCloses : s.httpCloses = 1
  publications : s.publications = 1

/-- `terminal` implies everything else. -/
theorem Gate.final (gate : Gate s) (terminal : s.terminal = true) : Final s := by
  have closed : s.httpClosed = true := by rw [← gate.terminal, terminal]
  have publish := gate.publish
  have http := gate.http
  have publications := gate.publications
  rw [closed, if_pos rfl] at publish
  rw [terminal, if_pos rfl] at publications
  have started : s.httpCloseStarted = true := by
    by_contra idle
    rw [if_neg idle] at http
    omega
  rw [if_pos started] at http
  obtain ⟨sealed, none'⟩ := gate.started started
  exact ⟨terminal, sealed, closed, none', by omega, publications⟩

/-- What holds of a client in every state. -/
structure Ledger (s : ClientState) : Prop where
  inflight : s.inflight = s.ops.countP OpPc.isInside
  httpCloses : s.httpCloses ≤ 1
  publications : s.publications ≤ 1
  final : s.terminal = true → Final s
  returned : ∀ closer ∈ s.closers, closer.pc = .returned → s.terminal = true
  /-- Behind the publication a waiter that is parked will be notified. -/
  parked : s.terminal = true → ∀ (w : Nat) waiter, s.heap[w]? = some waiter →
    waiter.waiting = .parked → ∃ p ∈ s.publishing, p.Owes w

/-- Both invariants, read as the books of a client. -/
theorem Gate.ledger (gate : Gate s) (waits : Waits s) : Ledger s := by
  have http := gate.http
  have publications := gate.publications
  refine ⟨gate.inflight, ?_, ?_, gate.final, ?_, fun sealed w waiter there parked =>
    waits.parked sealed there parked⟩
  · split_ifs at http <;> omega
  · split_ifs at publications <;> omega
  · intro closer member stands
    obtain ⟨c, found⟩ := mem_iff_getElem?.mp member
    exact waits.returned c closer found stands

/-- The HTTP client of a Consul client is closed once, when nobody is inside any more; `terminal`
is set once and for ever; no `Close` returns before it, and whoever is parked then is woken. -/
theorem client_terminal (s : ClientState) (reachable : clientMachine.Reachable s) :
    Ledger s ∧ (∀ label next, s.step label = some next → Onward s next) ∧
    (s.terminal = true →
      (∀ labels later, clientMachine.exec s labels = some later → Final later) ∧
      ∃ labels later, clientMachine.exec s labels = some later ∧
        (∀ label ∈ labels, ∃ d, label = .publishing d) ∧ Woken later) := by
  obtain ⟨gate, waits⟩ := reachable_gated reachable
  refine ⟨gate.ledger waits, fun label next stepped => gate.onward stepped, fun terminal => ?_⟩
  refine ⟨fun labels later executed => ?_, wakes_all gate waits terminal⟩
  have kept : Gate later ∧ later.terminal = true := by
    refine reachable.exec (fun s => Gate s ∧ s.terminal = true) ⟨gate, terminal⟩ ?_ executed
    rintro s label next _ ⟨gate, terminal⟩ stepped
    exact ⟨gate.step stepped, (gate.onward stepped).terminal terminal⟩
  exact kept.1.final kept.2

/-- A coroutine and a host thread close a client with one operation inside; the operation leaves
last and publishes while the coroutine is parked and the thread is blocked. -/
def closingRun : List ClientLabel :=
  [.enter, .op 0, .close true, .act 0 .go, .act 0 .go, .act 0 (.create true), .act 0 .go,
    .act 0 (.begin' .waits), .act 0 .go, .act 0 .go, .close false, .act 1 .go, .act 1 .go,
    .act 1 .go, .op 0, .publishing 0, .publishing 0]

/-- At its end `terminal` is set and the coroutine is still parked. -/
theorem client_terminal_closing : ∃ s, clientMachine.Reachable s ∧ s.terminal = true ∧
    s.heap = [⟨0, .parked⟩] ∧ Ledger s ∧
    ∃ labels later, clientMachine.exec s labels = some later ∧ Woken later := by
  have begun : clientMachine.start {} := rfl
  obtain ⟨s, reachable, test⟩ := Machine.exists_reachable closingRun
    (fun s : ClientState => decide (s.terminal = true ∧ s.heap = [⟨0, .parked⟩])) begun
    (by decide +kernel)
  obtain ⟨terminal, heap⟩ := of_decide_eq_true test
  obtain ⟨ledger, -, ends⟩ := client_terminal s reachable
  obtain ⟨labels, later, executed, -, woken⟩ := (ends terminal).2
  exact ⟨s, reachable, terminal, heap, ledger, labels, later, executed, woken⟩

end ClientState

end BbtInfra.Consul
