import BbtInfra.Rpc.OwnerSteps

/-!
# The establishment ledger

What the invariant says about `GetSession`: one establishment for each endpoint, entries and
reservations within `MaxSessions`, and nothing left behind once every call has returned,
however the establishments ended and whenever the owner was sealed.
-/
namespace BbtInfra.Rpc

open Lib SessionOwnerState

/-- A waiter saw its record done. -/
def WaitEnd.SawDone (ending : WaitEnd) : Prop := ∃ result, ending = .sawDone result

/-- A waiter left on its own: its deadline passed or it was cancelled. -/
def WaitEnd.GaveUp (ending : WaitEnd) : Prop := ending = .timedOut ∨ ending = .cancelled

namespace OwnerSystem

variable {s s' : OwnerSystem}

/-- Every call of `GetSession` has returned; accepted links have no endpoint. -/
def AllReturned (s : OwnerSystem) : Prop :=
  ∀ (t : Nat) (a : Caller), s.callers[t]? = some a → a.key ≠ [] → ∃ exit, a.pc = .returned exit

/-- Two establishments of one endpoint are the same coroutine. -/
theorem establishing_once (inv : s.Inv) {t u : Nat} {a b : Caller} (first : s.callers[t]? = some a)
    (second : s.callers[u]? = some b) (same : a.key = b.key) {r q : Nat}
    (runsFirst : a.pc.record? = some r) (runsSecond : b.pc.record? = some q) : t = u := by
  have registeredFirst := ((inv.sound t a first).running runsFirst).registered
  have registeredSecond := ((inv.sound u b second).running runsSecond).registered
  rw [same, registeredSecond] at registeredFirst
  cases registeredFirst
  exact inv.runners t u a b r first second runsFirst runsSecond

/-- Once every call has returned no record is registered. -/
theorem nothing_registered (inv : s.Inv) (returned : s.AllReturned) (key : Bytes) :
    s.owner.establishing.lookup key = none := by
  cases found : s.owner.establishing.lookup key with
  | none => rfl
  | some record =>
    obtain ⟨t, pc, present, runs⟩ := inv.covered key record found
    have running := (inv.sound t _ present).running runs
    obtain ⟨exit, rfl⟩ := returned t _ present running.endpoint
    cases runs

/-- Once every call has returned every record is done. -/
theorem every_record_done (inv : s.Inv) (returned : s.AllReturned) {record : Nat}
    (allocated : record < s.owner.records.length) : s.owner.isDone record = true := by
  have found := List.getElem?_eq_getElem allocated
  cases done : (s.owner.records[record]).done with
  | true => simp [isDone, found, done]
  | false =>
    obtain ⟨key, registered⟩ := inv.undone record _ found done
    rw [nothing_registered inv returned key] at registered
    cases registered

/-- The ledger of `GetSession`, for every interleaving of calls, establishments and seals. -/
theorem establishment_ledger (reachable : machine.Reachable s) :
    (∀ (t u : Nat) (a b : Caller) (r q : Nat), s.callers[t]? = some a → s.callers[u]? = some b →
      a.key = b.key → a.pc.record? = some r → b.pc.record? = some q → t = u) ∧
    s.owner.byIdentity.size + s.owner.reservedCount ≤ s.owner.options.maxSessions ∧
    (s.AllReturned →
      s.owner.establishing.entries = [] ∧
      (∀ record < s.owner.records.length, s.owner.isDone record = true) ∧
      (∀ (t : Nat) (a : Caller) (record : Nat) (ending : WaitEnd), s.callers[t]? = some a →
        a.pc = .returned (.waited record ending) →
        s.owner.isDone record = true ∧ (ending.SawDone ∨ ending.GaveUp)) ∧
      (∀ (t : Nat) (a : Caller) (conn : Nat) (error : Error), s.callers[t]? = some a →
        a.pc = .returned (.established (some conn) (.error error)) →
        s.owner.closeAsked conn = true)) := by
  have inv := inv_reachable reachable
  refine ⟨fun t u a b r q first second same => establishing_once inv first second same, inv.ledger, fun returned => ⟨?_, ?_, ?_, ?_⟩⟩
  · cases entries : s.owner.establishing.entries with
    | nil => rfl
    | cons entry rest =>
      have found : s.owner.establishing.lookup entry.1 = some entry.2 :=
        AList.lookup_eq_some_iff.mpr (by simp [entries])
      rw [nothing_registered inv returned] at found
      cases found
  · exact fun record allocated => every_record_done inv returned allocated
  · intro t a record ending present ended
    have sound := inv.sound t a present
    rw [ended] at sound
    refine ⟨every_record_done inv returned sound.1, ?_⟩
    cases ending with
    | sawDone result => exact .inl ⟨result, rfl⟩
    | timedOut => exact .inr (.inl rfl)
    | cancelled => exact .inr (.inr rfl)
  · intro t a conn error present ended
    have sound := inv.sound t a present
    rw [ended] at sound
    exact sound conn error rfl rfl

/-- A fresh owner with this identity and session limit. -/
def fresh (localIdentity : Bytes) (maxSessions : Nat) : OwnerSystem :=
  { owner := { options := { localIdentity, maxSessions } } }

/-- One-letter identities give a start state. -/
theorem fresh_start (letter : UInt8) (maxSessions : Nat) (ascii : letter < 0x80)
    (sessions : 0 < maxSessions) (bounded : maxSessions ≤ kMaxMaxSessions) :
    machine.start (fresh [letter] maxSessions) :=
  ⟨_, ClientOptions.validate_defaults (by simp) (by simp) (by simpa using ascii) sessions bounded,
    rfl⟩

/-- Two calls for one endpoint; the first dials and its peer refuses the handshake, the second
waits until the record is done, or until its own deadline. -/
def sharedDial (secondLeaves : OwnerEvent) (secondLast : List OwnerEvent) : List OwnerEvent :=
  [.call [0x65], .call [0x65], .enter 0, .enter 1, .poll 1, .dial 0 (.ok ()), .publish 0,
    .gate 0 (.ok ()), secondLeaves, .handshake 0 (.error (err .invalidArgument "refused")),
    .settle 0, .abandon 0] ++ secondLast

/-- The coroutines at the end of a shared dial. -/
def sharedEnd (ending : WaitEnd) : List Caller :=
  [⟨[0x65], .returned (.established (some 0) (.error (err .invalidArgument "refused")))⟩,
    ⟨[0x65], .returned (.waited 0 ending)⟩]

/-- At the end of a shared dial nobody is left in `GetSession`. -/
theorem shared_dial_returned {ending : WaitEnd} (ends : s.callers = sharedEnd ending) :
    s.AllReturned := by
  intro t a present named
  rw [ends] at present
  match t with
  | 0 => exact ⟨_, congrArg Caller.pc (Option.some.inj present).symm⟩
  | 1 => exact ⟨_, congrArg Caller.pc (Option.some.inj present).symm⟩
  | n + 2 => cases present

/-- The ledger at the end of a run in which the second call waits for the first. -/
theorem establishment_ledger_shared_dial :
    ∃ s, machine.Reachable s ∧ s.AllReturned ∧ s.owner.establishing.entries = [] ∧
      s.owner.closeAsked 0 = true := by
  obtain ⟨s, reachable, ends⟩ : ∃ s, machine.Reachable s ∧
      s.callers = sharedEnd (.sawDone (.error (err .invalidArgument "refused"))) :=
    ⟨_, Machine.reachable_of_exec (fresh_start 0x62 1 (by decide) (by decide) (by decide))
      (rfl : machine.exec (fresh [0x62] 1) (sharedDial (.poll 1) [.poll 1]) = some _), rfl⟩
  have returned := shared_dial_returned ends
  have ledger := (establishment_ledger reachable).2.2 returned
  exact ⟨s, reachable, returned, ledger.1, ledger.2.2.2 0 _ 0 _ (by rw [ends]; rfl) rfl⟩

/-- A waiter whose deadline passes returns without having seen its record done. -/
theorem waiter_times_out : ¬ ∀ s, machine.Reachable s → s.AllReturned →
    ∀ (t : Nat) (a : Caller) (record : Nat) (ending : WaitEnd), s.callers[t]? = some a →
      a.pc = .returned (.waited record ending) → ending.SawDone := by
  intro every
  obtain ⟨s, reachable, ends⟩ : ∃ s, machine.Reachable s ∧ s.callers = sharedEnd .timedOut :=
    ⟨_, Machine.reachable_of_exec (fresh_start 0x62 1 (by decide) (by decide) (by decide))
      (rfl : machine.exec (fresh [0x62] 1) (sharedDial (.timeOut 1) []) = some _), rfl⟩
  have returned := shared_dial_returned ends
  obtain ⟨result, saw⟩ := every s reachable returned 1 _ 0 _ (by rw [ends]; rfl) rfl
  cases saw

/-- A connection in its handshake belongs to one coroutine and to no session, and a session that is
not installed yet to one coroutine and to no peer. -/
theorem links_owned_once (reachable : machine.Reachable s) :
    Exclusive s.callers (·.pc.bareConn?) ∧ Exclusive s.callers (·.pc.handle?) ∧
    ∀ (t : Nat) (a : Caller), s.callers[t]? = some a →
      (∀ conn, a.pc.bareConn? = some conn → s.owner.Unused conn) ∧
      ∀ id, a.pc.handle? = some id → id ∉ s.owner.byIdentity.values := by
  have inv := inv_reachable reachable
  refine ⟨inv.bares, inv.handles, ?_⟩
  intro t a present
  have sound := inv.sound t a present
  constructor
  · intro conn holds
    exact (sound.bare holds).unused
  · intro id holds
    obtain ⟨_, _, unpublished⟩ := sound.unpublished holds
    exact unpublished.absent

/-- Two links in their handshakes. -/
theorem links_owned_once_accepted : ∃ s, machine.Reachable s ∧
    s.callers.map (·.pc.bareConn?) = [some 0, some 1] ∧ Exclusive s.callers (·.pc.bareConn?) := by
  obtain ⟨s, reachable, bare⟩ : ∃ s, machine.Reachable s ∧
      s.callers.map (·.pc.bareConn?) = [some 0, some 1] :=
    ⟨_, Machine.reachable_of_exec (fresh_start 0x62 1 (by decide) (by decide) (by decide))
      (rfl : machine.exec (fresh [0x62] 1) [.accept, .accept] = some _), rfl⟩
  exact ⟨s, reachable, bare, (links_owned_once reachable).1⟩

end OwnerSystem

end BbtInfra.Rpc
