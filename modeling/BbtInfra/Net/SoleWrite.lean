import BbtInfra.Net.CoWrite

/-!
# A connection with one write

Some users of a connection write on it once. Then everything the sink takes is the start of that
write, and a report that says it is complete means that the sink has taken all of it. Once the
connection is asked to close, nothing is accepted any more.
-/
namespace BbtInfra.Net

open Lib WriteSide CoWritePc List
open Rpc (WriteReport)

variable [CompletionBuffer]

/-- A step of the connection or of a call that is there: no call begins. -/
def CoWriteLabel.alone : CoWriteLabel → Bool
  | .call _ | .side (.accept _ _ _) => false
  | _ => true

/-- `AcceptWrite` has not taken the write. -/
def CoWritePc.early : CoWritePc → Bool
  | .gate | .attempt | .full | .capacity => true
  | _ => false

namespace WriteSide

variable {s next : WriteSide} {data : Bytes}

/-- A write of these bytes is complete. -/
def Completed (s : WriteSide) (data : Bytes) : Prop :=
  ∃ op ∈ s.records, op.data = data ∧ op.terminal = true ∧ op.error.failed = false

/-- What is complete stays so. -/
theorem Completed.step (completed : s.Completed data) (reachable : writeMachine.Reachable s)
    {label : WriteLabel} (stepped : s.step label = some next) : next.Completed data := by
  obtain ⟨op, inside, same, terminal, fine⟩ := completed
  have after := (reachable_gate reachable).step (reachable_ledger reachable) stepped
  exact ⟨op, after.terminal op inside terminal, same, terminal, fine⟩

/-- The intent to close stays. -/
theorem requested_step (requested : s.closeRequested = true) (reachable : writeMachine.Reachable s)
    {label : WriteLabel} (stepped : s.step label = some next) : next.closeRequested = true := by
  have after := (reachable_gate reachable).step (reachable_ledger reachable) stepped
  rw [after.requested, requested, Bool.true_or]

/-- `RequestClose` leaves the intent to close. -/
theorem requestClose_requested (reachable : writeMachine.Reachable s) (reason : StdErrorCode) :
    (s.requestClose reason).closeRequested = true := by
  have stepped : s.step (.requestClose reason) = some (s.requestClose reason) := rfl
  have after := (reachable_gate reachable).step (reachable_ledger reachable) stepped
  rw [after.requested]
  exact Bool.or_true _

/-- A connection that is asked to close accepts nothing. -/
theorem acceptWrite_requested (requested : s.closeRequested = true) (alloc : AcceptAlloc)
    (sealSeen : Bool) : s.acceptWrite data alloc sealSeen = (netClosed, s) := by
  have refused : s.acceptRefusal sealSeen = some netClosed := by
    rw [acceptRefusal, requested]
    simp
  rw [acceptWrite, refused]

end WriteSide

namespace CoWrites

variable {s next : CoWrites} {data : Bytes} {label : CoWriteLabel}

/-- Nobody has written on the connection. -/
structure Unwritten (s : CoWrites) : Prop where
  reachable : coWriteMachine.Reachable s
  calls : s.calls = []
  keys : s.side.keys = []

/-- One call writes these bytes. -/
structure Sole (s : CoWrites) (data : Bytes) : Prop where
  reachable : coWriteMachine.Reachable s
  call : ∃ pc, s.calls = [⟨data, pc⟩]
  early : ∀ call ∈ s.calls, call.pc.early = true → s.side.keys = []
  keys : s.side.keys = [] ∨ ∃ id, s.side.keys = [(id, data)]
  whole : ∀ call ∈ s.calls, ∀ report, call.pc = .returned report → report.outcome.phase = .done →
    report.outcome.error.failed = false → s.side.Completed data

/-- The write side of a connection with its calls has taken its own steps. -/
theorem reachable_side (reachable : coWriteMachine.Reachable s) :
    writeMachine.Reachable s.side := (reachable_sound reachable).reachable

/-- One more step of a connection with its calls. -/
theorem reachable_step (reachable : coWriteMachine.Reachable s)
    (stepped : s.step label = some next) : coWriteMachine.Reachable next := by
  obtain ⟨labels, run⟩ := reachable
  exact ⟨_, run.step trivial stepped⟩

/-- A connection that was just made. -/
theorem unwritten_make (outboundMax maxOps : Nat) :
    Unwritten { side := make outboundMax maxOps } :=
  ⟨⟨[], .start ⟨outboundMax, maxOps, rfl⟩⟩, rfl, rfl⟩

/-- The first call. -/
theorem Unwritten.call (unwritten : s.Unwritten) (data : Bytes) :
    Sole { s with calls := s.calls ++ [{ data }] } data := by
  have calls : s.calls ++ [({ data } : CoWriteCall)] = [⟨data, .gate⟩] := by
    rw [unwritten.calls, nil_append]
  have called : s.step (.call data) = some { s with calls := s.calls ++ [{ data }] } := rfl
  refine ⟨reachable_step unwritten.reachable called, ⟨.gate, calls⟩,
    fun _ _ _ => unwritten.keys, .inl unwritten.keys, ?_⟩
  intro call member report returned
  rw [calls, mem_singleton] at member
  rw [member] at returned
  cases returned

/-- A step of the write side that accepts nothing leaves the accepted writes. -/
theorem keys_side (reachable : writeMachine.Reachable s.side) {label : WriteLabel}
    {side : WriteSide} (alone : (CoWriteLabel.side label).alone = true)
    (stepped : s.side.step label = some side) : side.keys = s.side.keys := by
  have keys := keys_step (reachable_ledger reachable)
    (reachable_gate reachable) stepped
  have none' : s.side.acceptedBy label = [] := by
    cases label with
    | accept data alloc sealSeen => cases alone
    | _ => rfl
  rw [keys, none', append_nil]

/-- A connection nobody writes on goes on. -/
theorem Unwritten.step (unwritten : s.Unwritten) (alone : label.alone = true)
    (stepped : s.step label = some next) : next.Unwritten := by
  have reachable := reachable_step unwritten.reachable stepped
  cases label with
  | side label =>
    obtain ⟨side, moved, rfl⟩ := Option.map_eq_some_iff.mp stepped
    have keys := keys_side (reachable_side unwritten.reachable) alone moved
    exact ⟨reachable, unwritten.calls, keys.trans unwritten.keys⟩
  | call data => cases alone
  | act i event =>
    rw [CoWrites.step, unwritten.calls] at stepped
    cases stepped

/-- A complete outcome is of a complete write. -/
theorem Owns.completed {id : Nat} (owns : s.Owns data id)
    (reachable : writeMachine.Reachable s.side) (done : (s.side.query id).phase = .done)
    (fine : (s.side.query id).error.failed = false) : s.side.Completed data := by
  obtain ⟨op, inside, rfl, rfl⟩ := owns
  have booked := (WriteSide.reachable_ledger reachable).booked
  unfold WriteSide.query at done fine
  rw [booked.record inside] at done fine
  dsimp only at done fine
  cases terminal : op.terminal with
  | false =>
    rw [terminal, if_neg (by simp)] at done
    cases done
  | true =>
    rw [terminal, if_pos rfl] at fine
    exact ⟨op, inside, rfl, terminal, fine⟩

/-- A step of a call that leaves the write side alone brings no write about, and reports one as
complete only when it is. -/
theorem next_returned {pc pc' : CoWritePc} {event : CoWriteEvent} (placed : s.Placed data pc)
    (reachable : writeMachine.Reachable s.side) (moved : pc.next s.side event = some pc') :
    (pc'.early = true → pc.early = true) ∧
    ∀ report, pc' = .returned report → report.outcome.phase = .done →
      report.outcome.error.failed = false → s.side.Completed data := by
  unfold CoWritePc.next at moved
  split at moved <;> cases moved
  next inside hasState =>
    refine ⟨fun _ => rfl, fun report returned done => ?_⟩
    split_ifs at returned
    · cases returned
      cases done
    · cases returned
      cases done
  next yes =>
    refine ⟨fun _ => rfl, fun report returned done => ?_⟩
    split_ifs at returned
    cases returned
    cases done
  next =>
    refine ⟨fun _ => rfl, fun report returned done => ?_⟩
    cases returned
    cases done
  next status =>
    refine ⟨fun _ => rfl, fun report returned done => ?_⟩
    split_ifs at returned
    cases returned
    cases done
  next id inside _ =>
    refine ⟨?_, fun report returned => ?_⟩
    · split_ifs <;> simp [early]
    · split_ifs at returned
  next id outcome =>
    refine ⟨?_, fun report returned done fine => ?_⟩
    · split_ifs <;> simp [early]
    · split_ifs at returned
      cases returned
      exact Owns.completed placed reachable done fine
  next id =>
    exact ⟨by simp [early], fun report returned => by cases returned⟩
  next id status =>
    refine ⟨?_, fun report returned => ?_⟩
    · split_ifs <;> simp [early]
    · split_ifs at returned
  next id error =>
    refine ⟨by simp [early], fun report returned done fine => ?_⟩
    cases returned
    exact Owns.completed placed.1 reachable done fine

/-- The write is offered: it is taken, or nothing has changed. -/
theorem Sole.offered (sole : s.Sole data) {alloc : AcceptAlloc} {sealSeen : Bool}
    (found : s.calls[0]? = some ⟨data, .attempt⟩) (seen : ¬(sealSeen = true ∧ ¬s.side.serviceSealed))
    {answer : StdErrorCode × WriteSide} (given : s.side.acceptWrite data alloc sealSeen = answer)
    (reachable : coWriteMachine.Reachable
      { s.setCall 0 ⟨data, .attempt⟩ (.accepted s.side data answer.1) with side := answer.2 }) :
    Sole { s.setCall 0 ⟨data, .attempt⟩ (.accepted s.side data answer.1) with
      side := answer.2 } data := by
  obtain ⟨pc, calls⟩ := sole.call
  obtain rfl : pc = .attempt := by
    rw [calls] at found
    cases found
    rfl
  have none' : s.side.keys = [] := sole.early _ (mem_of_getElem? found) rfl
  have side := reachable_side sole.reachable
  have moved : s.side.step (.accept data alloc sealSeen) = some answer.2 :=
    (if_neg seen).trans (by rw [given])
  have keys := keys_step (reachable_ledger side) (reachable_gate side)
    moved
  rw [none', nil_append, acceptedBy, given] at keys
  have now : (s.setCall 0 ⟨data, .attempt⟩ (.accepted s.side data answer.1)).calls =
      [⟨data, .accepted s.side data answer.1⟩] := by
    rw [setCall, calls]
    rfl
  refine ⟨reachable, ⟨_, now⟩, ?_, ?_, ?_⟩
  · intro call member early
    rw [now, mem_singleton] at member
    subst member
    rw [keys, if_pos]
    by_contra fine
    rw [accepted, if_neg fine] at early
    cases early
  · show answer.2.keys = [] ∨ _
    rw [keys]
    split_ifs
    · exact .inl rfl
    · exact .inr ⟨_, rfl⟩
  · intro call member report returned done
    rw [now, mem_singleton] at member
    subst member
    unfold accepted at returned
    split_ifs at returned <;> cases returned <;> cases done

/-- A connection with one call goes on. -/
theorem Sole.step (sole : s.Sole data) (alone : label.alone = true)
    (stepped : s.step label = some next) : next.Sole data := by
  have reachable := reachable_step sole.reachable stepped
  have side' := reachable_side sole.reachable
  cases label with
  | side label =>
    obtain ⟨side, moved, rfl⟩ := Option.map_eq_some_iff.mp stepped
    have keys := keys_side side' alone moved
    refine ⟨reachable, sole.call, ?_, ?_, ?_⟩
    · exact fun call member early => keys.trans (sole.early call member early)
    · show side.keys = [] ∨ _
      rw [keys]
      exact sole.keys
    · intro call member report returned done fine
      exact (sole.whole call member report returned done fine).step side' moved
  | call other => cases alone
  | act i event =>
    obtain ⟨call, found, acted⟩ := Option.bind_eq_some_iff.mp stepped
    obtain ⟨pc, calls⟩ := sole.call
    have placed := (reachable_sound sole.reachable).placed _ (mem_of_getElem? found)
    have here : i = 0 ∧ call = ⟨data, pc⟩ := by
      rw [calls] at found
      cases i with
      | zero => exact ⟨rfl, (Option.some.inj found).symm⟩
      | succ i => cases found
    obtain ⟨rfl, rfl⟩ := here
    unfold act at acted
    split at acted
    next alloc sealSeen place =>
      split at acted
      · cases acted
      next seen =>
        cases acted
        obtain rfl : pc = .attempt := place
        exact sole.offered found seen rfl reachable
    next =>
      obtain ⟨pc', moved, rfl⟩ := Option.map_eq_some_iff.mp acted
      obtain ⟨early, whole⟩ := next_returned placed side' moved
      have now : (s.setCall 0 ⟨data, pc⟩ pc').calls = [⟨data, pc'⟩] := by
        rw [setCall, calls]
        rfl
      refine ⟨reachable, ⟨pc', now⟩, ?_, sole.keys, ?_⟩
      · intro other member fresh
        rw [now, mem_singleton] at member
        subst member
        exact sole.early _ (mem_of_getElem? found) (early fresh)
      · intro other member report returned done fine
        rw [now, mem_singleton] at member
        subst member
        exact whole report returned done fine

/-- A connection that is asked to close accepts nothing more. -/
theorem keys_requested (reachable : coWriteMachine.Reachable s) (alone : label.alone = true)
    (requested : s.side.closeRequested = true) (stepped : s.step label = some next) :
    next.side.keys = s.side.keys := by
  cases label with
  | side label =>
    obtain ⟨side, moved, rfl⟩ := Option.map_eq_some_iff.mp stepped
    exact keys_side (reachable_side reachable) alone moved
  | call other => cases alone
  | act i event =>
    obtain ⟨call, _, acted⟩ := Option.bind_eq_some_iff.mp stepped
    unfold act at acted
    split at acted
    next alloc sealSeen place =>
      split at acted
      · cases acted
      · cases acted
        rw [acceptWrite_requested requested]
    next =>
      obtain ⟨pc', _, rfl⟩ := Option.map_eq_some_iff.mp acted
      rfl

/-- A step with calls is a step of the write side, or none. -/
theorem step_side (stepped : s.step label = some next) :
    next.side = s.side ∨ ∃ label, s.side.step label = some next.side := by
  cases label with
  | side label =>
    obtain ⟨after, moved, rfl⟩ := Option.map_eq_some_iff.mp stepped
    exact .inr ⟨label, moved⟩
  | call other =>
    cases stepped
    exact .inl rfl
  | act i event =>
    obtain ⟨call, _, acted⟩ := Option.bind_eq_some_iff.mp stepped
    unfold act at acted
    split at acted
    next alloc sealSeen place =>
      split at acted
      · cases acted
      next seen =>
        cases acted
        exact .inr ⟨.accept call.data alloc sealSeen, if_neg seen⟩
    next =>
      obtain ⟨pc', _, rfl⟩ := Option.map_eq_some_iff.mp acted
      exact .inl rfl

/-- The intent to close stays. -/
theorem requested_step (reachable : coWriteMachine.Reachable s)
    (requested : s.side.closeRequested = true) (stepped : s.step label = some next) :
    next.side.closeRequested = true := by
  rcases step_side stepped with same | ⟨label, moved⟩
  · rw [same, requested]
  · exact WriteSide.requested_step requested (reachable_side reachable) moved

/-- What is complete stays so. -/
theorem completed_step (reachable : coWriteMachine.Reachable s)
    (completed : s.side.Completed data) (stepped : s.step label = some next) :
    next.side.Completed data := by
  rcases step_side stepped with same | ⟨label, moved⟩
  · rw [same]
    exact completed
  · exact completed.step (reachable_side reachable) moved

/-- The one write is the one record. -/
theorem Sole.record (sole : s.Sole data) :
    s.side.records = [] ∨ ∃ op, s.side.records = [op] ∧ op.data = data := by
  rcases sole.keys with none' | ⟨id, one⟩
  · exact .inl (map_eq_nil_iff.mp none')
  · obtain ⟨op, rest, split, same, later⟩ := map_eq_cons_iff.mp one
    obtain rfl := map_eq_nil_iff.mp later
    exact .inr ⟨op, split, (Prod.mk.inj same).2⟩

/-- What the sink took of a connection. -/
theorem handed_eq (reachable : coWriteMachine.Reachable s) :
    s.side.handed = s.side.records.flatMap fun op => op.data.take op.sent :=
  (reachable_ledger (reachable_side reachable)).handed

/-- The sink took all of a complete write. -/
theorem Sole.completed (sole : s.Sole data) (completed : s.side.Completed data) :
    s.side.handed = data := by
  have ledger := reachable_ledger (reachable_side sole.reachable)
  obtain ⟨op, inside, rfl, terminal, fine⟩ := completed
  have balanced := ledger.booked.balanced op inside
  have all : op.sent = op.data.length :=
    ((balanced.settled terminal).2.mp fine).trans balanced.total
  rcases sole.record with none' | ⟨other, one, -⟩
  · rw [none'] at inside
    cases inside
  · rw [one, mem_singleton] at inside
    subst inside
    rw [handed_eq sole.reachable, one, flatMap_cons, flatMap_nil, append_nil, all,
      take_length]

/-- `RequestClose` of a connection that nobody writes on. -/
theorem Unwritten.requestClose (unwritten : s.Unwritten) (reason : StdErrorCode) :
    Unwritten { s with side := s.side.requestClose reason } := by
  have asked : s.step (.side (.requestClose reason)) =
      some { s with side := s.side.requestClose reason } := rfl
  exact unwritten.step rfl asked

/-- `RequestClose` of a connection with one call. -/
theorem Sole.requestClose (sole : s.Sole data) (reason : StdErrorCode) :
    Sole { s with side := s.side.requestClose reason } data := by
  have asked : s.step (.side (.requestClose reason)) =
      some { s with side := s.side.requestClose reason } := rfl
  exact sole.step rfl asked

end CoWrites

end BbtInfra.Net
