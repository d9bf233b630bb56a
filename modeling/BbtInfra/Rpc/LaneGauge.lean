import BbtInfra.Rpc.FrameProto
import BbtInfra.Rpc.SessionFrames

/-!
# The in-flight gauge of a lane

`inflight` of a lane is shared by the callers of this side and the inbound requests of the other.
Every caller decrements it on its way out. An inbound request decrements it only when it is
refused: the steps that finish its responsibility belong to the server and do not know the
session.
-/
namespace BbtInfra.Rpc

open Lib Operation

namespace Operation

/-- The operation is counted on this lane. -/
def countedOn (lane : TrafficClass) (op : Operation) : Bool :=
  op.outstanding && op.request.traffic = lane

end Operation

namespace Inbound

/-- The request went up on this lane and was not refused. -/
def countedOn (lane : TrafficClass) : Inbound → Bool
  | .arrived other | .admitted other | .finished other => other = lane
  | .refused _ => false

/-- The responsibility for the request is not finished. -/
def unfinishedOn (lane : TrafficClass) : Inbound → Bool
  | .arrived other | .admitted other => other = lane
  | .refused _ | .finished _ => false

end Inbound

namespace SessionCore

/-- The gauge against what it has counted. -/
def Gauged (s : SessionCore) : Prop :=
  ∀ lane, (s.outLanes lane).inflight =
    (s.ops.countP (countedOn lane) + s.inbound.countP (Inbound.countedOn lane) : Nat)

variable {s next : SessionCore} {i : Nat} {op : Operation}

section

variable (gauged : s.Gauged)

include gauged

/-- The outbound side does not touch the gauge. -/
theorem Gauged.frame (frame : PendingFrame s next) : next.Gauged := by
  intro lane
  rw [frame.inflight, frame.ops, frame.inbound]
  exact gauged lane

/-- Counters other than the gauge may change. -/
theorem Gauged.modifyLane (lane : TrafficClass)
    {f : TrafficStats → TrafficStats} (inflight : ∀ stats, (f stats).inflight = stats.inflight) :
    (s.modifyLane lane f).Gauged :=
  gauged.frame (pendingFrame_modifyLane s lane inflight)

/-- An operation that changes neither its lane nor whether it is outstanding. -/
theorem Gauged.modifyOp {f : Operation → Operation} (unseen : ∀ op, s.ops[i]? = some op →
      (f op).outstanding = op.outstanding ∧ (f op).request = op.request) :
    (s.modifyOp i f).Gauged := by
  intro lane
  have same : (s.ops.modify i f).countP (countedOn lane) =
      s.ops.countP (countedOn lane) := by
    apply List.countP_modify_same
    intro op found
    rw [countedOn, countedOn, (unseen op found).1, (unseen op found).2]
  change (s.outLanes lane).inflight = ((s.ops.modify i f).countP _ + s.inbound.countP _ : Nat)
  rw [same]
  exact gauged lane

/-- An operation goes on without being counted in or out. -/
theorem Gauged.goto (found : s.ops[i]? = some op) {pc : OperationPc}
    (same : ({ op with pc } : Operation).outstanding = op.outstanding) : (s.goto i pc).Gauged := by
  apply gauged.modifyOp
  intro other present
  cases found.symm.trans present
  exact ⟨same, rfl⟩

/-- `++inflight` counts an operation in. -/
theorem Gauged.gain (found : s.ops[i]? = some op) {pc : OperationPc}
    (before : op.outstanding = false) (after : ({ op with pc } : Operation).outstanding = true) :
    ((s.gainInflight op.request.traffic).goto i pc).Gauged := by
  intro lane
  change ((s.gainInflight op.request.traffic).outLanes lane).inflight =
    ((s.ops.modify i fun op => { op with pc }).countP _ + s.inbound.countP _ : Nat)
  have counted := gauged lane
  by_cases same : lane = op.request.traffic
  · subst same
    rw [List.countP_modify_gain found (by simp [countedOn, before])
      (by simp [countedOn, after])]
    simp only [gainInflight, SessionCore.modifyLane, Function.update_self]
    omega
  · have apart : op.request.traffic ≠ lane := Ne.symm same
    rw [List.countP_modify_same]
    · simpa [gainInflight, SessionCore.modifyLane, same] using counted
    · intro other present
      cases found.symm.trans present
      simp [countedOn, apart]

/-- `--inflight` counts an operation out. -/
theorem Gauged.lose (found : s.ops[i]? = some op) {pc : OperationPc}
    (before : op.outstanding = true) (after : ({ op with pc } : Operation).outstanding = false) :
    ((s.loseInflight op.request.traffic).goto i pc).Gauged := by
  intro lane
  change ((s.loseInflight op.request.traffic).outLanes lane).inflight =
    ((s.ops.modify i fun op => { op with pc }).countP _ + s.inbound.countP _ : Nat)
  have counted := gauged lane
  by_cases same : lane = op.request.traffic
  · subst same
    have fewer : (s.ops.modify i fun op => { op with pc }).countP
          (countedOn op.request.traffic) + 1 =
        s.ops.countP (countedOn op.request.traffic) :=
      List.countP_modify_loss found (by simp [countedOn, before])
        (by simp [countedOn, after])
    simp only [loseInflight, SessionCore.modifyLane, Function.update_self]
    omega
  · have apart : op.request.traffic ≠ lane := Ne.symm same
    rw [List.countP_modify_same]
    · simpa [loseInflight, SessionCore.modifyLane, same] using counted
    · intro other present
      cases found.symm.trans present
      simp [countedOn, apart]

end

/-! ## The pending side -/

section

variable (gauged : s.Gauged)

include gauged

/-- Erasing a registration. -/
theorem Gauged.erase (table : PendingTable) (key : Bytes)
    (remover : Remover) : (s.erasePending table key remover).Gauged := by
  unfold erasePending
  cases (s.pending table).lookup key with
  | none => exact gauged
  | some i => exact gauged.modifyOp (i := i) fun op _ => ⟨rfl, rfl⟩

/-- Settling its operation. -/
theorem Gauged.settle (table : PendingTable) (key : Bytes)
    (remover : Remover) (outcome : Operation → Outcome) :
    (s.settlePending table key remover outcome).Gauged := by
  have erased := gauged.erase table key remover
  unfold settlePending
  cases (s.pending table).lookup key with
  | none => exact gauged
  | some i => exact erased.modifyOp fun op _ => ⟨rfl, rfl⟩

/-- `FailPending` going through a table. -/
theorem Gauged.failTable (table : PendingTable) : (s.failTable table).Gauged := by
  unfold SessionCore.failTable
  generalize (s.pending table).keys = keys
  induction keys generalizing s with
  | nil => exact gauged
  | cons key _ ih => exact ih (gauged.settle table key _ _)

/-- The reader handing an answer over. -/
theorem Gauged.take (table : PendingTable) (key : Bytes)
    (answered : Option Nat) (frame : SessionFrame) :
    (s.takePending table key answered frame).Gauged := by
  have erased := gauged.erase table key (.reply answered)
  unfold takePending
  cases (s.pending table).lookup key with
  | none => exact gauged
  | some i => exact erased

/-- An item reaching its commit point. -/
theorem Gauged.commit (item : OutItem) : (s.commitItem item).Gauged := by
  have marked : (s.markCommitted item).Gauged := by
    unfold markCommitted
    split_ifs
    · exact gauged
    · cases s.findPending item.key with
      | none => exact gauged
      | some found => exact gauged.modifyOp fun op _ => ⟨rfl, rfl⟩
  unfold commitItem
  cases item.origin with
  | none => exact marked
  | some origin => exact marked.modifyOp (i := origin) fun op _ => ⟨rfl, rfl⟩

/-- An operation that erased its own entry goes on, still counted. -/
theorem Gauged.eraseOwn (found : s.ops[i]? = some op) {pc : OperationPc}
    (before : op.outstanding = true)
    (after : ∀ op : Operation, ({ op with pc } : Operation).outstanding = true) :
    ((s.eraseOwn i op).goto i pc).Gauged := by
  have erased : (s.eraseOwn i op).Gauged := by
    unfold SessionCore.eraseOwn
    cases op.table with
    | none => exact gauged
    | some table => exact gauged.erase table op.key _
  apply erased.modifyOp
  intro other present
  have outstanding : other.outstanding = true := by
    unfold SessionCore.eraseOwn at present
    cases tabled : op.table with
    | none =>
      rw [tabled] at present
      cases found.symm.trans present
      exact before
    | some table =>
      rw [tabled] at present
      unfold erasePending at present
      cases looked : (s.pending table).lookup op.key with
      | none =>
        simp only [looked] at present
        cases found.symm.trans present
        exact before
      | some j =>
        simp only [looked] at present
        rcases List.getElem?_modify_cases present with ⟨rfl, old, was, rfl⟩ | ⟨-, was⟩
        · cases found.symm.trans was
          exact before
        · cases found.symm.trans was
          exact before
  rw [outstanding]
  exact ⟨after other, rfl⟩

/-- An inbound request goes up with the gauge. -/
theorem Gauged.arrive (lane : TrafficClass) :
    Gauged { s.gainInflight lane with inbound := s.inbound ++ [.arrived lane] } := by
  intro other
  change ((s.gainInflight lane).outLanes other).inflight =
    (s.ops.countP _ + (s.inbound ++ [Inbound.arrived lane]).countP _ : Nat)
  have counted := gauged other
  rw [List.countP_push]
  by_cases same : other = lane
  · subst same
    simp only [gainInflight, SessionCore.modifyLane, Function.update_self, Inbound.countedOn,
      decide_true, if_true]
    omega
  · have apart : lane ≠ other := Ne.symm same
    simpa [gainInflight, SessionCore.modifyLane, same, Inbound.countedOn, apart] using counted

/-- A refused inbound request comes down with the gauge. -/
theorem Gauged.refuse {j : Nat} {lane : TrafficClass}
    (found : s.inbound[j]? = some (.arrived lane)) :
    ((s.loseInflight lane).setInbound j (.refused lane)).Gauged := by
  intro other
  change ((s.loseInflight lane).outLanes other).inflight =
    (s.ops.countP _ + (s.inbound.set j (.refused lane)).countP _ : Nat)
  have counted := gauged other
  rw [List.set_eq_modify]
  by_cases same : other = lane
  · subst same
    have fewer : (s.inbound.modify j fun _ => .refused other).countP (Inbound.countedOn other) + 1 =
        s.inbound.countP (Inbound.countedOn other) :=
      List.countP_modify_loss found (by simp [Inbound.countedOn]) rfl
    simp only [loseInflight, SessionCore.modifyLane, Function.update_self]
    omega
  · have apart : lane ≠ other := Ne.symm same
    rw [List.countP_modify_same]
    · simpa [loseInflight, SessionCore.modifyLane, same] using counted
    · intro state present
      cases found.symm.trans present
      simp [Inbound.countedOn, apart]

/-- The other steps of an inbound request leave the gauge where it is. -/
theorem Gauged.setInbound {j : Nat} {before after : Inbound} (found : s.inbound[j]? = some before)
    (same : ∀ lane, after.countedOn lane = before.countedOn lane) :
    (s.setInbound j after).Gauged := by
  intro lane
  change (s.outLanes lane).inflight = (s.ops.countP _ + (s.inbound.set j after).countP _ : Nat)
  rw [List.set_eq_modify, List.countP_modify_same]
  · exact gauged lane
  · intro state present
    cases found.symm.trans present
    exact same lane

/-- Every move keeps the gauge. -/
theorem Gauged.move {protobuf : Protobuf} {label : SessionLabel}
    (move : Move protobuf s label next) : next.Gauged := by
  cases move with
  | submit kind request budget =>
    obtain ⟨op, seqCounter, made, fresh⟩ := submit_spec protobuf s kind request budget
    rw [made]
    intro lane
    have still : op.outstanding = false := by
      rcases fresh.pc with begun | ⟨error, failed⟩
      · simp [outstanding, begun]
      · simp [outstanding, failed]
    rw [List.countP_push, if_neg (by simp [countedOn, still])]
    exact gauged lane
  | @register i op found pc =>
    have begun : op.outstanding = false := by simp [outstanding, pc]
    rcases register_cases s i op with ⟨-, same⟩ | ⟨error, same⟩ | ⟨table, -, -, -, same⟩
    · rw [same]
      exact gauged.goto found begun.symm
    · rw [same]
      exact gauged.goto found begun.symm
    · rw [same]
      have inserted : (s.insertPending table op.key i).Gauged :=
        gauged.modifyOp (i := i) fun op _ => ⟨rfl, rfl⟩
      have present : (s.insertPending table op.key i).ops[i]? =
          some { op with registered := true } := by
        simp [insertPending, SessionCore.modifyOp, found]
      exact inserted.goto present begun.symm
  | count found pc => exact gauged.gain found (by simp [outstanding, pc]) rfl
  | @enqueue i op found pc =>
    have counted : op.outstanding = true := by simp [outstanding, pc]
    have queued := gauged.frame (pendingFrame_enqueue s (itemOf i op))
    have present : (s.enqueue (itemOf i op)).ops[i]? = some op :=
      (congrArg (·[i]?) (pendingFrame_enqueue s (itemOf i op)).ops).trans found
    unfold enqueueOp
    cases s.enqueueGate (itemOf i op) with
    | ok value => exact queued.goto present counted.symm
    | error error =>
      split_ifs
      · exact queued.goto present counted.symm
      · exact queued.goto present counted.symm
  | unregister found pc | expire found pc table =>
    exact gauged.eraseOwn found (by simp [outstanding, pc]) fun _ => rfl
  | uncount found pc => exact gauged.lose found (by simp [outstanding, pc]) rfl
  | @accepted i op found pc plain =>
    have lost : ((s.loseInflight op.request.traffic).goto i (.completed (.ok none))).Gauged :=
      gauged.lose found (by simp [outstanding, pc]) rfl
    exact lost.modifyLane op.request.traffic
      (f := fun stats => { stats with finished := stats.finished + 1 }) fun _ => rfl
  | @complete i op found pc table done =>
    have lost : ((s.loseInflight op.request.traffic).goto i (.completed op.outcome)).Gauged :=
      gauged.lose found (by simp [outstanding, pc]) rfl
    exact lost.modifyLane op.request.traffic
      (f := fun stats => { stats with finished := stats.finished + 1 }) fun _ => rfl
  | @leave i op cancelled committed error found pc =>
    have lost : ((s.loseInflight op.request.traffic).goto i (.failed error)).Gauged :=
      gauged.lose found (by simp [outstanding, pc]) rfl
    exact lost.modifyLane op.request.traffic
      (f := fun stats => { stats with dropped := stats.dropped + 1 }) fun _ => rfl
  | @stale frame answered free old => exact gauged.modifyLane frame.traffic fun _ => rfl
  | @response frame answered free kind =>
    have struck : Gauged { s with unanswered := s.unanswered.filter fun i => some i ≠ answered } :=
      gauged
    exact struck.take .calls frame.requestId answered frame
  | @sendAccepted frame answered free kind =>
    have struck : Gauged { s with unanswered := s.unanswered.filter fun i => some i ≠ answered } :=
      gauged
    exact struck.take .sends frame.messageId answered frame
  | @publish i outcome reading => exact gauged.modifyOp (i := i) fun op _ => ⟨rfl, rfl⟩
  | @dequeue lane item rest serviceCredit actorCredit idle queue =>
    have taken := gauged.frame (pendingFrame_dequeued s lane item rest serviceCredit actorCredit)
    exact taken
  | commit writer => exact gauged.commit _
  | @failItem item error writer =>
    unfold failItemPending
    split_ifs
    · exact gauged
    · cases s.findPending item.key with
      | none => exact gauged
      | some found => exact gauged.settle _ _ _ _
  | @settle item outcome writer =>
    have published := gauged.frame (pendingFrame_publishSettle s item outcome)
    exact published
  | sealOut marked =>
    have shut : Gauged { s with outSealed := true, killer := .sealed } := gauged
    exact shut.frame (pendingFrame_sealOut s)
  | failPending shut => exact (gauged.failTable .calls).failTable .sends
  | post lane bytes awaits => exact gauged.frame (pendingFrame_post s lane bytes awaits)
  | arrive lane => exact gauged.arrive lane
  | @refuse j lane found =>
    have dropped : (s.countDropped lane).Gauged := gauged.modifyLane lane fun _ => rfl
    exact dropped.refuse found
  | accept found | finish found => exact gauged.setInbound found fun _ => rfl
  | _ => exact gauged

end

/-- The gauges are exact in every reachable state. -/
theorem reachable_gauged {protobuf : Protobuf} {options : ClientOptions} {epoch : UInt64}
    (reachable : (machine protobuf options epoch).Reachable s) : s.Gauged := by
  apply reachable_invariant Gauged ?_ ?_ reachable
  · intro lane
    rfl
  · intro s label next gauged move
    exact gauged.move move

/-- Outbound operations that are counted on a lane and have not returned, and inbound requests on
it whose responsibility is not finished. -/
def inFlight (s : SessionCore) (lane : TrafficClass) : Nat :=
  s.ops.countP (countedOn lane) + s.inbound.countP (Inbound.unfinishedOn lane)

/-- The gauge of a lane shows what is in flight on it. -/
structure GaugeExact (s : SessionCore) (lane : TrafficClass) : Prop where
  shown : (s.outLanes lane).inflight = s.inFlight lane
  idle : s.inFlight lane = 0 → (s.outLanes lane).inflight = 0

/-- Requests counted on a lane are unfinished or finished. -/
theorem countP_countedOn (inbound : List Inbound) (lane : TrafficClass) :
    inbound.countP (Inbound.countedOn lane) =
      inbound.countP (Inbound.unfinishedOn lane) + inbound.countP (fun state => state = .finished lane) := by
  induction inbound with
  | nil => rfl
  | cons state rest ih =>
    simp only [List.countP_cons, ih]
    cases state <;> simp [Inbound.countedOn, Inbound.unfinishedOn] <;> omega

/-- In every reachable state of a session, the gauge of a lane shows what is in flight on it if
and only if no inbound request of this lane has been finished. -/
theorem lane_gauge {protobuf : Protobuf} {options : ClientOptions} {epoch : UInt64}
    (reachable : (machine protobuf options epoch).Reachable s) (lane : TrafficClass) :
    s.GaugeExact lane ↔ Inbound.finished lane ∉ s.inbound := by
  have gauged := reachable_gauged reachable lane
  rw [countP_countedOn] at gauged
  constructor
  · intro exact_ member
    have counted : 0 < s.inbound.countP (fun state => state = .finished lane) :=
      List.countP_pos_iff.mpr ⟨_, member, decide_eq_true rfl⟩
    have shown := exact_.shown
    unfold inFlight at shown
    omega
  · intro absent
    have none : s.inbound.countP (fun state => state = .finished lane) = 0 := by
      apply List.countP_eq_zero.mpr
      intro state member finished
      rw [of_decide_eq_true finished] at member
      exact absent member
    have shown : (s.outLanes lane).inflight = s.inFlight lane := by
      unfold inFlight
      omega
    exact ⟨shown, fun idle => by rw [shown, idle]; rfl⟩

/-- An inbound request that is admitted on the lane, and a call of this side on it. -/
def sharedLane : List SessionLabel :=
  let request : Request := { service := text "s", method := text "m", requestSchema := text "a",
                             responseSchema := text "b", reply := .required }
  [.arrive .service, .accept 0, .submit .call request 1000, .register 0, .count 0]

/-- Both are on the gauge. -/
theorem lane_gauge_shared_lane :
    ∃ s : SessionCore, s.inFlight .service = 2 ∧ (s.outLanes .service).inflight = 2 := by
  obtain ⟨s, reachable, ended⟩ := Machine.exists_reachable
    (m := machine Pb.runtime { localIdentity := text "a" } 1) sharedLane
    (fun s => s.inFlight .service == 2 && !s.inbound.contains (.finished .service)) rfl
    (by decide +kernel)
  rw [Bool.and_eq_true, beq_iff_eq] at ended
  have gauge := (lane_gauge reachable .service).mpr (by simpa using ended.2)
  exact ⟨s, ended.1, by rw [gauge.shown, ended.1]; rfl⟩

/-- One request that is admitted and finished. -/
def servedRequest : List SessionLabel := [.arrive .service, .accept 0, .finish 0]

/-- The gauge of a session with nothing in flight stays up. -/
theorem served_request_not_gauged :
    ¬∀ s, (machine Pb.runtime { localIdentity := text "a" } 1).Reachable s →
      ∀ lane, s.GaugeExact lane := by
  intro gauged
  obtain ⟨s, reachable, ended⟩ := Machine.exists_reachable
    (m := machine Pb.runtime { localIdentity := text "a" } 1) servedRequest
    (fun s => s.inFlight .service == 0 && (s.outLanes .service).inflight == 1) rfl (by decide)
  rw [Bool.and_eq_true, beq_iff_eq, beq_iff_eq] at ended
  have idle := (gauged s reachable .service).idle ended.1
  rw [ended.2] at idle
  exact absurd idle (by decide)

end SessionCore

end BbtInfra.Rpc
