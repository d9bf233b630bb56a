import BbtInfra.Rpc.FrameProto
import BbtInfra.Rpc.SessionFrames

/-!
# What a reply learns of its write

`Complete` and `Fail` enqueue their frame and then wait for its settlement. `Notify` wakes a
registered wait only, and the wait has no predicate that is checked again after its registration,
so a settlement between `Enqueue` and the registration is not heard.
-/
namespace BbtInfra.Rpc

open Lib SessionCore

namespace Settle

/-- What a wait has heard is settled for good, and is what it returns. -/
structure Heard (settle : Settle) : Prop where
  notified : settle.waiter = .notified → settle.heard = true
  settled : settle.heard = true → settle.settled = true
  /-- A wait that heard its settlement returns nothing else. -/
  returns : settle.heard = true → settle.waiter = .notified ∨ ∃ ending,
    settle.waiter = .returned ending ∧ (settle.awaits = .result → ending = .settled settle.outcome)
  /-- Nothing else returns the settlement. -/
  returned : ∀ outcome, settle.waiter = .returned (.settled outcome) →
    settle.heard = true ∧ settle.awaits = .result

variable {settle : Settle}

/-- A new credential has heard nothing. -/
theorem heard_new (awaits : Awaits) (accepted : Bool) :
    Heard { awaits, accepted } :=
  ⟨(fun no => by cases no), (fun no => by cases no), (fun no => by cases no), fun _ no => by cases no⟩

/-- A wait that has not heard moves on. -/
theorem Heard.move (heard : settle.Heard) {waiter : Waiter} (waiting : settle.waiter ≠ .notified)
    (running : ∀ ending, settle.waiter ≠ .returned ending) (silent : waiter ≠ .notified)
    (going : ∀ ending, waiter ≠ .returned ending) : Heard { settle with waiter } := by
  have deaf : ¬settle.heard = true := by
    intro heardIt
    rcases heard.returns heardIt with notified | ⟨ending, returned, -⟩
    · exact waiting notified
    · exact running ending returned
  refine ⟨fun no => absurd no silent, fun no => absurd no deaf, fun no => absurd no deaf, ?_⟩
  intro outcome no
  exact absurd no (going _)

/-- A settlement reaches a registered wait. -/
theorem Heard.publish (heard : settle.Heard) (unsettled : settle.settled = false)
    (outcome : Except Error Unit) :
    Heard { settle with settled := true, outcome, waiter := settle.waiter.notify
                        publications := settle.publications + 1
                        heard := decide (settle.waiter = .waiting)
                        inTime := !settle.late } := by
  have deaf : ¬settle.heard = true := by
    intro heardIt
    exact absurd ((heard.settled heardIt).symm.trans unsettled) (by decide)
  cases waiting : settle.waiter with
  | waiting =>
    refine ⟨fun _ => rfl, fun _ => rfl, fun _ => .inl rfl, fun _ no => ?_⟩
    cases no
  | notified => exact absurd (heard.notified waiting) deaf
  | returned ending =>
    refine ⟨fun no => ?_, fun no => ?_, fun no => ?_, fun other no => ?_⟩
    · cases no
    · cases no
    · cases no
    · cases no
      exact absurd (heard.returned other waiting).1 deaf
  | _ =>
    refine ⟨fun no => ?_, fun no => ?_, fun no => ?_, fun other no => ?_⟩
    · cases no
    · cases no
    · cases no
    · cases no

/-- `Complete` or `Fail` returns. -/
theorem Heard.return (heard : settle.Heard) {ending : ReplyEnd}
    (ended : SessionCore.replyEnd settle = some ending) :
    Heard { settle with waiter := .returned ending } := by
  refine ⟨(fun no => by cases no), heard.settled,
    fun heardIt => .inr ⟨ending, rfl, fun result => ?_⟩, ?_⟩
  · rcases heard.returns heardIt with notified | ⟨other, returned, -⟩
    · change settle.awaits = .result at result
      simp only [replyEnd, result, notified, Option.some.injEq] at ended
      exact ended.symm
    · change settle.awaits = .result at result
      simp [replyEnd, result, returned] at ended
  · intro outcome returned
    cases returned
    cases awaits : settle.awaits with
    | nothing => simp [replyEnd, awaits] at ended
    | ignored =>
      cases waiter : settle.waiter <;> simp [replyEnd, awaits, waiter] at ended
    | result =>
      cases waiter : settle.waiter <;> simp [replyEnd, awaits, waiter] at ended
      exact ⟨heard.notified waiter, rfl⟩

end Settle

namespace SessionCore

/-- Every credential of a session. -/
def AllHeard (s : SessionCore) : Prop :=
  ∀ (c : Nat) (settle : Settle), s.settles[c]? = some settle → settle.Heard

variable {s next : SessionCore}

section

variable (heard : s.AllHeard)

include heard

/-- Only the credentials count. -/
theorem AllHeard.congr (settles : next.settles = s.settles) : next.AllHeard := by
  unfold AllHeard
  rw [settles]
  exact heard

/-- One credential changes. -/
theorem AllHeard.modify {c : Nat} {f : Settle → Settle}
    (kept : ∀ settle, s.settles[c]? = some settle → settle.Heard → (f settle).Heard) :
    (s.modifySettle c f).AllHeard := by
  intro other settle found
  rcases List.getElem?_modify_cases found with ⟨rfl, old, present, rfl⟩ | ⟨-, present⟩
  · exact kept old present (heard other old present)
  · exact heard other settle present

/-- A settlement. -/
theorem AllHeard.publish (item : OutItem) (outcome : Except Error Unit) :
    (s.publishSettle item outcome).AllHeard := by
  unfold publishSettle
  cases item.settle with
  | none => exact heard
  | some credential =>
    apply heard.modify
    intro settle _ each
    split_ifs with settled
    · exact each
    · exact each.publish (by simpa using settled) outcome

/-- `Kill` settles what it discards. -/
theorem AllHeard.discardHead (lane : TrafficClass) : (s.discardHead lane).AllHeard := by
  unfold SessionCore.discardHead
  cases s.outQ lane with
  | nil => exact heard
  | cons item rest =>
    have taken : ((s.takeQueued lane item rest).modifyLane lane fun stats =>
        { stats with dropped := stats.dropped + 1 }).AllHeard := heard
    have published := taken.publish item (.error (err .closed "session killed before reply write"))
    exact published

/-- Discarding a lane publishes what it discards. -/
theorem AllHeard.discardLane (lane : TrafficClass) : (s.discardLane lane).AllHeard := by
  unfold SessionCore.discardLane
  generalize s.outQ lane = items
  induction items generalizing s with
  | nil => exact heard
  | cons item _ ih => exact ih (heard.discardHead lane)

/-- A new reply has a credential of its own. -/
theorem AllHeard.post (lane : TrafficClass) (bytes : Bytes)
    (awaits : Option Awaits) : (s.post lane bytes awaits).AllHeard := by
  have same : ∀ item, (s.enqueue item).settles = s.settles := by
    intro item
    unfold enqueue
    cases s.enqueueGate item with
    | ok value => rfl
    | error error =>
      dsimp only
      split_ifs <;> rfl
  cases awaits with
  | none => exact heard.congr (same _)
  | some awaits =>
    intro c settle found
    rcases List.getElem?_push_cases found with ⟨-, rfl⟩ | old
    · exact Settle.heard_new _ _
    · exact heard c settle old

/-- Every move keeps what the credentials have heard. -/
theorem AllHeard.move {protobuf : Protobuf} {label : SessionLabel}
    (move : Move protobuf s label next) : next.AllHeard := by
  cases move with
  | submit kind request budget =>
    obtain ⟨op, seqCounter, made, -⟩ := submit_spec protobuf s kind request budget
    rw [made]
    exact heard
  | register found pc => exact heard.congr (outFrame_register s _ _).settles
  | @enqueue i op found pc =>
    have same : (s.enqueueOp i op).settles = s.settles := by
      unfold enqueueOp SessionCore.enqueue
      cases s.enqueueGate (itemOf i op) with
      | ok value => rfl
      | error error =>
        dsimp only
        split_ifs <;> rfl
    exact heard.congr same
  | unregister | expire =>
    exact heard.congr ((outFrame_eraseOwn s _ _).trans (outFrame_goto _ _ _)).settles
  | response | sendAccepted => exact heard.congr (outFrame_answered s _ _ _ _ _).settles
  | @commit item writer =>
    have committed := heard.congr (outFrame_commitItem s item).settles
    exact committed
  | @failItem item error writer =>
    have failed := heard.congr (outFrame_failItemPending s item error).settles
    exact failed
  | @settle item outcome writer =>
    have published := heard.publish item outcome
    exact published
  | sealOut marked =>
    have shut : AllHeard { s with outSealed := true, killer := .sealed } := heard
    exact ((shut.discardLane .system).discardLane .service).discardLane .actor
  | failPending shut =>
    have both := (outFrame_failTable s .calls).trans (outFrame_failTable _ .sends)
    have failed := heard.congr both.settles
    exact failed
  | post lane bytes awaits => exact heard.post lane bytes awaits
  | @registerWait c settle found waiter awaits =>
    apply heard.modify
    intro other present each
    cases found.symm.trans present
    apply each.move
    · rw [waiter]
      decide
    · intro ending same
      cases waiter.symm.trans same
    · decide
    · intro ending same
      cases same
  | @endWait c settle cancelled found waiter =>
    apply heard.modify
    intro other present each
    cases found.symm.trans present
    apply each.move
    · rcases waiter with waiter | waiter <;> rw [waiter] <;> decide
    · intro ending same
      rcases waiter with waiter | waiter <;> cases waiter.symm.trans same
    · cases cancelled <;> decide
    · intro ending same
      cases cancelled <;> cases same
  | passDeadline found =>
    apply heard.modify
    intro settle _ each
    exact ⟨each.notified, each.settled, each.returns, each.returned⟩
  | @returnReply c settle ending found ended =>
    apply heard.modify
    intro other present each
    cases found.symm.trans present
    exact each.return ended
  | _ => exact heard

end

/-- In every reachable state of a session, `Complete` or `Fail` that has returned, and whose frame
was settled before the reply deadline, returned that outcome if and only if the settlement was
published while its wait was registered and had not ended, and the response matched its request. -/
theorem reply_outcome {protobuf : Protobuf} {options : ClientOptions} {epoch : UInt64}
    (reachable : (machine protobuf options epoch).Reachable s) {c : Nat} {settle : Settle}
    {ending : ReplyEnd} (found : s.settles[c]? = some settle)
    (returned : settle.waiter = .returned ending) :
    settle.settled = true ∧ settle.inTime = true →
      (ending = .settled settle.outcome ↔ settle.heard = true ∧ settle.awaits = .result) := by
  intro _
  have heard : s.AllHeard := by
    apply reachable_invariant AllHeard ?_ ?_ reachable
    · intro c settle found
      cases found
    · intro s label next heard move
      exact heard.move move
  have each := heard c settle found
  constructor
  · intro same
    subst same
    exact each.returned settle.outcome returned
  · intro met
    obtain ⟨heardIt, result⟩ := met
    rcases each.returns heardIt with notified | ⟨other, same, own⟩
    · cases returned.symm.trans notified
    · cases returned.symm.trans same
      exact own result

/-- A reply that waits before its frame is written. -/
def heardReply : List SessionLabel :=
  [.post .service [0, 0, 0, 1, 8] (some .result), .registerWait 0, .dequeue, .commit,
    .written (.ok ()), .settle, .returnReply 0]

/-- A registered wait returns the outcome of the write. -/
theorem reply_outcome_heard :
    ∃ (s : SessionCore) (settle : Settle), s.settles[0]? = some settle ∧
      settle.heard = true ∧ (ReplyEnd.settled (.ok ()) = .settled settle.outcome ↔
        settle.heard = true ∧ settle.awaits = .result) := by
  obtain ⟨s, reachable, ended⟩ := Machine.exists_reachable
    (m := machine Pb.runtime { localIdentity := text "a" } 1) heardReply
    (fun s => s.settles[0]?.any fun settle : Settle =>
      decide (settle.waiter = .returned (.settled (.ok ()))) && settle.settled && settle.inTime &&
        settle.heard) rfl (by decide)
  simp only [Option.any_eq_true, Bool.and_eq_true, decide_eq_true_eq] at ended
  obtain ⟨settle, found, ⟨⟨returned, settled⟩, inTime⟩, heard⟩ := ended
  exact ⟨s, settle, found, heard, reply_outcome reachable found returned ⟨settled, inTime⟩⟩

/-- A reply whose frame is written before its wait is registered. -/
def unheardReply : List SessionLabel :=
  [.post .service [0, 0, 0, 1, 8] (some .result), .dequeue, .commit, .written (.ok ()), .settle,
    .countSettled, .registerWait 0, .passDeadline 0, .endWait 0 false, .returnReply 0]

/-- It returns `TimedOut` although its frame was written in time. -/
theorem settlement_not_heard :
    ¬∀ s, (machine Pb.runtime { localIdentity := text "a" } 1).Reachable s →
      ∀ (c : Nat) (settle : Settle) (ending : ReplyEnd), s.settles[c]? = some settle →
        settle.waiter = .returned ending → settle.settled = true ∧ settle.inTime = true →
          ending = .settled settle.outcome := by
  intro heard
  obtain ⟨s, reachable, ended⟩ := Machine.exists_reachable
    (m := machine Pb.runtime { localIdentity := text "a" } 1) unheardReply
    (fun s => s.settles[0]?.any fun settle : Settle => decide (settle.waiter = .returned .timedOut) &&
      settle.settled && settle.inTime) rfl (by decide)
  simp only [Option.any_eq_true, Bool.and_eq_true, decide_eq_true_eq] at ended
  obtain ⟨settle, found, ⟨returned, settled⟩, inTime⟩ := ended
  cases heard s reachable 0 settle .timedOut found returned ⟨settled, inTime⟩

end SessionCore

end BbtInfra.Rpc
