import BbtInfra.Rpc.FrameProto
import BbtInfra.Rpc.Rejection

/-!
# How often a refused request is answered

The exchange on `terminal` has one winner, and the winner enqueues at most one frame. Whether
it enqueues one depends on the error: a refusal that cannot be encoded leaves the request
without an answer.
-/
namespace BbtInfra.Rpc

open Lib Option

/-- What a reply relies on in its session. -/
def SessionCore.link (core : SessionCore) : ClientOptions × UInt64 := (core.options, core.epoch)

/-- Enqueuing changes neither options nor epoch. -/
theorem SessionCore.enqueue_link (core : SessionCore) (item : OutItem) :
    (core.enqueue item).link = core.link := by
  unfold SessionCore.enqueue
  split
  · rfl
  · split <;> rfl

/-- Posting a reply changes neither options nor epoch. -/
theorem SessionCore.post_link (core : SessionCore) (lane : TrafficClass) (bytes : Bytes)
    (awaits : Option Awaits) : (core.post lane bytes awaits).link = core.link := by
  unfold SessionCore.post
  split
  · exact enqueue_link core _
  · exact enqueue_link core _

namespace InboundReply

/-- The frames that the winner of the exchange enqueues on a session with room for them. -/
def framesOf (protobuf : Protobuf) (core : SessionCore) (impl : ReplyCompletionImpl)
    (answer : Answer) : List SessionFrame :=
  if (encodeFramedSessionFrame protobuf (impl.frame core.epoch answer)
    core.options.maxFrameBytes).isOk then [impl.frame core.epoch answer] else []

/-- What holds of one reply at any time. -/
structure Sound (protobuf : Protobuf) (sessions : List SessionCore) (reply : InboundReply) :
    Prop where
  valid : reply.request.validateKindRules true = .ok ()
  link : ∃ core, sessions[reply.session]? = some core ∧ core.epoch = reply.request.sessionEpoch
  unclaimed : reply.pc = .unclaimed → reply.frames = [] ∧
    (reply.impl.isSome = true → reply.refusal = none)
  posting : ∀ claimant answer, reply.pc = .posting claimant answer → reply.frames = []
  refused : ∀ answer, reply.pc = .posting .refusal answer ∨ reply.pc = .answered .refusal answer →
    ∃ error, reply.refusal = some error ∧ answer = .fail error
  answered : ∀ claimant answer impl core, reply.pc = .answered claimant answer →
    reply.impl = some impl → sessions[reply.session]? = some core →
    reply.frames = framesOf protobuf core impl answer

variable {protobuf : Protobuf} {sessions sessions' : List SessionCore} {reply : InboundReply}

/-- Sessions may change as long as their options and epochs stay. -/
theorem Sound.relink (sound : reply.Sound protobuf sessions)
    (same : ∀ k : Nat, sessions'[k]?.map SessionCore.link = sessions[k]?.map SessionCore.link) :
    reply.Sound protobuf sessions' := by
  have old : ∀ core, sessions'[reply.session]? = some core →
      ∃ before, sessions[reply.session]? = some before ∧ core.link = before.link := by
    intro core found
    have links := same reply.session
    rw [found, map_some] at links
    obtain ⟨before, present, equal⟩ := map_eq_some_iff.mp links.symm
    exact ⟨before, present, equal.symm⟩
  refine { sound with link := ?_, answered := ?_ }
  · obtain ⟨core, found, current⟩ := sound.link
    have links := same reply.session
    rw [found, map_some] at links
    obtain ⟨later, present, equal⟩ := map_eq_some_iff.mp links
    have epoch : later.epoch = core.epoch := congrArg Prod.snd equal
    exact ⟨later, present, epoch.trans current⟩
  · intro claimant answer impl core ended asks found
    obtain ⟨before, present, equal⟩ := old core found
    have options : core.options = before.options := congrArg Prod.fst equal
    have epoch : core.epoch = before.epoch := congrArg Prod.snd equal
    rw [framesOf, options, epoch]
    exact sound.answered claimant answer impl before ended asks present

/-- The reply of a request that has just arrived is sound. -/
theorem sound_new {session : Nat} {request : SessionFrame}
    (valid : request.validateKindRules true = .ok ())
    (link : ∃ core, sessions[session]? = some core ∧ core.epoch = request.sessionEpoch) :
    ({ session, request } : InboundReply).Sound protobuf sessions where
  valid := valid
  link := link
  unclaimed := fun _ => ⟨rfl, fun _ => rfl⟩
  posting := by
    intro _ _ posting
    cases posting
  refused := by
    intro _ ended
    rcases ended with posting | answered
    · cases posting
    · cases answered
  answered := by
    intro _ _ _ _ answered
    cases answered

section

variable (sound : reply.Sound protobuf sessions)

include sound

/-- A reply that was just claimed is sound: a refusal claims it with its own error. -/
theorem Sound.claim (unclaimed : reply.pc = .unclaimed)
    {claimant : Claimant} {answer : Answer} {refusal : Option Error}
    (refused : claimant = .refusal → ∃ error, refusal = some error ∧ answer = .fail error) :
    ({ reply with refusal, pc := .posting claimant answer } : InboundReply).Sound protobuf
      sessions where
  valid := sound.valid
  link := sound.link
  unclaimed := by
    intro still
    cases still
  posting := fun _ _ _ => (sound.unclaimed unclaimed).1
  refused := by
    intro other ended
    rcases ended with posting | answered
    · cases posting
      exact refused rfl
    · cases answered
  answered := by
    intro _ _ _ _ ended
    cases ended

/-- A refusal keeps a reply sound. -/
theorem Sound.refuse (fresh : reply.refusal = none)
    (error : Error) : (reply.refuse error).Sound protobuf sessions := by
  by_cases claims : reply.impl.isSome ∧ reply.pc = .unclaimed
  · rw [InboundReply.refuse, if_pos claims]
    exact sound.claim claims.2 fun _ => ⟨error, rfl, rfl⟩
  · rw [InboundReply.refuse, if_neg claims]
    refine { sound with unclaimed := ?_, refused := ?_ }
    · intro unclaimed
      refine ⟨(sound.unclaimed unclaimed).1, fun asks => ?_⟩
      exact absurd ⟨asks, unclaimed⟩ claims
    · intro answer ended
      obtain ⟨earlier, refused, _⟩ := sound.refused answer ended
      rw [fresh] at refused
      cases refused

/-- A reply that enqueued what it could is sound. -/
theorem Sound.answer {claimant : Claimant} {answer : Answer}
    (posting : reply.pc = .posting claimant answer) {impl : ReplyCompletionImpl}
    (asks : reply.impl = some impl) {core : SessionCore}
    (found : sessions[reply.session]? = some core) {frames : List SessionFrame}
    (enqueued : frames = framesOf protobuf core impl answer) :
    ({ reply with pc := .answered claimant answer, frames } : InboundReply).Sound protobuf
      sessions where
  valid := sound.valid
  link := sound.link
  unclaimed := by
    intro still
    cases still
  posting := by
    intro _ _ still
    cases still
  refused := by
    intro other ended
    rcases ended with still | answered
    · cases still
    · cases answered
      exact sound.refused answer (.inl posting)
  answered := by
    intro _ _ other core' ended asked present
    cases ended
    have same : some impl = some other := asks.symm.trans asked
    have link : some core = some core' := found.symm.trans present
    cases same
    cases link
    exact enqueued

end

/-- The winner enqueues one error frame exactly when it reports an error that can be sent. -/
theorem framesOf_refuses {core : SessionCore} {impl : ReplyCompletionImpl}
    (valid : core.options.validate = .ok ())
    (accepted : reply.request.validateKindRules true = .ok ()) (asks : reply.impl = some impl)
    (current : reply.request.sessionEpoch = core.epoch) (answer : Answer) :
    (∃ frame, framesOf protobuf core impl answer = [frame] ∧ Refuses reply.request frame) ↔
      ∃ error, impl.reported answer = some error ∧
        impl.Reportable protobuf core.options.maxFrameBytes core.epoch error := by
  obtain ⟨_, _, _, _, least, most⟩ := ClientOptions.validate_ok valid
  have positive : 0 < core.options.maxFrameBytes := Nat.lt_of_lt_of_le (by decide) least
  unfold framesOf
  cases reported : impl.reported answer with
  | none =>
    obtain ⟨response, built⟩ := ReplyCompletionImpl.frame_of_silent reported core.epoch
    rw [built]
    constructor
    · intro answered
      obtain ⟨frame, only, refuses⟩ := answered
      split at only
      · rw [← List.singleton_inj.mp only] at refuses
        exact absurd refuses (not_refuses_successFrame response)
      · cases only
    · intro sent
      obtain ⟨_, reports, _⟩ := sent
      cases reports
  | some error =>
    have encodes := encode_errorFrame protobuf positive most accepted asks current error
    rw [ReplyCompletionImpl.frame_of_reported reported]
    constructor
    · intro answered
      obtain ⟨frame, only, _⟩ := answered
      split at only
      · rename_i encoded
        exact ⟨error, rfl, encodes.mp encoded⟩
      · cases only
    · intro sent
      obtain ⟨_, reports, reportable⟩ := sent
      cases reports
      rw [if_pos (encodes.mpr reportable)]
      exact ⟨_, rfl, refuses_errorFrame asks core.epoch error⟩

/-- How the refusal of a request with this error ends: somebody claims its reply, the refusal
with its own error, and once the frame of that answer is dealt with, exactly one error frame
was enqueued if and only if the answer reports an error that passes the error branch and fits
the frame limit of the session. -/
def RefusalEnds (protobuf : Protobuf) (sessions : List SessionCore) (reply : InboundReply)
    (impl : ReplyCompletionImpl) (error : Error) : Prop :=
  ∃ core claimant answer, sessions[reply.session]? = some core ∧
    (claimant = .refusal → answer = .fail error) ∧
    (reply.pc = .posting claimant answer ∧ reply.frames = [] ∨
      reply.pc = .answered claimant answer ∧
        (reply.AnsweredOnce ↔ ∃ error, impl.reported answer = some error ∧
          impl.Reportable protobuf core.options.maxFrameBytes core.epoch error))

end InboundReply

namespace RejectionState

open InboundReply

variable {protobuf : Protobuf} {s s' : RejectionState} {i : Nat} {reply : InboundReply}

/-- What every step keeps. -/
structure Ledger (protobuf : Protobuf) (s : RejectionState) : Prop where
  options : ∀ core ∈ s.sessions, core.options.validate = .ok ()
  replies : ∀ (i : Nat) (reply : InboundReply), s.replies[i]? = some reply →
    reply.Sound protobuf s.sessions

section

variable (ledger : s.Ledger protobuf)

include ledger

/-- One reply changes. -/
theorem Ledger.set (sound : reply.Sound protobuf s.sessions) :
    Ledger protobuf { s with replies := s.replies.set i reply } where
  options := ledger.options
  replies := by
    intro j other found
    rcases List.getElem?_set_cases found with ⟨_, rfl⟩ | before
    · exact sound
    · exact ledger.replies j other before

/-- One session changes but for its options and its epoch. -/
theorem Ledger.relink {k : Nat} {core old : SessionCore}
    (found : s.sessions[k]? = some old) (same : core.link = old.link) :
    Ledger protobuf { s with sessions := s.sessions.set k core } where
  options := by
    intro other member
    rcases List.mem_or_eq_of_mem_set member with before | rfl
    · exact ledger.options other before
    · have options : other.options = old.options := congrArg Prod.fst same
      rw [options]
      exact ledger.options old (List.mem_of_getElem? found)
  replies := by
    intro j reply present
    apply (ledger.replies j reply present).relink
    intro other
    by_cases own : k = other
    · subst own
      rw [List.getElem?_set_found found, found, map_some, map_some, same]
    · rw [List.getElem?_set_ne own]

/-- An arrival keeps the ledger. -/
theorem Ledger.arrive {session : Nat} {frame : SessionFrame}
    (stepped : s.arrive session frame = some s') : s'.Ledger protobuf := by
  simp only [RejectionState.arrive, bind_eq_some_iff, ite_none_right_eq_some,
    map_eq_some_iff] at stepped
  obtain ⟨core, found, ⟨accepted, _, current⟩, server, _, rfl⟩ := stepped
  have valid : frame.validateKindRules true = .ok () := by
    cases checked : frame.validateKindRules true with
    | ok value => rfl
    | error error =>
      rw [checked] at accepted
      cases accepted
  refine { options := ledger.options, replies := ?_ }
  intro j reply present
  rcases List.getElem?_push_cases present with ⟨_, rfl⟩ | before
  · exact sound_new valid ⟨core, found, current.symm⟩
  · exact ledger.replies j reply before

/-- A frame on a session with room for it is enqueued exactly when it encodes. -/
theorem Ledger.post {core : SessionCore} {impl : ReplyCompletionImpl}
    {claimant : Claimant} {answer : Answer} (awaits : Awaits)
    (found : s.replies[i]? = some reply) (linked : s.sessions[reply.session]? = some core)
    (asks : reply.impl = some impl) (posting : reply.pc = .posting claimant answer)
    (room : s.roomy protobuf (.post i awaits) = true) :
    (s.post protobuf i reply core impl claimant answer awaits).Ledger protobuf := by
  have sound := ledger.replies i reply found
  have none : reply.frames = [] := sound.posting claimant answer posting
  simp only [roomy, found, linked, asks, posting, all_some, Bool.and_eq_true,
    Bool.not_eq_true'] at room
  obtain ⟨⟨alive, _⟩, room⟩ := room
  unfold RejectionState.post
  rw [if_neg (by simp [alive])]
  cases encoded : encodeFramedSessionFrame protobuf (impl.frame core.epoch answer)
      core.options.maxFrameBytes with
  | error error =>
    have enqueued : reply.frames = framesOf protobuf core impl answer := by
      rw [none, framesOf, encoded]
      rfl
    exact ledger.set (sound.answer posting asks linked enqueued)
  | ok bytes =>
    rw [encoded] at room
    dsimp only at room ⊢
    rw [if_pos room]
    have enqueued : reply.frames ++ [impl.frame core.epoch answer] =
        framesOf protobuf core impl answer := by
      rw [none, framesOf, encoded]
      rfl
    exact (ledger.set (sound.answer posting asks linked enqueued)).relink linked
      (core.post_link _ _ _)

/-- Every step that finds room for its frame keeps the ledger. -/
theorem Ledger.step {label : RejectionLabel}
    (room : s.roomy protobuf label = true) (stepped : s.step protobuf label = some s') :
    s'.Ledger protobuf := by
  cases label with
  | arrive session frame => exact ledger.arrive stepped
  | server label =>
    simp only [RejectionState.step, ite_none_right_eq_some, map_eq_some_iff] at stepped
    obtain ⟨_, server, _, rfl⟩ := stepped
    exact { options := ledger.options, replies := ledger.replies }
  | refuse i =>
    simp only [RejectionState.step, bind_eq_some_iff, ite_none_right_eq_some,
      Option.some.injEq] at stepped
    obtain ⟨reply, found, error, _, fresh, rfl⟩ := stepped
    exact ledger.set ((ledger.replies i reply found).refuse fresh error)
  | answer i answer =>
    simp only [RejectionState.step, RejectionState.answer, bind_eq_some_iff,
      ite_none_right_eq_some, Option.some.injEq] at stepped
    obtain ⟨reply, found, ⟨_, _, unclaimed⟩, rfl⟩ := stepped
    exact ledger.set ((ledger.replies i reply found).claim unclaimed nofun)
  | post i awaits =>
    simp only [RejectionState.step, postStep, bind_eq_some_iff] at stepped
    obtain ⟨reply, found, core, linked, impl, asks, stepped⟩ := stepped
    cases at_ : reply.pc with
    | posting claimant answer =>
      rw [at_] at stepped
      cases stepped
      exact ledger.post awaits found linked asks at_ room
    | unclaimed | answered =>
      rw [at_] at stepped
      cases stepped
  | session session core =>
    simp only [RejectionState.step, bind_eq_some_iff, ite_none_right_eq_some,
      Option.some.injEq] at stepped
    obtain ⟨old, found, ⟨options, epoch⟩, rfl⟩ := stepped
    exact ledger.relink found (Prod.ext options epoch)

end

/-- Every run that finds room for its frames keeps the ledger. -/
theorem ledger_run {labels : List RejectionLabel}
    (run : (machine protobuf).GuardedRun (fun s label => s.roomy protobuf label = true) labels s) :
    s.Ledger protobuf := by
  refine run.invariant (Ledger protobuf) ?_ fun _ _ _ ledger room stepped => ledger.step room stepped
  rintro s ⟨_, _, empty, options⟩
  refine { options := options, replies := ?_ }
  intro i reply found
  rw [empty] at found
  cases found

/-- In every run in which sessions are alive and have room when a reply is enqueued, the refusal
of a request that asks for a reply ends as `RefusalEnds` says. -/
theorem refusal_answered_once {labels : List RejectionLabel}
    (run : (machine protobuf).GuardedRun (fun s label => s.roomy protobuf label = true) labels s)
    {impl : ReplyCompletionImpl} {error : Error} (found : s.replies[i]? = some reply)
    (asks : reply.impl = some impl) (refused : reply.refusal = some error) :
    reply.RefusalEnds protobuf s.sessions impl error := by
  have ledger := ledger_run run
  have sound := ledger.replies i reply found
  obtain ⟨core, linked, current⟩ := sound.link
  have own : ∀ claimant answer, reply.pc = .posting claimant answer ∨
      reply.pc = .answered claimant answer → claimant = .refusal → answer = .fail error := by
    intro claimant answer ended mine
    subst mine
    obtain ⟨reported, recorded, same⟩ := sound.refused answer ended
    rw [refused, Option.some.injEq] at recorded
    rw [same, recorded]
  cases at_ : reply.pc with
  | unclaimed =>
    have fresh := (sound.unclaimed at_).2 (by simp [asks])
    rw [refused] at fresh
    cases fresh
  | posting claimant answer =>
    exact ⟨core, claimant, answer, linked, own claimant answer (.inl at_),
      .inl ⟨at_, sound.posting claimant answer at_⟩⟩
  | answered claimant answer =>
    refine ⟨core, claimant, answer, linked, own claimant answer (.inr at_), .inr ⟨at_, ?_⟩⟩
    have valid := ledger.options core (List.mem_of_getElem? linked)
    unfold AnsweredOnce
    rw [sound.answered claimant answer impl core at_ asks linked]
    exact framesOf_refuses valid sound.valid asks current.symm answer

/-- A call on the service lane. -/
def plainRequest : SessionFrame where
  kind := .call
  traffic := .service
  sessionEpoch := 1
  requestId := text "x"
  service := text "s"
  method := text "m"
  reply := .required
  remainingBudgetMs := 1000
  requestSchema := text "a"
  responseSchema := text "b"

/-- A server with one session. -/
def oneSession : RejectionState where
  server := { options := {} }
  sessions := [{ options := { localIdentity := [0x61] }, epoch := 1 }]

/-- It is a start state. -/
theorem oneSession_start : (machine Pb.runtime).start oneSession := by
  refine ⟨rfl, rfl, rfl, ?_⟩
  intro core member
  rw [List.mem_singleton.mp member]
  exact ClientOptions.validate_defaults (by simp) (by simp) (by simp) (by decide) (by decide)

/-- The call is admitted, and its handler returns this error. -/
def refusedWith (error : Error) : List RejectionLabel :=
  [.arrive 0 plainRequest, .server (.check 0), .server (.push 0), .server .pop,
    .server (.handle (some (.error error))), .refuse 0, .post 0 .result, .server .conclude]

/-- The refusal of the call is over, and it has enqueued this many frames. -/
def concluded (frames : Nat) (error : Error) (reply : InboundReply) : Bool :=
  decide (reply.refusal = some error) && reply.impl.isSome && !reply.reporting &&
    decide (reply.frames.length = frames)

/-- A handler that returns a short error. -/
theorem refusal_answered_once_busy :
    ∃ (s : RejectionState) (reply : InboundReply) (impl : ReplyCompletionImpl), s.replies[0]? = some reply ∧
    reply.frames.length = 1 ∧
    reply.RefusalEnds Pb.runtime s.sessions impl (err .unavailable "busy") := by
  obtain ⟨s, run, ended⟩ := Machine.exists_guardedRun (m := machine Pb.runtime)
    (refusedWith (err .unavailable "busy")) (roomy Pb.runtime)
    (fun s => s.replies[0]?.any (concluded 1 (err .unavailable "busy"))) oneSession_start
    (by decide +kernel)
  simp only [any_eq_true, concluded, Bool.and_eq_true, decide_eq_true_eq] at ended
  obtain ⟨reply, found, ⟨⟨refused, asks⟩, _⟩, one⟩ := ended
  obtain ⟨impl, asks⟩ := isSome_iff_exists.mp asks
  exact ⟨s, reply, impl, found, one, refusal_answered_once run found asks refused⟩

/-- A text one byte longer than an error message may be on the wire. -/
def wordy : Error := { code := .unavailable, message := List.replicate (kMaxValueBytes + 1) 0x61 }

/-- A handler that returns a long error leaves the call without an answer. -/
theorem long_error_not_answered :
    ¬∀ labels s, (machine Pb.runtime).GuardedRun
      (fun s label => s.roomy Pb.runtime label = true) labels s →
      ∀ (i : Nat) (reply : InboundReply), s.replies[i]? = some reply → reply.impl.isSome = true →
        reply.refusal.isSome = true → reply.reporting = false → reply.AnsweredOnce := by
  intro answered
  obtain ⟨s, run, ended⟩ := Machine.exists_guardedRun (m := machine Pb.runtime)
    (refusedWith wordy) (roomy Pb.runtime)
    (fun s => s.replies[0]?.any (concluded 0 wordy)) oneSession_start (by decide +kernel)
  simp only [any_eq_true, concluded, Bool.and_eq_true, decide_eq_true_eq, Bool.not_eq_true'] at ended
  obtain ⟨reply, found, ⟨⟨refused, asks⟩, past⟩, none⟩ := ended
  obtain ⟨frame, one, _⟩ := answered _ s run 0 reply found asks (by simp [refused]) past
  rw [one] at none
  cases none

end RejectionState

end BbtInfra.Rpc
