import BbtInfra.Mcp.StdioLedger

/-!
# Frames behind the seal of the stdio output

Behind the seal of the output a frame that is not counted yet has a bounded number of steps to go,
all of them its own party's: the call that brought it or the writer that holds it. One of them is
always there to be taken, and nothing that another party does brings the frame further back.
-/
namespace BbtInfra.Mcp

open StdioOutput StdioTransport

open Lib (Machine guarded_some)

/-- How many steps behind the seal a call of `Enqueue` has to go. -/
def EnqueuePhase.toGo : EnqueuePhase → Nat
  | .returned _ => 0
  | .checking | .expired | .noContext => 1
  | .registering | .asleep => 2
  | .full => 3

/-- How many steps behind the seal the writer has to go with a frame, interruptions apart. -/
def HoldPhase.toGo (frame : OutputFrame) (offset : Nat) : HoldPhase → Nat
  | .canceled | .failed => 1
  | .registering => 2
  | .sending => 3 + (frame.size - offset)
  | .asleep => 4 + (frame.size - offset)

namespace StdioOutput

variable (s : StdioOutput) (k : Nat)

/-- How many steps the call that brought a frame has to go. -/
def callToGo : Nat := (s.calls[k]?.map fun call => call.phase.toGo).getD 0

/-- How many steps the writer has to go with a frame. -/
def writerToGo : Nat :=
  match s.writer with
  | .holding frame offset phase => if frame.ticket = k then phase.toGo frame offset else 0
  | .unstarted | .taking | .idle | .broken | .left => 0

/-- How many steps behind the seal a frame has to go until it is counted. -/
def toGo : Nat := s.callToGo k + s.writerToGo k

end StdioOutput

/-- The label is a step of the party that has the frame, and no interrupted system call. -/
def StdioLabel.Moves (s : StdioTransport) (k : Nat) : StdioLabel → Prop
  | .call j _ _ => j = k
  | .writer answer _ => ∃ frame offset phase, s.output.writer = .holding frame offset phase ∧
      frame.ticket = k ∧ (phase = .sending → answer ≠ .interrupted)
  | .enqueue _ _ | .readerLeaves _ | .writerLeaves | .close | .party _ _ => False

/-- An execution in which so many steps move the frame. -/
inductive Moved (k : Nat) : StdioTransport → Nat → StdioTransport → Prop
  | done (s : StdioTransport) : Moved k s 0 s
  | own {s middle next : StdioTransport} {label : StdioLabel} {count : Nat}
    (moves : label.Moves s k) (stepped : s.step label = some middle)
    (rest : Moved k middle count next) : Moved k s (count + 1) next
  | other {s middle next : StdioTransport} {label : StdioLabel} {count : Nat}
    (stepped : s.step label = some middle) (rest : Moved k middle count next) : Moved k s count next

section Progress

variable {s next : StdioOutput} {k : Nat} {status : CombinedWaitStatus} {answer : PipeAnswer}

/-- A step of a call writes its phase, leaves the writer alone and, behind the seal, comes nearer to
the end. -/
theorem enqueueStep_phase {call : EnqueueCall} {expired : Bool}
    (stepped : s.enqueueStep k call expired status = some next) :
    ∃ phase, next.calls = (s.proceed k phase).calls ∧ next.writer = s.writer ∧
      next.inputSealed = s.inputSealed ∧ next.outputSealed = s.outputSealed ∧
      (s.outputSealed = true → phase.toGo < call.phase.toGo) := by
  rw [enqueueStep] at stepped
  cases phase : call.phase with
  | checking =>
    simp only [phase] at stepped
    split at stepped
    · cases stepped
      exact ⟨.returned false, rfl, rfl, rfl, rfl, fun _ => by decide⟩
    case isFalse unsealed =>
      split at stepped
      · cases stepped
        exact ⟨.returned true, rfl, rfl, rfl, rfl, fun isSealed => absurd isSealed unsealed⟩
      · cases stepped
        exact ⟨.full, rfl, rfl, rfl, rfl, fun isSealed => absurd isSealed unsealed⟩
  | full | asleep =>
    rw [phase] at stepped
    cases stepped
    refine ⟨_, rfl, rfl, rfl, rfl, fun _ => ?_⟩
    split <;> decide
  | expired =>
    rw [phase] at stepped
    cases stepped
    split <;> exact ⟨.returned false, rfl, rfl, rfl, rfl, fun _ => by decide⟩
  | registering =>
    rw [phase] at stepped
    cases stepped
    refine ⟨_, rfl, rfl, rfl, rfl, fun isSealed => ?_⟩
    rw [if_pos isSealed]
    decide
  | noContext =>
    rw [phase] at stepped
    cases stepped
    exact ⟨.returned false, rfl, rfl, rfl, rfl, fun _ => by decide⟩
  | returned accepted => simp [phase] at stepped

/-- A call that has not returned can go on. -/
theorem enqueueStep_isSome {call : EnqueueCall} (inside : 0 < call.phase.toGo) (expired : Bool)
    (status : CombinedWaitStatus) : ∃ next, s.enqueueStep k call expired status = some next := by
  cases phase : call.phase with
  | checking =>
    simp only [enqueueStep, phase]
    split
    · exact ⟨_, rfl⟩
    · split <;> exact ⟨_, rfl⟩
  | full | expired | registering | asleep | noContext =>
    exact ⟨_, by rw [enqueueStep, phase]⟩
  | returned accepted => simp [phase, EnqueuePhase.toGo] at inside

/-- What the steps of the writer leave alone. -/
structure WriterFrame (s next : StdioOutput) : Prop where
  calls : next.calls = s.calls
  inputSealed : next.inputSealed = s.inputSealed
  outputSealed : next.outputSealed = s.outputSealed
  started : next.writer ≠ .unstarted
  staying : next.writer ≠ .left

/-- The frame in the hands of the writer comes nearer to the end, or leaves them. -/
theorem holdStep_cases {frame : OutputFrame} {offset : Nat} {phase : HoldPhase}
    (held : s.writer = .holding frame offset phase)
    (stepped : s.holdStep frame offset phase answer status = some next) :
    WriterFrame s next ∧ (next = s ∧ phase = .sending ∧ answer = .interrupted ∨
      (∃ more later, next.writer = .holding frame more later ∧
        (s.outputSealed = true → later.toGo frame more < phase.toGo frame offset)) ∨
      next.writer = .taking ∨ next.writer = .broken) := by
  cases phase with
  | sending =>
    cases answer with
    | wrote count =>
      obtain ⟨⟨some, _⟩, rfl⟩ := guarded_some stepped
      rw [send]
      split
      · exact ⟨⟨rfl, rfl, rfl, by simp [letGo], by simp [letGo]⟩,
          .inr (.inr (.inl rfl))⟩
      · refine ⟨⟨rfl, rfl, rfl, by simp [goTo], by simp [goTo]⟩,
          .inr (.inl ⟨offset + count, .sending, rfl, fun _ => ?_⟩)⟩
        simp only [HoldPhase.toGo]
        omega
    | interrupted =>
      cases stepped
      exact ⟨⟨rfl, rfl, rfl, by simp [held], by simp [held]⟩, .inl ⟨rfl, rfl, rfl⟩⟩
    | wouldBlock =>
      cases stepped
      refine ⟨⟨rfl, rfl, rfl, by simp [goTo], by simp [goTo]⟩,
        .inr (.inl ⟨offset, .registering, rfl, fun _ => ?_⟩)⟩
      simp only [HoldPhase.toGo]
      omega
    | error =>
      cases stepped
      refine ⟨⟨rfl, rfl, rfl, by simp [goTo], by simp [goTo]⟩,
        .inr (.inl ⟨offset, .failed, rfl, fun _ => ?_⟩)⟩
      simp only [HoldPhase.toGo]
      omega
  | registering =>
    cases stepped
    refine ⟨⟨rfl, rfl, rfl, by simp [goTo], by simp [goTo]⟩,
      .inr (.inl ⟨offset, _, rfl, fun isSealed => ?_⟩)⟩
    simp [isSealed, HoldPhase.toGo]
  | asleep =>
    cases stepped
    refine ⟨⟨rfl, rfl, rfl, by simp [goTo], by simp [goTo]⟩,
      .inr (.inl ⟨offset, _, rfl, fun _ => ?_⟩)⟩
    split <;> simp only [HoldPhase.toGo] <;> omega
  | canceled =>
    cases stepped
    exact ⟨⟨rfl, rfl, rfl, by simp [giveUp, letGo],
      by simp [giveUp, letGo]⟩, .inr (.inr (.inl rfl))⟩
  | failed =>
    cases stepped
    exact ⟨⟨rfl, rfl, rfl, by simp [giveUp, letGo],
      by simp [giveUp, letGo]⟩, .inr (.inr (.inr rfl))⟩

/-- What a step of the writer leaves alone. -/
theorem writerStep_frame
    (stepped : s.writerStep answer status = some next) : WriterFrame s next := by
  rw [writerStep] at stepped
  cases place : s.writer with
  | unstarted | broken | left => simp [place] at stepped
  | taking =>
    cases queue : s.queue with
    | cons frame rest =>
      rw [place, queue] at stepped
      cases stepped
      exact ⟨rfl, rfl, rfl, by simp, by simp⟩
    | nil =>
      rw [place, queue] at stepped
      cases stepped
      split <;> exact ⟨rfl, rfl, rfl, by simp [goTo], by simp [goTo]⟩
  | idle =>
    rw [place] at stepped
    cases stepped
    exact ⟨rfl, rfl, rfl, by simp [goTo], by simp [goTo]⟩
  | holding frame offset phase =>
    rw [place] at stepped
    exact (holdStep_cases place stepped).1

/-- Behind the seal a step of the writer brings its frame nearer to the end, unless the system call
was interrupted. -/
theorem writerStep_toGo (ledger : s.Ledger) (isSealed : s.outputSealed = true)
    (stepped : s.writerStep answer status = some next) :
    next.writerToGo k ≤ s.writerToGo k ∧
      ∀ frame offset phase, s.writer = .holding frame offset phase → frame.ticket = k →
        (phase = .sending → answer ≠ .interrupted) → next.writerToGo k < s.writerToGo k := by
  rw [writerStep] at stepped
  cases place : s.writer with
  | unstarted | broken | left => simp [place] at stepped
  | taking =>
    have empty := ledger.emptied isSealed
    simp only [place, empty, isSealed, Bool.true_or, if_true,
      Option.some.injEq] at stepped
    rw [← stepped]
    exact ⟨by simp [writerToGo, goTo], by simp⟩
  | idle =>
    rw [place] at stepped
    cases stepped
    exact ⟨by simp [writerToGo, goTo], by simp⟩
  | holding frame offset phase =>
    rw [place] at stepped
    have before : s.writerToGo k = if frame.ticket = k then phase.toGo frame offset else 0 := by
      simp [writerToGo, place]
    have positive : 0 < phase.toGo frame offset := by
      cases phase <;> simp only [HoldPhase.toGo] <;> omega
    rcases (holdStep_cases place stepped).2 with
      ⟨same, sending, interrupted⟩ | ⟨more, later, there, nearer⟩ | there | there
    · refine ⟨by rw [same], ?_⟩
      intro other more later same' _ goes
      cases same'
      exact absurd interrupted (goes sending)
    · have nearer := nearer isSealed
      have after : next.writerToGo k = if frame.ticket = k then later.toGo frame more else 0 := by
        simp [writerToGo, there]
      rw [before, after]
      refine ⟨by split <;> omega, ?_⟩
      intro other _ _ same' mine _
      cases same'
      rw [if_pos mine, if_pos mine]
      exact nearer
    · have after : next.writerToGo k = 0 := by simp [writerToGo, there]
      rw [before, after]
      refine ⟨Nat.zero_le _, ?_⟩
      intro other _ _ same' mine _
      cases same'
      rw [if_pos mine]
      exact positive
    · have after : next.writerToGo k = 0 := by simp [writerToGo, there]
      rw [before, after]
      refine ⟨Nat.zero_le _, ?_⟩
      intro other _ _ same' mine _
      cases same'
      rw [if_pos mine]
      exact positive

/-- A writer that is neither gone nor behind its loop can go on. -/
theorem writerStep_isSome (started : s.writer ≠ .unstarted) (loops : s.writer ≠ .broken)
    (staying : s.writer ≠ .left) :
    ∃ next, s.writerStep .wouldBlock .completed = some next := by
  cases place : s.writer with
  | unstarted => exact absurd place started
  | broken => exact absurd place loops
  | left => exact absurd place staying
  | taking =>
    cases queue : s.queue with
    | cons | nil => exact ⟨_, by rw [writerStep, place, queue]⟩
  | idle => exact ⟨_, by rw [writerStep, place]⟩
  | holding frame offset phase =>
    cases phase <;> simp [writerStep, place, holdStep]

end Progress

section Settling

variable {s next : StdioTransport} {k : Nat}

/-- Behind the seal no step brings a frame further from its count, and a step of its own party
brings it nearer. -/
theorem toGo_step (ledger : s.output.Ledger) (isSealed : s.output.outputSealed = true)
    (old : k < s.output.calls.length) {label : StdioLabel}
    (stepped : s.step label = some next) :
    next.output.outputSealed = true ∧ k < next.output.calls.length ∧
      next.output.toGo k ≤ s.output.toGo k ∧
      (label.Moves s k → next.output.toGo k < s.output.toGo k) := by
  have began : ∀ text ends, (s.output.call text ends).toGo k = s.output.toGo k ∧
      k < (s.output.call text ends).calls.length := by
    intro text ends
    have same : (s.output.call text ends).callToGo k = s.output.callToGo k := by
      simp [callToGo, StdioOutput.call, List.getElem?_append_left old]
    refine ⟨?_, ?_⟩
    · rw [toGo, same]
      rfl
    · simp only [StdioOutput.call, List.length_append, List.length_singleton]
      omega
  cases label with
  | enqueue text ends =>
    cases stepped
    exact ⟨isSealed, (began text ends).2, Nat.le_of_eq (began text ends).1, False.elim⟩
  | call j expired status =>
    obtain ⟨call, found, stepped⟩ := Option.bind_eq_some_iff.mp stepped
    obtain ⟨output, moved, stepped⟩ := Option.bind_eq_some_iff.mp stepped
    cases stepped
    obtain ⟨phase, calls, writer, _, outputSealed, nearer⟩ := enqueueStep_phase moved
    have nearer := nearer isSealed
    have writerSame : output.writerToGo k = s.output.writerToGo k := by
      rw [writerToGo, writerToGo, writer]
    have length : output.calls.length = s.output.calls.length := by
      rw [calls, proceed, List.length_modify]
    refine ⟨outputSealed.trans isSealed, length ▸ old, ?_⟩
    rw [toGo, toGo, writerSame]
    by_cases mine : j = k
    · have before : s.output.callToGo k = call.phase.toGo := by
        simp [callToGo, ← mine, found]
      have after : output.callToGo k = phase.toGo := by
        simp [callToGo, calls, proceed, ← mine, found]
      rw [before, after]
      exact ⟨by omega, fun _ => by omega⟩
    · have same : output.callToGo k = s.output.callToGo k := by
        simp [callToGo, calls, proceed, mine]
      rw [same]
      exact ⟨Nat.le_refl _, fun moves => absurd moves mine⟩
  | writer answer status =>
    obtain ⟨output, moved, stepped⟩ := Option.bind_eq_some_iff.mp stepped
    cases stepped
    have frame := writerStep_frame moved
    have nearer := writerStep_toGo (k := k) ledger isSealed moved
    have callSame : output.callToGo k = s.output.callToGo k := by
      rw [callToGo, callToGo, frame.calls]
    refine ⟨frame.outputSealed.trans isSealed, frame.calls ▸ old, ?_⟩
    rw [toGo, toGo, callSame]
    refine ⟨Nat.add_le_add_left nearer.1 _, ?_⟩
    rintro ⟨held, offset, phase, place, mine, goes⟩
    have less := nearer.2 held offset phase place mine goes
    exact Nat.add_lt_add_left less _
  | readerLeaves cause =>
    obtain ⟨_, rfl⟩ := guarded_some stepped
    exact ⟨isSealed, old, Nat.le_refl _, False.elim⟩
  | writerLeaves =>
    obtain ⟨_, rfl⟩ := guarded_some stepped
    refine ⟨isSealed, old, ?_, False.elim⟩
    simp [StdioTransport.writerLeaves, join, toGo,
      writerToGo, goTo, callToGo]
  | close =>
    cases stepped
    exact ⟨isSealed, old, Nat.le_refl _, False.elim⟩
  | party p ends =>
    obtain ⟨party, _, moved⟩ := Option.bind_eq_some_iff.mp stepped
    rcases partyStep_output moved with same | same | same | ⟨text, same⟩
    · rw [same]
      exact ⟨isSealed, old, Nat.le_refl _, False.elim⟩
    · rw [same]
      exact ⟨isSealed, old, Nat.le_refl _, False.elim⟩
    · rw [same]
      exact ⟨rfl, old, Nat.le_refl _, False.elim⟩
    · rw [same]
      exact ⟨isSealed, (began text true).2, Nat.le_of_eq (began text true).1, False.elim⟩

/-- The steps of a frame's own party are bounded by what it has to go. -/
theorem Moved.bounded {count : Nat} (moved : Moved k s count next) (ledger : s.output.Ledger)
    (isSealed : s.output.outputSealed = true) (old : k < s.output.calls.length) :
    count + next.output.toGo k ≤ s.output.toGo k := by
  induction moved with
  | done => omega
  | own moves stepped _ ih =>
    have nearer := toGo_step ledger isSealed old stepped
    have rest := ih (step_ledger ledger stepped) nearer.1 nearer.2.1
    have less := nearer.2.2.2 moves
    omega
  | other stepped _ ih =>
    have nearer := toGo_step ledger isSealed old stepped
    have rest := ih (step_ledger ledger stepped) nearer.1 nearer.2.1
    omega

/-- A call inside `Enqueue` has steps to go. -/
theorem callToGo_pos (inside : 0 < s.output.insideCount k) :
    ∃ call, s.output.calls[k]? = some call ∧ 0 < call.phase.toGo ∧
      s.output.callToGo k = call.phase.toGo := by
  cases found : s.output.calls[k]? with
  | none => simp [insideCount, found] at inside
  | some call =>
    refine ⟨call, rfl, ?_, by simp [callToGo, found]⟩
    simp only [insideCount, found, Option.any_some] at inside
    cases phase : call.phase with
    | checking | full | expired | registering | asleep | noContext => decide
    | returned accepted => simp [phase, EnqueuePhase.inside] at inside

/-- A frame in the hands of the writer has steps to go. -/
theorem writerToGo_pos (held : 0 < s.output.heldCount k) :
    ∃ frame offset phase, s.output.writer = .holding frame offset phase ∧ frame.ticket = k ∧
      0 < s.output.writerToGo k := by
  cases place : s.output.writer with
  | unstarted | taking | idle | broken | left => simp [heldCount, place] at held
  | holding frame offset phase =>
    simp only [heldCount, place] at held
    have mine : frame.ticket = k := by
      by_contra other
      simp [other] at held
    refine ⟨frame, offset, phase, rfl, mine, ?_⟩
    simp only [writerToGo, place, mine, if_true]
    cases phase <;> simp only [HoldPhase.toGo] <;> omega

/-- Behind the seal a frame is counted, or there is a step of its own party to be taken. -/
theorem counted_or_moves (ledger : s.output.Ledger) (isSealed : s.output.outputSealed = true)
    (old : k < s.output.calls.length) :
    s.output.outcomes k = 1 ∨
      (0 < s.output.toGo k ∧ ∃ label next, label.Moves s k ∧ s.step label = some next) := by
  have place := ledger.placed k
  rw [if_pos old, places] at place
  have unqueued : s.output.queuedCount k = 0 := by
    simp [queuedCount, ledger.emptied isSealed]
  by_cases inside : 0 < s.output.insideCount k
  · obtain ⟨call, found, positive, toGo⟩ := callToGo_pos inside
    obtain ⟨output, moved⟩ := enqueueStep_isSome (s := s.output) (k := k) positive false .completed
    refine .inr ⟨by rw [StdioOutput.toGo]; omega, .call k false .completed, { s with output }, rfl,
      ?_⟩
    simp [step, found, moved]
  · by_cases held : 0 < s.output.heldCount k
    · obtain ⟨frame, offset, phase, holds, mine, positive⟩ := writerToGo_pos held
      obtain ⟨output, moved⟩ := writerStep_isSome (s := s.output) (by simp [holds])
        (by simp [holds]) (by simp [holds])
      refine .inr ⟨by rw [StdioOutput.toGo]; omega, .writer .wouldBlock .completed,
        { s with output }, ⟨frame, offset, phase, holds, mine, fun _ => by decide⟩, ?_⟩
      simp [step, moved]
    · exact .inl (by omega)

end Settling

end BbtInfra.Mcp
