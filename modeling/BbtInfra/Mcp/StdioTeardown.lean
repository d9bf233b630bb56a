import BbtInfra.Mcp.StdioSettling

/-!
# The teardown of the stdio transport

At most one party is in `BeginTeardown`, and the evidence is stored once. The parties of a teardown
never come to a halt before the output is sealed: one of them is in `BeginTeardown` or the input is
sealed, and once both coroutines have exited one of them goes on to the end.
-/
namespace BbtInfra.Mcp

open StdioTransport StdioOutput Party List

open Lib (Machine guarded_some)

/-- In the body of `BeginTeardown`. -/
@[simp] def Party.winning (party : Party) : Bool :=
  match party.place with
  | .ending _ | .enqueuing _ _ | .sealingInput => true
  | .halfStart | .beginning | .finishing | .joining | .sealingOutput | .snapshotting
  | .publishing _ | .awaiting | .returned => false

/-- In the cleanup of `Start`. -/
@[simp] def Party.cleaning (party : Party) : Bool := decide (party.place = .halfStart)

/-- Past the beginning of a teardown. -/
@[simp] def PartyPlace.past : PartyPlace → Bool
  | .halfStart | .beginning => false
  | .ending _ | .enqueuing _ _ | .sealingInput | .finishing | .joining | .sealingOutput
  | .snapshotting | .publishing _ | .awaiting | .returned => true

/-- Past the beginning of a teardown; the writer never begins one. -/
def Party.passed (party : Party) : Bool := decide (party.kind ≠ .writer) && party.place.past

/-- On the way to the end of `TryFinishTeardown`. -/
@[simp] def Party.active (party : Party) : Bool :=
  match party.place with
  | .beginning => decide (party.kind ≠ .host)
  | .halfStart | .ending _ | .enqueuing _ _ | .sealingInput | .finishing | .joining | .sealingOutput
  | .snapshotting | .publishing _ => true
  | .awaiting | .returned => false

/-- Behind the seal of the output. -/
@[simp] def Party.behindSeal (party : Party) : Bool :=
  match party.place with
  | .snapshotting | .publishing _ => true
  | .halfStart | .beginning | .ending _ | .enqueuing _ _ | .sealingInput | .finishing | .joining
  | .sealingOutput | .awaiting | .returned => false

/-- The books of the teardown. -/
structure StdioTransport.Teardown (s : StdioTransport) : Prop where
  once : s.teardowns = if s.teardownStarted then 1 else 0
  stored : s.evidenceStores = if s.closedDone then 1 else 0
  winners : s.parties.countP winning ≤ s.teardowns
  begun : s.teardownStarted = true → s.output.inputSealed = false →
    0 < s.parties.countP winning
  passed : 0 < s.parties.countP Party.passed →
    s.teardownStarted = true ∨ s.output.inputSealed = true
  readerLeft : s.reader = .left → s.readerExited = true
  readerIdle : s.reader = .unstarted → s.readerExited = false → 0 < s.parties.countP cleaning
  writerLeft : s.output.writer = .left → s.writerExited = true
  writerIdle : s.output.writer = .unstarted → s.writerExited = false →
    0 < s.parties.countP cleaning
  last : s.readerExited = true → s.writerExited = true → s.closedDone = false →
    0 < s.parties.countP active
  closed : s.closedDone = true ∨ 0 < s.parties.countP behindSeal →
    s.output.outputSealed = true
  brings : ∀ party ∈ s.parties, ∀ k rest, party.place = .enqueuing k rest →
    k < s.output.calls.length

section Books

variable {s next : StdioTransport} {p : Nat} {party : Party}

/-- The parties after one of them has gone on. -/
theorem countP_moveTo (found : s.parties[p]? = some party) (place : PartyPlace)
    (test : Party → Bool) :
    (s.moveTo p place).parties.countP test + (if test party = true then 1 else 0) =
      s.parties.countP test + if test { party with place } = true then 1 else 0 :=
  countP_modify (fun party : Party => { party with place }) test found

/-- Steps that leave the parties alone. -/
theorem StdioTransport.Teardown.output (teardown : s.Teardown) (output : StdioOutput)
    (inputSealed : s.output.inputSealed = true → output.inputSealed = true)
    (outputSealed : s.output.outputSealed = true → output.outputSealed = true)
    (started : output.writer = .unstarted → s.output.writer = .unstarted)
    (staying : output.writer = .left → s.output.writer = .left)
    (grown : s.output.calls.length ≤ output.calls.length) :
    StdioTransport.Teardown { s with output } :=
  { teardown with
    begun := by
      intro begun unsealed
      refine teardown.begun begun (Bool.eq_false_iff.mpr ?_)
      intro isSealed
      have still : output.inputSealed = true := inputSealed isSealed
      simp [still] at unsealed
    passed := fun passed => (teardown.passed passed).imp_right inputSealed
    writerLeft := fun left => teardown.writerLeft (staying left)
    writerIdle := fun idle => teardown.writerIdle (started idle)
    closed := fun closed => outputSealed (teardown.closed closed)
    brings := fun party member k rest place =>
      Nat.lt_of_lt_of_le (teardown.brings party member k rest place) grown }

/-- A party goes on to a place, when that place keeps what is asked of the parties. -/
theorem StdioTransport.Teardown.moveTo (teardown : s.Teardown)
    (found : s.parties[p]? = some party) {place : PartyPlace}
    (wins : Party.winning { party with place } = true → party.winning = true)
    (won : party.winning = true →
      Party.winning { party with place } = true ∨ s.output.inputSealed = true)
    (passes : place.past = true →
      party.place.past = true ∨ s.teardownStarted = true ∨ s.output.inputSealed = true)
    (cleans : party.cleaning = true → (s.reader = .unstarted → s.readerExited = true) ∧
      (s.output.writer = .unstarted → s.writerExited = true))
    (goes : party.active = true → Party.active { party with place } = true ∨
      s.closedDone = true ∨ (s.readerExited && s.writerExited) = false)
    (behind : Party.behindSeal { party with place } = true →
      party.behindSeal = true ∨ s.output.outputSealed = true)
    (brings : ∀ k rest, place = .enqueuing k rest → k < s.output.calls.length) :
    (s.moveTo p place).Teardown :=
  { teardown with
    winners := by
      have counts := countP_moveTo found place winning
      have before := teardown.winners
      change (s.moveTo p place).parties.countP winning ≤ s.teardowns
      by_cases later : winning { party with place } = true
      · rw [if_pos later, if_pos (wins later)] at counts
        omega
      · rw [if_neg later] at counts
        omega
    begun := by
      intro begun unsealed
      have counts := countP_moveTo found place winning
      have before := teardown.begun begun unsealed
      by_cases won' : party.winning = true
      · rcases won won' with still | isSealed
        · rw [if_pos still] at counts
          split at counts <;> omega
        · have unsealed' : s.output.inputSealed = false := unsealed
          simp [isSealed] at unsealed'
      · rw [if_neg won'] at counts
        omega
    passed := by
      intro some
      have counts := countP_moveTo found place Party.passed
      by_cases later : Party.passed { party with place } = true
      · have parts : party.kind ≠ .writer ∧ place.past = true := by simpa [Party.passed] using later
        rcases passes parts.2 with already | known
        · have before : party.passed = true := by
            rw [Party.passed, already]
            simpa using parts.1
          rw [if_pos later, if_pos before] at counts
          exact teardown.passed (by omega)
        · exact known
      · rw [if_neg later] at counts
        exact teardown.passed (by omega)
    readerIdle := by
      intro idle running
      have counts := countP_moveTo found place Party.cleaning
      have before := teardown.readerIdle idle running
      have other : ¬party.cleaning = true := by
        intro cleaning
        have exited := (cleans cleaning).1 idle
        have running' : s.readerExited = false := running
        simp [exited] at running'
      rw [if_neg other] at counts
      omega
    writerIdle := by
      intro idle running
      have counts := countP_moveTo found place Party.cleaning
      have before := teardown.writerIdle idle running
      have other : ¬party.cleaning = true := by
        intro cleaning
        have exited := (cleans cleaning).2 idle
        have running' : s.writerExited = false := running
        simp [exited] at running'
      rw [if_neg other] at counts
      omega
    last := by
      intro reader writer unclosed
      have counts := countP_moveTo found place active
      have before := teardown.last reader writer unclosed
      by_cases was : party.active = true
      · have unclosed' : s.closedDone = false := unclosed
        have reader' : s.readerExited = true := reader
        have writer' : s.writerExited = true := writer
        have still : active { party with place } = true := by
          simpa [unclosed', reader', writer'] using goes was
        split at counts <;> omega
      · rw [if_neg was] at counts
        omega
    closed := by
      intro closed
      rcases closed with done | some
      · exact teardown.closed (.inl done)
      · have counts := countP_moveTo found place behindSeal
        by_cases later : behindSeal { party with place } = true
        · rcases behind later with already | isSealed
          · rw [if_pos later, if_pos already] at counts
            exact teardown.closed (.inr (by omega))
          · exact isSealed
        · rw [if_neg later] at counts
          exact teardown.closed (.inr (by omega))
    brings := by
      intro other member k rest there
      rcases mem_modify_cases found member with rfl | old
      · exact brings k rest there
      · exact teardown.brings other old k rest there }

/-- The cleanup of `Start`. -/
theorem StdioTransport.Teardown.halfStart (teardown : s.Teardown)
    (found : s.parties[p]? = some party) (place : party.place = .halfStart) :
    s.halfStart.Teardown :=
  { teardown with
    begun := by
      intro _ unsealed
      cases unsealed
    passed := fun _ => .inr rfl
    readerLeft := by
      intro left
      simp [StdioTransport.halfStart, teardown.readerLeft left]
    readerIdle := by
      intro idle running
      have idle' : s.reader = .unstarted := idle
      simp [StdioTransport.halfStart, idle'] at running
    writerLeft := by
      intro left
      simp [StdioTransport.halfStart, teardown.writerLeft left]
    writerIdle := by
      intro idle running
      have idle' : s.output.writer = .unstarted := idle
      simp [StdioTransport.halfStart, idle'] at running
    last := by
      intro _ _ _
      have active : party.active = true := by simp [Party.active, place]
      exact countP_pos_iff.mpr ⟨party, mem_of_getElem? found, active⟩ }

/-- The first `BeginTeardown`. -/
theorem StdioTransport.Teardown.win (teardown : s.Teardown) (found : s.parties[p]? = some party)
    (place : party.place = .beginning) (first : s.teardownStarted = false)
    (ends : List (List UInt8)) :
    ({ s with teardownStarted := true, teardowns := s.teardowns + 1 }.moveTo p
      (.ending ends)).Teardown := by
  have winning := countP_moveTo found (.ending ends) Party.winning
  have passed := countP_moveTo found (.ending ends) Party.passed
  have cleaning := countP_moveTo found (.ending ends) Party.cleaning
  have active := countP_moveTo found (.ending ends) Party.active
  have behindSeal := countP_moveTo found (.ending ends) Party.behindSeal
  have winners := teardown.winners
  have once := teardown.once
  simp [place] at winning
  simp [place] at cleaning
  simp [place] at active
  simp [place] at behindSeal
  simp only [first, Bool.false_eq_true, if_false] at once
  exact { teardown with
    once := by simp [StdioTransport.moveTo, once]
    winners := by
      change (s.moveTo p (.ending ends)).parties.countP Party.winning ≤ s.teardowns + 1
      omega
    begun := by
      intro _ _
      change 0 < (s.moveTo p (.ending ends)).parties.countP Party.winning
      omega
    passed := fun _ => .inl rfl
    readerIdle := by
      intro idle running
      have before := teardown.readerIdle idle running
      change 0 < (s.moveTo p (.ending ends)).parties.countP Party.cleaning
      omega
    writerIdle := by
      intro idle running
      have before := teardown.writerIdle idle running
      change 0 < (s.moveTo p (.ending ends)).parties.countP Party.cleaning
      omega
    last := by
      intro reader writer unclosed
      have before := teardown.last reader writer unclosed
      change 0 < (s.moveTo p (.ending ends)).parties.countP Party.active
      split at active <;> omega
    closed := by
      intro closed
      refine teardown.closed (closed.imp_right fun some => ?_)
      have more : 0 < (s.moveTo p (.ending ends)).parties.countP Party.behindSeal := some
      omega
    brings := by
      intro other member k rest there
      rcases mem_modify_cases found member with rfl | old
      · cases there
      · exact teardown.brings other old k rest there }

/-- The evidence is stored by the first that comes to it. -/
theorem StdioTransport.Teardown.publish (teardown : s.Teardown)
    (isSealed : s.output.outputSealed = true) (snapshot : StdioCloseEvidence) :
    (s.publish snapshot).Teardown := by
  rw [StdioTransport.publish]
  split
  · exact teardown
  case isFalse unclosed =>
    have stored := teardown.stored
    rw [if_neg unclosed] at stored
    exact { teardown with
      stored := by simp [stored]
      last := by
        intro _ _ open'
        cases open'
      closed := fun _ => isSealed }

/-- A step of a party. -/
theorem partyStep_teardown (teardown : s.Teardown) (found : s.parties[p]? = some party)
    {ends : List (List UInt8)} (stepped : s.partyStep p party ends = some next) :
    next.Teardown := by
  have member := mem_of_getElem? found
  rw [partyStep] at stepped
  cases place : party.place with
  | halfStart =>
    rw [place] at stepped
    cases stepped
    refine (teardown.halfStart found place).moveTo found ?_ ?_ ?_ ?_ ?_ ?_ ?_
    all_goals simp [place, StdioTransport.halfStart, sealInput]
    exact ⟨.inr, .inr⟩
  | beginning =>
    simp only [place] at stepped
    split at stepped
    case isTrue started =>
      cases stepped
      refine teardown.moveTo found ?_ ?_ ?_ ?_ ?_ ?_ ?_
      all_goals by_cases host : party.kind = .host
      all_goals simp [place, host, started]
    case isFalse first =>
      cases stepped
      exact teardown.win found place (Bool.eq_false_iff.mpr first) ends
  | ending rest =>
    cases rest with
    | nil =>
      rw [place] at stepped
      cases stepped
      refine teardown.moveTo found ?_ ?_ ?_ ?_ ?_ ?_ ?_
      all_goals simp [place]
    | cons text rest =>
      rw [place] at stepped
      cases stepped
      refine (teardown.output (s.output.call text true) id id id id
        (by simp [call])).moveTo found ?_ ?_ ?_ ?_ ?_ ?_ ?_
      all_goals simp [place, call]
  | enqueuing k rest =>
    simp only [place] at stepped
    split at stepped <;> cases stepped
    refine teardown.moveTo found ?_ ?_ ?_ ?_ ?_ ?_ ?_
    all_goals simp [place]
  | sealingInput =>
    rw [place] at stepped
    cases stepped
    refine (teardown.output s.output.sealInput (fun _ => rfl) id id id
      (Nat.le_refl _)).moveTo found
      ?_ ?_ ?_ ?_ ?_ ?_ ?_
    all_goals simp [place, sealInput]
  | finishing =>
    rw [place] at stepped
    cases stepped
    refine teardown.moveTo found ?_ ?_ ?_ ?_ ?_ ?_ ?_
    all_goals by_cases done : s.closedDone = true
    all_goals cases kind : party.kind
    all_goals simp [place, PartyKind.afterFinish, done]
  | joining =>
    rw [place] at stepped
    cases stepped
    refine teardown.moveTo found ?_ ?_ ?_ ?_ ?_ ?_ ?_
    all_goals by_cases exited : (s.readerExited && s.writerExited) = true
    all_goals cases kind : party.kind
    all_goals simp [place, PartyKind.afterFinish, PartyKind.blocking, exited]
  | sealingOutput =>
    rw [place] at stepped
    cases stepped
    refine (teardown.output s.output.sealOutput id (fun _ => rfl) id id
      (Nat.le_refl _)).moveTo found
      ?_ ?_ ?_ ?_ ?_ ?_ ?_
    all_goals simp [place, sealOutput]
  | snapshotting =>
    rw [place] at stepped
    cases stepped
    refine teardown.moveTo found ?_ ?_ ?_ ?_ ?_ ?_ ?_
    all_goals simp [place]
  | publishing snapshot =>
    rw [place] at stepped
    cases stepped
    have isSealed : s.output.outputSealed = true := by
      refine teardown.closed (.inr (countP_pos_iff.mpr ⟨party, member, ?_⟩))
      simp [behindSeal, place]
    have parties : (s.publish snapshot).parties = s.parties := by
      rw [publish]
      split <;> rfl
    have closed : (s.publish snapshot).closedDone = true := by
      rw [publish]
      split
      case isTrue done => exact done
      · rfl
    refine (teardown.publish isSealed snapshot).moveTo (parties ▸ found) ?_ ?_ ?_ ?_ ?_ ?_ ?_
    all_goals cases kind : party.kind
    all_goals simp [place, PartyKind.afterFinish, closed]
  | awaiting =>
    simp only [place, Option.ite_none_right_eq_some, Option.some.injEq] at stepped
    rw [← stepped.2]
    refine teardown.moveTo found ?_ ?_ ?_ ?_ ?_ ?_ ?_
    all_goals simp [place]
  | returned => simp [place] at stepped

/-- A party that appears brings no frame yet. -/
theorem StdioTransport.Teardown.joined (teardown : s.Teardown) (kind : PartyKind)
    (place : PartyPlace) (fresh : ∀ k rest, place ≠ .enqueuing k rest) :
    ∀ party ∈ (s.join kind place).parties, ∀ k rest, party.place = .enqueuing k rest →
      k < s.output.calls.length := by
  intro party member k rest there
  rcases mem_append.mp member with old | new
  · exact teardown.brings party old k rest there
  · rw [mem_singleton.mp new] at there
    exact absurd there (fresh k rest)

/-- One step keeps the books of the teardown. -/
theorem step_teardown {label : StdioLabel} (teardown : s.Teardown)
    (stepped : s.step label = some next) : next.Teardown := by
  cases label with
  | enqueue text ends =>
    cases stepped
    exact teardown.output _ id id id id (by simp [StdioOutput.call])
  | call k expired status =>
    obtain ⟨call, _, stepped⟩ := Option.bind_eq_some_iff.mp stepped
    obtain ⟨output, moved, stepped⟩ := Option.bind_eq_some_iff.mp stepped
    cases stepped
    obtain ⟨_, calls, writer, inputSealed, outputSealed, _⟩ := enqueueStep_phase moved
    exact teardown.output _ inputSealed.trans outputSealed.trans (fun idle => writer ▸ idle)
      (fun left => writer ▸ left) (by simp [calls, proceed])
  | writer answer status =>
    obtain ⟨output, moved, stepped⟩ := Option.bind_eq_some_iff.mp stepped
    cases stepped
    have frame := writerStep_frame moved
    exact teardown.output _ frame.inputSealed.trans frame.outputSealed.trans
      (fun idle => absurd idle frame.started) (fun left => absurd left frame.staying)
      (by rw [frame.calls])
  | readerLeaves cause =>
    obtain ⟨_, rfl⟩ := guarded_some stepped
    exact { teardown with
      winners := by simpa [StdioTransport.readerLeaves, join] using teardown.winners
      begun := by simpa [StdioTransport.readerLeaves, join] using teardown.begun
      passed := by
        simpa [StdioTransport.readerLeaves, join, Party.passed] using teardown.passed
      readerLeft := fun _ => rfl
      readerIdle := fun idle _ => by cases idle
      writerIdle := by
        simpa [StdioTransport.readerLeaves, join] using teardown.writerIdle
      last := by simp [StdioTransport.readerLeaves, join]
      closed := by simpa [StdioTransport.readerLeaves, join] using teardown.closed
      brings := teardown.joined .reader .beginning (by simp) }
  | writerLeaves =>
    obtain ⟨_, rfl⟩ := guarded_some stepped
    exact { teardown with
      winners := by simpa [StdioTransport.writerLeaves, join] using teardown.winners
      begun := by
        simpa [StdioTransport.writerLeaves, join,
          goTo] using teardown.begun
      passed := by
        simpa [StdioTransport.writerLeaves, join, goTo,
          Party.passed] using teardown.passed
      readerIdle := by
        simpa [StdioTransport.writerLeaves, join] using teardown.readerIdle
      writerLeft := fun _ => rfl
      writerIdle := fun idle _ => by cases idle
      last := by simp [StdioTransport.writerLeaves, join]
      closed := by
        simpa [StdioTransport.writerLeaves, join,
          goTo] using teardown.closed
      brings := teardown.joined .writer .finishing (by simp) }
  | close =>
    cases stepped
    exact { teardown with
      winners := by simpa [join] using teardown.winners
      begun := by simpa [join] using teardown.begun
      passed := by simpa [join, Party.passed] using teardown.passed
      readerIdle := by simpa [join] using teardown.readerIdle
      writerIdle := by simpa [join] using teardown.writerIdle
      last := by simpa [join] using teardown.last
      closed := by simpa [join] using teardown.closed
      brings := teardown.joined .host .beginning (by simp) }
  | party p ends =>
    obtain ⟨party, found, moved⟩ := Option.bind_eq_some_iff.mp stepped
    exact partyStep_teardown teardown found moved

/-- The books of the teardown are kept in every run. -/
theorem teardown_of_reachable (reachable : stdioTransport.Reachable s) : s.Teardown := by
  refine reachable.invariant StdioTransport.Teardown ?_ fun _ _ _ => step_teardown
  rintro _ ⟨maxPendingBytes, readerStarted, writerStarted, rfl⟩
  cases readerStarted <;> cases writerStarted <;>
    exact ⟨rfl, rfl, by simp [startTransport], by simp [startTransport],
      by simp [startTransport, passed], by simp [startTransport], by simp [startTransport],
      by simp [startTransport], by simp [startTransport], by simp [startTransport],
      by simp [startTransport], by simp [startTransport]⟩

end Books

section Rest

variable {s next : StdioTransport}

/-- A step that the transport takes on its own: no new call of `Enqueue` or `Close`, and no end of
the input. -/
def StdioLabel.Own : StdioLabel → Prop
  | .enqueue _ _ | .close => False
  | .readerLeaves cause => cause = .inputSealed
  | .call _ _ _ | .writer _ _ | .writerLeaves | .party _ _ => True

/-- The transport has nothing more to do on its own. -/
def StdioTransport.AtRest (s : StdioTransport) : Prop :=
  ∀ label : StdioLabel, label.Own → s.step label = none

/-- At rest every call of `Enqueue` has returned. -/
theorem StdioTransport.AtRest.calls (rest : s.AtRest) {k : Nat} {call : EnqueueCall}
    (found : s.output.calls[k]? = some call) : ∃ accepted, call.phase = .returned accepted := by
  cases phase : call.phase with
  | returned accepted => exact ⟨accepted, rfl⟩
  | checking | full | expired | registering | asleep | noContext =>
    have inside : 0 < call.phase.toGo := by
      rw [phase]
      decide
    obtain ⟨output, moved⟩ := enqueueStep_isSome (s := s.output) (k := k) inside false .completed
    have halted := rest (.call k false .completed) trivial
    simp [step, found, moved] at halted

/-- At rest the writer was not started or has left. -/
theorem StdioTransport.AtRest.writer (rest : s.AtRest) :
    s.output.writer = .unstarted ∨ s.output.writer = .left := by
  by_contra other
  have apart : s.output.writer ≠ .unstarted ∧ s.output.writer ≠ .left := by simpa using other
  by_cases broken : s.output.writer = .broken
  · have halted := rest .writerLeaves trivial
    simp [step, broken] at halted
  · obtain ⟨output, moved⟩ := writerStep_isSome apart.1 broken apart.2
    have halted := rest (.writer .wouldBlock .completed) trivial
    simp [step, moved] at halted

/-- At rest a party has returned or waits for the end of the teardown. -/
theorem StdioTransport.AtRest.party (rest : s.AtRest) {party : Party}
    (teardown : s.Teardown) (member : party ∈ s.parties) :
    party.place = .returned ∨ (party.place = .awaiting ∧ s.closedDone = false) := by
  obtain ⟨p, found⟩ := mem_iff_getElem?.mp member
  have halted := rest (.party p []) trivial
  simp only [step, found, Option.bind_eq_bind, Option.bind_some] at halted
  cases place : party.place with
  | returned => exact .inl rfl
  | awaiting =>
    refine .inr ⟨rfl, ?_⟩
    simpa [partyStep, place] using halted
  | halfStart | sealingInput | finishing | joining | sealingOutput | snapshotting | publishing =>
    simp [partyStep, place] at halted
  | beginning =>
    simp only [partyStep, place] at halted
    split at halted <;> cases halted
  | ending texts =>
    cases texts <;> simp [partyStep, place] at halted
  | enqueuing k texts =>
    have old := teardown.brings party member k texts place
    obtain ⟨call, present⟩ : ∃ call, s.output.calls[k]? = some call :=
      ⟨_, getElem?_eq_getElem old⟩
    obtain ⟨accepted, returned⟩ := rest.calls present
    cases call with
    | mk frame phase =>
      simp only at returned
      simp [partyStep, place, present, returned] at halted

/-- A teardown that was begun does not come to rest before every frame is counted. -/
theorem StdioTransport.AtRest.settled (rest : s.AtRest) (teardown : s.Teardown)
    (ledger : s.output.Ledger) (begun : ∃ party ∈ s.parties, party.kind ≠ .writer) :
    s.closedDone = true ∧ s.output.outputSealed = true ∧
      ∀ k < s.output.calls.length, s.output.outcomes k = 1 := by
  have still : ∀ party ∈ s.parties, party.winning = false ∧ party.cleaning = false ∧
      party.active = false ∧ party.place.past = true := by
    intro party member
    rcases rest.party teardown member with place | ⟨place, _⟩ <;> simp [place]
  have noWinner : s.parties.countP winning = 0 :=
    countP_eq_zero.mpr fun party member => by
      rw [(still party member).1]
      decide
  have noCleaner : s.parties.countP cleaning = 0 :=
    countP_eq_zero.mpr fun party member => by
      rw [(still party member).2.1]
      decide
  have noneActive : s.parties.countP Party.active = 0 :=
    countP_eq_zero.mpr fun party member => by
      rw [(still party member).2.2.1]
      decide
  have inputSealed : s.output.inputSealed = true := by
    obtain ⟨party, member, kind⟩ := begun
    have passed : party.passed = true := by
      rw [Party.passed, (still party member).2.2.2]
      simpa using kind
    rcases teardown.passed (countP_pos_iff.mpr ⟨party, member, passed⟩) with started | isSealed
    · by_contra unsealed
      have winner := teardown.begun started (Bool.eq_false_iff.mpr unsealed)
      omega
    · exact isSealed
  have readerExited : s.readerExited = true := by
    by_contra running
    have idle := teardown.readerIdle
    cases place : s.reader with
    | unstarted =>
      have cleaner := idle place (Bool.eq_false_iff.mpr running)
      omega
    | left => exact running (teardown.readerLeft place)
    | running =>
      have halted := rest (.readerLeaves .inputSealed) rfl
      simp [step, place, inputSealed] at halted
  have writerExited : s.writerExited = true := by
    by_contra running
    rcases rest.writer with place | place
    · have cleaner := teardown.writerIdle place (Bool.eq_false_iff.mpr running)
      omega
    · exact running (teardown.writerLeft place)
  have closed : s.closedDone = true := by
    by_contra unclosed
    have active := teardown.last readerExited writerExited (Bool.eq_false_iff.mpr unclosed)
    omega
  have isSealed := teardown.closed (.inl closed)
  refine ⟨closed, isSealed, ?_⟩
  intro k old
  have place := ledger.placed k
  rw [if_pos old, places] at place
  have unqueued : s.output.queuedCount k = 0 := by
    simp [queuedCount, ledger.emptied isSealed]
  have outside : s.output.insideCount k = 0 := by
    obtain ⟨call, found⟩ : ∃ call, s.output.calls[k]? = some call :=
      ⟨_, getElem?_eq_getElem old⟩
    obtain ⟨accepted, returned⟩ := rest.calls found
    simp [insideCount, found, returned, EnqueuePhase.inside]
  have unheld : s.output.heldCount k = 0 := by
    rcases rest.writer with there | there <;> simp [heldCount, there]
  omega

/-- What is stored as evidence stays. -/
theorem evidence_step (closed : s.closedDone = true) {label : StdioLabel}
    (stepped : s.step label = some next) :
    next.closedDone = true ∧ next.evidence = s.evidence := by
  cases label with
  | enqueue | close =>
    cases stepped
    exact ⟨closed, rfl⟩
  | call k expired status =>
    simp only [step, Option.bind_eq_bind, Option.bind_eq_some_iff, Option.pure_def,
      Option.some.injEq] at stepped
    obtain ⟨call, _, output, _, rfl⟩ := stepped
    exact ⟨closed, rfl⟩
  | writer answer status =>
    simp only [step, Option.bind_eq_bind, Option.bind_eq_some_iff, Option.pure_def,
      Option.some.injEq] at stepped
    obtain ⟨output, _, rfl⟩ := stepped
    exact ⟨closed, rfl⟩
  | readerLeaves | writerLeaves =>
    obtain ⟨_, rfl⟩ := guarded_some stepped
    exact ⟨closed, rfl⟩
  | party p ends =>
    obtain ⟨party, _, moved⟩ := Option.bind_eq_some_iff.mp stepped
    rw [partyStep] at moved
    split at moved
    case h_2 =>
      split at moved <;> rw [← Option.some.inj moved] <;> exact ⟨closed, rfl⟩
    case h_5 =>
      split at moved <;> cases moved
      exact ⟨closed, rfl⟩
    case h_11 snapshot _ =>
      rw [← Option.some.inj moved, publish, if_pos closed]
      exact ⟨closed, rfl⟩
    case h_12 =>
      rw [if_pos closed] at moved
      cases moved
      exact ⟨closed, rfl⟩
    case h_13 => cases moved
    all_goals
      cases moved
      exact ⟨closed, rfl⟩

/-- Sealing a sealed output changes nothing. -/
theorem sealOutput_again {output : StdioOutput} (ledger : output.Ledger)
    (isSealed : output.outputSealed = true) : output.sealOutput = output := by
  have empty := ledger.emptied isSealed
  have bytes := ledger.bytes
  cases output
  simp only at empty bytes isSealed
  simp [sealOutput, empty, bytes, isSealed]

/-- Enough steps of its own party count a frame behind the seal. -/
theorem Moved.counted {k count : Nat} (moved : Moved k s count next) (ledger : s.output.Ledger)
    (isSealed : s.output.outputSealed = true) (old : k < s.output.calls.length) :
    next.output.outcomes k = 1 ∨ count < s.output.toGo k := by
  have bounded := moved.bounded ledger isSealed old
  have kept : next.output.Ledger ∧ next.output.outputSealed = true ∧
      k < next.output.calls.length := by
    clear bounded
    induction moved with
    | done => exact ⟨ledger, isSealed, old⟩
    | own _ stepped _ ih | other stepped _ ih =>
      have nearer := toGo_step ledger isSealed old stepped
      exact ih (step_ledger ledger stepped) nearer.1 nearer.2.1
  rcases counted_or_moves kept.1 kept.2.1 kept.2.2 with counted | ⟨positive, _⟩
  · exact .inl counted
  · exact .inr (by omega)

/-- The output ledger. In every run the byte count is that of the queue and within its bound, and
every frame that was passed to `Enqueue` is in one place: its call, the queue, the hands of the
writer, all of it in the pipe, or counted as dropped or abandoned; the pipe has nothing but what the
writer has sent of its frames. Behind the seal of the output each frame that is not counted has a
step of its own party, and a bounded number of those counts it; a teardown that a reader, `Close` or
`Start` has begun does not come to rest before all are counted. `BeginTeardown` takes effect once,
the evidence is stored once, and sealing the output again changes nothing. An accepted frame, such
as the end of a subscription, is never dropped: it is queued, held, written or counted as
abandoned. -/
theorem stdio_output_ledger (reachable : stdioTransport.Reachable s) :
    s.output.queueBytes = (s.output.queue.map OutputFrame.size).sum ∧
    s.output.queueBytes ≤ s.output.maxPendingBytes ∧
    (∀ k < s.output.calls.length, s.output.places k = 1) ∧
    s.output.droppedFrames = s.output.dropped.length ∧
    s.output.abandonedFrames = s.output.abandoned.length ∧
    s.output.pipe = (s.output.segments.flatMap fun segment =>
      segment.frame.bytes.take segment.sent) ++ s.output.heldPart ∧
    (s.output.outputSealed = true → ∀ k < s.output.calls.length,
      (s.output.outcomes k = 1 ∨ ∃ label next, label.Moves s k ∧ s.step label = some next) ∧
      ∀ count next, Moved k s count next →
        next.output.outcomes k = 1 ∨ count < s.output.toGo k) ∧
    (s.AtRest → (∃ party ∈ s.parties, party.kind ≠ .writer) →
      s.closedDone = true ∧ ∀ k < s.output.calls.length, s.output.outcomes k = 1) ∧
    s.teardowns ≤ 1 ∧ s.parties.countP winning ≤ s.teardowns ∧ s.evidenceStores ≤ 1 ∧
    (s.closedDone = true → s.output.outputSealed = true ∧
      ∀ label next, s.step label = some next →
        next.closedDone = true ∧ next.evidence = s.evidence) ∧
    (s.output.outputSealed = true → s.output.sealOutput = s.output) ∧
    ∀ k call, s.output.calls[k]? = some call → call.phase = .returned true →
      k ∉ s.output.dropped ∧
      s.output.queuedCount k + s.output.heldCount k + s.output.writtenCount k +
        s.output.abandoned.count k = 1 := by
  have ledger := ledger_of_reachable reachable
  have teardown := teardown_of_reachable reachable
  have once := teardown.once
  have stored := teardown.stored
  refine ⟨ledger.bytes, ledger.bounded, ?_, ledger.drops, ledger.abandons, ledger.piped, ?_, ?_, ?_,
    teardown.winners, ?_, ?_, sealOutput_again ledger, ?_⟩
  · intro k old
    rw [ledger.placed k, if_pos old]
  · intro isSealed k old
    refine ⟨?_, fun count next moved => moved.counted ledger isSealed old⟩
    rcases counted_or_moves ledger isSealed old with counted | ⟨_, moves⟩
    · exact .inl counted
    · exact .inr moves
  · intro rest begun
    have settled := rest.settled teardown ledger begun
    exact ⟨settled.1, settled.2.2⟩
  · split at once <;> omega
  · split at stored <;> omega
  · intro closed
    exact ⟨teardown.closed (.inl closed), fun label next => evidence_step closed⟩
  · intro k call found returned
    have kept := ledger.accepted k call found returned
    have old := (List.getElem?_eq_some_iff.mp found).1
    have place := ledger.placed k
    have outside : s.output.insideCount k = 0 := by
      simp [insideCount, found, returned, EnqueuePhase.inside]
    have undropped : s.output.dropped.count k = 0 := List.count_eq_zero.mpr kept
    rw [if_pos old, places, outcomes] at place
    exact ⟨kept, by omega⟩

/-- A frame is written, the next one is torn by the seal of the input, the frame that ends a
subscription is still written, and a late one is turned away. -/
theorem stdio_output_ledger_close :
    ∃ s, stdioTransport.Reachable s ∧ s.closedDone = true ∧
      s.output.pipe = [0x61, 0x0a, 0x62, 0x63, 0x0a] ∧ s.output.abandoned = [1, 3] ∧
      s.output.abandonedFrames = 2 ∧ ∀ k < 4, s.output.places k = 1 := by
  obtain ⟨s, reachable, tested⟩ := Machine.exists_reachable
    [.enqueue [0x61] false, .call 0 false .completed, .writer .interrupted .completed,
      .writer (.wrote 2) .completed, .enqueue [0x62, 0x62] false, .call 1 false .completed,
      .writer .interrupted .completed, .writer (.wrote 1) .completed,
      .writer .wouldBlock .completed, .close, .party 0 [[0x63]], .party 0 [],
      .call 2 false .completed, .party 0 [], .party 0 [], .party 0 [],
      .writer .interrupted .completed, .writer .interrupted .completed,
      .writer .interrupted .completed, .writer (.wrote 2) .completed,
      .writer .interrupted .completed, .writerLeaves, .readerLeaves .inputSealed, .party 0 [],
      .party 0 [], .party 0 [], .party 0 [], .party 0 [], .enqueue [0x64] false,
      .call 3 false .completed]
    (m := stdioTransport) (fun s => s.closedDone &&
      decide (s.output.pipe = [0x61, 0x0a, 0x62, 0x63, 0x0a]) &&
      decide (s.output.abandoned = [1, 3]) && decide (s.output.calls.length = 4))
    ⟨8, true, true, rfl⟩ (by decide +kernel)
  simp only [Bool.and_eq_true, decide_eq_true_eq] at tested
  obtain ⟨⟨⟨closed, pipe⟩, abandoned⟩, size⟩ := tested
  have ledger := stdio_output_ledger reachable
  have counter := ledger.2.2.2.2.1
  rw [abandoned] at counter
  refine ⟨s, reachable, closed, pipe, abandoned, counter, ?_⟩
  intro k few
  exact ledger.2.2.1 k (by omega)

end Rest

end BbtInfra.Mcp
