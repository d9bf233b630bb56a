import BbtInfra.Mcp.Subscriptions

/-!
# Subscriptions behind their cancel and behind the close

A listen puts its subscription into the table without another look at the server or at its owner.
As long as no listen does so behind a `Close` that has emptied the table, or behind a cancel that
has looked for it, the table holds nothing that was cancelled or closed.
-/
namespace BbtInfra.Mcp

open Lib List

/-- Entries under different ids, or of different sessions. -/
def SubscriptionEntry.Apart (one other : SubscriptionEntry) : Prop :=
  ¬(one.session = other.session ∧ one.listenId = other.listenId)

instance : Std.Symm SubscriptionEntry.Apart where
  symm _ _ apart same := apart ⟨same.1.symm, same.2.symm⟩

namespace McpServer

/-- The table is empty behind a `Close` that has returned. Behind a cancel that has returned, it
holds no subscription under the id of the cancel but those of later listens. -/
structure NoSurvivor (s : McpServer) : Prop where
  closed : ∀ j : Nat, s.closes[j]? = some (.release 0) → s.subscriptions = []
  cancelled : ∀ (i j : Nat) (listen cancel : Call) (outcome outcome' : Outcome),
    s.calls[i]? = some listen → s.calls[j]? = some cancel → i ∈ cancel.seen →
    listen.pc = .returned outcome → cancel.pc = .returned outcome' →
    ∀ entry ∈ s.subscriptions, entry.session = listen.session →
      listen.detectedId = some entry.listenId → entry.opener ∉ cancel.seen

/-- A listen inserts its subscription before every `Close` empties the table, before every cancel
for it looks for it, and while no other subscription is there under its session and id. -/
def Fenced (s : McpServer) (label : Label) : Prop :=
  ∀ (i : Nat) (call : Call) (id : RequestId) (uris : List Bytes), actor label = some i →
    s.calls[i]? = some call → call.pc = .listenInsert id uris → s.swept = false ∧
      (∀ (j : Nat) (cancel : Call), s.calls[j]? = some cancel → i ∉ cancel.seen) ∧
      ∀ entry ∈ s.subscriptions, ¬(entry.session = call.session ∧ entry.listenId = id)

/-- No cancel that looked for a subscription is still to find it, and the sweeps stand. -/
structure Fences (s : McpServer) : Prop where
  single : s.subscriptions.Pairwise SubscriptionEntry.Apart
  passed : ∀ (j : Nat) (cancel : Call), s.calls[j]? = some cancel →
    ∀ entry ∈ s.subscriptions, entry.opener ∉ cancel.seen
  swept : s.swept = true → s.subscriptions = []
  sweeps : ∀ (j left : Nat),
    s.closes[j]? = some (.clear left) ∨ s.closes[j]? = some (.release left) → s.swept = true

variable {boost : Bytes → Nat → Except JsonFault JsonValue} {options : ServerOptions}
  {registry : Registry} {s s' : McpServer} {i : Nat} {call : Call} {late : Bool}

variable {label : Label} {before : CallPc} {j : Nat}

/-- What a step does to the entries: it only takes some out, it marks some, or it opens one. -/
theorem Acts.table (acts : Acts boost options registry s i call late before s') :
    s'.subscriptions.Sublist s.subscriptions ∨
      (∃ token, s'.subscriptions = s.subscriptions.map fun entry =>
        if entry.token = token then { entry with ackSent := true } else entry) ∨
      ∃ id uris, before = .listenInsert id uris ∧
        s'.subscriptions = s.subscriptions ++ [s.newEntry i call id uris] := by
  cases acts with
  | inserted id uris => exact .inr (.inr ⟨id, uris, rfl, rfl⟩)
  | marked token => exact .inr (.inl ⟨token, rfl⟩)
  | ended id entry => exact .inl erase_sublist
  | acknowledged | announced =>
    exact .inl ((deliver_subscriptions (s := s) _).symm ▸ List.Sublist.refl _)
  | _ => exact .inl (List.Sublist.refl _)

/-- The same of the steps of all threads. -/
theorem Steps.table (steps : Steps boost options registry s label s') :
    s'.subscriptions.Sublist s.subscriptions ∨
      (∃ token, s'.subscriptions = s.subscriptions.map fun entry =>
        if entry.token = token then { entry with ackSent := true } else entry) ∨
      ∃ i call id uris, actor label = some i ∧ s.calls[i]? = some call ∧
        call.pc = .listenInsert id uris ∧
        s'.subscriptions = s.subscriptions ++ [s.newEntry i call id uris] := by
  cases steps with
  | acted i call late label next found origin acts =>
    rcases acts.table with fewer | marks | ⟨id, uris, place, more⟩
    · exact .inl fewer
    · exact .inr (.inl marks)
    · exact .inr (.inr ⟨i, call, id, uris, actor_of_origin origin, found, place, more⟩)
  | sent | emitted => exact .inl ((deliver_subscriptions (s := s) _).symm ▸ List.Sublist.refl _)
  | took => exact .inl filter_sublist
  | swept => exact .inl (nil_sublist _)
  | _ => exact .inl (List.Sublist.refl _)

/-- A cancel has just looked under an id, and nothing is left there. -/
def Looks (s s' : McpServer) (session : Nat) (cancel : Call) : Prop :=
  ∃ id, cancel.seen = s.registered session id ∧ s'.subscriptions ⊆ s.subscriptions ∧
    ∀ entry ∈ s'.subscriptions, ¬(entry.session = session ∧ entry.listenId = id)

/-- What a call has seen after a step: what it had seen, or it has just looked. -/
theorem Acts.seen (fences : s.Fences)
    (acts : Acts boost options registry s i call late before s') :
    ∃ call', s'.calls = s.calls.set i call' ∧
      (call'.seen = call.seen ∨ s.Looks s' call.session call') := by
  cases acts with
  | looked id absent => exact ⟨_, rfl, .inr ⟨id, rfl, List.Subset.refl _, absent⟩⟩
  | ended id entry stored session listen =>
    refine ⟨_, rfl, .inr ⟨id, rfl, erase_subset, ?_⟩⟩
    -- No other entry of the session has the id, and none is there twice.
    intro other member same
    have apart : s.subscriptions.Nodup := by
      apply fences.single.imp
      rintro one _ differs rfl
      exact differs ⟨rfl, rfl⟩
    obtain ⟨different, old⟩ := apart.mem_erase_iff.mp member
    apply fences.single.forall old stored different
    exact ⟨same.1.trans session.symm, same.2.trans listen.symm⟩
  | acknowledged | announced => exact ⟨_, congrArg (set · i _) (deliver_calls _), .inl rfl⟩
  | _ => exact ⟨_, rfl, .inl rfl⟩

/-- The same of the calls after a step of any thread. -/
theorem Steps.seen (fences : s.Fences)
    (steps : Steps boost options registry s label s') {cancel : Call}
    (found : s'.calls[j]? = some cancel) : cancel.seen = [] ∨
      (∃ before, s.calls[j]? = some before ∧ cancel.seen = before.seen) ∨
      ∃ session, s.Looks s' session cancel := by
  have same (calls : s'.calls = s.calls) : cancel.seen = [] ∨
      (∃ before, s.calls[j]? = some before ∧ cancel.seen = before.seen) ∨
      ∃ session, s.Looks s' session cancel :=
    .inr (.inl ⟨cancel, calls ▸ found, rfl⟩)
  cases steps with
  | acted i call late label next present origin acts =>
    obtain ⟨call', calls, seen⟩ := acts.seen fences
    rw [calls] at found
    rcases getElem?_set_cases found with ⟨rfl, rfl⟩ | old
    · rcases seen with kept | looks
      · exact .inr (.inl ⟨call, present, kept⟩)
      · exact .inr (.inr ⟨call.session, looks⟩)
    · exact .inr (.inl ⟨cancel, old, rfl⟩)
  | begun session raw known =>
    rcases getElem?_push_cases found with ⟨_, rfl⟩ | old
    · exact .inl rfl
    · exact .inr (.inl ⟨cancel, old, rfl⟩)
  | sent | emitted => exact same (deliver_calls _)
  | _ => exact same rfl

/-- A registered call of the session and the id that a cancel names. -/
theorem of_registered {session : Nat} {id : RequestId}
    (member : j ∈ s.registered session id) : ∃ other, s.calls[j]? = some other ∧
      other.session = session ∧ other.detectedId = some id := by
  have fits := (mem_filter.mp member).2
  obtain ⟨other, stored, named⟩ := (Option.any_eq_true _ _).mp fits
  simp only [Bool.and_eq_true, decide_eq_true_eq] at named
  exact ⟨other, stored, named.1.2, named.2⟩

/-- Entries that are only taken out or marked stay apart. -/
theorem Fences.table (fences : s.Fences)
    (table : s'.subscriptions.Sublist s.subscriptions ∨
      ∃ token, s'.subscriptions = s.subscriptions.map fun entry =>
        if entry.token = token then { entry with ackSent := true } else entry) :
    s'.subscriptions.Pairwise SubscriptionEntry.Apart ∧
      (∀ entry ∈ s'.subscriptions, ∃ old ∈ s.subscriptions, old.Same entry) ∧
      (s.subscriptions = [] → s'.subscriptions = []) := by
  rcases table with fewer | ⟨token, marks⟩
  · refine ⟨fences.single.sublist fewer, fun entry stored => ?_, fun none' => ?_⟩
    · exact ⟨entry, fewer.subset stored, .refl entry⟩
    · exact sublist_nil.mp (none' ▸ fewer)
  · have kept (entry : SubscriptionEntry) :
        entry.Same (if entry.token = token then { entry with ackSent := true } else entry) := by
      split <;> rfl
    rw [marks]
    refine ⟨?_, ?_, fun none' => by rw [none', map_nil]⟩
    · rw [pairwise_map]
      apply fences.single.imp
      intro one other apart same
      rw [kept one, kept other] at same
      exact apart same
    · intro entry stored
      obtain ⟨old, before, rfl⟩ := mem_map.mp stored
      exact ⟨old, before, kept old⟩

/-- A step of a call is none of a `Close`. -/
theorem Acts.sweeps (acts : Acts boost options registry s i call late before s') :
    s'.swept = s.swept ∧ s'.closes = s.closes := by
  cases acts with
  | acknowledged | announced => exact ⟨deliver_swept _, deliver_closes _⟩
  | _ => exact ⟨rfl, rfl⟩

/-- A `Close` that has emptied the table has set its mark, which stays. -/
theorem Steps.sweeps (sweeps : ∀ (j left : Nat), s.closes[j]? = some (.clear left) ∨
      s.closes[j]? = some (.release left) → s.swept = true)
    (steps : Steps boost options registry s label s') :
    (s'.swept = s.swept ∨ s'.subscriptions = []) ∧
      ∀ (j left : Nat), s'.closes[j]? = some (.clear left) ∨ s'.closes[j]? = some (.release left) →
        s'.swept = true := by
  have same (swept : s'.swept = s.swept) (closes : s'.closes = s.closes) :
      (s'.swept = s.swept ∨ s'.subscriptions = []) ∧
        ∀ (j left : Nat), s'.closes[j]? = some (.clear left) ∨
          s'.closes[j]? = some (.release left) → s'.swept = true := by
    rw [swept, closes]
    exact ⟨.inl rfl, sweeps⟩
  -- A `Close` that goes on to a place behind its sweep comes from one.
  have onward {j : Nat} {pc : ClosePc} (swept : s'.swept = s.swept)
      (closes : s'.closes = s.closes.set j pc)
      (from' : (∃ left, pc = .clear left ∨ pc = .release left) → s.swept = true) :
      (s'.swept = s.swept ∨ s'.subscriptions = []) ∧
        ∀ (j left : Nat), s'.closes[j]? = some (.clear left) ∨
          s'.closes[j]? = some (.release left) → s'.swept = true := by
    rw [swept, closes]
    refine ⟨.inl rfl, fun k left place => ?_⟩
    rcases place with clear | release
    · rcases getElem?_set_cases clear with ⟨_, rfl⟩ | old
      · exact from' ⟨left, .inl rfl⟩
      · exact sweeps k left (.inl old)
    · rcases getElem?_set_cases release with ⟨_, rfl⟩ | old
      · exact from' ⟨left, .inr rfl⟩
      · exact sweeps k left (.inr old)
  cases steps with
  | acted i call late label next found origin acts => exact same acts.sweeps.1 acts.sweeps.2
  | sent | emitted => exact same (deliver_swept _) (deliver_closes _)
  | closing =>
    refine ⟨.inl rfl, fun k left place => ?_⟩
    rcases place with clear | release
    · rcases getElem?_push_cases clear with ⟨_, fresh⟩ | old
      · cases fresh
      · exact sweeps k left (.inl old)
    · rcases getElem?_push_cases release with ⟨_, fresh⟩ | old
      · cases fresh
      · exact sweeps k left (.inr old)
  | sealed' j =>
    apply onward rfl rfl
    rintro ⟨left, clear | release⟩
    · cases clear
    · cases release
  | swept j => exact ⟨.inr rfl, fun _ _ _ => rfl⟩
  | cleared j drained found => exact onward rfl rfl fun _ => sweeps j drained (.inl found)
  | drained j left found => exact onward rfl rfl fun _ => sweeps j _ (.inr found)
  | _ => exact same rfl rfl

/-- The entries after a step: they stay apart, each was there before or was just opened, and an
empty table that a `Close` has swept stays empty. -/
theorem Steps.entries (fences : s.Fences)
    (steps : Steps boost options registry s label s') (fenced : s.Fenced label) :
    s'.subscriptions.Pairwise SubscriptionEntry.Apart ∧
      (∀ entry ∈ s'.subscriptions, (∃ old ∈ s.subscriptions, old.Same entry) ∨
        ∀ (j : Nat) (cancel : Call), s.calls[j]? = some cancel → entry.opener ∉ cancel.seen) ∧
      (s.swept = true → s'.subscriptions = []) := by
  have kept (table : s'.subscriptions.Sublist s.subscriptions ∨
      ∃ token, s'.subscriptions = s.subscriptions.map fun entry =>
        if entry.token = token then { entry with ackSent := true } else entry) :
      s'.subscriptions.Pairwise SubscriptionEntry.Apart ∧
        (∀ entry ∈ s'.subscriptions, (∃ old ∈ s.subscriptions, old.Same entry) ∨
          ∀ (j : Nat) (cancel : Call), s.calls[j]? = some cancel → entry.opener ∉ cancel.seen) ∧
        (s.swept = true → s'.subscriptions = []) := by
    obtain ⟨apart, before, empty⟩ := fences.table table
    exact ⟨apart, fun entry stored => .inl (before entry stored),
      fun swept => empty (fences.swept swept)⟩
  rcases steps.table with fewer | marks | ⟨i, call, id, uris, acts, found, place, table⟩
  · exact kept (.inl fewer)
  · exact kept (.inr marks)
  · obtain ⟨unswept, unseen, alone⟩ := fenced i call id uris acts found place
    rw [table]
    refine ⟨?_, ?_, ?_⟩
    · rw [pairwise_append]
      refine ⟨fences.single, pairwise_singleton _ _, ?_⟩
      intro old stored new member
      rw [mem_singleton.mp member]
      exact alone old stored
    · intro entry stored
      rcases mem_append.mp stored with old | new
      · exact .inl ⟨entry, old, .refl entry⟩
      · right
        rw [mem_singleton.mp new]
        exact unseen
    · intro swept
      rw [unswept] at swept
      cases swept

/-- Every step keeps the fences, when a listen inserts only in front of them. -/
theorem Steps.fences (fences : s.Fences) (links : s.EntryLinks)
    (steps : Steps boost options registry s label s') (fenced : s.Fenced label) : s'.Fences := by
  obtain ⟨apart, origins, empty⟩ := steps.entries fences fenced
  obtain ⟨swept, places⟩ := steps.sweeps fences.sweeps
  refine ⟨apart, ?_, ?_, places⟩
  · intro j cancel found entry stored
    rcases steps.seen fences found with nothing | ⟨before, present, seen⟩ | ⟨session, id, seen, looks⟩
    · rw [nothing]
      exact not_mem_nil
    · rw [seen]
      rcases origins entry stored with ⟨old, stored', same⟩ | new
      · rw [same]
        exact fences.passed j before present old stored'
      · exact new j before present
    · -- The call that opened the entry is under the id, and so is the entry.
      intro member
      rw [seen] at member
      obtain ⟨opener, opened, session', detected⟩ := of_registered member
      obtain ⟨other, opened', session'', detected'⟩ := links entry (.inl (looks.1 stored))
      rw [opened] at opened'
      cases opened'
      apply looks.2 entry stored
      refine ⟨session''.symm.trans session', ?_⟩
      rw [detected] at detected'
      exact (Option.some.inj detected').symm
  · intro mark
    rcases swept with same | none'
    · exact empty (same.symm.trans mark)
    · exact none'

/-- A `Close` that has returned stays so. -/
theorem Steps.close_final (steps : Steps boost options registry s label s')
    (returned : s.closes[j]? = some (.release 0)) : s'.closes[j]? = some (.release 0) := by
  have other {k : Nat} {pc pc' : ClosePc} (found : s.closes[k]? = some pc)
      (running : pc ≠ .release 0) : (s.closes.set k pc')[j]? = some (.release 0) := by
    have apart : k ≠ j := by
      rintro rfl
      rw [found] at returned
      exact running (Option.some.inj returned)
    exact (getElem?_set_ne apart).trans returned
  cases steps with
  | acted i call late label next found origin acts => exact acts.sweeps.2 ▸ returned
  | sent | emitted => exact (deliver_closes (s := s) _).symm ▸ returned
  | closing => exact getElem?_push_old returned
  | sealed' k found | swept k found | cleared k drained found | drained k left found =>
    exact other found (by intro same; cases same)
  | _ => exact returned

/-- In a run in which every listen inserts in front of the fences, no subscription survives its
cancel or the close of the server. -/
theorem no_survivor {labels : List Label}
    (run : (mcpMachine boost options registry).GuardedRun Fenced labels s) :
    s.NoSurvivor ∧ ∀ label s', (mcpMachine boost options registry).step s label = some s' →
      ∀ j : Nat, s.closes[j]? = some (.release 0) → s'.closes[j]? = some (.release 0) := by
  have fences : s.Fences := by
    apply run.reachableInvariant
    · intro s begun
      subst begun
      refine ⟨List.Pairwise.nil, ?_, fun _ => rfl, ?_⟩
      · intro j cancel found
        cases found
      · rintro j left (found | found)
        · cases found
        · cases found
    · intro s label next reachable fences fenced stepped
      exact (steps_of_reachable reachable stepped).fences fences
        (entryLinks_of_reachable reachable) fenced
  constructor
  · constructor
    · intro j returned
      exact fences.swept (fences.sweeps j 0 (.inr returned))
    · intro i j listen cancel _ _ _ found _ _ _ entry stored _ _
      exact fences.passed j cancel found entry stored
  · intro label s' stepped j returned
    exact (steps_of_reachable run.reachable stepped).close_final returned

/-- A test for the condition, which asks for more than it does. -/
def fencedTest (s : McpServer) (label : Label) : Bool :=
  (actor label).all fun i => (s.calls[i]?).all fun call =>
    match call.pc with
    | .listenInsert _ _ =>
      !s.swept && s.subscriptions.isEmpty && s.calls.all fun cancel => !cancel.seen.contains i
    | _ => true

/-- A step that passes the test meets the condition. -/
theorem fenced_of_test (test : s.fencedTest label = true) : s.Fenced label := by
  intro i call id uris actor found place
  unfold fencedTest at test
  rw [actor, Option.all_some, found, Option.all_some, place] at test
  simp only [Bool.and_eq_true, Bool.not_eq_true', List.isEmpty_iff, List.all_eq_true,
    List.contains_eq_mem, decide_eq_false_iff_not] at test
  obtain ⟨⟨unswept, empty⟩, unseen⟩ := test
  refine ⟨unswept, fun j cancel stored => unseen cancel (List.mem_of_getElem? stored), ?_⟩
  rw [empty]
  exact List.forall_mem_nil _

/-- A listen, a cancel behind it, and a close. -/
theorem no_survivor_cancelled : ∃ s labels, sampleMachine.GuardedRun Fenced labels s ∧
    s.closes = [.release 0] ∧ s.calls.map Call.seen = [[], [0]] ∧ s.NoSurvivor := by
  have begun : sampleMachine.start {} := rfl
  obtain ⟨s, run, done⟩ := Machine.exists_guardedRun
    (listenSteps 8 ++ [.frame 0 cancelFrame, .act 1 false, .act 1 false, .close, .actClose 0,
      .actClose 0, .actClose 0]) fencedTest
    (fun s : McpServer => decide (s.closes = [.release 0]) &&
      decide (s.calls.map Call.seen = [[], [0]])) begun (by decide +kernel)
  obtain ⟨closes, seen⟩ := Bool.and_eq_true_iff.mp done
  have fenced : sampleMachine.GuardedRun Fenced _ s := run.mono fun _ _ => fenced_of_test
  exact ⟨s, _, fenced, of_decide_eq_true closes, of_decide_eq_true seen, (no_survivor fenced).1⟩

/-- A listen inserts its subscription behind a cancel that has looked for it; and one behind a
`Close` that has returned. -/
theorem no_survivor_fails :
    (∃ s, sampleMachine.Reachable s ∧ s.closes = [] ∧ ¬s.NoSurvivor) ∧
      ∃ s, sampleMachine.Reachable s ∧ s.closes = [.release 0] ∧ ¬s.NoSurvivor := by
  have begun : sampleMachine.start {} := rfl
  constructor
  · obtain ⟨s, reachable, late⟩ := Machine.exists_reachable
      (listenSteps 5 ++ [.frame 0 cancelFrame, .act 1 false, .act 1 false, .act 1 false,
        .act 1 false, .act 1 false, .act 1 false, .act 0 false, .act 0 false, .act 0 false,
        .act 0 false, .act 0 false, .act 0 false])
      (fun s : McpServer => decide (s.closes = [] ∧
          s.subscriptions.map (fun entry => (entry.session, entry.listenId, entry.opener)) =
            [(0, .string (text "x"), 0)] ∧
          s.calls.map (fun call => (call.session, call.detectedId, call.seen)) =
            [(0, some (.string (text "x")), []), (0, none, [0])]) &&
        s.calls.all fun call => call.pc.outcome.isSome) begun
      (by decide +kernel)
    obtain ⟨facts, returned⟩ := Bool.and_eq_true_iff.mp late
    obtain ⟨closes, table, calls⟩ := of_decide_eq_true facts
    have over' (call : Call) (member : call ∈ s.calls) : ∃ outcome, call.pc = .returned outcome := by
      obtain ⟨outcome, there⟩ :=
        Option.isSome_iff_exists.mp (all_eq_true.mp returned call member)
      exact ⟨outcome, CallPc.of_outcome there⟩
    obtain ⟨entry, _, entries, opened, _⟩ := map_eq_cons_iff.mp table
    obtain ⟨listen, rest, calls, first, others⟩ := map_eq_cons_iff.mp calls
    obtain ⟨cancel, _, rest, second, _⟩ := map_eq_cons_iff.mp others
    simp only [Prod.mk.injEq] at opened first second
    have found : s.calls[0]? = some listen := by rw [calls]; rfl
    have found' : s.calls[1]? = some cancel := by rw [calls, rest]; rfl
    obtain ⟨outcome, ended⟩ := over' listen (mem_of_getElem? found)
    obtain ⟨outcome', ended'⟩ := over' cancel (mem_of_getElem? found')
    refine ⟨s, reachable, closes, fun none' => ?_⟩
    have seen : 0 ∈ cancel.seen := by rw [second.2.2]; exact mem_singleton_self 0
    apply none'.cancelled 0 1 listen cancel outcome outcome' found found' seen ended ended' entry
    · rw [entries]
      exact mem_cons_self
    · exact opened.1.trans first.1.symm
    · rw [first.2.1, opened.2.1]
    · rw [opened.2.2]
      exact seen
  · obtain ⟨s, reachable, late⟩ := Machine.exists_reachable
      (listenSteps 5 ++ [.close, .actClose 0, .actClose 0, .actClose 0, .act 0 false])
      (fun s : McpServer => decide (s.closes = [.release 0]) && !s.subscriptions.isEmpty) begun
      (by decide +kernel)
    obtain ⟨closes, filled⟩ := Bool.and_eq_true_iff.mp late
    have returned := of_decide_eq_true closes
    refine ⟨s, reachable, returned, fun none' => ?_⟩
    rw [none'.closed 0 (by rw [returned]; rfl)] at filled
    cases filled

end McpServer

end BbtInfra.Mcp
