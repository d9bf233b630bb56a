import BbtInfra.Mcp.Owners

/-!
# The subscriptions and those who end them

An entry is in the table, or with a cancel or an end that has taken it out and has not yet sent its
end frame. Every entry was opened by one call, in the session and under the id of that call.
-/
namespace BbtInfra.Mcp

open Lib List

/-- The entry that a cancel has taken out and not yet ended. -/
def CallPc.emitting : CallPc → Option SubscriptionEntry
  | .cancelEmit entry => some entry
  | _ => none

/-- The entries that an end has taken out and not yet ended. -/
def EndPc.emitting : EndPc → List SubscriptionEntry
  | .emit entries _ => entries
  | _ => []

/-- An entry, whether its acknowledgement is marked or not. -/
def SubscriptionEntry.Same (old new : SubscriptionEntry) : Prop :=
  new = { old with ackSent := new.ackSent }

/-- An entry is the same as itself. -/
theorem SubscriptionEntry.Same.refl (entry : SubscriptionEntry) : entry.Same entry := rfl

namespace McpServer

/-- An entry was taken out, and its end frame is still to come. -/
def Taken (s : McpServer) (entry : SubscriptionEntry) : Prop :=
  (∃ (i : Nat) (call : Call), s.calls[i]? = some call ∧ call.pc.emitting = some entry) ∨
    ∃ (j : Nat) (ending : EndAll), s.ends[j]? = some ending ∧ entry ∈ ending.pc.emitting

/-- The end frame of an entry is still to come. -/
def Owes (s : McpServer) (entry : SubscriptionEntry) : Prop :=
  entry ∈ s.subscriptions ∨ s.Taken entry

/-- The entry that a listen puts into the table. -/
def newEntry (s : McpServer) (i : Nat) (call : Call) (id : RequestId) (uris : List Bytes) :
    SubscriptionEntry :=
  { token := s.nextToken, listenId := id, session := call.session, resourceUris := uris, opener := i }

variable {boost : Bytes → Nat → Except JsonFault JsonValue} {options : ServerOptions}
  {registry : Registry} {s s' : McpServer} {i : Nat} {call : Call} {late : Bool}
  {entry : SubscriptionEntry}

/-- A call that takes no entry out leaves those that were taken. -/
theorem Taken.of_call (taken : s'.Taken entry) (call' : Call) (calls : s'.calls = s.calls.set i call')
    (ends : s'.ends = s.ends) (quiet : call'.pc.emitting = none) : s.Taken entry := by
  rcases taken with ⟨j, other, found, emits⟩ | ⟨j, ending, found, emits⟩
  · rw [calls] at found
    rcases getElem?_set_cases found with ⟨_, rfl⟩ | old
    · rw [quiet] at emits
      cases emits
    · exact .inl ⟨j, other, old, emits⟩
  · rw [ends] at found
    exact .inr ⟨j, ending, found, emits⟩

/-- An end that takes no entry out leaves those that were taken. -/
theorem Taken.of_end (taken : s'.Taken entry) {j : Nat} {ending : EndAll}
    (present : s.ends[j]? = some ending) (ending' : EndAll) (calls : s'.calls = s.calls)
    (ends : s'.ends = s.ends.set j ending')
    (fewer : ∀ entry ∈ ending'.pc.emitting, entry ∈ ending.pc.emitting) : s.Taken entry := by
  rcases taken with ⟨i, other, found, emits⟩ | ⟨k, other, found, emits⟩
  · rw [calls] at found
    exact .inl ⟨i, other, found, emits⟩
  · rw [ends] at found
    rcases getElem?_set_cases found with ⟨_, rfl⟩ | old
    · exact .inr ⟨j, ending, present, fewer entry emits⟩
    · exact .inr ⟨k, other, old, emits⟩

/-- A move of its own takes no entry out. -/
theorem moves_emitting {before pc : CallPc}
    (moves : Moves boost options registry s call before pc) : pc.emitting = none := by
  cases moves with
  | dispatched pc dispatched =>
    cases dispatched with
    | asked request dispatched => cases dispatched <;> rfl
    | _ => rfl
  | _ => rfl

/-- An entry of the table whose acknowledgement is being marked. -/
def Marks (s : McpServer) (token : Nat) (entry : SubscriptionEntry) : Prop :=
  ∃ old ∈ s.subscriptions, old.token = token ∧ entry = { old with ackSent := true }

/-- What is owed after a step of a call was owed before, or the call has just marked or opened
it. -/
theorem Acts.owes {before : CallPc} (acts : Acts boost options registry s i call late before s')
    (owes : s'.Owes entry) : s.Owes entry ∨
      (∃ token, before = .mark token ∧ s.Marks token entry) ∨
      ∃ id uris, before = .listenInsert id uris ∧ entry = s.newEntry i call id uris := by
  -- A step that neither marks nor opens a subscription, nor takes one out.
  have onward (call' : Call) (calls : s'.calls = s.calls.set i call') (ends : s'.ends = s.ends)
      (table : s'.subscriptions = s.subscriptions) (quiet : call'.pc.emitting = none) :
      s.Owes entry ∨ (∃ token, before = .mark token ∧ s.Marks token entry) ∨
        ∃ id uris, before = .listenInsert id uris ∧ entry = s.newEntry i call id uris := by
    left
    rcases owes with stored | taken
    · exact .inl (table ▸ stored)
    · exact .inr (taken.of_call call' calls ends quiet)
  cases acts with
  | moved before pc moves => exact onward { call with pc } rfl rfl rfl (moves_emitting moves)
  | inserted id uris =>
    rcases owes with stored | taken
    · rcases mem_append.mp stored with old | new
      · exact .inl (.inl old)
      · exact .inr (.inr ⟨id, uris, rfl, mem_singleton.mp new⟩)
    · exact .inl (.inr (taken.of_call
        { call with pc := .acknowledge s.nextToken id uris, opened := true } rfl rfl rfl))
  | acknowledged token =>
    exact onward { call with pc := .mark token } (congrArg (set · i _) (deliver_calls _))
      (deliver_ends _) (deliver_subscriptions _) rfl
  | marked token =>
    rcases owes with stored | taken
    · obtain ⟨old, before, rfl⟩ := mem_map.mp stored
      by_cases same : old.token = token
      · exact .inr (.inl ⟨token, rfl, old, before, same, if_pos same⟩)
      · exact .inl (.inl (by rw [if_neg same]; exact before))
    · exact .inl (.inr (taken.of_call { call with pc := .settle (.ok none) } rfl rfl rfl))
  | ended id entry' stored' =>
    left
    rcases owes with stored | ⟨j, other, found, emits⟩ | ends
    · exact .inl (mem_of_mem_erase stored)
    · rcases getElem?_set_cases found with ⟨_, rfl⟩ | old
      · cases emits
        exact .inl stored'
      · exact .inr (.inl ⟨j, other, old, emits⟩)
    · exact .inr (.inr ends)
  | announced entry' =>
    exact onward { call with pc := .cancelReturn entry'.listenId }
      (congrArg (set · i _) (deliver_calls _)) (deliver_ends _) (deliver_subscriptions _) rfl
  | _ => exact onward _ rfl rfl rfl rfl

/-- What is owed after a step was owed before, or a listen has just marked or opened it. -/
theorem Steps.owes {label : Label} (steps : Steps boost options registry s label s')
    (owes : s'.Owes entry) : s.Owes entry ∨
      (∃ i call token, actor label = some i ∧ s.calls[i]? = some call ∧ call.pc = .mark token ∧
        s.Marks token entry) ∨
      ∃ i call id uris, actor label = some i ∧ s.calls[i]? = some call ∧
        call.pc = .listenInsert id uris ∧ entry = s.newEntry i call id uris := by
  cases steps with
  | acted i call late label next found origin acts =>
    have actor := actor_of_origin origin
    rcases acts.owes owes with old | ⟨token, place, marks⟩ | ⟨id, uris, place, new⟩
    · exact .inl old
    · exact .inr (.inl ⟨i, call, token, actor, found, place, marks⟩)
    · exact .inr (.inr ⟨i, call, id, uris, actor, found, place, new⟩)
  | begun session raw known =>
    left
    rcases owes with stored | ⟨j, other, found, emits⟩ | ends
    · exact .inl stored
    · rcases getElem?_push_cases found with ⟨_, rfl⟩ | old
      · unfold newCall at emits
        dsimp only at emits
        split at emits <;> cases emits
      · exact .inr (.inl ⟨j, other, old, emits⟩)
    · exact .inr (.inr ends)
  | ends session =>
    left
    rcases owes with stored | calls | ⟨j, other, found, emits⟩
    · exact .inl stored
    · exact .inr (.inl calls)
    · rcases getElem?_push_cases found with ⟨_, rfl⟩ | old
      · cases emits
      · exact .inr (.inr ⟨j, other, old, emits⟩)
  | took j ending present place =>
    left
    rcases owes with stored | calls | ⟨k, other, found, emits⟩
    · exact .inl (mem_filter.mp stored).1
    · exact .inr (.inl calls)
    · rcases getElem?_set_cases found with ⟨_, rfl⟩ | old
      · exact .inl (mem_filter.mp emits).1
      · exact .inr (.inr ⟨k, other, old, emits⟩)
  | spent j ending taken present place =>
    left
    rcases owes with stored | taken'
    · exact .inl stored
    · exact .inr (taken'.of_end present { ending with pc := .release taken } rfl rfl
        fun _ emits => by cases emits)
  | emitted j ending entry' rest taken present place =>
    left
    rcases owes with stored | taken'
    · exact .inl ((deliver_subscriptions (s := s) _) ▸ stored)
    · exact .inr (taken'.of_end present { ending with pc := .emit rest taken } (deliver_calls _) rfl
        fun _ emits => by
          rw [place]
          exact mem_cons_of_mem _ emits)
  | gaveBack j ending left present place =>
    left
    rcases owes with stored | taken'
    · exact .inl stored
    · exact .inr (taken'.of_end present { ending with pc := .release left } rfl rfl
        fun _ emits => by cases emits)
  | sent =>
    left
    rcases owes with stored | ⟨j, other, found, emits⟩ | ⟨j, other, found, emits⟩
    · exact .inl ((deliver_subscriptions (s := s) _) ▸ stored)
    · exact .inr (.inl ⟨j, other, (deliver_calls (s := s) _) ▸ found, emits⟩)
    · exact .inr (.inr ⟨j, other, (deliver_ends (s := s) _) ▸ found, emits⟩)
  | swept j found =>
    left
    rcases owes with stored | taken
    · cases stored
    · exact .inr taken
  | _ => exact .inl owes

/-- What is owed after a step is an entry of before, but for its mark, or a listen has just opened
it. -/
theorem Steps.owes_same {label : Label} (steps : Steps boost options registry s label s')
    (owes : s'.Owes entry) : (∃ old, s.Owes old ∧ old.Same entry) ∨
      ∃ i call id uris, actor label = some i ∧ s.calls[i]? = some call ∧
        call.pc = .listenInsert id uris ∧ entry = s.newEntry i call id uris := by
  rcases steps.owes owes with old | ⟨i, call, token, _, _, _, old, stored, _, rfl⟩ | new
  · exact .inl ⟨entry, old, .refl entry⟩
  · exact .inl ⟨old, .inl stored, rfl⟩
  · exact .inr new

/-- Every entry that is owed was opened by a call, in its session and under its id. -/
def EntryLinks (s : McpServer) : Prop :=
  ∀ entry, s.Owes entry → ∃ call, s.calls[entry.opener]? = some call ∧
    call.session = entry.session ∧ call.detectedId = some entry.listenId

/-- The frames of the calls stay, and every call keeps its place in the list. -/
theorem Steps.call_kept {label : Label} (steps : Steps boost options registry s label s')
    {j : Nat} {other : Call} (found : s.calls[j]? = some other) :
    ∃ other', s'.calls[j]? = some other' ∧ other'.session = other.session ∧
      other'.raw = other.raw ∧ other'.detectedId = other.detectedId ∧
      other'.recognized = other.recognized := by
  have same (calls : s'.calls = s.calls) : ∃ other', s'.calls[j]? = some other' ∧
      other'.session = other.session ∧ other'.raw = other.raw ∧
      other'.detectedId = other.detectedId ∧ other'.recognized = other.recognized :=
    ⟨other, calls ▸ found, rfl, rfl, rfl, rfl⟩
  cases steps with
  | acted i call late label next present origin acts =>
    obtain ⟨call', calls, frame⟩ := acts.frame
    rw [calls]
    by_cases mine : i = j
    · subst mine
      cases present.symm.trans found
      exact ⟨call', List.getElem?_set_found present, frame⟩
    · exact ⟨other, (List.getElem?_set_ne mine).trans found, rfl, rfl, rfl, rfl⟩
  | begun session raw known =>
    exact ⟨other, List.getElem?_push_old found, rfl, rfl, rfl, rfl⟩
  | sent | emitted => exact same (deliver_calls _)
  | _ => exact same rfl

/-- Every step keeps the links of the entries. -/
theorem Steps.entryLinks (links : s.EntryLinks) (shaped : s.Shaped boost options) {label : Label}
    (steps : Steps boost options registry s label s') : s'.EntryLinks := by
  intro entry owes
  rcases steps.owes_same owes with ⟨old, before, same⟩ | ⟨i, call, id, uris, _, found, place, rfl⟩
  · obtain ⟨call, found, session, detected⟩ := links old before
    obtain ⟨call', found', session', _, detected', _⟩ := steps.call_kept found
    rw [same]
    exact ⟨call', found', session'.trans session, detected'.trans detected⟩
  · obtain ⟨call', found', session', _, detected', _⟩ := steps.call_kept found
    have shape := (shaped i call found).2
    have asked := shape.asked (by rw [place]; exact fun h => h)
    have request := shape.request asked
    rw [place] at request
    exact ⟨call', found', session', detected'.trans request.1⟩

/-- The entries of a reachable server. -/
theorem entryLinks_of_reachable (reachable : (mcpMachine boost options registry).Reachable s) :
    s.EntryLinks := by
  obtain ⟨labels, run⟩ := reachable
  apply run.reachableInvariant
  · intro s begun
    subst begun
    rintro entry (stored | ⟨i, call, found, _⟩ | ⟨j, ending, found, _⟩)
    · cases stored
    · cases found
    · cases found
  · intro s label next reachable links _ stepped
    exact (steps_of_reachable reachable stepped).entryLinks links (shaped_of_reachable reachable)

end McpServer

end BbtInfra.Mcp
