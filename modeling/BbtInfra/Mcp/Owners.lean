import BbtInfra.Mcp.CallShape

/-!
# The owners of the requests

An owner belongs to one call. Its terminal state is set once, by its call or by a cancel or a close,
and it leaves the table before its call returns.
-/
namespace BbtInfra.Mcp

open Lib List

/-- A terminal state that another thread sets. -/
def Terminal.Forced (terminal : Terminal) : Prop := terminal = .cancelled ∨ terminal = .closed

/-- What may become of an owner: a terminal state is final, and one that is not forced is set by the
call of the owner. -/
structure RequestOwner.Keeps (record record' : RequestOwner) (own : Prop) : Prop where
  requestId : record'.requestId = record.requestId
  session : record'.session = record.session
  terminal : record'.terminal = record.terminal ∨
    (record.terminal = .none' ∧ (record'.terminal.Forced ∨ own))

namespace RequestOwner

variable {record next last : RequestOwner} {own : Prop}

/-- An owner that is left alone. -/
theorem Keeps.refl (record : RequestOwner) (own : Prop) : record.Keeps record own :=
  ⟨rfl, rfl, .inl rfl⟩

/-- Two changes of an owner. -/
theorem Keeps.trans (first : record.Keeps next own) (second : next.Keeps last own) :
    record.Keeps last own where
  requestId := second.requestId.trans first.requestId
  session := second.session.trans first.session
  terminal := by
    rcases second.terminal with same | ⟨unset, set⟩
    · rw [same]
      exact first.terminal
    · rcases first.terminal with same | ⟨unset', _⟩
      · exact .inr ⟨same ▸ unset, set⟩
      · exact .inr ⟨unset', set⟩

/-- `TryFinish` by the call of the owner. -/
theorem tryFinish_keeps (record : RequestOwner) (kind : Terminal) (own : Prop) (mine : own) :
    record.Keeps (record.tryFinish kind) own := by
  unfold tryFinish
  split
  next unset => exact ⟨rfl, rfl, .inr ⟨unset, .inr mine⟩⟩
  · exact .refl record own

/-- A cancel or a close of the owner. -/
theorem stop_keeps (record : RequestOwner) (kind : Terminal) (own : Prop) (forced : kind.Forced) :
    record.Keeps (record.stop kind) own := by
  unfold stop tryFinish
  split
  next unset => exact ⟨rfl, rfl, .inr ⟨unset, .inl forced⟩⟩
  · exact ⟨rfl, rfl, .inl rfl⟩

end RequestOwner

namespace McpServer

variable {boost : Bytes → Nat → Except JsonFault JsonValue} {options : ServerOptions}
  {registry : Registry} {s s' : McpServer} {i : Nat} {call : Call} {late : Bool}

variable {owner : Nat} {record : RequestOwner} {before : CallPc} {label : Label}

/-- Owners that are rewritten one by one. -/
theorem modify_keeps {owners : List RequestOwner} {index : Nat}
    {f : RequestOwner → RequestOwner} {own : Prop} (found : owners[owner]? = some record)
    (keeps : owner = index → record.Keeps (f record) own) :
    ∃ record', (owners.modify index f)[owner]? = some record' ∧ record.Keeps record' own := by
  rw [getElem?_modify, found]
  by_cases here : index = owner
  · exact ⟨f record, by simp only [here, if_true, Option.map_eq_map, Option.map_some],
      keeps here.symm⟩
  · exact ⟨record, by simp only [here, if_false, Option.map_eq_map, Option.map_some],
      .refl record own⟩

/-- The owners of a table are rewritten. -/
theorem foldl_modify_keeps {f : RequestOwner → RequestOwner} {own : Prop}
    (keeps : ∀ record : RequestOwner, record.Keeps (f record) own) (table : List Nat)
    {owners : List RequestOwner} (found : owners[owner]? = some record) :
    ∃ record', (table.foldl (fun owners owner => owners.modify owner f) owners)[owner]? =
      some record' ∧ record.Keeps record' own := by
  induction table generalizing owners record with
  | nil => exact ⟨record, found, .refl record own⟩
  | cons first rest ih =>
    have once : ∃ middle, (owners.modify first f)[owner]? = some middle ∧
        record.Keeps middle own := modify_keeps found fun _ => keeps record
    obtain ⟨middle, between, before⟩ := once
    obtain ⟨last, after, behind⟩ := ih between
    exact ⟨last, after, before.trans behind⟩

/-- What a step of a call does to an owner. -/
theorem Acts.owners (acts : Acts boost options registry s i call late before s')
    (found : s.owners[owner]? = some record) :
    ∃ record', s'.owners[owner]? = some record' ∧
      record.Keeps record' (call.owner = some owner) := by
  have own (mine : Nat) (kind : Terminal) (present : call.owner = some mine) :
      ∃ record', (s.tryFinish mine kind).owners[owner]? = some record' ∧
        record.Keeps record' (call.owner = some owner) :=
    modify_keeps found fun here => record.tryFinish_keeps kind _ (here ▸ present)
  cases acts with
  | registered => exact ⟨record, getElem?_push_old found, .refl _ _⟩
  | acknowledged | announced =>
    exact ⟨record, (congrArg (·[owner]?) (deliver_owners _)).trans found, .refl _ _⟩
  | flips victim rest =>
    exact modify_keeps found fun _ => record.stop_keeps .cancelled _ (.inl rfl)
  | completed outcome mine present => exact own mine _ present
  | closes mine present => exact own mine _ present
  | expired response mine present => exact own mine _ present
  | answered response mine present => exact own mine _ present
  | _ => exact ⟨record, found, .refl _ _⟩

/-- The call that a label is a step of. -/
def actor : Label → Option Nat
  | .act i _ | .reply i _ => some i
  | _ => none

/-- The step of a call is labelled with it. -/
theorem actor_of_origin
    (origin : label = .act i late ∨ (late = false ∧ ∃ reply, label = .reply i reply)) :
    actor label = some i := by
  rcases origin with rfl | ⟨_, reply, rfl⟩ <;> rfl

/-- What a step does to an owner. -/
theorem Steps.owners (steps : Steps boost options registry s label s')
    (found : s.owners[owner]? = some record) :
    ∃ record', s'.owners[owner]? = some record' ∧
      record.Keeps record' (∃ i call, actor label = some i ∧ s.calls[i]? = some call ∧
        call.owner = some owner) := by
  cases steps with
  | acted i call late label next present origin acts =>
    obtain ⟨record', found', keeps⟩ := acts.owners found
    refine ⟨record', found', keeps.requestId, keeps.session, ?_⟩
    rcases keeps.terminal with same | ⟨unset, forced | own⟩
    · exact .inl same
    · exact .inr ⟨unset, .inl forced⟩
    · exact .inr ⟨unset, .inr ⟨i, call, actor_of_origin origin, present, own⟩⟩
  | cleared => exact foldl_modify_keeps (fun record => record.stop_keeps .closed _ (.inr rfl)) _ found
  | sent | emitted =>
    exact ⟨record, (congrArg (·[owner]?) (deliver_owners _)).trans found, .refl _ _⟩
  | _ => exact ⟨record, found, .refl _ _⟩

/-- The owners, their calls and the table of those that are in flight. -/
structure OwnerLinks (s : McpServer) : Prop where
  linked : ∀ (i : Nat) (call : Call) (owner : Nat), s.calls[i]? = some call →
    call.owner = some owner → ∃ record, s.owners[owner]? = some record ∧
      record.requestId = call.detectedId.getD .default' ∧ record.session = call.session
  separate : ∀ (i j : Nat) (call other : Call) (owner : Nat), s.calls[i]? = some call →
    s.calls[j]? = some other → call.owner = some owner → other.owner = some owner → i = j
  kept : ∀ owner ∈ s.requestOwners, ∃ (i : Nat) (call : Call), s.calls[i]? = some call ∧
    call.owner = some owner ∧ call.pc.owned = true

/-- A step that gives no call an owner. -/
theorem OwnerLinks.stay (links : s.OwnerLinks)
    (owners : ∀ (owner : Nat) (record : RequestOwner), s.owners[owner]? = some record →
      ∃ record', s'.owners[owner]? = some record' ∧ record'.requestId = record.requestId ∧
        record'.session = record.session)
    (calls : ∀ (i : Nat) (call' : Call) (owner : Nat), s'.calls[i]? = some call' →
      call'.owner = some owner → ∃ call, s.calls[i]? = some call ∧ call.owner = some owner ∧
        call'.detectedId = call.detectedId ∧ call'.session = call.session)
    (kept : ∀ owner ∈ s'.requestOwners, ∃ (i : Nat) (call : Call), s'.calls[i]? = some call ∧
      call.owner = some owner ∧ call.pc.owned = true) : s'.OwnerLinks where
  linked i call' owner found present := by
    obtain ⟨call, before, had, detected, session⟩ := calls i call' owner found present
    obtain ⟨record, stored, id, belongs⟩ := links.linked i call owner before had
    obtain ⟨record', stored', id', belongs'⟩ := owners owner record stored
    refine ⟨record', stored', ?_, ?_⟩
    · rw [id', id, detected]
    · rw [belongs', belongs, session]
  separate i j call' other' owner found found' present present' := by
    obtain ⟨call, before, had, _⟩ := calls i call' owner found present
    obtain ⟨other, before', had', _⟩ := calls j other' owner found' present'
    exact links.separate i j call other owner before before' had had'
  kept := kept

/-- A step of a call that keeps its owner, and its place among the owned while the owner is in the
table. -/
theorem OwnerLinks.book (links : s.OwnerLinks) (found : s.calls[i]? = some call) (call' : Call)
    (owners : ∀ (owner : Nat) (record : RequestOwner), s.owners[owner]? = some record →
      ∃ record', s'.owners[owner]? = some record' ∧
        record.Keeps record' (call.owner = some owner))
    (calls : s'.calls = s.calls.set i call') (mine : call'.owner = call.owner)
    (detected : call'.detectedId = call.detectedId) (session : call'.session = call.session)
    (kept : ∀ owner ∈ s'.requestOwners, owner ∈ s.requestOwners ∧
      (call.owner = some owner → call.pc.owned = true → call'.pc.owned = true)) :
    s'.OwnerLinks := by
  have here : s'.calls[i]? = some call' := by
    rw [calls, List.getElem?_set_found found]
  apply links.stay
  · intro owner record stored
    obtain ⟨record', stored', keeps⟩ := owners owner record stored
    exact ⟨record', stored', keeps.requestId, keeps.session⟩
  · intro j other owner found' present
    rw [calls] at found'
    rcases List.getElem?_set_cases found' with ⟨rfl, rfl⟩ | old
    · exact ⟨call, found, mine ▸ present, detected, session⟩
    · exact ⟨other, old, present, rfl, rfl⟩
  · intro owner member
    obtain ⟨old, stays⟩ := kept owner member
    obtain ⟨j, other, stored, owns, owned⟩ := links.kept owner old
    by_cases same : j = i
    · subst same
      rw [found] at stored
      cases stored
      exact ⟨j, call', here, mine.trans owns, stays owns owned⟩
    · refine ⟨j, other, ?_, owns, owned⟩
      rw [calls, List.getElem?_set_ne (Ne.symm same)]
      exact stored

/-- A call with an owner stays among the owned over a move of its own. -/
theorem moves_owned {pc : CallPc} (moves : Moves boost options registry s call before pc)
    (present : call.owner = some owner) (owned : before.owned = true) : pc.owned = true := by
  cases moves with
  | refused => cases owned
  | duplicate => cases owned
  | dispatched pc dispatched =>
    cases dispatched with
    | asked request dispatched => cases dispatched <;> rfl
    | _ => rfl
  | ownerless outcome ownerless | bare response ownerless | crashed ownerless =>
    rw [present] at ownerless
    cases ownerless
  | _ => rfl

/-- Every step of a call keeps the links. -/
theorem Acts.links (links : s.OwnerLinks) (shaped : call.Shaped boost options)
    (found : s.calls[i]? = some call) (place : call.pc = before)
    (acts : Acts boost options registry s i call late before s') : s'.OwnerLinks := by
  have owners (owner : Nat) (record : RequestOwner) (present : s.owners[owner]? = some record) :
      ∃ record', s'.owners[owner]? = some record' ∧
        record.Keeps record' (call.owner = some owner) := acts.owners present
  -- A step that leaves the table, or takes owners out of it.
  have onward (call' : Call) (calls : s'.calls = s.calls.set i call') (mine : call'.owner = call.owner)
      (detected : call'.detectedId = call.detectedId) (session : call'.session = call.session)
      (fewer : ∀ owner ∈ s'.requestOwners, owner ∈ s.requestOwners)
      (owned : call'.pc.owned = true ∨ before.owned = false) : s'.OwnerLinks := by
    apply links.book found call' owners calls mine detected session
    intro owner member
    refine ⟨fewer owner member, fun _ there => ?_⟩
    rcases owned with owned | unowned
    · exact owned
    · rw [place, unowned] at there
      cases there
  cases acts with
  | moved before pc moves =>
    apply links.book found { call with pc } owners rfl rfl rfl rfl
    intro owner member
    exact ⟨member, fun present owned => moves_owned moves present (place ▸ owned)⟩
  | admitted => exact onward { call with pc := .register } rfl rfl rfl rfl (fun _ h => h) (.inr rfl)
  | registered free =>
    have unowned := shaped.fresh (by rw [place]; rfl)
    have bounded (j : Nat) (other : Call) (owner : Nat) (stored : s.calls[j]? = some other)
        (owns : other.owner = some owner) : owner < s.owners.length := by
      obtain ⟨record, present, _⟩ := links.linked j other owner stored owns
      exact (List.getElem?_eq_some_iff.mp present).1
    constructor
    · intro j other owner found' owns
      rcases List.getElem?_set_cases found' with ⟨rfl, rfl⟩ | old
      · cases owns
        exact ⟨_, List.getElem?_concat_length, rfl, rfl⟩
      · obtain ⟨record, stored, id, session⟩ := links.linked j other owner old owns
        exact ⟨record, List.getElem?_push_old stored, id, session⟩
    · intro j k other third owner found' found'' owns owns'
      rcases List.getElem?_set_cases found' with ⟨rfl, rfl⟩ | old
      · rcases List.getElem?_set_cases found'' with ⟨rfl, _⟩ | old'
        · rfl
        · cases owns
          exact absurd (bounded k third _ old' owns') (Nat.lt_irrefl _)
      · rcases List.getElem?_set_cases found'' with ⟨rfl, rfl⟩ | old'
        · cases owns'
          exact absurd (bounded j other _ old owns) (Nat.lt_irrefl _)
        · exact links.separate j k other third owner old old' owns owns'
    · intro owner member
      rcases List.mem_append.mp member with old | new
      · obtain ⟨j, other, stored, owns, owned⟩ := links.kept owner old
        have apart : i ≠ j := by
          rintro rfl
          rw [found] at stored
          cases stored
          rw [unowned] at owns
          cases owns
        exact ⟨j, other, (List.getElem?_set_ne apart).trans stored, owns, owned⟩
      · rw [List.mem_singleton] at new
        subst new
        exact ⟨i, _, List.getElem?_set_found found, rfl, rfl⟩
  | stated before outcome =>
    exact onward { call with pc := .settle outcome } rfl rfl rfl rfl (fun _ h => h) (.inl rfl)
  | reserved id uris =>
    exact onward { call with pc := .listenInsert id uris } rfl rfl rfl rfl (fun _ h => h) (.inl rfl)
  | inserted id uris =>
    exact onward { call with pc := .acknowledge s.nextToken id uris, opened := true } rfl rfl rfl rfl
      (fun _ h => h) (.inl rfl)
  | acknowledged token =>
    exact onward { call with pc := .mark token } (congrArg (List.set · i _) (deliver_calls _)) rfl
      rfl rfl (fun owner h => (deliver_requestOwners (s := s) _) ▸ h) (.inl rfl)
  | marked token =>
    exact onward { call with pc := .settle (.ok none) } rfl rfl rfl rfl (fun _ h => h) (.inl rfl)
  | looked id =>
    exact onward { call with pc := .cancelOwners id, seen := s.registered call.session id } rfl rfl
      rfl rfl (fun _ h => h) (.inl rfl)
  | ended id entry =>
    exact onward { call with pc := .cancelEmit entry, seen := s.registered call.session id } rfl rfl
      rfl rfl (fun _ h => h) (.inl rfl)
  | announced entry =>
    exact onward { call with pc := .cancelReturn entry.listenId }
      (congrArg (List.set · i _) (deliver_calls _)) rfl rfl rfl
      (fun owner h => (deliver_requestOwners (s := s) _) ▸ h) (.inl rfl)
  | givenBack id =>
    exact onward { call with pc := .cancelOwners id } rfl rfl rfl rfl (fun _ h => h) (.inl rfl)
  | erased id =>
    exact onward
      { call with pc := .cancelFlip (s.requestOwners.filter (s.ownedBy call.session id)) } rfl rfl
      rfl rfl (fun owner h => (List.mem_filter.mp h).1) (.inl rfl)
  | flips victim rest =>
    exact onward { call with pc := .cancelFlip rest } rfl rfl rfl rfl (fun _ h => h) (.inl rfl)
  | completed outcome =>
    exact onward { call with pc := .retire outcome } rfl rfl rfl rfl (fun _ h => h) (.inl rfl)
  | closes =>
    exact onward { call with pc := .retire (.error closedCoreError) } rfl rfl rfl rfl
      (fun _ h => h) (.inl rfl)
  | expired => exact onward _ rfl rfl rfl rfl (fun _ h => h) (.inl rfl)
  | answered response =>
    exact onward { call with pc := .retire (.ok (some response)) } rfl rfl rfl rfl (fun _ h => h)
      (.inl rfl)
  | retired outcome =>
    apply links.book found { call with pc := .release outcome } owners rfl rfl rfl rfl
    intro owner member
    obtain ⟨old, other⟩ := List.mem_filter.mp member
    exact ⟨old, fun mine => absurd mine (of_decide_eq_true other)⟩
  | left outcome =>
    exact onward { call with pc := .returned outcome } rfl rfl rfl rfl (fun _ h => h) (.inr rfl)

/-- Every step keeps the links. -/
theorem Steps.links (links : s.OwnerLinks) (shaped : s.Shaped boost options)
    (steps : Steps boost options registry s label s') : s'.OwnerLinks := by
  have owners (owner : Nat) (record : RequestOwner) (stored : s.owners[owner]? = some record) :
      ∃ record', s'.owners[owner]? = some record' ∧ record'.requestId = record.requestId ∧
        record'.session = record.session := by
    obtain ⟨record', stored', keeps⟩ := steps.owners stored
    exact ⟨record', stored', keeps.requestId, keeps.session⟩
  -- A step that leaves the calls and adds nothing to the table.
  have stay (calls : s'.calls = s.calls)
      (fewer : ∀ owner ∈ s'.requestOwners, owner ∈ s.requestOwners) : s'.OwnerLinks := by
    apply links.stay owners
    · intro i call owner found present
      exact ⟨call, calls ▸ found, present, rfl, rfl⟩
    · intro owner member
      rw [calls]
      exact links.kept owner (fewer owner member)
  cases steps with
  | acted i call late label next found origin acts =>
    exact acts.links links (shaped i call found).2 found rfl
  | begun session raw known =>
    apply links.stay owners
    · intro i call owner found present
      rcases getElem?_push_cases found with ⟨_, rfl⟩ | old
      · cases present
      · exact ⟨call, old, present, rfl, rfl⟩
    · intro owner member
      obtain ⟨i, call, stored, owns, owned⟩ := links.kept owner member
      exact ⟨i, call, getElem?_push_old stored, owns, owned⟩
  | sent | emitted =>
    exact stay (deliver_calls _) fun owner h => (deliver_requestOwners (s := s) _) ▸ h
  | cleared => exact stay rfl fun owner h => by cases h
  | _ => exact stay rfl fun _ h => h

/-- The owners of a reachable server. -/
theorem links_of_reachable (reachable : (mcpMachine boost options registry).Reachable s) :
    s.OwnerLinks := by
  obtain ⟨labels, run⟩ := reachable
  apply run.reachableInvariant
  · intro s begun
    subst begun
    constructor
    · intro i call owner found
      cases found
    · intro i j call other owner found
      cases found
    · intro owner member
      cases member
  · intro s label next reachable links _ stepped
    exact (steps_of_reachable reachable stepped).links links (shaped_of_reachable reachable)

/-- When every call has returned, no owner is in the table. -/
theorem OwnerLinks.empty (links : s.OwnerLinks)
    (returned : ∀ call ∈ s.calls, ∃ outcome, call.pc = .returned outcome) :
    s.requestOwners = [] := by
  apply eq_nil_iff_forall_not_mem.mpr
  intro owner member
  obtain ⟨i, call, found, _, owned⟩ := links.kept owner member
  obtain ⟨outcome, place⟩ := returned call (mem_of_getElem? found)
  rw [place] at owned
  cases owned

end McpServer

end BbtInfra.Mcp
