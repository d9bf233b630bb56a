import BbtInfra.Mcp.FrameDiscipline
import BbtInfra.Mcp.Subscriptions

/-!
# One request for one id

A request is in flight until its owner has a terminal state, and a subscription until its end frame
is sent. The table of the owners admits an id once. It does not know the subscriptions whose call
has returned, and a cancel takes an owner out of it before it stops the owner.
-/
namespace BbtInfra.Mcp

open Lib List

/-- The owners that a cancel has taken out of the table and not yet stopped. -/
def CallPc.victims : CallPc → List Nat
  | .cancelFlip victims => victims
  | _ => []

namespace McpServer

/-- A request whose answer is still to come, or a subscription whose end is still to come. -/
def InFlight (s : McpServer) (i : Nat) (call : Call) : Prop :=
  (∃ owner, call.owner = some owner ∧ s.terminalOf owner = .none') ∨
    ∃ entry, s.Owes entry ∧ entry.opener = i

/-- In a session, one request at most is in flight under an id. -/
def OneInFlight (s : McpServer) : Prop :=
  ∀ (i j : Nat) (call other : Call) (id : RequestId), s.calls[i]? = some call →
    s.calls[j]? = some other → call.session = other.session → call.detectedId = some id →
    other.detectedId = some id → s.InFlight i call → s.InFlight j other → i = j

/-- The table of the owners has none under this id in this session. -/
def Unlisted (s : McpServer) (session : Nat) (id : RequestId) : Prop :=
  ∀ owner ∈ s.requestOwners, s.ownedBy session id owner = false

/-- A subscription under this id in this session whose end is still to come. -/
def Subscribed (s : McpServer) (session : Nat) (id : RequestId) : Prop :=
  ∃ entry, s.Owes entry ∧ entry.session = session ∧ entry.listenId = id

/-- A call under this id in this session whose owner has no terminal state. -/
def Unfinished (s : McpServer) (session : Nat) (id : RequestId) (i owner : Nat) : Prop :=
  ∃ call, s.calls[i]? = some call ∧ call.session = session ∧ call.detectedId = some id ∧
    call.owner = some owner ∧ s.terminalOf owner = .none'

/-- The table of the owners admits a request only while no subscription under its id is to be ended
and no owner under its id waits for a cancel that has taken it out. A listen whose owner a cancel
has taken out opens its subscription only while nothing else is in flight under its id. -/
def Exclusive (s : McpServer) (label : Label) : Prop :=
  ∀ (i : Nat) (call : Call), actor label = some i → s.calls[i]? = some call →
    (call.pc = .register → ∀ id, call.detectedId = some id → s.Unlisted call.session id →
      ¬s.Subscribed call.session id ∧
        ∀ j owner, s.Unfinished call.session id j owner → owner ∈ s.requestOwners) ∧
    ∀ id uris, call.pc = .listenInsert id uris →
      (∃ owner ∈ s.requestOwners, call.owner = some owner) ∨
        (¬s.Subscribed call.session id ∧
          ∀ j owner, s.Unfinished call.session id j owner → j = i)

variable {boost : Bytes → Nat → Except JsonFault JsonValue} {options : ServerOptions}
  {registry : Registry} {s s' : McpServer} {i : Nat} {call : Call} {late : Bool}

/-- An owner in the table was not stopped, and the owners that a cancel holds are not in it. -/
structure Listed (s : McpServer) : Prop where
  unstopped : ∀ (i : Nat) (call : Call) (owner : Nat), s.calls[i]? = some call →
    call.owner = some owner → owner ∈ s.requestOwners → concluded call.pc = false →
    s.terminalOf owner = .none'
  victims : ∀ (i : Nat) (call : Call), s.calls[i]? = some call → ∀ victim ∈ call.pc.victims,
    victim ∉ s.requestOwners ∧ victim < s.owners.length

/-- A step that puts no owner into the table and stops none that is in it. -/
theorem Listed.book (listed : s.Listed) (links : s.OwnerLinks) (found : s.calls[i]? = some call)
    (call' : Call) (calls : s'.calls = s.calls.set i call') (mine : call'.owner = call.owner)
    (fewer : ∀ owner ∈ s'.requestOwners, owner ∈ s.requestOwners)
    (length : s'.owners.length = s.owners.length)
    (terminal : ∀ owner ∈ s'.requestOwners, s'.terminalOf owner = s.terminalOf owner ∨
      (call.owner = some owner ∧ concluded call'.pc = true))
    (early : concluded call'.pc = false → concluded call.pc = false)
    (victims : ∀ victim ∈ call'.pc.victims, victim ∈ call.pc.victims ∨
      (victim ∈ s.requestOwners ∧ victim ∉ s'.requestOwners)) : s'.Listed := by
  constructor
  · intro j other owner stored owns member running
    rw [calls] at stored
    by_cases here : i = j
    · subst here
      rw [List.getElem?_set_found found] at stored
      cases stored
      rcases terminal owner member with same | ⟨_, behind⟩
      · rw [same]
        exact listed.unstopped i call owner found (mine ▸ owns) (fewer owner member) (early running)
      · rw [running] at behind
        cases behind
    · rw [List.getElem?_set_ne here] at stored
      rcases terminal owner member with same | ⟨owns', _⟩
      · rw [same]
        exact listed.unstopped j other owner stored owns (fewer owner member) running
      · exact absurd (links.separate i j call other owner found stored owns' owns) here
  · intro j other stored victim member
    rw [length]
    rw [calls] at stored
    rcases List.getElem?_set_cases stored with ⟨rfl, rfl⟩ | old
    · rcases victims victim member with before | ⟨before, gone⟩
      · obtain ⟨out, known⟩ := listed.victims j call found victim before
        exact ⟨fun back => out (fewer victim back), known⟩
      · obtain ⟨k, third, present, owns, _⟩ := links.kept victim before
        obtain ⟨record, recorded, _⟩ := links.linked k third victim present owns
        exact ⟨gone, (List.getElem?_eq_some_iff.mp recorded).1⟩
    · obtain ⟨out, known⟩ := listed.victims j other old victim member
      exact ⟨fun back => out (fewer victim back), known⟩

variable {label : Label} {before : CallPc}

/-- A move of its own ends no owner and takes none. -/
theorem moves_listed {pc : CallPc} (moves : Moves boost options registry s call before pc) :
    (concluded pc = false → concluded before = false) ∧ pc.victims = [] := by
  cases moves with
  | dispatched pc dispatched =>
    cases dispatched with
    | asked request dispatched => cases dispatched <;> exact ⟨fun _ => rfl, rfl⟩
    | _ => exact ⟨fun _ => rfl, rfl⟩
  | _ => exact ⟨fun _ => rfl, rfl⟩

/-- Writing to one owner leaves the terminal states of the others. -/
theorem terminalOf_modify {mine owner : Nat} {f : RequestOwner → RequestOwner}
    (owners : s'.owners = s.owners.modify mine f) (apart : mine ≠ owner) :
    s'.terminalOf owner = s.terminalOf owner := by
  unfold terminalOf
  rw [owners, getElem?_modify]
  simp only [apart, if_false, Option.map_eq_map, Option.map_id_fun', id_eq]

/-- Every step of a call leaves the owners in the table unstopped. -/
theorem Acts.listed (listed : s.Listed) (links : s.OwnerLinks) (found : s.calls[i]? = some call)
    (place : call.pc = before)
    (acts : Acts boost options registry s i call late before s') : s'.Listed := by
  -- A step that leaves the table and the owners.
  have onward (call' : Call) (calls : s'.calls = s.calls.set i call') (mine : call'.owner = call.owner)
      (owners : s'.owners = s.owners) (table : s'.requestOwners = s.requestOwners)
      (early : concluded call'.pc = false → concluded before = false)
      (victims : call'.pc.victims = []) : s'.Listed := by
    apply listed.book links found call' calls mine
    · rw [table]
      exact fun _ member => member
    · rw [owners]
    · intro owner _
      left
      unfold terminalOf
      rw [owners]
    · rw [place]
      exact early
    · rw [victims]
      intro victim member
      cases member
  -- A call that ends its owner goes to a place behind the end.
  have conclude (mine : Nat) (kind : Terminal) (outcome : Outcome) (present : call.owner = some mine)
      (early : concluded before = false) :
      ((s.tryFinish mine kind).move i call (.retire outcome)).Listed := by
    refine listed.book links found { call with pc := .retire outcome } rfl rfl
      (fun _ member => member) ?_ ?_ ?_ ?_
    · exact List.length_modify _ _ _
    · intro owner _
      by_cases same : owner = mine
      · exact .inr ⟨same ▸ present, rfl⟩
      · exact .inl (terminalOf_modify rfl (Ne.symm same))
    · rw [place]
      exact fun _ => early
    · intro victim member
      cases member
  cases acts with
  | moved before pc moves =>
    obtain ⟨early, victims⟩ := moves_listed moves
    exact onward { call with pc } rfl rfl rfl rfl early victims
  | registered free =>
    have bounded (j : Nat) (other : Call) (owner : Nat) (stored : s.calls[j]? = some other)
        (owns : other.owner = some owner) : owner < s.owners.length := by
      obtain ⟨record, present, _⟩ := links.linked j other owner stored owns
      exact (List.getElem?_eq_some_iff.mp present).1
    have same (owner : Nat) (known : owner < s.owners.length) (record : RequestOwner)
        (requestOwners : List Nat) (calls : List Call) :
        McpServer.terminalOf
          { s with owners := s.owners ++ [record], requestOwners, calls } owner =
            s.terminalOf owner := by
      unfold terminalOf
      rw [List.getElem?_append_left known]
    constructor
    · intro j other owner stored owns member running
      by_cases here : i = j
      · subst here
        have mine := (List.getElem?_set_found found).symm.trans stored
        cases mine
        cases owns
        unfold terminalOf
        rw [List.getElem?_concat_length]
        rfl
      · have old : s.calls[j]? = some other := (List.getElem?_set_ne here).symm.trans stored
        have known := bounded j other owner old owns
        rcases List.mem_append.mp member with before | new
        · exact (same owner known _ _ _).trans (listed.unstopped j other owner old owns before running)
        · rw [List.mem_singleton] at new
          omega
    · intro j other stored victim member
      rcases List.getElem?_set_cases stored with ⟨_, rfl⟩ | old
      · cases member
      · obtain ⟨out, known⟩ := listed.victims j other old victim member
        constructor
        · intro back
          rcases List.mem_append.mp back with before | new
          · exact out before
          · rw [List.mem_singleton] at new
            omega
        · exact Nat.lt_of_lt_of_le known (List.length_append ▸ Nat.le_add_right _ _)
  | stated before outcome sessions origin =>
    have early : concluded before = false := by
      rcases origin with ⟨rfl, _⟩ | ⟨version, capabilities, rfl⟩ <;> rfl
    exact onward { call with pc := .settle outcome } rfl rfl rfl rfl (fun _ => early) rfl
  | acknowledged token =>
    exact onward { call with pc := .mark token } (congrArg (List.set · i _) (deliver_calls _)) rfl
      (deliver_owners _) (deliver_requestOwners _) (fun _ => rfl) rfl
  | announced entry =>
    exact onward { call with pc := .cancelReturn entry.listenId }
      (congrArg (List.set · i _) (deliver_calls _)) rfl (deliver_owners _) (deliver_requestOwners _)
      (fun _ => rfl) rfl
  | erased id =>
    refine listed.book links found
      { call with pc := .cancelFlip (s.requestOwners.filter (s.ownedBy call.session id)) } rfl rfl
      ?_ ?_ ?_ ?_ ?_
    · exact fun owner member => (List.mem_filter.mp member).1
    · rfl
    · exact fun owner _ => .inl rfl
    · rw [place]
      exact fun _ => rfl
    · intro victim member
      obtain ⟨inside, owned⟩ := List.mem_filter.mp member
      refine .inr ⟨inside, fun back => ?_⟩
      have out := (List.mem_filter.mp back).2
      rw [owned] at out
      cases out
  | flips victim rest =>
    have holds : ∀ other ∈ victim :: rest, other ∉ s.requestOwners := by
      intro other member
      exact (listed.victims i call found other (by rw [place]; exact member)).1
    refine listed.book links found { call with pc := .cancelFlip rest } rfl rfl
      (fun _ member => member) ?_ ?_ ?_ ?_
    · exact List.length_modify _ _ _
    · intro owner member
      left
      have apart : victim ≠ owner := by
        rintro rfl
        exact holds victim List.mem_cons_self member
      exact terminalOf_modify rfl apart
    · rw [place]
      exact fun _ => rfl
    · intro other member
      rw [place]
      exact .inl (List.mem_cons_of_mem _ member)
  | completed outcome mine present => exact conclude mine _ outcome present rfl
  | closes mine present | expired response mine present | answered response mine present =>
    exact conclude mine _ _ present rfl
  | retired outcome =>
    refine listed.book links found { call with pc := .release outcome } rfl rfl ?_ ?_ ?_ ?_ ?_
    · exact fun owner member => (List.mem_filter.mp member).1
    · rfl
    · exact fun owner _ => .inl rfl
    · rw [place]
      exact fun impossible => impossible
    · intro victim member
      cases member
  | left outcome => exact onward _ rfl rfl rfl rfl (fun h => h) rfl
  | _ => exact onward _ rfl rfl rfl rfl (fun _ => rfl) rfl

/-- Every step leaves the owners in the table unstopped. -/
theorem Steps.listed (listed : s.Listed) (links : s.OwnerLinks)
    (steps : Steps boost options registry s label s') : s'.Listed := by
  have stay (calls : s'.calls = s.calls) (owners : s'.owners = s.owners)
      (table : s'.requestOwners = s.requestOwners) : s'.Listed := by
    constructor
    · intro i call owner
      unfold terminalOf
      rw [calls, owners, table]
      exact listed.unstopped i call owner
    · rw [calls, owners, table]
      exact listed.victims
  cases steps with
  | acted i call late label next found origin acts => exact acts.listed listed links found rfl
  | begun session raw known =>
    constructor
    · intro j other owner stored owns member running
      rcases List.getElem?_push_cases stored with ⟨_, rfl⟩ | old
      · cases owns
      · exact listed.unstopped j other owner old owns member running
    · intro j other stored victim member
      rcases List.getElem?_push_cases stored with ⟨_, rfl⟩ | old
      · unfold newCall at member
        dsimp only at member
        split at member <;> cases member
      · exact listed.victims j other old victim member
  | cleared j drained found =>
    constructor
    · intro i call owner _ _ member
      cases member
    · intro i call stored victim member
      refine ⟨List.not_mem_nil, ?_⟩
      have known := (listed.victims i call stored victim member).2
      obtain ⟨record, present, _⟩ :=
        (Steps.cleared j drained found : Steps boost options registry s _ _).owners
          (List.getElem?_eq_getElem known)
      exact (List.getElem?_eq_some_iff.mp present).1
  | sent | emitted => exact stay (deliver_calls _) (deliver_owners _) (deliver_requestOwners _)
  | _ => exact stay rfl rfl rfl

/-- The owners in the table of a reachable server were not stopped. -/
theorem listed_of_reachable (reachable : (mcpMachine boost options registry).Reachable s) :
    s.Listed := by
  obtain ⟨labels, run⟩ := reachable
  apply run.reachableInvariant
  · intro s begun
    subst begun
    constructor
    · intro i call owner found
      cases found
    · intro i call found
      cases found
  · intro s label next reachable listed _ stepped
    exact (steps_of_reachable reachable stepped).listed listed (links_of_reachable reachable)

/-- A call gets an owner only when the table of the owners has none under its id. -/
theorem Acts.owner_back
    (acts : Acts boost options registry s i call late before s') {call' : Call}
    (calls : s'.calls = s.calls.set i call') (inside : i < s.calls.length) :
    call'.owner = call.owner ∨
      (before = .register ∧ ∀ id, call.detectedId = some id → s.Unlisted call.session id) := by
  -- The call after the step is the one that the step writes.
  have written (other : Call) (calls' : s'.calls = s.calls.set i other)
      (same : other.owner = call.owner) : call'.owner = call.owner := by
    have here : some call' = some other := by
      rw [← getElem?_set_self inside, ← calls, calls', getElem?_set_self inside]
    cases here
    exact same
  cases acts with
  | registered free => exact .inr ⟨rfl, fun id detected => free id detected⟩
  | acknowledged | announced =>
    exact .inl (written _ (congrArg (set · i _) (deliver_calls _)) rfl)
  | _ => exact .inl (written _ rfl rfl)

/-- Whether a label is the registration or the insertion of a call. -/
def Admits (s : McpServer) (label : Label) (i : Nat) (call : Call) : Prop :=
  actor label = some i ∧
    ((call.pc = .register ∧ ∀ id, call.detectedId = some id → s.Unlisted call.session id) ∨
      ∃ id uris, call.pc = .listenInsert id uris)

/-- A call is in flight after a step when it was before, or the step has admitted it. -/
theorem Steps.inFlight (steps : Steps boost options registry s label s')
    (links : s.OwnerLinks) (entries : s.EntryLinks) {j : Nat} {call' : Call}
    (found' : s'.calls[j]? = some call') (flying : s'.InFlight j call') :
    ∃ call, s.calls[j]? = some call ∧ call'.session = call.session ∧
      call'.detectedId = call.detectedId ∧ (s.InFlight j call ∨ s.Admits label j call) := by
  -- A call that was there before, with the frame it has now.
  have known (call : Call) (found : s.calls[j]? = some call) :
      call'.session = call.session ∧ call'.detectedId = call.detectedId := by
    obtain ⟨other, stored, session, _, detected, _⟩ := steps.call_kept found
    rw [found'] at stored
    cases stored
    exact ⟨session, detected⟩
  rcases flying with ⟨owner, owns, unset⟩ | ⟨entry, owes, rfl⟩
  · have before (call : Call) (found : s.calls[j]? = some call) (owns' : call.owner = some owner) :
        s.InFlight j call := by
      obtain ⟨record, stored, _⟩ := links.linked j call owner found owns'
      obtain ⟨record', stored', keeps⟩ := steps.owners stored
      rw [terminalOf_eq stored'] at unset
      refine .inl ⟨owner, owns', ?_⟩
      rw [terminalOf_eq stored]
      rcases keeps.terminal with same | ⟨unset', _⟩
      · exact same ▸ unset
      · exact unset'
    have stays (calls : s'.calls = s.calls) : ∃ call, s.calls[j]? = some call ∧
        call'.session = call.session ∧ call'.detectedId = call.detectedId ∧
        (s.InFlight j call ∨ s.Admits label j call) :=
      have found : s.calls[j]? = some call' := calls ▸ found'
      ⟨call', found, rfl, rfl, .inl (before call' found owns)⟩
    cases steps with
    | acted i call late label next found origin acts =>
      obtain ⟨other, calls, _⟩ := acts.frame
      have inside := (List.getElem?_eq_some_iff.mp found).1
      by_cases mine : i = j
      · subst mine
        have same : some other = some call' := by
          rw [← found', calls, List.getElem?_set_self inside]
        cases same
        obtain ⟨session, detected⟩ := known call found
        refine ⟨call, found, session, detected, ?_⟩
        rcases acts.owner_back calls inside with same | ⟨place, free⟩
        · exact .inl (before call found (same ▸ owns))
        · exact .inr ⟨actor_of_origin origin, .inl ⟨place, free⟩⟩
      · rw [calls, List.getElem?_set_ne mine] at found'
        exact ⟨call', found', rfl, rfl, .inl (before call' found' owns)⟩
    | begun session raw _ =>
      rcases List.getElem?_push_cases found' with ⟨_, rfl⟩ | old
      · cases owns
      · exact ⟨call', old, rfl, rfl, .inl (before call' old owns)⟩
    | sent | emitted => exact stays (deliver_calls _)
    | _ => exact stays rfl
  · rcases steps.owes_same owes with ⟨old, owes', same⟩ | ⟨i, call, id, uris, actor, found, place, rfl⟩
    · have opener : entry.opener = old.opener := by rw [same]
      obtain ⟨call, found, _⟩ := entries old owes'
      rw [← opener] at found
      obtain ⟨session, detected⟩ := known call found
      exact ⟨call, found, session, detected, .inl (.inr ⟨old, owes', opener.symm⟩)⟩
    · obtain ⟨session, detected⟩ := known call found
      exact ⟨call, found, session, detected, .inr ⟨actor, .inr ⟨id, uris, place⟩⟩⟩

/-- A step that admits a call finds no other call in flight under its id. -/
theorem Admits.alone {j : Nat} {other : Call} {id : RequestId}
    (admits : s.Admits label i call) (exclusive : s.Exclusive label) (one : s.OneInFlight)
    (links : s.OwnerLinks) (entries : s.EntryLinks) (listed : s.Listed)
    (shaped : s.Shaped boost options) (found : s.calls[i]? = some call)
    (found' : s.calls[j]? = some other) (session : call.session = other.session)
    (detected : call.detectedId = some id) (detected' : other.detectedId = some id)
    (flying : s.InFlight j other) : i = j := by
  obtain ⟨actor, place⟩ := admits
  obtain ⟨registers, inserts⟩ := exclusive i call actor found
  -- An entry of the other call is a subscription under the id.
  have subscribed (entry : SubscriptionEntry) (owes : s.Owes entry) (opener : entry.opener = j) :
      s.Subscribed call.session id := by
    obtain ⟨opened, stored, session', detected''⟩ := entries entry owes
    rw [opener, found'] at stored
    cases stored
    rw [detected'] at detected''
    cases detected''
    exact ⟨entry, owes, session'.symm.trans session.symm, rfl⟩
  rcases place with ⟨place, free⟩ | ⟨listenId, uris, place⟩
  · obtain ⟨unsubscribed, tabled⟩ := registers place id detected (free id detected)
    rcases flying with ⟨owner, owns, unset⟩ | ⟨entry, owes, opener⟩
    · have member := tabled j owner ⟨other, found', session.symm, detected', owns, unset⟩
      obtain ⟨record, stored, named, belongs⟩ := links.linked j other owner found' owns
      have absent := free id detected owner member
      unfold ownedBy at absent
      rw [stored, Option.any_some, named, detected', belongs, session] at absent
      simp only [Option.getD_some, decide_true, Bool.and_self] at absent
      cases absent
    · exact absurd (subscribed entry owes opener) unsubscribed
  · have shape := (shaped i call found).2
    have request := shape.request (shape.asked (by rw [place]; exact fun h => h))
    rw [place] at request
    have same : some listenId = some id := request.1.symm.trans detected
    cases same
    rcases inserts id uris place with ⟨owner, member, owns⟩ | ⟨unsubscribed, lone⟩
    · have unset := listed.unstopped i call owner found owns member (by rw [place]; rfl)
      exact one i j call other id found found' session detected detected'
        (.inl ⟨owner, owns, unset⟩) flying
    · rcases flying with ⟨owner, owns, unset⟩ | ⟨entry, owes, opener⟩
      · exact (lone j owner ⟨other, found', session.symm, detected', owns, unset⟩).symm
      · exact absurd (subscribed entry owes opener) unsubscribed

/-- In every interleaving in which no request is registered while a subscription under its id is to
be ended or an owner under its id waits for a cancel, and no listen that was cancelled opens its
subscription beside another one under its id, one request at most is in flight under an id. -/
theorem one_in_flight {labels : List Label}
    (run : (mcpMachine boost options registry).GuardedRun Exclusive labels s) : s.OneInFlight := by
  apply run.reachableInvariant
  · intro s begun
    subst begun
    intro i j call other id found
    cases found
  · intro s label next reachable one exclusive stepped i j call' other' id found found' session
      detected detected' flying flying'
    have links := links_of_reachable reachable
    have entries := entryLinks_of_reachable reachable
    have listed := listed_of_reachable reachable
    have shaped := shaped_of_reachable reachable
    have steps := steps_of_reachable reachable stepped
    obtain ⟨call, before, session₁, detected₁, was⟩ := steps.inFlight links entries found flying
    obtain ⟨other, before', session₂, detected₂, was'⟩ := steps.inFlight links entries found' flying'
    have session' : call.session = other.session := by rw [← session₁, ← session₂, session]
    rw [detected₁] at detected
    rw [detected₂] at detected'
    rcases was with old | new
    · rcases was' with old' | new'
      · exact one i j call other id before before' session' detected detected' old old'
      · exact (new'.alone exclusive one links entries listed shaped before' before session'.symm
          detected' detected old).symm
    · rcases was' with old' | new'
      · exact new.alone exclusive one links entries listed shaped before before' session' detected
          detected' old'
      · exact Option.some.inj (new.1.symm.trans new'.1)

/-- A test for the condition, which asks for more than it does. -/
def exclusiveTest (s : McpServer) (label : Label) : Bool :=
  (actor label).all fun i => (s.calls[i]?).all fun call =>
    match call.pc with
    | .register => s.ends.isEmpty &&
        (s.subscriptions.all fun entry => decide (call.detectedId ≠ some entry.listenId)) &&
        s.calls.all fun other => other.pc.emitting.isNone &&
          (other.owner.isNone || decide (call.detectedId ≠ other.detectedId))
    | .listenInsert _ _ => s.requestOwners.any fun owner => decide (call.owner = some owner)
    | _ => true

/-- A step that passes the test meets the condition. -/
theorem exclusive_of_test (test : s.exclusiveTest label = true) : s.Exclusive label := by
  intro i call actor found
  unfold exclusiveTest at test
  rw [actor, Option.all_some, found, Option.all_some] at test
  constructor
  · intro place id detected _
    rw [place] at test
    simp only [Bool.and_eq_true, Bool.or_eq_true, List.isEmpty_iff, List.all_eq_true,
      Option.isNone_iff_eq_none, decide_eq_true_eq] at test
    obtain ⟨⟨ends, table⟩, others⟩ := test
    constructor
    · rintro ⟨entry, stored | ⟨j, other, stored, emits⟩ | ⟨j, ending, stored, _⟩, _, same⟩
      · exact table entry stored (by rw [detected, same])
      · rw [(others other (List.mem_of_getElem? stored)).1] at emits
        cases emits
      · rw [ends] at stored
        cases stored
    · rintro j owner ⟨other, stored, _, detected', owns, _⟩
      rcases (others other (List.mem_of_getElem? stored)).2 with none' | apart
      · rw [none'] at owns
        cases owns
      · exact absurd (detected.trans detected'.symm) apart
  · intro id uris place
    rw [place] at test
    obtain ⟨owner, member, owns⟩ := List.any_eq_true.mp test
    exact .inl ⟨owner, member, of_decide_eq_true owns⟩

/-- A request under another id is registered while a subscription is open. -/
theorem one_in_flight_listening : ∃ s labels, sampleMachine.GuardedRun Exclusive labels s ∧
    (s.subscriptions.length = 1 ∧ s.requestOwners = [1]) ∧ s.OneInFlight := by
  have begun : sampleMachine.start {} := rfl
  obtain ⟨s, run, both⟩ := Machine.exists_guardedRun
    (listenSteps 11 ++ [.frame 0 otherPingFrame, .act 1 false, .act 1 false]) exclusiveTest
    (fun s : McpServer => decide (s.subscriptions.length = 1 ∧ s.requestOwners = [1])) begun
    (by decide +kernel)
  have exclusive : sampleMachine.GuardedRun Exclusive _ s :=
    run.mono fun _ _ => exclusive_of_test
  exact ⟨s, _, exclusive, of_decide_eq_true both, one_in_flight exclusive⟩

/-- A `ping` is registered under the id of an open subscription, and both are in flight. -/
theorem one_in_flight_fails : ∃ s, sampleMachine.Reachable s ∧ ¬s.OneInFlight := by
  have begun : sampleMachine.start {} := rfl
  obtain ⟨s, reachable, both⟩ := Machine.exists_reachable
    (listenSteps 11 ++ [.frame 0 pingFrame, .act 1 false, .act 1 false])
    (fun s : McpServer =>
      decide (s.calls.map (fun call => (call.session, call.detectedId, call.owner)) =
        [(0, some (.string (text "x")), some 0), (0, some (.string (text "x")), some 1)] ∧
      s.terminalOf 1 = .none' ∧ s.subscriptions.map SubscriptionEntry.opener = [0])) begun
    (by decide +kernel)
  obtain ⟨calls, unset, opener⟩ := of_decide_eq_true both
  refine ⟨s, reachable, fun one => ?_⟩
  obtain ⟨listen, rest, calls, first, others⟩ := map_eq_cons_iff.mp calls
  obtain ⟨ping, _, rest, second, _⟩ := map_eq_cons_iff.mp others
  obtain ⟨entry, _, table, opened, _⟩ := map_eq_cons_iff.mp opener
  simp only [Prod.mk.injEq] at first second
  have stored : s.calls[0]? = some listen := by rw [calls]; rfl
  have stored' : s.calls[1]? = some ping := by rw [calls, rest]; rfl
  have flying : s.InFlight 0 listen :=
    .inr ⟨entry, .inl (by rw [table]; exact mem_cons_self), opened⟩
  have impossible := one 0 1 listen ping (.string (text "x")) stored stored'
    (first.1.trans second.1.symm) first.2.1 second.2.1 flying (.inl ⟨1, second.2.2, unset⟩)
  cases impossible

end McpServer

end BbtInfra.Mcp
