import BbtInfra.Lib.Cursor
import BbtInfra.Lib.Folds
import BbtInfra.Mcp.SchemaCompile

/-!
# Where the guards of a schema come from

Every guard is made at a location below the node that the walk is in, its path text goes on from the
path text of that node, and at its location the transformed part has no `additionalProperties`. From
this the fallback of a guard is right exactly at the root: below it the path text begins with a
separator, so that the search starts with a member without a name.
-/
namespace BbtInfra.Mcp

open List

open Lib (bind_eq_ok)

/-- The part of a document at a location. -/
def JsonValue.at? : JsonValue → Location → Option JsonValue
  | value, [] => some value
  | .object members, .key name :: rest => (members.lookup name).bind fun inner => inner.at? rest
  | .array items, .index position :: rest => items[position]?.bind fun inner => inner.at? rest
  | _, _ :: _ => none

/-- No object names a member twice. -/
inductive JsonValue.Parsed : JsonValue → Prop
  | object {members : List Member} (names : (members.map Prod.fst).Nodup)
    (inner : ∀ member ∈ members, JsonValue.Parsed member.2) : JsonValue.Parsed (.object members)
  | array {items : List JsonValue} (inner : ∀ item ∈ items, JsonValue.Parsed item) :
    JsonValue.Parsed (.array items)
  | null : JsonValue.Parsed .null
  | bool (value : Bool) : JsonValue.Parsed (.bool value)
  | int64 (value : Int64) : JsonValue.Parsed (.int64 value)
  | uint64 (value : UInt64) : JsonValue.Parsed (.uint64 value)
  | double (bits : UInt64) : JsonValue.Parsed (.double bits)
  | string (value : Bytes) : JsonValue.Parsed (.string value)

/-- At the location there is no schema with `additionalProperties`. -/
def Lacks (value : JsonValue) (rel : Location) : Prop :=
  ∀ node, value.at? rel = some node → node.find (text "additionalProperties") = none

section Members

/-- The first member that is looked at. -/
theorem lookup_member (name other : Bytes) (old : JsonValue) (rest : List Member) :
    ((name, old) :: rest).lookup other = if other = name then some old else rest.lookup other := by
  rw [lookup_cons]
  by_cases same : other = name
  · simp [same]
  · simp [beq_eq_false_iff_ne.mpr same, same]

/-- A member that was written is found, and no other changes. -/
theorem lookup_putMember (key other : Bytes) (value : JsonValue) (members : List Member) :
    (putMember key value members).lookup other =
      if other = key then some value else members.lookup other := by
  induction members with
  | nil => rw [putMember, lookup_member]
  | cons first rest ih =>
    obtain ⟨name, old⟩ := first
    rw [putMember]
    by_cases here : key = name
    · rw [if_pos here, lookup_member, lookup_member, here]
      by_cases same : other = name <;> simp [same]
    · rw [if_neg here]
      split
      · rw [lookup_member]
      · rw [lookup_member, ih, lookup_member]
        by_cases same : other = key
        · have apart : other ≠ name := fun equal => here (same.symm.trans equal)
          rw [if_neg apart, if_pos same, if_pos same]
        · rw [if_neg same, if_neg same]

end Members

/-- The guards from here to there go up in their obligations. -/
structure Ascends (first last : Nat) (guards : List DeferredGuard) : Prop where
  increasing : (guards.map DeferredGuard.obIdx).Pairwise (· < ·)
  within : ∀ guard ∈ guards, first ≤ guard.obIdx ∧ guard.obIdx < last

/-- The path text of a guard goes on from that of the node. -/
def Spelled (spath : Bytes) (rel : Location) (guard : DeferredGuard) : Prop :=
  (rel = [] ∧ guard.spath = spath) ∨ (rel ≠ [] ∧ ∃ tail, guard.spath = spath ++ 0x2f :: tail)

section Walks

variable {Sub : Type}

/-- What a call of `TransformNode` at a place leaves behind. -/
structure Walked (base : Location) (spath : Bytes) (walk : Walk Sub) (value : JsonValue)
    (next : Walk Sub) : Prop where
  pending : next.pendingAddprops = walk.pendingAddprops
  grows : walk.obligations.length ≤ next.obligations.length
  guards : ∃ made, next.deferredGuards = walk.deferredGuards ++ made ∧
    Ascends walk.obligations.length next.obligations.length made ∧
    ∀ guard ∈ made, ∃ rel, guard.location = base ++ rel ∧ Spelled spath rel guard ∧
      Lacks value rel

/-- What stands in the way of a family of calls: the delayed keywords of the nodes above. -/
def Shallow (walk : Walk Sub) (spath : Bytes) : Prop :=
  ∀ pending ∈ walk.pendingAddprops, pending.spath.length < spath.length

/-- What a family of calls, one below each of some steps, leaves behind. The parts of a step are the
values in which its guards may be looked for. -/
structure Family (base : Location) (spath : Bytes) (walk : Walk Sub) (passed : List Seg)
    (parts : Seg → List JsonValue) (own : List AddPropsPatch) (next : Walk Sub) : Prop where
  pending : next.pendingAddprops = walk.pendingAddprops ++ own
  grows : walk.obligations.length ≤ next.obligations.length
  guards : ∃ made, next.deferredGuards = walk.deferredGuards ++ made ∧
    Ascends walk.obligations.length next.obligations.length made ∧
    ∀ guard ∈ made, ∃ seg rest, guard.location = base ++ seg :: rest ∧ seg ∈ passed ∧
      (∃ tail, guard.spath = spath ++ 0x2f :: tail) ∧ ∀ part ∈ parts seg, Lacks part rest
  fresh : ∀ seg, seg ∉ passed → parts seg = []

/-- Steps of the walk that make no guard. -/
structure Aside (walk next : Walk Sub) : Prop where
  pending : next.pendingAddprops = walk.pendingAddprops
  grows : walk.obligations.length ≤ next.obligations.length
  guards : next.deferredGuards = walk.deferredGuards

variable {base : Location} {spath : Bytes} {walk middle next later : Walk Sub}
  {passed : List Seg} {parts : Seg → List JsonValue} {own : List AddPropsPatch}
  {value : JsonValue}

/-- Guards of a later part have later places. -/
theorem Ascends.append {first middle last : Nat} {before behind : List DeferredGuard}
    (low : Ascends first middle before) (high : Ascends middle last behind)
    (grows : first ≤ middle) (grown : middle ≤ last) : Ascends first last (before ++ behind) where
  increasing := by
    rw [map_append, pairwise_append]
    refine ⟨low.increasing, high.increasing, ?_⟩
    intro a early b late
    obtain ⟨guard, member, rfl⟩ := mem_map.mp early
    obtain ⟨other, there, rfl⟩ := mem_map.mp late
    have below := (low.within guard member).2
    have above := (high.within other there).1
    omega
  within := by
    intro guard member
    rcases mem_append.mp member with early | late
    · have here := low.within guard early
      omega
    · have here := high.within guard late
      omega

/-- No guards are in order. -/
theorem Ascends.nil (first last : Nat) : Ascends first last [] :=
  ⟨.nil, by simp⟩

/-- Guards in order stay so when more places follow. -/
theorem Ascends.widen {first last more : Nat} {guards : List DeferredGuard}
    (ascends : Ascends first last guards) (grown : last ≤ more) : Ascends first more guards :=
  ⟨ascends.increasing, fun guard member => by
    have here := ascends.within guard member
    omega⟩

/-- Nothing has been called yet. -/
theorem Family.start (aside : Aside walk next) (none : ∀ seg, parts seg = []) :
    Family base spath walk [] parts [] next where
  pending := by rw [aside.pending, append_nil]
  grows := aside.grows
  guards := ⟨[], by rw [aside.guards, append_nil], .nil _ _, by simp⟩
  fresh := fun seg _ => none seg

/-- One more call, below a step that was not passed before. -/
theorem Family.call (family : Family base spath walk passed parts own next) {seg : Seg}
    (new : seg ∉ passed) {name : Bytes}
    (walked : Walked (base ++ [seg]) (subPath spath name) next value later)
    {parts' : Seg → List JsonValue} (mine : ∀ part ∈ parts' seg, part = value)
    (others : ∀ other, other ≠ seg → parts' other = parts other) :
    Family base spath walk (passed ++ [seg]) parts' own later where
  pending := walked.pending.trans family.pending
  grows := Nat.le_trans family.grows walked.grows
  guards := by
    obtain ⟨before, early, low, known⟩ := family.guards
    obtain ⟨behind, late, high, made⟩ := walked.guards
    refine ⟨before ++ behind, by rw [late, early, append_assoc],
      low.append high family.grows walked.grows, ?_⟩
    intro guard member
    rcases mem_append.mp member with old | fresh
    · obtain ⟨other, rest, location, known, spelled, lacks⟩ := known guard old
      have apart : other ≠ seg := fun same => new (same ▸ known)
      exact ⟨other, rest, location, mem_append_left _ known, spelled,
        (others other apart) ▸ lacks⟩
    · obtain ⟨rel, location, spelled, lacks⟩ := made guard fresh
      refine ⟨seg, rel, by simpa using location, by simp, ?_, ?_⟩
      · rcases spelled with ⟨_, same⟩ | ⟨_, tail, longer⟩
        · exact ⟨name, same⟩
        · exact ⟨name ++ 0x2f :: tail, by rw [longer, subPath]; simp⟩
      · intro part here
        rw [mine part here]
        exact lacks
  fresh := by
    intro other away
    have apart : other ≠ seg := fun same => away (by simp [same])
    rw [others other apart]
    exact family.fresh other fun old => away (mem_append_left _ old)

/-- Steps of the walk between two calls. -/
theorem Family.aside (family : Family base spath walk passed parts own next)
    (aside : Aside next later) : Family base spath walk passed parts own later where
  pending := aside.pending.trans family.pending
  grows := Nat.le_trans family.grows aside.grows
  guards := by
    obtain ⟨made, same, ascends, known⟩ := family.guards
    exact ⟨made, aside.guards.trans same, ascends.widen aside.grows, known⟩
  fresh := family.fresh

/-- A part that holds all parts of a family has what the family leaves behind. -/
theorem Family.walked (family : Family base spath walk passed parts [] next)
    (found : ∀ seg ∈ passed, ∀ rest node, value.at? (seg :: rest) = some node →
      ∃ part ∈ parts seg, part.at? rest = some node) :
    Walked base spath walk value next where
  pending := by
    have pending := family.pending
    rwa [append_nil] at pending
  grows := family.grows
  guards := by
    obtain ⟨made, same, ascends, known⟩ := family.guards
    refine ⟨made, same, ascends, ?_⟩
    intro guard member
    obtain ⟨seg, rest, location, known, spelled, lacks⟩ := known guard member
    refine ⟨seg :: rest, location, .inr ⟨by simp, spelled⟩, ?_⟩
    intro node here
    obtain ⟨part, among, there⟩ := found seg known rest node here
    exact lacks part among node there

/-- Steps that make no guard leave nothing behind. -/
theorem Walked.of_aside (aside : Aside walk next) : Walked base spath walk value next where
  pending := aside.pending
  grows := aside.grows
  guards := ⟨[], by rw [aside.guards, append_nil], .nil _ _, by simp⟩

/-- Steps of the walk before a call. -/
theorem Walked.behind (walked : Walked base spath middle value next) (aside : Aside walk middle) :
    Walked base spath walk value next where
  pending := walked.pending.trans aside.pending
  grows := Nat.le_trans aside.grows walked.grows
  guards := by
    obtain ⟨made, same, ascends, known⟩ := walked.guards
    have lower : Ascends walk.obligations.length next.obligations.length made :=
      ⟨ascends.increasing, fun guard member => by
        have here := ascends.within guard member
        have grows := aside.grows
        omega⟩
    exact ⟨made, by rw [same, aside.guards], lower, known⟩

end Walks

section Calls

variable {Sub : Type} {engine : SchemaEngine Sub} {recurse : Recurse Sub}

/-- What is known of the calls one level down. -/
def Walks (recurse : Recurse Sub) : Prop :=
  ∀ (node : JsonValue) (place : Place) (walk : Walk Sub) (value : JsonValue) (next : Walk Sub),
    node.Parsed → Shallow walk place.spath → recurse node place walk = .ok (value, next) →
    Walked place.location place.spath walk value next

/-- The values of an object by their steps. -/
def memberParts (out : List Member) : Seg → List JsonValue
  | .key name => (out.lookup name).toList
  | .index _ => []

/-- The values of an array by their steps. -/
def itemParts (out : List JsonValue) : Seg → List JsonValue
  | .key _ => []
  | .index position => out[position]?.toList

variable {value node : JsonValue} {spath key : Bytes} {members out written : List Member}
  {seg : Seg} {place : Place} {walk next : Walk Sub}
  {rest base : Location}

/-- What is found in an object is found in one of its parts. -/
theorem memberParts_found {out : List Member}
    (found : (JsonValue.object out).at? (seg :: rest) = some node) :
    ∃ part ∈ memberParts out seg, part.at? rest = some node := by
  cases seg with
  | key name =>
    obtain ⟨part, here, there⟩ := Option.bind_eq_some_iff.mp found
    exact ⟨part, by simp [memberParts, here], there⟩
  | index position => simp [JsonValue.at?] at found

/-- What is found in an array is found in one of its parts. -/
theorem itemParts_found {out : List JsonValue}
    (found : (JsonValue.array out).at? (seg :: rest) = some node) :
    ∃ part ∈ itemParts out seg, part.at? rest = some node := by
  cases seg with
  | key name => simp [JsonValue.at?] at found
  | index position =>
    obtain ⟨part, here, there⟩ := Option.bind_eq_some_iff.mp found
    exact ⟨part, by simp [itemParts, here], there⟩

/-- Behind a member that was put there is only its value. -/
theorem memberParts_put_self (key : Bytes) (value : JsonValue) (out : List Member) :
    ∀ part ∈ memberParts (putMember key value out) (.key key), part = value := by
  intro part member
  simpa [memberParts, lookup_putMember, eq_comm] using member

/-- Putting a member leaves the parts behind other steps alone. -/
theorem memberParts_put_other (key : Bytes) (value : JsonValue) (out : List Member)
    (apart : seg ≠ .key key) : memberParts (putMember key value out) seg = memberParts out seg := by
  cases seg with
  | key name =>
    have other : name ≠ key := fun same => apart (congrArg Seg.key same)
    simp [memberParts, lookup_putMember, other]
  | index position => rfl

/-- The path text below a keyword is longer. -/
theorem Shallow.below (shallow : Shallow walk spath)
    (segment : Bytes) : Shallow walk (subPath spath segment) := by
  intro pending member
  have shorter := shallow pending member
  simp only [subPath, length_append, length_cons]
  omega

/-- The delayed keywords of this node and of those above it. -/
def Above (walk : Walk Sub) (spath : Bytes) : Prop :=
  ∀ pending ∈ walk.pendingAddprops, pending.spath.length ≤ spath.length

/-- Below a keyword every delayed keyword is of a node higher up. -/
theorem Above.below (above : Above walk spath)
    (segment : Bytes) : Shallow walk (subPath spath segment) := by
  intro pending member
  have shorter := above pending member
  simp only [subPath, length_append, length_cons]
  omega

/-- Calls that put nothing off leave the delayed keywords above the node. -/
theorem Shallow.family
    {passed : List Seg} {parts : Seg → List JsonValue} (shallow : Shallow walk spath)
    (family : Family base spath walk passed parts [] next) : Shallow next spath := by
  intro pending member
  rw [family.pending, append_nil] at member
  exact shallow pending member

section

variable (walks : Walks recurse)

include walks

/-- The schemas of an object. -/
theorem transformMap_walked {place : Bytes → Place} {out : List Member}
    (names : (members.map Prod.fst).Nodup) (parsed : ∀ member ∈ members, member.2.Parsed)
    (shallow : Shallow walk spath)
    (places : ∀ name, (place name).location = base ++ [.key name] ∧
      (place name).spath = subPath spath name)
    (done : transformMap recurse place members walk = .ok (out, next)) :
    Walked base spath walk (.object out) next := by
  have family : Family base spath walk (members.map fun member => Seg.key member.1)
      (memberParts out) [] next := by
    refine foldlM_passed (fun passed state => Family base spath walk
      (passed.map fun member => Seg.key member.1) (memberParts state.1) [] state.2) ?_ ?_ done
    · exact .start ⟨rfl, Nat.le_refl _, rfl⟩ fun seg => by cases seg <;> rfl
    · rintro passed ⟨key, value⟩ rest ⟨kept, middle⟩ ⟨written, last⟩ split family called
      obtain ⟨⟨t, later⟩, inner, same⟩ := bind_eq_ok.mp called
      cases same
      have new : Seg.key key ∉ passed.map fun member => Seg.key member.1 := by
        rw [split, map_append, map_cons, nodup_append] at names
        intro old
        obtain ⟨member, among, same⟩ := mem_map.mp old
        cases same
        exact names.2.2 member.1 (mem_map_of_mem among) member.1 (by simp) rfl
      have walked := walks value (place key) middle t last
        (parsed (key, value) (by rw [split]; simp))
        (by rw [(places key).2]; exact (shallow.family family).below key) inner
      rw [(places key).1, (places key).2] at walked
      rw [map_append, map_singleton]
      exact family.call new walked (memberParts_put_self key t kept)
        fun other apart => memberParts_put_other key t kept apart
  exact family.walked fun seg _ rest node => memberParts_found

/-- The schemas of an array. -/
theorem transformItems_walked {place : Nat → Place} {items out : List JsonValue}
    (parsed : ∀ item ∈ items, item.Parsed) (shallow : Shallow walk spath)
    (places : ∀ i, (place i).location = base ++ [.index i] ∧
      ∃ name, (place i).spath = subPath spath name)
    (done : transformItems recurse place items walk = .ok (out, next)) :
    Walked base spath walk (.array out) next := by
  have family : out.length = items.length ∧ Family base spath walk
      ((range items.length).map Seg.index) (itemParts out) [] next := by
    refine foldlM_passed (fun passed state => state.1.length = passed.length ∧
      Family base spath walk ((range passed.length).map Seg.index) (itemParts state.1) []
        state.2) ?_ ?_ done
    · exact ⟨rfl, .start ⟨rfl, Nat.le_refl _, rfl⟩ fun seg => by cases seg <;> rfl⟩
    · rintro passed value rest ⟨kept, middle⟩ ⟨written, last⟩ split ⟨length, family⟩ called
      obtain ⟨⟨t, later⟩, inner, same⟩ := bind_eq_ok.mp called
      cases same
      simp only at length
      obtain ⟨name, spelled⟩ := (places kept.length).2
      have walked := walks value (place kept.length) middle t last
        (parsed value (by rw [split]; simp))
        (by rw [spelled]; exact (shallow.family family).below name) inner
      rw [(places kept.length).1, spelled] at walked
      refine ⟨by simp [length], ?_⟩
      rw [length_append, length_singleton, range_succ, map_append,
        map_singleton, ← length]
      rw [← length] at family
      refine family.call ?_ walked ?_ ?_
      · simp
      · intro part member
        simpa [itemParts, eq_comm] using member
      · intro other apart
        cases other with
        | key _ => rfl
        | index position =>
          have elsewhere : position ≠ kept.length := fun same => apart (congrArg Seg.index same)
          rcases Nat.lt_or_gt_of_ne elsewhere with below | above
          · simp [itemParts, getElem?_append_left below]
          · have short : (kept ++ [t]).length ≤ position := by
              simp only [length_append, length_singleton]
              omega
            simp [itemParts, getElem?_eq_none short, getElem?_eq_none (Nat.le_of_lt above)]
  exact family.2.walked fun seg _ rest node => itemParts_found

/-- What a moved pattern makes of the walk. -/
theorem transformMoved_walked (parsed : value.Parsed) (above : Above walk place.spath)
    (done : transformMoved engine recurse place key value walk = .ok next) :
    ∃ (t : JsonValue) (middle : Walk Sub), Aside middle next ∧
      Walked (movedPlace place key).location (movedPlace place key).spath walk t middle := by
  rw [transformMoved] at done
  split at done
  · cases done
  · split at done
    · cases done
    · obtain ⟨⟨t, middle⟩, inner, rest⟩ := bind_eq_ok.mp done
      have below : Shallow (walk.addPattern key) (movedPlace place key).spath :=
        (above.below _).below _
      have walked := walks value _ _ t middle parsed below inner
      have before : Aside walk (walk.addPattern key) := ⟨rfl, Nat.le_refl _, rfl⟩
      refine ⟨t, middle, ?_, walked.behind before⟩
      simp only at rest
      split at rest
      · cases rest
      · cases rest
      · cases rest
      · have same := Except.ok.inj rest
        rw [← same]
        exact ⟨rfl, by simp [Walk.oblige, Walk.excludePattern, Walk.exclude], rfl⟩

/-- `patternProperties`. -/
theorem transformPatternProperties_walked
    (spelled : key = text "patternProperties") (names : (members.map Prod.fst).Nodup)
    (parsed : ∀ member ∈ members, member.2.Parsed) (above : Above walk place.spath)
    (done : transformPatternProperties engine recurse place out key members walk =
      .ok (written, next)) :
    ∃ t, Walked (place.location ++ [.key key]) (subPath place.spath key) walk t next ∧
      (written = putMember key t out ∨ written = out) := by
  obtain ⟨⟨kept, last⟩, folded, same⟩ := bind_eq_ok.mp done
  have family : Family (place.location ++ [.key key]) (subPath place.spath key) walk
      (members.map fun member => Seg.key member.1) (memberParts kept) [] last := by
    refine foldlM_passed (fun passed state => Family (place.location ++ [.key key])
      (subPath place.spath key) walk (passed.map fun member => Seg.key member.1)
      (memberParts state.1) [] state.2) ?_ ?_ folded
    · exact .start ⟨rfl, Nat.le_refl _, rfl⟩ fun seg => by cases seg <;> rfl
    · rintro passed ⟨pk, sub⟩ rest ⟨kept, middle⟩ ⟨more, later⟩ split family called
      have new : Seg.key pk ∉ passed.map fun member => Seg.key member.1 := by
        rw [split, map_append, map_cons, nodup_append] at names
        intro old
        obtain ⟨member, among, same⟩ := mem_map.mp old
        cases same
        exact names.2.2 member.1 (mem_map_of_mem among) member.1 (by simp) rfl
      have goes : Above middle place.spath := by
        intro pending member
        rw [family.pending, append_nil] at member
        exact above pending member
      have whole : sub.Parsed := parsed (pk, sub) (by rw [split]; simp)
      rw [map_append, map_singleton]
      simp only at called
      split at called
      · obtain ⟨⟨t, finished⟩, inner, same⟩ := bind_eq_ok.mp called
        cases same
        have walked := walks sub (keptPlace place pk) middle t finished whole
          ((goes.below _).below _) inner
        have places : (keptPlace place pk).location = place.location ++ [.key key] ++ [.key pk] ∧
            (keptPlace place pk).spath = subPath (subPath place.spath key) pk := by
          simp [keptPlace, spelled]
        rw [places.1, places.2] at walked
        exact family.call new walked (memberParts_put_self pk t kept)
          fun other apart => memberParts_put_other pk t kept apart
      · obtain ⟨finished, inner, same⟩ := bind_eq_ok.mp called
        cases same
        obtain ⟨t, between, aside, walked⟩ := transformMoved_walked walks whole goes inner
        have places : (movedPlace place pk).location = place.location ++ [.key key] ++ [.key pk] ∧
            (movedPlace place pk).spath =
              subPath (subPath place.spath key) (text "__sub") := by
          simp [movedPlace, spelled]
        rw [places.1, places.2] at walked
        have unmade : ∀ part ∈ memberParts kept (.key pk), part = t := by
          intro part member
          rw [family.fresh _ new] at member
          cases member
        exact (family.call new walked unmade fun _ _ => rfl).aside aside
  refine ⟨.object kept, ?_, ?_⟩
  · have ended : last = next := by
      have pair := Except.ok.inj same
      exact congrArg Prod.snd pair
    rw [← ended]
    exact family.walked fun seg _ rest node => memberParts_found
  · have pair := congrArg Prod.fst (Except.ok.inj same)
    simp only at pair
    split at pair
    · exact .inr pair.symm
    · exact .inl pair.symm

end

/-- The keyword of a member tells its name. -/
theorem keyword_patternProperties (keyword : Keyword.of key = .patternProperties) :
    key = text "patternProperties" := by
  rw [Keyword.of] at keyword
  split_ifs at keyword
  assumption

/-- It does for `additionalProperties` too. -/
theorem keyword_additionalProperties
    (keyword : Keyword.of key = .additionalProperties) : key = text "additionalProperties" := by
  rw [Keyword.of] at keyword
  split_ifs at keyword
  assumption

/-- A member without a name is no keyword. -/
theorem keyword_unnamed : Keyword.of [] = .other := by decide +kernel

/-- A keyword has a name. -/
theorem named_of_keyword {keyword : Keyword} (known : Keyword.of key = keyword)
    (some : keyword ≠ .other) : key ≠ [] := by
  rintro rfl
  exact some (known.symm.trans keyword_unnamed)

/-- A note of an `additionalProperties` of a node. -/
structure NotedAt (place : Place) (value : JsonValue) (pending : AddPropsPatch) : Prop where
  spath : pending.spath = place.spath
  location : pending.location = place.location
  apT : pending.apT = value

/-- What one member of a schema does: it is copied, or its schemas are walked over, or it is an
`additionalProperties` whose fate is put off. -/
inductive MemberCall (place : Place) (out : List Member) (key : Bytes) (walk : Walk Sub)
    (written : List Member) (next : Walk Sub) : Prop
  | copied (aside : Aside walk next) (value : JsonValue)
    (put : written = putMember key value out ∨ written = out)
  | called (named : key ≠ []) {t : JsonValue}
    (walked : Walked (place.location ++ [.key key]) (subPath place.spath key) walk t next)
    (put : written = putMember key t out ∨ written = out)
  | putOff (spelled : key = text "additionalProperties") {t : JsonValue} {middle : Walk Sub}
    {pending : AddPropsPatch}
    (walked : Walked (place.location ++ [.key key]) (subPath place.spath key) walk t middle)
    (noted : NotedAt place t pending)
    (rest : next = { middle with pendingAddprops := middle.pendingAddprops ++ [pending] })
    (kept : written = out)

/-- A keyword with one schema is walked over. -/
theorem transformOne_call (walks : Walks recurse) {place inner : Place} (parsed : value.Parsed)
    (above : Above walk place.spath) (named : key ≠ [])
    (location : inner.location = place.location ++ [.key key])
    (spelled : inner.spath = subPath place.spath key)
    (done : transformOne recurse inner out key value walk = .ok (written, next)) :
    MemberCall place out key walk written next := by
  obtain ⟨⟨t, last⟩, called, same⟩ := bind_eq_ok.mp done
  cases same
  have walked := walks value inner walk t next parsed
    (by rw [spelled]; exact above.below key) called
  rw [location, spelled] at walked
  exact .called named walked (.inl rfl)

/-- A keyword with a schema for each name is walked over. -/
theorem transformSchemas_call (walks : Walks recurse) {inner : Bytes → Place}
    (names : (members.map Prod.fst).Nodup) (parsed : ∀ member ∈ members, member.2.Parsed)
    (above : Above walk place.spath) (named : key ≠ [])
    (places : ∀ name, (inner name).location = place.location ++ [.key key] ++ [.key name] ∧
      (inner name).spath = subPath (subPath place.spath key) name)
    (done : transformSchemas recurse inner out key members walk = .ok (written, next)) :
    MemberCall place out key walk written next := by
  obtain ⟨⟨t, last⟩, called, same⟩ := bind_eq_ok.mp done
  cases same
  exact .called named
    (transformMap_walked walks names parsed (above.below key) places called) (.inl rfl)

/-- A keyword with a list of schemas is walked over. -/
theorem transformList_call (walks : Walks recurse) {inner : Nat → Place} {items : List JsonValue}
    (parsed : ∀ item ∈ items, item.Parsed) (above : Above walk place.spath)
    (named : key ≠ [])
    (places : ∀ i, (inner i).location = place.location ++ [.key key] ++ [.index i] ∧
      ∃ name, (inner i).spath = subPath (subPath place.spath key) name)
    (done : transformList recurse inner out key items walk = .ok (written, next)) :
    MemberCall place out key walk written next := by
  obtain ⟨⟨t, last⟩, called, same⟩ := bind_eq_ok.mp done
  cases same
  exact .called named (transformItems_walked walks parsed (above.below key) places called)
    (.inl rfl)

/-- A `pattern` is copied, or taken out with the obligation to check it, but no guard is made. -/
theorem transformPattern_call
    (done : transformPattern engine place out key value walk = .ok (written, next)) :
    MemberCall place out key walk written next := by
  unfold transformPattern at done
  split at done
  · split at done
    · cases done
      exact .copied ⟨rfl, Nat.le_refl _, rfl⟩ _ (.inl rfl)
    · split at done
      · cases done
      · split at done
        · cases done
        · cases done
          exact .copied ⟨rfl, by simp [Walk.oblige, Walk.addPattern], rfl⟩ .null (.inr rfl)
  · cases done
    exact .copied ⟨rfl, Nat.le_refl _, rfl⟩ _ (.inl rfl)

section

variable (walks : Walks recurse) (parsed : value.Parsed)
  (above : Above walk place.spath)

include walks parsed above

/-- An `additionalProperties` is walked over, and its fate may be put off. -/
theorem transformAddProps_call (named : key ≠ []) (spelled : key = text "additionalProperties")
    (done : transformAddProps recurse place out key value walk = .ok (written, next)) :
    MemberCall place out key walk written next := by
  obtain ⟨⟨t, middle⟩, called, same⟩ := bind_eq_ok.mp done
  have walked := walks value (place.under (place.plan ++ [.addProps [] []]) place.positional key)
    walk t middle parsed (above.below key) called
  simp only at same
  split at same
  · cases same
    exact .putOff spelled walked ⟨rfl, rfl, rfl⟩ rfl rfl
  · cases same
    exact .called named walked (.inl rfl)

/-- One member of a schema. -/
theorem transformMember_call
    (done : transformMember engine recurse place out key value walk = .ok (written, next)) :
    MemberCall place out key walk written next := by
  unfold transformMember at done
  split at done
  · cases done
    exact .copied ⟨rfl, Nat.le_refl _, rfl⟩ _ (.inl rfl)
  · exact transformPattern_call done
  case h_3 members keyword =>
    cases parsed with
    | object names inner =>
      obtain ⟨t, walked, put⟩ := transformPatternProperties_walked walks
        (keyword_patternProperties keyword) names inner above done
      exact .called (named_of_keyword keyword (by decide)) walked put
  case h_4 members keyword =>
    cases parsed with
    | object names inner =>
      exact transformSchemas_call walks names inner above (named_of_keyword keyword (by decide))
        (fun name => ⟨rfl, rfl⟩) done
  case h_5 keyword =>
    exact transformOne_call walks parsed above (named_of_keyword keyword (by decide)) rfl rfl done
  case h_6 list keyword =>
    cases parsed with
    | array inner =>
      exact transformList_call walks inner above (named_of_keyword keyword (by decide))
        (fun i => ⟨rfl, _, rfl⟩) done
  case h_7 keyword =>
    exact transformAddProps_call walks parsed above (named_of_keyword keyword (by decide))
      (keyword_additionalProperties keyword) done
  case h_8 list keyword =>
    cases parsed with
    | array inner =>
      exact transformList_call walks inner above (named_of_keyword keyword (by decide))
        (fun i => ⟨rfl, _, rfl⟩) done
  case h_9 keyword =>
    exact transformOne_call walks parsed above (named_of_keyword keyword (by decide)) rfl rfl done
  case h_10 list keyword =>
    cases parsed with
    | array inner =>
      exact transformList_call walks inner above (named_of_keyword keyword (by decide))
        (fun i => ⟨rfl, _, rfl⟩) done
  case h_11 members keyword =>
    cases parsed with
    | object names inner =>
      exact transformSchemas_call walks names inner above (named_of_keyword keyword (by decide))
        (fun name => ⟨rfl, rfl⟩) done
  · cases done
    exact .copied ⟨rfl, Nat.le_refl _, rfl⟩ _ (.inl rfl)

end

/-- The values of a node by the names of its members; a delayed `additionalProperties` is one. -/
def nodeParts (out : List Member) (own : List AddPropsPatch) : Seg → List JsonValue
  | .key name =>
    if name = [] then []
    else (out.lookup name).toList ++
      if name = text "additionalProperties" then own.map AddPropsPatch.apT else []
  | .index _ => []

/-- What the loop over the members of a node has left behind. -/
structure NodeFamily (place : Place) (walk : Walk Sub) (keys : List Bytes)
    (own : List AddPropsPatch) (out : List Member) (next : Walk Sub) : Prop where
  family : Family place.location place.spath walk
    ((keys.filter fun key => decide (key ≠ [])).map Seg.key) (nodeParts out own) own next
  noted : ∀ pending ∈ own, pending.spath = place.spath ∧ pending.location = place.location
  single : own.length ≤ 1
  absent : own ≠ [] → out.lookup (text "additionalProperties") = none ∧
    text "additionalProperties" ∈ keys

variable {later : Walk Sub} {keys : List Bytes}
  {own : List AddPropsPatch} {out written : List Member} {key : Bytes}

/-- The name of the keyword is not empty. -/
theorem additionalProperties_named : text "additionalProperties" ≠ [] := by decide +kernel

/-- A member that was not passed has left nothing. -/
theorem NodeFamily.unpassed (node : NodeFamily place walk keys own out next) (new : key ∉ keys)
    (named : key ≠ []) : out.lookup key = none := by
  have fresh := node.family.fresh (.key key) (by simp [new])
  rw [nodeParts, if_neg named] at fresh
  have nothing := (append_eq_nil_iff.mp fresh).1
  cases found : out.lookup key with
  | none => rfl
  | some value => simp [found] at nothing

/-- What a node puts off is at most as deep as the node. -/
theorem NodeFamily.above (node : NodeFamily place walk keys own out next)
    (shallow : Shallow walk place.spath) : Above next place.spath := by
  intro pending member
  rw [node.family.pending] at member
  rcases mem_append.mp member with higher | here
  · exact Nat.le_of_lt (shallow pending higher)
  · rw [(node.noted pending here).1]

/-- The names that calls are made below. -/
def namedKeys (keys : List Bytes) : List Seg :=
  (keys.filter fun key => decide (key ≠ [])).map Seg.key

/-- A member more is a name more. -/
theorem namedKeys_push (keys : List Bytes) (named : key ≠ []) :
    namedKeys (keys ++ [key]) = namedKeys keys ++ [.key key] := by
  simp [namedKeys, filter_append, named]

/-- A member that was not passed is none of the names. -/
theorem not_mem_namedKeys (new : key ∉ keys) : Seg.key key ∉ namedKeys keys := by
  simp [namedKeys, new]

/-- Putting a member leaves the parts behind other steps alone, delayed ones included. -/
theorem nodeParts_put_other (value : JsonValue) (apart : seg ≠ .key key) :
    nodeParts (putMember key value out) own seg = nodeParts out own seg := by
  cases seg with
  | index position => rfl
  | key name =>
    have elsewhere : name ≠ key := fun same => apart (congrArg Seg.key same)
    simp [nodeParts, lookup_putMember, elsewhere]

/-- A member without a name is no part. -/
theorem nodeParts_put_unnamed (value : JsonValue) :
    nodeParts (putMember [] value out) own = nodeParts out own := by
  funext seg
  cases seg with
  | index position => rfl
  | key name =>
    by_cases unnamed : name = []
    · simp [nodeParts, unnamed]
    · simp [nodeParts, lookup_putMember, unnamed]

/-- A later member does not bring an `additionalProperties` back. -/
theorem NodeFamily.stays (node : NodeFamily place walk keys own out next) (new : key ∉ keys)
    (put : written = putMember key value out ∨ written = out)
    (some : own ≠ []) : written.lookup (text "additionalProperties") = none ∧
      text "additionalProperties" ∈ keys ++ [key] := by
  have absent := node.absent some
  refine ⟨?_, mem_append_left _ absent.2⟩
  rcases put with rfl | rfl
  · have other : text "additionalProperties" ≠ key := fun same => new (same ▸ absent.2)
    rw [lookup_putMember, if_neg other]
    exact absent.1
  · exact absent.1

/-- The loop goes on over a member whose schemas are walked over. -/
theorem NodeFamily.called (node : NodeFamily place walk keys own out next) (new : key ∉ keys)
    (named : key ≠ []) {t : JsonValue}
    (walked : Walked (place.location ++ [.key key]) (subPath place.spath key) next t later)
    (put : written = putMember key t out ∨ written = out) :
    NodeFamily place walk (keys ++ [key]) own written later where
  family := by
    have passed : Seg.key key ∉ namedKeys keys := not_mem_namedKeys new
    have names := namedKeys_push keys named
    rw [namedKeys] at names passed
    rw [names]
    rcases put with rfl | rfl
    · refine node.family.call passed walked ?_ fun other apart => nodeParts_put_other t apart
      intro part member
      rw [nodeParts, if_neg named, lookup_putMember, if_pos rfl] at member
      rcases mem_append.mp member with mine | held
      · simpa [eq_comm] using mine
      · split at held
        case isTrue spelled =>
          have none : own = [] := by
            by_contra some
            exact new (spelled ▸ (node.absent some).2)
          simp [none] at held
        case isFalse => cases held
    · refine node.family.call passed walked ?_ fun _ _ => rfl
      intro part member
      rw [node.family.fresh _ passed] at member
      cases member
  noted := node.noted
  single := node.single
  absent := node.stays new put

/-- The loop goes on over a member that is copied. -/
theorem NodeFamily.copied (node : NodeFamily place walk keys own out next) (new : key ∉ keys)
    (aside : Aside next later) (put : written = putMember key value out ∨ written = out) :
    NodeFamily place walk (keys ++ [key]) own written later := by
  by_cases unnamed : key = []
  · refine ⟨?_, node.noted, node.single, node.stays new put⟩
    have same : nodeParts written own = nodeParts out own := by
      rcases put with rfl | rfl
      · rw [unnamed]
        exact nodeParts_put_unnamed value
      · rfl
    have names : (keys ++ [key]).filter (fun key => decide (key ≠ [])) =
        keys.filter fun key => decide (key ≠ []) := by simp [filter_append, unnamed]
    rw [names, same]
    exact node.family.aside aside
  · exact node.called new unnamed (.of_aside aside) put

/-- The loop goes on over an `additionalProperties` whose fate is put off. -/
theorem NodeFamily.putOff (node : NodeFamily place walk keys own out next) (new : key ∉ keys)
    (spelled : key = text "additionalProperties") {t : JsonValue} {middle : Walk Sub}
    {pending : AddPropsPatch}
    (walked : Walked (place.location ++ [.key key]) (subPath place.spath key) next t middle)
    (noted : NotedAt place t pending) :
    NodeFamily place walk (keys ++ [key]) [pending] out
      { middle with pendingAddprops := middle.pendingAddprops ++ [pending] } := by
  have named : key ≠ [] := spelled ▸ additionalProperties_named
  have none : own = [] := by
    by_contra some
    exact new (spelled ▸ (node.absent some).2)
  have missing := node.unpassed new named
  have passed : Seg.key key ∉ namedKeys keys := not_mem_namedKeys new
  have names := namedKeys_push keys named
  rw [namedKeys] at names passed
  have family : Family place.location place.spath walk
      (((keys.filter fun key => decide (key ≠ [])).map Seg.key) ++ [Seg.key key])
      (nodeParts out [pending]) own middle := by
    refine node.family.call passed walked ?_ ?_
    · intro part member
      rw [nodeParts, if_neg named, missing, if_pos spelled] at member
      simpa [noted.apT] using member
    · intro other apart
      cases other with
      | index position => rfl
      | key name =>
        have elsewhere : name ≠ text "additionalProperties" := fun same =>
          apart (congrArg Seg.key (same.trans spelled.symm))
        simp [nodeParts, elsewhere]
  refine ⟨?_, ?_, by simp, ?_⟩
  · rw [names]
    refine ⟨?_, family.grows, family.guards, family.fresh⟩
    have before := family.pending
    rw [none, append_nil] at before
    simp [before]
  · intro other member
    rw [mem_singleton.mp member]
    exact ⟨noted.spath, noted.location⟩
  · intro _
    exact ⟨spelled ▸ missing, by simp [spelled]⟩

/-- The loop goes on over a member. -/
theorem NodeFamily.member (node : NodeFamily place walk keys own out next) (new : key ∉ keys)
    (call : MemberCall place out key next written later) :
    ∃ own, NodeFamily place walk (keys ++ [key]) own written later := by
  cases call with
  | copied aside value put => exact ⟨own, node.copied new aside put⟩
  | called named walked put => exact ⟨own, node.called new named walked put⟩
  | putOff spelled walked noted rest kept =>
    rw [rest, kept]
    exact ⟨_, node.putOff new spelled walked noted⟩

/-- What a node leaves behind: the guards below it, and at most one of its own. -/
structure NodeWalked (place : Place) (walk : Walk Sub) (out : List Member) (next : Walk Sub) :
    Prop where
  pending : next.pendingAddprops = walk.pendingAddprops
  grows : walk.obligations.length ≤ next.obligations.length
  guards : ∃ below own, next.deferredGuards = walk.deferredGuards ++ (below ++ own) ∧
    Ascends walk.obligations.length next.obligations.length (below ++ own) ∧
    (∀ guard ∈ below, ∃ name rest, name ≠ [] ∧
      guard.location = place.location ++ .key name :: rest ∧
      (∃ tail, guard.spath = place.spath ++ 0x2f :: tail) ∧
      Lacks (.object out) (.key name :: rest) ∧
      (name = text "additionalProperties" → ∀ mine ∈ own, Lacks mine.apT rest)) ∧
    own.length ≤ 1 ∧
    ∀ mine ∈ own, mine.location = place.location ∧ mine.spath = place.spath ∧
      out.lookup (text "additionalProperties") = none

/-- A delayed `additionalProperties` goes back into the document, or a guard takes it over. -/
theorem resolvePending_cases (spath : Bytes) (pending : AddPropsPatch) (out : List Member)
    (walk : Walk Sub) :
    Aside walk (resolvePending spath pending out walk).2 ∧
      ((resolvePending spath pending out walk).1 =
          putMember (text "additionalProperties") pending.apT out ∨
        (resolvePending spath pending out walk).1 = out) ∨
    ((resolvePending spath pending out walk).1 = out ∧
      (resolvePending spath pending out walk).2.pendingAddprops = walk.pendingAddprops ∧
      (resolvePending spath pending out walk).2.obligations.length =
        walk.obligations.length + 1 ∧
      (resolvePending spath pending out walk).2.deferredGuards = walk.deferredGuards ++
        [{ obIdx := walk.obligations.length, apT := pending.apT, spath
           location := pending.location }]) := by
  unfold resolvePending
  split
  · exact .inl ⟨⟨rfl, Nat.le_refl _, rfl⟩, .inl rfl⟩
  · simp only
    split
    · exact .inl ⟨⟨rfl, by simp [backfill, Walk.oblige], rfl⟩, .inr rfl⟩
    · split
      · exact .inr ⟨rfl, rfl, by simp [backfill, Walk.oblige], rfl⟩
      · exact .inl ⟨⟨rfl, by simp [backfill], rfl⟩, .inl rfl⟩

/-- The delayed keywords at the end of a node are its own and those of the nodes above. -/
theorem NodeFamily.split (node : NodeFamily place walk keys own out next)
    (shallow : Shallow walk place.spath) :
    (next.pendingAddprops.filter fun pending => decide (pending.spath = place.spath)) = own ∧
      (next.pendingAddprops.filter fun pending => decide (pending.spath ≠ place.spath)) =
        walk.pendingAddprops := by
  have above : ∀ pending ∈ walk.pendingAddprops, pending.spath ≠ place.spath := by
    intro pending member same
    have shorter := shallow pending member
    rw [same] at shorter
    omega
  have here : ∀ pending ∈ own, pending.spath = place.spath := fun pending member =>
    (node.noted pending member).1
  rw [node.family.pending, filter_append, filter_append]
  refine ⟨?_, ?_⟩
  · rw [filter_eq_nil_iff.mpr (by simpa using above),
      filter_eq_self.mpr (by simpa using here), nil_append]
  · rw [filter_eq_self.mpr (by simpa using above),
      filter_eq_nil_iff.mpr (by simpa using here), append_nil]

/-- A part of a node is looked for in its values. -/
theorem nodeParts_found {name : Bytes} (named : name ≠ [])
    (put : written = out ∨ ∃ pending ∈ own,
      written = putMember (text "additionalProperties") pending.apT out)
    (found : (JsonValue.object written).at? (.key name :: rest) = some node) :
    ∃ part ∈ nodeParts out own (.key name), part.at? rest = some node := by
  obtain ⟨part, here, there⟩ := Option.bind_eq_some_iff.mp found
  refine ⟨part, ?_, there⟩
  rw [nodeParts, if_neg named, mem_append]
  rcases put with rfl | ⟨pending, member, rfl⟩
  · exact .inl (by simp [here])
  · rw [lookup_putMember] at here
    by_cases spelled : name = text "additionalProperties"
    · rw [if_pos spelled, Option.some.injEq] at here
      rw [if_pos spelled, ← here]
      exact .inr (mem_map_of_mem member)
    · rw [if_neg spelled] at here
      exact .inl (by simp [here])

/-- The end of a node. -/
theorem NodeFamily.finish (node : NodeFamily place walk keys own out next)
    (shallow : Shallow walk place.spath) :
    NodeWalked place walk (finishNode place.spath out next).1
      (finishNode place.spath out next).2 := by
  have split := node.split shallow
  obtain ⟨made, same, ascends, known⟩ := node.family.guards
  have named : ∀ {seg : Seg}, seg ∈ namedKeys keys → ∃ name, name ≠ [] ∧ seg = .key name := by
    intro seg member
    obtain ⟨name, kept, rfl⟩ := mem_map.mp member
    exact ⟨name, by simpa using (mem_filter.mp kept).2, rfl⟩
  have below : ∀ (written : List Member) (mine : List DeferredGuard),
      (written = out ∨ ∃ pending ∈ own,
        written = putMember (text "additionalProperties") pending.apT out) →
      (∀ guard ∈ mine, ∃ pending ∈ own, guard.apT = pending.apT) →
      ∀ guard ∈ made, ∃ name rest, name ≠ [] ∧
        guard.location = place.location ++ .key name :: rest ∧
        (∃ tail, guard.spath = place.spath ++ 0x2f :: tail) ∧
        Lacks (.object written) (.key name :: rest) ∧
        (name = text "additionalProperties" → ∀ guard ∈ mine, Lacks guard.apT rest) := by
    intro written mine put held guard member
    obtain ⟨seg, rest, location, passed, spelled, lacks⟩ := known guard member
    obtain ⟨name, some, rfl⟩ := named passed
    refine ⟨name, rest, some, location, spelled, ?_, ?_⟩
    · intro value found
      obtain ⟨part, among, there⟩ := nodeParts_found some put found
      exact lacks part among value there
    · intro spelled other among
      obtain ⟨pending, noted, apT⟩ := held other among
      refine apT ▸ lacks pending.apT ?_
      rw [nodeParts, if_neg some, if_pos spelled, mem_append]
      exact .inr (mem_map_of_mem noted)
  have few := node.single
  rw [finishNode, split.1, split.2]
  cases own with
  | nil =>
    exact ⟨rfl, node.family.grows, made, [], by simpa using same, by simpa using ascends,
      below out [] (.inl rfl) (by simp), by simp, by simp⟩
  | cons pending rest =>
    have last : rest = [] := by
      rw [length_cons] at few
      exact eq_nil_of_length_eq_zero (by omega)
    subst last
    simp only [foldl_cons, foldl_nil]
    have noted := node.noted pending (by simp)
    have missing := (node.absent (by simp)).1
    rcases resolvePending_cases place.spath pending out next with
      ⟨aside, put⟩ | ⟨kept, _, grown, deferred⟩
    · refine ⟨rfl, Nat.le_trans node.family.grows aside.grows, made, [], ?_, ?_, ?_, by simp,
        by simp⟩
      · simpa [aside.guards] using same
      · simpa using ascends.widen aside.grows
      · refine below _ [] ?_ (by simp)
        rcases put with put | put
        · exact .inr ⟨pending, by simp, put⟩
        · exact .inl put
    · have grows := node.family.grows
      refine ⟨rfl, by simp only [grown]; omega, made,
        [{ obIdx := next.obligations.length, apT := pending.apT, spath := place.spath
           location := pending.location }], ?_, ?_, ?_, by simp, ?_⟩
      · simp only [deferred, same, append_assoc]
      · refine ascends.append ⟨by simp, ?_⟩ grows (by simp only [grown]; omega)
        intro guard member
        rw [mem_singleton.mp member]
        simp only [grown]
        omega
      · rw [kept]
        exact below out _ (.inl rfl) (by simp)
      · intro mine member
        rw [mem_singleton.mp member, kept]
        exact ⟨noted.2, rfl, missing⟩

/-- What a node leaves behind, without its own guard told apart. -/
theorem NodeWalked.walked (node : NodeWalked place walk out next) :
    Walked place.location place.spath walk (.object out) next where
  pending := node.pending
  grows := node.grows
  guards := by
    obtain ⟨below, own, same, ascends, inner, _, mine⟩ := node.guards
    refine ⟨below ++ own, same, ascends, ?_⟩
    intro guard member
    rcases mem_append.mp member with there | here
    · obtain ⟨name, rest, _, location, spelled, lacks, _⟩ := inner guard there
      exact ⟨.key name :: rest, location, .inr ⟨by simp, spelled⟩, lacks⟩
    · obtain ⟨location, spelled, missing⟩ := mine guard here
      refine ⟨[], by simpa using location, .inl ⟨rfl, spelled⟩, ?_⟩
      intro value found
      cases found
      exact missing

/-- The prescan only notes exclusions. -/
theorem prescanExclusions_aside (engine : SchemaEngine Sub) (members : List Member) (spath : Bytes)
    (walk : Walk Sub) : Aside walk (prescanExclusions engine members spath walk) := by
  have folded : ∀ (list : List Member) (f : Walk Sub → Member → Walk Sub) (walk : Walk Sub),
      (∀ walk member, Aside walk (f walk member)) → Aside walk (list.foldl f walk) := by
    intro list f
    induction list with
    | nil => exact fun walk _ => ⟨rfl, Nat.le_refl _, rfl⟩
    | cons first rest ih =>
      intro walk each
      have here := each walk first
      have there := ih (f walk first) each
      exact ⟨there.pending.trans here.pending, Nat.le_trans here.grows there.grows,
        there.guards.trans here.guards⟩
  have keys := folded (membersOf members (text "properties"))
    (fun walk member => walk.excludeKey spath member.1) walk
    fun _ _ => ⟨rfl, Nat.le_refl _, rfl⟩
  have patterns := folded (membersOf members (text "patternProperties")) (fun walk member =>
    if engine.stdRegexCompiles member.1 = false then walk
    else if (engine.icuError member.1).isSome then walk
    else (walk.addPattern member.1).excludePattern spath walk.patterns.length)
    ((membersOf members (text "properties")).foldl
      (fun walk member => walk.excludeKey spath member.1) walk) ?_
  · exact ⟨patterns.pending.trans keys.pending, Nat.le_trans keys.grows patterns.grows,
      patterns.guards.trans keys.guards⟩
  · intro walk member
    split
    · exact ⟨rfl, Nat.le_refl _, rfl⟩
    · split
      · exact ⟨rfl, Nat.le_refl _, rfl⟩
      · exact ⟨rfl, Nat.le_refl _, rfl⟩

/-- An object of the document. -/
theorem transformObject_walked (walks : Walks recurse)
    (names : (members.map Prod.fst).Nodup) (parsed : ∀ member ∈ members, member.2.Parsed)
    (shallow : Shallow walk place.spath) {begun : Walk Sub} (aside : Aside walk begun)
    (done : members.foldlM (fun state member =>
      transformMember engine recurse place state.1 member.1 member.2 state.2)
      ([], begun) = .ok (out, next)) :
    NodeWalked place walk (finishNode place.spath out next).1
      (finishNode place.spath out next).2 := by
  have family : ∃ own, NodeFamily place walk (members.map Prod.fst) own out next := by
    refine foldlM_passed (fun passed (state : List Member × Walk Sub) => ∃ own,
      NodeFamily place walk (passed.map Prod.fst) own state.1 state.2) ?_ ?_ done
    · refine ⟨[], .start aside ?_, by simp, by simp, by simp⟩
      intro seg
      cases seg <;> simp [nodeParts]
    · rintro passed ⟨key, value⟩ rest ⟨kept, middle⟩ ⟨written, last⟩ split ⟨own, node⟩ called
      have new : key ∉ passed.map Prod.fst := by
        rw [split, map_append, map_cons, nodup_append] at names
        exact fun old => names.2.2 key old key (by simp) rfl
      have call := transformMember_call walks (parsed (key, value) (by rw [split]; simp))
        (node.above shallow) called
      rw [map_append, map_singleton]
      exact node.member new call
  obtain ⟨own, node⟩ := family
  exact node.finish shallow

/-- `TransformNode`, at every depth. -/
theorem transformNode_walks (engine : SchemaEngine Sub) (options : SchemaOptions) (remaining : Nat) :
    Walks (transformNode engine options remaining) := by
  induction remaining with
  | zero =>
    intro node place walk value next _ _ done
    cases done
  | succ remaining ih =>
    intro node place walk value next parsed shallow done
    have counted : Aside walk { walk with nodes := walk.nodes + 1 } := ⟨rfl, Nat.le_refl _, rfl⟩
    unfold transformNode at done
    simp only at done
    split at done
    · cases done
    · cases node with
      | object members =>
        cases parsed with
        | object names inner =>
          obtain ⟨⟨out, last⟩, folded, same⟩ := bind_eq_ok.mp done
          cases same
          have scanned := prescanExclusions_aside engine members place.spath
            { walk with nodes := walk.nodes + 1 }
          have begun : Aside walk _ := ⟨scanned.pending, scanned.grows, scanned.guards⟩
          exact (transformObject_walked ih names inner shallow begun folded).walked
      | array items =>
        cases parsed with
        | array inner =>
          obtain ⟨⟨t, last⟩, called, same⟩ := bind_eq_ok.mp done
          cases same
          have deeper : Shallow { walk with nodes := walk.nodes + 1 } place.spath := shallow
          have walked := transformItems_walked ih inner deeper (fun i => ⟨rfl, _, rfl⟩) called
          exact walked.behind counted
      | null | bool | int64 | uint64 | double | string =>
        cases done
        exact .of_aside counted

/-- A document that is an object. -/
theorem transformDoc_walked {options : SchemaOptions} (parsed : (JsonValue.object members).Parsed)
    (done : transformDoc engine options (.object members) = .ok (value, walk)) :
    ∃ out, value = .object out ∧
      NodeWalked { plan := [], positional := true, spath := [], location := [] } {} out walk := by
  unfold transformDoc transformNode at done
  simp only at done
  split at done
  · cases done
  · cases parsed with
    | object names inner =>
      obtain ⟨⟨out, last⟩, folded, same⟩ := bind_eq_ok.mp done
      cases same
      have scanned := prescanExclusions_aside engine members [] { ({} : Walk Sub) with nodes := 1 }
      have begun : Aside {} _ := ⟨scanned.pending, scanned.grows, scanned.guards⟩
      exact ⟨_, rfl, transformObject_walked (transformNode_walks engine options _) names inner
        (by simp [Shallow]) begun folded⟩

end Calls

end BbtInfra.Mcp
