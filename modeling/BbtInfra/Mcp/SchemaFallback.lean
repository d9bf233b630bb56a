import BbtInfra.Mcp.SchemaGuards

/-!
# The fallback of a guard

A guard whose separate compilation is refused is withdrawn. What should come of it is said over the
locations: its schema stands again at the node it was taken from, nothing else of the document
changes, and of the obligations only its own goes. The loop over the guards does this exactly when
the refused guards are those of the root.
-/
namespace BbtInfra.Mcp

open JsonValue List

open Lib (bind_eq_ok)

/-- Writes a member into the object at a location. -/
def JsonValue.putAt (doc : JsonValue) (leaf : Bytes) (value : JsonValue) : Location → JsonValue
  | [] =>
    match doc with
    | .object members => .object (putMember leaf value members)
    | _ => doc
  | .key name :: rest =>
    match doc with
    | .object members =>
      match members.lookup name with
      | some inner => .object (putMember name (inner.putAt leaf value rest) members)
      | none => doc
    | _ => doc
  | .index position :: rest =>
    match doc with
    | .array items => .array (items.modify position fun inner => inner.putAt leaf value rest)
    | _ => doc

/-- Putting at the root puts a member. -/
theorem JsonValue.putAt_root (leaf : Bytes) (value : JsonValue) (members : List Member) :
    (object members).putAt leaf value [] = .object (putMember leaf value members) := by
  rw [putAt]

section Restoring

variable {Sub : Type} (compileGuard : GuardCompiler Sub)

/-- The document with the schemas of the refused guards back at their nodes. -/
def restoredDoc (guards : List DeferredGuard) (doc : JsonValue) : JsonValue :=
  guards.foldr (fun guard doc =>
    match compileGuard guard with
    | .ok _ => doc
    | .error _ => doc.putAt (text "additionalProperties") guard.apT guard.location) doc

/-- What becomes of an obligation: that of a bound guard gets its validator, that of a refused guard
goes, every other stays as it is. -/
def settleObligation (guards : List DeferredGuard) (i : Nat) (obligation : Obligation Sub) :
    Option (Obligation Sub) :=
  match guards.find? fun guard => decide (guard.obIdx = i) with
  | none => some obligation
  | some guard =>
    match compileGuard guard with
    | .ok sub => some { obligation with kind := .addPropsSchema (some sub) }
    | .error _ => none

/-- What becomes of the obligations from a position on. -/
def settledFrom (guards : List DeferredGuard) : Nat → List (Obligation Sub) → List (Obligation Sub)
  | _, [] => []
  | i, obligation :: rest =>
    (settleObligation compileGuard guards i obligation).toList ++ settledFrom guards (i + 1) rest

/-- What the loop over the guards should come to. -/
structure Restored (guards : List DeferredGuard) (doc : JsonValue)
    (obligations : List (Obligation Sub)) (out : JsonValue) (left : List (Obligation Sub)) :
    Prop where
  placed : ∀ guard ∈ guards, Refused compileGuard guard →
    ((out.at? guard.location).bind fun node => node.find (text "additionalProperties")) =
      some guard.apT
  document : out = restoredDoc compileGuard guards doc
  obligations : left = settledFrom compileGuard guards 0 obligations

variable {compileGuard}

/-- Guards, part by part. -/
theorem settledFrom_append (guards : List DeferredGuard) (i : Nat)
    (first second : List (Obligation Sub)) :
    settledFrom compileGuard guards i (first ++ second) =
      settledFrom compileGuard guards i first ++
        settledFrom compileGuard guards (i + first.length) second := by
  induction first generalizing i with
  | nil => rfl
  | cons obligation rest ih =>
    rw [cons_append, settledFrom, settledFrom, ih, length_cons, append_assoc,
      Nat.add_assoc, Nat.add_comm 1]

/-- Obligations that no guard has stay. -/
theorem settledFrom_untouched {guards : List DeferredGuard} {i : Nat}
    {obligations : List (Obligation Sub)}
    (away : ∀ guard ∈ guards, guard.obIdx < i ∨ i + obligations.length ≤ guard.obIdx) :
    settledFrom compileGuard guards i obligations = obligations := by
  induction obligations generalizing i with
  | nil => rfl
  | cons obligation rest ih =>
    have none : guards.find? (fun guard => decide (guard.obIdx = i)) = none := by
      rw [find?_eq_none]
      intro guard member
      have far := away guard member
      rw [length_cons] at far
      simp only [decide_eq_true_eq]
      omega
    have later : settledFrom compileGuard guards (i + 1) rest = rest := by
      apply ih
      intro guard member
      have far := away guard member
      rw [length_cons] at far
      omega
    rw [settledFrom, settleObligation, none, later]
    rfl

/-- A guard has nothing to do with the obligations behind its own. -/
theorem settledFrom_skip {guard : DeferredGuard} {guards : List DeferredGuard} {i : Nat}
    (before : guard.obIdx < i) (obligations : List (Obligation Sub)) :
    settledFrom compileGuard (guard :: guards) i obligations =
      settledFrom compileGuard guards i obligations := by
  induction obligations generalizing i with
  | nil => rfl
  | cons obligation rest ih =>
    have apart : decide (guard.obIdx = i) = false := by
      simp only [decide_eq_false_iff_not]
      omega
    have same : settleObligation compileGuard (guard :: guards) i obligation =
        settleObligation compileGuard guards i obligation := by
      rw [settleObligation, settleObligation, find?_cons, apart]
    rw [settledFrom, settledFrom, same, ih (by omega)]

variable (compileGuard) in
/-- The obligations around that of the first guard. -/
theorem settled_around {guard : DeferredGuard} {guards : List DeferredGuard}
    {obligations : List (Obligation Sub)} (within : guard.obIdx < obligations.length)
    (above : ∀ other ∈ guards, guard.obIdx < other.obIdx) :
    ∃ first obligation behind, first.length = guard.obIdx ∧
      settledFrom compileGuard guards 0 obligations = first ++ obligation :: behind ∧
      settledFrom compileGuard (guard :: guards) 0 obligations = first ++
        ((match compileGuard guard with
          | .ok sub => some { obligation with kind := .addPropsSchema (some sub) }
          | .error _ => none : Option (Obligation Sub)).toList ++ behind) := by
  have length : (obligations.take guard.obIdx).length = guard.obIdx := by
    rw [length_take]
    omega
  have split : obligations = obligations.take guard.obIdx ++
      (obligations[guard.obIdx] :: obligations.drop (guard.obIdx + 1)) := by
    rw [getElem_cons_drop, take_append_drop]
  refine ⟨obligations.take guard.obIdx, obligations[guard.obIdx],
    settledFrom compileGuard guards (guard.obIdx + 1) (obligations.drop (guard.obIdx + 1)),
    length, ?_, ?_⟩
  · have first : settledFrom compileGuard guards 0 (obligations.take guard.obIdx) =
        obligations.take guard.obIdx := by
      apply settledFrom_untouched
      intro other member
      have later := above other member
      omega
    have here : settleObligation compileGuard guards guard.obIdx obligations[guard.obIdx] =
        some obligations[guard.obIdx] := by
      have none : guards.find? (fun other => decide (other.obIdx = guard.obIdx)) = none := by
        rw [find?_eq_none]
        intro other member
        have later := above other member
        simp only [decide_eq_true_eq]
        omega
      rw [settleObligation, none]
    conv_lhs => rw [split]
    rw [settledFrom_append, first, length, Nat.zero_add, settledFrom, here]
    rfl
  · have first : settledFrom compileGuard (guard :: guards) 0 (obligations.take guard.obIdx) =
        obligations.take guard.obIdx := by
      apply settledFrom_untouched
      intro other member
      rcases mem_cons.mp member with rfl | among
      · omega
      · have later := above other among
        omega
    have here : settleObligation compileGuard (guard :: guards) guard.obIdx
        obligations[guard.obIdx] = (match compileGuard guard with
          | .ok sub => some { obligations[guard.obIdx] with kind := .addPropsSchema (some sub) }
          | .error _ => none) := by
      rw [settleObligation, find?_cons, decide_eq_true rfl]
    conv_lhs => rw [split]
    rw [settledFrom_append, first, length, Nat.zero_add, settledFrom, here,
      settledFrom_skip (Nat.lt_succ_self _)]

end Restoring

section Loop

variable {Sub : Type} {compileGuard : GuardCompiler Sub} {guard : DeferredGuard}
  {guards : List DeferredGuard} {doc : JsonValue} {out : List Member}
  {obligations : List (Obligation Sub)}

/-- The guard that was noted first is the last one in the loop. -/
theorem bindGuards_cons (compileGuard : GuardCompiler Sub) (guard : DeferredGuard)
    (guards : List DeferredGuard) (doc : JsonValue) (obligations : List (Obligation Sub)) :
    bindGuards compileGuard (guard :: guards) doc obligations =
      bindGuards compileGuard guards doc obligations >>= fun state =>
        bindGuard compileGuard state guard := by
  rw [bindGuards, bindGuards, reverse_cons, foldlM_append]
  simp only [foldlM_cons, foldlM_nil, bind_pure]

/-- A guard of the root finds its node. -/
theorem addMemberAtPath_root (leaf : Bytes) (value : JsonValue) (members : List Member) :
    addMemberAtPath (.object members) [] leaf value =
      some (.object (putMember leaf value members)) := by
  rw [addMemberAtPath, if_pos rfl, addMemberAt]

/-- A path text below the root leads into the member without a name. -/
theorem addMemberAtPath_below {tail leaf : Bytes} {value written : JsonValue}
    {members : List Member}
    (done : addMemberAtPath (.object members) (0x2f :: tail) leaf value = some written) :
    ∃ inner, written = .object (putMember [] inner members) := by
  have segments : (0x2f :: tail : Bytes).splitOn 0x2f = [] :: tail.splitOn 0x2f := by
    simp [splitOn, splitOnP_cons_eq_if_splitOnPPrepend]
  rw [addMemberAtPath, if_neg (by simp), segments, addMemberAt] at done
  simp only [bind, Option.bind_eq_some_iff, pure, Option.some.injEq] at done
  obtain ⟨_, _, inner, _, same⟩ := done
  exact ⟨inner, same.symm⟩

/-- What a turn of the loop does to the document. -/
theorem bindGuard_document {state next : JsonValue × List (Obligation Sub)}
    (done : bindGuard compileGuard state guard = .ok next) :
    next.1 = state.1 ∨ Refused compileGuard guard ∧
      addMemberAtPath state.1 guard.spath (text "additionalProperties") guard.apT =
        some next.1 := by
  unfold bindGuard at done
  split at done
  · cases done
    exact .inl rfl
  · rename_i failed
    split at done
    · rename_i written found
      cases done
      exact .inr ⟨.inl failed, found⟩
    · cases done
  · rename_i failed
    split at done
    · rename_i written found
      cases done
      exact .inr ⟨.inr failed, found⟩
    · cases done
  · cases done

/-- Where the guards were made, as far as the root is concerned. -/
def Rooted (guard : DeferredGuard) : Prop :=
  (guard.location = [] ∧ guard.spath = []) ∨
    (guard.location ≠ [] ∧ ∃ tail, guard.spath = 0x2f :: tail)

/-- The loop changes the named members of the root by the guards of the root only. -/
theorem bindGuards_members (rooted : ∀ guard ∈ guards, Rooted guard) {written : JsonValue}
    {left : List (Obligation Sub)}
    (done : bindGuards compileGuard guards (.object out) obligations = .ok (written, left)) :
    ∃ members, written = .object members ∧ ∀ name, name ≠ [] →
      members.lookup name = out.lookup name ∨ (name = text "additionalProperties" ∧
        ∃ mine ∈ guards, mine.location = [] ∧ members.lookup name = some mine.apT) := by
  induction guards generalizing written left with
  | nil =>
    cases done
    exact ⟨out, rfl, fun _ _ => .inl rfl⟩
  | cons guard guards ih =>
    rw [bindGuards_cons] at done
    obtain ⟨⟨middle, before⟩, earlier, turn⟩ := bind_eq_ok.mp done
    obtain ⟨members, rfl, known⟩ := ih (fun other member => rooted other (by simp [member])) earlier
    have kept : ∀ name, name ≠ [] → members.lookup name = out.lookup name ∨
        (name = text "additionalProperties" ∧ ∃ mine ∈ guard :: guards,
          mine.location = [] ∧ members.lookup name = some mine.apT) := by
      intro name named
      rcases known name named with same | ⟨spelled, mine, member, root, found⟩
      · exact .inl same
      · exact .inr ⟨spelled, mine, by simp [member], root, found⟩
    rcases bindGuard_document turn with same | ⟨_, found⟩
    · exact ⟨members, same, kept⟩
    · rcases rooted guard (by simp) with ⟨root, spelled⟩ | ⟨_, tail, spelled⟩
      · rw [spelled, addMemberAtPath_root, Option.some.injEq] at found
        refine ⟨_, found.symm, ?_⟩
        intro name named
        rw [lookup_putMember]
        by_cases spelled : name = text "additionalProperties"
        · exact .inr ⟨spelled, guard, by simp, root, by rw [if_pos spelled]⟩
        · rw [if_neg spelled]
          exact kept name named
      · rw [spelled] at found
        obtain ⟨inner, same⟩ := addMemberAtPath_below found
        refine ⟨_, same, ?_⟩
        intro name named
        rw [lookup_putMember, if_neg named]
        exact kept name named

/-- Where the refused guards are those of the root, the loop does what it should. -/
theorem bindGuards_root (increasing : (guards.map DeferredGuard.obIdx).Pairwise (· < ·))
    (within : ∀ guard ∈ guards, guard.obIdx < obligations.length)
    (decided : ∀ guard ∈ guards, (∃ sub, compileGuard guard = .ok sub) ∨
      Refused compileGuard guard)
    (root : ∀ guard ∈ guards, Refused compileGuard guard →
      guard.location = [] ∧ guard.spath = []) :
    ∃ members, restoredDoc compileGuard guards (.object out) = .object members ∧
      bindGuards compileGuard guards (.object out) obligations =
        .ok (.object members, settledFrom compileGuard guards 0 obligations) := by
  induction guards with
  | nil =>
    have all : settledFrom compileGuard [] 0 obligations = obligations :=
      settledFrom_untouched (by simp)
    refine ⟨out, rfl, ?_⟩
    rw [all]
    rfl
  | cons guard guards ih =>
    rw [map_cons, pairwise_cons] at increasing
    obtain ⟨members, restored, earlier⟩ := ih increasing.2
      (fun other member => within other (by simp [member]))
      (fun other member => decided other (by simp [member]))
      (fun other member => root other (by simp [member]))
    have above : ∀ other ∈ guards, guard.obIdx < other.obIdx := fun other member =>
      increasing.1 other.obIdx (mem_map_of_mem member)
    obtain ⟨first, obligation, behind, length, before, after⟩ :=
      settled_around compileGuard (within guard (by simp)) above
    have restored' : restoredDoc compileGuard (guard :: guards) (.object out) =
        match compileGuard guard with
        | .ok _ => .object members
        | .error _ => (object members).putAt (text "additionalProperties") guard.apT
            guard.location := by
      rw [restoredDoc, foldr_cons, ← restored]
      rfl
    rw [bindGuards_cons, earlier, after, before, restored']
    have pruned : (first ++ obligation :: behind).eraseIdx guard.obIdx = first ++ behind := by
      rw [eraseIdx_append_of_length_le (by omega), ← length, Nat.sub_self,
        eraseIdx_cons_zero]
    rcases decided guard (by simp) with ⟨sub, bound⟩ | refused
    · have replaced : (first ++ obligation :: behind).modify guard.obIdx
          (fun obligation => { obligation with kind := .addPropsSchema (some sub) }) =
          first ++ { obligation with kind := .addPropsSchema (some sub) } :: behind := by
        rw [modify_eq_take_drop, ← length, take_left, drop_left]
        rfl
      refine ⟨members, by rw [bound], ?_⟩
      simp only [bind, Except.bind, bindGuard, bound, replaced]
      rfl
    · obtain ⟨here, spelled⟩ := root guard (by simp) refused
      refine ⟨putMember (text "additionalProperties") guard.apT members, ?_, ?_⟩
      · rcases refused with failed | failed
        · rw [failed, here, ← putAt_root]
        · rw [failed, here, ← putAt_root]
      · rcases refused with failed | failed
        · simp only [bind, Except.bind, bindGuard, failed, spelled, addMemberAtPath_root, pruned]
          rfl
        · simp only [bind, Except.bind, bindGuard, failed, spelled, addMemberAtPath_root, pruned]
          rfl

/-- Guards that were all bound leave the document as it is. -/
theorem restoredDoc_bound (bound : ∀ guard ∈ guards, ∃ sub, compileGuard guard = .ok sub)
    (doc : JsonValue) : restoredDoc compileGuard guards doc = doc := by
  induction guards with
  | nil => rfl
  | cons guard guards ih =>
    obtain ⟨sub, here⟩ := bound guard (by simp)
    have rest := ih fun other member => bound other (by simp [member])
    rw [restoredDoc, foldr_cons, here]
    exact rest

end Loop

section Whole

variable {Sub : Type} {engine : SchemaEngine Sub} {compileGuard : GuardCompiler Sub}
  {options : SchemaOptions} {members : List Member} {value : JsonValue} {walk : Walk Sub}

/-- A schema that is an object. -/
theorem object_restores_iff (parsed : (object members).Parsed)
    (done : transformDoc engine options (.object members) = .ok (value, walk))
    (decided : ∀ guard ∈ walk.deferredGuards, (∃ sub, compileGuard guard = .ok sub) ∨
      Refused compileGuard guard) :
    (∃ out left, bindGuards compileGuard walk.deferredGuards value walk.obligations =
        .ok (out, left) ∧
      Restored compileGuard walk.deferredGuards value walk.obligations out left) ↔
      ∀ guard ∈ walk.deferredGuards, Refused compileGuard guard → guard.location = [] := by
  obtain ⟨out, rfl, node⟩ := transformDoc_walked parsed done
  obtain ⟨below, own, same, ascends, inner, few, mine⟩ := node.guards
  have all : walk.deferredGuards = below ++ own := same
  rw [all] at decided ⊢
  have rooted : ∀ guard ∈ below ++ own, Rooted guard := by
    intro guard member
    rcases mem_append.mp member with there | here
    · obtain ⟨name, rest, _, location, spelled, _⟩ := inner guard there
      exact .inr ⟨by rw [location]; simp, spelled⟩
    · obtain ⟨location, spelled, _⟩ := mine guard here
      exact .inl ⟨location, spelled⟩
  have among : ∀ guard ∈ below ++ own, guard.location = [] → guard ∈ own := by
    intro guard member root
    rcases mem_append.mp member with there | here
    · obtain ⟨name, rest, _, location, _⟩ := inner guard there
      rw [root] at location
      cases location
    · exact here
  constructor
  · rintro ⟨written, left, looped, restored⟩ guard member refused
    rcases mem_append.mp member with there | here
    · exfalso
      obtain ⟨name, rest, named, location, _, lacks, apart⟩ := inner guard there
      obtain ⟨members, rfl, known⟩ := bindGuards_members rooted looped
      have placed := restored.placed guard member refused
      rw [location] at placed
      simp only [nil_append, JsonValue.at?] at placed
      rcases known name named with same | ⟨spelled, other, present, root, found⟩
      · rw [same] at placed
        obtain ⟨value, found, holds⟩ := Option.bind_eq_some_iff.mp placed
        rw [lacks value found] at holds
        cases holds
      · rw [found] at placed
        obtain ⟨value, found, holds⟩ := Option.bind_eq_some_iff.mp placed
        have missing := apart spelled other (among other present root)
        rw [missing value found] at holds
        cases holds
    · exact (mine guard here).1
  · intro root
    have both : ∀ guard ∈ below ++ own, Refused compileGuard guard →
        guard.location = [] ∧ guard.spath = [] := by
      intro guard member refused
      have here := root guard member refused
      exact ⟨here, (mine guard (among guard member here)).2.1⟩
    obtain ⟨members, restored, looped⟩ := bindGuards_root ascends.increasing
      (fun guard member => (ascends.within guard member).2) decided both
    refine ⟨_, _, looped, ?_, restored.symm, rfl⟩
    intro guard member refused
    have location := root guard member refused
    have here := among guard member location
    have bound : ∀ other ∈ below, ∃ sub, compileGuard other = .ok sub := by
      intro other there
      have present := mem_append_left own there
      rcases decided other present with bound | refused
      · exact bound
      · obtain ⟨name, rest, _, below, _⟩ := inner other there
        rw [root other present refused] at below
        cases below
    have only : own = [guard] := by
      cases own with
      | nil => cases here
      | cons first rest =>
        rw [length_cons] at few
        have last : rest = [] := eq_nil_of_length_eq_zero (by omega)
        rw [last] at here ⊢
        rw [mem_singleton.mp here]
    have written : restoredDoc compileGuard (below ++ own) (.object out) =
        .object (putMember (text "additionalProperties") guard.apT out) := by
      have inside : restoredDoc compileGuard (below ++ own) (.object out) =
          restoredDoc compileGuard below (restoredDoc compileGuard own (.object out)) := by
        rw [restoredDoc, foldr_append]
        rfl
      rw [inside, restoredDoc_bound bound, only, ← putAt_root, ← location]
      rcases refused with failed | failed
      · simp only [restoredDoc, foldr_cons, foldr_nil, failed]
      · simp only [restoredDoc, foldr_cons, foldr_nil, failed]
    rw [written] at restored
    rw [location, ← restored]
    simp only [JsonValue.at?, Option.bind_some, find, lookup_putMember]
    rfl

/-- The fallback puts the schema of every refused guard back at its node, and takes away that
guard's obligation only, exactly when the refused guards are all guards of the root. A schema is an
object or a truth value. -/
theorem fallback_restores_iff {doc : JsonValue} (schema : doc.isObject ∨ doc.isBool)
    (parsed : doc.Parsed) (done : transformDoc engine options doc = .ok (value, walk))
    (decided : ∀ guard ∈ walk.deferredGuards, (∃ sub, compileGuard guard = .ok sub) ∨
      Refused compileGuard guard) :
    (∃ out left, bindGuards compileGuard walk.deferredGuards value walk.obligations =
        .ok (out, left) ∧
      Restored compileGuard walk.deferredGuards value walk.obligations out left) ↔
      ∀ guard ∈ walk.deferredGuards, Refused compileGuard guard → guard.location = [] := by
  cases doc with
  | object members => exact object_restores_iff parsed done decided
  | bool truth =>
    unfold transformDoc transformNode at done
    simp only at done
    split at done
    · cases done
    · cases done
      have kept : settledFrom compileGuard [] 0 ([] : List (Obligation Sub)) = [] := rfl
      constructor
      · intro _ guard member
        cases member
      · intro _
        refine ⟨.bool truth, [], rfl, ?_, rfl, kept.symm⟩
        intro guard member
        cases member
  | null | int64 | uint64 | double | string | array =>
    simp [isObject, isBool] at schema

end Whole

/-- Of all patterns only the class of the letters is for ICU alone; every moved schema compiles. -/
def letterEngine : SchemaEngine Unit where
  stdRegexCompiles pattern := decide (pattern ≠ text "\\p\x7bL\x7d+")
  icuError _ := none
  compileDoc _ := .ok ()

/-- A schema whose `additionalProperties` refers to another resource, beside a moved pattern. -/
def guardedSchema : List Member :=
  [(text "additionalProperties", .object [(text "$ref", .string (text "http://x/y"))]),
    (text "patternProperties", .object [(text "\\p\x7bL\x7d+", .object [])])]

/-- The sample schema is as the parser leaves it. -/
theorem guardedSchema_parsed : (JsonValue.object guardedSchema).Parsed := by
  have ref : (object [(text "$ref", .string (text "http://x/y"))]).Parsed :=
    .object (by simp) (by simpa using .string _)
  have patterns : (object [(text "\\p\x7bL\x7d+", .object [])]).Parsed :=
    .object (by simp) (by simpa using .object (by simp) (by simp))
  refine .object (by decide +kernel) ?_
  intro member among
  rcases mem_pair.mp among with rfl | rfl
  · exact ref
  · exact patterns

/-- At the root the schema is put back. -/
theorem fallback_restores_iff_root : ∃ value walk out left,
    transformDoc letterEngine {} (.object guardedSchema) = .ok (value, walk) ∧
    walk.deferredGuards.length = 1 ∧
    bindGuards (fun _ => .error .resolverRejected) walk.deferredGuards value walk.obligations =
      .ok (out, left) ∧
    Restored (fun _ => .error .resolverRejected) walk.deferredGuards value walk.obligations out
      left := by
  have checked : (match transformDoc letterEngine {} (.object guardedSchema) with
      | .ok (_, walk) => decide (walk.deferredGuards.map DeferredGuard.location = [[]])
      | .error _ => false) = true := by
    decide +kernel
  cases done : transformDoc letterEngine {} (.object guardedSchema) with
  | error failure =>
    rw [done] at checked
    cases checked
  | ok result =>
    obtain ⟨value, walk⟩ := result
    rw [done] at checked
    have locations : walk.deferredGuards.map DeferredGuard.location = [[]] :=
      of_decide_eq_true checked
    have single : walk.deferredGuards.length = 1 := by
      rw [← length_map (f := DeferredGuard.location), locations]
      rfl
    have root : ∀ guard ∈ walk.deferredGuards, guard.location = [] := by
      intro guard member
      have among : guard.location ∈ walk.deferredGuards.map DeferredGuard.location :=
        mem_map_of_mem member
      rw [locations] at among
      exact mem_singleton.mp among
    obtain ⟨out, left, looped, restored⟩ :=
      (fallback_restores_iff (.inl rfl) guardedSchema_parsed done
        fun _ _ => .inr (.inl rfl)).mpr
        fun guard member _ => root guard member
    exact ⟨value, walk, out, left, rfl, single, looped, restored⟩

/-- Below `properties` the path is lost, and the schema does not compile. -/
theorem fallback_lost_below_root :
    (JsonValue.object [(text "properties", .object [(text "a", .object guardedSchema)])]).Parsed ∧
    (match compileDocCore (fun _ => .error .resolverRejected) letterEngine {}
        (.object [(text "properties", .object [(text "a", .object guardedSchema)])]) with
      | .error failure => failure = .build .internal (text "deferred AP fallback lost")
      | .ok _ => False) := by
  have inner : (object [(text "a", .object guardedSchema)]).Parsed :=
    .object (by simp) (by simpa using guardedSchema_parsed)
  have outer : (object [(text "properties",
      .object [(text "a", .object guardedSchema)])]).Parsed :=
    .object (by simp) (by simpa using inner)
  have checked : (match compileDocCore (fun _ => .error .resolverRejected) letterEngine {}
        (.object [(text "properties", .object [(text "a", .object guardedSchema)])]) with
      | .error failure => decide (failure = .build .internal (text "deferred AP fallback lost"))
      | .ok _ => false) = true := by
    decide +kernel
  refine ⟨outer, ?_⟩
  split at checked
  · exact of_decide_eq_true checked
  · cases checked

end BbtInfra.Mcp
