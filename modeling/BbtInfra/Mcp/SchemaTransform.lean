import BbtInfra.Lib.Decimal
import BbtInfra.Mcp.JsonValue

/-!
# The transform of a schema

`TransformNode` walks over a schema before it is compiled. What only ICU accepts of its regular
expressions leaves the document and becomes an obligation, which is executed beside the engine that
compiles the document. Documents are `JsonValue`s with the members of an object in the order of
their keys. The regular expressions and the compilation of a subschema are parameters. Beside its
path text each obligation and each note of the walk has the location it was made at.
-/
namespace BbtInfra.Mcp

open Lib (decimal)

/-- `SchemaErrorCode`. -/
inductive SchemaErrorCode
  | invalidSchema | externalRef | limitExceeded | regexInvalid | unsupported | internal
  deriving DecidableEq, Repr

/-- What a compilation throws: a `BuildError`, `ResolverRejected`, a `schema_error` of the engine,
or something else. -/
inductive CompileFailure
  | build (code : SchemaErrorCode) (message : Bytes)
  | resolverRejected
  | schemaError
  | other
  deriving DecidableEq, Repr

/-- The limits of `SchemaOptions` that the transform keeps. -/
structure SchemaOptions where
  maxSchemaDepth : Nat := 64
  maxSchemaNodes : Nat := 10000

/-- The regular expressions and the compilation of a moved subschema. -/
structure SchemaEngine (Sub : Type) where
  /-- `StdRegexCompiles`. -/
  stdRegexCompiles : Bytes → Bool
  /-- `TryCompileIcu`: none, or the name of the error. -/
  icuError : Bytes → Option Bytes
  /-- `CompileDoc`. -/
  compileDoc : JsonValue → Except CompileFailure Sub

/-- A member of an object. -/
abbrev Member := Bytes × JsonValue

/-- A step from a document to a part of it. -/
inductive Seg
  | key (name : Bytes)
  | index (position : Nat)
  deriving DecidableEq, Repr

/-- Where a schema stands in the document. -/
abbrev Location := List Seg

/-- Writes a member in the order of the keys. -/
def putMember (key : Bytes) (value : JsonValue) : List Member → List Member
  | [] => [(key, value)]
  | (other, old) :: rest =>
    if key = other then (key, value) :: rest
    else if key < other then (key, value) :: (other, old) :: rest
    else (other, old) :: putMember key value rest

/-- A path text with one more segment, as it is. -/
def subPath (spath segment : Bytes) : Bytes := spath ++ 0x2f :: segment

/-- A step from the place of a schema to the instances it is for. -/
inductive PlanStep
  | prop (key : Bytes)
  | everyItem
  | itemAt (position : Nat)
  /-- With the keys and the patterns of the snapshot. -/
  | addProps (exclKeys : List Bytes) (exclPatterns : List Nat)
  deriving DecidableEq, Repr

/-- What an obligation asks. A pattern is its position in the list of patterns. -/
inductive ObligationKind (Sub : Type)
  | pattern (pattern : Nat)
  | patternProps (pattern : Nat) (sub : Sub)
  | addPropsSchema (sub : Option Sub)
  | addPropsClosed

/-- `Obligation`. -/
structure Obligation (Sub : Type) where
  kind : ObligationKind Sub
  plan : List PlanStep
  schemaPath : Bytes
  location : Location

/-- `AddPropsPatch`: an `additionalProperties` whose fate is decided at the end of its node. -/
structure AddPropsPatch where
  ob0 : Nat
  ob1 : Nat
  stepIdx : Nat
  spath : Bytes
  plan : List PlanStep
  apT : JsonValue
  apFalse : Bool
  location : Location

/-- `DeferredGuard`. -/
structure DeferredGuard where
  obIdx : Nat
  apT : JsonValue
  spath : Bytes
  location : Location

/-- What a node keeps out of its `additionalProperties`. -/
structure Exclusions where
  patterns : List Nat := []
  keys : List Bytes := []
  deriving DecidableEq, Repr

/-- `Walk`. -/
structure Walk (Sub : Type) where
  patterns : List Bytes := []
  obligations : List (Obligation Sub) := []
  ids : List Bytes := []
  excl : Bytes → Option Exclusions := fun _ => none
  pendingAddprops : List AddPropsPatch := []
  deferredGuards : List DeferredGuard := []
  relocatedPpNodes : List Bytes := []
  nodes : Nat := 0

/-- Where `TransformNode` is called. -/
structure Place where
  plan : List PlanStep
  positional : Bool
  spath : Bytes
  location : Location

/-- What the walk does with a member of a schema. -/
inductive Keyword
  | id | pattern | patternProperties | properties | items | prefixItems | additionalProperties
  | allOf
  /-- One schema that holds under a condition. -/
  | conditional
  /-- `anyOf` and `oneOf`. -/
  | choice
  /-- An object of schemas. -/
  | schemaMap
  | other
  deriving DecidableEq, Repr

/-- The keywords with one conditional schema. -/
def conditionalKeywords : List Bytes :=
  [text "not", text "if", text "then", text "else", text "contains", text "propertyNames",
    text "contentSchema", text "unevaluatedProperties", text "unevaluatedItems"]

/-- The keywords with an object of schemas. -/
def schemaMapKeywords : List Bytes :=
  [text "$defs", text "definitions", text "dependencies", text "dependentSchemas"]

/-- The keyword of a member. -/
def Keyword.of (key : Bytes) : Keyword :=
  if key = text "$id" then .id
  else if key = text "pattern" then .pattern
  else if key = text "patternProperties" then .patternProperties
  else if key = text "properties" then .properties
  else if key = text "items" then .items
  else if key = text "prefixItems" then .prefixItems
  else if key = text "additionalProperties" then .additionalProperties
  else if key = text "allOf" then .allOf
  else if key ∈ conditionalKeywords then .conditional
  else if key = text "anyOf" ∨ key = text "oneOf" then .choice
  else if key ∈ schemaMapKeywords then .schemaMap
  else .other

namespace Walk

variable {Sub : Type} (walk : Walk Sub)

/-- A pattern is kept; its position is the number of those before. -/
def addPattern (pattern : Bytes) : Walk Sub := { walk with patterns := walk.patterns ++ [pattern] }

/-- An obligation is made. -/
def oblige (obligation : Obligation Sub) : Walk Sub :=
  { walk with obligations := walk.obligations ++ [obligation] }

/-- `w->excl[spath]` is written. -/
def exclude (spath : Bytes) (f : Exclusions → Exclusions) : Walk Sub :=
  { walk with excl := fun other =>
      if other = spath then some (f ((walk.excl spath).getD {})) else walk.excl other }

/-- A key of `properties`. -/
def excludeKey (spath key : Bytes) : Walk Sub :=
  walk.exclude spath fun exclusions => { exclusions with keys := exclusions.keys ++ [key] }

/-- A pattern of `patternProperties`, by its position. -/
def excludePattern (spath : Bytes) (position : Nat) : Walk Sub :=
  walk.exclude spath fun exclusions =>
    { exclusions with patterns := exclusions.patterns ++ [position] }

end Walk

section Transform

variable {Sub : Type}

/-- A call of `TransformNode` one level down. -/
abbrev Recurse (Sub : Type) := JsonValue → Place → Walk Sub →
  Except CompileFailure (JsonValue × Walk Sub)

variable (engine : SchemaEngine Sub) (recurse : Recurse Sub)

/-- The members of `value.member`, when it is an object. -/
def membersOf (members : List Member) (key : Bytes) : List Member :=
  match members.lookup key with
  | some (.object inner) => inner
  | _ => []

/-- `PrescanExclusions`. -/
def prescanExclusions (members : List Member) (spath : Bytes) (walk : Walk Sub) : Walk Sub :=
  let walk := (membersOf members (text "properties")).foldl
    (fun walk member => walk.excludeKey spath member.1) walk
  (membersOf members (text "patternProperties")).foldl
    (fun walk member =>
      if engine.stdRegexCompiles member.1 = false then walk
      else if (engine.icuError member.1).isSome then walk
      else (walk.addPattern member.1).excludePattern spath walk.patterns.length) walk

/-- The schemas of an object, each at its own place. -/
def transformMap (place : Bytes → Place) (members : List Member) (walk : Walk Sub) :
    Except CompileFailure (List Member × Walk Sub) :=
  members.foldlM (fun (out, walk) (key, value) => do
    let (t, walk) ← recurse value (place key) walk
    return (putMember key t out, walk)) ([], walk)

/-- The schemas of an array, each at its own place. -/
def transformItems (place : Nat → Place) (items : List JsonValue) (walk : Walk Sub) :
    Except CompileFailure (List JsonValue × Walk Sub) :=
  items.foldlM (fun (out, walk) value => do
    let (t, walk) ← recurse value (place out.length) walk
    return (out ++ [t], walk)) ([], walk)

/-- The message of a pattern that neither engine accepts. -/
def icuMessage (prefix' error : Bytes) : Bytes := prefix' ++ text " (icu: " ++ error ++ text ")"

/-- `pattern`. -/
def transformPattern (place : Place) (out : List Member) (key : Bytes) (value : JsonValue)
    (walk : Walk Sub) : Except CompileFailure (List Member × Walk Sub) :=
  match value with
  | .string pattern =>
    if engine.stdRegexCompiles pattern then return (putMember key value out, walk)
    else
      match engine.icuError pattern with
      | some error => throw (.build .regexInvalid (icuMessage (text "invalid regex pattern") error))
      | none =>
        if place.positional = false then
          throw (.build .unsupported (text "icu-only pattern in conditional/ref position"))
        else
          return (out, (walk.addPattern pattern).oblige
            { kind := .pattern walk.patterns.length
              plan := place.plan
              schemaPath := subPath place.spath (text "pattern")
              location := place.location })
  | _ => return (putMember key value out, walk)

/-- The place of a kept schema of `patternProperties`: the plan is that of the node. -/
def keptPlace (place : Place) (key : Bytes) : Place :=
  { place with
    spath := subPath (subPath place.spath (text "patternProperties")) key
    location := place.location ++ [.key (text "patternProperties"), .key key] }

/-- The place of a moved schema of `patternProperties`. -/
def movedPlace (place : Place) (key : Bytes) : Place where
  plan := []
  positional := false
  spath := subPath (subPath place.spath (text "patternProperties")) (text "__sub")
  location := place.location ++ [.key (text "patternProperties"), .key key]

/-- A schema of `patternProperties` that only ICU can match. -/
def transformMoved (place : Place) (key : Bytes) (value : JsonValue) (walk : Walk Sub) :
    Except CompileFailure (Walk Sub) :=
  match engine.icuError key with
  | some error =>
    throw (.build .regexInvalid (icuMessage (text "invalid patternProperties regex") error))
  | none =>
    if place.positional = false then
      throw (.build .unsupported (text "icu-only patternProperties in conditional/ref position"))
    else do
      let idx := walk.patterns.length
      let (subT, walk) ← recurse value (movedPlace place key) (walk.addPattern key)
      match engine.compileDoc subT with
      | .error .resolverRejected =>
        throw (.build .unsupported (text "patternProperties subschema refs outside itself"))
      | .error .schemaError =>
        throw (.build .unsupported (text "patternProperties subschema not self-contained"))
      | .error failure => throw failure
      | .ok sub =>
        let obliged := walk.oblige
          { kind := .patternProps idx sub
            plan := place.plan
            schemaPath := subPath place.spath (text "patternProperties")
            location := place.location }
        let excluded := obliged.excludePattern place.spath idx
        return { excluded with relocatedPpNodes := place.spath :: excluded.relocatedPpNodes }

/-- `patternProperties`: the patterns that `std::regex` accepts stay. -/
def transformPatternProperties (place : Place) (out : List Member) (key : Bytes)
    (members : List Member) (walk : Walk Sub) : Except CompileFailure (List Member × Walk Sub) := do
  let (kept, walk) ← members.foldlM (fun (kept, walk) (pk, sub) =>
    if engine.stdRegexCompiles pk then do
      let (t, walk) ← recurse sub (keptPlace place pk) walk
      return (putMember pk t kept, walk)
    else do
      let walk ← transformMoved engine recurse place pk sub walk
      return (kept, walk)) ([], walk)
  return (if kept.isEmpty then out else putMember key (.object kept) out, walk)

/-- A place one keyword down, with a plan and whether it is positional still. -/
def Place.under (place : Place) (plan : List PlanStep) (positional : Bool) (key : Bytes) :
    Place where
  plan
  positional
  spath := subPath place.spath key
  location := place.location ++ [.key key]

/-- A place at a member of a keyword. -/
def Place.atKey (place : Place) (key : Bytes) : Place :=
  { place with
    spath := subPath place.spath key
    location := place.location ++ [.key key] }

/-- A place at an item of a keyword. -/
def Place.atIndex (place : Place) (position : Nat) : Place :=
  { place with
    spath := subPath place.spath (decimal position)
    location := place.location ++ [.index position] }

/-- The plan of a place with one more step. -/
def Place.step (place : Place) (step : PlanStep) : Place :=
  { place with plan := place.plan ++ [step] }

/-- `is_bool` and not `as_bool`. -/
def JsonValue.isFalse : JsonValue → Bool
  | .bool value => !value
  | _ => false

/-- `additionalProperties`. -/
def transformAddProps (place : Place) (out : List Member) (key : Bytes) (value : JsonValue)
    (walk : Walk Sub) : Except CompileFailure (List Member × Walk Sub) := do
  let plan := place.plan ++ [.addProps [] []]
  let (apT, next) ← recurse value (place.under plan place.positional key) walk
  if value.isFalse || value.isObject then
    return (out, { next with pendingAddprops := next.pendingAddprops ++
      [{ ob0 := walk.obligations.length, ob1 := next.obligations.length
         stepIdx := place.plan.length, spath := place.spath, plan, apT
         apFalse := value.isFalse, location := place.location }] })
  else return (putMember key apT out, next)

/-- A keyword with one schema. -/
def transformOne (inner : Place) (out : List Member) (key : Bytes) (value : JsonValue)
    (walk : Walk Sub) : Except CompileFailure (List Member × Walk Sub) := do
  let (t, walk) ← recurse value inner walk
  return (putMember key t out, walk)

/-- A keyword with an object of schemas. -/
def transformSchemas (inner : Bytes → Place) (out : List Member) (key : Bytes)
    (members : List Member) (walk : Walk Sub) :
    Except CompileFailure (List Member × Walk Sub) := do
  let (t, walk) ← transformMap recurse inner members walk
  return (putMember key (.object t) out, walk)

/-- A keyword with an array of schemas. -/
def transformList (inner : Nat → Place) (out : List Member) (key : Bytes) (list : List JsonValue)
    (walk : Walk Sub) : Except CompileFailure (List Member × Walk Sub) := do
  let (t, walk) ← transformItems recurse inner list walk
  return (putMember key (.array t) out, walk)

/-- One member of a schema. -/
def transformMember (place : Place) (out : List Member) (key : Bytes) (value : JsonValue)
    (walk : Walk Sub) : Except CompileFailure (List Member × Walk Sub) :=
  match Keyword.of key, value with
  | .id, .string id => return (putMember key value out, { walk with ids := id :: walk.ids })
  | .pattern, _ => transformPattern engine place out key value walk
  | .patternProperties, .object members =>
    transformPatternProperties engine recurse place out key members walk
  | .properties, .object members =>
    transformSchemas recurse
      (fun name => ((place.under place.plan place.positional key).step (.prop name)).atKey name)
      out key members walk
  | .items, _ =>
    transformOne recurse (place.under (place.plan ++ [.everyItem]) place.positional key)
      out key value walk
  | .prefixItems, .array list =>
    transformList recurse
      (fun i => ((place.under place.plan place.positional key).step (.itemAt i)).atIndex i)
      out key list walk
  | .additionalProperties, _ => transformAddProps recurse place out key value walk
  | .allOf, .array list =>
    transformList recurse (place.under place.plan place.positional key).atIndex out key list walk
  | .conditional, _ => transformOne recurse (place.under place.plan false key) out key value walk
  | .choice, .array list =>
    transformList recurse (place.under place.plan false key).atIndex out key list walk
  | .schemaMap, .object members =>
    transformSchemas recurse (place.under place.plan false key).atKey out key members walk
  | _, _ => return (putMember key value out, walk)

/-- The snapshot is written into a plan, when the step is one of `additionalProperties`. -/
def snapshotPlan (stepIdx : Nat) (exclusions : Exclusions) (plan : List PlanStep) : List PlanStep :=
  plan.modify stepIdx fun step =>
    match step with
    | .addProps _ _ => .addProps exclusions.keys exclusions.patterns
    | .prop _ | .everyItem | .itemAt _ => step

/-- The obligations of a subtree get the snapshot. -/
def backfill (pending : AddPropsPatch) (exclusions : Exclusions)
    (obligations : List (Obligation Sub)) : List (Obligation Sub) :=
  obligations.mapIdx fun i obligation =>
    if pending.ob0 ≤ i ∧ i < pending.ob1 then
      { obligation with plan := snapshotPlan pending.stepIdx exclusions obligation.plan }
    else obligation

/-- A delayed `additionalProperties` of this node: a guard takes it over when the node has a moved
pattern, otherwise it stays in the document. -/
def resolvePending (spath : Bytes) (pending : AddPropsPatch) (out : List Member)
    (walk : Walk Sub) : List Member × Walk Sub :=
  match walk.excl spath with
  | none => (putMember (text "additionalProperties") pending.apT out, walk)
  | some exclusions =>
    let reloc := decide (spath ∈ walk.relocatedPpNodes)
    let guard (kind : ObligationKind Sub) : Obligation Sub :=
      { kind
        plan := snapshotPlan pending.stepIdx exclusions pending.plan
        schemaPath := subPath spath (text "additionalProperties")
        location := pending.location }
    let filled (walk : Walk Sub) : Walk Sub :=
      { walk with obligations := backfill pending exclusions walk.obligations }
    if reloc && pending.apFalse then (out, filled (walk.oblige (guard .addPropsClosed)))
    else if reloc && pending.apT.isObject then
      let obliged := walk.oblige (guard (.addPropsSchema none))
      (out, filled { obliged with
        deferredGuards := obliged.deferredGuards ++
          [{ obIdx := walk.obligations.length, apT := pending.apT, spath
             location := pending.location }] })
    else (putMember (text "additionalProperties") pending.apT out, filled walk)

/-- The end of a node: its own delayed keywords are resolved, those of other nodes stay. -/
def finishNode (spath : Bytes) (out : List Member) (walk : Walk Sub) : List Member × Walk Sub :=
  let own := walk.pendingAddprops.filter fun pending => decide (pending.spath = spath)
  let rest := walk.pendingAddprops.filter fun pending => decide (pending.spath ≠ spath)
  let resolved := own.foldl
    (fun (out, walk) pending => resolvePending spath pending out walk) (out, walk)
  (resolved.1, { resolved.2 with pendingAddprops := rest })

/-- `TransformNode`, with the depth that is left. -/
def transformNode (options : SchemaOptions) : Nat → Recurse Sub
  | 0, _, _, _ => throw (.build .limitExceeded (text "schema depth limit exceeded"))
  | remaining + 1, node, place, walk => do
    let walk := { walk with nodes := walk.nodes + 1 }
    if options.maxSchemaNodes < walk.nodes then
      throw (.build .limitExceeded (text "schema node limit exceeded"))
    match node with
    | .object members =>
      let (out, walk) ← members.foldlM
        (fun (out, walk) (key, value) =>
          transformMember engine (transformNode options remaining) place out key value walk)
        ([], prescanExclusions engine members place.spath walk)
      let (out, walk) := finishNode place.spath out walk
      return (.object out, walk)
    | .array items =>
      let (t, walk) ← transformItems (transformNode options remaining) place.atIndex items walk
      return (.array t, walk)
    | _ => return (node, walk)

/-- The whole document. -/
def transformDoc (options : SchemaOptions) (doc : JsonValue) :
    Except CompileFailure (JsonValue × Walk Sub) :=
  transformNode engine options (options.maxSchemaDepth + 1) doc
    { plan := [], positional := true, spath := [], location := [] } {}

end Transform

end BbtInfra.Mcp
