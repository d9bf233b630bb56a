import BbtInfra.Mcp.SchemaTransform

/-!
# The guards of a compiled schema

The end of `CompileDocCore`. A guard of an `additionalProperties` schema is compiled when the
transformed document is complete, the last one first. Where that fails the guard is withdrawn, and
the schema is written back into the document at the node that its path text leads to. What the
separate compilation of a guard comes to is a parameter; each guard is compiled once.
-/
namespace BbtInfra.Mcp

/-- The walk of `AddMemberAtPath` over the segments of a path text. -/
def addMemberAt (leaf : Bytes) (value : JsonValue) : List Bytes → JsonValue → Option JsonValue
  | [], .object members => some (.object (putMember leaf value members))
  | segment :: rest, .object members => do
    let inner ← members.lookup segment
    let written ← addMemberAt leaf value rest inner
    return .object (putMember segment written members)
  | _, _ => none

/-- `AddMemberAtPath`: the path text is split at every separator. -/
def addMemberAtPath (doc : JsonValue) (spath leaf : Bytes) (value : JsonValue) :
    Option JsonValue :=
  addMemberAt leaf value (if spath = [] then [] else spath.splitOn 0x2f) doc

section Guards

variable {Sub : Type}

/-- What the separate compilation of each guard comes to. -/
abbrev GuardCompiler (Sub : Type) := DeferredGuard → Except CompileFailure Sub

/-- The compilation of a guard fails in one of the two ways that are caught. -/
def Refused (compileGuard : GuardCompiler Sub) (guard : DeferredGuard) : Prop :=
  compileGuard guard = .error .resolverRejected ∨ compileGuard guard = .error .schemaError

variable (compileGuard : GuardCompiler Sub)

/-- One turn of the loop over the guards. -/
def bindGuard (state : JsonValue × List (Obligation Sub)) (guard : DeferredGuard) :
    Except CompileFailure (JsonValue × List (Obligation Sub)) :=
  match compileGuard guard with
  | .ok sub =>
    return (state.1, state.2.modify guard.obIdx fun obligation =>
      { obligation with kind := .addPropsSchema (some sub) })
  | .error .resolverRejected | .error .schemaError =>
    match addMemberAtPath state.1 guard.spath (text "additionalProperties") guard.apT with
    | some doc => return (doc, state.2.eraseIdx guard.obIdx)
    | none => throw (.build .internal (text "deferred AP fallback lost"))
  | .error failure => throw failure

/-- The loop over the guards, the last one first. -/
def bindGuards (guards : List DeferredGuard) (doc : JsonValue)
    (obligations : List (Obligation Sub)) :
    Except CompileFailure (JsonValue × List (Obligation Sub)) :=
  guards.reverse.foldlM (bindGuard compileGuard) (doc, obligations)

/-- `CompileDocCore` up to the engine, which compiles the document. -/
def compileDocCore (engine : SchemaEngine Sub) (options : SchemaOptions) (doc : JsonValue) :
    Except CompileFailure (JsonValue × List Bytes × List (Obligation Sub)) := do
  let (transformed, walk) ← transformDoc engine options doc
  let (bound, obligations) ← bindGuards compileGuard walk.deferredGuards transformed walk.obligations
  return (bound, walk.patterns, obligations)

end Guards

end BbtInfra.Mcp
