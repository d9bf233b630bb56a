import Mathlib.Data.List.Basic

/-!
# A bounded queue

A bounded queue holds a string. It appends data behind the string or refuses them, shows a front
part of it in pieces, and drops exactly as much of the front as it is told to, or nothing. It may
refuse data for reasons of its own.
-/
namespace BbtInfra.Lib

variable {α : Type*}

/-- What a queue is asked. -/
inductive FifoAsk (α : Type*)
  | append (data : List α)
  | peek (maxViews : Nat)
  | drop (count : Nat)

/-- What it answers. -/
inductive FifoAnswer (α : Type*)
  | accepted
  | refused
  | views (views : List (List α))

/-- A queue of at most `limit` elements may answer so, and holds this afterwards. -/
inductive FifoStep (limit : Nat) (content : List α) : FifoAsk α → FifoAnswer α → List α → Prop
  | append {data} (fits : content.length + data.length ≤ limit) :
    FifoStep limit content (.append data) .accepted (content ++ data)
  | refuse {data} : FifoStep limit content (.append data) .refused content
  | peek {maxViews views} (few : views.length ≤ maxViews) (filled : [] ∉ views)
    (front : views.flatten <+: content) :
    FifoStep limit content (.peek maxViews) (.views views) content
  | drop {count} (enough : count ≤ content.length) :
    FifoStep limit content (.drop count) .accepted (content.drop count)
  | short {count} (more : content.length < count) :
    FifoStep limit content (.drop count) .refused content

/-- What a queue may answer along a sequence of asks. -/
inductive FifoRun (limit : Nat) : List α → List (FifoAsk α × FifoAnswer α) → List α → Prop
  | nil {content} : FifoRun limit content [] content
  | cons {content middle last ask answer rest} (first : FifoStep limit content ask answer middle)
    (later : FifoRun limit middle rest last) :
    FifoRun limit content ((ask, answer) :: rest) last

end BbtInfra.Lib
