import BbtInfra.Lib.Census

/-!
# Tokens held by threads

A list of threads and a token that each of them may hold, read off its local state. A token
is exclusive when no two threads hold the same one. Only two things happen to the list: one
thread moves on, or a new thread arrives; in both cases exclusiveness is kept as long as the
thread's token was its own before or is held by nobody.
-/
namespace BbtInfra.Lib

variable {τ α : Type*} {threads : List τ} {token : τ → Option α}

/-- No thread of the list holds the token. -/
def Unheld (threads : List τ) (token : τ → Option α) (x : α) : Prop :=
  ∀ (i : Nat) (thread : τ), threads[i]? = some thread → token thread ≠ some x

/-- No two threads hold the same token. -/
def Exclusive (threads : List τ) (token : τ → Option α) : Prop :=
  ∀ (i j : Nat) (a b : τ) (x : α), threads[i]? = some a → threads[j]? = some b → token a = some x →
    token b = some x → i = j

/-- Without threads every token is exclusive. -/
theorem Exclusive.nil : Exclusive ([] : List τ) token := by
  intro i j a b x first
  simp at first

/-- One thread moves on: its token was its own before, or nobody's. -/
theorem Exclusive.set (exclusive : Exclusive threads token) {i : Nat} {old moved : τ}
    (present : threads[i]? = some old)
    (own : ∀ x, token moved = some x → token old = some x ∨ Unheld threads token x) :
    Exclusive (threads.set i moved) token := by
  have apart : ∀ j b x, j ≠ i → threads[j]? = some b → token b = some x → token moved ≠ some x := by
    intro j b x other found held movedHeld
    rcases own x movedHeld with before | unheld
    · exact other (exclusive j i b old x found present held before)
    · exact unheld j b found held
  intro j k a b x first second heldFirst heldSecond
  rcases List.getElem?_set_apart first with ⟨rfl, rfl⟩ | ⟨otherFirst, before⟩
  · rcases List.getElem?_set_apart second with ⟨rfl, rfl⟩ | ⟨otherSecond, before⟩
    · rfl
    · exact absurd heldFirst (apart k b x otherSecond before heldSecond)
  · rcases List.getElem?_set_apart second with ⟨rfl, rfl⟩ | ⟨_, after⟩
    · exact absurd heldSecond (apart j a x otherFirst before heldFirst)
    · exact exclusive j k a b x before after heldFirst heldSecond

/-- A new thread arrives with a token that nobody holds. -/
theorem Exclusive.concat (exclusive : Exclusive threads token) {arrived : τ}
    (fresh : ∀ x, token arrived = some x → Unheld threads token x) :
    Exclusive (threads ++ [arrived]) token := by
  intro j k a b x first second heldFirst heldSecond
  rcases List.getElem?_push_cases first with ⟨rfl, rfl⟩ | before
  · rcases List.getElem?_push_cases second with ⟨rfl, rfl⟩ | before
    · rfl
    · exact absurd heldSecond (fresh x heldFirst k b before)
  · rcases List.getElem?_push_cases second with ⟨rfl, rfl⟩ | after
    · exact absurd heldFirst (fresh x heldSecond j a before)
    · exact exclusive j k a b x before after heldFirst heldSecond

end BbtInfra.Lib
