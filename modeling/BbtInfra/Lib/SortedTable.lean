import Mathlib.Data.List.Basic

/-!
# Tables in the order of their keys

An ordered map whose entries hold their own key. The entries stand in strictly ascending order, so
that no key occurs twice and a walk over the table meets the keys in their order.
-/
namespace BbtInfra.Lib

variable {α κ : Type*} [LT κ]

/-- Entries in strictly ascending order of their keys. -/
structure SortedTable (key : α → κ) where
  entries : List α
  ascending : entries.Pairwise fun a b => key a < key b

namespace SortedTable

variable {key : α → κ}

/-- The table without entries. -/
def empty (key : α → κ) : SortedTable key where
  entries := []
  ascending := .nil

/-- The number of entries. -/
def size (table : SortedTable key) : Nat := table.entries.length

/-- Whether some entry has the key. -/
def contains [DecidableEq κ] (table : SortedTable key) (wanted : κ) : Bool :=
  table.entries.any fun entry => key entry = wanted

/-- A key is contained just when an entry has it. -/
theorem contains_eq_true [DecidableEq κ] {table : SortedTable key} {wanted : κ} :
    table.contains wanted = true ↔ ∃ entry ∈ table.entries, key entry = wanted := by
  simp [contains]

variable [DecidableLT κ]

/-- The entry in front of the first one with a greater key. -/
def place (key : α → κ) (entry : α) : List α → List α
  | [] => [entry]
  | first :: rest =>
    if key entry < key first then entry :: first :: rest else first :: place key entry rest

/-- Placing an entry only adds it. -/
theorem place_perm (entry : α) (entries : List α) :
    (place key entry entries).Perm (entry :: entries) := by
  induction entries with
  | nil => exact List.Perm.refl _
  | cons first rest ih =>
    rw [place]
    split
    · exact List.Perm.refl _
    · exact (ih.cons first).trans (List.Perm.swap entry first rest)

/-- A new key keeps the order. -/
theorem place_ascending [IsTrans κ fun a b => a < b] [Std.Trichotomous fun a b : κ => a < b]
    {entry : α} {entries : List α} (ordered : entries.Pairwise fun a b => key a < key b)
    (fresh : ∀ other ∈ entries, key other ≠ key entry) :
    (place key entry entries).Pairwise fun a b => key a < key b := by
  induction entries with
  | nil => exact List.pairwise_singleton _ _
  | cons first rest ih =>
    have above : ∀ other ∈ rest, key first < key other :=
      fun other member => List.rel_of_pairwise_cons ordered member
    rw [place]
    split
    case isTrue below =>
      refine List.Pairwise.cons ?_ ordered
      intro other member
      rcases List.mem_cons.mp member with here | later
      · rw [here]
        exact below
      · exact IsTrans.trans _ _ _ below (above other later)
    case isFalse notBelow =>
      have placed := ih ordered.of_cons fun other member => fresh other (by simp [member])
      refine List.Pairwise.cons ?_ placed
      intro other member
      rcases List.mem_cons.mp ((place_perm entry rest).mem_iff.mp member) with here | later
      · rw [here]
        by_contra notAbove
        exact fresh first (by simp) (Std.Trichotomous.trichotomous _ _ notAbove notBelow)
      · exact above other later

section Emplace

variable [DecidableEq κ] [IsTrans κ fun a b => a < b] [Std.Trichotomous fun a b : κ => a < b]

/-- The entry is added unless its key is taken. -/
def emplace (table : SortedTable key) (entry : α) : SortedTable key :=
  if taken : table.contains (key entry) then table
  else
    { entries := place key entry table.entries
      ascending := place_ascending table.ascending (by
        have free : ¬∃ other ∈ table.entries, key other = key entry :=
          fun found => taken (contains_eq_true.mpr found)
        exact fun other member same => free ⟨other, member, same⟩) }

variable {table : SortedTable key} {entry : α}

section

variable (free : table.contains (key entry) = false)

include free

/-- An entry with a free key is added once. -/
theorem entries_emplace : (table.emplace entry).entries.Perm (entry :: table.entries) := by
  simp only [emplace, free, Bool.false_eq_true, dite_false]
  exact place_perm entry table.entries

/-- An entry with a free key counts. -/
theorem size_emplace : (table.emplace entry).size = table.size + 1 := by
  rw [size, (entries_emplace free).length_eq]
  rfl

/-- The keys behind an entry with a free key. -/
theorem contains_emplace {wanted : κ} : (table.emplace entry).contains wanted = true ↔
      key entry = wanted ∨ table.contains wanted = true := by
  simp only [contains_eq_true, (entries_emplace free).mem_iff, List.mem_cons]
  simp

end

end Emplace

end SortedTable

end BbtInfra.Lib
