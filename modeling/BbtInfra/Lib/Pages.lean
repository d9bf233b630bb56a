import Mathlib.Data.List.Basic

/-!
# Paged enumerations

A list is handed out page by page: a request with a cursor is answered by a page and the cursor of
the next one, and a client follows the cursors until there is none. Cursors stand for positions of
the list. The client here runs on fuel; `follow_eq` says how much is enough.
-/
namespace BbtInfra.Lib

variable {α χ : Type*}

/-- One page, with the cursor of the next unless it is the last. -/
structure Page (α χ : Type*) where
  entries : List α
  next : Option χ

/-- The pages that a client sees from a cursor on, none when a request is refused or the fuel runs
out. -/
def follow (serve : Option χ → Option (Page α χ)) : Nat → Option χ → Option (List (List α))
  | 0, _ => none
  | fuel + 1, cursor =>
    (serve cursor).bind fun page =>
      match page.next with
      | none => some [page.entries]
      | some next => (follow serve fuel (some next)).map (page.entries :: ·)

/-- More fuel changes nothing. -/
theorem follow_le {serve : Option χ → Option (Page α χ)} {fuel more : Nat} {cursor : Option χ}
    {pages : List (List α)} (followed : follow serve fuel cursor = some pages)
    (le : fuel ≤ more) : follow serve more cursor = some pages := by
  induction fuel generalizing more cursor pages with
  | zero => simp [follow] at followed
  | succ fuel ih =>
    obtain ⟨rest, split⟩ : ∃ rest, more = rest + 1 := ⟨more - 1, by omega⟩
    have enough : fuel ≤ rest := by omega
    rw [split]
    rw [follow] at followed ⊢
    cases served : serve cursor with
    | none => simp [served] at followed
    | some page =>
      rw [served] at followed
      cases behind : page.next with
      | none => simpa [behind] using followed
      | some next =>
        simp only [Option.bind_some, behind, Option.map_eq_some_iff] at followed ⊢
        obtain ⟨later, fromNext, joined⟩ := followed
        exact ⟨later, ih fromNext enough, joined⟩

/-- A service hands out the pages of a list: a cursor that stands for a position gets the entries
from there on, at most one page of them, with a cursor for what is left. -/
structure Paged (serve : Option χ → Option (Page α χ)) (all : List α) (size : Nat)
    (position : Option χ → Option Nat) : Prop where
  size_pos : 0 < size
  begins : position none = some 0
  page : ∀ cursor first, position cursor = some first →
    ∃ next, serve cursor = some ⟨(all.drop first).take size, next⟩ ∧
      if first + size < all.length then next.isSome ∧ position next = some (first + size)
      else next = none

namespace Paged

variable {serve : Option χ → Option (Page α χ)} {all : List α} {size : Nat}
  {position : Option χ → Option Nat}

/-- Following the cursors from a position terminates with the entries from there on. Only a
position behind the last entry gives an empty page. -/
theorem follow_eq (paged : Paged serve all size position) {cursor : Option χ} {first : Nat}
    (placed : position cursor = some first) {fuel : Nat} (enough : all.length - first < fuel) :
    ∃ pages, follow serve fuel cursor = some pages ∧ pages.flatten = all.drop first ∧
      (first < all.length → [] ∉ pages) := by
  induction fuel generalizing cursor first with
  | zero => omega
  | succ fuel ih =>
    obtain ⟨next, served, behind⟩ := paged.page cursor first placed
    have size_pos := paged.size_pos
    have filled : first < all.length → (all.drop first).take size ≠ [] := by
      intro inside empty
      have length := congrArg List.length empty
      simp only [List.length_take, List.length_drop, List.length_nil] at length
      omega
    by_cases more : first + size < all.length
    · rw [if_pos more] at behind
      obtain ⟨issued, ends⟩ := Option.isSome_iff_exists.mp behind.1
      have shorter : all.length - (first + size) < fuel := by omega
      obtain ⟨rest, followed, flat, nonempty⟩ := ih (behind.2) shorter
      rw [ends] at followed
      refine ⟨(all.drop first).take size :: rest, ?_, ?_, ?_⟩
      · simp [follow, served, ends, followed]
      · rw [List.flatten_cons, flat, ← List.drop_drop, List.take_append_drop]
      · intro inside member
        rcases List.mem_cons.mp member with here | later
        · exact filled inside here.symm
        · exact nonempty more later
    · rw [if_neg more] at behind
      have whole : (all.drop first).take size = all.drop first := by
        apply List.take_of_length_le
        rw [List.length_drop]
        omega
      refine ⟨[(all.drop first).take size], ?_, ?_, ?_⟩
      · simp [follow, served, behind]
      · rw [List.flatten_singleton, whole]
      · intro inside member
        exact filled inside (List.mem_singleton.mp member).symm

/-- Following the cursors from the beginning enumerates the list, with any fuel that is enough. -/
theorem follow_all (paged : Paged serve all size position) :
    ∃ pages, (∀ fuel, all.length < fuel → follow serve fuel none = some pages) ∧
      pages.flatten = all ∧ (all ≠ [] → [] ∉ pages) := by
  have enough : all.length - 0 < all.length + 1 := by omega
  obtain ⟨pages, followed, flat, nonempty⟩ := paged.follow_eq paged.begins enough
  refine ⟨pages, fun fuel more => follow_le followed more, by simpa using flat, ?_⟩
  intro entry
  exact nonempty (List.length_pos_iff.mpr entry)

end Paged

end BbtInfra.Lib
