import Mathlib.Data.List.Infix

/-!
# One string cut in two ways

A string is kept in pieces and accounted for in parts. When every piece ends where a part ends,
there are no more pieces than parts. Appending a part, as a piece of its own or behind the last
piece, keeps this, and so does taking a front of the string away.
-/
namespace BbtInfra.Lib.Cuts

open List

variable {α : Type*}

/-- A part ends where this many elements are left. -/
def Ends (parts : List (List α)) (n : Nat) : Prop :=
  ∃ tail, tail <:+ parts ∧ tail.flatten.length = n

/-- Every piece ends where a part ends. -/
def Aligned (pieces parts : List (List α)) : Prop :=
  ∀ piece tail, piece :: tail <:+ pieces → Ends parts tail.flatten.length

/-- A front was taken away, up to within one part. -/
inductive Trims : List (List α) → List (List α) → Prop
  | same {parts} : Trims parts parts
  | part {first trimmed rest} (shorter : trimmed.length ≤ first.length) :
    Trims (first :: rest) (trimmed :: rest)
  | gone {first rest parts} (later : Trims rest parts) : Trims (first :: rest) parts

variable {parts pieces : List (List α)} {last : List α} {n : Nat}

/-- The last part ends at the end. -/
theorem ends_zero (parts : List (List α)) : Ends parts 0 := ⟨[], nil_suffix, rfl⟩

/-- The parts end farther from the end when one is appended. -/
theorem Ends.push (ends : Ends parts n) (added : List α) :
    Ends (parts ++ [added]) (n + added.length) := by
  obtain ⟨tail, ⟨front, rfl⟩, rfl⟩ := ends
  refine ⟨tail ++ [added], ⟨front, by rw [append_assoc]⟩, ?_⟩
  rw [flatten_append, length_append, flatten_singleton]

/-- No piece ends outside. -/
theorem aligned_nil (parts : List (List α)) : Aligned [] parts := by
  intro piece tail inside
  cases suffix_nil.mp inside

/-- One piece ends at the end. -/
theorem aligned_singleton (piece : List α) (parts : List (List α)) : Aligned [piece] parts := by
  intro other tail inside
  have short := inside.length_le
  have none' : tail = [] := by
    rw [length_cons, length_singleton] at short
    exact length_eq_zero_iff.mp (by omega)
  rw [none']
  exact ends_zero parts

/-- What stands behind a piece when another stands last. -/
theorem suffix_push {piece : List α} {tail : List (List α)}
    (inside : piece :: tail <:+ pieces ++ [last]) :
    tail = [] ∨ ∃ before, tail = before ++ [last] ∧ piece :: before <:+ pieces := by
  rcases eq_nil_or_concat tail with rfl | ⟨before, end', rfl⟩
  · exact .inl rfl
  · rw [concat_eq_append] at inside ⊢
    obtain ⟨front, whole⟩ := inside
    rw [← cons_append, ← append_assoc] at whole
    obtain ⟨same, lasts⟩ := append_inj' whole rfl
    obtain rfl := singleton_inj.mp lasts
    exact .inr ⟨before, rfl, front, same⟩

/-- A part is appended as a piece of its own. -/
theorem Aligned.push (aligned : Aligned pieces parts) (added : List α) :
    Aligned (pieces ++ [added]) (parts ++ [added]) := by
  intro piece tail inside
  rcases suffix_push inside with rfl | ⟨before, rfl, inside'⟩
  · exact ends_zero _
  · have ends := (aligned piece before inside').push added
    rwa [flatten_append, length_append, flatten_singleton]

/-- A part is appended behind the last piece. -/
theorem Aligned.merge (aligned : Aligned (pieces ++ [last]) parts) (added : List α) :
    Aligned (pieces ++ [last ++ added]) (parts ++ [added]) := by
  intro piece tail inside
  rcases suffix_push inside with rfl | ⟨before, rfl, ⟨front, inside'⟩⟩
  · exact ends_zero _
  · have ends := aligned piece (before ++ [last])
      ⟨front, by rw [← inside', append_assoc, cons_append]⟩
    have longer := ends.push added
    simp only [flatten_append, flatten_singleton, length_append] at longer ⊢
    rwa [← Nat.add_assoc]

/-- What is left has no more elements. -/
theorem Trims.length_le {left : List (List α)} (trims : Trims parts left) :
    left.flatten.length ≤ parts.flatten.length := by
  induction trims with
  | same => exact Nat.le_refl _
  | part shorter =>
    rw [flatten_cons, flatten_cons, length_append, length_append]
    exact Nat.add_le_add_right shorter _
  | gone later ih =>
    rw [flatten_cons, length_append]
    exact ih.trans (Nat.le_add_left _ _)

/-- Parts that are left end where they ended. -/
theorem Ends.trims {left : List (List α)} (ends : Ends parts n) (trims : Trims parts left)
    (within : n ≤ left.flatten.length) : Ends left n := by
  induction trims with
  | same => exact ends
  | @part first trimmed rest shorter =>
    obtain ⟨tail, inside, rfl⟩ := ends
    rcases suffix_cons_iff.mp inside with rfl | later
    · refine ⟨trimmed :: rest, suffix_refl _, ?_⟩
      rw [flatten_cons, flatten_cons, length_append, length_append] at within ⊢
      omega
    · exact ⟨tail, later.trans (suffix_cons _ _), rfl⟩
  | @gone first rest left later ih =>
    obtain ⟨tail, inside, rfl⟩ := ends
    rcases suffix_cons_iff.mp inside with rfl | behind
    · have shorter := later.length_le
      rw [flatten_cons, length_append] at within ih ⊢
      have none' : first.length = 0 := by omega
      rw [none', Nat.zero_add] at within ih ⊢
      exact ih ⟨rest, suffix_refl _, rfl⟩ within
    · exact ih ⟨tail, behind, rfl⟩ within

/-- What stands behind a piece stood behind one before. -/
theorem Trims.behind {left : List (List α)} (trims : Trims pieces left) {piece : List α}
    {tail : List (List α)} (inside : piece :: tail <:+ left) :
    ∃ old, old :: tail <:+ pieces := by
  induction trims with
  | same => exact ⟨piece, inside⟩
  | @part first trimmed rest _ =>
    rcases suffix_cons_iff.mp inside with same | later
    · obtain ⟨-, rfl⟩ := cons.inj same
      exact ⟨first, suffix_refl _⟩
    · exact ⟨piece, later.trans (suffix_cons _ _)⟩
  | @gone first rest left _ ih =>
    obtain ⟨old, inside'⟩ := ih inside
    exact ⟨old, inside'.trans (suffix_cons _ _)⟩

/-- A front of the string is taken away. -/
theorem Aligned.trims {left kept : List (List α)} (aligned : Aligned pieces parts)
    (pieces' : Trims pieces left) (parts' : Trims parts kept)
    (within : left.flatten.length ≤ kept.flatten.length) : Aligned left kept := by
  intro piece tail inside
  obtain ⟨old, inside'⟩ := pieces'.behind inside
  refine (aligned old tail inside').trims parts' (Nat.le_trans ?_ within)
  obtain ⟨front, rfl⟩ := inside
  simp only [flatten_append, flatten_cons, length_append]
  omega

/-- There are no more pieces than parts. -/
theorem Aligned.length_le (aligned : Aligned pieces parts) (filled : [] ∉ pieces)
    (within : pieces.flatten.length ≤ parts.flatten.length) : pieces.length ≤ parts.length := by
  induction pieces generalizing parts with
  | nil => exact Nat.zero_le _
  | cons piece rest ih =>
    obtain ⟨some', filled'⟩ := ne_and_not_mem_of_not_mem_cons filled
    have size : 0 < piece.length := length_pos_iff.mpr some'.symm
    obtain ⟨tail, inside, same⟩ := aligned piece rest (suffix_refl _)
    rw [flatten_cons, length_append] at within
    have inner : Aligned rest tail := by
      intro other behind inside'
      obtain ⟨ends, inside'', same'⟩ := aligned other behind (inside'.trans (suffix_cons _ _))
      rcases suffix_or_suffix_of_suffix inside'' inside with within' | ⟨front, rfl⟩
      · exact ⟨ends, within', same'⟩
      · obtain ⟨front', rfl⟩ := inside'
        have other' : 0 < other.length := by
          refine length_pos_iff.mpr ?_
          rintro rfl
          exact filled' (mem_append_right _ mem_cons_self)
        simp only [flatten_append, flatten_cons, length_append] at same same'
        omega
    have fewer := ih inner filled' (Nat.le_of_eq same.symm)
    have proper : tail.length ≠ parts.length := by
      intro equal
      rw [inside.eq_of_length equal] at same
      omega
    have short := inside.length_le
    rw [length_cons]
    omega

end BbtInfra.Lib.Cuts
