import Mathlib.Data.List.Rotate

/-!
# Circular storage

A queue in a fixed number of cells: the first element stands at the head, the others follow
and wrap at the end of the cells. Writing behind the last element and moving the head past
the first ones act on the contents as appending and dropping do.
-/
namespace BbtInfra.Lib.Circular

open List

variable {α : Type*} {cells written : List α} {head size : Nat}

/-- The elements from the head on. -/
def contents (cells : List α) (head size : Nat) : List α := (cells.rotate head).take size

/-- As many cells are read as asked for. -/
theorem contents_length (fits : size ≤ cells.length) : (contents cells head size).length = size := by
  rw [contents, length_take, length_rotate, Nat.min_eq_left fits]

/-- None are read of an empty ring. -/
@[simp] theorem contents_zero (cells : List α) (head : Nat) : contents cells head 0 = [] :=
  take_zero

/-- The cell of an element. -/
theorem getElem?_contents {i : Nat} (inside : i < size) (fits : size ≤ cells.length) :
    (contents cells head size)[i]? = cells[(i + head) % cells.length]? := by
  rw [contents, List.getElem?_take_of_lt inside, List.getElem?_rotate (by omega)]

/-- The contents are one run of cells from the head and one from the first cell. -/
theorem contents_runs (inside : head ≤ cells.length) :
    contents cells head size = (cells.drop head).take size ++
      (cells.take head).take (size - (cells.length - head)) := by
  rw [contents, rotate_eq_drop_append_take inside, take_append, length_drop]

/-- Moving the head past the first elements drops them. -/
theorem contents_drop {count : Nat} (taken : count ≤ size) (fits : size ≤ cells.length) :
    contents cells ((head + count) % cells.length) (size - count) =
      (contents cells head size).drop count := by
  rw [contents, contents, rotate_mod, ← rotate_rotate, drop_take,
    rotate_eq_drop_append_take (by rw [length_rotate]; omega),
    take_append_of_le_length (by rw [length_drop, length_rotate]; omega)]

/-- Cells overwritten from a position on. -/
def overwrite (cells : List α) (position : Nat) (written : List α) : List α :=
  cells.take position ++ written ++ cells.drop (position + written.length)

section

variable {position : Nat} (fits : position + written.length ≤ cells.length)

include fits

/-- Overwriting keeps the number of cells. -/
theorem overwrite_length : (overwrite cells position written).length = cells.length := by
  simp only [overwrite, length_append, length_take, length_drop]
  omega

/-- An overwritten cell. -/
theorem getElem?_overwrite (k : Nat) : (overwrite cells position written)[k]? =
      if position ≤ k ∧ k < position + written.length then written[k - position]?
      else cells[k]? := by
  have front : (cells.take position).length = position := by
    rw [length_take]
    omega
  rw [overwrite, append_assoc]
  by_cases before : k < position
  · rw [List.getElem?_append_left (by omega), List.getElem?_take_of_lt before, if_neg (by omega)]
  · rw [List.getElem?_append_right (by omega), front]
    by_cases within : k < position + written.length
    · rw [List.getElem?_append_left (by omega), if_pos (by omega)]
    · rw [List.getElem?_append_right (by omega), List.getElem?_drop, if_neg (by omega)]
      congr 1
      omega

end

/-- Elements written behind the last one, in two runs when they wrap. -/
def write (cells : List α) (head size : Nat) (written : List α) : List α :=
  let position := (head + size) % cells.length
  let first := min written.length (cells.length - position)
  overwrite (overwrite cells position (written.take first)) 0 (written.drop first)

/-- A sum of two offsets wraps once at most. -/
theorem wrap {first second count : Nat} (inside : first < count) (other : second ≤ count) :
    (second + first < count ∧ (second + first) % count = second + first) ∨
      (count ≤ second + first ∧ (second + first) % count = second + first - count) := by
  by_cases small : second + first < count
  · exact .inl ⟨small, Nat.mod_eq_of_lt small⟩
  · refine .inr ⟨by omega, ?_⟩
    rw [Nat.mod_eq_sub_mod (by omega), Nat.mod_eq_of_lt (by omega)]

section

variable {position : Nat} (inside : position < cells.length) (fits : written.length ≤ cells.length)

include inside fits

/-- The two runs of a write keep the number of cells. -/
theorem runs_length : let first := min written.length (cells.length - position)
    (overwrite (overwrite cells position (written.take first)) 0 (written.drop first)).length =
      cells.length := by
  have whole : (overwrite cells position (written.take
      (min written.length (cells.length - position)))).length = cells.length := by
    apply overwrite_length
    rw [length_take]
    omega
  dsimp only
  rw [overwrite_length, whole]
  rw [whole, length_drop]
  omega

/-- A cell after the two runs of a write. -/
theorem getElem?_runs (k : Nat) : let first := min written.length (cells.length - position)
    (overwrite (overwrite cells position (written.take first)) 0 (written.drop first))[k]? =
      if k < written.length - first then written[first + k]?
      else if position ≤ k ∧ k < position + first then written[k - position]? else cells[k]? := by
  have taken : (written.take (min written.length (cells.length - position))).length =
      min written.length (cells.length - position) := by
    rw [length_take]
    omega
  have whole : (overwrite cells position (written.take
      (min written.length (cells.length - position)))).length = cells.length := by
    apply overwrite_length
    omega
  dsimp only
  rw [getElem?_overwrite (by rw [whole, length_drop]; omega),
    getElem?_overwrite (by omega), taken, length_drop, List.getElem?_drop]
  simp only [Nat.zero_le, true_and, Nat.zero_add, Nat.sub_zero]
  by_cases second : k < written.length - min written.length (cells.length - position)
  · rw [if_pos second, if_pos second]
  · rw [if_neg second, if_neg second]
    by_cases front : position ≤ k ∧ k < position + min written.length (cells.length - position)
    · rw [if_pos front, if_pos front, List.getElem?_take_of_lt (by omega)]
    · rw [if_neg front, if_neg front]

end

section Write

variable (inside : head < cells.length) (fits : size + written.length ≤ cells.length)
include inside fits

/-- Writing around the wrap does too. -/
theorem write_length : (write cells head size written).length = cells.length :=
  runs_length (Nat.mod_lt _ (by omega)) (by omega)

/-- A cell after a write: an element that was there, or a written one. -/
theorem getElem?_write {i : Nat} (within : i < size + written.length) :
    (write cells head size written)[(i + head) % cells.length]? =
      if i < size then cells[(i + head) % cells.length]? else written[i - size]? := by
  have position := wrap inside (show size ≤ cells.length by omega)
  have cell := wrap inside (show i ≤ cells.length by omega)
  rw [Nat.add_comm size head] at position
  have room : written.length ≤ cells.length := by omega
  have runs := getElem?_runs (Nat.mod_lt (head + size)
    (show 0 < cells.length by omega)) room ((i + head) % cells.length)
  rw [write, runs]
  by_cases old : i < size
  · rw [if_pos old, if_neg (by omega), if_neg (by omega)]
  · rw [if_neg old]
    by_cases second : (i + head) % cells.length <
        written.length - min written.length (cells.length - (head + size) % cells.length)
    · rw [if_pos second]
      congr 1
      omega
    · rw [if_neg second, if_pos (by omega)]
      congr 1
      omega

/-- A write appends to the contents. -/
theorem contents_write :
    contents (write cells head size written) head (size + written.length) =
      contents cells head size ++ written := by
  have same := write_length inside fits
  apply ext_getElem?
  intro i
  by_cases within : i < size + written.length
  · rw [getElem?_contents within (by omega), same, getElem?_write inside fits within]
    by_cases old : i < size
    · rw [if_pos old, List.getElem?_append_left (by rw [contents_length (by omega)]; exact old),
        getElem?_contents old (by omega)]
    · rw [if_neg old, List.getElem?_append_right (by rw [contents_length (by omega)]; omega),
        contents_length (by omega)]
  · rw [List.getElem?_eq_none (by rw [contents_length (by omega)]; omega),
      List.getElem?_eq_none (by
        rw [length_append, contents_length (by omega)]
        omega)]

end Write

end BbtInfra.Lib.Circular
