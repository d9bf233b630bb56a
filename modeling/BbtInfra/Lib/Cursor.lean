import Mathlib.Data.List.Infix

/-!
# Readers with a cursor

A reader takes a value from an input at a position and returns the position behind it. It reads a
writer when it accepts the writings of legal values, wherever they stand, and nothing else. Reading
composes in sequence, and a reader of all that is left is then the inverse of its writer.
-/
namespace BbtInfra.Lib

variable {β ε α γ : Type}

/-- A computation in two parts that succeeds. -/
theorem bind_eq_ok {first : Except ε α} {next : α → Except ε γ} {result : γ} :
    first >>= next = .ok result ↔ ∃ value, first = .ok value ∧ next value = .ok result := by
  cases first with
  | error | ok => simp [bind, Except.bind]

/-- A reader: the value at a position of an input, and the position behind it. -/
abbrev Cursor (β ε α : Type) := List β → Nat → Except ε (α × Nat)

namespace Cursor

/-- The reader accepts the writings of legal values and nothing else. -/
def Reads (reader : Cursor β ε α) (legal : α → Prop) (write : α → List β) : Prop :=
  ∀ (input : List β) (pos : Nat) (value : α) (next : Nat), pos ≤ input.length →
    (reader input pos = .ok (value, next) ↔
      legal value ∧ write value <+: input.drop pos ∧ next = pos + (write value).length)

/-- A reader, and another one behind it that may depend on what was read. -/
def andThen (reader : Cursor β ε α) (second : α → Cursor β ε γ) : Cursor β ε (α × γ) :=
  fun input pos => do
    let (value, middle) ← reader input pos
    let (other, next) ← second value input middle
    .ok ((value, other), next)

/-- A reader, and a look at what was read. -/
def check (reader : Cursor β ε α) (look : α → Except ε γ) : Cursor β ε γ :=
  fun input pos => do
    let (value, next) ← reader input pos
    let other ← look value
    .ok (other, next)

/-- A reader of all that is left of an input. -/
def toEnd (reader : Cursor β ε α) (trailing : ε) (input : List β) (pos : Nat) : Except ε α := do
  let (value, next) ← reader input pos
  if next ≠ input.length then .error trailing else .ok value

variable {reader : Cursor β ε α} {legal : α → Prop} {write : α → List β}

/-- The position behind what was read is inside the input. -/
theorem Reads.next_le (reads : reader.Reads legal write) {input : List β} {pos next : Nat} {value : α}
    (inside : pos ≤ input.length) (read : reader input pos = .ok (value, next)) :
    next ≤ input.length := by
  obtain ⟨-, starts, behind⟩ := (reads input pos value next inside).mp read
  have room := starts.length_le
  rw [List.length_drop] at room
  omega

/-- What is left behind a writing. -/
theorem drop_next {input writing : List β} {pos : Nat} (starts : writing <+: input.drop pos) :
    input.drop pos = writing ++ input.drop (pos + writing.length) := by
  rw [← List.drop_drop]
  exact (List.prefix_iff_eq_append.mp starts).symm

/-- Reading in sequence reads one writing behind the other. -/
theorem Reads.andThen (reads : reader.Reads legal write) {second : α → Cursor β ε γ}
    {after : α → γ → Prop} {writeAfter : α → γ → List β}
    (also : ∀ value, legal value → (second value).Reads (after value) (writeAfter value)) :
    (reader.andThen second).Reads (fun pair => legal pair.1 ∧ after pair.1 pair.2)
      (fun pair => write pair.1 ++ writeAfter pair.1 pair.2) := by
  rintro input pos ⟨value, other⟩ next inside
  constructor
  · intro read
    obtain ⟨⟨value', middle⟩, first, read⟩ := bind_eq_ok.mp read
    obtain ⟨⟨other', last⟩, behind, read⟩ := bind_eq_ok.mp read
    cases read
    have within := reads.next_le inside first
    obtain ⟨fits, starts, rfl⟩ := (reads input pos value middle inside).mp first
    obtain ⟨good, continues, rfl⟩ := (also value fits input _ other next within).mp behind
    refine ⟨⟨fits, good⟩, ?_, by simp [Nat.add_assoc]⟩
    rw [drop_next starts]
    exact (List.prefix_append_right_inj _).mpr continues
  · rintro ⟨⟨fits, good⟩, starts, rfl⟩
    have begins : write value <+: input.drop pos := (List.prefix_append _ _).trans starts
    have first := (reads input pos value _ inside).mpr ⟨fits, begins, rfl⟩
    have within := reads.next_le inside first
    rw [drop_next begins] at starts
    have continues := (List.prefix_append_right_inj _).mp starts
    have behind := (also value fits input _ other _ within).mpr ⟨good, continues, rfl⟩
    refine bind_eq_ok.mpr ⟨_, first, bind_eq_ok.mpr ⟨_, behind, ?_⟩⟩
    rw [List.length_append, Nat.add_assoc]

/-- A look at what was read that undoes a step of the writer. -/
theorem Reads.check (reads : reader.Reads legal write) {look : α → Except ε γ} {fit : γ → Prop}
    {back : γ → α} (inverse : ∀ value other, legal value → (look value = .ok other ↔ value = back other))
    (legals : ∀ other, fit other ↔ legal (back other)) :
    (reader.check look).Reads fit (fun other => write (back other)) := by
  intro input pos other next inside
  constructor
  · intro read
    obtain ⟨⟨value, middle⟩, first, read⟩ := bind_eq_ok.mp read
    obtain ⟨seen, looked, read⟩ := bind_eq_ok.mp read
    cases read
    obtain ⟨fits, starts, rfl⟩ := (reads input pos value next inside).mp first
    obtain rfl := (inverse value other fits).mp looked
    exact ⟨(legals other).mpr fits, starts, rfl⟩
  · rintro ⟨fits, starts, rfl⟩
    have allowed := (legals other).mp fits
    have first := (reads input pos (back other) _ inside).mpr ⟨allowed, starts, rfl⟩
    have looked := (inverse (back other) other allowed).mpr rfl
    exact bind_eq_ok.mpr ⟨_, first, bind_eq_ok.mpr ⟨_, looked, rfl⟩⟩

/-- A reader that reads nothing. -/
theorem reads_nothing (value : α) (only : ∀ other : α, other = value) :
    Reads (fun (_ : List β) pos => (.ok (value, pos) : Except ε (α × Nat))) (fun _ => True)
      (fun _ => []) := by
  intro input pos other next inside
  constructor
  · rintro ⟨⟩
    exact ⟨trivial, List.nil_prefix, rfl⟩
  · rintro ⟨-, -, rfl⟩
    rw [only other]

/-- A reader of all that is left of an input undoes the writer. -/
theorem Reads.toEnd (reads : reader.Reads legal write) (trailing : ε) {input : List β} {pos : Nat}
    {value : α} (inside : pos ≤ input.length) :
    reader.toEnd trailing input pos = .ok value ↔ legal value ∧ write value = input.drop pos := by
  constructor
  · intro read
    obtain ⟨⟨found, next⟩, first, read⟩ := bind_eq_ok.mp read
    obtain ⟨fits, starts, rfl⟩ := (reads input pos found next inside).mp first
    simp only at read
    split at read
    · cases read
    · next all =>
      obtain rfl := Except.ok.inj read
      refine ⟨fits, starts.eq_of_length ?_⟩
      rw [List.length_drop]
      omega
  · rintro ⟨fits, written⟩
    have first := (reads input pos value _ inside).mpr ⟨fits, by rw [written], rfl⟩
    refine bind_eq_ok.mpr ⟨_, first, ?_⟩
    have lengths := congrArg List.length written
    rw [List.length_drop] at lengths
    simp only
    rw [if_neg (by omega)]

/-- A writing in front of anything is told apart from every other one. -/
theorem Reads.splits (reads : reader.Reads legal write) {first second : α} {rest other : List β}
    (fits : legal first) (also : legal second)
    (same : write first ++ rest = write second ++ other) : first = second ∧ rest = other := by
  have one := (reads (write first ++ rest) 0 first _ (Nat.zero_le _)).mpr
    ⟨fits, List.prefix_append _ _, rfl⟩
  have two := (reads (write first ++ rest) 0 second _ (Nat.zero_le _)).mpr
    ⟨also, by rw [same]; exact List.prefix_append _ _, rfl⟩
  obtain ⟨rfl, -⟩ := Prod.mk.inj (Except.ok.inj (one.symm.trans two))
  exact ⟨rfl, List.append_cancel_left same⟩

end Cursor

end BbtInfra.Lib
