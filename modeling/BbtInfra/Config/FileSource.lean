import BbtInfra.Lib.Cursor
import BbtInfra.Lib.Decimal
import BbtInfra.Lib.SortedTable
import BbtInfra.Result
import Mathlib.Data.List.DropRight

/-!
# Configuration files

`Parse` of `FileSource` and the text behind `Value::Fingerprint`. What `Parse` accepts is compared
with a reading of the lines that knows neither its loop nor its table.
-/
namespace BbtInfra.Config

open Lib List

/-- `Value`, in the order of its `std::map`. -/
abbrev Value := SortedTable (Prod.fst : List UInt8 × Bytes → List UInt8)

/-- `Value::Fnv1a64`. -/
def fnv1a64 (data : Bytes) : UInt64 :=
  data.foldl (fun hash c => (hash ^^^ c.toUInt64) * 1099511628211) 14695981039346656037

/-- `Value::Fnv1a64Hex`. -/
def fnv1a64Hex (data : Bytes) : Bytes :=
  (range 16).map fun i =>
    (text "0123456789abcdef").getD (((fnv1a64 data).toNat >>> (4 * (15 - i))) % 16) 0x30

/-- The text that `Value::Fingerprint` hashes. -/
def canonical (entries : List (Bytes × Bytes)) : Bytes :=
  entries.flatMap fun entry => entry.1 ++ 0x3D :: (entry.2 ++ [0x0A])

/-- `Value::Fingerprint`. -/
def fingerprint (value : Value) : Bytes := fnv1a64Hex (canonical value.entries)

/-- What `Trim` takes away. -/
def isPadding (c : UInt8) : Bool := c == 0x20 || c == 0x09 || c == 0x0D

/-- `Trim`. -/
def trim (s : Bytes) : Bytes := (s.dropWhile isPadding).rdropWhile isPadding

/-- The lines that `std::getline` finds in a text. -/
def getlines : Bytes → List Bytes
  | [] => []
  | c :: rest =>
    if c = 0x0A then [] :: getlines rest
    else
      match getlines rest with
      | [] => [[c]]
      | line :: lines => (c :: line) :: lines

/-- `std::from_chars` for a `std::uint64_t`: the number and what is behind it. -/
def fromChars (s : Bytes) : Option (UInt64 × Bytes) :=
  let digits := s.takeWhile fun c => 0x30 ≤ c && c ≤ 0x39
  if digits = [] ∨ 2 ^ 64 ≤ undecimal digits then none
  else some (UInt64.ofNat (undecimal digits), s.drop digits.length)

/-- `ParseResult` of a success. -/
structure ParseResult where
  version : UInt64 := 0
  value : Value := .empty _

/-- The error of a line. -/
def lineError (what : Bytes) : Except Error ParseResult :=
  .error (makeError .protocolError (text "config file parse: " ++ what))

/-- What the body of the loop does with a pair. -/
def parsePair (lineno : Nat) (key value : Bytes) (out : ParseResult) : Except Error ParseResult :=
  if key = [] then lineError (text "empty key at line " ++ decimal lineno)
  else if key = text "version" then
    match fromChars value with
    | some (v, []) => .ok { out with version := v }
    | _ => lineError (text "version not a uint64 at line " ++ decimal lineno)
  else if out.value.contains key then
    lineError (text "duplicate key '" ++ key ++ text "' at line " ++ decimal lineno)
  else .ok { out with value := out.value.emplace (key, value) }

/-- The body of the loop of `Parse`. -/
def parseLine (lineno : Nat) (line : Bytes) (out : ParseResult) : Except Error ParseResult :=
  let trimmed := trim line
  if trimmed = [] ∨ trimmed.head? = some 0x23 then .ok out
  else
    match trimmed.dropWhile (· ≠ 0x3D) with
    | [] => lineError (text "line " ++ decimal lineno ++ text " has no '='")
    | _ :: right => parsePair lineno (trim (trimmed.takeWhile (· ≠ 0x3D))) (trim right) out

/-- The loop of `Parse`; `lineno` lines are behind it. -/
def parseLines (lineno : Nat) (out : ParseResult) : List Bytes → Except Error ParseResult
  | [] => .ok out
  | line :: rest => do parseLines (lineno + 1) (← parseLine (lineno + 1) line out) rest

/-- `Parse`. -/
def parse (content : Bytes) : Except Error ParseResult := parseLines 0 {} (getlines content)

/-- A blank line or a comment. -/
def Ignored (line : Bytes) : Prop := trim line = [] ∨ (trim line).head? = some 0x23

/-- A line of the form `key = value`, split at its first `=`. -/
def Holds (line key value : Bytes) : Prop :=
  ∃ left right, trim line = left ++ 0x3D :: right ∧ 0x3D ∉ left ∧
    key = trim left ∧ value = trim right

/-- Every line is blank, a comment or one of the pairs. -/
inductive Reads : List Bytes → List (Bytes × Bytes) → Prop
  | nil : Reads [] []
  | skip {line rest pairs} (ignored : Ignored line) (reads : Reads rest pairs) :
    Reads (line :: rest) pairs
  | pair {line key value rest pairs} (counts : ¬Ignored line) (holds : Holds line key value)
    (reads : Reads rest pairs) : Reads (line :: rest) ((key, value) :: pairs)

/-- A decimal number of 64 bits. -/
def IsUInt64 (s : Bytes) : Prop :=
  s ≠ [] ∧ (∀ c ∈ s, 0x30 ≤ c ∧ c ≤ 0x39) ∧ undecimal s < 2 ^ 64

/-- The pair of the reserved key. -/
def isVersion (pair : Bytes × Bytes) : Bool := pair.1 = text "version"

/-- The numbers of the version lines. -/
def versions (pairs : List (Bytes × Bytes)) : List UInt64 :=
  (pairs.filter isVersion).map fun pair => UInt64.ofNat (undecimal pair.2)

/-- The pairs of the other lines. -/
def others (pairs : List (Bytes × Bytes)) : List (Bytes × Bytes) :=
  pairs.filter fun pair => !isVersion pair

/-- A pair that may stand on a line. -/
def Proper (pair : Bytes × Bytes) : Prop :=
  pair.1 ≠ [] ∧ (isVersion pair = true → IsUInt64 pair.2)

section Break

variable {α : Type} [DecidableEq α] {sep : α} {left left' right' : List α}

/-- What is in front of a separator, and what is behind it. -/
theorem break_at (right : List α) (absent : sep ∉ left) :
    (left ++ sep :: right).takeWhile (· ≠ sep) = left ∧
      (left ++ sep :: right).dropWhile (· ≠ sep) = sep :: right := by
  have all : ∀ c ∈ left, decide (c ≠ sep) = true := by
    intro c member
    simpa using ne_of_mem_of_not_mem member absent
  rw [takeWhile_append_of_pos all, dropWhile_append_of_pos all]
  simp

/-- A separator that neither front has splits in one way. -/
theorem break_inj {right : List α} (absent : sep ∉ left) (absent' : sep ∉ left')
    (same : left ++ sep :: right = left' ++ sep :: right') : left = left' ∧ right = right' := by
  have first := break_at right absent
  rw [same, (break_at right' absent').1, (break_at right' absent').2] at first
  exact ⟨first.1.symm, (cons.inj first.2).2.symm⟩

end Break

variable {lineno : Nat} {line key value : Bytes} {lines : List Bytes} {pair : Bytes × Bytes}
  {pairs : List (Bytes × Bytes)} {out next final : ParseResult}

/-- A number is read to its end exactly when it is one of 64 bits. -/
theorem fromChars_whole {s : Bytes} {v : UInt64} :
    fromChars s = some (v, []) ↔ IsUInt64 s ∧ v = UInt64.ofNat (undecimal s) := by
  rw [fromChars]
  constructor
  · intro read
    split_ifs at read with bad
    rw [not_or, not_le] at bad
    simp only [Option.some.injEq, Prod.mk.injEq, drop_eq_nil_iff] at read
    have whole := ( takeWhile_prefix _).eq_of_length_le read.2
    rw [whole] at bad read
    exact ⟨⟨bad.1, by simpa using takeWhile_eq_self_iff.mp whole, bad.2⟩, read.1.symm⟩
  · rintro ⟨⟨some', all, small⟩, rfl⟩
    rw [takeWhile_eq_self_iff.mpr (by simpa using all), if_neg]
    · simp
    · exact not_or.mpr ⟨some', small.not_ge⟩

/-- A pair that goes into the result of `Parse`. -/
def Takes (out : ParseResult) (pair : Bytes × Bytes) (next : ParseResult) : Prop :=
  Proper pair ∧
    if isVersion pair then next = { out with version := UInt64.ofNat (undecimal pair.2) }
    else out.value.contains pair.1 = false ∧ next = { out with value := out.value.emplace pair }

/-- A pair is taken exactly when it may stand on a line and its key is free. -/
theorem parsePair_ok : parsePair lineno key value out = .ok next ↔ Takes out (key, value) next := by
  have version : isVersion (key, value) = true ↔ key = text "version" := decide_eq_true_iff
  simp only [parsePair, Takes, Proper, version]
  by_cases empty : key = []
  · simp [lineError, empty]
  rw [if_neg empty]
  by_cases reserved : key = text "version"
  · rw [if_pos reserved, if_pos reserved]
    by_cases number : IsUInt64 value
    · rw [fromChars_whole.mpr ⟨number, rfl⟩]
      simp only [Except.ok.injEq, ne_eq, empty, not_false_eq_true, number, implies_true, true_and,
        eq_comm]
    · split
      case h_1 read => exact absurd (fromChars_whole.mp read).1 number
      simp only [lineError, reserved, number, reduceCtorEq, true_implies, and_false, false_and]
  · rw [if_neg reserved, if_neg reserved]
    by_cases taken : out.value.contains key = true
    · simp [lineError, taken]
    · simp [taken, empty, reserved, eq_comm]

/-- A line splits at its first `=` only. -/
theorem Holds.unique (holds : Holds line key value) (holds' : Holds line key' value') :
    key = key' ∧ value = value' := by
  obtain ⟨left, right, line', absent, rfl, rfl⟩ := holds
  obtain ⟨left', right', line'', absent', rfl, rfl⟩ := holds'
  obtain ⟨rfl, rfl⟩ := break_inj absent absent' (line'.symm.trans line'')
  exact ⟨rfl, rfl⟩

/-- What the body of the loop does with a line. -/
theorem parseLine_ok : parseLine lineno line out = .ok next ↔
      (Ignored line ∧ next = out) ∨
        ¬Ignored line ∧ ∃ key value, Holds line key value ∧ Takes out (key, value) next := by
  by_cases ignored : Ignored line
  · rw [parseLine, if_pos (by exact ignored)]
    simp [ignored, eq_comm]
  rw [parseLine, if_neg (by exact ignored)]
  simp only [ignored, false_and, not_false_eq_true, true_and, false_or]
  by_cases split : 0x3D ∈ trim line
  · obtain ⟨left, right, parts, absent⟩ := eq_append_cons_of_mem split
    have here : Holds line (trim left) (trim right) := ⟨left, right, parts, absent, rfl, rfl⟩
    rw [parts, (break_at right absent).1, (break_at right absent).2]
    refine parsePair_ok.trans ⟨fun takes => ⟨_, _, here, takes⟩, ?_⟩
    rintro ⟨_, _, holds, takes⟩
    obtain ⟨rfl, rfl⟩ := holds.unique here
    exact takes
  · have none' : (trim line).dropWhile (· ≠ 0x3D) = [] := by
      rw [dropWhile_eq_nil_iff]
      intro c member
      simpa using ne_of_mem_of_not_mem member split
    rw [none']
    constructor
    · intro parsed
      cases parsed
    · rintro ⟨_, _, ⟨left, right, parts, _⟩, _⟩
      exact absurd (by simp [parts]) split

/-- Tables with the same entries are the same. -/
theorem value_eq {a b : Value} (same : a.entries.Perm b.entries) : a = b := by
  have entries : a.entries = b.entries :=
    same.eq_of_pairwise (fun _ _ _ _ below above => absurd below (List.lt_asymm above))
      a.ascending b.ascending
  cases a
  cases b
  congr

/-- The keys of a table differ. -/
theorem keys_nodup (value : Value) : (value.entries.map Prod.fst).Nodup :=
  List.pairwise_map.mpr (value.ascending.imp fun {a b} below (same : a.1 = b.1) =>
    List.lt_irrefl _ (same ▸ below))

/-- A key is free when no entry has it. -/
theorem free_iff {value : Value} : value.contains key = false ↔ key ∉ value.entries.map Prod.fst := by
  rw [Bool.eq_false_iff, ne_eq, SortedTable.contains_eq_true, mem_map]

/-- What pairs make of the result of `Parse`. -/
def Entered (out : ParseResult) (pairs : List (Bytes × Bytes)) (final : ParseResult) : Prop :=
  (∀ pair ∈ pairs, Proper pair) ∧ final.version = (versions pairs).getLast?.getD out.version ∧
    final.value.entries.Perm (others pairs ++ out.value.entries)

/-- The first of some pairs of other keys has a free key, and the rest starts from its table. -/
theorem entries_next {table final : Value} : final.entries.Perm (pair :: pairs ++ table.entries) ↔
      table.contains pair.1 = false ∧
        final.entries.Perm (pairs ++ (table.emplace pair).entries) := by
  have moved (free : table.contains pair.1 = false) :
      (pairs ++ (table.emplace pair).entries).Perm (pair :: pairs ++ table.entries) :=
    ((SortedTable.entries_emplace free).append_left pairs).trans perm_middle
  refine ⟨fun entries => ?_, fun ⟨free, entries⟩ => entries.trans (moved free)⟩
  have keys := (entries.map Prod.fst).nodup_iff.mp (keys_nodup final)
  simp only [cons_append, map_cons, map_append, nodup_cons,
    mem_append, not_or] at keys
  have free := free_iff.mpr keys.1.2
  exact ⟨free, entries.trans (moved free).symm⟩

/-- Pairs are entered one after another. -/
theorem entered_cons :
    Entered out (pair :: pairs) final ↔ ∃ next, Takes out pair next ∧ Entered next pairs final := by
  simp only [Entered, Takes, forall_mem_cons]
  cases reserved : isVersion pair
  · have split : others (pair :: pairs) = pair :: others pairs := by simp [others, reserved]
    have same : versions (pair :: pairs) = versions pairs := by simp [versions, reserved]
    rw [split, same, entries_next]
    constructor
    · rintro ⟨⟨proper, rest⟩, version, free, entries⟩
      exact ⟨{ out with value := out.value.emplace pair }, ⟨proper, by simp [free]⟩, rest, version,
        entries⟩
    · rintro ⟨next, ⟨proper, took⟩, rest, version, entries⟩
      simp only [Bool.false_eq_true, if_false] at took
      obtain ⟨free, rfl⟩ := took
      exact ⟨⟨proper, rest⟩, version, free, entries⟩
  · have split : others (pair :: pairs) = others pairs := by simp [others, reserved]
    have same : versions (pair :: pairs) = UInt64.ofNat (undecimal pair.2) :: versions pairs := by
      simp [versions, reserved]
    rw [split, same, getLast?_cons, Option.getD_some]
    constructor
    · rintro ⟨⟨proper, rest⟩, version, entries⟩
      exact ⟨_, ⟨proper, rfl⟩, rest, version, entries⟩
    · rintro ⟨next, ⟨proper, rfl⟩, rest, version, entries⟩
      exact ⟨⟨proper, rest⟩, version, entries⟩

/-- The loop of `Parse` enters the pairs that the lines hold. -/
theorem parseLines_ok :
    parseLines lineno out lines = .ok final ↔ ∃ pairs, Reads lines pairs ∧ Entered out pairs final := by
  induction lines generalizing lineno out with
  | nil =>
    constructor
    · intro parsed
      cases parsed
      exact ⟨[], .nil, ⟨by simp, rfl, .refl _⟩⟩
    · rintro ⟨_, ⟨⟩, _, version, entries⟩
      cases final
      cases out
      exact congrArg Except.ok (congr (congrArg ParseResult.mk version.symm) (value_eq entries).symm)
  | cons line rest ih =>
    rw [parseLines, bind_eq_ok]
    simp only [parseLine_ok, ih]
    constructor
    · rintro ⟨next, ⟨ignored, rfl⟩ | ⟨counts, key, value, holds, takes⟩, pairs, reads, entered⟩
      · exact ⟨pairs, reads.skip ignored, entered⟩
      · exact ⟨_, reads.pair counts holds, entered_cons.mpr ⟨next, takes, entered⟩⟩
    · rintro ⟨pairs, reads, entered⟩
      cases reads with
      | skip ignored reads => exact ⟨out, .inl ⟨ignored, rfl⟩, pairs, reads, entered⟩
      | pair counts holds reads =>
        obtain ⟨next, takes, entered⟩ := entered_cons.mp entered
        exact ⟨next, .inr ⟨counts, _, _, holds, takes⟩, _, reads, entered⟩

/-- Pairs of different keys are the entries of a table. -/
theorem value_exists (apart : (pairs.map Prod.fst).Nodup) :
    ∃ value : Value, value.entries.Perm pairs := by
  induction pairs with
  | nil => exact ⟨.empty _, .refl _⟩
  | cons pair rest ih =>
    obtain ⟨fresh, apart⟩ := nodup_cons.mp apart
    obtain ⟨value, same⟩ := ih apart
    have free := free_iff.mpr fun member => fresh ((same.map _).mem_iff.mp member)
    exact ⟨value.emplace pair, (SortedTable.entries_emplace free).trans (same.cons pair)⟩

/-- What lines hold is determined. -/
theorem Reads.unique (reads : Reads lines pairs) (reads' : Reads lines pairs') : pairs = pairs' := by
  induction reads generalizing pairs' with
  | nil =>
    cases reads'
    rfl
  | skip ignored _ ih =>
    cases reads' with
    | skip _ reads' => exact ih reads'
    | pair counts => exact absurd ignored counts
  | pair counts holds _ ih =>
    cases reads' with
    | skip ignored => exact absurd ignored counts
    | pair _ holds' reads' =>
      obtain ⟨rfl, rfl⟩ := holds.unique holds'
      rw [ih reads']

/-- A trimmed text has no other bytes. -/
theorem mem_trim {c : UInt8} {s : Bytes} (member : c ∈ trim s) : c ∈ s :=
  (dropWhile_suffix _).subset (( rdropWhile_prefix _ _).subset member)

/-- No line contains a line break. -/
theorem no_break {content : Bytes} (member : line ∈ getlines content) : 0x0A ∉ line := by
  induction content generalizing line with
  | nil => cases member
  | cons c rest ih =>
    rw [getlines] at member
    split_ifs at member with here
    · rcases mem_cons.mp member with rfl | later
      · exact not_mem_nil
      · exact ih later
    · split at member
      · rw [mem_singleton.mp member]
        simpa [eq_comm] using here
      case h_2 first lines found =>
        rw [found, forall_mem_cons] at ih
        rcases mem_cons.mp member with rfl | later
        · simpa [eq_comm, here] using ih.1
        · exact ih.2 _ later

/-- A pair whose text can be told apart from what follows it. -/
def Clean (pair : Bytes × Bytes) : Prop := 0x3D ∉ pair.1 ∧ 0x0A ∉ pair.2

/-- What lines hold is free of separators. -/
theorem Reads.clean (reads : Reads lines pairs) (breaks : ∀ line ∈ lines, 0x0A ∉ line) :
    ∀ pair ∈ pairs, Clean pair := by
  induction reads with
  | nil => simp
  | skip _ _ ih => exact ih fun line member => breaks line (by simp [member])
  | pair _ holds _ ih =>
    obtain ⟨left, right, parts, absent, rfl, rfl⟩ := holds
    refine forall_mem_cons.mpr ⟨⟨fun member => absent (mem_trim member), fun member => ?_⟩,
      ih fun line member => breaks line (by simp [member])⟩
    have inside : 0x0A ∈ trim _ := parts ▸ mem_append_right left (.tail _ (mem_trim member))
    exact breaks _ (by simp) (mem_trim inside)

/-- The canonical text determines the entries. -/
theorem canonical_inj {a b : List (Bytes × Bytes)} (clean : ∀ pair ∈ a, Clean pair)
    (clean' : ∀ pair ∈ b, Clean pair) (same : canonical a = canonical b) : a = b := by
  induction a generalizing b with
  | nil =>
    cases b with
    | nil => rfl
    | cons => simp [canonical] at same
  | cons pair rest ih =>
    cases b with
    | nil => simp [canonical] at same
    | cons pair' rest' =>
      rw [forall_mem_cons] at clean clean'
      simp only [canonical, flatMap_cons, append_assoc, cons_append,
        nil_append] at same
      obtain ⟨key, behind⟩ := break_inj clean.1.1 clean'.1.1 same
      obtain ⟨value, behind⟩ := break_inj clean.1.2 clean'.1.2 behind
      rw [Prod.ext key value, ih clean.2 clean'.2 behind]

/-- What a content has to hold to be accepted. -/
def Acceptable (pairs : List (Bytes × Bytes)) : Prop :=
  (∀ pair ∈ pairs, Proper pair) ∧ ((others pairs).map Prod.fst).Nodup

/-- A content is accepted as what its lines hold. -/
theorem parse_ok {content : Bytes} : parse content = .ok out ↔
    ∃ pairs, Reads (getlines content) pairs ∧ (∀ pair ∈ pairs, Proper pair) ∧
      out.version = (versions pairs).getLast?.getD 0 ∧ out.value.entries.Perm (others pairs) := by
  simp [parse, parseLines_ok, Entered, SortedTable.empty]

/-- A content is accepted exactly when its lines hold pairs that may stand together. -/
theorem parse_accepts {content : Bytes} : (∃ out, parse content = .ok out) ↔
    ∃ pairs, Reads (getlines content) pairs ∧ Acceptable pairs := by
  simp only [parse_ok]
  constructor
  · rintro ⟨out, pairs, reads, proper, _, entries⟩
    exact ⟨pairs, reads, proper, (entries.map _).nodup_iff.mp (keys_nodup out.value)⟩
  · rintro ⟨pairs, reads, proper, apart⟩
    obtain ⟨value, same⟩ := value_exists apart
    exact ⟨⟨_, value⟩, pairs, reads, proper, rfl, same⟩

/-- Two texts that `Fnv1a64Hex` does not tell apart. -/
def Collide (a b : Bytes) : Prop := a ≠ b ∧ fnv1a64Hex a = fnv1a64Hex b

/-- `Parse` accepts a content exactly when every line that counts is a pair with a key, no key but
`version` is on two lines and every version is a number. The version is that of the last version
line, and the map has the other pairs. The canonical texts of two maps are the same exactly when the
maps are; so version and fingerprint stay the same under any change that keeps the pairs, and no
other one but for collisions. -/
theorem parse_exact :
    (∀ content, (∃ out, parse content = .ok out) ↔
      ∃ pairs, Reads (getlines content) pairs ∧ Acceptable pairs) ∧
    (∀ content out pairs, parse content = .ok out → Reads (getlines content) pairs →
      out.version = (versions pairs).getLast?.getD 0 ∧ out.value.entries.Perm (others pairs)) ∧
    ∀ content content' out out', parse content = .ok out → parse content' = .ok out' →
      (canonical out.value.entries = canonical out'.value.entries ↔ out.value = out'.value) ∧
      (out.version = out'.version ∧ fingerprint out.value = fingerprint out'.value →
        out = out' ∨ Collide (canonical out.value.entries) (canonical out'.value.entries)) ∧
      ∀ pairs pairs', Reads (getlines content) pairs → Reads (getlines content') pairs' →
        (others pairs).Perm (others pairs') → (versions pairs).getLast? = (versions pairs').getLast? →
        out.version = out'.version ∧ fingerprint out.value = fingerprint out'.value := by
  have read {content out pairs} (parsed : parse content = .ok out)
      (reads : Reads (getlines content) pairs) : out.version = (versions pairs).getLast?.getD 0 ∧
        out.value.entries.Perm (others pairs) := by
    obtain ⟨pairs', reads', _, version, entries⟩ := parse_ok.mp parsed
    rw [reads.unique reads']
    exact ⟨version, entries⟩
  have clean {content out} (parsed : parse content = .ok out) :
      ∀ entry ∈ out.value.entries, Clean entry := by
    obtain ⟨pairs, reads, _, _, entries⟩ := parse_ok.mp parsed
    intro entry member
    exact reads.clean (fun _ => no_break) entry (mem_of_mem_filter (entries.mem_iff.mp member))
  refine ⟨fun _ => parse_accepts, fun _ _ _ => read, fun content content' out out' parsed parsed' =>
    ?_⟩
  have text_iff : canonical out.value.entries = canonical out'.value.entries ↔
      out.value = out'.value :=
    ⟨fun same => value_eq (.of_eq (canonical_inj (clean parsed) (clean parsed') same)),
      fun same => by rw [same]⟩
  refine ⟨text_iff, fun ⟨version, same⟩ => ?_, fun pairs pairs' reads reads' moved last => ?_⟩
  · by_cases differ : out.value = out'.value
    · cases out
      cases out'
      exact .inl (congr (congrArg ParseResult.mk version) differ)
    · exact .inr ⟨mt text_iff.mp differ, same⟩
  · obtain ⟨version, entries⟩ := read parsed reads
    obtain ⟨version', entries'⟩ := read parsed' reads'
    rw [version, version', last, value_eq ((entries.trans moved).trans entries'.symm)]
    exact ⟨rfl, rfl⟩

end BbtInfra.Config
