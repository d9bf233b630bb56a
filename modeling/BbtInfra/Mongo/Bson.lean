import BbtInfra.Result
import Mathlib.Data.List.TakeWhile

/-!
# Documents from JSON

`MongoDocument::FromJson` lets the library parse the first object of a text and looks for the end of
that object itself, with a scanner that counts braces outside strings. The scanner agrees with the
grammar of JSON on where an object ends, whatever is nested in it and follows it.
-/
namespace BbtInfra.Mongo

open List

/-- `std::isspace`. -/
def isSpace (c : UInt8) : Bool := c == 0x20 || (0x09 ≤ c && c ≤ 0x0D)

/-- `FirstNonSpace`. -/
def firstNonSpace (json : Bytes) : Option Nat :=
  let i := (json.takeWhile isSpace).length
  if i = json.length then none else some i

/-- The loop of `ObjectEnd`, at position `i`. `depth` is an `int` there. It does not overflow: the
library has turned the object into a document first, and the length of a document is an `int`, to
which each object in another adds several bytes. -/
def scan (depth : Int) (inString escaped : Bool) (i : Nat) : Bytes → Option Nat
  | [] => none
  | c :: rest =>
    if inString then
      if escaped then scan depth true false (i + 1) rest
      else if c = 0x5C then scan depth true true (i + 1) rest
      else if c = 0x22 then scan depth false false (i + 1) rest
      else scan depth true false (i + 1) rest
    else if c = 0x22 then scan depth true escaped (i + 1) rest
    else if c = 0x7B then scan (depth + 1) false escaped (i + 1) rest
    else if c = 0x7D then
      if depth - 1 = 0 then some (i + 1) else scan (depth - 1) false escaped (i + 1) rest
    else scan depth false escaped (i + 1) rest

/-- `ObjectEnd`. -/
def objectEnd (json : Bytes) (begin' : Nat) : Option Nat :=
  scan 0 false false begin' (json.drop begin')

/-- `InvalidArg`. -/
def invalidArg (message : String) : Error := makeError .invalidArgument (text message)

/-- An exception of the library: its text and its code. -/
structure BsonException where
  what : Bytes
  code : Int

/-- `MongoDocument::FromJson`; `bsoncxx::from_json` is a parameter. -/
def fromJson (parse : Bytes → Except BsonException Bytes) (json : Bytes) : Except Error Bytes :=
  match firstNonSpace json with
  | none => throw (invalidArg "mongo FromJson: empty JSON string")
  | some first =>
    if json[first]? ≠ some 0x7B then
      throw (invalidArg "mongo FromJson: top-level JSON value must be an object")
    else
      match parse json with
      | .error failure =>
        throw { makeError .invalidArgument (text "mongo FromJson: " ++ failure.what) with
          backendCategory := text "bsoncxx", backendCode := failure.code }
      | .ok parsed =>
        match objectEnd json first with
        | none => throw (invalidArg "mongo FromJson: input must be exactly one JSON object")
        | some end' =>
          if (firstNonSpace (json.drop end')).isSome then
            throw (invalidArg "mongo FromJson: input must be exactly one JSON object")
          else return parsed

section Grammar

/-- White space of JSON. -/
def Blank (bytes : Bytes) : Prop := ∀ c ∈ bytes, c = 0x20 ∨ c = 0x09 ∨ c = 0x0A ∨ c = 0x0D

/-- Digits, at least one. -/
def Digits (bytes : Bytes) : Prop := bytes ≠ [] ∧ ∀ c ∈ bytes, 0x30 ≤ c ∧ c ≤ 0x39

/-- A number: a sign, an integer without a zero in front, a fraction and an exponent. -/
def Number (bytes : Bytes) : Prop :=
  ∃ sign integer fraction exponent, bytes = sign ++ integer ++ fraction ++ exponent ∧
    (sign = [] ∨ sign = [0x2D]) ∧
    Digits integer ∧ (integer.head? = some 0x30 → integer = [0x30]) ∧
    (fraction = [] ∨ ∃ digits, Digits digits ∧ fraction = 0x2E :: digits) ∧
    (exponent = [] ∨ ∃ e sign digits, (e = 0x65 ∨ e = 0x45) ∧
      (sign = [] ∨ sign = [0x2B] ∨ sign = [0x2D]) ∧ Digits digits ∧
      exponent = e :: (sign ++ digits))

/-- A character of a string. -/
inductive Character : Bytes → Prop
  | plain {c : UInt8} (printable : 0x20 ≤ c) (open' : c ≠ 0x22) (other : c ≠ 0x5C) : Character [c]
  | escape {c : UInt8} (known : c ∈ text "\"\\/bfnrt") : Character [0x5C, c]
  | unicode {a b c d : UInt8} (hex : ∀ digit ∈ [a, b, c, d], (0x30 ≤ digit ∧ digit ≤ 0x39) ∨
      (0x41 ≤ digit ∧ digit ≤ 0x46) ∨ (0x61 ≤ digit ∧ digit ≤ 0x66)) :
    Character [0x5C, 0x75, a, b, c, d]

/-- A string. -/
def Quoted (bytes : Bytes) : Prop :=
  ∃ characters : List Bytes, (∀ character ∈ characters, Character character) ∧
    bytes = 0x22 :: (characters.flatten ++ [0x22])

/-- An element of an array, or a member of an object with its name in front. -/
structure Element where
  front : Bytes
  before : Bytes
  value : Bytes
  behind : Bytes

/-- The bytes of an element. -/
def Element.text (element : Element) : Bytes :=
  element.front ++ element.before ++ element.value ++ element.behind

/-- The name of a member and a colon. -/
def Named (front : Bytes) : Prop :=
  ∃ before name behind, Blank before ∧ Quoted name ∧ Blank behind ∧
    front = before ++ name ++ behind ++ [0x3A]

/-- A value of JSON. -/
inductive Json : Bytes → Prop
  | literal {bytes : Bytes} (known : bytes ∈ [text "true", text "false", text "null"]) : Json bytes
  | number {bytes : Bytes} (number : Number bytes) : Json bytes
  | string {bytes : Bytes} (quoted : Quoted bytes) : Json bytes
  | emptyArray {blank : Bytes} (spaces : Blank blank) : Json (0x5B :: (blank ++ [0x5D]))
  | emptyObject {blank : Bytes} (spaces : Blank blank) : Json (0x7B :: (blank ++ [0x7D]))
  | array {elements : List Element} (some' : elements ≠ [])
    (spaces : ∀ element ∈ elements,
      element.front = [] ∧ Blank element.before ∧ Blank element.behind)
    (values : ∀ element ∈ elements, Json element.value) :
    Json (0x5B :: ([0x2C].intercalate (elements.map Element.text) ++ [0x5D]))
  | object {elements : List Element} (some' : elements ≠ [])
    (spaces : ∀ element ∈ elements,
      Named element.front ∧ Blank element.before ∧ Blank element.behind)
    (values : ∀ element ∈ elements, Json element.value) :
    Json (0x7B :: ([0x2C].intercalate (elements.map Element.text) ++ [0x7D]))

/-- An object of JSON. -/
def JsonObject (bytes : Bytes) : Prop :=
  (∃ blank, Blank blank ∧ bytes = 0x7B :: (blank ++ [0x7D])) ∨
  ∃ elements : List Element, elements ≠ [] ∧
    (∀ element ∈ elements, Named element.front ∧ Blank element.before ∧ Blank element.behind) ∧
    (∀ element ∈ elements, Json element.value) ∧
    bytes = 0x7B :: ([0x2C].intercalate (elements.map Element.text) ++ [0x7D])

end Grammar

section Scanner

variable {bytes first second : Bytes}

/-- The scanner comes through a text inside an object as it was. -/
def Passes (bytes : Bytes) : Prop :=
  ∀ depth i rest, 1 ≤ depth →
    scan depth false false i (bytes ++ rest) = scan depth false false (i + bytes.length) rest

/-- It comes through two texts, one behind the other. -/
theorem Passes.append (before : Passes first) (behind : Passes second) :
    Passes (first ++ second) := by
  intro depth i rest inside
  rw [append_assoc, before depth i _ inside, behind depth _ rest inside, length_append,
    Nat.add_assoc]

/-- It comes through nothing. -/
theorem passes_nil : Passes [] := fun _ _ _ _ => rfl

/-- Bytes that mean nothing to the scanner. -/
theorem passes_neutral (neutral : ∀ c ∈ bytes, c ≠ 0x22 ∧ c ≠ 0x7B ∧ c ≠ 0x7D) : Passes bytes := by
  induction bytes with
  | nil => exact passes_nil
  | cons c bytes ih =>
    rw [forall_mem_cons] at neutral
    intro depth i rest inside
    rw [cons_append, scan]
    simp only [neutral.1, Bool.false_eq_true, if_false]
    rw [ih neutral.2 depth (i + 1) rest inside, length_cons, Nat.add_right_comm, Nat.add_assoc]

/-- It comes through blanks. -/
theorem passes_blank (blank : Blank bytes) : Passes bytes := by
  apply passes_neutral
  intro c inside
  rcases blank c inside with rfl | rfl | rfl | rfl <;> decide

/-- A digit is no quote and no brace. -/
theorem neutral_digit {c : UInt8} (digit : 0x30 ≤ c ∧ c ≤ 0x39) :
    c ≠ 0x22 ∧ c ≠ 0x7B ∧ c ≠ 0x7D := by
  refine ⟨?_, ?_, ?_⟩
  all_goals
    rintro rfl
    revert digit
    decide

/-- It comes through digits. -/
theorem passes_digits (digits : Digits bytes) : Passes bytes :=
  passes_neutral fun c inside => neutral_digit (digits.2 c inside)

/-- A byte that means nothing to the scanner. -/
theorem passes_byte {c : UInt8} (neutral : c ≠ 0x22 ∧ c ≠ 0x7B ∧ c ≠ 0x7D) : Passes [c] :=
  passes_neutral (forall_mem_singleton.mpr neutral)

/-- It comes through a number. -/
theorem passes_number (number : Number bytes) : Passes bytes := by
  obtain ⟨sign, integer, fraction, exponent, rfl, signed, digits, -, fractional, scaled⟩ := number
  refine ((Passes.append ?_ (passes_digits digits)).append ?_).append ?_
  · rcases signed with rfl | rfl
    · exact passes_nil
    · exact passes_byte (by decide)
  · rcases fractional with rfl | ⟨more, digits, rfl⟩
    · exact passes_nil
    · exact (passes_byte (by decide)).append (passes_digits digits)
  · rcases scaled with rfl | ⟨e, sign, more, letter, signed, digits, rfl⟩
    · exact passes_nil
    · refine (passes_byte (c := e) ?_).append (Passes.append ?_ (passes_digits digits))
      · rcases letter with rfl | rfl <;> decide
      · rcases signed with rfl | rfl | rfl
        · exact passes_nil
        · exact passes_byte (by decide)
        · exact passes_byte (by decide)

/-- Inside a string the scanner comes through a character. -/
theorem scan_character (character : Character bytes) (depth : Int) (i : Nat) (rest : Bytes) :
    scan depth true false i (bytes ++ rest) = scan depth true false (i + bytes.length) rest := by
  cases character with
  | plain printable open' other => simp [scan, open', other]
  | escape known => simp [scan]
  | unicode hex =>
    have quote := mt (hex 0x22) (by decide)
    have slash := mt (hex 0x5C) (by decide)
    simp only [mem_cons, not_mem_nil, or_false, not_or] at quote slash
    simp [scan, Ne.symm, *]

/-- It comes through a string: braces inside do not count, and an escaped quote does not end it. -/
theorem passes_quoted (quoted : Quoted bytes) : Passes bytes := by
  obtain ⟨characters, known, rfl⟩ := quoted
  have through : ∀ (depth : Int) (i : Nat) (rest : Bytes),
      scan depth true false i (characters.flatten ++ rest) =
        scan depth true false (i + characters.flatten.length) rest := by
    induction characters with
    | nil => exact fun _ _ _ => rfl
    | cons character characters ih =>
      rw [forall_mem_cons] at known
      intro depth i rest
      rw [flatten_cons, append_assoc, scan_character known.1, ih known.2,
        length_append, Nat.add_assoc]
  intro depth i rest _
  rw [cons_append, append_assoc, scan]
  simp only [Bool.false_eq_true, if_false, if_true, through]
  simp [scan]
  congr 1
  omega

/-- It comes through an element if it comes through what is before its value and the value. -/
theorem passes_element {element : Element} (front : Passes element.front)
    (before : Blank element.before) (value : Passes element.value)
    (behind : Blank element.behind) : Passes element.text :=
  ((front.append (passes_blank before)).append value).append (passes_blank behind)

/-- It comes through elements with commas between them. -/
theorem passes_elements {elements : List Element}
    (all : ∀ element ∈ elements, Passes element.text) :
    Passes ([0x2C].intercalate (elements.map Element.text)) := by
  induction elements with
  | nil => exact passes_nil
  | cons element elements ih =>
    rw [forall_mem_cons] at all
    cases elements with
    | nil => simpa using all.1
    | cons next elements =>
      simp only [map_cons, intercalate_cons_cons]
      exact (all.1.append (passes_byte (by decide))).append (ih all.2)

/-- It comes through a name with its colon. -/
theorem passes_named {front : Bytes} (named : Named front) : Passes front := by
  obtain ⟨before, name, behind, blank, quoted, blank', rfl⟩ := named
  exact (((passes_blank blank).append (passes_quoted quoted)).append (passes_blank blank')).append
    (passes_byte (by decide))

/-- An object around a text that the scanner comes through. -/
theorem scan_object (inner : Passes bytes) (depth : Int) (i : Nat) (rest : Bytes)
    (outside : 0 ≤ depth) :
    scan depth false false i (0x7B :: (bytes ++ [0x7D]) ++ rest) =
      if depth = 0 then some (i + (0x7B :: (bytes ++ [0x7D])).length)
      else scan depth false false (i + (0x7B :: (bytes ++ [0x7D])).length) rest := by
  have places : i + 1 + bytes.length + 1 = i + (0x7B :: (bytes ++ [0x7D])).length := by
    simp
    omega
  rw [cons_append, append_assoc, scan]
  rw [inner (depth + 1) (i + 1) _ (by omega), singleton_append, scan, ← places]
  simp [show ¬(0x7D : UInt8) = 0x22 by decide, show ¬(0x7D : UInt8) = 0x7B by decide]

/-- It comes through an object inside another. -/
theorem passes_braces (inner : Passes bytes) : Passes (0x7B :: (bytes ++ [0x7D])) := by
  intro depth i rest inside
  rw [scan_object inner depth i rest (by omega), if_neg (by omega)]

/-- It comes through an array, whose brackets it does not count. -/
theorem passes_brackets (inner : Passes bytes) : Passes (0x5B :: (bytes ++ [0x5D])) :=
  (passes_byte (c := 0x5B) (by decide)).append (inner.append (passes_byte (by decide)))

/-- The scanner comes through every value. -/
theorem passes_json (json : Json bytes) : Passes bytes := by
  induction json with
  | literal known =>
    have all : ∀ bytes ∈ [text "true", text "false", text "null"], ∀ c ∈ bytes,
        c ≠ 0x22 ∧ c ≠ 0x7B ∧ c ≠ 0x7D := by
      decide +kernel
    exact passes_neutral (all _ known)
  | number number => exact passes_number number
  | string quoted => exact passes_quoted quoted
  | emptyArray spaces => exact passes_brackets (passes_blank spaces)
  | emptyObject spaces => exact passes_braces (passes_blank spaces)
  | array _ spaces _ ih =>
    apply passes_brackets
    apply passes_elements
    intro element inside
    obtain ⟨front, before, behind⟩ := spaces element inside
    exact passes_element (by rw [front]; exact passes_nil) before (ih element inside) behind
  | object _ spaces _ ih =>
    apply passes_braces
    apply passes_elements
    intro element inside
    obtain ⟨named, before, behind⟩ := spaces element inside
    exact passes_element (passes_named named) before (ih element inside) behind

/-- The scanner comes through what is between the braces of an object. -/
theorem JsonObject.inner (object : JsonObject bytes) :
    ∃ inner, Passes inner ∧ bytes = 0x7B :: (inner ++ [0x7D]) := by
  rcases object with ⟨blank, spaces, rfl⟩ | ⟨elements, -, spaces, values, rfl⟩
  · exact ⟨blank, passes_blank spaces, rfl⟩
  · refine ⟨_, passes_elements fun element inside => ?_, rfl⟩
    obtain ⟨named, before, behind⟩ := spaces element inside
    exact passes_element (passes_named named) before (passes_json (values element inside)) behind

/-- `ObjectEnd` returns the end of an object, whatever stands around it. -/
theorem objectEnd_object (object : JsonObject bytes) (before rest : Bytes) :
    objectEnd (before ++ bytes ++ rest) before.length = some (before.length + bytes.length) := by
  obtain ⟨inner, passes, rfl⟩ := object.inner
  rw [objectEnd, append_assoc, drop_left]
  exact (scan_object passes 0 before.length rest (by decide)).trans (if_pos rfl)

end Scanner

section Texts

variable {bytes before rest json : Bytes}

/-- A text of white space in front of a byte that is none. -/
theorem firstNonSpace_append (spaces : ∀ c ∈ before, isSpace c = true) {c : UInt8}
    (head : bytes.head? = some c) (other : isSpace c = false) :
    firstNonSpace (before ++ bytes) = some before.length := by
  obtain ⟨tail, rfl⟩ : ∃ tail, bytes = c :: tail := by
    cases bytes with
    | nil => cases head
    | cons d tail => exact ⟨tail, by simpa using head⟩
  have taken : (before ++ c :: tail).takeWhile isSpace = before := by
    rw [takeWhile_append_of_pos spaces, takeWhile_cons, other]
    simp
  rw [firstNonSpace, taken]
  simp

/-- Nothing is found in a text of blanks only. -/
theorem firstNonSpace_none : firstNonSpace json = none ↔ ∀ c ∈ json, isSpace c = true := by
  rw [firstNonSpace]
  simp only [ite_eq_left_iff, reduceCtorEq, imp_false, not_not]
  constructor
  · intro same
    exact takeWhile_eq_self_iff.mp ((takeWhile_sublist _).eq_of_length same)
  · intro spaces
    rw [takeWhile_eq_self_iff.mpr spaces]

/-- What `FromJson` makes of an object between white space and a text behind it. -/
theorem fromJson_object (parse : Bytes → Except BsonException Bytes)
    (spaces : ∀ c ∈ before, isSpace c = true) (object : JsonObject bytes) :
    fromJson parse (before ++ bytes ++ rest) =
      match parse (before ++ bytes ++ rest) with
      | .error failure =>
        throw { makeError .invalidArgument (text "mongo FromJson: " ++ failure.what) with
          backendCategory := text "bsoncxx", backendCode := failure.code }
      | .ok parsed =>
        if (firstNonSpace rest).isSome then
          throw (invalidArg "mongo FromJson: input must be exactly one JSON object")
        else return parsed := by
  obtain ⟨inner, -, same⟩ := object.inner
  have first : firstNonSpace (before ++ bytes ++ rest) = some before.length := by
    rw [append_assoc]
    exact firstNonSpace_append spaces (c := 0x7B) (by rw [same]; rfl) rfl
  have opening : (before ++ bytes ++ rest)[before.length]? = some 0x7B := by
    rw [append_assoc, getElem?_append_right (Nat.le_refl _), Nat.sub_self, same]
    rfl
  have behind : (before ++ bytes ++ rest).drop (before.length + bytes.length) = rest :=
    drop_left' (length_append)
  simp only [fromJson, first, opening, ne_eq, not_true_eq_false, if_false,
    objectEnd_object object before rest, behind]

/-- The library parses the first complete object of a text, behind white space. -/
def ParsesFirst (parse : Bytes → Except BsonException Bytes) : Prop :=
  ∀ json parsed, parse json = .ok parsed → ∃ before object rest,
    json = before ++ object ++ rest ∧ (∀ c ∈ before, isSpace c = true) ∧ JsonObject object

/-- `ObjectEnd` returns the end of every object. A text that `FromJson` accepts is white space, one
object and white space; and such a text is accepted when the library accepts it. -/
theorem fromJson_whole {parse : Bytes → Except BsonException Bytes} (first : ParsesFirst parse) :
    (∀ before object rest, JsonObject object →
      objectEnd (before ++ object ++ rest) before.length =
        some (before.length + object.length)) ∧
    (∀ json parsed, fromJson parse json = .ok parsed → ∃ before object rest,
      json = before ++ object ++ rest ∧ JsonObject object ∧
      (∀ c ∈ before, isSpace c = true) ∧ ∀ c ∈ rest, isSpace c = true) ∧
    ∀ before object rest parsed, JsonObject object → (∀ c ∈ before, isSpace c = true) →
      (∀ c ∈ rest, isSpace c = true) → parse (before ++ object ++ rest) = .ok parsed →
      fromJson parse (before ++ object ++ rest) = .ok parsed := by
  refine ⟨fun before object rest known => objectEnd_object known before rest, ?_, ?_⟩
  · intro json parsed done
    cases read : parse json with
    | error failure =>
      unfold fromJson at done
      split at done
      · cases done
      · rw [read] at done
        split at done <;> cases done
    | ok parsed' =>
      obtain ⟨before, object, rest, rfl, spaces, known⟩ := first json parsed' read
      rw [fromJson_object parse spaces known, read] at done
      refine ⟨before, object, rest, rfl, known, spaces, ?_⟩
      apply firstNonSpace_none.mp
      cases behind : firstNonSpace rest with
      | none => rfl
      | some i =>
        simp only [behind, Option.isSome_some, if_true] at done
        cases done
  · intro before object rest parsed known spaces spaces' read
    rw [fromJson_object parse spaces known, read]
    simp only [firstNonSpace_none.mpr spaces']
    rfl

/-- The name of one letter and a colon. -/
theorem named_letter {c : UInt8} (letter : Character [c]) : Named [0x22, c, 0x22, 0x3A] :=
  ⟨[], [0x22, c, 0x22], [], nofun, ⟨[[c]], by simpa using letter, rfl⟩, nofun, rfl⟩

/-- An object in an object, whose string holds a closing brace and an escaped quote. -/
def nested : Bytes := text "\x7b\"a\":\x7b\"b\":\"\x7d\\\"\"\x7d\x7d"

/-- The nested text is an object of the grammar. -/
theorem nested_object : JsonObject nested := by
  have inner : Json (text "\x7b\"b\":\"\x7d\\\"\"\x7d") := by
    refine @Json.object [⟨text "\"b\":", [], text "\"\x7d\\\"\"", []⟩] (by simp) ?_ ?_
    · rw [forall_mem_singleton]
      exact ⟨named_letter (.plain (by decide) (by decide) (by decide)), nofun, nofun⟩
    · rw [forall_mem_singleton]
      refine .string ⟨[[0x7D], [0x5C, 0x22]], ?_, rfl⟩
      simp only [forall_mem_cons, not_mem_nil, false_implies, implies_true, and_true]
      exact ⟨.plain (by decide) (by decide) (by decide), .escape (by decide)⟩
  refine .inr ⟨[⟨text "\"a\":", [], text "\x7b\"b\":\"\x7d\\\"\"\x7d", []⟩], by simp, ?_, ?_, rfl⟩
  · rw [forall_mem_singleton]
    exact ⟨named_letter (.plain (by decide) (by decide) (by decide)), nofun, nofun⟩
  · rw [forall_mem_singleton]
    exact inner

/-- Its document. -/
def nestedDocument : Bytes :=
  [0x17, 0, 0, 0, 3, 0x61, 0, 0x0F, 0, 0, 0, 2, 0x62, 0, 3, 0, 0, 0, 0x7D, 0x22, 0, 0, 0]

/-- A library that knows this object, with anything behind it. -/
def parseNested (json : Bytes) : Except BsonException Bytes :=
  if json.take nested.length = nested then .ok nestedDocument else .error ⟨[], 0⟩

/-- The object is accepted with a line end behind it. -/
theorem fromJson_whole_nested : fromJson parseNested (nested ++ [0x0A]) = .ok nestedDocument := by
  have first : ParsesFirst parseNested := by
    intro json parsed read
    unfold parseNested at read
    split at read
    · rename_i taken
      refine ⟨[], json.take nested.length, json.drop nested.length, ?_, nofun, ?_⟩
      · rw [nil_append, take_append_drop]
      · rw [taken]
        exact nested_object
    · cases read
  exact (fromJson_whole first).2.2 [] nested [0x0A] _ nested_object nofun (by simp [isSpace]) rfl

end Texts

end BbtInfra.Mongo
