import BbtInfra.Http.BuildRequest
import BbtInfra.Lib.Cursor

/-!
# The merge of headers

The headers of a request lie over those of the client. The merge replaces one entry at a time, also
one that it has added itself, and the serialisation keeps one field for each name. Of values that
repeat only the last is sent. The field map of a message is a parameter: `FieldMap` is the calls that
`SerializeRequest` makes, `FieldMap.Documented` what they promise.
-/
namespace BbtInfra.Http

open List

open Lib (bind_eq_ok)
open Mcp (toLower equalsNoCase Headers)

/-- The fields of a message: `set`, which may throw, and the values that go out under a name. -/
structure FieldMap (φ : Type) where
  empty : φ
  set : φ → Bytes × Bytes → Option φ
  values : φ → Bytes → List Bytes

/-- What is relied on: `set` takes away every field of the name, whatever its case, and puts in one,
whose value goes out as it is `written`. Other names keep their fields. -/
structure FieldMap.Documented {φ : Type} (map : FieldMap φ) (written : Bytes → Bytes) : Prop where
  empty : ∀ name, map.values map.empty name = []
  set : ∀ {fields after header}, map.set fields header = some after → ∀ name,
    map.values after name =
      if equalsNoCase header.1 name then [written header.2] else map.values fields name

/-- The fields of a message in `SerializeRequest`, before `prepare_payload` adds the framing. -/
def serializedFields {α φ : Type} (map : FieldMap φ) (request : PreparedRequest α) : Option φ :=
  request.headers.foldlM map.set map.empty

/-- The values of a name, in their order. -/
def valuesOf (headers : Headers) (name : Bytes) : List Bytes :=
  (headers.filter fun header => equalsNoCase header.1 name).map Prod.snd

/-- The values that a name should have. -/
def overridden (client request : List Bytes) : List Bytes :=
  if request = [] then client else request

/-- One value at most, from either side, that goes out as it is; or the last value of the client goes out
as that of the request. -/
def Single (written : Bytes → Bytes) (client request : List Bytes) : Prop :=
  match request with
  | [] => client.length ≤ 1 ∧ ∀ value ∈ client, written value = value
  | [value] =>
    client.length ≤ 1 ∧ written value = value ∨
      1 < client.length ∧ client.getLast?.map written = some value
  | _ :: _ :: _ => False

/-- Names are compared by their lower case. -/
theorem equalsNoCase_iff {left right : Bytes} :
    equalsNoCase left right = true ↔ left.map toLower = right.map toLower := by
  induction left generalizing right with
  | nil => cases right <;> simp [equalsNoCase]
  | cons c left ih =>
    cases right with
    | nil => simp [equalsNoCase]
    | cons d right =>
      have rest := @ih right
      simp only [equalsNoCase, length_cons, Nat.add_right_cancel_iff, zip_cons_cons,
        all_cons, Bool.and_eq_true, decide_eq_true_eq, map_cons, List.cons.injEq, ← rest]
      tauto

section Values

variable {name : Bytes} {header : Bytes × Bytes} {headers : Headers}

/-- The values of a name, part by part. -/
theorem valuesOf_append (first second : Headers) (name : Bytes) :
    valuesOf (first ++ second) name = valuesOf first name ++ valuesOf second name := by
  simp [valuesOf]

/-- The values in one header. -/
theorem valuesOf_single (header : Bytes × Bytes) (name : Bytes) :
    valuesOf [header] name = if equalsNoCase header.1 name then [header.2] else [] := by
  by_cases named : equalsNoCase header.1 name <;> simp [valuesOf, named]

/-- The last value of a name is the one that is sent. -/
theorem FieldMap.Documented.values_set {φ : Type} {map : FieldMap φ} {written : Bytes → Bytes}
    (documented : map.Documented written) {headers : Headers} {fields : φ}
    (serialized : headers.foldlM map.set map.empty = some fields) (name : Bytes) :
    map.values fields name = ((valuesOf headers name).getLast?.map written).toList := by
  induction headers using reverseRecOn generalizing fields with
  | nil =>
    cases serialized
    exact documented.empty name
  | append_singleton headers header ih =>
    rw [foldlM_append] at serialized
    obtain ⟨before, front, last⟩ := Option.bind_eq_some_iff.mp serialized
    obtain ⟨after, added, same⟩ := Option.bind_eq_some_iff.mp last
    cases same
    rw [documented.set added, ih front, valuesOf_append, valuesOf_single]
    by_cases named : equalsNoCase header.1 name = true <;> simp [named]

/-- A header that is merged in replaces the first value of its name. -/
theorem valuesOf_mergeHeader (headers : Headers) (header : Bytes × Bytes) (name : Bytes) :
    valuesOf (mergeHeader headers header) name = if equalsNoCase header.1 name then
      header.2 :: (valuesOf headers name).tail else valuesOf headers name := by
  induction headers with
  | nil =>
    rw [mergeHeader, valuesOf_single]
    rfl
  | cons existing rest ih =>
    have whole : valuesOf (existing :: rest) name =
        (if equalsNoCase existing.1 name then [existing.2] else []) ++ valuesOf rest name := by
      rw [← valuesOf_single, ← valuesOf_append, singleton_append]
    rw [mergeHeader, whole]
    by_cases same : equalsNoCase existing.1 header.1 = true
    · have both : equalsNoCase existing.1 name = equalsNoCase header.1 name := by
        rw [equalsNoCase_iff] at same
        rw [Bool.eq_iff_iff, equalsNoCase_iff, equalsNoCase_iff, same]
      rw [if_pos same, ← singleton_append, valuesOf_append, valuesOf_single, both]
      by_cases named : equalsNoCase header.1 name = true <;> simp [named]
    · rw [if_neg same, ← singleton_append, valuesOf_append, valuesOf_single, ih]
      by_cases named : equalsNoCase header.1 name = true
      · have apart : ¬equalsNoCase existing.1 name = true := by
          rw [equalsNoCase_iff] at same named ⊢
          exact fun equal => same (equal.trans named.symm)
        simp [named, apart]
      · simp [named]

/-- The values of a name behind the merge. -/
theorem valuesOf_merge (client request : Headers) (name : Bytes) :
    valuesOf (request.foldl mergeHeader client) name =
      match (valuesOf request name).getLast? with
      | none => valuesOf client name
      | some value => value :: (valuesOf client name).tail := by
  induction request using reverseRecOn with
  | nil => rfl
  | append_singleton request header ih =>
    rw [foldl_append, foldl_cons, foldl_nil, valuesOf_mergeHeader, ih,
      valuesOf_append, valuesOf_single]
    by_cases named : equalsNoCase header.1 name = true
    · rw [if_pos named, if_pos named, getLast?_append]
      cases (valuesOf request name).getLast? <;> rfl
    · rw [if_neg named, if_neg named, append_nil]

/-- A `Host` of the client itself changes no other name, and none when somebody set it. -/
theorem valuesOf_mergedHeaders {client request : Headers} {host : Bytes}
    (set' : equalsNoCase name (text "Host") = true →
      valuesOf client name ≠ [] ∨ valuesOf request name ≠ []) :
    valuesOf (mergedHeaders client request host) name =
      valuesOf (request.foldl mergeHeader client) name := by
  rw [mergedHeaders]
  split
  · rfl
  · rename_i nobody
    rw [valuesOf_append, valuesOf_single]
    by_cases isHost : equalsNoCase name (text "Host") = true
    · exfalso
      have some' : valuesOf (request.foldl mergeHeader client) name ≠ [] := by
        rw [valuesOf_merge]
        cases last : (valuesOf request name).getLast? with
        | some value => simp
        | none =>
          rcases set' isHost with known | known
          · exact known
          · exact absurd (getLast?_eq_none_iff.mp last) known
      apply nobody
      obtain ⟨value, member⟩ := exists_mem_of_ne_nil _ some'
      obtain ⟨header, there, -⟩ := mem_map.mp member
      rw [mem_filter] at there
      rw [any_eq_true]
      refine ⟨header, there.1, ?_⟩
      have named := there.2
      rw [equalsNoCase_iff] at named isHost ⊢
      exact named.trans isHost
    · have apart : ¬equalsNoCase (text "Host") name = true := by
        rw [equalsNoCase_iff] at isHost ⊢
        exact fun equal => isHost equal.symm
      rw [if_neg apart, append_nil]

end Values

/-- What the merge sends of two lists of values is what it should send. -/
theorem sent_iff_single (written : Bytes → Bytes) (client request : List Bytes) :
    ((match request.getLast? with
      | none => client
      | some value => value :: client.tail).getLast?.map written).toList =
        overridden client request ↔ Single written client request := by
  have few : ∀ last : Option Bytes, last.toList.length ≤ 1 := by
    intro last
    cases last <;> simp
  match request with
  | [] =>
    match client with
    | [] => simp [overridden, Single]
    | [value] => simp [overridden, Single]
    | first :: second :: rest =>
      constructor
      · intro equal
        have all : ((first :: second :: rest).getLast?.map written).toList =
            first :: second :: rest := equal
        have short := few ((first :: second :: rest).getLast?.map written)
        rw [all] at short
        simp at short
      · intro single
        simp [Single] at single
  | [value] =>
    match client with
    | [] => simp [overridden, Single]
    | [old] => simp [overridden, Single]
    | first :: second :: rest =>
      have last : (value :: second :: rest).getLast? = (first :: second :: rest).getLast? := by
        simp
      simp only [overridden, Single, getLast?_singleton, tail_cons, last]
      cases (first :: second :: rest).getLast? <;> simp
  | first :: second :: rest =>
    constructor
    · intro equal
      have short := few ((match (first :: second :: rest).getLast? with
        | none => client
        | some value => value :: client.tail).getLast?.map written)
      rw [equal] at short
      simp [overridden] at short
    · exact False.elim

/-- The headers of a request that was built. -/
theorem buildRequest_headers {α : Type} {space : AddressSpace α} {client : BuildDefaults}
    {method url : Bytes} {options : RequestOptions} {request : PreparedRequest α}
    (built : buildRequest space client method url options = .ok request) :
    ∃ host, request.headers = mergedHeaders client.headers options.headers host := by
  unfold buildRequest at built
  split at built
  · cases built
  · obtain ⟨absolute, -, built⟩ := bind_eq_ok.mp built
    obtain ⟨parsed, -, built⟩ := bind_eq_ok.mp built
    simp only at built
    split at built
    · cases built
    · obtain ⟨_, -, built⟩ := bind_eq_ok.mp built
      cases built
      exact ⟨_, rfl⟩

/-- Each name of a serialised request has the values of the request, or else those of the client,
exactly when no name has several values, on either side, and no value changes as it is written. -/
theorem header_merge_exact_iff {α φ : Type} {space : AddressSpace α} {client : BuildDefaults}
    {method url : Bytes} {options : RequestOptions} {request : PreparedRequest α}
    {map : FieldMap φ} {written : Bytes → Bytes} {fields : φ} (documented : map.Documented written)
    (built : buildRequest space client method url options = .ok request)
    (serialized : serializedFields map request = some fields) :
    (∀ name, (equalsNoCase name (text "Host") = true →
        valuesOf client.headers name ≠ [] ∨ valuesOf options.headers name ≠ []) →
      map.values fields name =
        overridden (valuesOf client.headers name) (valuesOf options.headers name)) ↔
      ∀ name, Single written (valuesOf client.headers name) (valuesOf options.headers name) := by
  obtain ⟨host, headers⟩ := buildRequest_headers built
  rw [serializedFields, headers] at serialized
  have sent : ∀ name, (equalsNoCase name (text "Host") = true →
      valuesOf client.headers name ≠ [] ∨ valuesOf options.headers name ≠ []) →
      (map.values fields name =
        overridden (valuesOf client.headers name) (valuesOf options.headers name) ↔
      Single written (valuesOf client.headers name) (valuesOf options.headers name)) := by
    intro name set'
    rw [documented.values_set serialized, valuesOf_mergedHeaders set', valuesOf_merge]
    exact sent_iff_single written _ _
  constructor
  · intro exact' name
    by_cases set' : equalsNoCase name (text "Host") = true →
        valuesOf client.headers name ≠ [] ∨ valuesOf options.headers name ≠ []
    · exact (sent name set').mp (exact' name set')
    · simp only [not_forall, not_or, not_not] at set'
      rw [set'.2.1, set'.2.2]
      simp [Single]
  · intro single name set'
    exact (sent name set').mpr (single name)

section Trimming

/-- A blank at an end of a value. -/
def isBlank (c : UInt8) : Bool := c = 0x20 || c = 0x09

/-- A value without the blanks at its ends. -/
def trimBlanks (value : Bytes) : Bytes :=
  ((value.dropWhile isBlank).reverse.dropWhile isBlank).reverse

/-- A field map that writes values without the blanks at their ends. -/
def trimmingFields : FieldMap Headers where
  empty := []
  set fields header := some (fields.filter (fun field => !equalsNoCase field.1 header.1) ++
    [(header.1, trimBlanks header.2)])
  values := valuesOf

/-- A field that is set replaces all fields of its name. -/
theorem trimmingFields_documented : trimmingFields.Documented trimBlanks where
  empty _ := rfl
  set := by
    rintro fields after header ⟨⟩ name
    simp only [trimmingFields]
    rw [valuesOf_append, valuesOf_single]
    by_cases named : equalsNoCase header.1 name = true
    · have gone : valuesOf (fields.filter fun field => !equalsNoCase field.1 header.1) name =
          [] := by
        simp only [valuesOf, map_eq_nil_iff, filter_eq_nil_iff, mem_filter]
        intro field kept same
        have equal : equalsNoCase field.1 header.1 = true := by
          rw [equalsNoCase_iff] at same named ⊢
          exact same.trans named.symm
        rw [equal] at kept
        cases kept.2
      rw [if_pos named, if_pos named, gone, nil_append]
    · have kept : (fields.filter fun field => !equalsNoCase field.1 header.1).filter
          (fun field => equalsNoCase field.1 name) =
          fields.filter fun field => equalsNoCase field.1 name := by
        rw [filter_filter]
        apply filter_congr
        intro field _
        by_cases same : equalsNoCase field.1 name = true
        · have apart : equalsNoCase field.1 header.1 = false := by
            rw [Bool.eq_false_iff]
            intro equal
            rw [equalsNoCase_iff] at same named equal
            exact named (equal.symm.trans same)
          simp [same, apart]
        · simp [same]
      rw [if_neg named, if_neg named, append_nil, valuesOf, kept, valuesOf]

end Trimming

/-- Every host is an address. -/
def anyAddress : AddressSpace Unit where
  ip _ _ := some ()
  toText _ := []

/-- The fields that a `GET` sends under a name. -/
def sentUnder (client request : Headers) (name : Bytes) : Option (List Bytes) :=
  match buildRequest anyAddress { headers := client } (text "GET") (text "http://10.0.0.1/")
      { headers := request } with
  | .error _ => none
  | .ok request => (serializedFields trimmingFields request).map fun fields => valuesOf fields name

/-- One value each way. -/
theorem header_merge_exact_iff_override :
    sentUnder [(text "Accept", text "a")] [(text "accept", text "b")] (text "Accept") =
      some [text "b"] := by
  have checked : (sentUnder [(text "Accept", text "a")] [(text "accept", text "b")]
      (text "Accept")).isSome = true := by
    decide +kernel
  unfold sentUnder at checked ⊢
  split at checked
  · cases checked
  · next request built =>
    obtain ⟨fields, serialized⟩ : ∃ fields, serializedFields trimmingFields request = some fields := by
      simpa [Option.isSome_iff_exists] using checked
    have single : ∀ name, Single trimBlanks (valuesOf [(text "Accept", text "a")] name)
        (valuesOf [(text "accept", text "b")] name) := by
      have plain : trimBlanks (text "a") = text "a" ∧ trimBlanks (text "b") = text "b" := by decide
      intro name
      rw [valuesOf_single, valuesOf_single]
      split <;> split <;> simp [Single, plain]
    have exact' := (header_merge_exact_iff trimmingFields_documented built serialized).mpr single
      (text "Accept") fun isHost => absurd isHost (by decide +kernel)
    rw [serialized]
    exact congrArg some (exact'.trans (by decide +kernel))

/-- The second value of the client survives a request that sets the name. -/
theorem header_merge_keeps_default :
    sentUnder [(text "Accept", text "a"), (text "Accept", text "b")] [(text "Accept", text "c")]
        (text "Accept") = some [text "b"] ∧
      overridden [text "a", text "b"] [text "c"] = [text "c"] := by
  decide +kernel

end BbtInfra.Http
