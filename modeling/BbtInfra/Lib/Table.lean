import Mathlib.Data.List.AList
import Mathlib.Data.List.Perm.Subperm

/-!
# Keyed tables

A table is an association list without duplicate keys whose values all have one type.
Besides the operations of association lists it has the two sweeps that registries perform
on their values: rewriting every value and dropping the values that fail a test. The size
facts here are the ones that quota arguments use.
-/

namespace BbtInfra.Lib

open AList

/-- A finite map from keys to values of one type. -/
abbrev Table (κ β : Type*) := AList fun _ : κ => β

end BbtInfra.Lib

namespace AList

open BbtInfra.Lib (Table)

variable {κ β : Type*}

/-- Number of keys. -/
def size (table : Table κ β) : Nat := table.entries.length

/-- The values, in entry order. -/
def values (table : Table κ β) : List β := table.entries.map Sigma.snd

/-- Number of keys whose value passes a test. -/
def count (test : β → Bool) (table : Table κ β) : Nat := table.values.countP test

/-- Rewrite every value in place. -/
def mapValues (f : β → β) (table : Table κ β) : Table κ β where
  entries := table.entries.map fun entry => ⟨entry.1, f entry.2⟩
  nodupKeys := by
    have keys : table.entries.keys.Nodup := table.nodupKeys
    have same : (table.entries.map fun entry => (⟨entry.1, f entry.2⟩ : Sigma fun _ : κ => β)).keys =
        table.entries.keys := by
      simp [List.keys, Function.comp_def]
    unfold List.NodupKeys
    rwa [same]

/-- Drop every entry whose value fails the test. -/
def filterValues (keep : β → Bool) (table : Table κ β) : Table κ β where
  entries := table.entries.filter fun entry => keep entry.2
  nodupKeys := List.NodupKeys.sublist List.filter_sublist table.nodupKeys

/-- A weaker test counts no fewer values. -/
theorem count_le_count {strong weak : β → Bool} (table : Table κ β)
    (implied : ∀ value ∈ table.values, strong value = true → weak value = true) :
    table.count strong ≤ table.count weak :=
  List.countP_mono_left implied

variable {table : Table κ β} {value : β} {key : κ}

/-- A test that one counted value newly fails counts fewer values. -/
theorem count_lt_count {strong weak : β → Bool}
    (implied : ∀ value ∈ table.values, strong value = true → weak value = true)
    (member : value ∈ table.values) (passed : weak value = true) (fails : strong value = false) :
    table.count strong < table.count weak := by
  obtain ⟨before, after, split⟩ := List.append_of_mem member
  simp only [count, split, List.countP_append, List.countP_cons, passed, fails]
  have first : before.countP strong ≤ before.countP weak :=
    List.countP_mono_left fun x inside => implied x (by simp [split, inside])
  have last : after.countP strong ≤ after.countP weak :=
    List.countP_mono_left fun x inside => implied x (by simp [split, inside])
  simp only [Bool.false_eq_true, if_false, if_true]
  omega

/-- Distinct ids that all occur among the values are no more than the entries. -/
theorem length_le_size_of_subset {ids : List β} (distinct : ids.Nodup)
    (inside : ∀ id ∈ ids, id ∈ table.values) : ids.length ≤ table.size := by
  have bound := (List.subperm_of_subset distinct inside).length_le
  simpa [values, size] using bound

/-- Marked positions of a list that all occur among the values are no more than the entries. -/
theorem countP_le_size {τ : Type*} {threads : List τ} {marked : τ → Bool} {table : Table κ Nat}
    (inside : ∀ (i : Nat) (thread : τ), threads[i]? = some thread → marked thread = true →
      i ∈ table.values) : threads.countP marked ≤ table.size := by
  let ids := (threads.zipIdx.filter fun entry => marked entry.1).map Prod.snd
  have counted : ids.length = threads.countP marked := by
    rw [List.length_map, ← List.countP_eq_length_filter]
    conv_rhs => rw [← List.zipIdx_map_fst 0 threads, List.countP_map]
    rfl
  have distinct : ids.Nodup := by
    have sublist : ids.Sublist (threads.zipIdx.map Prod.snd) := List.filter_sublist.map _
    rw [List.zipIdx_map_snd] at sublist
    exact sublist.nodup List.nodup_range'
  rw [← counted]
  refine length_le_size_of_subset distinct fun i member => ?_
  obtain ⟨⟨thread, j⟩, entry, rfl⟩ := List.mem_map.mp member
  obtain ⟨present, mark⟩ := List.mem_filter.mp entry
  exact inside j thread (List.mem_zipIdx_iff_getElem?.mp present) mark

variable [DecidableEq κ]

/-- A lookup finds exactly the entries. -/
theorem lookup_eq_some_iff : table.lookup key = some value ↔ ⟨key, value⟩ ∈ table.entries := by
  simpa using table.mem_lookup_iff (a := key) (b := value)

/-- Every value found is one of the values. -/
theorem mem_values_of_lookup (found : table.lookup key = some value) : value ∈ table.values :=
  List.mem_map.mpr ⟨⟨key, value⟩, lookup_eq_some_iff.mp found, rfl⟩

/-- Every value stands under some key. -/
theorem exists_lookup_of_mem_values
    (member : value ∈ table.values) : ∃ key, table.lookup key = some value := by
  obtain ⟨⟨key, stored⟩, entry, same⟩ := List.mem_map.mp member
  exact ⟨key, lookup_eq_some_iff.mpr (by simpa [← same] using entry)⟩

/-- The values are what lookups find. -/
theorem mem_values_iff : value ∈ table.values ↔ ∃ key, table.lookup key = some value :=
  ⟨exists_lookup_of_mem_values, fun ⟨_, found⟩ => mem_values_of_lookup found⟩

/-- A table whose entries all occur in another one is no larger. -/
theorem size_le_of_lookup {small large : Table κ β}
    (inside : ∀ key value, small.lookup key = some value → large.lookup key = some value) :
    small.size ≤ large.size := by
  have subset : small.keys ⊆ large.keys := by
    intro key member
    obtain ⟨value, found⟩ := Option.isSome_iff_exists.mp (lookup_isSome.mpr member)
    rw [← mem_keys, ← lookup_isSome, inside key value found]
    rfl
  have bound := (List.subperm_of_subset small.nodupKeys subset).length_le
  simpa [size, keys, List.keys] using bound

/-- Looking up in a table whose values are mapped. -/
@[simp] theorem lookup_mapValues (f : β → β) (table : Table κ β) (key : κ) :
    (table.mapValues f).lookup key = (table.lookup key).map f := by
  apply Option.ext
  intro value
  rw [lookup_eq_some_iff]
  simp only [mapValues, List.mem_map, Sigma.mk.injEq, Option.map_eq_some_iff]
  constructor
  · rintro ⟨⟨key', value'⟩, entry, rfl, same⟩
    exact ⟨value', lookup_eq_some_iff.mpr entry, eq_of_heq same⟩
  · rintro ⟨value', found, rfl⟩
    exact ⟨⟨key, value'⟩, lookup_eq_some_iff.mp found, rfl, HEq.rfl⟩

/-- A swept table finds the values that pass the test. -/
theorem lookup_filterValues_eq_some {keep : β → Bool} :
    (table.filterValues keep).lookup key = some value ↔
      table.lookup key = some value ∧ keep value = true := by
  simp [lookup_eq_some_iff, filterValues]

/-- Inserting under a new key adds one entry. -/
theorem size_insert_new
    (absent : table.lookup key = none) : size (table.insert key value) = table.size + 1 := by
  rw [lookup_eq_none] at absent
  rw [size, entries_insert_of_notMem absent, List.length_cons, size]

/-- Inserting under a present key replaces its entry. -/
theorem size_insert_present {old : β}
    (present : table.lookup key = some old) : size (table.insert key value) = table.size := by
  have member : key ∈ table.keys := by
    rw [← mem_keys, ← lookup_isSome, present]
    rfl
  have lengths := congrArg List.length (keys_insert (b := value) table (a := key))
  rw [List.length_cons, List.length_erase_of_mem member] at lengths
  have positive : 0 < table.keys.length := List.length_pos_of_mem member
  simp only [keys, List.keys, List.length_map] at lengths positive
  simp only [size]
  omega

/-- The values after an insertion under a new key. -/
theorem values_insert_new
    (absent : table.lookup key = none) :
    values (table.insert key value) = value :: table.values := by
  rw [lookup_eq_none] at absent
  rw [values, entries_insert_of_notMem absent, List.map_cons, values]

/-- Erasing a key removes at most one passing value. -/
theorem count_erase_le (test : β → Bool) (table : Table κ β) (key : κ) :
    count test (table.erase key) ≤ count test table := by
  refine List.Sublist.countP_le (List.Sublist.map _ ?_)
  exact List.kerase_sublist key table.entries

/-- Inserting under a new key counts the new value. -/
theorem count_insert_new (test : β → Bool) (value : β) (absent : table.lookup key = none) :
    count test (table.insert key value) = count test table + if test value then 1 else 0 := by
  simp [count, values_insert_new absent, List.countP_cons]

end AList
