import Mathlib.Algebra.GroupWithZero.Nat
import Mathlib.Data.List.Basic
import Mathlib.Data.List.Induction

/-!
# Censuses of a growing heap

Objects that a run creates are kept in a list in the order of their creation, so the index of
an object never changes its meaning, and a step rewrites the object at one index. A census
counts the objects that pass a test. The lemmas say how a rewrite and a creation change a
lookup and a census; a counter that a program keeps by hand is compared with its census.
-/
namespace List

variable {α : Type*} {heap : List α}

variable {index : Nat} {object written : α} {test : α → Bool} {f : α → α}

/-- An object after a rewrite is the rewritten one or an old one. -/
theorem getElem?_modify_cases {other : Nat}
    (found : (heap.modify index f)[other]? = some object) :
    (other = index ∧ ∃ old, heap[index]? = some old ∧ object = f old) ∨
      (other ≠ index ∧ heap[other]? = some object) := by
  by_cases same : index = other
  · subst same
    obtain ⟨old, present, rfl⟩ := by simpa using found
    exact .inl ⟨rfl, old, present, rfl⟩
  · exact .inr ⟨Ne.symm same, by simpa [same] using found⟩

/-- The objects after a rewrite are the rewritten one and old ones. -/
theorem mem_modify_cases
    (found : heap[index]? = some object) (member : written ∈ heap.modify index f) :
    written = f object ∨ written ∈ heap := by
  obtain ⟨other, here⟩ := mem_iff_getElem?.mp member
  rcases getElem?_modify_cases here with ⟨_, old, present, rewritten⟩ | ⟨_, old⟩
  · have only : old = object := Option.some.inj (present.symm.trans found)
    exact .inl (rewritten.trans (congrArg f only))
  · exact .inr (mem_of_getElem? old)

/-- What holds of all objects still does when it holds of the rewritten one. -/
theorem forall_mem_modify {holds : α → Prop} (found : heap[index]? = some object)
    (all : ∀ old ∈ heap, holds old) (new : holds (f object)) :
    ∀ written ∈ heap.modify index f, holds written := by
  intro written member
  rcases mem_modify_cases found member with rfl | old
  · exact new
  · exact all written old

/-- What every rewrite keeps holds of all objects behind it. -/
theorem forall_mem_modify_of {holds : α → Prop} (all : ∀ old ∈ heap, holds old)
    (keeps : ∀ old, holds old → holds (f old)) : ∀ written ∈ heap.modify index f, holds written := by
  cases found : heap[index]? with
  | none =>
    rw [modify_eq_self (getElem?_eq_none_iff.mp found)]
    exact all
  | some object =>
    exact forall_mem_modify found all (keeps object (all object (mem_of_getElem? found)))

/-- What holds of all objects and of the one that is created. -/
theorem forall_mem_push {holds : α → Prop} (all : ∀ old ∈ heap, holds old) (new : holds written) :
    ∀ object ∈ heap ++ [written], holds object :=
  forall_mem_append.mpr ⟨all, forall_mem_singleton.mpr new⟩

/-- An object after an overwrite is the written one, or an old one elsewhere. -/
theorem getElem?_set_apart {other : Nat}
    (found : (heap.set index written)[other]? = some object) :
    (other = index ∧ object = written) ∨ (other ≠ index ∧ heap[other]? = some object) := by
  rw [set_eq_modify] at found
  rcases getElem?_modify_cases found with ⟨same, old, -, rfl⟩ | away
  · exact .inl ⟨same, rfl⟩
  · exact .inr away

/-- In any case it is the written one or an old one. -/
theorem getElem?_set_cases {other : Nat}
    (found : (heap.set index written)[other]? = some object) :
    (other = index ∧ object = written) ∨ heap[other]? = some object :=
  (getElem?_set_apart found).imp_right And.right

/-- An object that is overwritten stands where the old one stood. -/
theorem getElem?_set_found (found : heap[index]? = some object) :
    (heap.set index written)[index]? = some written :=
  getElem?_set_self (getElem?_eq_some_iff.mp found).1

/-- An object after a creation is the new one or an old one. -/
theorem getElem?_push_cases {created : α} (found : (heap ++ [created])[index]? = some object) :
    (index = heap.length ∧ object = created) ∨ heap[index]? = some object := by
  by_cases old : index < heap.length
  · exact .inr (by rwa [getElem?_append_left old] at found)
  · rw [getElem?_append_right (Nat.le_of_not_lt old)] at found
    have zero : index - heap.length = 0 := by
      by_contra positive
      rw [getElem?_eq_none (by simp only [length_singleton]; omega)] at found
      cases found
    rw [zero] at found
    exact .inl ⟨by omega, by simpa using found.symm⟩

/-- An old object is still there after a creation. -/
theorem getElem?_push_old {created : α} (found : heap[index]? = some object) :
    (heap ++ [created])[index]? = some object := by
  have old := (getElem?_eq_some_iff.mp found).1
  rwa [getElem?_append_left old]

/-- A rewrite of the object that was created last. -/
theorem modify_push (heap : List α) (created : α) (f : α → α) :
    (heap ++ [created]).modify heap.length f = heap ++ [f created] := by
  induction heap with
  | nil => rfl
  | cons first rest ih => simp only [cons_append, length_cons, modify_succ_cons, ih]

/-- The census after a rewrite: the object counts as it does after the rewrite instead of as it
did before. -/
theorem countP_modify (f : α → α) (test : α → Bool) (found : heap[index]? = some object) :
    (heap.modify index f).countP test + (if test object then 1 else 0) =
      heap.countP test + if test (f object) then 1 else 0 := by
  induction heap generalizing index with
  | nil => simp at found
  | cons first rest ih =>
    cases index with
    | zero =>
      obtain rfl : first = object := by simpa using found
      simp only [modify_zero_cons, countP_cons]
      omega
    | succ index =>
      have later := ih (show rest[index]? = some object by simpa using found)
      simp only [modify_succ_cons, countP_cons]
      omega

/-- A rewrite that newly passes the test adds one to the census. -/
theorem countP_modify_gain
    (found : heap[index]? = some object) (before : test object = false)
    (after : test (f object) = true) :
    (heap.modify index f).countP test = heap.countP test + 1 := by
  have counted := countP_modify f test found
  simp only [before, after, Bool.false_eq_true, if_true, if_false] at counted
  omega

/-- A rewrite that newly fails the test takes one from the census, which was not zero. -/
theorem countP_modify_loss
    (found : heap[index]? = some object) (before : test object = true)
    (after : test (f object) = false) :
    (heap.modify index f).countP test + 1 = heap.countP test := by
  have counted := countP_modify f test found
  simp only [before, after, Bool.false_eq_true, if_true, if_false] at counted
  omega

/-- A rewrite that the test does not see leaves the census. -/
theorem countP_modify_same
    (unseen : ∀ object, heap[index]? = some object → test (f object) = test object) :
    (heap.modify index f).countP test = heap.countP test := by
  cases found : heap[index]? with
  | none => rw [modify_eq_self (getElem?_eq_none_iff.mp found)]
  | some object =>
    have counted := countP_modify f test found
    rw [unseen object found] at counted
    omega

/-- A creation counts when the new object passes the test. -/
theorem countP_push (heap : List α) (created : α) (test : α → Bool) :
    (heap ++ [created]).countP test = heap.countP test + if test created then 1 else 0 := by
  simp [countP_append, countP_cons]

/-- No object passes a test whose census is zero. -/
theorem not_of_countP_eq_zero
    (found : heap[index]? = some object) (none : heap.countP test = 0) : test object = false := by
  have fails := countP_eq_zero.mp none object (mem_of_getElem? found)
  simpa using fails

/-- The kept objects, by a name that is kept with them, are some of all. -/
theorem filterMap_sublist_map {β γ : Type*} {f : α → Option β} {new : β → γ} {old : α → γ}
    (same : ∀ object kept, f object = some kept → new kept = old object) (heap : List α) :
    ((heap.filterMap f).map new).Sublist (heap.map old) := by
  induction heap with
  | nil => exact .slnil
  | cons first rest ih =>
    cases outcome : f first with
    | none =>
      rw [filterMap_cons_none outcome, map_cons]
      exact .cons _ ih
    | some kept =>
      rw [filterMap_cons_some outcome, map_cons, map_cons, same first kept outcome]
      exact .cons_cons _ ih

/-- A write to the object of one name adds at most one to a census, when no two objects share
their names. -/
theorem countP_map_named_le {κ : Type*} [DecidableEq κ] {name : α → κ}
    (distinct : (heap.map name).Nodup) (key : κ) (f : α → α) (test : α → Bool) :
    (heap.map fun object => if name object = key then f object else object).countP test ≤
      heap.countP test + 1 := by
  induction heap with
  | nil => simp
  | cons first rest ih =>
    rw [map_cons, nodup_cons] at distinct
    have later := ih distinct.2
    rw [map_cons, countP_cons, countP_cons]
    by_cases here : name first = key
    · have others : (rest.map fun object => if name object = key then f object else object) =
          rest := by
        conv_rhs => rw [← map_id rest]
        apply map_congr_left
        intro object member
        apply if_neg
        intro same
        exact distinct.1 (mem_map.mpr ⟨object, member, same.trans here.symm⟩)
      rw [others]
      split_ifs <;> omega
    · rw [if_neg here]
      omega

/-- An overwrite that adds nothing to a census. -/
theorem countP_set_le
    (found : heap[index]? = some object) (seen : test written = true → test object = true) :
    (heap.set index written).countP test ≤ heap.countP test := by
  have counted := countP_modify (fun _ => written) test found
  rw [set_eq_modify]
  by_cases passes : test written = true
  · rw [if_pos (seen passes), if_pos passes] at counted
    omega
  · rw [if_neg passes] at counted
    omega

/-- Different places whose objects all pass a test are at most as many as its census. -/
theorem length_le_countP {places : List Nat} (distinct : places.Nodup)
    (passes : ∀ place ∈ places, ∃ object, heap[place]? = some object ∧ test object = true) :
    places.length ≤ heap.countP test := by
  induction heap using reverseRecOn generalizing places with
  | nil =>
    cases places with
    | nil => exact Nat.zero_le _
    | cons place _ =>
      obtain ⟨object, found, _⟩ := passes place mem_cons_self
      cases found
  | append_singleton heap last ih =>
    have shorter := ih (distinct.erase heap.length) (by
      intro place member
      have other := distinct.mem_erase_iff.mp member
      obtain ⟨object, found, test⟩ := passes place other.2
      rcases getElem?_push_cases found with ⟨here, _⟩ | before
      · exact absurd here other.1
      · exact ⟨object, before, test⟩)
    rw [countP_push]
    by_cases named : heap.length ∈ places
    · obtain ⟨object, found, test⟩ := passes _ named
      rw [getElem?_append_right (Nat.le_refl _), Nat.sub_self] at found
      cases found
      rw [length_erase_of_mem named] at shorter
      rw [if_pos test]
      omega
    · rw [erase_of_not_mem named] at shorter
      omega

/-- The weight of all after an overwrite: the object weighs what the written one does. -/
theorem sum_map_set (weight : α → Nat) (written : α) (found : heap[index]? = some object) :
    ((heap.set index written).map weight).sum + weight object =
      (heap.map weight).sum + weight written := by
  induction heap generalizing index with
  | nil => cases found
  | cons first rest ih =>
    cases index with
    | zero =>
      obtain rfl : first = object := by simpa using found
      simp only [set_cons_zero, map_cons, sum_cons]
      omega
    | succ index =>
      have later := ih (show rest[index]? = some object by simpa using found)
      simp only [set_cons_succ, map_cons, sum_cons]
      omega

/-- The weight of all after a rewrite: the object weighs what it does after the rewrite. -/
theorem sum_map_modify (weight : α → Nat) (f : α → α) (found : heap[index]? = some object) :
    ((heap.modify index f).map weight).sum + weight object =
      (heap.map weight).sum + weight (f object) := by
  have written := sum_map_set weight (f object) found
  have same : heap.set index (f object) = heap.modify index f := by
    rw [set_eq_modify]
    apply ext_getElem?
    intro place
    by_cases here : index = place
    · subst here
      simp [found]
    · simp [here]
  rw [← same]
  exact written

/-- The weight of all after a creation. -/
theorem sum_map_push (weight : α → Nat) (heap : List α) (created : α) :
    ((heap ++ [created]).map weight).sum = (heap.map weight).sum + weight created := by
  simp only [map_append, map_cons, map_nil, sum_append, sum_cons, sum_nil, Nat.add_zero]

/-- One object weighs no more than all. -/
theorem weight_le_sum_map (weight : α → Nat)
    (found : heap[index]? = some object) : weight object ≤ (heap.map weight).sum := by
  induction heap generalizing index with
  | nil => cases found
  | cons first rest ih =>
    rw [map_cons, sum_cons]
    cases index with
    | zero =>
      obtain rfl : first = object := by simpa using found
      exact Nat.le_add_right _ _
    | succ index =>
      have later := ih (show rest[index]? = some object by simpa using found)
      omega

end List
