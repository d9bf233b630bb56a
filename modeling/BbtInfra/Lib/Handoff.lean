import BbtInfra.Lib.Census
import BbtInfra.Lib.Machine
import Mathlib.Data.List.Nodup
import Mathlib.Data.List.Perm.Basic

/-!
# A bounded handoff with reserved places

Producers reserve a place before they have an item, and either store an item in the place or give
the place back. Takers take items from the front as long as the handoff is open. Closers close it,
remove what is left and ask it to leave, one item at a time or all at once. An item has the index of
its place. Logs keep the items in the order in which they were stored, delivered and removed.
-/
namespace BbtInfra.Lib

open List

/-- What has become of a reserved place. -/
inductive Place
  | reserved
  /-- There is an item for it. -/
  | offering
  /-- There is no item for it, or the item was refused. -/
  | leaving
  | stored
  | returned
  deriving DecidableEq, Repr

/-- The place is counted as reserved. -/
def Place.holds : Place → Bool
  | .reserved | .offering | .leaving => true
  | .stored | .returned => false

/-- What a closer still has to do. -/
structure Closer where
  /-- It removes items from the front until there are none. -/
  draining : Bool := false
  /-- Removed items that it has not asked to leave yet. -/
  held : List Nat := []

/-- A bounded handoff. -/
structure Handoff where
  closed : Bool := false
  reserved : Nat := 0
  queue : List Nat := []
  places : List Place := []
  /-- What each taker has got. -/
  takers : List (Option Nat) := []
  closers : List Closer := []
  offered : List Nat := []
  stored : List Nat := []
  delivered : List Nat := []
  removed : List Nat := []
  asked : List Nat := []

/-- What can happen to a handoff. -/
inductive HandoffEvent
  | reserve
  | offer (i : Nat)
  | leave (i : Nat)
  | refuse (i : Nat)
  | store (i : Nat)
  | giveBack (i : Nat)
  | arrive
  | take (k : Nat)
  | join
  | close (k : Nat)
  | remove (k : Nat)
  | finish (k : Nat)
  | sweep (k : Nat)
  | ask (k : Nat)

namespace Handoff

/-- The handoff after an event. -/
def step (capacity : Nat) (h : Handoff) : HandoffEvent → Option Handoff
  | .reserve =>
    if h.closed = false ∧ h.queue.length + h.reserved < capacity then
      some { h with reserved := h.reserved + 1, places := h.places ++ [.reserved] }
    else none
  | .offer i =>
    if h.places[i]? = some .reserved then
      some { h with places := h.places.set i .offering, offered := h.offered ++ [i] }
    else none
  | .leave i =>
    if h.places[i]? = some .reserved then some { h with places := h.places.set i .leaving }
    else none
  | .refuse i =>
    if h.places[i]? = some .offering then
      some { h with places := h.places.set i .leaving, asked := h.asked ++ [i] }
    else none
  | .store i =>
    if h.closed = false ∧ h.places[i]? = some .offering then
      some { h with
        places := h.places.set i .stored
        reserved := h.reserved - 1
        queue := h.queue ++ [i]
        stored := h.stored ++ [i] }
    else none
  | .giveBack i =>
    if h.places[i]? = some .leaving then
      some { h with
        places := h.places.set i .returned
        reserved := if h.closed then h.reserved else h.reserved - 1 }
    else none
  | .arrive => some { h with takers := h.takers ++ [none] }
  | .take k =>
    match h.queue with
    | [] => none
    | item :: rest =>
      if h.closed = false ∧ h.takers[k]? = some none then
        some { h with
          queue := rest
          takers := h.takers.set k (some item)
          delivered := h.delivered ++ [item] }
      else none
  | .join => some { h with closers := h.closers ++ [{}] }
  | .close k =>
    if h.closers[k]?.isSome then
      some { h with
        closed := true
        reserved := 0
        closers := h.closers.modify k fun closer => { closer with draining := true } }
    else none
  | .remove k =>
    match h.queue with
    | [] => none
    | item :: rest =>
      if (h.closers[k]?).any Closer.draining then
        some { h with
          queue := rest
          removed := h.removed ++ [item]
          closers := h.closers.modify k fun closer =>
            { closer with held := closer.held ++ [item] } }
      else none
  | .finish k =>
    if h.queue = [] then
      some { h with closers := h.closers.modify k fun closer => { closer with draining := false } }
    else none
  | .sweep k =>
    if h.closers[k]?.isSome then
      some { h with
        closed := true
        reserved := 0
        queue := []
        removed := h.removed ++ h.queue
        closers := h.closers.modify k fun closer => { closer with held := closer.held ++ h.queue } }
    else none
  | .ask k =>
    (h.closers[k]?).bind fun closer =>
      match closer.held with
      | [] => none
      | item :: rest =>
        some { h with
          asked := h.asked ++ [item]
          closers := h.closers.set k { closer with held := rest } }

/-- What the takers have got. -/
def given (h : Handoff) : List Nat := h.takers.filterMap id

/-- The books of a handoff agree. -/
structure Balanced (capacity : Nat) (h : Handoff) : Prop where
  count : h.closed = false → h.reserved = h.places.countP Place.holds
  zero : h.closed = true → h.reserved = 0
  room : h.queue.length + h.reserved ≤ capacity
  log : h.stored = h.delivered ++ h.removed ++ h.queue
  once : h.stored.Nodup
  settled : ∀ i, i ∈ h.stored ↔ h.places[i]? = some .stored
  untouched : h.closed = false → h.removed = []
  closing : ∀ closer ∈ h.closers, closer.draining = true → h.closed = true
  given : h.given.Perm h.delivered
  handled : ∀ i ∈ h.removed, i ∈ h.asked ∨ ∃ closer ∈ h.closers, i ∈ closer.held
  held : ∀ closer ∈ h.closers, ∀ i ∈ closer.held, i ∈ h.removed
  asked : ∀ i ∈ h.asked,
    i ∈ h.removed ∨ h.places[i]? = some .leaving ∨ h.places[i]? = some .returned
  offered : ∀ i ∈ h.offered,
    h.places[i]? = some .offering ∨ h.places[i]? = some .stored ∨ i ∈ h.asked
  emptied : h.closed = true → h.queue = [] ∨ ∃ closer ∈ h.closers, closer.draining = true

variable {capacity i k : Nat} {h h' : Handoff} {event : HandoffEvent}

variable {place new : Place} {closers : List Closer}

section

variable (found : h.places[i]? = some place)

include found

/-- A place at which something is changes for this index only. -/
theorem place_set (new : Place) (j : Nat) :
    (h.places.set i new)[j]? = if j = i then some new else h.places[j]? := by
  by_cases same : j = i
  · subst same
    rw [if_pos rfl]
    exact List.getElem?_set_found found
  · rw [if_neg same]
    exact List.getElem?_set_ne (Ne.symm same)

/-- A place that holds on is counted as before. -/
theorem count_set (same : new.holds = place.holds) :
    (h.places.set i new).countP Place.holds = h.places.countP Place.holds := by
  rw [set_eq_modify]
  apply countP_modify_same
  intro other there
  cases found.symm.trans there
  exact same

/-- A place that was counted and is not any more. -/
theorem count_loss (before : place.holds = true) (after : new.holds = false) :
    (h.places.set i new).countP Place.holds + 1 = h.places.countP Place.holds := by
  rw [set_eq_modify]
  exact countP_modify_loss found before after

end

section

variable (balanced : h.Balanced capacity)

include balanced

/-- Reserving a place keeps the books. -/
theorem Balanced.reserve (stepped : h.step capacity .reserve = some h') : h'.Balanced capacity := by
  obtain ⟨⟨open', room⟩, rfl⟩ := guarded_some stepped
  have push (j : Nat) (place : Place) (found : h.places[j]? = some place) :
      (h.places ++ [Place.reserved])[j]? = some place := getElem?_push_old found
  refine { balanced with
    count := ?_
    zero := ?_
    room := ?_
    settled := ?_
    asked := ?_
    offered := ?_ }
  · intro _
    rw [countP_push, balanced.count open']
    rfl
  · intro closed
    cases open'.symm.trans closed
  · show h.queue.length + (h.reserved + 1) ≤ capacity
    omega
  · intro j
    rw [balanced.settled j]
    constructor
    · exact push j _
    · intro found
      rcases getElem?_push_cases found with ⟨_, wrong⟩ | old
      · cases wrong
      · exact old
  · intro j member
    exact (balanced.asked j member).imp_right (Or.imp (push j _) (push j _))
  · intro j member
    exact (balanced.offered j member).imp (push j _) (Or.imp_left (push j _))

/-- A place that stays counted keeps the books, when its item is on offer, was asked to leave, or is
not there. -/
theorem Balanced.move
    (found : h.places[i]? = some place) (counted : place.holds = true) (goes : new.holds = true)
    (asked : List Nat) (offered : List Nat)
    (asks : ∀ j ∈ asked, j ∈ h.asked ∨ j = i ∧ new = .leaving) (keeps : ∀ j ∈ h.asked, j ∈ asked)
    (offers : ∀ j ∈ offered, j ∈ h.offered ∨ j = i)
    (settles : new = .offering ∨ i ∈ asked ∨ i ∉ h.offered ∧ i ∉ offered)
    (stays : place ≠ .leaving) :
    Balanced capacity { h with places := h.places.set i new, asked, offered } := by
  have spot (j : Nat) : (h.places.set i new)[j]? = if j = i then some new else h.places[j]? :=
    place_set found new j
  have unstored : place ≠ .stored := by
    rintro rfl
    cases counted
  have kept : place ≠ .returned := by
    rintro rfl
    cases counted
  refine { balanced with
    count := ?_
    settled := ?_
    handled := ?_
    asked := ?_
    offered := ?_ }
  · intro open'
    rw [count_set found (goes.trans counted.symm)]
    exact balanced.count open'
  · intro j
    rw [balanced.settled j, spot j]
    split
    · rename_i same
      cases new <;> simp_all [Place.holds]
    · rfl
  · intro j member
    exact (balanced.handled j member).imp_left (keeps j)
  · intro j member
    rw [spot j]
    rcases asks j member with old | ⟨rfl, rfl⟩
    · rcases balanced.asked j old with removed | leaving | returned
      · exact .inl removed
      all_goals
        have other : j ≠ i := by
          rintro rfl
          simp_all
        simp_all
    · simp
  · intro j member
    rw [spot j]
    by_cases same : j = i
    · subst same
      rcases settles with rfl | there | ⟨_, absent'⟩
      · simp
      · exact .inr (.inr there)
      · exact absurd member absent'
    · rw [if_neg same]
      rcases offers j member with old | wrong
      · exact (balanced.offered j old).imp_right (Or.imp_right (keeps j))
      · exact absurd wrong same

/-- A removed item is stored in its place. -/
theorem Balanced.removed_stored {j : Nat}
    (member : j ∈ h.removed) : h.places[j]? = some .stored := by
  apply (balanced.settled j).mp
  rw [balanced.log]
  simp [member]

/-- There is no item for a place that is only reserved. -/
theorem Balanced.fresh (found : h.places[i]? = some .reserved) : i ∉ h.offered := by
  intro member
  rcases balanced.offered i member with offering | stored | asked
  · cases found.symm.trans offering
  · cases found.symm.trans stored
  · rcases balanced.asked i asked with removed | leaving | returned
    · cases found.symm.trans (balanced.removed_stored removed)
    · cases found.symm.trans leaving
    · cases found.symm.trans returned

/-- Storing an item keeps the books. -/
theorem Balanced.store (stepped : h.step capacity (.store i) = some h') : h'.Balanced capacity := by
  obtain ⟨⟨open', found⟩, rfl⟩ := guarded_some stepped
  have spot (j : Nat) : (h.places.set i .stored)[j]? =
      if j = i then some .stored else h.places[j]? := place_set found .stored j
  have count := count_loss found rfl (rfl : Place.stored.holds = false)
  have before := balanced.count open'
  have fresh : i ∉ h.stored := by
    rw [balanced.settled i, found]
    simp
  refine { balanced with
    count := ?_
    zero := ?_
    room := ?_
    log := ?_
    once := ?_
    settled := ?_
    asked := ?_
    offered := ?_
    emptied := ?_ }
  · intro _
    show h.reserved - 1 = (h.places.set i .stored).countP Place.holds
    omega
  · intro closed
    cases open'.symm.trans closed
  · have room := balanced.room
    simp only [length_append, length_singleton]
    omega
  · show h.stored ++ [i] = h.delivered ++ h.removed ++ (h.queue ++ [i])
    rw [balanced.log, append_assoc]
  · exact balanced.once.append (nodup_singleton i) (by simpa using fresh)
  · intro j
    rw [spot j, mem_append, mem_singleton, balanced.settled j]
    split <;> simp_all
  · intro j member
    have old := balanced.asked j member
    rw [spot j]
    by_cases same : j = i
    · subst same
      simp_all
    · rw [if_neg same]
      exact old
  · intro j member
    rw [spot j]
    by_cases same : j = i
    · simp [same]
    · rw [if_neg same]
      exact balanced.offered j member
  · intro closed
    cases open'.symm.trans closed

/-- Giving a place back keeps the books. -/
theorem Balanced.giveBack
    (stepped : h.step capacity (.giveBack i) = some h') : h'.Balanced capacity := by
  obtain ⟨found, rfl⟩ := guarded_some stepped
  have spot (j : Nat) : (h.places.set i .returned)[j]? =
      if j = i then some .returned else h.places[j]? := place_set found .returned j
  have count := count_loss found rfl (rfl : Place.returned.holds = false)
  refine { balanced with
    count := ?_
    zero := ?_
    room := ?_
    settled := ?_
    asked := ?_
    offered := ?_ }
  · intro open'
    have open'' : h.closed = false := open'
    have before := balanced.count open''
    simp only [open'', Bool.false_eq_true, if_false]
    omega
  · intro closed
    have closed' : h.closed = true := closed
    simp only [closed', if_true]
    exact balanced.zero closed'
  · have room := balanced.room
    show h.queue.length + (if h.closed = true then h.reserved else h.reserved - 1) ≤ capacity
    split <;> omega
  · intro j
    rw [spot j, balanced.settled j]
    split <;> simp_all
  · intro j member
    rw [spot j]
    by_cases same : j = i
    · simp [same]
    · rw [if_neg same]
      exact balanced.asked j member
  · intro j member
    have old := balanced.offered j member
    rw [spot j]
    by_cases same : j = i
    · subst same
      simp_all
    · rw [if_neg same]
      exact old

end

/-- What is given once an idle taker gets an item. -/
theorem filterMap_set {takers : List (Option Nat)} {k : Nat} (item : Nat)
    (idle : takers[k]? = some none) :
    ((takers.set k (some item)).filterMap id).Perm (takers.filterMap id ++ [item]) := by
  induction takers generalizing k with
  | nil => cases idle
  | cons first rest ih =>
    cases k with
    | zero =>
      obtain rfl : first = none := by simpa using idle
      simpa using (perm_append_singleton item (rest.filterMap id)).symm
    | succ k =>
      have later := ih (show rest[k]? = some none by simpa using idle)
      cases first with
      | none => simpa using later
      | some old => simpa using later.cons old

/-- Taking an item keeps the books. -/
theorem Balanced.take (balanced : h.Balanced capacity)
    (stepped : h.step capacity (.take k) = some h') : h'.Balanced capacity := by
  simp only [step] at stepped
  split at stepped
  · cases stepped
  rename_i item rest queue
  obtain ⟨⟨open', idle⟩, rfl⟩ := guarded_some stepped
  have untouched := balanced.untouched open'
  refine { balanced with
    room := ?_
    log := ?_
    given := ?_
    emptied := ?_ }
  · have room := balanced.room
    rw [queue, length_cons] at room
    show rest.length + h.reserved ≤ capacity
    omega
  · show h.stored = h.delivered ++ [item] ++ h.removed ++ rest
    rw [balanced.log, untouched, queue]
    simp
  · exact (filterMap_set item idle).trans (balanced.given.append_right [item])
  · intro closed
    cases open'.symm.trans closed

/-- The closers after one of them goes on. -/
theorem mem_modify_closer {f : Closer → Closer} {closer : Closer}
    (member : closer ∈ closers.modify k f) :
    closer ∈ closers ∨ ∃ old ∈ closers, closers[k]? = some old ∧ closer = f old := by
  obtain ⟨j, found⟩ := getElem?_of_mem member
  rcases getElem?_modify_cases found with ⟨_, old, there, rfl⟩ | ⟨_, there⟩
  · exact .inr ⟨old, mem_of_getElem? there, there, rfl⟩
  · exact .inl (mem_of_getElem? there)

/-- The closer that goes on is there. -/
theorem mem_modify_self {closer : Closer} (f : Closer → Closer)
    (found : closers[k]? = some closer) : f closer ∈ closers.modify k f := by
  apply mem_of_getElem? (i := k)
  rw [getElem?_modify, found]
  simp

/-- What a closer says it still has to do after one of them goes on. -/
theorem exists_modify_closer {f : Closer → Closer} {test : Closer → Prop}
    (keeps : ∀ closer, test closer → test (f closer)) (there : ∃ closer ∈ closers, test closer) :
    ∃ closer ∈ closers.modify k f, test closer := by
  obtain ⟨closer, member, passes⟩ := there
  obtain ⟨j, found⟩ := getElem?_of_mem member
  have after : (closers.modify k f)[j]? = some (if k = j then f closer else closer) := by
    rw [getElem?_modify, found]
    split <;> rfl
  refine ⟨_, mem_of_getElem? after, ?_⟩
  split
  · exact keeps closer passes
  · exact passes

section

variable (balanced : h.Balanced capacity)

include balanced

/-- Closing the handoff keeps the books. -/
theorem Balanced.close (stepped : h.step capacity (.close k) = some h') : h'.Balanced capacity := by
  obtain ⟨there, rfl⟩ := guarded_some stepped
  obtain ⟨closer, found⟩ := Option.isSome_iff_exists.mp there
  refine { balanced with
    count := fun open' => by cases open'
    zero := fun _ => rfl
    room := ?_
    untouched := fun open' => by cases open'
    closing := fun _ _ _ => rfl
    handled := ?_
    held := ?_
    emptied := ?_ }
  · have room := balanced.room
    show h.queue.length + 0 ≤ capacity
    omega
  · intro j member
    apply (balanced.handled j member).imp_right
    exact exists_modify_closer fun closer holds => holds
  · intro other member j holds
    rcases mem_modify_closer member with old | ⟨old, there, _, rfl⟩
    · exact balanced.held other old j holds
    · exact balanced.held old there j holds
  · intro _
    right
    exact ⟨_, mem_modify_self _ found, rfl⟩

/-- Removing an item keeps the books. -/
theorem Balanced.remove
    (stepped : h.step capacity (.remove k) = some h') : h'.Balanced capacity := by
  simp only [step] at stepped
  split at stepped
  · cases stepped
  rename_i item rest queue
  simp only [Option.ite_none_right_eq_some, Option.some.injEq, Option.any_eq_true] at stepped
  obtain ⟨⟨closer, found, draining⟩, rfl⟩ := stepped
  have closed := balanced.closing closer (mem_of_getElem? found) draining
  have takes : ∀ closer : Closer, ∀ j, j ∈ closer.held →
      j ∈ ({ closer with held := closer.held ++ [item] } : Closer).held := by
    intro closer j holds
    exact mem_append_left _ holds
  refine { balanced with
    room := ?_
    log := ?_
    untouched := ?_
    closing := ?_
    handled := ?_
    held := ?_
    asked := ?_
    emptied := ?_ }
  · have room := balanced.room
    rw [queue, length_cons] at room
    show rest.length + h.reserved ≤ capacity
    omega
  · show h.stored = h.delivered ++ (h.removed ++ [item]) ++ rest
    rw [balanced.log, queue]
    simp
  · intro open'
    cases closed.symm.trans open'
  · intro _ _ _
    exact closed
  · intro j member
    rcases mem_append.mp member with old | new
    · apply (balanced.handled j old).imp_right
      exact exists_modify_closer fun closer holds => takes closer j holds
    · right
      exact ⟨_, mem_modify_self _ found, mem_append_right _ new⟩
  · intro other member j holds
    rcases mem_modify_closer member with old | ⟨old, there, _, rfl⟩
    · exact mem_append_left _ (balanced.held other old j holds)
    · rcases mem_append.mp holds with before | new
      · exact mem_append_left _ (balanced.held old there j before)
      · exact mem_append_right _ new
  · intro j member
    exact (balanced.asked j member).imp_left (mem_append_left _)
  · intro _
    right
    exact ⟨_, mem_modify_self _ found, draining⟩

/-- Finding nothing left keeps the books. -/
theorem Balanced.finish
    (stepped : h.step capacity (.finish k) = some h') : h'.Balanced capacity := by
  obtain ⟨empty, rfl⟩ := guarded_some stepped
  refine { balanced with
    closing := ?_
    handled := ?_
    held := ?_
    emptied := fun _ => .inl empty }
  · intro other member draining
    rcases mem_modify_closer member with old | ⟨old, _, _, rfl⟩
    · exact balanced.closing other old draining
    · cases draining
  · intro j member
    apply (balanced.handled j member).imp_right
    exact exists_modify_closer fun closer holds => holds
  · intro other member j holds
    rcases mem_modify_closer member with old | ⟨old, there, _, rfl⟩
    · exact balanced.held other old j holds
    · exact balanced.held old there j holds

/-- Sweeping the handoff keeps the books. -/
theorem Balanced.sweep (stepped : h.step capacity (.sweep k) = some h') : h'.Balanced capacity := by
  obtain ⟨there, rfl⟩ := guarded_some stepped
  obtain ⟨closer, found⟩ := Option.isSome_iff_exists.mp there
  refine { balanced with
    count := fun open' => by cases open'
    zero := fun _ => rfl
    room := Nat.zero_le _
    log := ?_
    untouched := fun open' => by cases open'
    closing := fun _ _ _ => rfl
    handled := ?_
    held := ?_
    asked := ?_
    emptied := fun _ => .inl rfl }
  · show h.stored = h.delivered ++ (h.removed ++ h.queue) ++ []
    rw [balanced.log]
    simp
  · intro j member
    rcases mem_append.mp member with old | new
    · apply (balanced.handled j old).imp_right
      exact exists_modify_closer fun closer holds => mem_append_left _ holds
    · right
      exact ⟨_, mem_modify_self _ found, mem_append_right _ new⟩
  · intro other member j holds
    rcases mem_modify_closer member with old | ⟨old, there, _, rfl⟩
    · exact mem_append_left _ (balanced.held other old j holds)
    · rcases mem_append.mp holds with before | new
      · exact mem_append_left _ (balanced.held old there j before)
      · exact mem_append_right _ new
  · intro j member
    exact (balanced.asked j member).imp_left (mem_append_left _)

/-- Asking an item to leave keeps the books. -/
theorem Balanced.ask (stepped : h.step capacity (.ask k) = some h') : h'.Balanced capacity := by
  obtain ⟨closer, found, stepped⟩ := Option.bind_eq_some_iff.mp stepped
  split at stepped
  · cases stepped
  rename_i item rest held
  cases stepped
  have member := List.mem_of_getElem? found
  have removed : item ∈ h.removed := balanced.held closer member item (by simp [held])
  have inside := (List.getElem?_eq_some_iff.mp found).1
  have after : ({ closer with held := rest } : Closer) ∈
      h.closers.set k { closer with held := rest } := List.mem_set inside _
  have other {old : Closer} {j : Nat} (there : old ∈ h.closers) (holds : j ∈ old.held)
      (apart : j ≠ item) : ∃ now ∈ h.closers.set k { closer with held := rest }, j ∈ now.held := by
    obtain ⟨at', place⟩ := List.getElem?_of_mem there
    by_cases same : k = at'
    · subst same
      cases found.symm.trans place
      rw [held] at holds
      exact ⟨_, after, (List.mem_cons.mp holds).resolve_left apart⟩
    · exact ⟨old, List.mem_of_getElem? ((List.getElem?_set_ne same).trans place), holds⟩
  refine { balanced with
    closing := ?_
    handled := ?_
    held := ?_
    asked := ?_
    offered := ?_
    emptied := ?_ }
  · intro now there draining
    rcases List.mem_or_eq_of_mem_set there with old | rfl
    · exact balanced.closing now old draining
    · exact balanced.closing closer member draining
  · intro j gone
    by_cases same : j = item
    · exact .inl (by simp [same])
    · rcases balanced.handled j gone with asked | ⟨old, there, holds⟩
      · exact .inl (List.mem_append_left _ asked)
      · exact .inr (other there holds same)
  · intro now there j holds
    rcases List.mem_or_eq_of_mem_set there with old | rfl
    · exact balanced.held now old j holds
    · exact balanced.held closer member j (by rw [held]; exact List.mem_cons_of_mem _ holds)
  · intro j asked
    rcases List.mem_append.mp asked with old | new
    · exact balanced.asked j old
    · exact .inl (List.mem_singleton.mp new ▸ removed)
  · intro j offered
    exact (balanced.offered j offered).imp_right (Or.imp_right (List.mem_append_left _))
  · intro closed
    apply (balanced.emptied closed).imp_right
    rintro ⟨old, there, draining⟩
    obtain ⟨at', place⟩ := List.getElem?_of_mem there
    by_cases same : k = at'
    · subst same
      cases found.symm.trans place
      exact ⟨_, after, draining⟩
    · exact ⟨old, List.mem_of_getElem? ((List.getElem?_set_ne same).trans place), draining⟩

/-- Every event keeps the books. -/
theorem Balanced.step (stepped : h.step capacity event = some h') : h'.Balanced capacity := by
  cases event with
  | reserve => exact balanced.reserve stepped
  | offer i =>
    obtain ⟨found, rfl⟩ := guarded_some stepped
    exact balanced.move found rfl rfl h.asked _ (fun _ => .inl) (fun _ => id)
      (fun j member => by simpa using member) (.inl rfl) (by simp)
  | leave i =>
    obtain ⟨found, rfl⟩ := guarded_some stepped
    have fresh := balanced.fresh found
    exact balanced.move found rfl rfl h.asked h.offered (fun _ => .inl) (fun _ => id)
      (fun _ => .inl) (.inr (.inr ⟨fresh, fresh⟩)) (by simp)
  | refuse i =>
    obtain ⟨found, rfl⟩ := guarded_some stepped
    exact balanced.move found rfl rfl _ h.offered
      (fun j member => by simpa using member) (fun _ => mem_append_left _) (fun _ => .inl)
      (.inr (.inl (by simp))) (by simp)
  | store i => exact balanced.store stepped
  | giveBack i => exact balanced.giveBack stepped
  | arrive =>
    cases stepped
    refine { balanced with given := ?_ }
    have same : (h.takers ++ [none]).filterMap id = h.takers.filterMap id := by simp
    exact (List.Perm.of_eq same).trans balanced.given
  | take k => exact balanced.take stepped
  | join =>
    cases stepped
    refine { balanced with
      closing := ?_
      handled := ?_
      held := ?_
      emptied := ?_ }
    · intro closer member draining
      rcases mem_append.mp member with old | new
      · exact balanced.closing closer old draining
      · rw [mem_singleton.mp new] at draining
        cases draining
    · intro j member
      apply (balanced.handled j member).imp_right
      rintro ⟨closer, there, holds⟩
      exact ⟨closer, mem_append_left _ there, holds⟩
    · intro closer member j holds
      rcases mem_append.mp member with old | new
      · exact balanced.held closer old j holds
      · rw [mem_singleton.mp new] at holds
        cases holds
    · intro closed
      apply (balanced.emptied closed).imp_right
      rintro ⟨closer, there, draining⟩
      exact ⟨closer, mem_append_left _ there, draining⟩
  | close k => exact balanced.close stepped
  | remove k => exact balanced.remove stepped
  | finish k => exact balanced.finish stepped
  | sweep k => exact balanced.sweep stepped
  | ask k => exact balanced.ask stepped

/-- A delivered item was given to one taker. -/
theorem Balanced.given_once (member : i ∈ h.delivered) : h.given.count i = 1 := by
  have once := balanced.once
  rw [balanced.log, append_assoc] at once
  have distinct : h.given.Nodup := balanced.given.nodup_iff.mpr (nodup_append.mp once).1
  exact count_eq_one_of_mem distinct (balanced.given.mem_iff.mpr member)

/-- An item that was not delivered was given to no taker. -/
theorem Balanced.given_none (absent : i ∉ h.delivered) : h.given.count i = 0 :=
  count_eq_zero.mpr fun member => absent (balanced.given.mem_iff.mp member)

/-- A stored item is in one place: it was delivered, it was removed, or it is still there. -/
theorem Balanced.apart :
    (∀ i ∈ h.delivered, i ∉ h.removed ∧ i ∉ h.queue) ∧ ∀ i ∈ h.removed, i ∉ h.queue := by
  have once := balanced.once
  rw [balanced.log, append_assoc] at once
  obtain ⟨_, rest, first⟩ := nodup_append.mp once
  obtain ⟨_, _, second⟩ := nodup_append.mp rest
  constructor
  · intro i delivered
    constructor
    · exact fun wrong => first i delivered i (mem_append_left _ wrong) rfl
    · exact fun wrong => first i delivered i (mem_append_right _ wrong) rfl
  · exact fun i removed wrong => second i removed i wrong rfl

/-- An item that was asked to leave is not there and was not delivered. -/
theorem Balanced.asked_apart (asked : i ∈ h.asked) : i ∉ h.delivered ∧ i ∉ h.queue := by
  obtain ⟨delivered, removed⟩ := balanced.apart
  rcases balanced.asked i asked with gone | elsewhere
  · exact ⟨fun wrong => (delivered i wrong).1 gone, removed i gone⟩
  · have unstored : i ∉ h.stored := by
      rw [balanced.settled i]
      rintro stored
      rcases elsewhere with leaving | returned
      · cases stored.symm.trans leaving
      · cases stored.symm.trans returned
    rw [balanced.log] at unstored
    simp only [mem_append, not_or] at unstored
    exact ⟨unstored.1.1, unstored.2⟩

/-- What becomes of an item: it is on offer, it is in the handoff, it was given to exactly one
taker, or it was removed or refused and asked to leave. -/
theorem Balanced.fate (offered : i ∈ h.offered) : h.places[i]? = some .offering ∨
      (i ∈ h.queue ∧ h.given.count i = 0 ∧ i ∉ h.asked) ∨
      (h.given.count i = 1 ∧ i ∉ h.queue ∧ i ∉ h.asked) ∨
      (h.given.count i = 0 ∧ i ∉ h.queue ∧
        (i ∈ h.asked ∨ ∃ closer ∈ h.closers, i ∈ closer.held)) := by
  obtain ⟨apart, gone⟩ := balanced.apart
  by_cases asked : i ∈ h.asked
  · obtain ⟨undelivered, absent⟩ := balanced.asked_apart asked
    exact .inr (.inr (.inr ⟨balanced.given_none undelivered, absent, .inl asked⟩))
  · rcases balanced.offered i offered with offering | stored | wrong
    · exact .inl offering
    · have place := (balanced.settled i).mpr stored
      rw [balanced.log, append_assoc] at place
      rcases mem_append.mp place with delivered | rest
      · exact .inr (.inr (.inl ⟨balanced.given_once delivered, (apart i delivered).2, asked⟩))
      · rcases mem_append.mp rest with removed | here
        · have undelivered : i ∉ h.delivered := fun wrong => (apart i wrong).1 removed
          exact .inr (.inr (.inr ⟨balanced.given_none undelivered, gone i removed,
            balanced.handled i removed⟩))
        · have undelivered : i ∉ h.delivered := fun wrong => (apart i wrong).2 here
          exact .inr (.inl ⟨here, balanced.given_none undelivered, asked⟩)
    · exact absurd wrong asked

end

/-- While the handoff is open, the count goes down only for a place that was counted and is stored
or given back now. -/
theorem step_down (stepped : h.step capacity event = some h') (open' : h'.closed = false)
    (less : h'.reserved < h.reserved) :
    ∃ i place new, h.places[i]? = some place ∧ place.holds = true ∧
      h'.places = h.places.set i new ∧ new.holds = false ∧ h'.reserved + 1 = h.reserved := by
  cases event with
  | store i =>
    obtain ⟨⟨_, found⟩, rfl⟩ := guarded_some stepped
    refine ⟨i, .offering, .stored, found, rfl, rfl, rfl, ?_⟩
    show h.reserved - 1 + 1 = h.reserved
    omega
  | giveBack i =>
    obtain ⟨found, rfl⟩ := guarded_some stepped
    refine ⟨i, .leaving, .returned, found, rfl, rfl, rfl, ?_⟩
    have still : h.closed = false := open'
    simp only [still, Bool.false_eq_true, if_false] at less ⊢
    omega
  | reserve =>
    obtain ⟨_, rfl⟩ := guarded_some stepped
    exact absurd less (by simp)
  | offer | leave | refuse | finish =>
    obtain ⟨_, rfl⟩ := guarded_some stepped
    exact absurd less (Nat.lt_irrefl _)
  | arrive | join =>
    cases stepped
    exact absurd less (Nat.lt_irrefl _)
  | close k | sweep k =>
    obtain ⟨_, rfl⟩ := guarded_some stepped
    cases open'
  | take k | remove k =>
    simp only [step] at stepped
    split at stepped
    · cases stepped
    obtain ⟨_, rfl⟩ := guarded_some stepped
    exact absurd less (Nat.lt_irrefl _)
  | ask k =>
    obtain ⟨closer, _, stepped⟩ := Option.bind_eq_some_iff.mp stepped
    split at stepped <;> cases stepped
    exact absurd less (Nat.lt_irrefl _)

/-- Behind the close nothing is stored or delivered. -/
theorem step_closed (stepped : h.step capacity event = some h') (closed : h.closed = true) :
    h'.closed = true ∧ h'.delivered = h.delivered ∧ h'.stored = h.stored ∧
      h'.queue <:+ h.queue := by
  cases event with
  | store i | reserve =>
    simp [step, closed] at stepped
  | giveBack i | offer i | leave i | refuse i | finish k =>
    obtain ⟨_, rfl⟩ := guarded_some stepped
    exact ⟨closed, rfl, rfl, suffix_rfl⟩
  | arrive | join =>
    cases stepped
    exact ⟨closed, rfl, rfl, suffix_rfl⟩
  | close k =>
    obtain ⟨_, rfl⟩ := guarded_some stepped
    exact ⟨rfl, rfl, rfl, suffix_rfl⟩
  | sweep k =>
    obtain ⟨_, rfl⟩ := guarded_some stepped
    exact ⟨rfl, rfl, rfl, nil_suffix⟩
  | take k =>
    simp only [step] at stepped
    split at stepped
    · cases stepped
    · simp [closed] at stepped
  | remove k =>
    simp only [step] at stepped
    split at stepped
    · cases stepped
    rename_i item rest queue
    obtain ⟨_, rfl⟩ := guarded_some stepped
    refine ⟨closed, rfl, rfl, ?_⟩
    rw [queue]
    exact suffix_cons item rest
  | ask k =>
    obtain ⟨closer, _, stepped⟩ := Option.bind_eq_some_iff.mp stepped
    split at stepped <;> cases stepped
    exact ⟨closed, rfl, rfl, suffix_rfl⟩

end Handoff

end BbtInfra.Lib
