import Mathlib.Data.List.Nodup

/-!
# Intrusive lists

A singly linked list whose pointers are fields of its nodes, with a tail for insertion at the end
and a mark in every node that is linked. Each operation on the pointers is that operation on the
duplicate-free list of nodes which the pointers hold. The loops over the nodes have a fuel, and a
fuel of the length of the list is enough.
-/
namespace BbtInfra.Lib

open Function List

variable {α : Type*} [DecidableEq α]

/-- The pointers of an intrusive list. -/
structure Links (α : Type*) where
  head : Option α := none
  tail : Option α := none
  next : α → Option α := fun _ => none
  linked : α → Bool := fun _ => false

/-- These nodes lead from one pointer to another. -/
def Leads (next : α → Option α) : Option α → List α → Option α → Prop
  | first, [], last => first = last
  | first, node :: rest, last => first = some node ∧ Leads next (next node) rest last

/-- The pointers hold these nodes, in this order. -/
structure Links.Holds (links : Links α) (nodes : List α) : Prop where
  leads : Leads links.next links.head nodes none
  tail : links.tail = nodes.getLast?
  nodup : nodes.Nodup
  linked : ∀ node, links.linked node = true ↔ node ∈ nodes

namespace Links

/-- A node is linked behind the tail. -/
def push (links : Links α) (node : α) : Links α :=
  match links.tail with
  | some last =>
    { links with
      tail := some node
      next := update (update links.next node none) last (some node)
      linked := update links.linked node true }
  | none =>
    { head := some node
      tail := some node
      next := update links.next node none
      linked := update links.linked node true }

/-- The head is unlinked. -/
def pop (links : Links α) : Option (α × Links α) :=
  links.head.map fun node =>
    (node,
      { head := links.next node
        tail := if links.next node = none then none else links.tail
        next := update links.next node none
        linked := update links.linked node false })

/-- The node in front of a node, or that the node is not there; none when the fuel runs out. -/
def seek (links : Links α) (target : α) : Nat → Option α → Option α → Option (Option (Option α))
  | _, _, none => some none
  | fuel, prev, some node =>
    if node = target then some (some prev)
    else
      match fuel with
      | 0 => none
      | fuel + 1 => links.seek target fuel (some node) (links.next node)

/-- A node is unlinked behind the node in front of it. -/
def unlink (links : Links α) (node : α) (prev : Option α) : Links α :=
  { head := if prev = none then links.next node else links.head
    tail := if links.tail = some node then prev else links.tail
    next := update (match prev with
      | some before => update links.next before (links.next node)
      | none => links.next) node none
    linked := update links.linked node false }

/-- A node is searched and unlinked, if it is marked as linked. -/
def remove (links : Links α) (fuel : Nat) (node : α) : Option (Links α) :=
  if links.linked node then
    (links.seek node fuel none links.head).map fun found =>
      match found with
      | some prev => links.unlink node prev
      | none => links
  else some links

/-- The nodes from a pointer on are unlinked one by one. -/
def clearFrom (links : Links α) : Nat → Option α → Option (Links α × List α)
  | _, none => some ({ links with head := none, tail := none }, [])
  | 0, some _ => none
  | fuel + 1, some node =>
    (clearFrom { links with
      next := update links.next node none
      linked := update links.linked node false } fuel (links.next node)).map fun (links, visited) =>
        (links, node :: visited)

/-- All nodes are unlinked; the nodes that were visited. -/
def clear (links : Links α) (fuel : Nat) : Option (Links α × List α) :=
  links.clearFrom fuel links.head

end Links

section Leads

variable {next : α → Option α} {first last : Option α} {nodes rest : List α} {node : α}

omit [DecidableEq α] in
/-- Nodes behind nodes. -/
theorem leads_append : Leads next first (nodes ++ rest) last ↔
    ∃ middle, Leads next first nodes middle ∧ Leads next middle rest last := by
  induction nodes generalizing first with
  | nil => simp only [nil_append, Leads, exists_eq_left']
  | cons node nodes ih =>
    simp only [cons_append, Leads, ih]
    constructor
    · rintro ⟨here, middle, before, behind⟩
      exact ⟨middle, ⟨here, before⟩, behind⟩
    · rintro ⟨middle, ⟨here, before⟩, behind⟩
      exact ⟨here, middle, before, behind⟩

/-- The pointer of another node does not matter. -/
theorem leads_update (apart : node ∉ nodes) (value : Option α) :
    Leads (update next node value) first nodes last ↔ Leads next first nodes last := by
  induction nodes generalizing first with
  | nil => rfl
  | cons other nodes ih =>
    obtain ⟨different, outside⟩ := not_or.mp (mt mem_cons.mpr apart)
    simp only [Leads, update_of_ne (Ne.symm different), ih outside]

end Leads

namespace Links.Holds

variable {links : Links α} {nodes : List α} {node : α}

omit [DecidableEq α] in
/-- Pointers that were never written hold nothing. -/
theorem empty : ({} : Links α).Holds [] where
  leads := rfl
  tail := rfl
  nodup := nodup_nil
  linked := by simp

/-- The mark of a node that leaves is taken away. -/
theorem unmark {linked : α → Bool} (marks : ∀ node, linked node = true ↔ node ∈ nodes)
    (distinct : nodes.Nodup) (node other : α) :
    update linked node false other = true ↔ other ∈ nodes.erase node := by
  rw [distinct.mem_erase_iff]
  by_cases same : other = node
  · rw [same, update_self]
    constructor
    · intro wrong
      cases wrong
    · intro both
      exact absurd rfl both.1
  · rw [update_of_ne same, marks]
    exact ⟨fun member => ⟨same, member⟩, And.right⟩

/-- A node that was not there goes behind the others. -/
theorem push (holds : links.Holds nodes) (new : node ∉ nodes) :
    (links.push node).Holds (nodes ++ [node]) := by
  have marks (other : α) : update links.linked node true other = true ↔ other ∈ nodes ++ [node] := by
    rw [mem_append, mem_singleton]
    by_cases same : other = node
    · rw [same, update_self]
      exact ⟨fun _ => .inr rfl, fun _ => rfl⟩
    · rw [update_of_ne same, holds.linked]
      exact ⟨.inl, fun either => either.resolve_right same⟩
  have apart : (nodes ++ [node]).Nodup := by
    rw [nodup_append]
    refine ⟨holds.nodup, nodup_singleton node, ?_⟩
    intro other member last final same
    rw [mem_singleton.mp final] at same
    exact new (same ▸ member)
  unfold Links.push
  split
  next last tail =>
    obtain ⟨before, rfl⟩ := getLast?_eq_some_iff.mp (holds.tail ▸ tail)
    have inside : last ∈ before ++ [last] := mem_append_right _ (mem_singleton_self _)
    have other : last ≠ node := fun same => new (same ▸ inside)
    refine ⟨?_, getLast?_concat.symm, apart, marks⟩
    -- The last node led to the end, and now it leads to the new one.
    obtain ⟨middle, front, here, _⟩ := leads_append.mp holds.leads
    have outside : last ∉ before := by
      have distinct := nodup_append.mp holds.nodup
      exact fun member => distinct.2.2 last member last (mem_singleton_self _) rfl
    rw [append_assoc, leads_append]
    refine ⟨middle, ?_, here, ?_⟩
    · rw [leads_update outside, leads_update fun member => new (mem_append_left _ member)]
      exact front
    · dsimp only
      rw [update_self]
      refine ⟨rfl, ?_⟩
      rw [update_of_ne (Ne.symm other), update_self]
      rfl
  next tail =>
    have none' : nodes = [] := getLast?_eq_none_iff.mp (holds.tail ▸ tail)
    subst none'
    exact ⟨⟨rfl, update_self ..⟩, rfl, apart, marks⟩

/-- The first node leaves. -/
theorem pop (holds : links.Holds nodes) : match links.pop with
    | none => nodes = []
    | some (node, left) => ∃ rest, nodes = node :: rest ∧ left.Holds rest := by
  have leads := holds.leads
  unfold Links.pop
  cases nodes with
  | nil =>
    rw [show links.head = none from leads]
    rfl
  | cons first rest =>
    obtain ⟨head, behind⟩ := leads
    obtain ⟨outside, distinct⟩ := nodup_cons.mp holds.nodup
    rw [head]
    refine ⟨rest, rfl, ?_, ?_, distinct, ?_⟩
    · exact (leads_update outside none).mpr behind
    · have tail := holds.tail
      cases rest with
      | nil => exact if_pos behind
      | cons second others =>
        rw [behind.1, if_neg (Option.some_ne_none _), tail]
        rfl
    · intro other
      have marks := unmark holds.linked holds.nodup first other
      rwa [erase_cons_head] at marks

/-- What a search finds between two parts of the list. -/
theorem seek {target : α} {before : List α} (fuel : Nat) (prev first : Option α)
    (enough : before.length < fuel + 1) (outside : target ∉ before)
    (leads : Leads links.next first before (some target)) :
    links.seek target fuel prev first = some (some (before.getLast?.or prev)) := by
  induction before generalizing fuel prev first with
  | nil =>
    rw [show first = some target from leads]
    unfold Links.seek
    exact if_pos rfl
  | cons node rest ih =>
    obtain ⟨here, behind⟩ := leads
    obtain ⟨apart, outside⟩ := not_or.mp (mt mem_cons.mpr outside)
    rw [length_cons] at enough
    obtain ⟨left, rfl⟩ := Nat.exists_eq_succ_of_ne_zero (show fuel ≠ 0 by omega)
    rw [here]
    unfold Links.seek
    rw [if_neg (Ne.symm apart)]
    have found := ih left (some node) (links.next node) (by omega) outside behind
    dsimp only
    rw [found]
    cases rest with
    | nil => rfl
    | cons second others => rw [getLast?_cons_cons, getLast?_cons, Option.some_or,
        Option.some_or]

/-- A node leaves, if it is there. -/
theorem remove (holds : links.Holds nodes) {fuel : Nat} (enough : nodes.length ≤ fuel)
    (node : α) : ∃ left, links.remove fuel node = some left ∧ left.Holds (nodes.erase node) := by
  unfold Links.remove
  split
  next marked =>
    obtain ⟨before, behind, rfl⟩ := append_of_mem ((holds.linked node).mp marked)
    have distinct := nodup_append.mp holds.nodup
    have outside : node ∉ before :=
      fun member => distinct.2.2 node member node mem_cons_self rfl
    have later : node ∉ behind := (nodup_cons.mp distinct.2.1).1
    obtain ⟨middle, front, here, back⟩ := leads_append.mp holds.leads
    subst here
    rw [length_append, length_cons] at enough
    have found := seek fuel none links.head (by omega) outside front
    rw [found, Option.or_none]
    refine ⟨links.unlink node before.getLast?, rfl, ?_⟩
    have erased : (before ++ node :: behind).erase node = before ++ behind := by
      rw [erase_append_right _ outside, erase_cons_head]
    have tail := holds.tail
    rw [erased]
    refine ⟨?_, ?_, ?_, ?_⟩
    · rcases eq_nil_or_concat' before with rfl | ⟨start, last, rfl⟩
      · exact (leads_update later none).mpr back
      · -- The node in front now leads to what is behind.
        obtain ⟨_, first, rfl, _⟩ := leads_append.mp front
        have apart : last ≠ node := fun same => outside (by
          rw [same]
          exact mem_append_right _ (mem_singleton_self _))
        have before' := nodup_append.mp distinct.1
        have early : last ∉ start :=
          fun member => before'.2.2 last member last (mem_singleton_self _) rfl
        have late : last ∉ behind := fun member => distinct.2.2 last
          (mem_append_right _ (mem_singleton_self _)) last
          (mem_cons_of_mem _ member) rfl
        have absent : node ∉ start := fun member => outside (mem_append_left _ member)
        rw [append_assoc, leads_append]
        unfold Links.unlink
        rw [getLast?_concat, if_neg (Option.some_ne_none _)]
        dsimp only
        refine ⟨some last, ?_, rfl, ?_⟩
        · rw [leads_update absent, leads_update early]
          exact first
        · rw [update_of_ne apart, update_self]
          change Leads _ _ behind none
          rw [leads_update later, leads_update late]
          exact back
    · unfold Links.unlink
      rcases eq_nil_or_concat' behind with rfl | ⟨rest, last, rfl⟩
      · rw [if_pos (tail.trans getLast?_concat), append_nil]
      · have apart : last ≠ node := fun same => later (by
          rw [same]
          exact mem_append_right _ (mem_singleton_self _))
        have ends : links.tail = some last := by
          rw [tail, ← cons_append, ← append_assoc, getLast?_concat]
        rw [ends, if_neg fun same => apart (Option.some.inj same), ← append_assoc,
          getLast?_concat]
    · rw [← erased]
      exact holds.nodup.erase node
    · intro other
      rw [← erased]
      exact unmark holds.linked holds.nodup node other
  next unmarked =>
    refine ⟨links, rfl, ?_⟩
    rw [erase_of_not_mem fun member => unmarked ((holds.linked node).mpr member)]
    exact holds

/-- The nodes from a pointer on leave one by one. -/
theorem clearFrom {links : Links α} {nodes : List α} {fuel : Nat} (enough : nodes.length ≤ fuel)
    {first : Option α} (leads : Leads links.next first nodes none) (distinct : nodes.Nodup)
    (marks : ∀ node, links.linked node = true ↔ node ∈ nodes) :
    ∃ left, links.clearFrom fuel first = some (left, nodes) ∧ left.Holds [] := by
  induction nodes generalizing links fuel first with
  | nil =>
    rw [show first = none from leads]
    unfold Links.clearFrom
    exact ⟨_, rfl, ⟨rfl, rfl, nodup_nil, marks⟩⟩
  | cons node rest ih =>
    obtain ⟨here, behind⟩ := leads
    obtain ⟨outside, distinct'⟩ := nodup_cons.mp distinct
    rw [length_cons] at enough
    obtain ⟨less, rfl⟩ := Nat.exists_eq_succ_of_ne_zero (show fuel ≠ 0 by omega)
    have marks' (other : α) : update links.linked node false other = true ↔ other ∈ rest := by
      have left := unmark marks distinct node other
      rwa [erase_cons_head] at left
    have onward : Leads (update links.next node none) (links.next node) rest none :=
      (leads_update outside none).mpr behind
    have others : ∃ left, Links.clearFrom { links with
        next := update links.next node none
        linked := update links.linked node false } less (links.next node) = some (left, rest) ∧
          left.Holds [] := ih (by omega) onward distinct' marks'
    obtain ⟨left, cleared, holds⟩ := others
    refine ⟨left, ?_, holds⟩
    rw [here]
    unfold Links.clearFrom
    rw [cleared]
    rfl

/-- All nodes leave. -/
theorem clear (holds : links.Holds nodes) {fuel : Nat} (enough : nodes.length ≤ fuel) :
    ∃ left, links.clear fuel = some (left, nodes) ∧ left.Holds [] :=
  clearFrom enough holds.leads holds.nodup holds.linked

end Links.Holds

end BbtInfra.Lib
