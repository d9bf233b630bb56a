import BbtInfra.Lib.Census
import BbtInfra.Net.ReactorSteps
import Mathlib.Data.List.Perm.Subperm

/-!
# The dirty list of a reactor

The chain is a finite list without repetitions, and a claimed connection is in it or about to enter
it, whatever the threads do. Every connection in it is registered as long as no `MarkDirty` enters
between the two steps of a seal, the clearing of the chain and the store of `m_sealed`.
-/
namespace BbtInfra.Net

open Lib List

/-- A call that has linked its connection. -/
def MarkPc.behind : MarkPc → Bool
  | .wake | .stop | .returned .woken => true
  | _ => false

namespace Reactor

/-- A call of `MarkDirty` has claimed the connection and is about to enter the chain. -/
def Linking (s : Reactor) (core : Nat) : Prop :=
  ∃ (j : Nat) (mark : Mark), s.marks[j]? = some mark ∧ mark.core = core ∧ mark.pc = .link

/-- The chain from head to tail is a finite list without repetitions of registered connections,
every claimed connection is in it or about to enter it, and the pump follows no node of a
connection that is not registered. -/
structure DirtyList (s : Reactor) : Prop where
  chain : ∃ nodes, s.links.Holds nodes
  registered : ∀ core, s.links.linked core = true → core ∈ s.conns
  claimed : ∀ core, s.queued core = true → s.links.linked core = true ∨ s.Linking core
  followed : ∀ (via : HookVia) (pumped core : Nat), s.owner = .popped via pumped core →
    core ∈ s.conns

/-- No wake-up is lost: a call for a registered connection of a reactor that is not sealed is not
refused, and where it finds the connection claimed, that one is linked or about to be. -/
def Heard (s next : Reactor) (j : Nat) : Prop :=
  ∀ (mark mark' : Mark), s.marks[j]? = some mark → next.marks[j]? = some mark' →
    mark.core ∈ s.conns → s.sealed' = false → s.implSealed = false →
      mark'.pc ≠ .returned .refused ∧ (mark'.pc = .returned .coalesced →
        next.links.linked mark.core = true ∨ next.Linking mark.core)

/-- No connection is lost from the chain: it stays there until the pump takes it, it leaves the
registry or a seal clears the chain. -/
def Stays (s next : Reactor) : Prop :=
  ∀ core, s.links.linked core = true → next.links.linked core = true ∨
    (∃ via pumped, next.owner = .popped via pumped core) ∨ core ∉ next.conns ∨
      (∃ canBlock ran, next.owner = .sealing canBlock ran .cleared) ∨ next.control = .cleared

/-- No `MarkDirty` enters the chain of an unsealed reactor while a seal has cleared the chain and
not yet stored `m_sealed`. -/
def Unhurried (s : Reactor) (label : ReactorLabel) : Prop :=
  ∀ (j : Nat) (mark : Mark), label = .act j → s.marks[j]? = some mark → mark.pc = .link →
    s.sealed' = false → mark.core ∈ s.conns →
      (∀ canBlock ran, s.owner ≠ .sealing canBlock ran .cleared) ∧ s.control ≠ .cleared

/-- The chain holds these nodes, and the claims that are known to it. -/
structure Linked (s : Reactor) (nodes : List Nat) : Prop where
  holds : s.links.Holds nodes
  claimed : ∀ core ∈ nodes, s.queued core = true ∧ ¬s.Linking core
  single : ∀ (i j : Nat) (one other : Mark), s.marks[i]? = some one → s.marks[j]? = some other →
    one.core = other.core → one.pc = .link → other.pc = .link → one.core ∉ s.gone → i = j
  flagged : ∀ core, s.Linking core → core ∉ s.gone → s.queued core = true
  pending : ∀ core, s.queued core = true → core ∈ nodes ∨ s.Linking core
  inserted : ∀ core ∈ nodes, ∃ (j : Nat) (mark : Mark), s.inserter core = some j ∧
    s.marks[j]? = some mark ∧ mark.core = core ∧ mark.pc.behind = true
  unique : s.conns.Nodup
  apart : ∀ core ∈ s.conns, core ∉ s.gone

variable {tickBudget : Nat} {s s' : Reactor} {label : ReactorLabel} {nodes : List Nat} {j : Nat} {mark : Mark}

/-- The chain is no longer than there were calls. -/
theorem Linked.length_le (linked : s.Linked nodes) : nodes.length ≤ s.marks.length := by
  have inserters : (nodes.map s.inserter).Nodup := by
    apply List.Nodup.map_on _ linked.holds.nodup
    intro one there other there' same
    obtain ⟨j, mark, inserter, found, core, _⟩ := linked.inserted one there
    obtain ⟨k, mark', inserter', found', core', _⟩ := linked.inserted other there'
    rw [inserter, inserter'] at same
    cases same
    cases found.symm.trans found'
    exact core.symm.trans core'
  have inside : nodes.map s.inserter ⊆ (List.range s.marks.length).map some := by
    intro inserter member
    obtain ⟨core, there, rfl⟩ := List.mem_map.mp member
    obtain ⟨j, mark, inserter, found, _⟩ := linked.inserted core there
    rw [inserter]
    apply List.mem_map_of_mem
    exact List.mem_range.mpr (List.getElem?_eq_some_iff.mp found).1
  have fewer := (List.subperm_of_subset inserters inside).length_le
  rwa [List.length_map, List.length_map, List.length_range] at fewer

/-- Nodes leave the chain with their claims, and connections the registry. -/
theorem Linked.shrink {left : List Nat} (linked : s.Linked nodes) (holds : s'.links.Holds left)
    (fewer : ∀ core ∈ left, core ∈ nodes) (marks : s'.marks = s.marks)
    (inserter : s'.inserter = s.inserter) (unique : s'.conns.Nodup)
    (apart : ∀ core ∈ s'.conns, core ∉ s'.gone) (gone : ∀ core ∈ s.gone, core ∈ s'.gone)
    (kept : ∀ core, s'.queued core = true →
      s.queued core = true ∧ (core ∈ nodes → core ∈ left))
    (cleared : ∀ core, s.queued core = true → s'.queued core = false →
      core ∉ left ∧ (s.Linking core → core ∈ s'.gone)) : s'.Linked left := by
  have linking (core : Nat) : s'.Linking core ↔ s.Linking core := by
    unfold Linking
    rw [marks]
  constructor
  · exact holds
  · intro core member
    obtain ⟨claimed, nobody⟩ := linked.claimed core (fewer core member)
    rw [linking]
    refine ⟨?_, nobody⟩
    by_contra unclaimed
    exact (cleared core claimed (by simpa using unclaimed)).1 member
  · rw [marks]
    intro i k one other stored stored' same place place' present
    have before := mt (gone one.core) present
    exact linked.single i k one other stored stored' same place place' before
  · intro core there present
    have before := (linking core).mp there
    have claimed := linked.flagged core before (mt (gone core) present)
    by_contra unclaimed
    exact present ((cleared core claimed (by simpa using unclaimed)).2 before)
  · intro core queued
    obtain ⟨claimed, stays⟩ := kept core queued
    rw [linking]
    exact (linked.pending core claimed).imp_left stays
  · intro core member
    rw [inserter, marks]
    exact linked.inserted core (fewer core member)
  · exact unique
  · exact apart

/-- What a step leaves alone that it does not mention. -/
theorem Linked.same (linked : s.Linked nodes) (links : s'.links = s.links)
    (queued : s'.queued = s.queued) (marks : s'.marks = s.marks)
    (inserter : s'.inserter = s.inserter) (unique : s'.conns.Nodup)
    (apart : ∀ core ∈ s'.conns, core ∉ s'.gone) (gone : ∀ core ∈ s.gone, core ∈ s'.gone) :
    s'.Linked nodes := by
  apply linked.shrink (links ▸ linked.holds) (fun _ => id) marks inserter unique apart gone
  · intro core claimed
    exact ⟨queued ▸ claimed, id⟩
  · intro core claimed unclaimed
    rw [queued, claimed] at unclaimed
    cases unclaimed

section Linking

variable {core : Nat} {pc : MarkPc}

/-- A call that goes on between two places that are not in front of the chain. -/
theorem linking_turns (found : s.marks[j]? = some mark) (before : mark.pc ≠ .link)
    (after : pc ≠ .link) : (s.setMark j mark pc).Linking core ↔ s.Linking core := by
  constructor
  · rintro ⟨k, other, stored, same, place⟩
    rcases getElem?_set_cases stored with ⟨_, rfl⟩ | old
    · exact absurd place after
    · exact ⟨k, other, old, same, place⟩
  · rintro ⟨k, other, stored, same, place⟩
    have apart : j ≠ k := by
      rintro rfl
      rw [found] at stored
      cases stored
      exact before place
    exact ⟨k, other, (getElem?_set_ne apart).trans stored, same, place⟩

/-- A call that has claimed its connection. -/
theorem linking_enters (found : s.marks[j]? = some mark) (before : mark.pc ≠ .link) :
    (s.setMark j mark .link).Linking core ↔ core = mark.core ∨ s.Linking core := by
  constructor
  · rintro ⟨k, other, stored, same, place⟩
    rcases List.getElem?_set_cases stored with ⟨_, rfl⟩ | old
    · exact .inl same.symm
    · exact .inr ⟨k, other, old, same, place⟩
  · rintro (rfl | ⟨k, other, stored, same, place⟩)
    · exact ⟨j, _, List.getElem?_set_found found, rfl, rfl⟩
    · have apart : j ≠ k := by
        rintro rfl
        rw [found] at stored
        cases stored
        exact before place
      exact ⟨k, other, (List.getElem?_set_ne apart).trans stored, same, place⟩

/-- Nobody comes in front of the chain when a call leaves that place. -/
theorem linking_leaves (after : pc ≠ .link) (linking : (s.setMark j mark pc).Linking core) :
    s.Linking core := by
  obtain ⟨k, other, stored, same, place⟩ := linking
  rcases getElem?_set_cases stored with ⟨_, rfl⟩ | old
  · exact absurd place after
  · exact ⟨k, other, old, same, place⟩

/-- The calls for other connections stay in front of the chain. -/
theorem linking_stays (found : s.marks[j]? = some mark) (apart : core ≠ mark.core)
    (linking : s.Linking core) : (s.setMark j mark pc).Linking core := by
  obtain ⟨k, other, stored, same, place⟩ := linking
  have different : j ≠ k := by
    rintro rfl
    rw [found] at stored
    cases stored
    exact apart same.symm
  exact ⟨k, other, (getElem?_set_ne different).trans stored, same, place⟩

/-- The only call for a connection has left the place in front of the chain. -/
theorem Linked.alone (linked : s.Linked nodes) (found : s.marks[j]? = some mark)
    (place : mark.pc = .link) (after : pc ≠ .link) (present : mark.core ∉ s.gone) :
    ¬(s.setMark j mark pc).Linking mark.core := by
  rintro ⟨k, other, stored, same, place'⟩
  by_cases here : j = k
  · subst here
    rw [setMark, List.getElem?_set_found found] at stored
    cases stored
    exact after place'
  · have old : s.marks[k]? = some other := (List.getElem?_set_ne here).symm.trans stored
    exact here (linked.single j k mark other found old same.symm place place' present)

/-- The calls that have linked their connections are still behind the chain. -/
theorem Linked.stored (linked : s.Linked nodes) (pc : MarkPc) (found : s.marks[j]? = some mark)
    (keeps : mark.pc.behind = true → pc.behind = true) (member : core ∈ nodes) :
    ∃ (k : Nat) (other : Mark), s.inserter core = some k ∧
      (s.setMark j mark pc).marks[k]? = some other ∧ other.core = core ∧
        other.pc.behind = true := by
  obtain ⟨k, other, inserter, stored, same, behind⟩ := linked.inserted core member
  by_cases here : j = k
  · subst here
    rw [found] at stored
    cases stored
    exact ⟨j, _, inserter, List.getElem?_set_found found, same, keeps behind⟩
  · exact ⟨k, other, inserter, (List.getElem?_set_ne here).trans stored, same, behind⟩

/-- Two calls in front of the chain were there before, if none has come. -/
theorem Linked.singleton (linked : s.Linked nodes) (after : pc ≠ .link) (i k : Nat)
    (one other : Mark) (stored : (s.setMark j mark pc).marks[i]? = some one)
    (stored' : (s.setMark j mark pc).marks[k]? = some other) (same : one.core = other.core)
    (place : one.pc = .link) (place' : other.pc = .link) (present : one.core ∉ s.gone) :
    i = k := by
  rcases getElem?_set_cases stored with ⟨_, rfl⟩ | old
  · exact absurd place after
  · rcases getElem?_set_cases stored' with ⟨_, rfl⟩ | old'
    · exact absurd place' after
    · exact linked.single i k one other old old' same place place' present

end Linking

section

variable (linked : s.Linked nodes)

include linked

/-- A call that goes on between two places that are not in front of the chain. -/
theorem Linked.turn (found : s.marks[j]? = some mark) (pc : MarkPc)
    (before : mark.pc ≠ .link) (after : pc ≠ .link)
    (keeps : mark.pc.behind = true → pc.behind = true) : (s.setMark j mark pc).Linked nodes := by
  constructor
  · exact linked.holds
  · intro core member
    rw [linking_turns found before after]
    exact linked.claimed core member
  · exact linked.singleton after
  · intro core
    rw [linking_turns found before after]
    exact linked.flagged core
  · intro core
    rw [linking_turns found before after]
    exact linked.pending core
  · exact fun core member => linked.stored _ found keeps member
  · exact linked.unique
  · exact linked.apart

/-- A call that begins. -/
theorem Linked.call (core : Nat) :
    ({ s with marks := s.marks ++ [{ core }] } : Reactor).Linked nodes := by
  have linking (other : Nat) :
      ({ s with marks := s.marks ++ [{ core }] } : Reactor).Linking other ↔ s.Linking other := by
    constructor
    · rintro ⟨k, mark, stored, same, place⟩
      rcases getElem?_push_cases stored with ⟨_, rfl⟩ | old
      · cases place
      · exact ⟨k, mark, old, same, place⟩
    · rintro ⟨k, mark, stored, same, place⟩
      exact ⟨k, mark, getElem?_push_old stored, same, place⟩
  constructor
  · exact linked.holds
  · intro other member
    rw [linking]
    exact linked.claimed other member
  · intro i k one other stored stored' same place place'
    rcases getElem?_push_cases stored with ⟨_, rfl⟩ | old
    · cases place
    · rcases getElem?_push_cases stored' with ⟨_, rfl⟩ | old'
      · cases place'
      · exact linked.single i k one other old old' same place place'
  · intro other
    rw [linking]
    exact linked.flagged other
  · intro other
    rw [linking]
    exact linked.pending other
  · intro other member
    obtain ⟨k, mark, inserter, stored, same, behind⟩ := linked.inserted other member
    exact ⟨k, mark, inserter, getElem?_push_old stored, same, behind⟩
  · exact linked.unique
  · exact linked.apart

/-- A call claims a connection that was not claimed. -/
theorem Linked.claim (found : s.marks[j]? = some mark)
    (place : mark.pc = .claim) (unclaimed : s.queued mark.core = false) :
    ((s.setQueued mark.core true).setMark j mark .link).Linked nodes := by
  have before : mark.pc ≠ .link := by
    rw [place]
    decide
  have linking (core : Nat) : ((s.setQueued mark.core true).setMark j mark .link).Linking core ↔
      core = mark.core ∨ s.Linking core := linking_enters (s := s) found before
  have fresh (i : Nat) (one : Mark) (stored : s.marks[i]? = some one) (there : one.pc = .link)
      (present : one.core ∉ s.gone) : one.core ≠ mark.core := by
    intro same
    have claimed := linked.flagged one.core ⟨i, one, stored, rfl, there⟩ present
    rw [same, unclaimed] at claimed
    cases claimed
  have outside (core : Nat) (member : core ∈ nodes) : core ≠ mark.core := by
    rintro rfl
    have claimed := (linked.claimed _ member).1
    rw [unclaimed] at claimed
    cases claimed
  constructor
  · exact linked.holds
  · intro core member
    have apart := outside core member
    obtain ⟨claimed, nobody⟩ := linked.claimed core member
    rw [linking]
    exact ⟨(Function.update_of_ne apart ..).trans claimed, not_or.mpr ⟨apart, nobody⟩⟩
  · intro i k one other stored stored' same there there' present
    rcases getElem?_set_cases stored with ⟨rfl, rfl⟩ | old
    · rcases getElem?_set_cases stored' with ⟨rfl, rfl⟩ | old'
      · rfl
      · exact absurd same.symm (fresh k other old' there' (same ▸ present))
    · rcases getElem?_set_cases stored' with ⟨rfl, rfl⟩ | old'
      · exact absurd same (fresh i one old there present)
      · exact linked.single i k one other old old' same there there' present
  · intro core there present
    by_cases same : core = mark.core
    · exact same ▸ Function.update_self ..
    · have old := ((linking core).mp there).resolve_left same
      exact (Function.update_of_ne same ..).trans (linked.flagged core old present)
  · intro core queued
    rw [linking]
    by_cases same : core = mark.core
    · exact .inr (.inl same)
    · have old := linked.pending core ((Function.update_of_ne same ..).symm.trans queued)
      exact old.imp_right .inr
  · exact fun core member => linked.stored _ found (fun _ => by simp_all [MarkPc.behind]) member
  · exact linked.unique
  · exact linked.apart

/-- A call that is refused in front of the chain gives its claim back. -/
theorem Linked.refuse (found : s.marks[j]? = some mark) (place : mark.pc = .link) :
    ((s.setQueued mark.core false).setMark j mark (.returned .refused)).Linked nodes := by
  have after : MarkPc.returned .refused ≠ .link := by decide
  have outside (core : Nat) (member : core ∈ nodes) : core ≠ mark.core := by
    rintro rfl
    exact (linked.claimed _ member).2 ⟨j, mark, found, rfl, place⟩
  constructor
  · exact linked.holds
  · intro core member
    obtain ⟨claimed, nobody⟩ := linked.claimed core member
    refine ⟨(Function.update_of_ne (outside core member) ..).trans claimed, ?_⟩
    exact fun linking => nobody (linking_leaves (s := s) after linking)
  · exact linked.singleton after
  · intro core linking present
    have apart : core ≠ mark.core := by
      rintro rfl
      exact linked.alone found place after present linking
    have old := linked.flagged core (linking_leaves (s := s) after linking) present
    exact (Function.update_of_ne apart ..).trans old
  · intro core queued
    have apart : core ≠ mark.core := by
      rintro rfl
      cases (Function.update_self ..).symm.trans queued
    have old := linked.pending core ((Function.update_of_ne apart ..).symm.trans queued)
    exact old.imp_right (linking_stays (s := s) found apart)
  · intro core member
    apply linked.stored _ found _ member
    rw [place]
    exact fun behind => by cases behind
  · exact linked.unique
  · exact linked.apart

/-- A call links its connection behind the others. -/
theorem Linked.link (found : s.marks[j]? = some mark)
    (place : mark.pc = .link) (present : mark.core ∈ s.conns) :
    ({ s.setMark j mark .wake with
      links := s.links.push mark.core
      inserter := Function.update s.inserter mark.core (some j)
      missed := Function.update s.missed mark.core false } : Reactor).Linked
        (nodes ++ [mark.core]) := by
  have after : MarkPc.wake ≠ .link := by decide
  have here := linked.apart _ present
  have before : s.Linking mark.core := ⟨j, mark, found, rfl, place⟩
  have outside : mark.core ∉ nodes := fun member => (linked.claimed _ member).2 before
  constructor
  · exact linked.holds.push outside
  · intro core member
    rcases List.mem_append.mp member with old | new
    · obtain ⟨claimed, nobody⟩ := linked.claimed core old
      exact ⟨claimed, fun linking => nobody (linking_leaves (s := s) after linking)⟩
    · rw [List.mem_singleton.mp new]
      exact ⟨linked.flagged _ before here, linked.alone found place after here⟩
  · exact linked.singleton after
  · exact fun core linking => linked.flagged core (linking_leaves (s := s) after linking)
  · intro core queued
    by_cases same : core = mark.core
    · exact .inl (List.mem_append_right _ (List.mem_singleton.mpr same))
    · have old := linked.pending core queued
      exact old.imp (List.mem_append_left _) (linking_stays (s := s) found same)
  · intro core member
    rcases List.mem_append.mp member with old | new
    · have apart : core ≠ mark.core := fun same => outside (same ▸ old)
      obtain ⟨k, other, inserter, stored⟩ :=
        linked.stored .wake found (by rw [place]; exact fun behind => by cases behind) old
      exact ⟨k, other, (Function.update_of_ne apart ..).trans inserter, stored⟩
    · have same := List.mem_singleton.mp new
      exact ⟨j, _, same ▸ Function.update_self .., List.getElem?_set_found found, same.symm, rfl⟩
  · exact linked.unique
  · exact linked.apart

/-- The head of the chain is unlinked and its claim given back. -/
theorem Linked.pops {core : Nat} {links : Links Nat}
    (popped : s.links.pop = some (core, links)) : ∃ rest, nodes = core :: rest ∧
      ({ s.setQueued core false with links } : Reactor).Linked rest := by
  have head := linked.holds.pop
  rw [popped] at head
  obtain ⟨rest, rfl, holds⟩ := head
  have outside := (nodup_cons.mp linked.holds.nodup).1
  refine ⟨rest, rfl, ?_⟩
  have fewer (other : Nat) : other ∈ rest → other ∈ core :: rest := mem_cons_of_mem core
  refine linked.shrink holds fewer rfl rfl linked.unique linked.apart (fun _ => id) ?_ ?_
  · intro other claimed
    have different : other ≠ core := by
      rintro rfl
      cases (Function.update_self ..).symm.trans claimed
    have before := (Function.update_of_ne different ..).symm.trans claimed
    exact ⟨before, fun member => (mem_cons.mp member).resolve_left different⟩
  · intro other claimed unclaimed
    have same : other = core := by
      by_contra different
      have before := (Function.update_of_ne different ..).symm.trans unclaimed
      rw [claimed] at before
      cases before
    rw [same]
    exact ⟨outside, fun there => absurd there (linked.claimed core mem_cons_self).2⟩

/-- A connection is unlinked and leaves the registry, in one section. -/
theorem Linked.remove {core : Nat}
    (known : core ∈ s.conns ∨ core ∈ s.gone) (removed : s.removeConn core = some s') :
    s'.Linked (nodes.erase core) := by
  obtain ⟨links, unlinked, rfl⟩ := Option.map_eq_some_iff.mp removed
  obtain ⟨left, same, holds⟩ := linked.holds.remove linked.length_le core
  rw [unlinked] at same
  cases same
  have gone (other : Nat) (old : other ∈ s.gone) :
      other ∈ if s.conns.contains core then core :: s.gone else s.gone := by
    split
    · exact mem_cons_of_mem core old
    · exact old
  have left : core ∈ if s.conns.contains core then core :: s.gone else s.gone := by
    split
    · exact mem_cons_self
    next absent => exact known.resolve_left (by simpa using absent)
  refine linked.shrink holds (fun _ => mem_of_mem_erase) rfl rfl
    (linked.unique.erase core) ?_ gone ?_ ?_
  · intro other member
    obtain ⟨different, present⟩ := linked.unique.mem_erase_iff.mp member
    split
    · exact not_or.mpr ⟨different, linked.apart other present⟩ ∘ mem_cons.mp
    · exact linked.apart other present
  · intro other claimed
    have different : other ≠ core := by
      rintro rfl
      cases (Function.update_self ..).symm.trans claimed
    have before := (Function.update_of_ne different ..).symm.trans claimed
    exact ⟨before, fun member => linked.holds.nodup.mem_erase_iff.mpr ⟨different, member⟩⟩
  · intro other claimed unclaimed
    have same : other = core := by
      by_contra different
      have before := (Function.update_of_ne different ..).symm.trans unclaimed
      rw [claimed] at before
      cases before
    rw [same]
    exact ⟨fun member => (linked.holds.nodup.mem_erase_iff.mp member).1 rfl, fun _ => left⟩

/-- All nodes leave the chain with their claims. -/
theorem Linked.clear (cleared : s.clearDirty = some s') : s'.Linked [] := by
  obtain ⟨⟨links, visited⟩, unlinked, rfl⟩ := Option.map_eq_some_iff.mp cleared
  obtain ⟨left, same, holds⟩ := linked.holds.clear linked.length_le
  rw [unlinked] at same
  cases same
  refine linked.shrink holds (fun _ member => by cases member) rfl rfl linked.unique
    linked.apart (fun _ => id) ?_ ?_
  · intro core claimed
    have both : s.queued core = true ∧ core ∉ nodes := by simpa using claimed
    exact ⟨both.1, fun member => absurd member both.2⟩
  · intro core claimed unclaimed
    have member : core ∈ nodes := by simpa [claimed] using unclaimed
    exact ⟨not_mem_nil, fun there => absurd there (linked.claimed core member).2⟩

end

/-- What the places of the owner and of the control domain say. -/
structure Ordered (s : Reactor) : Prop where
  sealing : ∀ canBlock ran pc, s.owner = .sealing canBlock ran pc → pc ≠ .cleared →
    s.sealed' = true
  final : s.control ≠ .running → s.control ≠ .cleared → s.sealed' = true
  off : s.control ≠ .running → s.bound = false
  rests : s.bound = false → s.resting = true
  known : ∀ via pumped core, s.owner = .pumping via pumped core → core ∈ s.conns ∨ core ∈ s.gone

/-- A connection that was ever registered is so or was removed. -/
theorem removeConn_known {core other : Nat} (removed : s.removeConn core = some s')
    (known : other ∈ s.conns ∨ other ∈ s.gone) : other ∈ s'.conns ∨ other ∈ s'.gone := by
  obtain ⟨links, -, rfl⟩ := Option.map_eq_some_iff.mp removed
  by_cases same : other = core
  · subst same
    by_cases here : s.conns.contains other = true
    · rw [if_pos here]
      exact .inr mem_cons_self
    · rw [if_neg here]
      exact .inr (known.resolve_left (by simpa using here))
  · apply known.imp (mem_erase_of_ne same).mpr
    intro old
    split
    · exact mem_cons_of_mem core old
    · exact old

/-- A removal changes no place. -/
theorem removeConn_places {core : Nat} (removed : s.removeConn core = some s') :
    s'.sealed' = s.sealed' ∧ s'.owner = s.owner ∧ s'.control = s.control ∧ s'.bound = s.bound ∧
      s'.marks = s.marks := by
  obtain ⟨links, -, rfl⟩ := Option.map_eq_some_iff.mp removed
  exact ⟨rfl, rfl, rfl, rfl, rfl⟩

/-- Clearing the chain changes the chain and its claims only. -/
theorem clearDirty_places (cleared : s.clearDirty = some s') :
    s'.sealed' = s.sealed' ∧ s'.owner = s.owner ∧ s'.control = s.control ∧ s'.bound = s.bound ∧
      s'.conns = s.conns ∧ s'.gone = s.gone := by
  obtain ⟨links, -, rfl⟩ := Option.map_eq_some_iff.mp cleared
  exact ⟨rfl, rfl, rfl, rfl, rfl, rfl⟩

/-- A step of the owner, which ends at a place that says nothing new. -/
theorem Ordered.go (ordered : s.Ordered) (bound : s'.bound = true)
    (control : s'.control = s.control) (same : s'.bound = s.bound)
    (keeps : s.sealed' = true → s'.sealed' = true)
    (sealing : ∀ canBlock ran pc, s'.owner = .sealing canBlock ran pc → pc ≠ .cleared →
      s'.sealed' = true)
    (known : ∀ via pumped core, s'.owner = .pumping via pumped core →
      core ∈ s'.conns ∨ core ∈ s'.gone) : s'.Ordered where
  sealing := sealing
  final running cleared := keeps (ordered.final (control ▸ running) (control ▸ cleared))
  off running := same.trans (ordered.off (control ▸ running))
  rests unbound := by
    rw [bound] at unbound
    cases unbound
  known := known

/-- A step that leaves the places alone. -/
theorem Ordered.same (ordered : s.Ordered) (owner : s'.owner = s.owner)
    (control : s'.control = s.control) (bound : s'.bound = s.bound)
    (keeps : s.sealed' = true → s'.sealed' = true)
    (known : ∀ core, core ∈ s.conns ∨ core ∈ s.gone → core ∈ s'.conns ∨ core ∈ s'.gone) :
    s'.Ordered where
  sealing canBlock ran pc place other :=
    keeps (ordered.sealing canBlock ran pc (owner ▸ place) other)
  final running cleared := keeps (ordered.final (control ▸ running) (control ▸ cleared))
  off running := bound.trans (ordered.off (control ▸ running))
  rests unbound := by
    unfold resting
    rw [owner]
    exact ordered.rests (bound ▸ unbound)
  known via pumped core place := known core (ordered.known via pumped core (owner ▸ place))

/-- The places keep their meaning. -/
theorem Steps.ordered (steps : Steps tickBudget s label s')
    (ordered : s.Ordered) : s'.Ordered := by
  have finish' (canBlock : Bool) (pc : DriverPc) (place : finish canBlock = pc) :
      pc = .before ∨ pc = .after := by
    cases canBlock
    · exact .inr place.symm
    · exact .inl place.symm
  have next' (via : HookVia) (pc : DriverPc) (place : via.next = pc) :
      pc = .restart false ∨ ∃ canBlock ran, pc = .hooked canBlock ran := by
    cases via with
    | tick => exact .inl place.symm
    | bounded canBlock ran => exact .inr ⟨canBlock, ran, place.symm⟩
  cases steps with
  | called | checked | coalesced | claimed | refused | linked | passed | latched | stops
  | implSeals => exact ordered.same rfl rfl rfl id fun _ => id
  | moved yes choice pc bound moves =>
    refine ordered.go bound rfl rfl id ?_ ?_
    · intro canBlock ran place at' _
      replace at' : pc = .sealing canBlock ran place := at'
      generalize before : s.owner = old at moves
      cases moves with
      | shuts => exact ordered.sealing _ _ _ before (by decide)
      | tired | spent | nothing | throws =>
        rcases finish' _ _ at' with wrong | wrong <;> cases wrong
      | _ => cases at'
    · intro via pumped core at'
      replace at' : pc = .pumping via pumped core := at'
      generalize s.owner = old at moves
      cases moves with
      | finds _ _ _ there =>
        cases at'
        exact .inl there
      | tired | spent | nothing | throws =>
        rcases finish' _ _ at' with wrong | wrong <;> cases wrong
      | _ => cases at'
  | drained yes choice via pumped bound | leaves yes choice via pumped bound =>
    refine ordered.go bound rfl rfl id ?_ ?_
    · intro _ _ _ place
      rcases next' _ _ place with wrong | ⟨_, _, wrong⟩ <;> cases wrong
    · intro _ _ _ place
      rcases next' _ _ place with wrong | ⟨_, _, wrong⟩ <;> cases wrong
  | pops yes choice via pumped core links bound | enters choice canBlock ran bound
  | restarts yes choice canBlock bound =>
    refine ordered.go bound rfl rfl id ?_ ?_
    · intro _ _ _ place
      cases place
    · intro _ _ _ place
      cases place
  | reaps yes choice via pumped core next bound place removed =>
    obtain ⟨sealed', _, control, same, _⟩ := removeConn_places removed
    refine ordered.go (same.trans bound) control same (fun before => sealed'.trans before) ?_ ?_
    · intro _ _ _ place
      cases place
    · intro _ _ _ place
      cases place
  | takes yes choice canBlock ran bound =>
    refine ordered.go bound rfl rfl id ?_ ?_
    · intro _ _ _ place
      rcases finish' _ _ place with wrong | wrong <;> cases wrong
    · intro _ _ _ place
      rcases finish' _ _ place with wrong | wrong <;> cases wrong
  | sealed' yes choice canBlock ran bound =>
    refine ordered.go bound rfl rfl (fun _ => rfl) (fun _ _ _ _ _ => rfl) ?_
    intro _ _ _ place
    cases place
  | erases yes choice canBlock ran core bound place =>
    refine ordered.go bound rfl rfl id ?_ ?_
    · exact fun _ _ _ _ _ => ordered.sealing _ _ _ place (by simp)
    · intro _ _ _ place
      cases place
  | registers canBlock ran core =>
    exact ordered.same rfl rfl rfl id fun _ known => known.imp_left (mem_append_left _)
  | removes canBlock ran core next bound place there removed =>
    obtain ⟨sealed', owner, control, same, _⟩ := removeConn_places removed
    exact ordered.same owner control same (fun before => sealed'.trans before)
      fun _ => removeConn_known removed
  | clears canBlock ran next bound place cleared =>
    obtain ⟨sealed', _, control, same, _⟩ := clearDirty_places cleared
    refine ordered.go (same.trans bound) control same (fun before => sealed'.trans before) ?_ ?_
    · intro _ _ _ place other
      cases place
      exact absurd rfl other
    · intro _ _ _ place
      cases place
  | unbinds place =>
    refine ⟨ordered.sealing, ordered.final, fun _ => rfl, fun _ => ?_, ordered.known⟩
    unfold resting
    rcases place with place | place | place <;> dsimp only <;> rw [place]
  | finalizes next unbound running cleared =>
    obtain ⟨sealed', owner, _, same, conns, gone⟩ := clearDirty_places cleared
    refine ⟨?_, fun _ wrong => absurd rfl wrong, fun _ => same.trans unbound, ?_, ?_⟩
    · intro canBlock ran pc place other
      exact sealed'.trans (ordered.sealing canBlock ran pc (owner.symm.trans place) other)
    · intro _
      have before := ordered.rests unbound
      rw [owner]
      exact before
    · intro via pumped core place
      rw [conns, gone]
      exact ordered.known via pumped core (owner.symm.trans place)
  | controlSeals unbound =>
    exact ⟨fun _ _ _ _ _ => rfl, fun _ _ => rfl, fun _ => unbound, ordered.rests,
      ordered.known⟩
  | empties unbound place =>
    have sealed' := ordered.final (by rw [place]; decide) (by rw [place]; decide)
    refine ⟨fun _ _ _ _ _ => sealed', fun _ _ => sealed', fun _ => unbound, ordered.rests, ?_⟩
    intro via pumped core place
    have known := ordered.known via pumped core place
    exact .inr (mem_append.mpr known)
  | releases unbound place =>
    have sealed' := ordered.final (by rw [place]; decide) (by rw [place]; decide)
    exact ⟨ordered.sealing, fun _ _ => sealed', fun _ => unbound, ordered.rests, ordered.known⟩

/-- This step links this connection. -/
def Joins (s : Reactor) (label : ReactorLabel) (core : Nat) : Prop :=
  ∃ (j : Nat) (mark : Mark), label = .act j ∧ s.marks[j]? = some mark ∧ mark.pc = .link ∧
    mark.core = core ∧ s.sealed' = false ∧ core ∈ s.conns

/-- The chain after a step. -/
theorem Steps.chain (steps : Steps tickBudget s label s')
    (ordered : s.Ordered) (linked : s.Linked nodes) :
    ∃ left, s'.Linked left ∧ ∀ core ∈ left, core ∈ nodes ∨ s.Joins label core := by
  have same (kept : s'.Linked nodes) :
      ∃ left, s'.Linked left ∧ ∀ core ∈ left, core ∈ nodes ∨ s.Joins label core :=
    ⟨nodes, kept, fun _ => .inl⟩
  cases steps with
  | called core => exact same (linked.call core)
  | checked j mark pc found checks =>
    apply same
    have place : mark.pc = .check ∨ mark.pc = .checkImpl := by
      generalize mark.pc = before at checks
      cases checks <;> simp
    have after : pc ≠ .link := by
      generalize mark.pc = before at checks
      cases checks <;> simp
    apply linked.turn found pc _ after
    · rcases place with place | place <;> rw [place] <;> exact fun behind => by cases behind
    · rcases place with place | place <;> rw [place] <;> decide
  | coalesced j mark found place queued =>
    apply same
    apply linked.turn found _ (by rw [place]; decide) (by decide)
    rw [place]
    exact fun behind => by cases behind
  | claimed j mark found place unqueued => exact same (linked.claim found place unqueued)
  | refused j mark found place _ => exact same (linked.refuse found place)
  | linked j mark found place unsealed present =>
    refine ⟨_, linked.link found place present, ?_⟩
    intro core member
    rcases mem_append.mp member with old | new
    · exact .inl old
    · have core := mem_singleton.mp new
      exact .inr ⟨j, mark, rfl, found, place, core.symm, unsealed, core ▸ present⟩
  | passed j mark found place =>
    exact same (linked.turn found (.returned .woken) (by rw [place]; decide) (by decide)
      fun _ => rfl)
  | latched j mark found place =>
    have kept := linked.turn found .stop (by rw [place]; decide) (by decide) fun _ => rfl
    exact same (kept.same rfl rfl rfl rfl kept.unique kept.apart fun _ => id)
  | stops j mark found place =>
    have kept := linked.turn found (.returned .woken) (by rw [place]; decide) (by decide)
      fun _ => rfl
    exact same (kept.same rfl rfl rfl rfl kept.unique kept.apart fun _ => id)
  | moved | enters | drained | leaves | restarts | takes | sealed' | implSeals | unbinds
  | controlSeals | releases =>
    exact same (linked.same rfl rfl rfl rfl linked.unique linked.apart fun _ => id)
  | pops yes choice via pumped core links bound place popped =>
    obtain ⟨rest, rfl, kept⟩ := linked.pops popped
    refine ⟨rest, kept.same rfl rfl rfl rfl kept.unique kept.apart fun _ => id, ?_⟩
    exact fun other member => .inl (mem_cons_of_mem core member)
  | reaps yes choice via pumped core next bound place removed =>
    have kept := linked.remove (ordered.known via pumped core place) removed
    refine ⟨_, kept.same rfl rfl rfl rfl kept.unique kept.apart fun _ => id, ?_⟩
    exact fun _ member => .inl (mem_of_mem_erase member)
  | erases yes choice canBlock ran core bound place =>
    refine same (linked.same rfl rfl rfl rfl (linked.unique.erase core) ?_ ?_)
    · intro other member
      obtain ⟨different, present⟩ := linked.unique.mem_erase_iff.mp member
      exact not_or.mpr ⟨different, linked.apart other present⟩ ∘ mem_cons.mp
    · exact fun other => mem_cons_of_mem core
  | registers canBlock ran core bound place absent new =>
    refine same (linked.same rfl rfl rfl rfl ?_ ?_ fun _ => id)
    · apply nodup_append.mpr
      refine ⟨linked.unique, nodup_singleton core, ?_⟩
      rintro other old _ new rfl
      exact absent (mem_singleton.mp new ▸ old)
    · intro other member
      rcases mem_append.mp member with old | now
      · exact linked.apart other old
      · exact mem_singleton.mp now ▸ new
  | removes canBlock ran core next bound place known removed =>
    exact ⟨_, linked.remove known removed, fun _ member => .inl (mem_of_mem_erase member)⟩
  | clears canBlock ran next bound place cleared | finalizes next unbound running cleared =>
    have kept := linked.clear cleared
    refine ⟨[], kept.same rfl rfl rfl rfl kept.unique kept.apart fun _ => id, ?_⟩
    exact fun _ member => by cases member
  | empties =>
    refine same (linked.same rfl rfl rfl rfl nodup_nil (fun _ member => by cases member) ?_)
    exact fun _ => mem_append_right _

/-- In every reachable state the chain holds a list of nodes. -/
theorem reachable_linked (reachable : (reactorMachine tickBudget).Reachable s) :
    s.Ordered ∧ ∃ nodes, s.Linked nodes := by
  apply reachable.invariant fun s => s.Ordered ∧ ∃ nodes, s.Linked nodes
  · rintro _ rfl
    refine ⟨⟨?_, ?_, ?_, ?_, ?_⟩, [], ⟨Links.Holds.empty, ?_, ?_, ?_, ?_, ?_, ?_, ?_⟩⟩
    · exact fun _ _ _ place => by cases place
    · exact fun wrong => absurd rfl wrong
    · exact fun wrong => absurd rfl wrong
    · exact fun unbound => by cases unbound
    · exact fun _ _ _ place => by cases place
    · exact fun _ member => by cases member
    · exact fun _ _ _ _ found => by cases found
    · rintro _ ⟨_, _, found, _⟩
      cases found
    · exact fun _ queued => by cases queued
    · exact fun _ member => by cases member
    · exact nodup_nil
    · exact fun _ member => by cases member
  · rintro s label s' ⟨ordered, nodes, linked⟩ stepped
    have steps := step_steps stepped
    obtain ⟨left, kept, _⟩ := steps.chain ordered linked
    exact ⟨steps.ordered ordered, left, kept⟩

/-- A connection that leaves the registry leaves the chain, or the reactor is sealed. -/
theorem Steps.stays {core : Nat} (steps : Steps tickBudget s label s')
    (ordered : s.Ordered) (linked : s.Linked nodes) (present : core ∈ s.conns) :
    core ∈ s'.conns ∨ s'.links.linked core = false ∨ s.sealed' = true := by
  have removes {other : Nat} {next : Reactor} (known : other ∈ s.conns ∨ other ∈ s.gone)
      (removed : s.removeConn other = some next) :
      core ∈ next.conns ∨ next.links.linked core = false := by
    have kept := linked.remove known removed
    by_cases same : core = other
    · subst same
      right
      by_contra still
      have member := (kept.holds.linked core).mp (by simpa using still)
      exact (linked.holds.nodup.mem_erase_iff.mp member).1 rfl
    · obtain ⟨links, -, rfl⟩ := Option.map_eq_some_iff.mp removed
      exact .inl ((mem_erase_of_ne same).mpr present)
  cases steps with
  | reaps yes choice via pumped other next bound place removed =>
    exact (removes (ordered.known via pumped other place) removed).imp_right .inl
  | removes canBlock ran other next bound place known removed =>
    exact (removes known removed).imp_right .inl
  | erases yes choice canBlock ran other bound place =>
    exact .inr (.inr (ordered.sealing _ _ _ place (by simp)))
  | empties unbound place =>
    exact .inr (.inr (ordered.final (by rw [place]; decide) (by rw [place]; decide)))
  | registers canBlock ran other => exact .inl (mem_append_left _ present)
  | clears canBlock ran next bound place cleared | finalizes next unbound running cleared =>
    obtain ⟨_, _, _, _, conns, _⟩ := clearDirty_places cleared
    exact .inl (conns ▸ present)
  | _ => exact .inl present

/-- A seal has begun, or it is over. -/
def Sealing (s : Reactor) : Prop :=
  s.sealed' = true ∨ (∃ canBlock ran, s.owner = .sealing canBlock ran .cleared) ∨
    s.control = .cleared

/-- What the chain is for the owner as long as no call enters it between the two steps of a
seal. -/
structure Tidy (s : Reactor) : Prop where
  registered : ∀ core, s.links.linked core = true → core ∈ s.conns
  emptied : s.Sealing → ∀ core, s.links.linked core = false
  popped : ∀ via pumped core, s.owner = .popped via pumped core → core ∈ s.conns

/-- A chain without nodes links no connection. -/
theorem Linked.unlinked (linked : s.Linked []) (core : Nat) : s.links.linked core = false := by
  by_contra still
  cases (linked.holds.linked core).mp (by simpa using still)

section

variable (steps : Steps tickBudget s label s')

include steps

/-- A seal begins by clearing the chain. -/
theorem Steps.begins (linked : s.Linked nodes) (sealing : s'.Sealing) :
    s.Sealing ∨ ∀ core, s'.links.linked core = false := by
  -- The owner is at a place outside a seal.
  have outside (pc : DriverPc) (other : ∀ canBlock ran, pc ≠ .sealing canBlock ran .cleared)
      (sealing : s.sealed' = true ∨ (∃ canBlock ran, pc = .sealing canBlock ran .cleared) ∨
        s.control = .cleared) : s.Sealing :=
    sealing.imp_right fun either => .inr (either.resolve_left fun ⟨_, _, at'⟩ => other _ _ at')
  have finish' (canBlock canBlock' : Bool) (ran : Nat) :
      finish canBlock ≠ .sealing canBlock' ran .cleared := by
    cases canBlock <;> exact fun wrong => by cases wrong
  have next' (via : HookVia) (canBlock : Bool) (ran : Nat) :
      via.next ≠ .sealing canBlock ran .cleared := by
    cases via <;> exact fun wrong => by cases wrong
  cases steps with
  | moved yes choice pc bound moves =>
    refine .inl (outside pc ?_ sealing)
    intro canBlock ran
    generalize s.owner = old at moves
    cases moves with
    | tired | spent | nothing | throws => exact finish' _ _ _
    | _ => exact fun wrong => by cases wrong
  | drained yes choice via | leaves yes choice via => exact .inl (outside _ (next' via) sealing)
  | enters | pops | restarts | erases =>
    exact .inl (outside _ (fun _ _ wrong => by cases wrong) sealing)
  | takes yes choice canBlock => exact .inl (outside _ (finish' canBlock) sealing)
  | reaps yes choice via pumped core next bound place removed =>
    obtain ⟨links, -, rfl⟩ := Option.map_eq_some_iff.mp removed
    exact .inl (outside (.pumped via (pumped + 1)) (fun _ _ wrong => by cases wrong) sealing)
  | sealed' yes choice canBlock ran bound place => exact .inl (.inr (.inl ⟨_, _, place⟩))
  | removes canBlock ran core next bound place known removed =>
    obtain ⟨links, -, rfl⟩ := Option.map_eq_some_iff.mp removed
    exact .inl sealing
  | clears canBlock ran next bound place cleared | finalizes next unbound running cleared =>
    exact .inr (linked.clear cleared).unlinked
  | controlSeals unbound place => exact .inl (.inr (.inr place))
  | empties unbound place | releases unbound place =>
    rcases sealing with sealed' | owner | control
    · exact .inl (.inl sealed')
    · exact .inl (.inr (.inl owner))
    · cases control
  | _ => exact .inl sealing

/-- A connection that the owner has taken from the chain was its head, or the owner has not moved
and the registry has lost nothing. -/
theorem Steps.taken {via : HookVia} {pumped core : Nat}
    (ordered : s.Ordered) (linked : s.Linked nodes)
    (place : s'.owner = .popped via pumped core) :
    (core ∈ nodes ∧ s'.conns = s.conns) ∨
      (s.owner = .popped via pumped core ∧ (core ∈ s.conns → core ∈ s'.conns)) := by
  have finish' (canBlock : Bool) : finish canBlock ≠ .popped via pumped core := by
    cases canBlock <;> exact fun wrong => by cases wrong
  have next' (via' : HookVia) : via'.next ≠ .popped via pumped core := by
    cases via' <;> exact fun wrong => by cases wrong
  have bound' (unbound : s.bound = false) : s.owner ≠ .popped via pumped core := by
    intro at'
    have rests := ordered.rests unbound
    unfold resting at rests
    rw [at'] at rests
    cases rests
  cases steps with
  | moved yes choice pc bound moves =>
    replace place : pc = .popped via pumped core := place
    generalize s.owner = old at moves
    cases moves with
    | tired | spent | nothing | throws => exact absurd place (finish' _)
    | _ => cases place
  | drained yes choice via' | leaves yes choice via' => exact absurd place (next' via')
  | pops yes choice via' pumped' core' links bound at' popped =>
    cases place
    obtain ⟨rest, rfl, _⟩ := linked.pops popped
    exact .inl ⟨mem_cons_self, rfl⟩
  | takes yes choice canBlock => exact absurd place (finish' canBlock)
  | enters | reaps | restarts | sealed' | erases | clears => cases place
  | registers => exact .inr ⟨place, mem_append_left _⟩
  | removes canBlock ran core' next bound at' known removed =>
    rw [(removeConn_places removed).2.1, at'] at place
    cases place
  | finalizes next unbound running cleared =>
    have owner := (clearDirty_places cleared).2.1
    exact absurd (owner.symm.trans place) (bound' unbound)
  | empties unbound => exact absurd place (bound' unbound)
  | _ => exact .inr ⟨place, id⟩

/-- The chain stays tidy if no call enters it within a seal. -/
theorem Steps.tidy (ordered : s.Ordered) (linked : s.Linked nodes) (tidy : s.Tidy)
    (unhurried : Unhurried s label) : s'.Tidy := by
  obtain ⟨left, kept, fewer⟩ := steps.chain ordered linked
  have joins (core : Nat) (still : s'.links.linked core = true) :
      s.links.linked core = true ∨ s.Joins label core := by
    have member := fewer core ((kept.holds.linked core).mp still)
    exact member.imp_left (linked.holds.linked core).mpr
  -- A connection in the chain was not there while a seal was under way.
  have unsealed (core : Nat) (still : s'.links.linked core = true) : ¬s.Sealing := by
    intro sealing
    rcases joins core still with old | ⟨j, mark, rfl, found, place, same, open', present⟩
    · rw [tidy.emptied sealing core] at old
      cases old
    · obtain ⟨owner, control⟩ := unhurried j mark rfl found place open' (same ▸ present)
      rcases sealing with sealed' | ⟨canBlock, ran, at'⟩ | at'
      · rw [open'] at sealed'
        cases sealed'
      · exact owner canBlock ran at'
      · exact control at'
  constructor
  · intro core still
    have present : core ∈ s.conns := by
      rcases joins core still with old | ⟨j, mark, _, _, _, _, _, present⟩
      · exact tidy.registered core old
      · exact present
    rcases steps.stays ordered linked present with there | gone | sealed'
    · exact there
    · rw [gone] at still
      cases still
    · exact absurd (.inl sealed') (unsealed core still)
  · intro sealing core
    by_contra still
    have still' : s'.links.linked core = true := by simpa using still
    rcases steps.begins linked sealing with before | none'
    · exact unsealed core still' before
    · exact still (none' core)
  · intro via pumped core place
    rcases steps.taken ordered linked place with ⟨member, conns⟩ | ⟨old, stays⟩
    · rw [conns]
      exact tidy.registered core ((linked.holds.linked core).mpr member)
    · exact stays (tidy.popped via pumped core old)

end

/-- A call for a registered connection of a reactor that is not sealed is heard. -/
theorem Steps.heard (steps : Steps tickBudget s (.act j) s') (linked : s.Linked nodes) :
    Heard s s' j := by
  intro mark mark' found found' present unsealed implUnsealed
  have written (other : Mark) (pc : MarkPc) (old : s.marks[j]? = some other)
      (new : (s.setMark j other pc).marks[j]? = some mark') : other = mark ∧ mark'.pc = pc := by
    cases found.symm.trans old
    cases (List.getElem?_set_found found).symm.trans new
    exact ⟨rfl, rfl⟩
  cases steps with
  | checked _ other pc old checks =>
    obtain ⟨rfl, place⟩ := written other pc old found'
    rw [place]
    generalize other.pc = before at checks
    cases checks with
    | sealed' sealed' =>
      rw [unsealed] at sealed'
      cases sealed'
    | implSealed sealed' =>
      rw [implUnsealed] at sealed'
      cases sealed'
    | unsealed | implUnsealed => exact ⟨by decide, fun wrong => by cases wrong⟩
  | coalesced _ other old at' queued =>
    obtain ⟨rfl, place⟩ := written other _ old found'
    rw [place]
    refine ⟨by decide, fun _ => ?_⟩
    rw [linking_turns old (by rw [at']; decide) (by decide)]
    exact (linked.pending _ queued).imp_left (linked.holds.linked _).mpr
  | refused _ other old at' why =>
    obtain ⟨rfl, _⟩ := written other _ old found'
    rcases why with sealed' | absent
    · rw [unsealed] at sealed'
      cases sealed'
    · exact absurd present absent
  | claimed _ other old | linked _ other old | passed _ other old | latched _ other old
  | stops _ other old =>
    obtain ⟨-, place⟩ := written other _ old found'
    rw [place]
    exact ⟨by decide, fun wrong => by cases wrong⟩

/-- A connection stays in the chain until the pump takes it, it leaves the registry or a seal
clears the chain. -/
theorem Steps.stay (steps : Steps tickBudget s label s') (ordered : s.Ordered)
    (linked : s.Linked nodes) : Stays s s' := by
  intro core old
  have member := (linked.holds.linked core).mp old
  have removes {other : Nat} {next : Reactor} (known : other ∈ s.conns ∨ other ∈ s.gone)
      (removed : s.removeConn other = some next) :
      next.links.linked core = true ∨ core ∉ next.conns := by
    have kept := linked.remove known removed
    by_cases same : core = other
    · subst same
      obtain ⟨links, -, rfl⟩ := Option.map_eq_some_iff.mp removed
      exact .inr fun still => (linked.unique.mem_erase_iff.mp still).1 rfl
    · exact .inl ((kept.holds.linked core).mpr ((mem_erase_of_ne same).mpr member))
  cases steps with
  | linked j mark found place unsealed present =>
    have kept := linked.link found place present
    exact .inl ((kept.holds.linked core).mpr (mem_append_left _ member))
  | pops yes choice via pumped head links bound place popped =>
    obtain ⟨rest, rfl, kept⟩ := linked.pops popped
    rcases mem_cons.mp member with rfl | later
    · exact .inr (.inl ⟨via, pumped, rfl⟩)
    · exact .inl ((kept.holds.linked core).mpr later)
  | reaps yes choice via pumped other next bound place removed =>
    exact (removes (ordered.known via pumped other place) removed).imp_right (.inr ∘ .inl)
  | removes canBlock ran other next bound place known removed =>
    exact (removes known removed).imp_right (.inr ∘ .inl)
  | clears canBlock ran => exact .inr (.inr (.inr (.inl ⟨canBlock, ran, rfl⟩)))
  | finalizes => exact .inr (.inr (.inr (.inr rfl)))
  | _ => exact .inl old

/-- In a run in which no call enters the chain within a seal, the chain is a list of registered
connections without repetitions that holds every claimed connection or is about to, the pump
follows registered connections only, and no wake-up of a connection is lost. -/
theorem dirty_list {labels : List ReactorLabel}
    (run : (reactorMachine tickBudget).GuardedRun Unhurried labels s) :
    s.DirtyList ∧ ∀ label next, s.step tickBudget label = some next →
      Stays s next ∧ ∀ j, label = .act j → Heard s next j := by
  have tidy : s.Tidy := by
    apply run.reachableInvariant Tidy
    · rintro _ rfl
      refine ⟨?_, fun _ _ => rfl, ?_⟩
      · exact fun _ wrong => by cases wrong
      · exact fun _ _ _ place => by cases place
    · intro s label next reachable tidy unhurried stepped
      obtain ⟨ordered, nodes, linked⟩ := reachable_linked reachable
      exact (step_steps stepped).tidy ordered linked tidy unhurried
  obtain ⟨ordered, nodes, linked⟩ := reachable_linked run.reachable
  constructor
  · refine ⟨⟨nodes, linked.holds⟩, tidy.registered, ?_, tidy.popped⟩
    intro core queued
    exact (linked.pending core queued).imp_left (linked.holds.linked core).mpr
  · intro label next stepped
    have steps := step_steps stepped
    refine ⟨steps.stay ordered linked, ?_⟩
    rintro j rfl
    exact steps.heard linked

/-- A test for the condition, which asks for more than it does. -/
def unhurriedTest (s : Reactor) (label : ReactorLabel) : Bool :=
  match label with
  | .act _ => (s.handler.isSome || s.resting) && decide (s.control ≠ .cleared)
  | _ => true

/-- A step that passes the test meets the condition. -/
theorem unhurried_of_test (passed : s.unhurriedTest label = true) : Unhurried s label := by
  rintro j mark rfl _ _ _ _
  obtain ⟨outside, control⟩ := Bool.and_eq_true_iff.mp passed
  refine ⟨?_, of_decide_eq_true control⟩
  intro canBlock ran place
  unfold handler resting at outside
  rw [place] at outside
  cases outside

/-- The labels up to the first handler of a tick. -/
def intoHandler : List ReactorLabel :=
  [.own true 0, .own true 0, .own true 0, .own false 0, .own true 0]

/-- A connection that is registered, marked and in the chain. -/
theorem dirty_list_linked : ∃ s labels, (reactorMachine 32).GuardedRun Unhurried labels s ∧
    s.links.linked 7 = true ∧ s.DirtyList := by
  obtain ⟨s, run, linked⟩ := Machine.exists_guardedRun (m := reactorMachine 32)
    (intoHandler ++ [.register 7, .mark 7, .act 0, .act 0, .act 0, .act 0]) unhurriedTest
    (fun s : Reactor => s.links.linked 7) (rfl : (reactorMachine 32).start {}) (by decide +kernel)
  have unhurried : (reactorMachine 32).GuardedRun Unhurried _ s :=
    run.mono fun _ _ => unhurried_of_test
  exact ⟨s, _, unhurried, linked, (dirty_list unhurried).1⟩

/-- A `MarkDirty` links its connection after the seal has cleared the chain and before it stores
`m_sealed`, and the seal erases the connection. -/
theorem dirty_list_fails : ∃ s, (reactorMachine 32).Reachable s ∧ ¬s.DirtyList := by
  have begun : (reactorMachine 32).start {} := rfl
  obtain ⟨s, reachable, bare⟩ := Machine.exists_reachable
    (intoHandler ++ [.register 7, .mark 7, .act 0, .act 0, .act 0, .sealService, .act 0,
      .own true 0, .own true 7, .own true 0])
    (fun s : Reactor => s.links.linked 7 && !s.conns.contains 7) begun (by decide +kernel)
  refine ⟨s, reachable, fun list => ?_⟩
  obtain ⟨linked, absent⟩ := Bool.and_eq_true_iff.mp bare
  have present := list.registered 7 linked
  rw [contains_iff_mem.mpr present] at absent
  cases absent

end Reactor

end BbtInfra.Net
