import BbtInfra.Rpc.Election

/-!
# Agreement of two owners about their links

Two owners with distinct identities, each in any reachable state, and two links between them
whose handshakes have finished at both ends. Crossed dials are one link dialled by each owner;
twin dials are two links dialled by the same owner. Every order of the two calls of
`InstallSession` at one owner meets every order at the other.
-/
namespace BbtInfra.Rpc

open Lib SessionOwnerState Link

/-- The link that a coroutine hands to `InstallSession` when its handshake ends with this peer. -/
def Caller.link? (a : Caller) (peer : Bytes) : Option Link :=
  match a.pc with
  | .shaking record conn =>
    some { conn, peer, outbound := true, endpoint := a.key, record := some record }
  | .greeting conn => some { conn, peer, outbound := false }
  | _ => none

namespace OwnerSystem

variable {s : OwnerSystem} {t u : Nat} {x y : Link}

/-- A coroutine brings a link to `InstallSession`. -/
def Brings (s : OwnerSystem) (t : Nat) (l : Link) : Prop :=
  ∃ a, s.callers[t]? = some a ∧ a.link? l.peer = some l

/-- The owner has a place for an accepted link of this peer: an entry to replace, or quota. -/
def HasPlace (s : OwnerSystem) (peer : Bytes) : Prop :=
  (∃ winner, s.owner.byIdentity.lookup peer = some winner) ∨
    s.owner.occupied < s.owner.options.maxSessions

/-- The connection of a link is the bare connection of its coroutine. -/
theorem link?_bareConn {a : Caller} {l : Link} (brings : a.link? l.peer = some l) :
    a.pc.bareConn? = some l.conn := by
  unfold Caller.link? at brings
  split at brings
  · rename_i position
    rw [position]
    exact congrArg (some ∘ conn) (Option.some.inj brings)
  · rename_i position
    rw [position]
    exact congrArg (some ∘ conn) (Option.some.inj brings)
  · cases brings

/-- Two coroutines of a reachable system bring two links that can meet. -/
theorem Brings.meeting (reachable : machine.Reachable s) (opened : s.owner.closed = false)
    (first : s.Brings t x) (second : s.Brings u y) (apart : t ≠ u) (peers : x.peer = y.peer) :
    Meeting s.owner x y := by
  have inv := inv_reachable reachable
  obtain ⟨a, presentA, bringsA⟩ := first
  obtain ⟨b, presentB, bringsB⟩ := second
  have bareA := (inv.sound t a presentA).bare (link?_bareConn bringsA)
  have bareB := (inv.sound u b presentB).bare (link?_bareConn bringsB)
  exact
    { opened := opened
      peers := peers
      installed := inv.installed
      firstConn := bareA.present
      secondConn := bareB.present
      distinct := fun same => apart (inv.bares t u a b x.conn presentA presentB
        (link?_bareConn bringsA) (same ▸ link?_bareConn bringsB))
      firstUnused := bareA.unused
      secondUnused := bareB.unused }

/-- A dialled link has its own reservation, so the quota never turns it away. -/
theorem Brings.room (reachable : machine.Reachable s) (brings : s.Brings t x)
    (dialled : x.outbound = true) :
    s.owner.occupiedByOthers x.record < s.owner.options.maxSessions := by
  have inv := inv_reachable reachable
  obtain ⟨a, present, link⟩ := brings
  have sound := inv.sound t a present
  unfold Caller.link? at link
  split at link
  · rename_i record conn position
    rw [position] at sound
    obtain ⟨tracked, _, reserved⟩ := sound
    have same : x.record = some record := (congrArg Link.record (Option.some.inj link)).symm
    have counted : 0 < s.owner.reservedCount :=
      List.countP_pos_iff.mpr ⟨record, AList.mem_values_of_lookup tracked.registered, reserved⟩
    have ledger := inv.ledger
    rw [same]
    simp only [occupiedByOthers, reserved, if_true, occupied] at ledger ⊢
    omega
  · have inbound := congrArg outbound (Option.some.inj link)
    rw [dialled] at inbound
    cases inbound
  · cases link

/-- An accepted link has no record. -/
theorem Brings.no_record (brings : s.Brings t x) (accepted : x.outbound = false) :
    x.record = none := by
  obtain ⟨a, _, link⟩ := brings
  unfold Caller.link? at link
  split at link
  · have outbound := congrArg Link.outbound (Option.some.inj link)
    rw [accepted] at outbound
    cases outbound
  · exact (congrArg record (Option.some.inj link)).symm
  · cases link

/-- A dialled link is admitted unless an installed session is preferred. -/
theorem Brings.dialled_admits (reachable : machine.Reachable s) (brings : s.Brings t x)
    (dialled : x.outbound = true)
    (free : s.owner.prefers x.session ∨ s.owner.byIdentity.lookup x.peer = none) :
    s.owner.Admits x := by
  unfold Admits
  cases mapped : s.owner.byIdentity.lookup x.peer with
  | none => exact brings.room reachable dialled
  | some winner => exact free.resolve_right (by simp [mapped])

/-- An accepted link is admitted exactly when there is quota for a new peer, or a session that
it replaces. -/
theorem Brings.accepted_admits_iff (brings : s.Brings t x) (accepted : x.outbound = false) :
    s.owner.Admits x ↔
      ((∃ winner, s.owner.byIdentity.lookup x.peer = some winner) ∧ s.owner.prefers x.session) ∨
        (s.owner.byIdentity.lookup x.peer = none ∧
          s.owner.occupied < s.owner.options.maxSessions) := by
  unfold Admits
  rw [brings.no_record accepted]
  cases mapped : s.owner.byIdentity.lookup x.peer with
  | none => simp [occupiedByOthers]
  | some winner => simp

end OwnerSystem

open OwnerSystem

/-- Crossed dials: `a` dialled `x`, `b` dialled `y`, and both handshakes have finished at both
ends. Each owner has its own link object for each of the two links. -/
structure CrossedDials (a b : OwnerSystem) (xAtA yAtA xAtB yAtB : Link) : Prop where
  reachableA : machine.Reachable a
  reachableB : machine.Reachable b
  openA : a.owner.closed = false
  openB : b.owner.closed = false
  distinct : a.owner.options.localIdentity ≠ b.owner.options.localIdentity
  dialsX : ∃ t, a.Brings t xAtA
  acceptsY : ∃ t, a.Brings t yAtA
  acceptsX : ∃ t, b.Brings t xAtB
  dialsY : ∃ t, b.Brings t yAtB
  directionA : xAtA.outbound = true ∧ yAtA.outbound = false
  directionB : xAtB.outbound = false ∧ yAtB.outbound = true
  peerOfA : xAtA.peer = b.owner.options.localIdentity ∧ yAtA.peer = b.owner.options.localIdentity
  peerOfB : xAtB.peer = a.owner.options.localIdentity ∧ yAtB.peer = a.owner.options.localIdentity

namespace CrossedDials

variable {a b : OwnerSystem} {xAtA yAtA xAtB yAtB : Link}

section

variable (crossed : CrossedDials a b xAtA yAtA xAtB yAtB)

include crossed

/-- Both ends see the same, the other way round. -/
theorem symm : CrossedDials b a yAtB xAtB yAtA xAtA where
  reachableA := crossed.reachableB
  reachableB := crossed.reachableA
  openA := crossed.openB
  openB := crossed.openA
  distinct := crossed.distinct.symm
  dialsX := crossed.dialsY
  acceptsY := crossed.acceptsX
  acceptsX := crossed.acceptsY
  dialsY := crossed.dialsX
  directionA := crossed.directionB.symm
  directionB := crossed.directionA.symm
  peerOfA := crossed.peerOfB.symm
  peerOfB := crossed.peerOfA.symm

/-- The ends of crossed links meet at the first owner. -/
theorem meetingA : Meeting a.owner xAtA yAtA := by
  obtain ⟨t, dials⟩ := crossed.dialsX
  obtain ⟨u, accepts⟩ := crossed.acceptsY
  refine dials.meeting crossed.reachableA crossed.openA accepts ?_
    (crossed.peerOfA.1.trans crossed.peerOfA.2.symm)
  rintro rfl
  obtain ⟨c, present, link⟩ := dials
  obtain ⟨c', present', link'⟩ := accepts
  cases present.symm.trans present'
  rw [crossed.peerOfA.1] at link
  rw [crossed.peerOfA.2, link] at link'
  have direction := congrArg outbound (Option.some.inj link')
  rw [crossed.directionA.1, crossed.directionA.2] at direction
  cases direction

section

variable (smaller : a.owner.options.localIdentity < b.owner.options.localIdentity) (order : Order)

include smaller

/-- The owner with the smaller identity elects the link it dialled, in every order. -/
theorem elected_smaller : Elected a.owner (a.owner.meet xAtA yAtA order) xAtA yAtA := by
  obtain ⟨t, dials⟩ := crossed.dialsX
  have meeting := crossed.meetingA
  have wins : a.owner.prefers xAtA.session := by
    simp [prefers, keepOutbound, session, crossed.peerOfA.1, crossed.directionA.1, smaller]
  have loses : ¬ a.owner.prefers yAtA.session := by
    simp [prefers, keepOutbound, session, crossed.peerOfA.2, crossed.directionA.2, smaller]
  have admitted := dials.dialled_admits crossed.reachableA crossed.directionA.1 (.inl wins)
  unfold meet
  cases order.swapped with
  | false => exact elected_first meeting order.pace admitted loses
  | true =>
    by_cases first : a.owner.Admits yAtA
    · exact elected_second meeting.symm order.pace first wins
    · exact elected_only_second meeting.symm order.pace first admitted

/-- The owner with the larger identity elects the link it accepted, when it has a place for it
in case that it processes it first. -/
theorem elected_larger (place : order.swapped = false → b.HasPlace xAtB.peer) :
    Elected b.owner (b.owner.meet xAtB yAtB order) xAtB yAtB := by
  obtain ⟨t, accepts⟩ := crossed.acceptsX
  obtain ⟨u, dials⟩ := crossed.dialsY
  have meeting := crossed.symm.meetingA.symm
  have larger := List.lt_asymm smaller
  have wins : b.owner.prefers xAtB.session := by
    simp [prefers, keepOutbound, session, crossed.peerOfB.1, crossed.directionB.1, larger]
  have loses : ¬ b.owner.prefers yAtB.session := by
    simp [prefers, keepOutbound, session, crossed.peerOfB.2, crossed.directionB.2, larger]
  have admits_iff := accepts.accepted_admits_iff crossed.directionB.1
  unfold meet
  cases swapped : order.swapped with
  | false =>
    refine elected_first meeting order.pace (admits_iff.mpr ?_) loses
    cases mapped : b.owner.byIdentity.lookup xAtB.peer with
    | some winner => exact .inl ⟨⟨winner, rfl⟩, wins⟩
    | none =>
      refine .inr ⟨rfl, (place swapped).resolve_left ?_⟩
      rintro ⟨winner, found⟩
      rw [mapped] at found
      cases found
  | true =>
    by_cases first : b.owner.Admits yAtB
    · exact elected_second meeting.symm order.pace first wins
    · -- the dialled link loses only against an entry, which the accepted one replaces
      refine elected_only_second meeting.symm order.pace first (admits_iff.mpr (.inl ⟨?_, wins⟩))
      by_contra none
      refine first (dials.dialled_admits crossed.reachableB crossed.directionB.2 (.inr ?_))
      rw [crossed.peerOfB.2, ← crossed.peerOfB.1]
      exact Option.eq_none_iff_forall_ne_some.mpr fun winner found => none ⟨winner, found⟩

end

end

/-- Both owners elect the link that the owner with the smaller identity dialled, in every order
of the installations, provided that the other owner has a place for it in case that it processes
it first. -/
theorem crossed_dials_agree (crossed : CrossedDials a b xAtA yAtA xAtB yAtB) (orderA orderB : Order)
    (placeB : a.owner.options.localIdentity < b.owner.options.localIdentity →
      orderB.swapped = false → b.HasPlace a.owner.options.localIdentity)
    (placeA : b.owner.options.localIdentity < a.owner.options.localIdentity →
      orderA.swapped = true → a.HasPlace b.owner.options.localIdentity) :
    (a.owner.options.localIdentity < b.owner.options.localIdentity ∧
      Elected a.owner (a.owner.meet xAtA yAtA orderA) xAtA yAtA ∧
      Elected b.owner (b.owner.meet xAtB yAtB orderB) xAtB yAtB) ∨
    (b.owner.options.localIdentity < a.owner.options.localIdentity ∧
      Elected a.owner (a.owner.meet xAtA yAtA orderA) yAtA xAtA ∧
      Elected b.owner (b.owner.meet xAtB yAtB orderB) yAtB xAtB) := by
  rcases identity_lt_or_lt crossed.distinct with smaller | smaller
  · refine .inl ⟨smaller, crossed.elected_smaller smaller orderA, ?_⟩
    refine crossed.elected_larger smaller orderB fun first => ?_
    exact crossed.peerOfB.1 ▸ placeB smaller first
  · refine .inr ⟨smaller, ?_, ?_⟩
    · rw [← meet_swap]
      refine crossed.symm.elected_larger smaller _ fun first => ?_
      exact crossed.peerOfA.2 ▸ placeA smaller (by simpa using first)
    · rw [← meet_swap]
      exact crossed.symm.elected_smaller smaller _

/-- One owner after a dial and an accept, both handshakes under way, with a quota of one. -/
def crossing (letter : UInt8) : OwnerSystem :=
  { owner :=
      { options := { localIdentity := [letter], maxSessions := 1 }
        establishing := (∅ : Table Bytes Nat).insert [0x65] 0
        records := [{ reserved := true, conn := some 0 }]
        conns := [{}, {}] }
    callers := [⟨[0x65], .shaking 0 0⟩, ⟨[], .greeting 1⟩] }

/-- It is reachable. -/
theorem crossing_reachable (letter : UInt8) (ascii : letter < 0x80) :
    machine.Reachable (crossing letter) :=
  Machine.reachable_of_exec (fresh_start letter 1 ascii (by decide) (by decide))
    (rfl : machine.exec (fresh [letter] 1)
      [.call [0x65], .enter 0, .dial 0 (.ok ()), .publish 0, .gate 0 (.ok ()), .accept] = some _)

/-- The link it dialled. -/
def dialledLink (peer : Bytes) : Link :=
  { conn := 0, peer, outbound := true, endpoint := [0x65], record := some 0 }

/-- The link it accepted. -/
def acceptedLink (peer : Bytes) : Link := { conn := 1, peer, outbound := false }

/-- The owners "a" and "b" dial each other at the same time. -/
theorem crossing_crossed : CrossedDials (crossing 0x61) (crossing 0x62) (dialledLink [0x62])
    (acceptedLink [0x62]) (acceptedLink [0x61]) (dialledLink [0x61]) where
  reachableA := crossing_reachable 0x61 (by decide)
  reachableB := crossing_reachable 0x62 (by decide)
  openA := rfl
  openB := rfl
  distinct := by decide
  dialsX := ⟨0, _, rfl, rfl⟩
  acceptsY := ⟨1, _, rfl, rfl⟩
  acceptsX := ⟨1, _, rfl, rfl⟩
  dialsY := ⟨0, _, rfl, rfl⟩
  directionA := ⟨rfl, rfl⟩
  directionB := ⟨rfl, rfl⟩
  peerOfA := ⟨rfl, rfl⟩
  peerOfB := ⟨rfl, rfl⟩

/-- When "b" processes the link it dialled first, both keep the link that "a" dialled. -/
theorem crossed_dials_agree_crossing :
    Elected (crossing 0x61).owner
        ((crossing 0x61).owner.meet (dialledLink [0x62]) (acceptedLink [0x62]) ⟨true, .last⟩)
        (dialledLink [0x62]) (acceptedLink [0x62]) ∧
      Elected (crossing 0x62).owner
        ((crossing 0x62).owner.meet (acceptedLink [0x61]) (dialledLink [0x61]) ⟨true, .late⟩)
        (acceptedLink [0x61]) (dialledLink [0x61]) := by
  have larger : ¬ ([0x62] : Bytes) < [0x61] := by decide
  rcases crossing_crossed.crossed_dials_agree ⟨true, .last⟩ ⟨true, .late⟩ (fun _ => nofun)
    (fun less => absurd less larger) with ⟨_, elected⟩ | ⟨less, _⟩
  · exact elected
  · exact absurd less larger

/-- With its quota taken by its own dial, "b" turns the link of "a" away when it processes it
first, and keeps the link that "a" fences. -/
theorem crossed_dials_diverge : ¬ ∀ (a b : OwnerSystem) (xAtA yAtA xAtB yAtB : Link),
    CrossedDials a b xAtA yAtA xAtB yAtB → ∀ orderA orderB : Order,
    a.owner.options.localIdentity < b.owner.options.localIdentity →
      Elected a.owner (a.owner.meet xAtA yAtA orderA) xAtA yAtA ∧
      Elected b.owner (b.owner.meet xAtB yAtB orderB) xAtB yAtB := by
  intro every
  have elected := every _ _ _ _ _ _ crossing_crossed ⟨false, .late⟩ ⟨false, .late⟩ (by decide)
  have kept : ((crossing 0x62).owner.meet (acceptedLink [0x61]) (dialledLink [0x61])
      ⟨false, .late⟩).Serves [0x61] 0 := ⟨1, _, rfl, rfl, rfl, rfl⟩
  exact absurd (elected.2.serves.unique kept) (by decide)

end CrossedDials

/-- Twin dials: `a` dialled both `x` and `y` to `b`, and both handshakes have finished at both
ends. -/
structure TwinDials (a b : OwnerSystem) (xAtA yAtA xAtB yAtB : Link) : Prop where
  reachableA : machine.Reachable a
  reachableB : machine.Reachable b
  openA : a.owner.closed = false
  openB : b.owner.closed = false
  distinct : a.owner.options.localIdentity ≠ b.owner.options.localIdentity
  dials : ∃ t u, t ≠ u ∧ a.Brings t xAtA ∧ a.Brings u yAtA
  accepts : ∃ t u, t ≠ u ∧ b.Brings t xAtB ∧ b.Brings u yAtB
  directionA : xAtA.outbound = true ∧ yAtA.outbound = true
  directionB : xAtB.outbound = false ∧ yAtB.outbound = false
  peerOfA : xAtA.peer = b.owner.options.localIdentity ∧ yAtA.peer = b.owner.options.localIdentity
  peerOfB : xAtB.peer = a.owner.options.localIdentity ∧ yAtB.peer = a.owner.options.localIdentity

section Twins

variable {o : SessionOwnerState} {x y : Link}

section

variable (meeting : Meeting o x y) (order : Order)

include meeting

/-- Of two links that both replace, the last one stays. -/
theorem meet_last (admittedX : o.Admits x)
    (admittedY : o.Admits y) (replacesX : o.prefers x.session) (replacesY : o.prefers y.session) :
    (o.meet x y order).Serves x.peer (if order.swapped then x.conn else y.conn) := by
  unfold meet
  cases order.swapped with
  | false =>
    rw [meeting.peers]
    exact (elected_second meeting order.pace admittedX replacesY).serves
  | true => exact (elected_second meeting.symm order.pace admittedY replacesX).serves

/-- Of two links that do not replace, the first one stays. -/
theorem meet_first (admittedX : o.Admits x)
    (admittedY : o.Admits y) (losesX : ¬ o.prefers x.session) (losesY : ¬ o.prefers y.session) :
    (o.meet x y order).Serves x.peer (if order.swapped then y.conn else x.conn) := by
  unfold meet
  cases order.swapped with
  | false => exact (elected_first meeting order.pace admittedX losesY).serves
  | true =>
    rw [meeting.peers]
    exact (elected_first meeting.symm order.pace admittedY losesX).serves

/-- Of two links that are both turned away, none stays. -/
theorem meet_neither (excludedX : ¬ o.Admits x) (excludedY : ¬ o.Admits y) :
    ¬ (o.meet x y order).Serves x.peer x.conn ∧ ¬ (o.meet x y order).Serves x.peer y.conn := by
  unfold meet
  cases order.swapped with
  | false =>
    exact ⟨fun serves => (elected_neither meeting order.pace excludedX excludedY serves).1 rfl,
      fun serves => (elected_neither meeting order.pace excludedX excludedY serves).2 rfl⟩
  | true =>
    rw [meeting.peers]
    exact
      ⟨fun serves => (elected_neither meeting.symm order.pace excludedY excludedX serves).2 rfl,
        fun serves => (elected_neither meeting.symm order.pace excludedY excludedX serves).1 rfl⟩

end

/-- An owner that serves one of two links serves that one only. -/
theorem serves_iff {peer : Bytes} {one other : Nat} (distinct : one ≠ other) {chosen : Bool}
    (serves : o.Serves peer (if chosen then one else other)) :
    (o.Serves peer one ↔ chosen = true) ∧ (o.Serves peer other ↔ chosen = false) := by
  cases chosen with
  | true => exact ⟨by simpa using serves, by simpa using fun again => distinct (serves.unique again)⟩
  | false =>
    exact ⟨by simpa using fun again => distinct (Serves.unique again serves), by simpa using serves⟩

end Twins

namespace TwinDials

variable {a b : OwnerSystem} {xAtA yAtA xAtB yAtB : Link}

section

variable (twin : TwinDials a b xAtA yAtA xAtB yAtB)

include twin

/-- The ends of twin links meet at the first owner. -/
theorem meetingA : Meeting a.owner xAtA yAtA := by
  obtain ⟨t, u, apart, dialsX, dialsY⟩ := twin.dials
  exact dialsX.meeting twin.reachableA twin.openA dialsY apart
    (twin.peerOfA.1.trans twin.peerOfA.2.symm)

/-- The same at the second owner. -/
theorem meetingB : Meeting b.owner xAtB yAtB := by
  obtain ⟨t, u, apart, acceptsX, acceptsY⟩ := twin.accepts
  exact acceptsX.meeting twin.reachableB twin.openB acceptsY apart
    (twin.peerOfB.1.trans twin.peerOfB.2.symm)

/-- The direction tests of twin links at both owners: they replace exactly when the dialling
owner has the smaller identity. -/
theorem prefers_iff : (a.owner.prefers xAtA.session ↔
        a.owner.options.localIdentity < b.owner.options.localIdentity) ∧
      (a.owner.prefers yAtA.session ↔
        a.owner.options.localIdentity < b.owner.options.localIdentity) ∧
      (b.owner.prefers xAtB.session ↔
        a.owner.options.localIdentity < b.owner.options.localIdentity) ∧
      (b.owner.prefers yAtB.session ↔
        a.owner.options.localIdentity < b.owner.options.localIdentity) := by
  simp only [prefers, keepOutbound, session, twin.peerOfA.1, twin.peerOfA.2, twin.peerOfB.1,
    twin.peerOfB.2, twin.directionA.1, twin.directionA.2, twin.directionB.1, twin.directionB.2,
    decide_eq_true_eq, decide_eq_false_iff_not, true_and, and_self]
  have flip : ¬ b.owner.options.localIdentity < a.owner.options.localIdentity ↔
      a.owner.options.localIdentity < b.owner.options.localIdentity := by
    rcases identity_lt_or_lt twin.distinct with less | less
    · simp [less, List.lt_asymm less]
    · simp [less, List.lt_asymm less]
  exact flip

end

/-- There is a place for twin links at both owners: when they replace, the accepting owner has
an entry or quota; when they do not, neither owner has an entry and the accepting one has
quota. -/
def HasPlaces (a b : OwnerSystem) : Prop :=
  if a.owner.options.localIdentity < b.owner.options.localIdentity then
    b.HasPlace a.owner.options.localIdentity
  else
    a.owner.byIdentity.lookup b.owner.options.localIdentity = none ∧
      b.owner.byIdentity.lookup a.owner.options.localIdentity = none ∧
      b.owner.occupied < b.owner.options.maxSessions

section

variable (twin : TwinDials a b xAtA yAtA xAtB yAtB)

include twin

section

variable (replaces : a.owner.options.localIdentity < b.owner.options.localIdentity)

include replaces

/-- Links that replace: at the dialling owner the last one stays. -/
theorem replaced_at_dialler (order : Order) : (a.owner.meet xAtA yAtA order).Serves xAtA.peer
      (if order.swapped then xAtA.conn else yAtA.conn) := by
  obtain ⟨t, u, _, dialsX, dialsY⟩ := twin.dials
  have prefersX := twin.prefers_iff.1.mpr replaces
  have prefersY := twin.prefers_iff.2.1.mpr replaces
  exact meet_last twin.meetingA order
    (dialsX.dialled_admits twin.reachableA twin.directionA.1 (.inl prefersX))
    (dialsY.dialled_admits twin.reachableA twin.directionA.2 (.inl prefersY)) prefersX prefersY

/-- Links that replace: the accepting owner admits both or none. -/
theorem replaced_at_acceptor : (b.owner.Admits xAtB ↔ b.HasPlace a.owner.options.localIdentity) ∧
      (b.owner.Admits yAtB ↔ b.HasPlace a.owner.options.localIdentity) := by
  obtain ⟨t, u, _, acceptsX, acceptsY⟩ := twin.accepts
  rw [acceptsX.accepted_admits_iff twin.directionB.1, acceptsY.accepted_admits_iff twin.directionB.2,
    twin.peerOfB.1, twin.peerOfB.2, twin.prefers_iff.2.2.1, twin.prefers_iff.2.2.2]
  unfold HasPlace
  cases b.owner.byIdentity.lookup a.owner.options.localIdentity <;> simp [replaces]

end

section

variable (keeps : ¬ a.owner.options.localIdentity < b.owner.options.localIdentity)

include keeps

/-- Links that do not replace: at the dialling owner the first one stays, or an older session
turns both away. -/
theorem kept_at_dialler :
    (a.owner.Admits xAtA ↔ a.owner.byIdentity.lookup b.owner.options.localIdentity = none) ∧
      (a.owner.Admits yAtA ↔ a.owner.byIdentity.lookup b.owner.options.localIdentity = none) := by
  obtain ⟨t, u, _, dialsX, dialsY⟩ := twin.dials
  have one : ∀ (t : Nat) (l : Link), a.Brings t l → l.outbound = true →
      l.peer = b.owner.options.localIdentity → ¬ a.owner.prefers l.session →
      (a.owner.Admits l ↔ a.owner.byIdentity.lookup b.owner.options.localIdentity = none) := by
    intro t l dials outbound peer loses
    constructor
    · intro admitted
      unfold SessionOwnerState.Admits at admitted
      rw [peer] at admitted
      cases mapped : a.owner.byIdentity.lookup b.owner.options.localIdentity with
      | none => rfl
      | some winner =>
        rw [mapped] at admitted
        exact absurd admitted loses
    · exact fun absent => dials.dialled_admits twin.reachableA outbound (.inr (peer ▸ absent))
  exact ⟨one t xAtA dialsX twin.directionA.1 twin.peerOfA.1 (mt twin.prefers_iff.1.mp keeps),
    one u yAtA dialsY twin.directionA.2 twin.peerOfA.2 (mt twin.prefers_iff.2.1.mp keeps)⟩

/-- Links that do not replace: the accepting owner admits both or none. -/
theorem kept_at_acceptor :
    (b.owner.Admits xAtB ↔ b.owner.byIdentity.lookup a.owner.options.localIdentity = none ∧
        b.owner.occupied < b.owner.options.maxSessions) ∧
      (b.owner.Admits yAtB ↔ b.owner.byIdentity.lookup a.owner.options.localIdentity = none ∧
        b.owner.occupied < b.owner.options.maxSessions) := by
  obtain ⟨t, u, _, acceptsX, acceptsY⟩ := twin.accepts
  rw [acceptsX.accepted_admits_iff twin.directionB.1, acceptsY.accepted_admits_iff twin.directionB.2,
    twin.peerOfB.1, twin.peerOfB.2, twin.prefers_iff.2.2.1, twin.prefers_iff.2.2.2]
  simp [keeps]

end

end

/-- One of two twin links is installed and alive at both owners exactly when both owners process
them in the same order and there is a place for them. -/
theorem twin_dials_survive_iff (twin : TwinDials a b xAtA yAtA xAtB yAtB) (orderA orderB : Order) :
    (((a.owner.meet xAtA yAtA orderA).Serves xAtA.peer xAtA.conn ∧
        (b.owner.meet xAtB yAtB orderB).Serves xAtB.peer xAtB.conn) ∨
      ((a.owner.meet xAtA yAtA orderA).Serves yAtA.peer yAtA.conn ∧
        (b.owner.meet xAtB yAtB orderB).Serves yAtB.peer yAtB.conn)) ↔
    orderA.swapped = orderB.swapped ∧ HasPlaces a b := by
  have meetingA := twin.meetingA
  have meetingB := twin.meetingB
  rw [← meetingA.peers, ← meetingB.peers]
  unfold HasPlaces
  by_cases replaces : a.owner.options.localIdentity < b.owner.options.localIdentity
  · rw [if_pos replaces]
    have atA := serves_iff meetingA.distinct (twin.replaced_at_dialler replaces orderA)
    have admits := twin.replaced_at_acceptor replaces
    by_cases place : b.HasPlace a.owner.options.localIdentity
    · have atB := serves_iff meetingB.distinct (meet_last meetingB orderB (admits.1.mpr place)
        (admits.2.mpr place) (twin.prefers_iff.2.2.1.mpr replaces)
        (twin.prefers_iff.2.2.2.mpr replaces))
      rw [atA.1, atA.2, atB.1, atB.2]
      cases orderA.swapped <;> cases orderB.swapped <;> simp [place]
    · have atB := meet_neither meetingB orderB (mt admits.1.mp place) (mt admits.2.mp place)
      simp [atB.1, atB.2, place]
  · rw [if_neg replaces]
    have admitsA := twin.kept_at_dialler replaces
    have admitsB := twin.kept_at_acceptor replaces
    by_cases freeA : a.owner.byIdentity.lookup b.owner.options.localIdentity = none
    · have atA := serves_iff meetingA.distinct.symm (meet_first meetingA orderA
        (admitsA.1.mpr freeA) (admitsA.2.mpr freeA) (mt twin.prefers_iff.1.mp replaces)
        (mt twin.prefers_iff.2.1.mp replaces))
      by_cases freeB : b.owner.byIdentity.lookup a.owner.options.localIdentity = none ∧
          b.owner.occupied < b.owner.options.maxSessions
      · have atB := serves_iff meetingB.distinct.symm (meet_first meetingB orderB
          (admitsB.1.mpr freeB) (admitsB.2.mpr freeB) (mt twin.prefers_iff.2.2.1.mp replaces)
          (mt twin.prefers_iff.2.2.2.mp replaces))
        rw [atA.1, atA.2, atB.1, atB.2]
        cases orderA.swapped <;> cases orderB.swapped <;> simp [freeA, freeB]
      · have atB := meet_neither meetingB orderB (mt admitsB.1.mp freeB) (mt admitsB.2.mp freeB)
        simp [atB.1, atB.2, freeB]
    · have atA := meet_neither meetingA orderA (mt admitsA.1.mp freeA) (mt admitsA.2.mp freeA)
      simp [atA.1, atA.2, freeA]

/-- An owner after two dials to different endpoints, both handshakes under way. -/
def dialling (letter : UInt8) : OwnerSystem :=
  { owner :=
      { options := { localIdentity := [letter], maxSessions := 2 }
        establishing := ((∅ : Table Bytes Nat).insert [0x65] 0).insert [0x66] 1
        records := [{ reserved := true, conn := some 0 }, { reserved := true, conn := some 1 }]
        conns := [{}, {}] }
    callers := [⟨[0x65], .shaking 0 0⟩, ⟨[0x66], .shaking 1 1⟩] }

/-- An owner after two accepts, both handshakes under way. -/
def accepting (letter : UInt8) : OwnerSystem :=
  { owner := { options := { localIdentity := [letter], maxSessions := 2 }, conns := [{}, {}] }
    callers := [⟨[], .greeting 0⟩, ⟨[], .greeting 1⟩] }

/-- One of the two links that it dialled. -/
def twinDialled (peer : Bytes) (endpoint : UInt8) (record : Nat) : Link :=
  { conn := record, peer, outbound := true, endpoint := [endpoint], record := some record }

/-- One of the two links that it accepted. -/
def twinAccepted (peer : Bytes) (conn : Nat) : Link := { conn, peer, outbound := false }

/-- The owner "a" dials the owner "b" twice. -/
theorem dialling_twin : TwinDials (dialling 0x61) (accepting 0x62) (twinDialled [0x62] 0x65 0)
    (twinDialled [0x62] 0x66 1) (twinAccepted [0x61] 0) (twinAccepted [0x61] 1) where
  reachableA := Machine.reachable_of_exec (fresh_start 0x61 2 (by decide) (by decide) (by decide))
    (rfl : machine.exec (fresh [0x61] 2)
      [.call [0x65], .enter 0, .dial 0 (.ok ()), .publish 0, .gate 0 (.ok ()), .call [0x66],
        .enter 1, .dial 1 (.ok ()), .publish 1, .gate 1 (.ok ())] = some _)
  reachableB := Machine.reachable_of_exec (fresh_start 0x62 2 (by decide) (by decide) (by decide))
    (rfl : machine.exec (fresh [0x62] 2) [.accept, .accept] = some _)
  openA := rfl
  openB := rfl
  distinct := by decide
  dials := ⟨0, 1, by decide, ⟨_, rfl, rfl⟩, ⟨_, rfl, rfl⟩⟩
  accepts := ⟨0, 1, by decide, ⟨_, rfl, rfl⟩, ⟨_, rfl, rfl⟩⟩
  directionA := ⟨rfl, rfl⟩
  directionB := ⟨rfl, rfl⟩
  peerOfA := ⟨rfl, rfl⟩
  peerOfB := ⟨rfl, rfl⟩

/-- Processed in the same order at both ends, one of the twin links of "a" stays. -/
theorem twin_dials_survive_iff_dialling :
    ((dialling 0x61).owner.meet (twinDialled [0x62] 0x65 0) (twinDialled [0x62] 0x66 1)
        ⟨false, .early⟩).Serves [0x62] 0 ∧
      ((accepting 0x62).owner.meet (twinAccepted [0x61] 0) (twinAccepted [0x61] 1)
        ⟨false, .late⟩).Serves [0x61] 0 ∨
    ((dialling 0x61).owner.meet (twinDialled [0x62] 0x65 0) (twinDialled [0x62] 0x66 1)
        ⟨false, .early⟩).Serves [0x62] 1 ∧
      ((accepting 0x62).owner.meet (twinAccepted [0x61] 0) (twinAccepted [0x61] 1)
        ⟨false, .late⟩).Serves [0x61] 1 := by
  refine (dialling_twin.twin_dials_survive_iff ⟨false, .early⟩ ⟨false, .late⟩).mpr ⟨rfl, ?_⟩
  exact .inr (by decide)

/-- Processed in opposite orders, the two ends of the twin links of "a" keep different ones. -/
theorem twin_dials_destroyed : ¬ ∀ (a b : OwnerSystem) (xAtA yAtA xAtB yAtB : Link),
    TwinDials a b xAtA yAtA xAtB yAtB → ∀ orderA orderB : Order,
    ((a.owner.meet xAtA yAtA orderA).Serves xAtA.peer xAtA.conn ∧
        (b.owner.meet xAtB yAtB orderB).Serves xAtB.peer xAtB.conn) ∨
      ((a.owner.meet xAtA yAtA orderA).Serves yAtA.peer yAtA.conn ∧
        (b.owner.meet xAtB yAtB orderB).Serves yAtB.peer yAtB.conn) := by
  intro every
  have lastAtA : ((dialling 0x61).owner.meet (twinDialled [0x62] 0x65 0)
      (twinDialled [0x62] 0x66 1) ⟨false, .late⟩).Serves [0x62] 1 := ⟨1, _, rfl, rfl, rfl, rfl⟩
  have lastAtB : ((accepting 0x62).owner.meet (twinAccepted [0x61] 0) (twinAccepted [0x61] 1)
      ⟨true, .late⟩).Serves [0x61] 0 := ⟨1, _, rfl, rfl, rfl, rfl⟩
  rcases every _ _ _ _ _ _ dialling_twin ⟨false, .late⟩ ⟨true, .late⟩ with ⟨atA, _⟩ | ⟨_, atB⟩
  · exact absurd (lastAtA.unique atA) (by decide)
  · exact absurd (lastAtB.unique atB) (by decide)

end TwinDials

end BbtInfra.Rpc
