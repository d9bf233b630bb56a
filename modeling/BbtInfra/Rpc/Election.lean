import BbtInfra.Rpc.Retirement

/-!
# Election between two links

Two links of one peer meet at an owner. Each call of `InstallSession` is one critical section
followed, when it evicted a session, by that session's `Kill` outside of the lock; the two
calls may run in either order and the first `Kill` may come before or after the second
critical section. The outcome at one owner is computed here for every order, and agreement
between the two owners follows by comparing the outcomes.
-/
namespace BbtInfra.Rpc

open Lib SessionOwnerState List Option

/-- A link whose handshake has finished, with what its caller passes to `InstallSession`. -/
structure Link where
  conn : Nat
  peer : Bytes
  outbound : Bool
  endpoint : Bytes := []
  record : Option Nat := none
  deriving DecidableEq

/-- The session object that its caller builds for a link. -/
def Link.session (l : Link) : Session :=
  { conn := l.conn, peerIdentity := l.peer, outbound := l.outbound }

namespace SessionOwnerState

variable {o o' : SessionOwnerState} {l : Link}

/-- A link is handed to `InstallSession`: its session object is built, the critical section
runs, and a refused link is closed by the caller. Returns what was evicted and is still to be
killed. -/
def installLink (o : SessionOwnerState) (l : Link) : SessionOwnerState × List Nat :=
  match (OwnerSystem.newSession o l.conn l.peer l.outbound).installLocked o.heap.length l.session
    l.endpoint l.record with
  | (owner, .refused _) => (owner.requestClose l.conn, [])
  | (owner, .fenced _) => (owner, [])
  | (owner, .won evicted) => (owner, evicted.toList)

/-- `Kill` on each of these sessions. -/
def killAll (o : SessionOwnerState) (ids : List Nat) : SessionOwnerState := ids.foldl kill o

/-- When the first call's `Kill` runs. -/
inductive Pace
  /-- Before the second critical section. -/
  | early
  /-- After it, before the second call's own `Kill`. -/
  | late
  /-- After everything else. -/
  | last
  deriving DecidableEq

/-- One order of two calls of `InstallSession` at one owner. -/
structure Order where
  /-- The second link's critical section runs first. -/
  swapped : Bool
  pace : Pace
  deriving DecidableEq

/-- Two links are installed, the first one's critical section first. -/
def installBoth (o : SessionOwnerState) (first second : Link) (pace : Pace) : SessionOwnerState :=
  let (o, evicted) := o.installLink first
  match pace with
  | .early =>
    let (o, evicted') := (o.killAll evicted).installLink second
    o.killAll evicted'
  | .late =>
    let (o, evicted') := o.installLink second
    o.killAll (evicted ++ evicted')
  | .last =>
    let (o, evicted') := o.installLink second
    o.killAll (evicted' ++ evicted)

/-- Two links are installed in the given order. -/
def meet (o : SessionOwnerState) (x y : Link) (order : Order) : SessionOwnerState :=
  if order.swapped then o.installBoth y x order.pace else o.installBoth x y order.pace

/-- Exchanging the links and their order changes nothing. -/
theorem meet_swap (o : SessionOwnerState) (x y : Link) (order : Order) :
    o.meet y x { order with swapped := !order.swapped } = o.meet x y order := by
  unfold meet
  cases order.swapped <;> rfl

/-- The owner maps the peer to the session of this connection, and the session is alive. -/
def Serves (o : SessionOwnerState) (peer : Bytes) (conn : Nat) : Prop :=
  ∃ id session, o.byIdentity.lookup peer = some id ∧ o.heap[id]? = some session ∧
    session.conn = conn ∧ session.dead = false

/-- `InstallSession` installs this link: against an entry its direction decides, otherwise the
quota. -/
def Admits (o : SessionOwnerState) (l : Link) : Prop :=
  match o.byIdentity.lookup l.peer with
  | some _ => o.prefers l.session
  | none => o.occupiedByOthers l.record < o.options.maxSessions

/-- The tables that the election reads are the same. -/
structure SameTables (o o' : SessionOwnerState) : Prop where
  options : o'.options = o.options
  closed : o'.closed = o.closed
  byIdentity : o'.byIdentity = o.byIdentity
  establishing : o'.establishing = o.establishing
  records : o'.records = o.records

/-- The tables of one owner. -/
theorem SameTables.refl (o : SessionOwnerState) : SameTables o o := ⟨rfl, rfl, rfl, rfl, rfl⟩

/-- Two steps that leave them alone. -/
theorem SameTables.trans {o'' : SessionOwnerState} (first : SameTables o o')
    (second : SameTables o' o'') : SameTables o o'' :=
  ⟨second.options.trans first.options, second.closed.trans first.closed,
    second.byIdentity.trans first.byIdentity, second.establishing.trans first.establishing,
    second.records.trans first.records⟩

/-- The same tables admit the same links. -/
theorem SameTables.admits (same : SameTables o o') : o'.Admits l ↔ o.Admits l := by
  unfold Admits prefers keepOutbound occupiedByOthers occupied reservedCount isReserved
  rw [same.byIdentity, same.options, same.establishing, same.records]

/-- What killing does: it marks the session dead and asks its connection to close. -/
structure Killed (o o' : SessionOwnerState) (ids : List Nat) : Prop where
  tables : SameTables o o'
  links : o'.heap.map Session.link = o.heap.map Session.link
  conns : o'.conns.length = o.conns.length
  spared : ∀ id, id ∉ ids → o'.heap[id]? = o.heap[id]?
  asked : ∀ conn, o.closeAsked conn = true → o'.closeAsked conn = true
  only : ∀ conn, o'.closeAsked conn = true → o.closeAsked conn = true ∨
    ∃ id ∈ ids, ∃ session, o.heap[id]? = some session ∧ session.conn = conn
  closes : ∀ id ∈ ids, ∀ session, o.heap[id]? = some session → session.dead = false →
    session.conn < o.conns.length → o'.closeAsked session.conn = true

/-- One connection more is asked to close. -/
theorem closeAsked_requestClose_iff {conn other : Nat} :
    (o.requestClose conn).closeAsked other = true ↔
      o.closeAsked other = true ∨ (other = conn ∧ conn < o.conns.length) := by
  simp only [closeAsked, requestClose, List.getElem?_modify]
  cases found : o.conns[other]? with
  | none =>
    have outside := List.getElem?_eq_none_iff.mp found
    simp only [Option.map_eq_map, Option.map_none, Option.getD_none, Bool.false_eq_true, false_or,
      false_iff, not_and, Nat.not_lt]
    rintro rfl
    exact outside
  | some c =>
    have inside := (List.getElem?_eq_some_iff.mp found).1
    by_cases same : conn = other
    · subst same
      simp [inside]
    · simp [same, Ne.symm same]

/-- One `Kill`. -/
theorem killed_kill (o : SessionOwnerState) (id : Nat) : Killed o (o.kill id) [id] := by
  have quiet := quiet_kill o id
  unfold kill at quiet ⊢
  split at quiet
  · rename_i absent
    refine ⟨SameTables.refl o, rfl, rfl, fun _ _ => rfl, fun _ asked => asked,
      fun _ asked => .inl asked, ?_⟩
    intro other member session found
    rw [mem_singleton.mp member, absent] at found
    cases found
  · rename_i session found
    by_cases dead : session.dead = true
    · rw [if_pos dead] at quiet ⊢
      refine ⟨SameTables.refl o, rfl, rfl, fun _ _ => rfl, fun _ asked => asked,
        fun _ asked => .inl asked, ?_⟩
      intro other member session' found' alive
      rw [mem_singleton.mp member, found] at found'
      cases found'
      rw [dead] at alive
      cases alive
    · rw [if_neg dead] at quiet ⊢
      refine ⟨⟨rfl, rfl, rfl, rfl, rfl⟩, quiet.links, by simp [requestClose, modifySession], ?_,
        quiet.asked, ?_, ?_⟩
      · intro other apart
        have differs : id ≠ other := fun same => apart (mem_singleton.mpr same.symm)
        simp [requestClose, modifySession, differs]
      · intro conn asked
        rcases closeAsked_requestClose_iff.mp asked with before | ⟨rfl, _⟩
        · exact .inl before
        · exact .inr ⟨id, mem_singleton_self id, session, found, rfl⟩
      · intro other member session' found' _ inside
        rw [mem_singleton.mp member, found] at found'
        cases found'
        exact closeAsked_requestClose_iff.mpr (.inr ⟨rfl, inside⟩)

/-- Several `Kill`s. -/
theorem killed_killAll (o : SessionOwnerState) (ids : List Nat) : Killed o (o.killAll ids) ids := by
  induction ids generalizing o with
  | nil =>
    exact ⟨SameTables.refl o, rfl, rfl, fun _ _ => rfl, fun _ asked => asked,
      fun _ asked => .inl asked, fun _ member => absurd member not_mem_nil⟩
  | cons id rest ih =>
    have head := killed_kill o id
    have tail := ih (o.kill id)
    have conns : ∀ (i : Nat) session', (o.kill id).heap[i]? = some session' →
        ∃ session, o.heap[i]? = some session ∧ session.link = session'.link := by
      intro i session' found
      have link := congrArg (fun links => links[i]?) head.links
      simp only [getElem?_map, found, map_some] at link
      exact map_eq_some_iff.mp link.symm
    refine ⟨head.tables.trans tail.tables, tail.links.trans head.links,
      tail.conns.trans head.conns, ?_, fun conn asked => tail.asked conn (head.asked conn asked),
      ?_, ?_⟩
    · intro other apart
      rw [mem_cons, not_or] at apart
      exact (tail.spared other apart.2).trans
        (head.spared other fun member => apart.1 (mem_singleton.mp member))
    · intro conn asked
      rcases tail.only conn asked with before | ⟨other, member, session', found, same⟩
      · rcases head.only conn before with before | ⟨other, member, session, found, same⟩
        · exact .inl before
        · exact .inr ⟨other, mem_cons.mpr (.inl (mem_singleton.mp member)), session,
            found, same⟩
      · obtain ⟨session, present, link⟩ := conns other session' found
        exact .inr ⟨other, mem_cons_of_mem id member, session, present,
          (congrArg Prod.fst link).trans same⟩
    · intro other member session found alive inside
      by_cases own : other = id
      · exact tail.asked _ (head.closes other (by simp [own]) session found alive inside)
      · have kept := head.spared other fun member => own (mem_singleton.mp member)
        exact tail.closes other ((mem_cons.mp member).resolve_left own) session
          (kept.trans found) alive (by rw [head.conns]; exact inside)

/-- A link that is installed: it is the entry of its peer, and the former entry is evicted. -/
structure LinkWon (o : SessionOwnerState) (l : Link) (o' : SessionOwnerState)
    (evicted : List Nat) : Prop where
  options : o'.options = o.options
  closed : o'.closed = o.closed
  entry : o'.byIdentity.lookup l.peer = some o.heap.length
  heap : o'.heap = o.heap ++ [{ l.session with quotaHeld := true }]
  conns : o'.conns = o.conns
  evicted : evicted = (o.byIdentity.lookup l.peer).toList

/-- A link that is fenced or refused: it is asked to close and the tables stay. -/
structure LinkLost (o : SessionOwnerState) (l : Link) (o' : SessionOwnerState)
    (evicted : List Nat) : Prop where
  tables : SameTables o o'
  heap : ∃ dead, o'.heap = o.heap ++ [{ l.session with dead }]
  conns : o'.conns = (o.requestClose l.conn).conns
  evicted : evicted = []

/-- Rewriting the session that was built last. -/
theorem modify_built (heap : List Session) (session : Session) (f : Session → Session) :
    (heap ++ [session]).modify heap.length f = heap ++ [f session] := by
  apply ext_getElem?
  intro i
  rw [getElem?_modify]
  by_cases inside : i < heap.length
  · simp [getElem?_append_left inside, Nat.ne_of_gt inside]
  · have outside := Nat.le_of_not_lt inside
    rw [getElem?_append_right outside, getElem?_append_right outside]
    rcases Nat.eq_or_lt_of_le outside with same | beyond
    · simp [← same]
    · have positive : i - heap.length ≠ 0 := by omega
      simp [Nat.ne_of_lt beyond, positive]

/-- An admitted link wins. -/
theorem installLink_won (opened : o.closed = false) (admitted : o.Admits l) :
    LinkWon o l (o.installLink l).1 (o.installLink l).2 := by
  have outcome := installLocked_outcome (OwnerSystem.newSession o l.conn l.peer l.outbound)
    o.heap.length l.session l.endpoint l.record
  unfold installLink
  cases result : (OwnerSystem.newSession o l.conn l.peer l.outbound).installLocked o.heap.length
    l.session l.endpoint l.record with
  | mk owner installed =>
    rw [result] at outcome
    unfold Admits at admitted
    cases outcome with
    | refused error guard =>
      exfalso
      rcases guard with closed | ⟨absent, full⟩
      · exact Bool.false_ne_true (opened.symm.trans closed)
      · rw [show o.byIdentity.lookup l.peer = none from absent] at admitted
        exact Nat.lt_irrefl _ (Nat.lt_of_lt_of_le admitted full)
    | fenced winner _ mapped loses =>
      rw [show o.byIdentity.lookup l.peer = some winner from mapped] at admitted
      exact absurd admitted loses
    | evicted winner _ mapped wins =>
      exact
        { options := rfl
          closed := rfl
          entry := AList.lookup_insert _
          heap := modify_built o.heap l.session _
          conns := rfl
          evicted := by rw [show o.byIdentity.lookup l.peer = some winner from mapped] }
    | added _ absent room =>
      cases record : l.record <;>
        exact
          { options := rfl
            closed := rfl
            entry := AList.lookup_insert _
            heap := modify_built o.heap l.session _
            conns := rfl
            evicted := by rw [show o.byIdentity.lookup l.peer = none from absent] }

/-- A link that is not admitted loses. -/
theorem installLink_lost (excluded : ¬ o.Admits l) :
    LinkLost o l (o.installLink l).1 (o.installLink l).2 := by
  have outcome := installLocked_outcome (OwnerSystem.newSession o l.conn l.peer l.outbound)
    o.heap.length l.session l.endpoint l.record
  unfold installLink
  cases result : (OwnerSystem.newSession o l.conn l.peer l.outbound).installLocked o.heap.length
    l.session l.endpoint l.record with
  | mk owner installed =>
    rw [result] at outcome
    unfold Admits at excluded
    cases outcome with
    | refused error guard =>
      exact ⟨⟨rfl, rfl, rfl, rfl, rfl⟩, ⟨false, rfl⟩, rfl, rfl⟩
    | fenced winner _ mapped loses =>
      dsimp only
      unfold fenceLocked
      split
      · exact ⟨⟨rfl, rfl, rfl, rfl, rfl⟩, ⟨true, modify_built o.heap l.session _⟩, rfl, rfl⟩
      · exact ⟨⟨rfl, rfl, rfl, rfl, rfl⟩, ⟨true, modify_built o.heap l.session _⟩, rfl, rfl⟩
    | evicted winner _ mapped wins =>
      rw [show o.byIdentity.lookup l.peer = some winner from mapped] at excluded
      exact absurd wins excluded
    | added _ absent room =>
      rw [show o.byIdentity.lookup l.peer = none from absent] at excluded
      exact absurd room excluded

/-- Both calls and their `Kill`s, whatever their pace: the first link, some kills, the second
link, the remaining kills. -/
theorem installBoth_cases (o : SessionOwnerState) (first second : Link) (pace : Pace) :
    ∃ early late o₁ o₂, Killed (o.installLink first).1 o₁ early ∧
      o₂ = o₁.installLink second ∧ Killed o₂.1 (o.installBoth first second pace) late ∧
      (∀ id ∈ early, id ∈ (o.installLink first).2) ∧
      (∀ id ∈ late, id ∈ (o.installLink first).2 ∨ id ∈ o₂.2) ∧ ∀ id ∈ o₂.2, id ∈ late := by
  cases pace with
  | early =>
    exact ⟨_, _, _, _, killed_killAll _ _, rfl, killed_killAll _ _, fun _ member => member,
      fun _ member => .inr member, fun _ member => member⟩
  | late =>
    refine ⟨[], _, _, _, killed_killAll _ _, rfl, killed_killAll _ _, fun _ => nofun,
      fun _ => mem_append.mp, fun _ member => mem_append_right _ member⟩
  | last =>
    refine ⟨[], _, _, _, killed_killAll _ _, rfl, killed_killAll _ _, fun _ => nofun,
      fun _ member => (mem_append.mp member).symm, fun _ member => mem_append_left _ member⟩

/-- Two links of one peer at an owner: their connections exist, are distinct and belong to no
session yet. -/
structure Meeting (o : SessionOwnerState) (first second : Link) : Prop where
  opened : o.closed = false
  peers : first.peer = second.peer
  installed : ∀ id ∈ o.byIdentity.values, id < o.heap.length
  firstConn : first.conn < o.conns.length
  secondConn : second.conn < o.conns.length
  distinct : first.conn ≠ second.conn
  firstUnused : ∀ session ∈ o.heap, session.conn ≠ first.conn
  secondUnused : ∀ session ∈ o.heap, session.conn ≠ second.conn

/-- Two links meet each other. -/
theorem Meeting.symm {first second : Link} (meeting : Meeting o first second) :
    Meeting o second first :=
  ⟨meeting.opened, meeting.peers.symm, meeting.installed, meeting.secondConn, meeting.firstConn,
    meeting.distinct.symm, meeting.secondUnused, meeting.firstUnused⟩

/-- The owner serves the peer over the winner, has asked the loser to close, and of all other
connections at most the one it served the peer over before. -/
structure Elected (o o' : SessionOwnerState) (winner loser : Link) : Prop where
  serves : o'.Serves winner.peer winner.conn
  closes : o'.closeAsked loser.conn = true
  only : ∀ conn, o'.closeAsked conn = true → o.closeAsked conn = true ∨ conn = loser.conn ∨
    ∃ id session, o.byIdentity.lookup winner.peer = some id ∧ o.heap[id]? = some session ∧
      session.conn = conn

variable {id : Nat} {evicted : List Nat}

/-- The former entry of the peer is older than the two links. -/
theorem Meeting.older {first second : Link} (meeting : Meeting o first second)
    (member : id ∈ (o.byIdentity.lookup first.peer).toList) : id < o.heap.length := by
  rw [mem_toList] at member
  exact meeting.installed id (AList.mem_values_of_lookup member)

/-- A session after `Kill`s has the connection it had before. -/
theorem Killed.conn {ids : List Nat} (killed : Killed o o' ids) {session : Session}
    (found : o'.heap[id]? = some session) :
    ∃ before, o.heap[id]? = some before ∧ before.conn = session.conn := by
  have link := congrArg (fun links => links[id]?) killed.links
  simp only [getElem?_map, found, map_some] at link
  obtain ⟨before, present, same⟩ := map_eq_some_iff.mp link.symm
  exact ⟨before, present, congrArg Prod.fst same⟩

/-- `Kill`s create no session. -/
theorem Killed.length {ids : List Nat} (killed : Killed o o' ids) :
    o'.heap.length = o.heap.length := by
  simpa using congrArg List.length killed.links

/-- The close requests are those of the connections. -/
theorem closeAsked_congr {o o' : SessionOwnerState} (same : o'.conns = o.conns) (conn : Nat) :
    o'.closeAsked conn = o.closeAsked conn := by
  rw [closeAsked, same, closeAsked]

/-- A lost link is asked to close, and no other connection. -/
theorem LinkLost.asked_iff (lost : LinkLost o l o' evicted)
    (present : l.conn < o.conns.length) (conn : Nat) :
    o'.closeAsked conn = true ↔ o.closeAsked conn = true ∨ conn = l.conn := by
  rw [closeAsked_congr lost.conns, closeAsked_requestClose_iff, and_iff_left present]

/-- The session object of a lost link is the last one of the heap. -/
theorem LinkLost.older (lost : LinkLost o l o' evicted)
    (inside : id < o.heap.length) : o'.heap[id]? = o.heap[id]? := by
  obtain ⟨dead, heap⟩ := lost.heap
  rw [heap, getElem?_append_left inside]

/-- The session object of a link that won is the last one of the heap. -/
theorem LinkWon.older (won : LinkWon o l o' evicted)
    (inside : id < o.heap.length) : o'.heap[id]? = o.heap[id]? := by
  rw [won.heap, getElem?_append_left inside]

/-- The session of a link that won is alive. -/
theorem LinkWon.alive (won : LinkWon o l o' evicted) :
    o'.heap[o.heap.length]? = some { l.session with quotaHeld := true } := by
  rw [won.heap]
  simp

section Both

variable {first second : Link}

section

variable (meeting : Meeting o first second) (pace : Pace)

include meeting

/-- The first link is admitted and stays: the second one loses against it. -/
theorem elected_first (admitted : o.Admits first) (loses : ¬ o.prefers second.session) :
    Elected o (o.installBoth first second pace) first second := by
  obtain ⟨early, late, o₁, o₂, killedEarly, rfl, killedLate, fromFirst, fromBoth, _⟩ :=
    installBoth_cases o first second pace
  have won := installLink_won meeting.opened admitted
  have excluded : ¬ o₁.Admits second := by
    rw [killedEarly.tables.admits]
    unfold Admits prefers keepOutbound
    rw [← meeting.peers, won.entry, won.options]
    exact loses
  have lost := installLink_lost excluded
  have former : ∀ id, id ∈ early ∨ id ∈ late → o.byIdentity.lookup first.peer = some id := by
    intro id member
    have evicted : id ∈ (o.installLink first).2 := by
      rcases member with member | member
      · exact fromFirst id member
      · refine (fromBoth id member).resolve_right fun other => ?_
        rw [lost.evicted] at other
        cases other
    rwa [won.evicted, mem_toList] at evicted
  have older : ∀ id, id ∈ early ∨ id ∈ late → id < o.heap.length :=
    fun id member => meeting.older (mem_toList.mpr (former id member))
  have length₁ : o₁.heap.length = o.heap.length + 1 := by
    rw [killedEarly.length, won.heap]
    simp
  have conns₁ : o₁.conns.length = o.conns.length := by rw [killedEarly.conns, won.conns]
  -- an entry that was there before is the same session in every intermediate state
  have before : ∀ {id : Nat} {session : Session}, id < o.heap.length →
      (o.installLink first).1.heap[id]? = some session → o.heap[id]? = some session :=
    fun inside found => (won.older inside).symm.trans found
  refine
    { serves := ⟨o.heap.length, { first.session with quotaHeld := true }, ?_, ?_, rfl, rfl⟩
      closes := killedLate.asked _ ((lost.asked_iff (conns₁ ▸ meeting.secondConn) _).mpr (.inr rfl))
      only := ?_ }
  · rw [killedLate.tables.byIdentity, lost.tables.byIdentity, killedEarly.tables.byIdentity]
    exact won.entry
  · rw [killedLate.spared _ fun member => Nat.lt_irrefl _ (older _ (.inr member)),
      lost.older (by rw [length₁]; exact Nat.lt_succ_self _),
      killedEarly.spared _ fun member => Nat.lt_irrefl _ (older _ (.inl member))]
    exact won.alive
  · intro conn asked
    have early_only : ∀ c, o₁.closeAsked c = true → o.closeAsked c = true ∨
        ∃ id session, o.byIdentity.lookup first.peer = some id ∧ o.heap[id]? = some session ∧
          session.conn = c := by
      intro c asked
      rcases killedEarly.only c asked with asked | ⟨id, member, session, found, same⟩
      · exact .inl (closeAsked_congr won.conns c ▸ asked)
      · exact .inr ⟨id, session, former id (.inl member), before (older id (.inl member)) found,
          same⟩
    rcases killedLate.only conn asked with asked | ⟨id, member, session, found, same⟩
    · rcases (lost.asked_iff (conns₁ ▸ meeting.secondConn) conn).mp asked with asked | rfl
      · exact (early_only conn asked).imp_right .inr
      · exact .inr (.inl rfl)
    · have inside := older id (.inr member)
      rw [lost.older (by rw [length₁]; exact Nat.lt_succ_of_lt inside)] at found
      obtain ⟨session', found, same'⟩ := killedEarly.conn found
      exact .inr (.inr ⟨id, session', former id (.inr member), before inside found,
        same'.trans same⟩)

/-- The first link is admitted and then evicted by the second one. -/
theorem elected_second (admitted : o.Admits first) (wins : o.prefers second.session) :
    Elected o (o.installBoth first second pace) second first := by
  obtain ⟨early, late, o₁, o₂, killedEarly, rfl, killedLate, fromFirst, fromBoth, fromSecond⟩ :=
    installBoth_cases o first second pace
  have won := installLink_won meeting.opened admitted
  have entry₁ : o₁.byIdentity.lookup second.peer = some o.heap.length := by
    rw [killedEarly.tables.byIdentity, ← meeting.peers]
    exact won.entry
  have admitted₁ : o₁.Admits second := by
    unfold Admits prefers keepOutbound
    rw [entry₁, killedEarly.tables.options, won.options]
    exact wins
  have won₁ := installLink_won (by rw [killedEarly.tables.closed, won.closed, meeting.opened])
    admitted₁
  have formerEarly : ∀ id ∈ early, o.byIdentity.lookup first.peer = some id := by
    intro id member
    have evicted := fromFirst id member
    rwa [won.evicted, mem_toList] at evicted
  have evicted₁ : (o₁.installLink second).2 = [o.heap.length] := by
    rw [won₁.evicted, entry₁]
    rfl
  have formerLate : ∀ id ∈ late, o.byIdentity.lookup first.peer = some id ∨ id = o.heap.length := by
    intro id member
    rcases fromBoth id member with evicted | evicted
    · rw [won.evicted, mem_toList] at evicted
      exact .inl evicted
    · rw [evicted₁, mem_singleton] at evicted
      exact .inr evicted
  have older : ∀ id, o.byIdentity.lookup first.peer = some id → id < o.heap.length :=
    fun id former => meeting.older (mem_toList.mpr former)
  have length₁ : o₁.heap.length = o.heap.length + 1 := by
    rw [killedEarly.length, won.heap]
    simp
  have conns₁ : o₁.conns.length = o.conns.length := by rw [killedEarly.conns, won.conns]
  have firstAlive : (o₁.installLink second).1.heap[o.heap.length]? =
      some { first.session with quotaHeld := true } := by
    rw [won₁.older (by rw [length₁]; exact Nat.lt_succ_self _), killedEarly.spared _ fun member =>
      Nat.lt_irrefl _ (older _ (formerEarly _ member))]
    exact won.alive
  refine
    { serves := ⟨o₁.heap.length, { second.session with quotaHeld := true }, ?_, ?_, rfl, rfl⟩
      closes := killedLate.closes o.heap.length (fromSecond _ (by simp [evicted₁])) _ firstAlive rfl
        (by rw [won₁.conns, conns₁]; exact meeting.firstConn)
      only := ?_ }
  · rw [killedLate.tables.byIdentity]
    exact won₁.entry
  · rw [killedLate.spared]
    · exact won₁.alive
    · intro member
      rcases formerLate _ member with former | same
      · exact absurd (older _ former) (by omega)
      · omega
  · intro conn asked
    have former_only : ∀ (id : Nat) (session : Session), o.byIdentity.lookup first.peer = some id →
        (o.installLink first).1.heap[id]? = some session → session.conn = conn →
        ∃ id session, o.byIdentity.lookup second.peer = some id ∧ o.heap[id]? = some session ∧
          session.conn = conn := by
      intro id session former found same
      rw [won.older (older id former)] at found
      exact ⟨id, session, meeting.peers ▸ former, found, same⟩
    rcases killedLate.only conn asked with asked | ⟨id, member, session, found, same⟩
    · rw [closeAsked_congr won₁.conns] at asked
      rcases killedEarly.only conn asked with asked | ⟨id, member, session, found, same⟩
      · exact .inl (closeAsked_congr won.conns conn ▸ asked)
      · exact .inr (.inr (former_only id session (formerEarly id member) found same))
    · rcases formerLate id member with former | rfl
      · have inside := older id former
        rw [won₁.older (by rw [length₁]; exact Nat.lt_succ_of_lt inside)] at found
        obtain ⟨session', found, same'⟩ := killedEarly.conn found
        exact .inr (.inr (former_only id session' former found (same'.trans same)))
      · rw [firstAlive] at found
        cases found
        exact .inr (.inl same.symm)

/-- The first link is turned away and the second one is admitted. -/
theorem elected_only_second (excluded : ¬ o.Admits first) (admitted : o.Admits second) :
    Elected o (o.installBoth first second pace) second first := by
  obtain ⟨early, late, o₁, o₂, killedEarly, rfl, killedLate, fromFirst, fromBoth, _⟩ :=
    installBoth_cases o first second pace
  have lost := installLink_lost excluded
  have noneEarly : early = [] := by
    refine eq_nil_iff_forall_not_mem.mpr fun id member => ?_
    have evicted := fromFirst id member
    rw [lost.evicted] at evicted
    cases evicted
  subst noneEarly
  have tables₁ := lost.tables.trans killedEarly.tables
  have won₁ := installLink_won (by rw [tables₁.closed, meeting.opened]) (tables₁.admits.mpr admitted)
  have former : ∀ id ∈ late, o.byIdentity.lookup second.peer = some id := by
    intro id member
    rcases fromBoth id member with evicted | evicted
    · rw [lost.evicted] at evicted
      cases evicted
    · rwa [won₁.evicted, tables₁.byIdentity, mem_toList] at evicted
  have older : ∀ id ∈ late, id < o.heap.length := fun id member =>
    meeting.symm.older (mem_toList.mpr (former id member))
  have length₁ : o₁.heap.length = o.heap.length + 1 := by
    obtain ⟨dead, heap⟩ := lost.heap
    rw [killedEarly.length, heap]
    simp
  have asked₁ : ∀ conn, o₁.closeAsked conn = true ↔ o.closeAsked conn = true ∨ conn = first.conn := by
    intro conn
    rw [← lost.asked_iff meeting.firstConn conn]
    refine ⟨fun asked => ?_, killedEarly.asked conn⟩
    exact (killedEarly.only conn asked).resolve_right fun ⟨_, member, _⟩ =>
      absurd member not_mem_nil
  refine
    { serves := ⟨o₁.heap.length, { second.session with quotaHeld := true }, ?_, ?_, rfl, rfl⟩
      closes := killedLate.asked _
        (closeAsked_congr won₁.conns _ ▸ (asked₁ first.conn).mpr (.inr rfl))
      only := ?_ }
  · rw [killedLate.tables.byIdentity]
    exact won₁.entry
  · rw [killedLate.spared _ fun member => by have := older _ member; omega]
    exact won₁.alive
  · intro conn asked
    rcases killedLate.only conn asked with asked | ⟨id, member, session, found, same⟩
    · rw [closeAsked_congr won₁.conns] at asked
      exact ((asked₁ conn).mp asked).imp_right .inl
    · have inside := older id member
      rw [won₁.older (by rw [length₁]; exact Nat.lt_succ_of_lt inside)] at found
      obtain ⟨session', found, same'⟩ := killedEarly.conn found
      rw [lost.older inside] at found
      exact .inr (.inr ⟨id, session', former id member, found, same'.trans same⟩)

/-- Both links are turned away: the peer keeps the entry it had. -/
theorem elected_neither
    (excludedFirst : ¬ o.Admits first) (excludedSecond : ¬ o.Admits second) {conn : Nat}
    (serves : (o.installBoth first second pace).Serves first.peer conn) :
    conn ≠ first.conn ∧ conn ≠ second.conn := by
  obtain ⟨early, late, o₁, o₂, killedEarly, rfl, killedLate, _, _, _⟩ :=
    installBoth_cases o first second pace
  have lost := installLink_lost excludedFirst
  have tables₁ := lost.tables.trans killedEarly.tables
  have lost₁ := installLink_lost (mt tables₁.admits.mp excludedSecond)
  obtain ⟨id, session, entry, found, rfl, _⟩ := serves
  rw [killedLate.tables.byIdentity, lost₁.tables.byIdentity, tables₁.byIdentity] at entry
  have inside := meeting.installed id (AList.mem_values_of_lookup entry)
  have length₁ : o₁.heap.length = o.heap.length + 1 := by
    obtain ⟨dead, heap⟩ := lost.heap
    rw [killedEarly.length, heap]
    simp
  obtain ⟨session₂, found, same₂⟩ := killedLate.conn found
  rw [lost₁.older (by rw [length₁]; exact Nat.lt_succ_of_lt inside)] at found
  obtain ⟨session₁, found, same₁⟩ := killedEarly.conn found
  rw [lost.older inside] at found
  have member := mem_of_getElem? found
  rw [← same₂, ← same₁]
  exact ⟨meeting.firstUnused session₁ member, meeting.secondUnused session₁ member⟩

end

end Both

/-- An owner serves a peer over one connection at most. -/
theorem Serves.unique {peer : Bytes} {conn other : Nat} (serves : o.Serves peer conn)
    (again : o.Serves peer other) : conn = other := by
  obtain ⟨id, session, entry, found, rfl, _⟩ := serves
  obtain ⟨id', session', entry', found', rfl, _⟩ := again
  rw [entry] at entry'
  cases entry'
  cases found.symm.trans found'
  rfl

end SessionOwnerState

end BbtInfra.Rpc
