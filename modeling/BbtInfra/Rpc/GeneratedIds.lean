import Std.Data.String.ToNat
import BbtInfra.Lib.Census
import BbtInfra.Lib.Machine
import BbtInfra.Rpc.Owner

/-!
# Generated request ids

`CallImpl` of any number of calls with an empty `request_id` on the sessions of one owner. An empty
id is filled in from the counter of the session that the first attempt got, and the second attempt
carries it to the session it gets. `GetSession` may hand out any session. A label is one critical
section or one atomic operation. `generator` and `registrations` record what happened; no step
reads them.
-/
namespace BbtInfra.Rpc

open Lib Option List

/-- What `CallImpl` uses of a `SessionCore`. -/
structure IdSession where
  seqCounter : UInt64 := 1
  dead : Bool := false
  /-- `calls`: the pending calls by their request id. -/
  calls : Table Bytes Nat := ∅

/-- Program counters of `CallImpl`. -/
inductive IdCallPc
  /-- Before `GetSession`. -/
  | asking
  /-- Before the look at `dead`. -/
  | holding (session : Nat)
  /-- Before the request id is filled in. -/
  | naming (session : Nat)
  /-- Before the registration. -/
  | named (session : Nat)
  /-- Before `Enqueue`. -/
  | registered (session : Nat)
  /-- `Enqueue` refused; before the entry is erased. -/
  | refused (session : Nat) (error : Error)
  | waiting (session : Nat)
  /-- Returned, with an error of its own or with the outcome of the pending call. -/
  | returned (error : Option Error)
  /-- Returned `InvalidArgument` with "duplicate request_id on session". -/
  | duplicate
  deriving DecidableEq

/-- A call in `CallImpl`. -/
structure IdCall where
  requestId : Bytes := []
  attempt : Nat := 0
  pc : IdCallPc := .asking
  /-- The session and the number the request id was generated from. -/
  generator : Option (Nat × UInt64) := none
  deriving DecidableEq

/-- A registration: on a session, under an id, by a call. -/
structure Registration where
  session : Nat
  requestId : Bytes
  call : Nat
  deriving DecidableEq

/-- The sessions of an owner and the calls on them. -/
structure CallIds where
  sessions : List IdSession := []
  calls : List IdCall := []
  registrations : List Registration := []

/-- One step of a party. -/
inductive CallIdsLabel
  /-- A call with an empty request id has passed its gates. -/
  | start
  /-- A session comes up. -/
  | dial
  /-- `GetSession` hands out a session, or fails. -/
  | getSession (call : Nat) (session : Except Error Nat)
  /-- The look at `dead`. -/
  | look (call : Nat)
  /-- The request id is filled in when it is empty. -/
  | name (call : Nat)
  /-- The budget, the frame or its encoding fails. -/
  | encodeFails (call : Nat) (error : Error)
  /-- The registration under `pending_mu`. -/
  | register (call : Nat)
  /-- `Enqueue`, with its error when it refuses. -/
  | enqueue (call : Nat) (refusal : Option Error)
  /-- A refused call erases its entry. -/
  | retract (call : Nat)
  /-- The wait completed. -/
  | complete (call : Nat)
  /-- The wait ended without a notification: the entry is erased. -/
  | expire (call : Nat) (error : Error)
  /-- A reply, a failed write or `Kill` takes a pending call out. -/
  | remove (session : Nat) (requestId : Bytes)
  /-- The session is fenced. -/
  | kill (session : Nat)
  /-- A one-way message takes a number for its own id. -/
  | sendNumber (session : Nat)

/-- The request id made of a number. -/
def generatedId (number : UInt64) : Bytes := text ("r" ++ number.toNat.repr)

namespace CallIds

/-- Rewrite one call. -/
def modifyCall (s : CallIds) (i : Nat) (f : IdCall → IdCall) : CallIds :=
  { s with calls := s.calls.modify i f }

/-- A call moves on. -/
def goto (s : CallIds) (i : Nat) (pc : IdCallPc) : CallIds :=
  s.modifyCall i fun call => { call with pc }

/-- Rewrite one session. -/
def modifySession (s : CallIds) (session : Nat) (f : IdSession → IdSession) : CallIds :=
  { s with sessions := s.sessions.modify session f }

/-- `continue`: the second attempt, or the end of the loop. -/
def retry (s : CallIds) (i : Nat) : CallIds :=
  s.modifyCall i fun call =>
    { call with
      attempt := call.attempt + 1
      pc := if call.attempt = 0 then .asking
        else .returned (some (err .closed "session fenced during dial")) }

/-- `seq_counter.fetch_add(1)`. -/
def countUp (s : CallIds) (session : Nat) : CallIds :=
  s.modifySession session fun core => { core with seqCounter := core.seqCounter + 1 }

/-- The request id is filled in when it is empty. -/
def name (s : CallIds) (i session : Nat) (call : IdCall) (core : IdSession) : CallIds :=
  if call.requestId = [] then
    (s.countUp session).modifyCall i fun call =>
      { call with
        requestId := generatedId core.seqCounter
        generator := some (session, core.seqCounter)
        pc := .named session }
  else s.goto i (.named session)

/-- The registration. -/
def register (s : CallIds) (i session : Nat) (call : IdCall) (core : IdSession) : CallIds :=
  if core.dead then s.retry i
  else if (core.calls.lookup call.requestId).isSome then s.goto i .duplicate
  else
    { (s.modifySession session fun core =>
        { core with calls := core.calls.insert call.requestId i }).goto i (.registered session) with
      registrations := s.registrations ++ [⟨session, call.requestId, i⟩] }

/-- `session->calls.erase`. -/
def erase (s : CallIds) (session : Nat) (requestId : Bytes) : CallIds :=
  s.modifySession session fun core => { core with calls := core.calls.erase requestId }

/-- The end of a refused call: another attempt when the session was fenced. -/
def retract (s : CallIds) (i session : Nat) (call : IdCall) (core : IdSession) (error : Error) :
    CallIds :=
  if error.code = .closed ∧ core.dead then (s.erase session call.requestId).retry i
  else (s.erase session call.requestId).goto i (.returned (some error))

/-- The steps of a call on the session it holds. -/
def stepOn (s : CallIds) (i : Nat) (call : IdCall) (core : IdSession) :
    CallIdsLabel → IdCallPc → Option CallIds
  | .look _, .holding session => some (if core.dead then s.retry i else s.goto i (.naming session))
  | .name _, .naming session => some (s.name i session call core)
  | .encodeFails _ error, .named _ => some (s.goto i (.returned (some error)))
  | .register _, .named session => some (s.register i session call core)
  | .enqueue _ none, .registered session => some (s.goto i (.waiting session))
  | .enqueue _ (some error), .registered session => some (s.goto i (.refused session error))
  | .retract _, .refused session error => some (s.retract i session call core error)
  | .complete _, .waiting _ =>
    if core.calls.lookup call.requestId = some i then none else some (s.goto i (.returned none))
  | .expire _ error, .waiting session =>
    some ((s.erase session call.requestId).goto i (.returned (some error)))
  | _, _ => none

/-- The session a call holds. -/
def heldBy : IdCallPc → Option Nat
  | .asking | .returned _ | .duplicate => none
  | .holding session | .naming session | .named session | .registered session
  | .refused session _ | .waiting session => some session

/-- The call that takes a step. -/
def caller : CallIdsLabel → Option Nat
  | .start | .dial | .remove _ _ | .kill _ | .sendNumber _ => none
  | .getSession call _ | .look call | .name call | .encodeFails call _ | .register call
  | .enqueue call _ | .retract call | .complete call | .expire call _ => some call

/-- The steps of a call. -/
def stepCall (s : CallIds) (i : Nat) (call : IdCall) (label : CallIdsLabel) : Option CallIds :=
  match label, call.pc with
  | .getSession _ (.error error), .asking => some (s.goto i (.returned (some error)))
  | .getSession _ (.ok session), .asking =>
    if session < s.sessions.length then some (s.goto i (.holding session)) else none
  | label, pc =>
    (heldBy pc).bind fun session => s.sessions[session]?.bind fun core => s.stepOn i call core label pc

/-- One step. -/
def step (s : CallIds) (label : CallIdsLabel) : Option CallIds :=
  match label with
  | .start => some { s with calls := s.calls ++ [{}] }
  | .dial => some { s with sessions := s.sessions ++ [{}] }
  | .remove session requestId => some (s.erase session requestId)
  | .kill session => some (s.modifySession session fun core => { core with dead := true })
  | .sendNumber session => some (s.countUp session)
  | label => (caller label).bind fun i => s.calls[i]?.bind fun call => s.stepCall i call label

/-- An owner without sessions. -/
def machine : Machine CallIds CallIdsLabel where
  start s := s = {}
  step := step

/-- Whether a session can count up without its counter coming round. -/
def countable (s : CallIds) (session : Nat) : Bool :=
  s.sessions[session]?.all fun core => core.seqCounter.toNat + 1 < 2 ^ 64

/-- A call registers only on the session whose counter its request id is from, and no counter comes
round. -/
def ownNumber (s : CallIds) : CallIdsLabel → Bool
  | .register i => s.calls[i]?.all fun call =>
      (heldBy call.pc).all fun session => call.generator.map Prod.fst = some session
  | .name i => s.calls[i]?.all fun call =>
      call.requestId ≠ [] || (heldBy call.pc).all s.countable
  | .sendNumber session => s.countable session
  | _ => true

/-- A call that registered on a session and has not gone on to another one. -/
def Past (session : Nat) : IdCallPc → Prop
  | .registered own | .refused own _ | .waiting own => own = session
  | .returned _ => True
  | .asking | .holding _ | .naming _ | .named _ | .duplicate => False

/-- What the registrations know of a session, a call and an id. -/
def Registered (s : CallIds) (entry : Registration) : Prop :=
  ∃ call core number, s.calls[entry.call]? = some call ∧ s.sessions[entry.session]? = some core ∧
    call.requestId = entry.requestId ∧ call.generator = some (entry.session, number) ∧
    (core.dead = true ∨ Past entry.session call.pc)

/-- Where a generated id comes from. -/
def Made (s : CallIds) (call : IdCall) : Prop :=
  ∀ session number, call.generator = some (session, number) →
    call.requestId = generatedId number ∧
      ∃ core, s.sessions[session]? = some core ∧ number.toNat < core.seqCounter.toNat

/-- Ids are told apart by the counters they are from. -/
structure Apart (s : CallIds) : Prop where
  unnamed : ∀ (i : Nat) (call : IdCall), s.calls[i]? = some call → call.generator = none →
    call.requestId = []
  made : ∀ (i : Nat) (call : IdCall), s.calls[i]? = some call → s.Made call
  only : ∀ (i j : Nat) (first second : IdCall), s.calls[i]? = some first →
    s.calls[j]? = some second → first.generator.isSome = true →
    first.generator = second.generator → i = j
  entries : ∀ entry ∈ s.registrations, s.Registered entry
  pending : ∀ (session : Nat) (core : IdSession) requestId call, s.sessions[session]? = some core →
    core.calls.lookup requestId = some call → ⟨session, requestId, call⟩ ∈ s.registrations
  distinct : s.registrations.Pairwise fun first second =>
    first.session = second.session → first.requestId ≠ second.requestId
  fresh : ∀ (i : Nat) (call : IdCall), s.calls[i]? = some call → call.pc ≠ .duplicate

variable {s next : CallIds} {i session : Nat} {call : IdCall} {core : IdSession}

/-- Two numbers with the same id are the same. -/
theorem generatedId_inj {a b : UInt64} (same : generatedId a = generatedId b) : a = b := by
  have texts := text_inj.mp same
  have numbers : a.toNat.repr = b.toNat.repr := by simpa using texts
  exact UInt64.toNat_inj.mp (Nat.repr_inj.mp numbers)

/-- A call moves on without a new id, and does not leave what it registered on but for the dead. -/
theorem Apart.callMoves (apart : s.Apart) {f : IdCall → IdCall} (found : s.calls[i]? = some call)
    (requestId : (f call).requestId = call.requestId)
    (generator : (f call).generator = call.generator) (pc : (f call).pc ≠ .duplicate)
    (leaves : ∀ session core, s.sessions[session]? = some core → Past session call.pc →
      core.dead = true ∨ Past session (f call).pc) : (s.modifyCall i f).Apart := by
  have old : ∀ (j : Nat) (later : IdCall), (s.modifyCall i f).calls[j]? = some later →
      ∃ before : IdCall, s.calls[j]? = some before ∧ later.requestId = before.requestId ∧
        later.generator = before.generator ∧ later.pc ≠ .duplicate := by
    intro j later present
    obtain ⟨rfl, before, held, rfl⟩ | ⟨-, held⟩ := getElem?_modify_cases present
    · cases found.symm.trans held
      exact ⟨_, found, requestId, generator, pc⟩
    · exact ⟨later, held, rfl, rfl, apart.fresh j later held⟩
  refine ⟨?_, ?_, ?_, ?_, apart.pending, apart.distinct, ?_⟩
  · intro j later present none'
    obtain ⟨before, present, same, gen, -⟩ := old j later present
    rw [same]
    exact apart.unnamed j before present (gen.symm.trans none')
  · intro j later present session number from'
    obtain ⟨before, present, same, gen, -⟩ := old j later present
    rw [same]
    exact apart.made j before present session number (gen.symm.trans from')
  · intro j k first second one two some' same
    obtain ⟨before, one, -, gen, -⟩ := old j first one
    obtain ⟨other, two, -, also, -⟩ := old k second two
    rw [gen] at some' same
    exact apart.only j k before other one two some' (same.trans also)
  · intro entry member
    obtain ⟨owner, core, number, present, at', id', gen, past⟩ := apart.entries entry member
    by_cases own : entry.call = i
    · rw [own, found, Option.some.injEq] at present
      subst present
      refine ⟨f call, core, number, ?_, at', requestId.trans id', generator.trans gen, ?_⟩
      · rw [own]
        simp [modifyCall, found]
      · obtain dead | past := past
        · exact .inl dead
        · exact leaves _ core at' past
    · refine ⟨owner, core, number, ?_, at', id', gen, past⟩
      simp [modifyCall, present, Ne.symm own]
  · intro j later present
    obtain ⟨before, -, -, -, pc⟩ := old j later present
    exact pc

/-- A session only counts up, dies, or loses pending calls. -/
theorem Apart.sessionMoves (apart : s.Apart) {f : IdSession → IdSession}
    (counts : ∀ core, s.sessions[session]? = some core →
      core.seqCounter.toNat ≤ (f core).seqCounter.toNat)
    (dies : ∀ core, core.dead = true → (f core).dead = true)
    (loses : ∀ core requestId call, s.sessions[session]? = some core →
      (f core).calls.lookup requestId = some call → core.calls.lookup requestId = some call) :
    (s.modifySession session f).Apart := by
  have after : ∀ (place : Nat) (core : IdSession), s.sessions[place]? = some core →
      ∃ later : IdSession, (s.modifySession session f).sessions[place]? = some later ∧
        core.seqCounter.toNat ≤ later.seqCounter.toNat ∧ (core.dead = true → later.dead = true) := by
    intro place core found
    by_cases own : session = place
    · subst own
      exact ⟨f core, by simp [modifySession, found], counts core found, dies core⟩
    · exact ⟨core, by simp [modifySession, found, own], Nat.le_refl _, id⟩
  refine ⟨apart.unnamed, ?_, apart.only, ?_, ?_, apart.distinct, apart.fresh⟩
  · intro j call present place number from'
    obtain ⟨requestId, core, found, less⟩ := apart.made j call present place number from'
    obtain ⟨later, found, more, -⟩ := after place core found
    exact ⟨requestId, later, found, Nat.lt_of_lt_of_le less more⟩
  · intro entry member
    obtain ⟨owner, core, number, present, at', id', gen, past⟩ := apart.entries entry member
    obtain ⟨later, at', -, dead⟩ := after entry.session core at'
    exact ⟨owner, later, number, present, at', id', gen, past.imp_left dead⟩
  · intro place core requestId call found held
    obtain ⟨rfl, before, old, rfl⟩ | ⟨-, old⟩ := getElem?_modify_cases found
    · exact apart.pending place before requestId call old (loses before requestId call old held)
    · exact apart.pending place core requestId call old held

/-- A generated id is not empty. -/
theorem generatedId_ne_nil (number : UInt64) : generatedId number ≠ [] := by
  intro empty
  have texts := text_inj.mp (empty.trans (show [] = text "" by decide))
  simp at texts

/-- A counter that does not come round counts up by one. -/
theorem countUp_toNat (seqCounter : UInt64) (room : seqCounter.toNat + 1 < 2 ^ 64) :
    (seqCounter + 1).toNat = seqCounter.toNat + 1 := by
  exact Nat.mod_eq_of_lt room

section

variable (apart : s.Apart)

include apart

/-- A session counts up. -/
theorem Apart.countUp (room : s.countable session = true) : (s.countUp session).Apart := by
  refine apart.sessionMoves ?_ (fun _ dead => dead) (fun _ _ _ _ held => held)
  intro core found
  have below : core.seqCounter.toNat + 1 < 2 ^ 64 := by simpa [countable, found] using room
  have more := countUp_toNat core.seqCounter below
  show core.seqCounter.toNat ≤ (core.seqCounter + 1).toNat
  omega

/-- A session loses the pending call under an id. -/
theorem Apart.erase (session : Nat) (requestId : Bytes) : (s.erase session requestId).Apart := by
  refine apart.sessionMoves (fun _ _ => Nat.le_refl _) (fun _ dead => dead) ?_
  intro core other call _ held
  by_cases same : other = requestId
  · subst same
    simp at held
  · rwa [AList.lookup_erase_ne same] at held

/-- A session is fenced. -/
theorem Apart.kill (session : Nat) :
    (s.modifySession session fun core => { core with dead := true }).Apart :=
  apart.sessionMoves (fun _ _ => Nat.le_refl _) (fun _ _ => rfl) (fun _ _ _ _ held => held)

section

variable (found : s.calls[i]? = some call)

include found

/-- A call that is on no session yet, or stays registered, moves on. -/
theorem Apart.goto {pc : IdCallPc}
    (fresh : pc ≠ .duplicate) (stays : ∀ session, Past session call.pc → Past session pc) :
    (s.goto i pc).Apart :=
  apart.callMoves found rfl rfl fresh fun session _ _ past => .inr (stays session past)

/-- A call goes for another session when the one it registered on is dead. -/
theorem Apart.retry
    (dead : ∀ session core, s.sessions[session]? = some core → Past session call.pc →
      core.dead = true) : (s.retry i).Apart := by
  refine apart.callMoves found rfl rfl ?_ fun session core held past => .inl (dead session core held past)
  split <;> simp

/-- A call takes a number that no call has of this session. -/
theorem Apart.named {number : UInt64}
    (empty : call.requestId = []) (present : s.sessions[session]? = some core)
    (taken : number.toNat < core.seqCounter.toNat)
    (unused : ∀ (j : Nat) (other : IdCall), s.calls[j]? = some other →
      other.generator ≠ some (session, number)) :
    (s.modifyCall i fun call =>
      { call with
        requestId := generatedId number
        generator := some (session, number)
        pc := .named session }).Apart := by
  have ungenerated : call.generator = none := by
    cases generated : call.generator with
    | none => rfl
    | some origin =>
      have made := (apart.made i call found origin.1 origin.2 generated).1
      exact absurd (made.symm.trans empty) (generatedId_ne_nil origin.2)
  refine ⟨?_, ?_, ?_, ?_, apart.pending, apart.distinct, ?_⟩
  · intro j later held none'
    obtain ⟨-, before, -, rfl⟩ | ⟨-, held⟩ := getElem?_modify_cases held
    · cases none'
    · exact apart.unnamed j later held none'
  · intro j later held place count from'
    obtain ⟨-, before, -, rfl⟩ | ⟨-, held⟩ := getElem?_modify_cases held
    · obtain ⟨rfl, rfl⟩ : session = place ∧ number = count := by simpa using from'
      exact ⟨rfl, core, present, taken⟩
    · exact apart.made j later held place count from'
  · intro j k first second one two some' same
    obtain ⟨rfl, before, -, rfl⟩ | ⟨-, one⟩ := getElem?_modify_cases one
    · obtain ⟨rfl, -⟩ | ⟨-, two⟩ := getElem?_modify_cases two
      · rfl
      · exact absurd same.symm (unused k second two)
    · obtain ⟨-, before, -, rfl⟩ | ⟨-, two⟩ := getElem?_modify_cases two
      · exact absurd same (unused j first one)
      · exact apart.only j k first second one two some' same
  · intro entry member
    obtain ⟨owner, place, count, held, at', id', gen, past⟩ := apart.entries entry member
    have other : i ≠ entry.call := by
      rintro rfl
      rw [found, Option.some.injEq] at held
      rw [held, gen] at ungenerated
      cases ungenerated
    exact ⟨owner, place, count, by simp [modifyCall, held, other], at', id', gen, past⟩
  · intro j later held
    obtain ⟨-, before, -, rfl⟩ | ⟨-, held⟩ := getElem?_modify_cases held
    · simp
    · exact apart.fresh j later held

section

variable (present : s.sessions[session]? = some core)

include present

/-- A call in front of the registration fills in its id, or has one. -/
theorem Apart.name (pc : call.pc = .naming session)
    (room : call.requestId = [] → s.countable session = true) :
    (s.name i session call core).Apart := by
  unfold CallIds.name
  split
  · next empty =>
    have below : core.seqCounter.toNat + 1 < 2 ^ 64 := by
      simpa [countable, present] using room empty
    have more := countUp_toNat core.seqCounter below
    have after : (s.countUp session).sessions[session]? =
        some { core with seqCounter := core.seqCounter + 1 } := by
      simp [CallIds.countUp, modifySession, present]
    refine (apart.countUp (room empty)).named found empty after ?_ ?_
    · show core.seqCounter.toNat < (core.seqCounter + 1).toNat
      omega
    · intro j other held generated
      obtain ⟨-, source, at', less⟩ := apart.made j other held session core.seqCounter generated
      cases present.symm.trans at'
      omega
  · exact apart.goto found (by simp) fun place past => by simp [pc, Past] at past

/-- No call has registered under the id of a call in front of the registration on a live session. -/
theorem Apart.unregistered {number : UInt64} (pc : call.pc = .named session)
    (generated : call.generator = some (session, number)) (alive : core.dead = false) :
    ∀ entry ∈ s.registrations, entry.session = session → entry.requestId ≠ call.requestId := by
  rintro entry member rfl same
  obtain ⟨owner, place, count, held, at', id', gen, past⟩ := apart.entries entry member
  have mine := (apart.made i call found _ _ generated).1
  have theirs := (apart.made entry.call owner held _ _ gen).1
  have numbers : count = number := generatedId_inj (by rw [← theirs, ← mine, id', same])
  subst numbers
  have callers : entry.call = i :=
    apart.only entry.call i owner call held found (by simp [gen]) (gen.trans generated.symm)
  rw [callers, found, Option.some.injEq] at held
  rw [present, Option.some.injEq] at at'
  subst held at'
  simp [alive, pc, Past] at past

/-- A call registers under an id that is not on the session. -/
theorem Apart.enters {number : UInt64} (pc : call.pc = .registered session)
    (generated : call.generator = some (session, number))
    (unregistered : ∀ entry ∈ s.registrations, entry.session = session →
      entry.requestId ≠ call.requestId) :
    Apart { s.modifySession session fun core =>
        { core with calls := core.calls.insert call.requestId i } with
      registrations := s.registrations ++ [⟨session, call.requestId, i⟩] } := by
  have after : ∀ (place : Nat) (core : IdSession), s.sessions[place]? = some core →
      ∃ later : IdSession, (s.modifySession session fun core =>
          { core with calls := core.calls.insert call.requestId i }).sessions[place]? = some later ∧
        later.seqCounter = core.seqCounter ∧ later.dead = core.dead := by
    intro place core held
    by_cases own : session = place
    · subst own
      exact ⟨{ core with calls := core.calls.insert call.requestId i },
        by simp [modifySession, held], rfl, rfl⟩
    · exact ⟨core, by simp [modifySession, held, own], rfl, rfl⟩
  refine ⟨apart.unnamed, ?_, apart.only, ?_, ?_, ?_, apart.fresh⟩
  · intro j other held place count from'
    obtain ⟨same, core, at', less⟩ := apart.made j other held place count from'
    obtain ⟨later, at', counter, -⟩ := after place core at'
    exact ⟨same, later, at', by rwa [counter]⟩
  · intro entry member
    obtain member | rfl := by simpa using member
    · obtain ⟨owner, core, count, held, at', id', gen, past⟩ := apart.entries entry member
      obtain ⟨later, at', -, dead⟩ := after entry.session core at'
      exact ⟨owner, later, count, held, at', id', gen, by rwa [dead]⟩
    · obtain ⟨later, at', -, -⟩ := after session core present
      exact ⟨call, later, number, found, at', rfl, generated, .inr (by simp [pc, Past])⟩
  · intro place other requestId owner held looked
    obtain ⟨rfl, before, old, rfl⟩ | ⟨-, old⟩ := getElem?_modify_cases held
    · by_cases same : requestId = call.requestId
      · subst same
        obtain rfl : i = owner := by simpa using looked
        simp
      · rw [AList.lookup_insert_ne same] at looked
        exact mem_append_left _ (apart.pending place before requestId owner old looked)
    · exact mem_append_left _ (apart.pending place other requestId owner old looked)
  · refine pairwise_append.mpr ⟨apart.distinct, pairwise_singleton _ _, ?_⟩
    intro first member second last
    obtain rfl := by simpa using last
    exact unregistered first member

/-- A call comes to the registration on the session its id is from. -/
theorem Apart.register {number : UInt64} (pc : call.pc = .named session)
    (generated : call.generator = some (session, number)) :
    (s.register i session call core).Apart := by
  have before : ∀ place, ¬Past place call.pc := fun place past => by simp [pc, Past] at past
  unfold CallIds.register
  split
  · exact apart.retry found fun place _ _ past => absurd past (before place)
  · next alive =>
    rw [Bool.not_eq_true] at alive
    have unregistered := apart.unregistered found present pc generated alive
    split
    · next taken =>
      obtain ⟨other, held⟩ := isSome_iff_exists.mp taken
      exact absurd rfl (unregistered _ (apart.pending session core _ other present held) rfl)
    · have moved : (s.goto i (.registered session)).Apart :=
        apart.goto found (by simp) fun place past => absurd past (before place)
      have held : (s.goto i (.registered session)).calls[i]? =
          some { call with pc := .registered session } := by
        simp [CallIds.goto, modifyCall, found]
      have entered := moved.enters held present rfl generated unregistered
      exact entered

end

end

end

/-- A call that takes its first number is on a session that can count up. -/
theorem ownNumber_name (found : s.calls[i]? = some call) (held : heldBy call.pc = some session)
    (empty : call.requestId = []) (own : s.ownNumber (.name i) = true) :
    s.countable session = true := by
  rw [ownNumber, found, all_some, held, all_some, empty] at own
  rcases (Bool.or_eq_true _ _).mp own with wrong | room
  · exact absurd rfl (of_decide_eq_true wrong)
  · exact room

/-- A call that registers has its number from the session it holds. -/
theorem ownNumber_register (found : s.calls[i]? = some call)
    (held : heldBy call.pc = some session) (own : s.ownNumber (.register i) = true) :
    call.generator.map Prod.fst = some session := by
  rw [ownNumber, found, all_some, held, all_some] at own
  exact of_decide_eq_true own

section

variable (apart : s.Apart)

include apart

/-- A call steps on the session it holds. -/
theorem Apart.stepOn {label : CallIdsLabel} {pc : IdCallPc}
    (found : s.calls[i]? = some call) (held : heldBy pc = some session)
    (present : s.sessions[session]? = some core) (at' : call.pc = pc)
    (own : s.ownNumber label = true) (takes : caller label = some i)
    (stepped : s.stepOn i call core label pc = some next) : next.Apart := by
  subst at'
  unfold CallIds.stepOn at stepped
  split at stepped
  case h_1 place pc =>
    cases stepped
    split
    · exact apart.retry found fun _ _ _ past => by simp [pc, Past] at past
    · exact apart.goto found (by simp) fun _ past => by simp [pc, Past] at past
  case h_2 place pc =>
    cases stepped
    obtain rfl : place = session := by simpa [pc, heldBy] using held
    obtain rfl : _ = i := by simpa [caller] using takes
    refine apart.name found present pc fun empty => ?_
    exact ownNumber_name found (by rw [pc, heldBy]) empty own
  case h_3 =>
    cases stepped
    exact apart.goto found (by simp) fun _ _ => trivial
  case h_4 place pc =>
    cases stepped
    obtain rfl : place = session := by simpa [pc, heldBy] using held
    obtain rfl : _ = i := by simpa [caller] using takes
    have mine := ownNumber_register found (by rw [pc, heldBy]) own
    obtain ⟨⟨origin, number⟩, generated, same⟩ := map_eq_some_iff.mp mine
    obtain rfl : origin = place := same
    exact apart.register found present pc generated
  case h_5 place pc =>
    cases stepped
    exact apart.goto found (by simp) fun _ past => by simpa [pc, Past] using past
  case h_6 place pc =>
    cases stepped
    exact apart.goto found (by simp) fun _ past => by simpa [pc, Past] using past
  case h_7 place error pc =>
    cases stepped
    obtain rfl : place = session := by simpa [pc, heldBy] using held
    unfold CallIds.retract
    split
    · next fenced =>
      have moved := apart.retry found fun other core' at' past => by
        obtain rfl : place = other := by simpa [pc, Past] using past
        rw [present, Option.some.injEq] at at'
        rw [← at']
        exact fenced.2
      exact moved.erase place call.requestId
    · have moved : (s.goto i (.returned (some error))).Apart :=
        apart.goto found (by simp) fun _ _ => trivial
      exact moved.erase place call.requestId
  case h_8 =>
    split at stepped <;> cases stepped
    exact apart.goto found (by simp) fun _ _ => trivial
  case h_9 error place _ =>
    cases stepped
    have moved : (s.goto i (.returned (some error))).Apart :=
      apart.goto found (by simp) fun _ _ => trivial
    exact moved.erase place call.requestId
  case h_10 => cases stepped

/-- A call steps. -/
theorem Apart.stepCall {label : CallIdsLabel} (found : s.calls[i]? = some call)
    (own : s.ownNumber label = true) (takes : caller label = some i)
    (stepped : s.stepCall i call label = some next) : next.Apart := by
  unfold CallIds.stepCall at stepped
  split at stepped
  case h_1 error _ =>
    cases stepped
    exact apart.goto found (by simp) fun _ _ => trivial
  case h_2 session pc =>
    split at stepped <;> cases stepped
    exact apart.goto found (by simp) fun _ past => by simp [pc, Past] at past
  case h_3 =>
    simp only [bind_eq_some_iff] at stepped
    obtain ⟨session, held, core, present, stepped⟩ := stepped
    exact apart.stepOn found held present rfl own takes stepped

/-- A call begins. -/
theorem Apart.start : Apart { s with calls := s.calls ++ [{}] } := by
  refine ⟨?_, ?_, ?_, ?_, apart.pending, apart.distinct, ?_⟩
  · intro j later held none'
    obtain ⟨-, rfl⟩ | held := getElem?_push_cases held
    · rfl
    · exact apart.unnamed j later held none'
  · intro j later held place count from'
    obtain ⟨-, rfl⟩ | held := getElem?_push_cases held
    · cases from'
    · exact apart.made j later held place count from'
  · intro j k first second one two some' same
    obtain ⟨-, rfl⟩ | one := getElem?_push_cases one
    · cases some'
    · obtain ⟨-, rfl⟩ | two := getElem?_push_cases two
      · rw [same] at some'
        cases some'
      · exact apart.only j k first second one two some' same
  · intro entry member
    obtain ⟨owner, core, number, held, rest⟩ := apart.entries entry member
    exact ⟨owner, core, number, getElem?_push_old held, rest⟩
  · intro j later held
    obtain ⟨-, rfl⟩ | held := getElem?_push_cases held
    · simp
    · exact apart.fresh j later held

/-- A session comes up. -/
theorem Apart.dial : Apart { s with sessions := s.sessions ++ [{}] } := by
  refine ⟨apart.unnamed, ?_, apart.only, ?_, ?_, apart.distinct, apart.fresh⟩
  · intro j call held place count from'
    obtain ⟨same, core, at', less⟩ := apart.made j call held place count from'
    exact ⟨same, core, getElem?_push_old at', less⟩
  · intro entry member
    obtain ⟨owner, core, number, held, at', rest⟩ := apart.entries entry member
    exact ⟨owner, core, number, held, getElem?_push_old at', rest⟩
  · intro place core requestId owner held looked
    obtain ⟨-, rfl⟩ | held := getElem?_push_cases held
    · cases looked
    · exact apart.pending place core requestId owner held looked

/-- One step. -/
theorem Apart.step {label : CallIdsLabel} (own : s.ownNumber label = true)
    (stepped : s.step label = some next) : next.Apart := by
  unfold CallIds.step at stepped
  split at stepped
  case h_1 =>
    cases stepped
    exact apart.start
  case h_2 =>
    cases stepped
    exact apart.dial
  case h_3 session requestId =>
    cases stepped
    exact apart.erase session requestId
  case h_4 session =>
    cases stepped
    exact apart.kill session
  case h_5 session =>
    cases stepped
    exact apart.countUp own
  case h_6 =>
    simp only [bind_eq_some_iff] at stepped
    obtain ⟨i, takes, call, found, stepped⟩ := stepped
    exact apart.stepCall found own takes stepped

end

/-- While every call registers on the session its id is from, no call is turned away as a duplicate,
and the calls registered on a session have different ids, each that of its request. -/
theorem generated_ids_apart {labels : List CallIdsLabel}
    (run : machine.GuardedRun (fun s label => s.ownNumber label = true) labels s) :
    (∀ (i : Nat) (call : IdCall), s.calls[i]? = some call → call.pc ≠ .duplicate) ∧
    (s.registrations.Pairwise fun first second =>
      first.session = second.session → first.requestId ≠ second.requestId) ∧
    (∀ entry ∈ s.registrations, ∃ call, s.calls[entry.call]? = some call ∧
      call.requestId = entry.requestId) ∧
    ∀ (session : Nat) (core : IdSession) requestId i, s.sessions[session]? = some core →
      core.calls.lookup requestId = some i → ⟨session, requestId, i⟩ ∈ s.registrations := by
  have apart : s.Apart := by
    refine run.invariant Apart ?_ ?_
    · rintro state rfl
      refine ⟨?_, ?_, ?_, ?_, ?_, .nil, ?_⟩ <;> intros <;> simp_all
    · intro state label next apart own stepped
      exact apart.step own stepped
  refine ⟨apart.fresh, apart.distinct, ?_, apart.pending⟩
  intro entry member
  obtain ⟨call, -, -, held, -, id', -, -⟩ := apart.entries entry member
  exact ⟨call, held, id'⟩

/-- Two calls on one session, and one on another. -/
def threeCalls : List CallIdsLabel :=
  [.dial, .dial, .start, .start, .start, .getSession 0 (.ok 0), .getSession 1 (.ok 0),
    .getSession 2 (.ok 1), .look 0, .look 1, .look 2, .name 1, .name 0, .name 2, .register 0,
    .register 1, .register 2]

/-- Their ids differ on each session. -/
theorem generated_ids_apart_three :
    ∃ s : CallIds, s.registrations = [⟨0, text "r2", 0⟩, ⟨0, text "r1", 1⟩, ⟨1, text "r1", 2⟩] ∧
      ∀ (i : Nat) (call : IdCall), s.calls[i]? = some call → call.pc ≠ .duplicate := by
  obtain ⟨s, run, ended⟩ := Machine.exists_guardedRun (m := machine) threeCalls
    (fun s label => s.ownNumber label)
    (fun s => decide (s.registrations =
      [⟨0, text "r2", 0⟩, ⟨0, text "r1", 1⟩, ⟨1, text "r1", 2⟩])) rfl (by decide +kernel)
  exact ⟨s, of_decide_eq_true ended, (generated_ids_apart run).1⟩

/-- A call whose session is fenced while it holds an id, and a call of the other session. -/
def carriedOver : List CallIdsLabel :=
  [.dial, .dial, .start, .start, .getSession 0 (.ok 0), .getSession 1 (.ok 1), .look 0, .look 1,
    .name 0, .name 1, .register 1, .kill 0, .register 0, .getSession 0 (.ok 1), .look 0, .name 0,
    .register 0]

/-- It carries the id to the other session, where the same id is pending. -/
theorem generated_ids_clash :
    ¬∀ s, machine.Reachable s → ∀ (i : Nat) (call : IdCall), s.calls[i]? = some call →
      call.pc ≠ .duplicate := by
  intro apart
  obtain ⟨s, reachable, ended⟩ := Machine.exists_reachable (m := machine) carriedOver
    (fun s : CallIds => s.calls[0]?.any fun call => call.pc = .duplicate) rfl (by decide +kernel)
  obtain ⟨call, found, pc⟩ := (any_eq_true _ _).mp ended
  exact apart s reachable 0 call found (of_decide_eq_true pc)

end CallIds

end BbtInfra.Rpc
