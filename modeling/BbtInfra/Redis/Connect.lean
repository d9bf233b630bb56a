import BbtInfra.Lib.Decimal
import BbtInfra.Lib.Machine
import BbtInfra.Result

/-!
# Connecting a Redis client

`Connect` dials, publishes the connection and then runs the handshake on it; a call that finds a
healthy connection published returns at once. A label is one section under the mutex, or one round
trip. The active position (`busy`) holds one operation; everybody else is answered at once.
-/
namespace BbtInfra.Redis

open Lib

/-- `RedisHandshake`. -/
structure RedisHandshake where
  username : Bytes := []
  password : Bytes := []
  database : Int := -1

/-- The commands of `RunHandshake`, in their order. -/
def RedisHandshake.commands (handshake : RedisHandshake) : List (List Bytes) :=
  (if handshake.password = [] then []
    else [text "AUTH" :: ((if handshake.username = [] then [] else [handshake.username]) ++
      [handshake.password])]) ++
    if handshake.database < 0 then [] else [[text "SELECT", decimal handshake.database.toNat]]

/-- What a call returns. -/
inductive Outcome
  | ok
  | error (code : ErrorCode)
  deriving DecidableEq, Repr

/-- A connection to the server, and the commands that the client has read `+OK` to. -/
structure Stream where
  closed : Bool := false
  answered : List (List Bytes) := []
  deriving DecidableEq, Repr

/-- Where the active operation stands. -/
inductive ActivePc
  | dialing
  /-- `RunHandshake` on the published connection, with the commands that are left. -/
  | shaking (stream : Nat) (left : List (List Bytes))
  /-- The handshake has failed, and the connection is not retired yet. -/
  | retiring (code : ErrorCode)
  /-- `Execute`. -/
  | executing
  /-- The result is made; `~Active` has not run. -/
  | leaving (outcome : Outcome)
  deriving DecidableEq, Repr

/-- The published connection is not through its handshake. -/
def ActivePc.unanswered : ActivePc → Bool
  | .shaking _ (_ :: _) | .retiring _ => true
  | _ => false

/-- The active operation. -/
structure Active where
  connects : Bool
  pc : ActivePc
  /-- Since the call began the client, not closed, has held a connection with the whole handshake
  answered. -/
  seen : Bool
  deriving DecidableEq, Repr

/-- A `Connect` that has returned. -/
structure Returned where
  outcome : Outcome
  seen : Bool
  deriving DecidableEq, Repr

/-- `CoRedisCli::State`. -/
structure RedisState where
  connection : Option Nat := none
  reader : Bool := true
  closed : Bool := false
  broken : Bool := false
  /-- `busy`, with the operation that set it. -/
  active : Option Active := none
  streams : List Stream := []
  returned : List Returned := []
  deriving DecidableEq, Repr

/-- One step of a caller, of the server or of the network. -/
inductive RedisLabel
  /-- `Connect` up to the dial; `outside` says that there is no coroutine. -/
  | connect (outside : Bool)
  /-- The dial is over. -/
  | dialed (error : Option ErrorCode) (readerFails : Bool)
  /-- A round trip of the handshake: `+OK`, or an error, with `Fail` or without. -/
  | answered
  | refused (code : ErrorCode) (fails : Bool)
  /-- The handshake is through. -/
  | shaken
  | retire
  /-- `Execute` up to its round trip; `early` is an error in front of the active position. -/
  | execute (early : Option ErrorCode)
  | executed (outcome : Outcome) (fails : Bool)
  /-- `~Active`. -/
  | release
  | close
  /-- A connection is closed, by the server or for a request of the client. -/
  | streamCloses (stream : Nat)
  deriving DecidableEq, Repr

namespace RedisState

variable (s : RedisState)

/-- The stream of the published connection. -/
def published : Option Stream := s.connection.bind (s.streams[·]?)

/-- `!broken && connection.Valid() && !connection.Closed()`. -/
def healthy : Bool := !s.broken && s.published.any fun stream => !stream.closed

/-- The client is not closed and holds a connection with every command answered. -/
def connected (commands : List (List Bytes)) : Bool :=
  !s.closed && s.published.any fun stream => decide (stream.answered = commands)

/-- The stream is retired: `Fail`, and the sections of `Connect` behind a failure. -/
def retired : RedisState := { s with broken := true, connection := none, reader := false }

/-- The active operation goes on. -/
def go (active : Active) (pc : ActivePc) : RedisState :=
  { s with active := some { active with pc } }

/-- The first section of `Connect`. -/
def connect (commands : List (List Bytes)) (outside : Bool) : RedisState :=
  let answer outcome :=
    { s with returned := s.returned ++ [{ outcome, seen := s.connected commands }] }
  if outside then answer (.error .invalidContext)
  else if s.closed then answer (.error .closed)
  else if s.healthy then answer .ok
  else if s.active.isSome then answer (.error .overloaded)
  else
    { s with
      connection := none
      active := some { connects := true, pc := .dialing, seen := s.connected commands } }

/-- The section of `Connect` behind the dial. -/
def dialed (commands : List (List Bytes)) (active : Active) (error : Option ErrorCode)
    (readerFails : Bool) : RedisState :=
  if s.closed then s.go active (.leaving (.error .closed))
  else
    match error with
    | some code => s.go active (.leaving (.error code))
    | none =>
      if !s.reader && readerFails then s.go active (.leaving (.error .internalError))
      else
        { s with
          reader := true, broken := false, connection := some s.streams.length
          streams := s.streams ++ [{}]
          active := some { active with pc := .shaking s.streams.length commands } }

/-- The sections of `Execute` in front of its round trip. -/
def execute (early : Option ErrorCode) : RedisState :=
  if early.isSome || s.closed || s.active.isSome then s
  else if s.broken || s.published.any Stream.closed then { s with broken := true, reader := false }
  else if s.connection.isNone then s
  else { s with active := some { connects := false, pc := .executing, seen := false } }

/-- `~Active`; a `Connect` returns. -/
def release (active : Active) (outcome : Outcome) : RedisState :=
  { s with
    active := none
    reader := s.reader && !(s.closed || s.broken)
    returned := s.returned ++ if active.connects then [{ outcome, seen := active.seen }] else [] }

/-- A step of the active operation. -/
def actStep (commands : List (List Bytes)) (active : Active) : RedisLabel → Option RedisState
  | .dialed error readerFails =>
    if active.pc = .dialing then some (s.dialed commands active error readerFails) else none
  | .answered =>
    match active.pc with
    | .shaking stream (command :: left) =>
      some { s.go active (.shaking stream left) with
        streams := s.streams.modify stream fun old =>
          { old with answered := old.answered ++ [command] } }
    | _ => none
  | .refused code fails =>
    match active.pc with
    | .shaking _ (_ :: _) => some ((if fails then s.retired else s).go active (.retiring code))
    | _ => none
  | .shaken =>
    match active.pc with
    | .shaking _ [] =>
      some (if s.closed then s.retired.go active (.leaving (.error .closed))
        else s.go active (.leaving .ok))
    | _ => none
  | .retire =>
    match active.pc with
    | .retiring code => some (s.retired.go active (.leaving (.error code)))
    | _ => none
  | .executed outcome fails =>
    if active.pc = .executing then
      some ((if fails then s.retired else s).go active (.leaving outcome))
    else none
  | .release =>
    match active.pc with
    | .leaving outcome => some (s.release active outcome)
    | _ => none
  | .connect _ | .execute _ | .close | .streamCloses _ => none

/-- What a step does. -/
def act (commands : List (List Bytes)) : RedisLabel → Option RedisState
  | .connect outside => some (s.connect commands outside)
  | .execute early => some (s.execute early)
  | .close => some { s with closed := true, reader := s.reader && s.active.isSome }
  | .streamCloses stream =>
    some { s with streams := s.streams.modify stream fun old => { old with closed := true } }
  | label => s.active.bind (s.actStep commands · label)

/-- The active operation sees the client. -/
def witness (commands : List (List Bytes)) : RedisState :=
  { s with active := s.active.map fun active =>
      { active with seen := active.seen || s.connected commands } }

/-- One step. -/
def step (commands : List (List Bytes)) (label : RedisLabel) : Option RedisState :=
  (s.act commands label).map (witness · commands)

/-- A `Connect` comes to the published connection while it is healthy and another call's handshake on
it is not answered. -/
def early : RedisLabel → Bool
  | .connect outside =>
    !outside && !s.closed && s.healthy && s.active.any fun active => active.pc.unanswered
  | _ => false

/-- What holds of a client whose calls come in turn; `now` says that the active call sees the whole
handshake answered, and has not noted it yet. -/
structure Truthful (commands : List (List Bytes)) (now : Bool) (s : RedisState) : Prop where
  settled : s.broken = false → (∀ active, s.active = some active → active.pc.unanswered = false) →
    ∀ c, s.connection = some c →
      ∃ stream, s.streams[c]? = some stream ∧ stream.answered = commands
  shaking : ∀ active c left, s.active = some active → active.pc = .shaking c left →
    s.connection = some c ∧ s.broken = false ∧
      ∃ stream, s.streams[c]? = some stream ∧ stream.answered ++ left = commands
  executing : ∀ active, s.active = some active → active.pc = .executing → active.connects = false
  said : ∀ active, s.active = some active → active.connects = true → active.pc = .leaving .ok →
    active.seen = true ∨ now = true
  returned : ∀ ended ∈ s.returned, ended.outcome = .ok → ended.seen = true

variable {commands : List (List Bytes)} {s next : RedisState}

/-- The published stream, answered, on a client that is not closed. -/
theorem connected_of {c : Nat} {stream : Stream} (opened : s.closed = false)
    (connection : s.connection = some c) (found : s.streams[c]? = some stream)
    (answered : stream.answered = commands) : s.connected commands = true := by
  simp [connected, published, opened, connection, found, answered]

/-- Noting what the active call sees. -/
theorem Truthful.witness (truthful : Truthful commands (s.connected commands) s) :
    Truthful commands false (s.witness commands) := by
  have same : ∀ {active}, (s.witness commands).active = some active → ∃ old,
      s.active = some old ∧ active.pc = old.pc ∧ active.connects = old.connects ∧
        active.seen = (old.seen || s.connected commands) := by
    intro active found
    obtain ⟨old, here, rfl⟩ := Option.map_eq_some_iff.mp found
    exact ⟨old, here, rfl, rfl, rfl⟩
  refine ⟨?_, ?_, ?_, ?_, truthful.returned⟩
  · intro unbroken resting
    apply truthful.settled unbroken
    intro active found
    exact resting { active with seen := active.seen || s.connected commands }
      (by rw [RedisState.witness, found, Option.map_some])
  · intro active c left found pc
    obtain ⟨old, here, place, _⟩ := same found
    exact truthful.shaking old c left here (place.symm.trans pc)
  · intro active found pc
    obtain ⟨old, here, place, connects, _⟩ := same found
    exact connects.trans (truthful.executing old here (place.symm.trans pc))
  · intro active found connects pc
    obtain ⟨old, here, place, asked, seen⟩ := same found
    left
    rw [seen, Bool.or_eq_true]
    exact truthful.said old here (asked.symm.trans connects) (place.symm.trans pc)

/-- A published connection that a call may return on at once. -/
theorem Truthful.connected (truthful : Truthful commands false s) (opened : s.closed = false)
    (healthy : s.healthy = true)
    (resting : ∀ active, s.active = some active → active.pc.unanswered = false) :
    s.connected commands = true := by
  simp only [RedisState.healthy, published, Bool.and_eq_true, Bool.not_eq_true'] at healthy
  cases connection : s.connection with
  | none => simp [connection] at healthy
  | some c =>
    obtain ⟨stream, found, answered⟩ := truthful.settled healthy.1 resting c connection
    exact connected_of opened connection found answered

variable {active : Active} {now : Bool}

/-- One operation is active, and stands somewhere. -/
theorem truthful_at (here : next.active = some active)
    (settled : next.broken = false → active.pc.unanswered = false → ∀ c,
      next.connection = some c →
        ∃ stream, next.streams[c]? = some stream ∧ stream.answered = commands)
    (shaking : ∀ c left, active.pc = .shaking c left → next.connection = some c ∧
      next.broken = false ∧
        ∃ stream, next.streams[c]? = some stream ∧ stream.answered ++ left = commands)
    (executing : active.pc = .executing → active.connects = false)
    (said : active.connects = true → active.pc = .leaving .ok → active.seen = true ∨ now = true)
    (returned : ∀ ended ∈ next.returned, ended.outcome = .ok → ended.seen = true) :
    Truthful commands now next := by
  have only : ∀ {other}, next.active = some other → other = active :=
    fun found => Option.some.inj (found.symm.trans here)
  refine ⟨fun unbroken resting => settled unbroken (resting active here), ?_, ?_, ?_, returned⟩
  · intro other c left found
    rw [only found]
    exact shaking c left
  · intro other found
    rw [only found]
    exact executing
  · intro other found
    rw [only found]
    exact said

/-- What the published connection has answered while an operation is active. -/
theorem Truthful.rests (truthful : Truthful commands now s)
    (here : s.active = some active) (resting : active.pc.unanswered = false) :
    s.broken = false → ∀ c, s.connection = some c →
      ∃ stream, s.streams[c]? = some stream ∧ stream.answered = commands := by
  intro unbroken
  apply truthful.settled unbroken
  intro other found
  rw [← Option.some.inj (here.symm.trans found)]
  exact resting

section

variable (truthful : Truthful commands false s)

include truthful

/-- The active operation ends with its result. -/
theorem Truthful.leave {now : Bool} {active : Active}
    (here : s.active = some active) (resting : active.pc.unanswered = false) {outcome : Outcome}
    (said : active.connects = true → outcome = .ok → active.seen = true ∨ now = true) :
    Truthful commands now (s.go active (.leaving outcome)) := by
  refine truthful_at rfl (fun unbroken _ => truthful.rests here resting unbroken) nofun nofun ?_
    truthful.returned
  intro connects same
  exact said connects (by cases same; rfl)

/-- The active operation goes on with the stream retired. -/
theorem Truthful.retire
    {pc : ActivePc} (behind : ∀ c left, pc ≠ .shaking c left) (ends : pc ≠ .executing)
    (said : active.connects = true → pc = .leaving .ok → active.seen = true ∨ now = true) :
    Truthful commands now (s.retired.go active pc) :=
  truthful_at rfl nofun (fun c left place => absurd place (behind c left))
    (fun place => absurd place ends) said truthful.returned

/-- A stream is closed. -/
theorem Truthful.streamCloses (c : Nat) : Truthful commands false { s with
      streams := s.streams.modify c fun old => { old with closed := true } } := by
  have kept : ∀ {d : Nat} {stream : Stream}, s.streams[d]? = some stream → ∃ later,
      (s.streams.modify c fun old => { old with closed := true })[d]? = some later ∧
        later.answered = stream.answered := by
    intro d stream found
    rw [List.getElem?_modify, found]
    by_cases same : c = d
    · exact ⟨{ stream with closed := true }, by simp [same], rfl⟩
    · exact ⟨stream, by simp [same], rfl⟩
  refine ⟨?_, ?_, truthful.executing, truthful.said, truthful.returned⟩
  · intro unbroken resting d connection
    obtain ⟨stream, found, all⟩ := truthful.settled unbroken resting d connection
    obtain ⟨later, found', same⟩ := kept found
    exact ⟨later, found', same.trans all⟩
  · intro active d left here pc
    obtain ⟨connection, unbroken, stream, found, all⟩ := truthful.shaking active d left here pc
    obtain ⟨later, found', same⟩ := kept found
    exact ⟨connection, unbroken, later, found', by rw [same, all]⟩

/-- The first section of `Connect`, unless it comes early. -/
theorem Truthful.connect (outside : Bool) (late : s.early (.connect outside) = false) :
    Truthful commands false (s.connect commands outside) := by
  have answer : ∀ outcome, (outcome = .ok → s.connected commands = true) →
      Truthful commands false
        { s with returned := s.returned ++ [{ outcome, seen := s.connected commands }] } := by
    intro outcome told
    refine ⟨truthful.settled, truthful.shaking, truthful.executing, truthful.said, ?_⟩
    intro ended member
    rcases List.mem_append.mp member with old | new
    · exact truthful.returned ended old
    · rw [List.mem_singleton.mp new]
      exact told
  unfold RedisState.connect
  split_ifs with away shut healthy busy
  · exact answer _ nofun
  · exact answer _ nofun
  · apply answer
    intro _
    apply truthful.connected (Bool.eq_false_iff.mpr shut) healthy
    intro active found
    simpa [early, away, shut, healthy, found] using late
  · exact answer _ nofun
  · exact truthful_at rfl (fun _ _ => nofun) nofun nofun nofun truthful.returned

/-- A connection is published with its whole handshake ahead. -/
theorem Truthful.dialed
    (here : s.active = some active) (pc : active.pc = .dialing) (error : Option ErrorCode)
    (readerFails : Bool) :
    Truthful commands false (s.dialed commands active error readerFails) := by
  have left : ∀ code, Truthful commands false (s.go active (.leaving (.error code))) :=
    fun code => truthful.leave here (by rw [pc]; rfl) nofun
  have last : (s.streams ++ [({} : Stream)])[s.streams.length]? = some {} :=
    List.getElem?_concat_length
  unfold RedisState.dialed
  by_cases shut : s.closed = true
  · rw [if_pos shut]
    exact left _
  rw [if_neg shut]
  cases error with
  | some code => exact left _
  | none =>
    split_ifs
    · exact left _
    · refine truthful_at rfl ?_ ?_ nofun nofun truthful.returned
      · intro _ resting c connection
        cases connection
        refine ⟨{}, last, ?_⟩
        cases commands with
        | nil => rfl
        | cons command rest => cases resting
      · intro c rest place
        cases place
        exact ⟨rfl, rfl, {}, last, rfl⟩

/-- A command of the handshake is answered. -/
theorem Truthful.answered
    (here : s.active = some active) {c : Nat} {command : List Bytes} {left : List (List Bytes)}
    (pc : active.pc = .shaking c (command :: left)) :
    Truthful commands false { s.go active (.shaking c left) with
      streams := s.streams.modify c fun old =>
        { old with answered := old.answered ++ [command] } } := by
  obtain ⟨connection, unbroken, stream, found, all⟩ := truthful.shaking active c _ here pc
  have written : (s.streams.modify c fun old =>
      { old with answered := old.answered ++ [command] })[c]? =
      some { stream with answered := stream.answered ++ [command] } := by
    simp [found]
  refine truthful_at rfl ?_ ?_ nofun nofun truthful.returned
  · intro _ resting d published
    have same : c = d := Option.some.inj (connection.symm.trans published)
    subst same
    refine ⟨_, written, ?_⟩
    cases left with
    | nil => exact all
    | cons next rest => cases resting
  · intro d rest place
    cases place
    exact ⟨connection, unbroken, _, written, by simp [← all]⟩

/-- The active call has nothing to note. -/
theorem Truthful.noted : Truthful commands now s := by
  refine ⟨truthful.1, truthful.2, truthful.3, ?_, truthful.5⟩
  intro active found connects pc
  left
  simpa using truthful.said active found connects pc

/-- A step of the active operation. -/
theorem Truthful.actStep (here : s.active = some active) {label : RedisLabel}
    (stepped : s.actStep commands active label = some next) :
    Truthful commands (next.connected commands) next := by
  cases label with
  | connect | execute | close | streamCloses => cases stepped
  | dialed error readerFails =>
    obtain ⟨pc, rfl⟩ := guarded_some stepped
    exact (truthful.dialed here pc error readerFails).noted
  | answered =>
    simp only [RedisState.actStep] at stepped
    split at stepped <;> cases stepped
    exact (truthful.answered here ‹_›).noted
  | refused code fails =>
    simp only [RedisState.actStep] at stepped
    split at stepped <;> cases stepped
    cases fails with
    | true => exact truthful.retire nofun nofun nofun
    | false => exact truthful_at rfl nofun nofun nofun nofun truthful.returned
  | shaken =>
    simp only [RedisState.actStep] at stepped
    split at stepped <;> cases stepped
    rename_i c pc
    split_ifs with shut
    · exact truthful.retire nofun nofun nofun
    · obtain ⟨connection, _, stream, found, all⟩ := truthful.shaking active c [] here pc
      rw [List.append_nil] at all
      have now : (s.go active (.leaving .ok)).connected commands = true :=
        connected_of (Bool.eq_false_iff.mpr shut) connection found all
      exact truthful.leave here (by rw [pc]; rfl) fun _ _ => .inr now
  | retire =>
    simp only [RedisState.actStep] at stepped
    split at stepped <;> cases stepped
    exact truthful.retire nofun nofun nofun
  | executed outcome fails =>
    obtain ⟨pc, rfl⟩ := guarded_some stepped
    have command : ¬active.connects = true := by
      rw [truthful.executing active here pc]
      decide
    cases fails with
    | true => exact truthful.retire nofun nofun fun connects => absurd connects command
    | false =>
      exact truthful.leave here (by rw [pc]; rfl) fun connects => absurd connects command
  | release =>
    simp only [RedisState.actStep] at stepped
    split at stepped <;> cases stepped
    rename_i outcome pc
    refine ⟨fun unbroken _ => truthful.rests here (by rw [pc]; rfl) unbroken, nofun, nofun, nofun, ?_⟩
    intro ended member told
    rcases List.mem_append.mp member with old | new
    · exact truthful.returned ended old told
    · split_ifs at new with connects
      · rw [List.mem_singleton.mp new] at told ⊢
        have said := truthful.said active here connects (pc.trans (congrArg _ told))
        simpa using said
      · cases new

/-- A step that is not an early `Connect`. -/
theorem Truthful.step {label : RedisLabel}
    (late : s.early label = false) (stepped : s.step commands label = some next) :
    Truthful commands false next := by
  obtain ⟨later, acted, rfl⟩ := Option.map_eq_some_iff.mp stepped
  apply Truthful.witness
  cases label with
  | connect outside =>
    cases acted
    exact (truthful.connect outside late).noted
  | execute early =>
    cases acted
    apply Truthful.noted
    unfold RedisState.execute
    split_ifs with busy broken absent
    · exact truthful
    · exact ⟨nofun, fun active c left here => absurd here (by simp_all), truthful.executing,
        truthful.said, truthful.returned⟩
    · exact truthful
    · refine truthful_at rfl (fun unbroken _ => truthful.settled unbroken ?_) nofun (fun _ => rfl)
        nofun truthful.returned
      intro active here
      exact absurd here (by simp_all)
  | close =>
    cases acted
    exact Truthful.noted ⟨truthful.1, truthful.2, truthful.3, truthful.4, truthful.5⟩
  | streamCloses c =>
    cases acted
    exact (truthful.streamCloses c).noted
  | dialed | answered | refused | shaken | retire | executed | release =>
    obtain ⟨active, here, moved⟩ := Option.bind_eq_some_iff.mp acted
    exact truthful.actStep here moved

end

end RedisState

/-- A client with a handshake, from its creation on. -/
def redisClient (handshake : RedisHandshake) : Machine RedisState RedisLabel where
  start s := s = {}
  step s label := s.step handshake.commands label

/-- In a run in which no `Connect` comes to a connection that is published and not through its
handshake, every `Connect` that returned ok had the client, not closed, hold a connection with every
configured command answered with `+OK`. -/
theorem connect_truthful {handshake : RedisHandshake} {labels : List RedisLabel} {s : RedisState}
    (run : (redisClient handshake).GuardedRun (fun s label => s.early label = false) labels s) :
    ∀ ended ∈ s.returned, ended.outcome = .ok → ended.seen = true := by
  have truthful : RedisState.Truthful handshake.commands false s := by
    apply run.invariant (RedisState.Truthful handshake.commands false)
    · rintro state rfl
      exact ⟨fun _ _ => nofun, nofun, nofun, nofun, nofun⟩
    · intro state label next truthful late stepped
      exact truthful.step late stepped
  exact truthful.returned

/-- A handshake of two commands, a command, and a second `Connect` behind them. -/
theorem connect_truthful_twice : ∃ s,
    (redisClient { password := text "p", database := 0 }).Reachable s ∧
      s.returned = [⟨.ok, true⟩, ⟨.ok, true⟩] := by
  obtain ⟨s, run, tested⟩ := Machine.exists_guardedRun
    [.connect false, .dialed none false, .answered, .answered, .shaken, .release, .execute none,
      .connect false, .executed .ok false, .release]
    (m := redisClient { password := text "p", database := 0 }) (fun s label => !s.early label)
    (fun s => decide (s.returned.map Returned.outcome = [.ok, .ok])) rfl (by decide +kernel)
  have late := run.mono fun s label met => by simpa using met
  have ok := of_decide_eq_true tested
  have seen := connect_truthful late
  refine ⟨s, run.reachable, ?_⟩
  match ended : s.returned with
  | [] => simp [ended] at ok
  | [_] => simp [ended] at ok
  | ⟨_, _⟩ :: ⟨_, _⟩ :: [] =>
    simp only [ended, List.map_cons, List.map_nil, List.cons.injEq, and_true] at ok
    obtain ⟨rfl, rfl⟩ := ok
    simp [ended] at seen
    simp [seen]
  | _ :: _ :: _ :: _ => simp [ended] at ok

/-- A second `Connect` that comes between the dial and the answer to `AUTH` returns ok; then the
server refuses the password. -/
theorem connect_overtakes_handshake : ∃ s,
    (redisClient { password := text "p" }).Reachable s ∧
      s.returned = [⟨.ok, false⟩, ⟨.error .remoteError, false⟩] := by
  obtain ⟨s, reachable, tested⟩ := Machine.exists_reachable
    [.connect false, .dialed none false, .connect false, .refused .remoteError false, .retire,
      .release]
    (m := redisClient { password := text "p" })
    (fun s => decide (s.returned = [⟨.ok, false⟩, ⟨.error .remoteError, false⟩])) rfl
    (by decide +kernel)
  exact ⟨s, reachable, of_decide_eq_true tested⟩

end BbtInfra.Redis
