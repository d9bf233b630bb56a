import BbtInfra.Lib.Handoff
import BbtInfra.Net.Accept

/-!
# The ledger of the accept handoff

The reservations of an engine with a handoff are the places of a bounded handoff, and its steps are
events of that handoff or leave it alone. What the books of the handoff say is said of the engine.
-/
namespace BbtInfra.Net

open Lib Ticket List Option

/-- The place behind a reservation. -/
def Ticket.place (ticket : Ticket) : Place :=
  if ticket.committed then .stored
  else
    match ticket.pc with
    | .authorize | .commit => .offering
    | .drop => .leaving
    | .resume _ | .gone => .returned
    | _ => .reserved

/-- A committed reservation is behind the commit. -/
def Ticket.Behind (ticket : Ticket) : Prop :=
  ticket.committed = true →
    ticket.pc = .rearm ∨ ticket.pc = .repost ∨ ticket.pc = .drop ∨ ticket.pc = .gone

/-- A counted reservation that is not committed and not given back. -/
def Ticket.live (ticket : Ticket) : Bool :=
  ticket.counted && !ticket.committed &&
    match ticket.pc with
    | .resume _ | .gone => false
    | _ => true

/-- What a call of `CoWaitAccepted` has got. -/
def TakerPc.connection : TakerPc → Option Nat
  | .resume connection _ => some connection
  | .returned connection => connection
  | _ => none

/-- What a call of `RequestStopAccepting` or `SealService` still has to do. -/
def CloserPc.closer : CloserPc → Closer
  | .pop => { draining := true }
  | .ask connection => { draining := true, held := [connection] }
  | .askAll connections => { held := connections }
  | _ => {}

namespace Accept

/-- The handoff of an engine. -/
def books (s : Accept) : Handoff where
  closed := s.closed
  reserved := s.reserved
  queue := s.handoff
  places := s.tickets.map place
  takers := s.takers.map TakerPc.connection
  closers := s.closers.map CloserPc.closer
  offered := s.registered
  stored := s.commits
  delivered := s.delivered
  removed := s.drained
  asked := s.asked

/-- Every reservation is counted, and a committed one is behind the commit. -/
def Counted (s : Accept) : Prop :=
  ∀ ticket ∈ s.tickets, ticket.counted = true ∧ ticket.Behind

/-- The handoff takes one event, or nothing happens to it. -/
def Follows (capacity : Nat) (s s' : Accept) : Prop :=
  s'.books = s.books ∨ ∃ event, s.books.step capacity event = some s'.books

variable {config : AcceptConfig} {capacity i k : Nat} {s s' : Accept} {ticket : Ticket}
  {pc : TicketPc} {result : AcceptResult} {label : AcceptLabel}

/-- A reservation that is not behind the commit is not committed. -/
theorem Counted.uncommitted (counted : s.Counted) (found : s.tickets[i]? = some ticket)
    (apart : ¬(ticket.pc = .rearm ∨ ticket.pc = .repost ∨ ticket.pc = .drop ∨
      ticket.pc = .gone)) : ticket.committed = false := by
  by_contra committed
  exact apart ((counted ticket (mem_of_getElem? found)).2 (by simpa using committed))

/-- `ResumeAcceptIfFree` changes its flag and the queue of the owner only. -/
theorem resume_turn (s : Accept) (result : AcceptResult) (pc : ResumePc) :
    ∃ resumePending queue, (s.resume result pc).1 = { s with resumePending, queue } := by
  cases pc with
  | look => exact ⟨s.resumePending, s.queue, rfl⟩
  | claim =>
    by_cases pending : s.resumePending = true
    · exact ⟨s.resumePending, s.queue, by simp only [resume]; rw [if_pos pending]⟩
    · exact ⟨true, s.queue, by simp [resume, pending]⟩
  | submit =>
    by_cases accepted : result = .ok ∧ s.sealed' = false
    · exact ⟨s.resumePending, s.queue ++ [true], by simp [resume, accepted]⟩
    · exact ⟨s.resumePending, s.queue, by simp only [resume]; rw [if_neg accepted]⟩
  | retract => exact ⟨false, s.queue, rfl⟩

/-- The place of a ticket. -/
theorem place_of (found : s.tickets[i]? = some ticket) :
    s.books.places[i]? = some ticket.place := by
  simp [books, found]

/-- The books once a ticket goes on. -/
theorem books_setTicket (s : Accept) (i : Nat) (ticket : Ticket) (pc : TicketPc) :
    (s.setTicket i ticket pc).books =
      { s.books with places := s.books.places.set i ({ ticket with pc } : Ticket).place } := by
  simp [books, setTicket]

/-- A ticket that keeps its place keeps the books. -/
theorem books_quiet (pc : TicketPc) (found : s.tickets[i]? = some ticket)
    (same : ({ ticket with pc } : Ticket).place = ticket.place) :
    (s.setTicket i ticket pc).books = s.books := by
  obtain ⟨inside, place⟩ := List.getElem?_eq_some_iff.mp (place_of found)
  rw [books_setTicket, same]
  have kept : s.books.places.set i ticket.place = s.books.places := by
    rw [← place]
    exact List.set_getElem_self inside
  rw [kept]

/-- A ticket without a connection leaves the handoff. -/
theorem follows_leave (found : s.tickets[i]? = some ticket) (before : ticket.place = .reserved)
    (after : ({ ticket with pc } : Ticket).place = .leaving) :
    Follows capacity s (s.setTicket i ticket pc) := by
  right
  refine ⟨.leave i, ?_⟩
  rw [books_setTicket, after]
  simp [Handoff.step, place_of found, before]

/-- A step of the holder of a ticket is an event of the handoff, or none. -/
theorem follows_actTicket (server : config.handoffEnabled = true) (counted : s.Counted)
    (found : s.tickets[i]? = some ticket)
    (stepped : s.actTicket config i ticket result = some s') :
    Follows config.handoffCapacity s s' := by
  obtain ⟨counts, _⟩ := counted ticket (mem_of_getElem? found)
  have early := counted.uncommitted found
  -- Most places are reserved before and after, or the ticket leaves.
  have stays (pc : TicketPc) (same : ({ ticket with pc } : Ticket).place = ticket.place) :
      Follows config.handoffCapacity s (s.setTicket i ticket pc) := .inl (books_quiet pc found same)
  have leaves (before : ticket.place = .reserved) (open' : ticket.committed = false) :
      Follows config.handoffCapacity s (s.setTicket i ticket .drop) :=
    follows_leave found before (by simp [place, open'])
  unfold actTicket at stepped
  split at stepped
  case h_1 at' | h_3 at' =>
    have open' := early (by simp [at'])
    cases stepped
    split
    · exact leaves (by simp [place, at', open']) open'
    · exact stays _ (by simp [place, at', open'])
  case h_2 at' =>
    have open' := early (by simp [at'])
    cases result with
    | ok =>
      cases stepped
      exact stays _ (by simp [place, at', open'])
    | again =>
      cases stepped
      exact stays .again (by simp [place, at', open'])
    | failed =>
      cases stepped
      exact leaves (by simp [place, at', open']) open'
  case h_4 at' =>
    have open' := early (by simp [at'])
    cases stepped
    split
    · exact stays _ (by simp [place, at', open'])
    · exact leaves (by simp [place, at', open']) open'
  case h_5 at' =>
    have open' := early (by simp [at'])
    cases stepped
    apply stays
    split <;> simp [place, at', open']
  case h_6 at' =>
    have open' := early (by simp [at'])
    split at stepped <;> cases stepped
    exact stays _ (by simp [place, at', open'])
  case h_7 at' =>
    have open' := early (by simp [at'])
    cases stepped
    apply stays
    split <;> simp [place, at', open']
  case h_8 at' =>
    have open' := early (by simp [at'])
    split at stepped
    · cases stepped
      refine .inr ⟨.offer i, ?_⟩
      have reserved : ticket.place = .reserved := by simp [place, at', open']
      simp [Handoff.step, books, setTicket, found, reserved]
      simp [place, open']
    · cases stepped
      exact leaves (by simp [place, at', open']) open'
  case h_9 at' =>
    have open' := early (by simp [at'])
    have offering : ticket.place = .offering := by simp [place, at', open']
    split at stepped
    · cases stepped
      refine .inr ⟨.refuse i, ?_⟩
      simp [Handoff.step, books, setTicket, found, offering]
      simp [place, open']
    · cases stepped
      exact stays _ (by simp [place, at', open'])
  case h_10 at' =>
    have open' := early (by simp [at'])
    have offering : ticket.place = .offering := by simp [place, at', open']
    rw [if_pos server] at stepped
    split at stepped
    · cases stepped
      refine .inr ⟨.refuse i, ?_⟩
      simp [Handoff.step, books, setTicket, found, offering]
      simp [place, open']
    · rename_i still
      cases stepped
      refine .inr ⟨.store i, ?_⟩
      simp [Handoff.step, books, setTicket, found, offering, still]
      simp [place]
  case h_11 at' =>
    cases stepped
    cases committed : ticket.committed with
    | true =>
      apply stays
      split <;> simp [place, committed]
    | false =>
      split
      · exact stays _ (by simp [place, at', committed])
      · exact leaves (by simp [place, at', committed]) committed
  case h_12 at' =>
    have dropped : Follows config.handoffCapacity s (s.setTicket i ticket .drop) := by
      cases committed : ticket.committed with
      | true => exact stays _ (by simp [place, committed])
      | false => exact leaves (by simp [place, at', committed]) committed
    split at stepped <;> cases stepped
    · exact dropped
    · exact dropped
  case h_13 at' =>
    cases committed : ticket.committed with
    | true =>
      simp only [counts, committed, Bool.not_true, Bool.true_or, Bool.or_true, if_true] at stepped
      cases stepped
      exact stays _ (by simp [place, committed])
    | false =>
      have leaving : ticket.place = .leaving := by simp [place, at', committed]
      right
      refine ⟨.giveBack i, ?_⟩
      cases closed : s.closed with
      | true =>
        simp only [counts, committed, closed, Bool.not_true, Bool.or_true, if_true] at stepped
        cases stepped
        simp [Handoff.step, books, setTicket, found, leaving, closed]
        simp [place, committed]
      | false =>
        simp only [counts, committed, closed, Bool.not_true, Bool.or_false, Bool.false_eq_true,
          if_false] at stepped
        cases stepped
        simp [Handoff.step, books, setTicket, found, leaving, closed]
        simp [place, committed]
  case h_14 pc at' =>
    have open' := early (by simp [at'])
    obtain ⟨pending, tasks, after⟩ := s.resume_turn result pc
    simp only [after, Option.some.injEq] at stepped
    subst stepped
    cases (s.resume result pc).2 with
    | none => exact stays .gone (by simp [place, at', open'])
    | some next => exact stays (.resume next) (by simp [place, at', open'])
  case h_15 at' =>
    have open' := early (by simp [at'])
    split at stepped <;> cases stepped
    exact leaves (by simp [place, at', open']) open'
  all_goals cases stepped

/-- The takers once a call goes on. -/
theorem books_setTaker (s : Accept) (k : Nat) (pc : TakerPc) :
    (s.setTaker k pc).books = { s.books with takers := s.books.takers.set k pc.connection } := by
  simp [books, setTaker]

/-- A call that has got what it had keeps the books. -/
theorem takers_quiet {taker pc : TakerPc} (found : s.takers[k]? = some taker)
    (same : pc.connection = taker.connection) : (s.setTaker k pc).books = s.books := by
  have kept : s.books.takers.set k pc.connection = s.books.takers := by
    have there : s.books.takers[k]? = some taker.connection := by simp [books, found]
    obtain ⟨inside, place⟩ := List.getElem?_eq_some_iff.mp there
    rw [same, ← place]
    exact List.set_getElem_self inside
  rw [books_setTaker, kept]

/-- A step of a call of `CoWaitAccepted` takes a connection from the handoff, or does nothing to
it. -/
theorem follows_actTaker {taker : TakerPc} (found : s.takers[k]? = some taker)
    (stepped : s.actTaker config k result taker = some s') : Follows capacity s s' := by
  have stays (pc : TakerPc) (same : pc.connection = taker.connection) :
      Follows capacity s (s.setTaker k pc) := .inl (takers_quiet found same)
  cases taker with
  | gate | wait =>
    cases stepped
    apply stays
    split <;> rfl
  | pop =>
    simp only [actTaker] at stepped
    split at stepped
    · rename_i closed queue
      cases stepped
      refine .inr ⟨.take k, ?_⟩
      simp [Handoff.step, books, setTaker, found, closed, queue, TakerPc.connection]
    · cases stepped
      apply stays
      split <;> rfl
  | resume connection pc =>
    obtain ⟨pending, tasks, after⟩ := s.resume_turn result pc
    simp only [actTaker, after, Option.some.injEq] at stepped
    subst stepped
    cases (s.resume result pc).2 with
    | none => exact stays (.returned (some connection)) rfl
    | some next => exact stays (.resume connection next) rfl
  | returned connection => cases stepped

/-- The closers once a call goes on. -/
theorem closers_set {call : CloserPc} (pc : CloserPc) (f : Closer → Closer)
    (found : s.closers[k]? = some call) (goes : f call.closer = pc.closer) :
    (s.closers.set k pc).map CloserPc.closer = (s.closers.map CloserPc.closer).modify k f := by
  apply List.ext_getElem?
  intro j
  rw [List.getElem?_map, List.getElem?_modify, List.getElem?_map]
  by_cases same : k = j
  · subst same
    rw [List.getElem?_set_found found, found]
    simp [goes]
  · rw [List.getElem?_set_ne same]
    simp [same]

/-- A step of a call of `RequestStopAccepting` or `SealService` closes the handoff, removes from it,
asks to close, or does nothing to it. -/
theorem follows_actCloser {call : CloserPc} (found : s.closers[k]? = some call)
    (stepped : s.actCloser k call = some s') : Follows capacity s s' := by
  have stays (pc : CloserPc) (same : call.closer = pc.closer) :
      (s.closers.set k pc).map CloserPc.closer = s.closers.map CloserPc.closer := by
    rw [closers_set pc id found same]
    exact modify_id _ _
  cases call with
  | exchange =>
    simp only [actCloser, Option.some.injEq] at stepped
    split at stepped <;> subst stepped
    · exact .inl (by simp [books, setCloser, stays .done rfl])
    · exact .inl (by simp [books, setCloser, stays .stopClose rfl])
  | stopClose =>
    cases stepped
    have goes := closers_set .pop (fun closer => { closer with draining := true }) found rfl
    exact .inr ⟨.close k, by simp [Handoff.step, books, setCloser, found, goes]⟩
  | pop =>
    simp only [actCloser] at stepped
    split at stepped
    · rename_i queue
      cases stepped
      have goes := closers_set .done (fun closer => { closer with draining := false }) found rfl
      exact .inr ⟨.finish k, by simp [Handoff.step, books, setCloser, queue, goes]⟩
    · rename_i connection rest queue
      cases stepped
      have goes := closers_set (.ask connection)
        (fun closer => { closer with held := closer.held ++ [connection] }) found rfl
      refine .inr ⟨.remove k, ?_⟩
      simp [Handoff.step, books, setCloser, queue, found, goes, CloserPc.closer]
  | ask connection =>
    cases stepped
    refine .inr ⟨.ask k, ?_⟩
    simp [Handoff.step, books, setCloser, found, CloserPc.closer]
  | seal' =>
    cases stepped
    exact .inl (by simp [books, setCloser, stays .sealClose rfl])
  | sealClose =>
    cases stepped
    have goes := closers_set (.askAll s.handoff)
        (fun closer => { closer with held := closer.held ++ s.handoff }) found rfl
    exact .inr ⟨.sweep k, by simp [Handoff.step, books, setCloser, found, goes]⟩
  | askAll connections =>
    cases connections with
    | nil =>
      cases stepped
      exact .inl (by simp [books, setCloser, stays .done rfl])
    | cons connection rest =>
      cases stepped
      refine .inr ⟨.ask k, ?_⟩
      simp [Handoff.step, books, setCloser, found, CloserPc.closer]
  | done => cases stepped

section

variable (server : config.handoffEnabled = true)

include server

/-- With a handoff, a reservation is counted, and there is one only while there is room. -/
theorem tryReserve_counted {counted : Bool} (reserves : s.tryReserve config = some counted) :
    counted = true ∧ s.closed = false ∧ s.handoff.length + s.reserved < config.handoffCapacity := by
  unfold tryReserve at reserves
  split at reserves
  · cases reserves
  rw [server] at reserves
  split at reserves
  · rename_i wrong
    cases wrong
  split at reserves
  · cases reserves
  rename_i spare
  refine ⟨(Option.some.inj reserves).symm, by simp_all, ?_⟩
  simpa [full, server] using spare

/-- A step of the owner of the listeners reserves a place, or does nothing to the handoff. -/
theorem follows_actMain
    (stepped : s.actMain config = some s') : Follows config.handoffCapacity s s' := by
  unfold actMain at stepped
  split at stepped
  case h_1 =>
    split at stepped <;> cases stepped
    exact .inl rfl
  case h_4 =>
    split at stepped
    · cases stepped
      exact .inl rfl
    · split at stepped <;> cases stepped <;> exact .inl rfl
  case h_5 =>
    split at stepped
    · cases stepped
      exact .inl rfl
    · rename_i counted reserves
      obtain ⟨rfl, still, room⟩ := tryReserve_counted server reserves
      cases stepped
      refine .inr ⟨.reserve, ?_⟩
      simp [Handoff.step, books, leaveArm, still, room, place]
  case h_6 => cases stepped
  all_goals
    cases stepped
    exact .inl rfl

/-- Every step is an event of the handoff or leaves it alone. -/
theorem follows_step (counted : s.Counted)
    (stepped : s.step config label = some s') : Follows config.handoffCapacity s s' := by
  cases label with
  | main => exact follows_actMain server stepped
  | complete i error =>
    obtain ⟨ticket, found, stepped⟩ := bind_eq_some_iff.mp stepped
    obtain ⟨⟨waiting, _, _⟩, rfl⟩ := guarded_some stepped
    have open' := counted.uncommitted found (by simp [waiting])
    have reserved : ticket.place = .reserved := by simp [place, waiting, open']
    cases error with
    | true =>
      have leaves : Follows config.handoffCapacity s (s.setTicket i ticket .drop) :=
        follows_leave found reserved (by simp [place, open'])
      exact leaves
    | false =>
      have quiet := books_quiet .gate found (by simp [place, waiting, open'])
      exact .inl quiet
  | ticket i result =>
    obtain ⟨ticket, found, acted⟩ := bind_eq_some_iff.mp stepped
    exact follows_actTicket server counted found acted
  | discard i =>
    obtain ⟨ticket, found, stepped⟩ := bind_eq_some_iff.mp stepped
    obtain ⟨⟨_, waits⟩, rfl⟩ := guarded_some stepped
    have open' := counted.uncommitted found (by rcases waits with at' | at' <;> simp [at'])
    apply follows_leave found
    · rcases waits with at' | at' <;> simp [place, at', open']
    · simp [place, open']
  | taker k result =>
    obtain ⟨taker, found, acted⟩ := bind_eq_some_iff.mp stepped
    exact follows_actTaker found acted
  | closer k =>
    obtain ⟨call, found, acted⟩ := bind_eq_some_iff.mp stepped
    exact follows_actCloser found acted
  | take =>
    cases stepped
    exact .inr ⟨.arrive, by simp [Handoff.step, books, TakerPc.connection]⟩
  | requestStop | sealService =>
    cases stepped
    exact .inr ⟨.join, by simp [Handoff.step, books, CloserPc.closer]⟩
  | unbind =>
    cases stepped
    exact .inl rfl
  | clear =>
    obtain ⟨_, rfl⟩ := guarded_some stepped
    exact .inl rfl

end

/-- A ticket that goes on stays counted, and is behind the commit when it is committed. -/
theorem actTicket_ticket (behind : ticket.Behind)
    (stepped : s.actTicket config i ticket result = some s') :
    ∃ new, s'.tickets = s.tickets.set i new ∧ new.counted = ticket.counted ∧ new.Behind := by
  have go (pc : TicketPc) (keeps : ticket.committed = true →
      pc = .rearm ∨ pc = .repost ∨ pc = .drop ∨ pc = .gone) :
      ∃ new, (s.setTicket i ticket pc).tickets = s.tickets.set i new ∧
        new.counted = ticket.counted ∧ new.Behind := ⟨_, rfl, rfl, keeps⟩
  have early (apart : ¬(ticket.pc = .rearm ∨ ticket.pc = .repost ∨ ticket.pc = .drop ∨
      ticket.pc = .gone)) (pc : TicketPc) :
      ∃ new, (s.setTicket i ticket pc).tickets = s.tickets.set i new ∧
        new.counted = ticket.counted ∧ new.Behind :=
    go pc fun committed => absurd (behind committed) apart
  have drop := go .drop fun _ => .inr (.inr (.inl rfl))
  unfold actTicket at stepped
  split at stepped
  case h_1 at' | h_3 at' | h_4 at' | h_5 at' | h_7 at' =>
    cases stepped
    exact early (by simp [at']) _
  case h_2 at' =>
    cases result <;> cases stepped <;> exact early (by simp [at']) _
  case h_6 at' | h_8 at' | h_9 at' | h_15 at' =>
    split at stepped <;> cases stepped <;> exact early (by simp [at']) _
  case h_10 _ =>
    split at stepped
    · split at stepped <;> cases stepped
      · exact drop
      · exact ⟨_, rfl, rfl, fun _ => .inl rfl⟩
    · cases stepped
      exact ⟨_, rfl, rfl, fun _ => .inl rfl⟩
  case h_11 =>
    cases stepped
    split
    · exact go _ fun _ => .inr (.inl rfl)
    · exact drop
  case h_12 =>
    split at stepped <;> cases stepped <;> exact drop
  case h_13 =>
    split at stepped
    · cases stepped
      exact go _ fun _ => .inr (.inr (.inr rfl))
    · rename_i releases
      cases stepped
      refine go _ fun committed => ?_
      simp [committed] at releases
  case h_14 pc at' =>
    obtain ⟨pending, tasks, after⟩ := s.resume_turn result pc
    simp only [after, Option.some.injEq] at stepped
    subst stepped
    exact early (by simp [at']) _
  all_goals cases stepped

/-- The owner of the listeners makes at most one new reservation in a step. -/
theorem actMain_turn (stepped : s.actMain config = some s') :
    s'.handoff = s.handoff ∧
      (s'.tickets = s.tickets ∧ s'.reserved = s.reserved ∨
        ∃ counted listener, s.tryReserve config = some counted ∧
          s'.tickets = s.tickets ++ [({ counted, listener } : Ticket)] ∧
          s'.reserved = s.reserved + if counted then 1 else 0) := by
  unfold actMain at stepped
  split at stepped
  case h_1 =>
    split at stepped <;> cases stepped
    exact ⟨rfl, .inl ⟨rfl, rfl⟩⟩
  case h_4 =>
    split at stepped
    · cases stepped
      exact ⟨rfl, .inl ⟨rfl, rfl⟩⟩
    · split at stepped <;> cases stepped <;> exact ⟨rfl, .inl ⟨rfl, rfl⟩⟩
  case h_5 =>
    split at stepped
    · cases stepped
      exact ⟨rfl, .inl ⟨rfl, rfl⟩⟩
    · rename_i listener _ _ _ counted reserves
      cases stepped
      exact ⟨rfl, .inr ⟨counted, listener, reserves, rfl, rfl⟩⟩
  case h_6 => cases stepped
  all_goals
    cases stepped
    exact ⟨rfl, .inl ⟨rfl, rfl⟩⟩

/-- A call of `CoWaitAccepted` leaves the tickets alone. -/
theorem actTaker_tickets {taker : TakerPc} (stepped : s.actTaker config k result taker = some s') :
    s'.tickets = s.tickets := by
  cases taker with
  | pop =>
    simp only [actTaker] at stepped
    split at stepped <;> cases stepped <;> rfl
  | resume connection pc =>
    obtain ⟨pending, tasks, after⟩ := s.resume_turn result pc
    simp only [actTaker, after, Option.some.injEq] at stepped
    subst stepped
    rfl
  | gate | wait =>
    cases stepped
    rfl
  | returned connection => cases stepped

/-- A call of `RequestStopAccepting` or `SealService` leaves the tickets alone. -/
theorem actCloser_tickets {call : CloserPc} (stepped : s.actCloser k call = some s') :
    s'.tickets = s.tickets := by
  cases call with
  | exchange =>
    simp only [actCloser, Option.some.injEq] at stepped
    split at stepped <;> subst stepped <;> rfl
  | pop =>
    simp only [actCloser] at stepped
    split at stepped <;> cases stepped <;> rfl
  | askAll connections =>
    cases connections <;> cases stepped <;> rfl
  | done => cases stepped
  | _ =>
    cases stepped
    rfl

/-- Every step keeps the reservations counted. -/
theorem Counted.step (server : config.handoffEnabled = true) (counted : s.Counted)
    (stepped : s.step config label = some s') : s'.Counted := by
  have set {i : Nat} {new : Ticket} (sound : new.counted = true ∧ new.Behind) :
      ∀ ticket ∈ s.tickets.set i new, ticket.counted = true ∧ ticket.Behind := by
    intro ticket member
    rcases mem_or_eq_of_mem_set member with old | rfl
    · exact counted ticket old
    · exact sound
  cases label with
  | main =>
    rcases (actMain_turn stepped).2 with ⟨same, _⟩ | ⟨counts, listener, reserves, pushed, _⟩
    · unfold Counted
      rw [same]
      exact counted
    · unfold Counted
      rw [pushed]
      intro ticket member
      rcases mem_append.mp member with old | new
      · exact counted ticket old
      · rw [mem_singleton.mp new]
        exact ⟨(tryReserve_counted server reserves).1, fun wrong => by cases wrong⟩
  | complete i error =>
    obtain ⟨ticket, found, stepped⟩ := bind_eq_some_iff.mp stepped
    obtain ⟨⟨waiting, _, _⟩, rfl⟩ := guarded_some stepped
    have open' := counted.uncommitted found (by simp [waiting])
    obtain ⟨counts, _⟩ := counted ticket (mem_of_getElem? found)
    exact set ⟨counts, by simp [Ticket.Behind, open']⟩
  | ticket i result =>
    obtain ⟨ticket, found, acted⟩ := bind_eq_some_iff.mp stepped
    obtain ⟨counts, behind⟩ := counted ticket (mem_of_getElem? found)
    obtain ⟨new, tickets, same, sound⟩ := actTicket_ticket behind acted
    unfold Counted
    rw [tickets]
    exact set ⟨same.trans counts, sound⟩
  | discard i =>
    obtain ⟨ticket, found, stepped⟩ := bind_eq_some_iff.mp stepped
    obtain ⟨⟨_, _⟩, rfl⟩ := guarded_some stepped
    obtain ⟨counts, _⟩ := counted ticket (mem_of_getElem? found)
    exact set ⟨counts, fun _ => .inr (.inr (.inl rfl))⟩
  | taker k result =>
    obtain ⟨taker, _, acted⟩ := bind_eq_some_iff.mp stepped
    unfold Counted
    rw [actTaker_tickets acted]
    exact counted
  | closer k =>
    obtain ⟨call, _, acted⟩ := bind_eq_some_iff.mp stepped
    unfold Counted
    rw [actCloser_tickets acted]
    exact counted
  | take | requestStop | sealService | unbind =>
    cases stepped
    exact counted
  | clear =>
    obtain ⟨_, rfl⟩ := guarded_some stepped
    exact counted

/-- The books of a reachable engine agree. -/
theorem reachable_balanced (server : config.handoffEnabled = true)
    (reachable : (acceptMachine config).Reachable s) :
    s.Counted ∧ s.books.Balanced config.handoffCapacity := by
  apply reachable.invariant fun s => s.Counted ∧ s.books.Balanced config.handoffCapacity
  · rintro _ rfl
    constructor
    · simp [Counted]
    · constructor <;> simp [books, Handoff.given]
  · rintro s label s' ⟨counted, balanced⟩ stepped
    refine ⟨counted.step server stepped, ?_⟩
    rcases follows_step server counted stepped with same | ⟨event, event'⟩
    · rw [same]
      exact balanced
    · exact balanced.step event'

/-- A reservation that is counted is live when its place holds. -/
theorem place_holds (counted : ticket.counted = true) : ticket.place.holds = ticket.live := by
  unfold place live
  rw [counted]
  cases ticket.committed with
  | true => rfl
  | false => cases ticket.pc <;> rfl

/-- The live reservations are the places that hold. -/
theorem Counted.live (counted : s.Counted) :
    s.books.places.countP Place.holds = s.tickets.countP live := by
  show (s.tickets.map place).countP Place.holds = _
  rw [countP_map]
  apply countP_congr
  intro ticket member
  show ticket.place.holds = true ↔ _
  rw [place_holds (counted ticket member).1]

/-- How many calls of `CoWaitAccepted` have got a connection. -/
def givenTo (s : Accept) (i : Nat) : Nat :=
  s.takers.countP fun taker => decide (taker.connection = some i)

/-- The books count the calls that have got a connection. -/
theorem books_given (s : Accept) (i : Nat) : s.books.given.count i = s.givenTo i := by
  show ((s.takers.map TakerPc.connection).filterMap id).count i = _
  unfold givenTo
  induction s.takers with
  | nil => rfl
  | cons taker rest ih =>
    rw [map_cons, countP_cons, ← ih]
    cases connection : taker.connection with
    | none => simp
    | some other => simp [count_cons]

/-- What becomes of a connection: the handoff decides about it, it is in the handoff, exactly one
call of `CoWaitAccepted` has got it, or it was asked to close or is about to be. -/
def Fate (s : Accept) (i : Nat) : Prop :=
  (∃ ticket, s.tickets[i]? = some ticket ∧ (ticket.pc = .authorize ∨ ticket.pc = .commit)) ∨
    (i ∈ s.handoff ∧ s.givenTo i = 0 ∧ i ∉ s.asked) ∨
    (s.givenTo i = 1 ∧ i ∉ s.handoff ∧ i ∉ s.asked) ∨
    (s.givenTo i = 0 ∧ i ∉ s.handoff ∧
      (i ∈ s.asked ∨ ∃ call ∈ s.closers, i ∈ call.closer.held))

/-- What the books say of a registered connection. -/
theorem fate (balanced : s.books.Balanced capacity) (registered : i ∈ s.registered) :
    s.Fate i := by
  have fates := balanced.fate registered
  rw [books_given] at fates
  rcases fates with offering | handoff | given | asked
  · left
    simp only [books, getElem?_map, map_eq_some_iff] at offering
    obtain ⟨ticket, found, place⟩ := offering
    refine ⟨ticket, found, ?_⟩
    unfold Ticket.place at place
    split at place
    · cases place
    · split at place <;> simp_all
  · exact .inr (.inl handoff)
  · exact .inr (.inr (.inl given))
  · obtain ⟨none', absent, asked | ⟨closer, member, held⟩⟩ := asked
    · exact .inr (.inr (.inr ⟨none', absent, .inl asked⟩))
    · obtain ⟨call, there, rfl⟩ := mem_map.mp member
      exact .inr (.inr (.inr ⟨none', absent, .inr ⟨call, there, held⟩⟩))

/-- Without a handoff nothing is reserved or stored. -/
def Raw (s : Accept) : Prop :=
  s.reserved = 0 ∧ s.handoff = [] ∧ ∀ ticket ∈ s.tickets, ticket.counted = false

section

variable (server : config.handoffEnabled = false)

include server

/-- A step of the holder of an uncounted ticket does nothing to the handoff. -/
theorem Raw.actTicket (raw : s.Raw) (found : s.tickets[i]? = some ticket)
    (stepped : s.actTicket config i ticket result = some s') : s'.Raw := by
  obtain ⟨reserved, handoff, uncounted⟩ := raw
  have counts := uncounted ticket (mem_of_getElem? found)
  have set (new : Ticket) (same : new.counted = false) :
      ∀ ticket ∈ s.tickets.set i new, ticket.counted = false := by
    intro other member
    rcases mem_or_eq_of_mem_set member with old | rfl
    · exact uncounted other old
    · exact same
  unfold Accept.actTicket at stepped
  split at stepped
  case h_14 pc _ =>
    obtain ⟨pending, tasks, after⟩ := s.resume_turn result pc
    simp only [after, Option.some.injEq] at stepped
    subst stepped
    exact ⟨reserved, handoff, set _ counts⟩
  case h_10 =>
    simp only [server, Bool.false_eq_true, if_false, Option.some.injEq] at stepped
    subst stepped
    exact ⟨reserved, handoff, set _ counts⟩
  case h_13 =>
    simp only [counts, Bool.not_false, Bool.true_or, if_true, Option.some.injEq] at stepped
    subst stepped
    exact ⟨reserved, handoff, set _ counts⟩
  case h_2 =>
    cases result <;> cases stepped <;>
      exact ⟨reserved, handoff, set _ counts⟩
  case h_6 | h_8 | h_9 | h_12 | h_15 =>
    split at stepped <;> cases stepped <;>
      exact ⟨reserved, handoff, set _ counts⟩
  case h_16 | h_17 => cases stepped
  all_goals
    cases stepped
    exact ⟨reserved, handoff, set _ counts⟩

/-- Every step without a handoff does nothing to it. -/
theorem Raw.step (raw : s.Raw) (stepped : s.step config label = some s') : s'.Raw := by
  obtain ⟨reserved, handoff, uncounted⟩ := raw
  have set {i : Nat} {new ticket : Ticket} (found : s.tickets[i]? = some ticket)
      (same : new.counted = ticket.counted) :
      ∀ ticket ∈ s.tickets.set i new, ticket.counted = false := by
    intro other member
    rcases mem_or_eq_of_mem_set member with old | rfl
    · exact uncounted other old
    · exact same.trans (uncounted ticket (mem_of_getElem? found))
  cases label with
  | main =>
    obtain ⟨kept, rest⟩ := actMain_turn stepped
    rcases rest with ⟨same, still⟩ | ⟨counted, listener, reserves, pushed, more⟩
    · exact ⟨still.trans reserved, kept.trans handoff, same ▸ uncounted⟩
    · have bare : counted = false := by
        unfold tryReserve at reserves
        simp only [server, Bool.not_false, if_true] at reserves
        split at reserves <;> cases reserves
        rfl
      subst bare
      refine ⟨by simpa [reserved] using more, kept.trans handoff, ?_⟩
      rw [pushed]
      intro ticket member
      rcases mem_append.mp member with old | new
      · exact uncounted ticket old
      · rw [mem_singleton.mp new]
  | complete | discard =>
    obtain ⟨ticket, found, stepped⟩ := bind_eq_some_iff.mp stepped
    obtain ⟨_, rfl⟩ := guarded_some stepped
    exact ⟨reserved, handoff, set found rfl⟩
  | ticket i result =>
    obtain ⟨ticket, found, acted⟩ := bind_eq_some_iff.mp stepped
    exact Raw.actTicket server ⟨reserved, handoff, uncounted⟩ found acted
  | taker k result =>
    obtain ⟨taker, found, acted⟩ := bind_eq_some_iff.mp stepped
    cases taker with
    | pop =>
      simp only [actTaker] at acted
      split at acted
      · rename_i stored
        cases handoff.symm.trans stored
      · cases acted
        exact ⟨reserved, handoff, uncounted⟩
    | resume connection pc =>
      obtain ⟨pending, tasks, after⟩ := s.resume_turn result pc
      simp only [actTaker, after, Option.some.injEq] at acted
      subst acted
      exact ⟨reserved, handoff, uncounted⟩
    | gate | wait =>
      cases acted
      exact ⟨reserved, handoff, uncounted⟩
    | returned connection => cases acted
  | closer k =>
    obtain ⟨call, found, acted⟩ := bind_eq_some_iff.mp stepped
    cases call with
    | exchange =>
      simp only [actCloser, Option.some.injEq] at acted
      split at acted <;> subst acted <;> exact ⟨reserved, handoff, uncounted⟩
    | pop =>
      simp only [actCloser, handoff] at acted
      cases acted
      exact ⟨reserved, handoff, uncounted⟩
    | askAll connections =>
      cases connections <;> cases acted <;> exact ⟨reserved, handoff, uncounted⟩
    | stopClose =>
      cases acted
      exact ⟨rfl, handoff, uncounted⟩
    | sealClose =>
      cases acted
      exact ⟨rfl, rfl, uncounted⟩
    | ask connection | seal' =>
      cases acted
      exact ⟨reserved, handoff, uncounted⟩
    | done => cases acted
  | take | requestStop | sealService | unbind =>
    cases stepped
    exact ⟨reserved, handoff, uncounted⟩
  | clear =>
    obtain ⟨_, rfl⟩ := guarded_some stepped
    exact ⟨reserved, handoff, uncounted⟩

/-- Without a handoff nothing is reserved or stored in a reachable state. -/
theorem reachable_raw (reachable : (acceptMachine config).Reachable s) : s.Raw := by
  apply reachable.invariant
  · rintro _ rfl
    exact ⟨rfl, rfl, fun _ wrong => by cases wrong⟩
  · exact fun _ _ _ raw stepped => raw.step server stepped

end

/-- While the handoff is open its count goes down only for a live reservation that is committed or
released now. -/
theorem step_releases (server : config.handoffEnabled = true) (counted : s.Counted)
    (stepped : s.step config label = some s') (open' : s'.closed = false)
    (less : s'.reserved < s.reserved) :
    ∃ (i : Nat) (ticket ticket' : Ticket), s.tickets[i]? = some ticket ∧ ticket.live = true ∧
      s'.tickets[i]? = some ticket' ∧ ticket'.live = false ∧ s'.reserved + 1 = s.reserved := by
  rcases follows_step server counted stepped with same | ⟨event, event'⟩
  · have reserved : s'.reserved = s.reserved := congrArg Handoff.reserved same
    omega
  · obtain ⟨i, place, new, found, holds, places, gone, down⟩ :=
      Handoff.step_down event' open' less
    have found' : s'.books.places[i]? = some new := by
      rw [places]
      exact List.getElem?_set_found found
    simp only [books, List.getElem?_map, map_eq_some_iff] at found found'
    obtain ⟨ticket, there, rfl⟩ := found
    obtain ⟨ticket', there', rfl⟩ := found'
    have counts := (counted ticket (List.mem_of_getElem? there)).1
    have counts' := (counted.step server stepped ticket' (List.mem_of_getElem? there')).1
    rw [place_holds counts] at holds
    rw [place_holds counts'] at gone
    exact ⟨i, ticket, ticket', there, holds, there', gone, down⟩

/-- The handoff never holds and reserves more than its capacity, and its count is the number of live
reservations until it is closed. Connections are delivered in the order of their commits, each
registered one has exactly one fate, and once the handoff is closed and the closers are done nothing
is left in it. The count goes down only for a reservation that is committed or released, and behind
the close nothing is stored or delivered. -/
theorem handoff_ledger (reachable : (acceptMachine config).Reachable s) :
    s.handoff.length + s.reserved ≤ config.handoffCapacity ∧
    (s.closed = false → s.reserved = s.tickets.countP Ticket.live) ∧
    (config.handoffEnabled = true →
      s.delivered <+: s.commits ∧ s.commits.Nodup ∧ (∀ i ∈ s.registered, s.Fate i) ∧
      (s.closed = true → (∀ call ∈ s.closers, call = .done) → s.handoff = []) ∧
      ∀ label next, s.step config label = some next →
        (next.closed = false → next.reserved < s.reserved →
          ∃ (i : Nat) (ticket ticket' : Ticket), s.tickets[i]? = some ticket ∧ ticket.live = true ∧
            next.tickets[i]? = some ticket' ∧ ticket'.live = false ∧
            next.reserved + 1 = s.reserved) ∧
        (s.closed = true → next.closed = true ∧ next.commits = s.commits ∧
          next.delivered = s.delivered ∧ next.handoff <:+ s.handoff)) := by
  cases server : config.handoffEnabled with
  | false =>
    obtain ⟨reserved, handoff, uncounted⟩ := reachable_raw server reachable
    refine ⟨by simp [reserved, handoff], fun _ => ?_, fun wrong => by cases wrong⟩
    rw [reserved]
    symm
    rw [countP_eq_zero]
    intro ticket member
    simp [live, uncounted ticket member]
  | true =>
    obtain ⟨counted, balanced⟩ := reachable_balanced server reachable
    refine ⟨balanced.room, ?_, fun _ => ⟨?_, balanced.once, fun _ => fate balanced, ?_, ?_⟩⟩
    · intro open'
      rw [← counted.live]
      exact balanced.count open'
    · have log : s.commits = s.delivered ++ s.drained ++ s.handoff := balanced.log
      rw [log, append_assoc]
      exact prefix_append _ _
    · intro closed done
      rcases balanced.emptied closed with empty | ⟨closer, member, draining⟩
      · exact empty
      · obtain ⟨call, there, rfl⟩ := mem_map.mp member
        rw [done call there] at draining
        cases draining
    · intro label next stepped
      refine ⟨step_releases server counted stepped, fun closed => ?_⟩
      rcases follows_step server counted stepped with same | ⟨event, event'⟩
      · have queue : next.handoff = s.handoff := congrArg Handoff.queue same
        exact ⟨(congrArg Handoff.closed same).trans closed, congrArg Handoff.stored same,
          congrArg Handoff.delivered same, queue ▸ suffix_rfl⟩
      · obtain ⟨still, delivered, stored, queue⟩ := Handoff.step_closed event' closed
        exact ⟨still, stored, delivered, queue⟩

/-- One listener and a handoff with one place. -/
def oneListener : AcceptConfig := { listeners := 1, handoffEnabled := true, handoffCapacity := 1 }

/-- The listener is armed, and the wait completes. -/
def intoAccept : List AcceptLabel := [.main, .main, .main, .main, .complete 0 false]

/-- A connection is accepted, committed and taken. -/
theorem handoff_ledger_taken : ∃ s, (acceptMachine oneListener).Reachable s ∧
    s.delivered = [0] ∧ s.delivered <+: s.commits ∧ s.Fate 0 := by
  have begun : (acceptMachine oneListener).start { armed := [false] } := rfl
  obtain ⟨s, reachable, ends⟩ := Machine.exists_reachable
    (intoAccept ++ replicate 10 (.ticket 0 .ok) ++ [.take, .taker 0 .ok, .taker 0 .ok])
    (fun s : Accept => decide (s.delivered = [0] ∧ s.registered = [0])) begun (by decide +kernel)
  obtain ⟨delivered, registered⟩ := of_decide_eq_true ends
  have ledger := (handoff_ledger reachable).2.2 rfl
  exact ⟨s, reachable, delivered, ledger.1, ledger.2.2.1 0 (by simp [registered])⟩

end Accept

end BbtInfra.Net
