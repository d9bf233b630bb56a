import BbtInfra.Rpc.TcpExchange

/-!
# Ledger of the TCP transport

Each connection belongs to the call that dialled it. Its place says what was written on it and
what was read from it, and who will still ask it to close: the call, the transport while it is
open, or the `Close` that has sealed it.
-/
namespace BbtInfra.Rpc

open Lib Net CoWrites TcpRpcState List Option

section

variable [CompletionBuffer]

/-- A payload of a legal length. -/
def TcpRpcOptions.Legal (o : TcpRpcOptions) (body : Bytes) : Prop :=
  0 < body.length ∧ body.length ≤ o.maxFrameBytes

/-- The request frame of a call was written completely. -/
structure ExchangeCall.Written (call : ExchangeCall) (link : TcpLink) : Prop where
  sole : link.writes.Sole (tcpFrame call.request)
  completed : link.writes.side.Completed (tcpFrame call.request)

/-- The request was written, and this payload alone was read. -/
structure ExchangeCall.Answered (o : TcpRpcOptions) (call : ExchangeCall) (link : TcpLink)
    (body : Bytes) : Prop where
  written : call.Written link
  legal : o.Legal body
  arrived : call.reading.arrived = tcpFrame body

/-- A call that ends so. -/
structure ExchangeCall.Ends (o : TcpRpcOptions) (call : ExchangeCall) (link : TcpLink)
    (ending : ExchangeEnd) : Prop where
  writes : link.writes.Unwritten ∨ link.writes.Sole (tcpFrame call.request)
  answered : ∀ body, ending = .ok body → call.Answered o link body

variable {call : ExchangeCall} {link : TcpLink}

/-- The facts about a call do not depend on its place. -/
theorem ExchangeCall.Written.goTo (written : call.Written link) (pc : ExchangePc) :
    ExchangeCall.Written { call with pc } link :=
  ⟨written.sole, written.completed⟩

/-- The answer of a call does not depend on its place. -/
theorem ExchangeCall.Answered.goTo {o : TcpRpcOptions}
    {body : Bytes} (answered : call.Answered o link body) (pc : ExchangePc) :
    ExchangeCall.Answered o { call with pc } link body :=
  ⟨answered.written.goTo pc, answered.legal, answered.arrived⟩

/-- The end of a call does not depend on its place. -/
theorem ExchangeCall.Ends.goTo {o : TcpRpcOptions}
    {ending : ExchangeEnd} (ends : call.Ends o link ending) (pc : ExchangePc) :
    ExchangeCall.Ends o { call with pc } link ending :=
  ⟨ends.writes, fun body ok => (ends.answered body ok).goTo pc⟩

/-- What the place of a call says of its connection. -/
def ExchangeCall.Fits (o : TcpRpcOptions) (call : ExchangeCall) (link : TcpLink) :
    ExchangePc → Prop
  | .look | .prepare | .gate | .admit' | .dial => False
  | .publish | .refuse | .write => link.writes.Unwritten
  | .writing => link.writes.Sole (tcpFrame call.request)
  | .read => call.Written link ∧ call.reading.Sound o.maxFrameBytes
  | .trailing body => call.Written link ∧ o.Legal body ∧
      call.reading.arrived = tcpFrame body ++ call.reading.pending
  | .lastGate body | .lastRead body => call.Answered o link body
  | .closing ending => call.Ends o link ending
  | .releasing ending | .returned ending => call.Ends o link ending ∧ link.requested = true

/-- A place of a call without a connection. -/
def ExchangePc.unlinked : ExchangePc → Bool
  | .look | .prepare | .gate | .admit' | .dial => true
  | .closing ending | .releasing ending | .returned ending =>
    match ending with
    | .ok _ => false
    | _ => true
  | _ => false

/-- The call has returned. -/
def ExchangePc.isReturned : ExchangePc → Bool
  | .returned _ => true
  | _ => false

/-- The call will not write. -/
def ExchangePc.quiet : ExchangePc → Bool
  | .publish | .refuse | .closing _ | .releasing _ | .returned _ => true
  | _ => false

/-- The `Close` has sealed the transport. -/
def TcpClosePc.seals : TcpClosePc → Bool
  | .request _ | .returned true => true
  | _ => false

/-- The `Close` will ask this connection to close. -/
def TcpClosePc.Dooms (k : Nat) : TcpClosePc → Prop
  | .request doomed => k ∈ doomed
  | _ => False

end

namespace TcpRpcState

section

variable [CompletionBuffer]

variable {o : TcpRpcOptions} {s next : TcpRpcState} {i k : Nat} {call : ExchangeCall}
  {link : TcpLink}

/-- The transport looks after this connection: it is published, or a `Close` has it. -/
def Doomed (s : TcpRpcState) (k : Nat) : Prop :=
  if s.closed then ∃ pc ∈ s.closers, pc.Dooms k else k ∈ s.connections

/-- The connection is asked to close, or was not written on and never will be, or the transport
looks after it. -/
def Asked (s : TcpRpcState) (k : Nat) (call : ExchangeCall) (link : TcpLink) : Prop :=
  link.requested = true ∨ (call.pc.quiet = true ∧ link.writes.calls = []) ∨ s.Doomed k

/-- The counter, the connections and the calls go together. -/
structure Sound (o : TcpRpcOptions) (s : TcpRpcState) : Prop where
  inflight : s.inflight = s.calls.countP fun call => call.pc.holds
  bounded : s.inflight ≤ o.maxInflight
  unlinked : ∀ (i : Nat) call, s.calls[i]? = some call → call.link = none →
    call.pc.unlinked = true
  linked : ∀ (i k : Nat) call, s.calls[i]? = some call → call.link = some k →
    ∃ link, s.links[k]? = some link ∧ link.owner = i ∧ call.Fits o link call.pc ∧
      s.Asked k call link
  owned : ∀ (k : Nat) link, s.links[k]? = some link →
    ∃ call, s.calls[link.owner]? = some call ∧ call.link = some k
  listed : ∀ k ∈ s.connections, ∃ (i : Nat) (call : ExchangeCall), s.calls[i]? = some call ∧
    call.link = some k ∧ call.pc.isReturned = false
  sealers : s.closers.countP TcpClosePc.seals = if s.closed then 1 else 0

variable {pc : ExchangePc} {ending : ExchangeEnd} {writes : CoWrites} {call' : ExchangeCall}
  {move : ExchangeMove} {c : Nat}

omit [CompletionBuffer] in
/-- The census of calls in flight after one has gone on. -/
theorem counted (found : s.calls[i]? = some call) (call' : ExchangeCall) :
    (s.calls.set i call').countP (fun call => call.pc.holds) +
      (if call.pc.holds then 1 else 0) =
      s.calls.countP (fun call => call.pc.holds) + if call'.pc.holds then 1 else 0 := by
  rw [set_eq_modify]
  exact countP_modify (fun _ => call') (fun call => call.pc.holds) found

omit [CompletionBuffer] in
/-- The census where a call keeps its place in flight, takes one or gives it back. -/
theorem counted_same (found : s.calls[i]? = some call) (same : call'.pc.holds = call.pc.holds) :
    (s.calls.set i call').countP (fun call => call.pc.holds) =
      s.calls.countP fun call => call.pc.holds := by
  have counts := counted found call'
  rw [same] at counts
  omega

section

variable (sound : Sound o s) (found : s.calls[i]? = some call)

include sound found

/-- A call without a connection goes on without one. -/
theorem Sound.aside (none' : call.link = none) (call' : ExchangeCall) (none'' : call'.link = none)
    (unlinked : call'.pc.unlinked = true) {inflight : Nat}
    (counts : inflight = (s.calls.set i call').countP fun call => call.pc.holds)
    (bounded : inflight ≤ o.maxInflight) : Sound o { s.put i call' with inflight } := by
  refine ⟨counts, bounded, ?_, ?_, ?_, ?_, sound.sealers⟩
  · intro j other found' free
    rcases getElem?_set_apart found' with ⟨-, rfl⟩ | ⟨-, old⟩
    · exact unlinked
    · exact sound.unlinked j other old free
  · intro j k other found' has
    rcases getElem?_set_apart found' with ⟨-, rfl⟩ | ⟨-, old⟩
    · rw [none''] at has
      cases has
    · exact sound.linked j k other old has
  · intro k link there
    obtain ⟨other, found', has⟩ := sound.owned k link there
    have away : i ≠ link.owner := by
      rintro rfl
      cases found.symm.trans found'
      rw [none'] at has
      cases has
    exact ⟨other, (getElem?_set_ne away).trans found', has⟩
  · intro k member
    obtain ⟨j, other, found', has, open'⟩ := sound.listed k member
    have away : i ≠ j := by
      rintro rfl
      cases found.symm.trans found'
      rw [none'] at has
      cases has
    exact ⟨j, other, (getElem?_set_ne away).trans found', has, open'⟩

/-- A call without a connection that holds its place goes on and holds it. -/
theorem Sound.waits (none' : call.link = none) (unlinked : pc.unlinked = true)
    (same : pc.holds = call.pc.holds) : Sound o (s.goTo i call pc) := by
  refine sound.aside found none' { call with pc } none' unlinked ?_ sound.bounded
  rw [counted_same found same]
  exact sound.inflight

section

variable (has : call.link = some k) (there : s.links[k]? = some link) (call' : ExchangeCall)

include has there

/-- A call goes on with its connection, which may change. -/
theorem Sound.carry (f : TcpLink → TcpLink) (connections : List Nat) (same : call'.link = some k)
    (owner : (f link).owner = link.owner) (fits : call'.Fits o (f link) call'.pc)
    (holds : call.pc.holds = true) (holds' : call'.pc.holds = true)
    (more : ∀ k' ∈ s.connections, k' ∈ connections)
    (only : ∀ k' ∈ connections, k' ∈ s.connections ∨ k' = k)
    (asked : Asked { s with connections } k call' (f link)) :
    Sound o ({ s with connections, links := s.links.modify k f }.put i call') := by
  obtain ⟨_, there', rfl, -, -⟩ := sound.linked i k call found has
  rw [there] at there'
  cases there'
  have running : call'.pc.isReturned = false := by
    cases pc : call'.pc <;> first | rfl | (rw [pc] at holds'; cases holds')
  have doomed : ∀ k', s.Doomed k' →
      Doomed ({ s with connections, links := s.links.modify k f }.put link.owner call') k' := by
    intro k' doomed
    unfold Doomed at doomed ⊢
    by_cases closed : s.closed = true
    · rw [if_pos closed] at doomed
      exact (if_pos closed).mpr doomed
    · rw [if_neg closed] at doomed
      exact (if_neg closed).mpr (more k' doomed)
  refine ⟨?_, sound.bounded, ?_, ?_, ?_, ?_, sound.sealers⟩
  · exact sound.inflight.trans (counted_same found (holds'.trans holds.symm)).symm
  · intro j other found' free
    rcases getElem?_set_apart found' with ⟨-, rfl⟩ | ⟨-, old⟩
    · rw [same] at free
      cases free
    · exact sound.unlinked j other old free
  · intro j k' other found' has'
    rcases getElem?_set_apart found' with ⟨rfl, rfl⟩ | ⟨away, old⟩
    · rw [same] at has'
      cases has'
      refine ⟨f link, ?_, owner, fits, asked⟩
      show (s.links.modify k f)[k]? = _
      rw [getElem?_modify_eq, there]
      rfl
    · obtain ⟨link', there', mine, fits', asked'⟩ := sound.linked j k' other old has'
      have other' : k ≠ k' := by
        rintro rfl
        rw [there] at there'
        cases there'
        exact away mine.symm
      refine ⟨link', (getElem?_modify_ne _ _ other').trans there', mine, fits', ?_⟩
      exact asked'.imp_right fun rest => rest.imp_right (doomed k')
  · intro k' link' there'
    rcases getElem?_modify_cases there' with ⟨rfl, old, before, rfl⟩ | ⟨away, before⟩
    · rw [there] at before
      cases before
      rw [owner]
      exact ⟨call', getElem?_set_found found, same⟩
    · obtain ⟨other, found', has'⟩ := sound.owned k' link' before
      have apart : link.owner ≠ link'.owner := by
        intro equal
        rw [← equal, found] at found'
        cases found'
        rw [has] at has'
        exact away (Option.some.inj has').symm
      exact ⟨other, (getElem?_set_ne apart).trans found', has'⟩
  · intro k' member
    have mine : ∃ (i : Nat) (other : ExchangeCall),
        (s.calls.set link.owner call')[i]? = some other ∧ other.link = some k ∧
          other.pc.isReturned = false :=
      ⟨link.owner, call', getElem?_set_found found, same, running⟩
    rcases only k' member with old | rfl
    · obtain ⟨j, other, found', has', open'⟩ := sound.listed k' old
      by_cases here : link.owner = j
      · subst here
        cases found.symm.trans found'
        rw [has] at has'
        cases has'
        exact mine
      · exact ⟨j, other, (getElem?_set_ne here).trans found', has', open'⟩
    · exact mine

/-- A call goes on with its connection, and the connection is left alone. -/
theorem Sound.goes (same : call'.link = some k) (fits : call'.Fits o link call'.pc)
    (holds : call.pc.holds = true) (holds' : call'.pc.holds = true)
    (asked : s.Asked k call' link) : Sound o (s.put i call') := by
  have moved := sound.carry found has there call' id s.connections same rfl fits
    holds holds' (fun _ member => member) (fun _ member => .inl member) asked
  rwa [modify_id] at moved

end

end

omit [CompletionBuffer] in
/-- A connection that is asked to close stays so, and a connection that the transport looks after
too, whatever the call does. -/
theorem Asked.loud (asked : s.Asked k call link) (loud : call.pc.quiet = false)
    (call' : ExchangeCall) : s.Asked k call' link := by
  rcases asked with requested | ⟨quiet, -⟩ | doomed
  · exact .inl requested
  · rw [loud] at quiet
    cases quiet
  · exact .inr (.inr doomed)

omit [CompletionBuffer] in
/-- What a quiet call does changes nothing about who asks its connection to close. -/
theorem Asked.quiet (asked : s.Asked k call link)
    (quiet : call'.pc.quiet = true) : s.Asked k call' link := by
  rcases asked with requested | ⟨-, none'⟩ | doomed
  · exact .inl requested
  · exact .inr (.inl ⟨quiet, none'⟩)
  · exact .inr (.inr doomed)

section

variable (sound : Sound o s) (found : s.calls[i]? = some call) (has : call.link = some k)
  (there : s.links[k]? = some link)

include sound found has there

/-- The call ends, with a connection that was not written on or with its one write. -/
theorem Sound.ends (call' : ExchangeCall)
    (same : call'.link = some k) (closing : call'.pc = .closing ending)
    (ends : call'.Ends o link ending) (holds : call.pc.holds = true) : Sound o (s.put i call') := by
  obtain ⟨_, there', -, -, asked⟩ := sound.linked i k call found has
  rw [there] at there'
  cases there'
  refine sound.goes found has there call' same ?_ holds (by rw [closing]; rfl)
    (asked.quiet (by rw [closing]; rfl))
  rw [closing]
  exact ends

/-- A call that fails behind its dial. -/
theorem Sound.fails (failed : ∀ body, ending ≠ .ok body)
    (writes : link.writes.Unwritten ∨ link.writes.Sole (tcpFrame call.request))
    (holds : call.pc.holds = true) : Sound o (s.goTo i call (.closing ending)) :=
  sound.ends found has there { call with pc := .closing ending } has rfl
    ⟨writes, fun body ok => absurd ok (failed body)⟩ holds

end

/-- What a call may have written, by its place. -/
theorem writes_of_fits (fits : call.Fits o link pc) :
    link.writes.Unwritten ∨ link.writes.Sole (tcpFrame call.request) := by
  match pc, fits with
  | .publish, unwritten | .refuse, unwritten | .write, unwritten => exact .inl unwritten
  | .writing, sole => exact .inr sole
  | .read, ⟨written, _⟩ | .trailing _, ⟨written, _⟩ => exact .inr written.sole
  | .lastGate _, answered | .lastRead _, answered => exact .inr answered.written.sole
  | .closing _, ends => exact ends.writes
  | .releasing _, ⟨ends, _⟩ | .returned _, ⟨ends, _⟩ => exact ends.writes

section

variable (sound : Sound o s) (found : s.calls[i]? = some call)

include sound found

/-- The connection of a call. -/
theorem Sound.linked_at (at' : call.pc = pc) (linked : pc.unlinked = false) :
    ∃ k link, call.link = some k ∧ s.links[k]? = some link ∧ link.owner = i ∧
      call.Fits o link pc ∧ s.Asked k call link := by
  cases has : call.link with
  | none =>
    have unlinked := sound.unlinked i call found has
    rw [at', linked] at unlinked
    cases unlinked
  | some k =>
    obtain ⟨link, there, owner, fits, asked⟩ := sound.linked i k call found has
    rw [at'] at fits
    exact ⟨k, link, rfl, there, owner, fits, asked⟩

/-- A call at a place before its dial has no connection. -/
theorem Sound.unlinked_at
    (at' : call.pc = pc) (early : ∀ link, ¬call.Fits o link pc) : call.link = none := by
  cases has : call.link with
  | none => rfl
  | some k =>
    obtain ⟨link, -, -, fits, -⟩ := sound.linked i k call found has
    rw [at'] at fits
    exact absurd fits (early link)

/-- A call gets its connection. -/
theorem Sound.dials (at' : call.pc = .dial) (outboundMax maxOps : Nat) :
    Sound o { s.put i { call with link := some s.links.length, pc := .publish } with
      links := s.links ++ [⟨i, { side := WriteSide.make outboundMax maxOps }⟩] } := by
  have none' := sound.unlinked_at found at' fun link fits => fits
  have holds : call.pc.holds = true := by rw [at']; rfl
  refine ⟨?_, sound.bounded, ?_, ?_, ?_, ?_, sound.sealers⟩
  · exact sound.inflight.trans
      (counted_same found (show ExchangePc.holds .publish = call.pc.holds from holds.symm)).symm
  · intro j other found' free
    rcases getElem?_set_apart found' with ⟨-, rfl⟩ | ⟨-, old⟩
    · cases free
    · exact sound.unlinked j other old free
  · intro j k other found' has
    rcases getElem?_set_apart found' with ⟨rfl, rfl⟩ | ⟨-, old⟩
    · cases has
      exact ⟨_, getElem?_concat_length, rfl, unwritten_make outboundMax maxOps,
        .inr (.inl ⟨rfl, rfl⟩)⟩
    · obtain ⟨link, there, owner, fits, asked⟩ := sound.linked j k other old has
      exact ⟨link, getElem?_push_old there, owner, fits, asked⟩
  · intro k link there
    rcases getElem?_push_cases there with ⟨rfl, rfl⟩ | old
    · exact ⟨_, getElem?_set_found found, rfl⟩
    · obtain ⟨other, found', has⟩ := sound.owned k link old
      have away : i ≠ link.owner := by
        rintro rfl
        cases found.symm.trans found'
        rw [none'] at has
        cases has
      exact ⟨other, (getElem?_set_ne away).trans found', has⟩
  · intro k member
    obtain ⟨j, other, found', has, open'⟩ := sound.listed k member
    have away : i ≠ j := by
      rintro rfl
      cases found.symm.trans found'
      rw [none'] at has
      cases has
    exact ⟨j, other, (getElem?_set_ne away).trans found', has, open'⟩

/-- A call gives its place back and returns. -/
theorem Sound.releases
    (at' : call.pc = .releasing ending) : Sound o { s.goTo i call (.returned ending) with
      inflight := s.inflight - 1
      connections := s.connections.filter fun k => decide (call.link ≠ some k) } := by
  have holds : call.pc.holds = true := by rw [at']; rfl
  have less : (s.calls.set i { call with pc := .returned ending }).countP
      (fun call => call.pc.holds) + 1 = s.calls.countP fun call => call.pc.holds := by
    rw [set_eq_modify]
    exact countP_modify_loss found holds rfl
  have inflight := sound.inflight
  have bounded := sound.bounded
  refine ⟨?_, ?_, ?_, ?_, ?_, ?_, sound.sealers⟩
  · show s.inflight - 1 = (s.calls.set i { call with pc := .returned ending }).countP _
    omega
  · show s.inflight - 1 ≤ _
    omega
  · intro j other found' free
    rcases getElem?_set_apart found' with ⟨-, rfl⟩ | ⟨-, old⟩
    · have unlinked := sound.unlinked i call found free
      rw [at'] at unlinked
      exact unlinked
    · exact sound.unlinked j other old free
  · intro j k other found' has
    rcases getElem?_set_apart found' with ⟨rfl, rfl⟩ | ⟨away, old⟩
    · obtain ⟨link, there, owner, fits, -⟩ := sound.linked _ k call found has
      rw [at'] at fits
      exact ⟨link, there, owner, ⟨fits.1.goTo _, fits.2⟩, .inl fits.2⟩
    · obtain ⟨link, there, owner, fits, asked⟩ := sound.linked j k other old has
      refine ⟨link, there, owner, fits, asked.imp_right fun rest => rest.imp_right fun doomed => ?_⟩
      unfold Doomed at doomed ⊢
      by_cases closed : s.closed = true
      · rw [if_pos closed] at doomed
        exact (if_pos closed).mpr doomed
      · rw [if_neg closed] at doomed
        refine (if_neg closed).mpr (mem_filter.mpr ⟨doomed, ?_⟩)
        simp only [ne_eq, decide_not, Bool.not_eq_true', decide_eq_false_iff_not]
        intro mine
        obtain ⟨link', there', owner', -, -⟩ := sound.linked i k call found mine
        rw [there] at there'
        cases there'
        exact away (owner.symm.trans owner')
  · intro k link there
    obtain ⟨other, found', has⟩ := sound.owned k link there
    by_cases here : i = link.owner
    · subst here
      cases found.symm.trans found'
      exact ⟨_, getElem?_set_found found, has⟩
    · exact ⟨other, (getElem?_set_ne here).trans found', has⟩
  · intro k member
    obtain ⟨member, apart⟩ := mem_filter.mp member
    obtain ⟨j, other, found', has, open'⟩ := sound.listed k member
    have away : i ≠ j := by
      rintro rfl
      cases found.symm.trans found'
      simp [has] at apart
    exact ⟨j, other, (getElem?_set_ne away).trans found', has, open'⟩

end

/-- A settled report is of a complete write. -/
theorem written_of_settled {frame : Bytes} {report : WriteReport}
    (sole : writes.Sole frame) (calls : writes.calls = [⟨frame, .returned report⟩])
    {message : String} (settled : tcpSettleWrite report message = .ok ()) :
    writes.side.Completed frame := by
  unfold tcpSettleWrite at settled
  split_ifs at settled with whole
  unfold WriteReport.settled at whole
  simp only [Bool.and_eq_true, Bool.not_eq_true', decide_eq_true_eq] at whole
  exact sole.whole _ (by rw [calls]; exact mem_singleton_self _) report rfl whole.1.2 whole.2

/-- A call learns what became of its write. -/
theorem Sound.learns (sound : Sound o s) (found : s.calls[i]? = some call)
    (at' : call.pc = .writing) (has : call.link = some k) (there : s.links[k]? = some link)
    (learned : afterWrite link.writes = some pc) :
    Sound o (s.put i { call with reading := {}, pc }) := by
  obtain ⟨_, there', -, fits, asked⟩ := sound.linked i k call found has
  rw [there] at there'
  cases there'
  rw [at'] at fits
  have sole : link.writes.Sole (tcpFrame call.request) := fits
  have holds : call.pc.holds = true := by rw [at']; rfl
  obtain ⟨place, calls⟩ := sole.call
  unfold afterWrite at learned
  rw [calls] at learned
  split at learned
  · next data report same =>
    cases same
    split at learned
    · next settled =>
      cases learned
      have whole := written_of_settled sole calls settled
      exact sound.goes found has there { call with reading := {}, pc := .read } has
        ⟨⟨sole, whole⟩, rfl⟩ holds rfl (asked.loud (by rw [at']; rfl) _)
    · next error _ =>
      cases learned
      exact sound.ends found has there { call with reading := {}, pc := .closing (.error error) }
        has rfl ⟨.inr sole, fun body ok => by cases ok⟩ holds
  · cases learned

/-- A call reads on. -/
theorem Sound.reads (sound : Sound o s) (found : s.calls[i]? = some call) (at' : call.pc = .read)
    {move : FillMove} {reading : FrameRead} {ending : Option FrameEnd}
    (stepped : call.reading.step o.maxFrameBytes move = some (reading, ending)) :
    Sound o (s.put i { call with reading, pc := afterRead reading ending }) := by
  obtain ⟨k, link, has, there, -, ⟨written, read⟩, asked⟩ := sound.linked_at found at' rfl
  have holds : call.pc.holds = true := by rw [at']; rfl
  have loud : call.pc.quiet = false := by rw [at']; rfl
  match ending with
  | none =>
    exact sound.goes found has there { call with reading, pc := .read } has
      ⟨⟨written.sole, written.completed⟩, FrameRead.step_sound read stepped⟩ holds rfl
      (asked.loud loud _)
  | some (.payload body) =>
    obtain ⟨positive, fits, arrived⟩ := FrameRead.step_payload read stepped
    exact sound.goes found has there { call with reading, pc := .trailing body } has
      ⟨⟨written.sole, written.completed⟩, ⟨positive, fits⟩, arrived⟩ holds rfl (asked.loud loud _)
  | some (.ended code) =>
    exact sound.ends found has there { call with reading, pc := afterRead reading (some (.ended code)) }
      has rfl ⟨.inr written.sole, fun body ok => by cases ok⟩ holds
  | some .outOfBounds =>
    exact sound.ends found has there { call with reading, pc := afterRead reading (some .outOfBounds) }
      has rfl ⟨.inr written.sole, fun body ok => by cases ok⟩ holds

/-- A connection that is asked to close. -/
theorem requested_requestClose (writes : link.writes.Unwritten ∨ ∃ data, link.writes.Sole data) :
    link.requestClose.requested = true := by
  have reachable : coWriteMachine.Reachable link.writes := by
    rcases writes with unwritten | ⟨data, sole⟩
    · exact unwritten.reachable
    · exact sole.reachable
  exact WriteSide.requestClose_requested (reachable_side reachable) .success

/-- What was written is the same when the connection is asked to close. -/
theorem Ends.requestClose (ends : call.Ends o link ending) :
    call.Ends o link.requestClose ending := by
  refine ⟨ends.writes.imp (fun unwritten => unwritten.requestClose _)
    (fun sole => sole.requestClose _), fun body ok => ?_⟩
  obtain ⟨⟨sole, completed⟩, legal, arrived⟩ := ends.answered body ok
  refine ⟨⟨sole.requestClose _, ?_⟩, legal, arrived⟩
  have stepped : link.writes.side.step (.requestClose .success) =
      some (link.writes.side.requestClose .success) := rfl
  exact completed.step (reachable_side sole.reachable) stepped

section

variable (sound : Sound o s) (found : s.calls[i]? = some call)

include sound found

/-- A call asks its connection to close and goes on. -/
theorem Sound.asks (has : call.link = some k) (there : s.links[k]? = some link)
    (fits : ExchangeCall.Fits o { call with pc } link.requestClose pc)
    (writes : link.writes.Unwritten ∨ link.writes.Sole (tcpFrame call.request))
    (holds : call.pc.holds = true) (holds' : pc.holds = true) :
    Sound o ((s.requestClose call.link).goTo i call pc) := by
  rw [has]
  refine sound.carry found has there { call with pc } TcpLink.requestClose
    s.connections has rfl fits holds holds' (fun _ member => member)
    (fun _ member => .inl member) (.inl (requested_requestClose ?_))
  exact writes.imp_right fun sole => ⟨_, sole⟩

/-- A call that throws behind its admission. -/
theorem Sound.throws
    (holds : call.pc.holds = true) : Sound o (s.goTo i call (.closing .threw)) := by
  cases has : call.link with
  | none => exact sound.waits found has rfl (by rw [holds]; rfl)
  | some k =>
    obtain ⟨link, there, -, fits, -⟩ := sound.linked i k call found has
    exact sound.fails found has there (by simp) (writes_of_fits fits) holds

/-- A step of `Exchange` keeps the ledger. -/
theorem Sound.act
    (at' : call.pc = pc) (stepped : s.act o i call pc move = some next) : Sound o next := by
  unfold TcpRpcState.act at stepped
  split at stepped
  case h_1 | h_3 =>
    cases stepped
    have none' := sound.unlinked_at found at' fun link fits => fits
    split_ifs
    · exact sound.waits found none' rfl (by rw [at']; rfl)
    · exact sound.waits found none' rfl (by rw [at']; rfl)
  · have none' := sound.unlinked_at found at' fun link fits => fits
    split at stepped
    · cases stepped
      exact sound.waits found none' rfl (by rw [at']; rfl)
    · split at stepped <;> cases stepped <;> exact sound.waits found none' rfl (by rw [at']; rfl)
  · -- a place in flight is taken
    have none' := sound.unlinked_at found at' fun link fits => fits
    split_ifs at stepped with closed full
    · cases stepped
      exact sound.waits found none' rfl (by rw [at']; rfl)
    · cases stepped
      exact sound.waits found none' rfl (by rw [at']; rfl)
    · cases stepped
      have more : (s.calls.set i { call with pc := .dial }).countP (fun call => call.pc.holds) =
          s.calls.countP (fun call => call.pc.holds) + 1 := by
        rw [set_eq_modify]
        exact countP_modify_gain found (by rw [at']; rfl) rfl
      have inflight := sound.inflight
      refine sound.aside found none' { call with pc := .dial } none' rfl ?_ ?_
      · omega
      · omega
  · cases stepped
    have none' := sound.unlinked_at found at' fun link fits => fits
    exact sound.waits found none' rfl (by rw [at']; rfl)
  · cases stepped
    exact sound.dials found at' _ _
  · -- the connection is published, or the transport was closed meanwhile
    obtain ⟨k, link, has, there, -, unwritten, asked⟩ := sound.linked_at found at' rfl
    have holds : call.pc.holds = true := by rw [at']; rfl
    split_ifs at stepped with closed
    · cases stepped
      exact sound.goes found has there { call with pc := .refuse } has unwritten holds rfl
        (asked.quiet rfl)
    · cases stepped
      rw [has]
      have published := sound.carry found has there { call with pc := .write } id
        (s.connections ++ [k]) has rfl unwritten holds rfl
        (fun _ member => mem_append_left _ member)
        (fun k' member => (mem_append.mp member).imp_right mem_singleton.mp)
        (.inr (.inr ((if_neg closed).mpr (mem_append_right _ (mem_singleton_self k)))))
      rwa [modify_id] at published
  · cases stepped
    obtain ⟨k, link, has, there, -, unwritten, -⟩ := sound.linked_at found at' rfl
    have unwritten' : link.writes.Unwritten := unwritten
    refine sound.asks found has there ?_ (.inl unwritten') (by rw [at']; rfl) rfl
    exact ⟨.inl (unwritten'.requestClose _), fun body ok => by cases ok⟩
  · -- `Write` is called
    obtain ⟨k, link, has, there, -, unwritten, asked⟩ := sound.linked_at found at' rfl
    have unwritten' : link.writes.Unwritten := unwritten
    rw [has] at stepped
    cases stepped
    refine sound.carry found has there { call with pc := .writing } _ s.connections
      has rfl (unwritten'.call (tcpFrame call.request)) (by rw [at']; rfl) rfl
      (fun _ member => member) (fun _ member => .inl member) ?_
    rcases asked with requested | ⟨quiet, -⟩ | doomed
    · exact .inl requested
    · rw [at'] at quiet
      cases quiet
    · exact .inr (.inr doomed)
  · obtain ⟨k, link, has, there, -, -, -⟩ := sound.linked_at found at' rfl
    obtain ⟨link', bound, stepped⟩ := bind_eq_some_iff.mp stepped
    rw [has, bind_some, there] at bound
    cases bound
    obtain ⟨pc', learned, rfl⟩ := map_eq_some_iff.mp stepped
    exact sound.learns found at' has there learned
  · obtain ⟨⟨reading, ending⟩, read, rfl⟩ := map_eq_some_iff.mp stepped
    exact sound.reads found at' read
  · -- nothing may be pending behind the payload
    rename_i body
    cases stepped
    obtain ⟨k, link, has, there, -, ⟨written, legal, arrived⟩, asked⟩ :=
      sound.linked_at found at' rfl
    have holds : call.pc.holds = true := by rw [at']; rfl
    split_ifs with clean
    · rw [clean, append_nil] at arrived
      exact sound.goes found has there { call with pc := .lastGate body } has
        ⟨written.goTo _, legal, arrived⟩ holds rfl (asked.loud (by rw [at']; rfl) _)
    · exact sound.fails found has there (by simp [trailingError]) (.inr written.sole) holds
  · rename_i body code
    cases stepped
    obtain ⟨k, link, has, there, -, answered, asked⟩ := sound.linked_at found at' rfl
    have answered' : call.Answered o link body := answered
    have holds : call.pc.holds = true := by rw [at']; rfl
    split_ifs
    · refine sound.ends found has there { call with pc := .closing (.ok body) } has rfl
        ⟨.inr answered'.written.sole, fun body' ok => ?_⟩ holds
      cases ok
      exact answered'.goTo _
    · exact sound.goes found has there { call with pc := .lastRead body } has (answered'.goTo _)
        holds rfl (asked.loud (by rw [at']; rfl) _)
  · rename_i body code
    cases stepped
    obtain ⟨k, link, has, there, -, answered, _⟩ := sound.linked_at found at' rfl
    have answered' : call.Answered o link body := answered
    refine sound.ends found has there { call with pc := .closing (.ok body) } has rfl
      ⟨.inr answered'.written.sole, fun body' ok => ?_⟩ (by rw [at']; rfl)
    cases ok
    exact answered'.goTo _
  · rename_i body bytes
    cases stepped
    obtain ⟨k, link, has, there, -, answered, _⟩ := sound.linked_at found at' rfl
    have answered' : call.Answered o link body := answered
    exact sound.ends found has there
      { call with reading := call.reading.receive bytes, pc := .closing trailingError } has rfl
      ⟨.inr answered'.written.sole, fun body' ok => by cases ok⟩ (by rw [at']; rfl)
  · -- the lease asks its connection to close
    rename_i ending
    cases stepped
    cases has : call.link with
    | none =>
      have unlinked := sound.unlinked i call found has
      rw [at'] at unlinked
      exact sound.waits found has unlinked (by rw [at']; rfl)
    | some k =>
      obtain ⟨link, there, -, fits, -⟩ := sound.linked i k call found has
      rw [at'] at fits
      have ends : call.Ends o link ending := fits
      rw [← has]
      refine sound.asks found has there ⟨(Ends.requestClose ends).goTo _, ?_⟩ ends.writes
        (by rw [at']; rfl) rfl
      exact requested_requestClose (ends.writes.imp_right fun sole => ⟨_, sole⟩)
  · cases stepped
    exact sound.releases found at'
  · split at stepped
    · cases stepped
      have none' := sound.unlinked_at found at' fun link fits => fits
      exact sound.waits found none' rfl (by rw [at']; rfl)
    all_goals first
      | (cases stepped; exact sound.throws found (by rw [at']; rfl))
      | cases stepped
  · cases stepped

end

/-- What is known of a connection stays so while it goes on without its call. -/
structure Onward (link : TcpLink) (writes : CoWrites) : Prop where
  unwritten : link.writes.Unwritten → writes.Unwritten
  sole : ∀ data, link.writes.Sole data → writes.Sole data
  completed : ∀ data, link.writes.Sole data → link.writes.side.Completed data →
    writes.side.Completed data
  requested : link.writes.Unwritten ∨ (∃ data, link.writes.Sole data) →
    link.requested = true → writes.side.closeRequested = true

/-- A step on a connection goes on so. -/
theorem onward {label : CoWriteLabel} (alone : label.alone = true)
    (stepped : link.writes.step label = some writes) : Onward link writes := by
  refine ⟨fun unwritten => unwritten.step alone stepped, fun _ sole => sole.step alone stepped,
    fun _ sole completed => completed_step sole.reachable completed stepped, ?_⟩
  rintro (unwritten | ⟨data, sole⟩) requested
  · exact requested_step unwritten.reachable requested stepped
  · exact requested_step sole.reachable requested stepped

/-- A call stands where it stood while its connection goes on. -/
theorem Onward.fits (onward : Onward link writes)
    (fits : call.Fits o link pc) : call.Fits o { link with writes } pc := by
  have written : call.Written link → call.Written { link with writes } := fun written =>
    ⟨onward.sole _ written.sole, onward.completed _ written.sole written.completed⟩
  have answered : ∀ body, call.Answered o link body →
      call.Answered o { link with writes } body :=
    fun body answered => ⟨written answered.written, answered.legal, answered.arrived⟩
  have ends : ∀ ending, call.Ends o link ending → call.Ends o { link with writes } ending :=
    fun ending ends => ⟨ends.writes.imp onward.unwritten (onward.sole _), fun body ok =>
      answered body (ends.answered body ok)⟩
  have asked : ∀ ending, call.Ends o link ending → link.requested = true →
      ({ link with writes } : TcpLink).requested = true :=
    fun ending ends requested =>
      onward.requested (ends.writes.imp_right fun sole => ⟨_, sole⟩) requested
  match pc, fits with
  | .publish, unwritten | .refuse, unwritten | .write, unwritten => exact onward.unwritten unwritten
  | .writing, sole => exact onward.sole _ sole
  | .read, ⟨written', read⟩ => exact ⟨written written', read⟩
  | .trailing _, ⟨written', rest⟩ => exact ⟨written written', rest⟩
  | .lastGate body, answered' | .lastRead body, answered' => exact answered body answered'
  | .closing ending, ends' => exact ends ending ends'
  | .releasing ending, ⟨ends', requested⟩ | .returned ending, ⟨ends', requested⟩ =>
    exact ⟨ends ending ends', asked ending ends' requested⟩

/-- A connection goes on while its call does not. -/
theorem Sound.drives (sound : Sound o s) (there : s.links[k]? = some link)
    (onward : Onward link writes) (calls : link.writes.calls = [] → writes.calls = []) :
    Sound o (s.setLink k fun link => { link with writes }) := by
  refine ⟨sound.inflight, sound.bounded, sound.unlinked, ?_, ?_, sound.listed, sound.sealers⟩
  · intro j k' call found has
    obtain ⟨link', there', owner, fits, asked⟩ := sound.linked j k' call found has
    by_cases here : k = k'
    · subst here
      rw [there] at there'
      cases there'
      refine ⟨{ link with writes }, ?_, owner, onward.fits fits, ?_⟩
      · show (s.links.modify k _)[k]? = _
        rw [getElem?_modify_eq, there]
        rfl
      · rcases asked with requested | ⟨quiet, none'⟩ | doomed
        · refine .inl (onward.requested ?_ requested)
          exact (writes_of_fits fits).imp_right fun sole => ⟨_, sole⟩
        · exact .inr (.inl ⟨quiet, calls none'⟩)
        · exact .inr (.inr doomed)
    · exact ⟨link', (getElem?_modify_ne _ _ here).trans there', owner, fits, asked⟩
  · intro k' link' there'
    rcases getElem?_modify_cases there' with ⟨rfl, old, before, rfl⟩ | ⟨-, before⟩
    · exact sound.owned _ old before
    · exact sound.owned k' link' before

/-- A `Close` goes on and still has every connection that it does not ask to close now. -/
theorem Sound.closes (sound : Sound o s) {pc pc' : TcpClosePc}
    (found : s.closers[c]? = some pc) (closed : Bool)
    (sealers : (s.closers.set c pc').countP TcpClosePc.seals = if closed then 1 else 0)
    (dooms : ∀ k, s.Doomed k →
      (if closed then pc'.Dooms k ∨ s.closed = true ∧ ¬pc.Dooms k else k ∈ s.connections)) :
    Sound o { s with closed, closers := s.closers.set c pc' } := by
  refine ⟨sound.inflight, sound.bounded, sound.unlinked, ?_, sound.owned, sound.listed, sealers⟩
  intro j k call found' has
  obtain ⟨link, there, owner, fits, asked⟩ := sound.linked j k call found' has
  refine ⟨link, there, owner, fits, asked.imp_right fun rest => rest.imp_right fun doomed => ?_⟩
  have after := dooms k doomed
  unfold Doomed at doomed ⊢
  by_cases now : closed = true
  · rw [if_pos now] at after
    refine (if_pos now).mpr ?_
    rcases after with mine | ⟨before, other⟩
    · exact ⟨pc', List.mem_of_getElem?
        (List.getElem?_set_found found), mine⟩
    · rw [if_pos before] at doomed
      obtain ⟨pc'', member, theirs⟩ := doomed
      obtain ⟨d, found''⟩ := List.mem_iff_getElem?.mp member
      have away : c ≠ d := by
        rintro rfl
        rw [found] at found''
        cases found''
        exact other theirs
      exact ⟨pc'', List.mem_of_getElem? ((List.getElem?_set_ne away).trans found''), theirs⟩
  · rw [if_neg now] at after
    exact (if_neg now).mpr after

omit [CompletionBuffer] in
/-- The census of the sealing `Close` after one has gone on. -/
theorem counted_closers {pc : TcpClosePc} (found : s.closers[c]? = some pc) (pc' : TcpClosePc) :
    (s.closers.set c pc').countP TcpClosePc.seals + (if pc.seals then 1 else 0) =
      s.closers.countP TcpClosePc.seals + if pc'.seals then 1 else 0 := by
  rw [set_eq_modify]
  exact countP_modify (fun _ => pc') TcpClosePc.seals found

/-- A connection is asked to close by a `Close`. -/
theorem Sound.dooms (sound : Sound o s) (k : Nat) :
    Sound o (s.requestClose (some k)) ∧
      ∀ link, (s.requestClose (some k)).links[k]? = some link → link.requested = true := by
  cases there : s.links[k]? with
  | none =>
    have same : s.requestClose (some k) = s := by
      rw [requestClose, setLink, modify_eq_self (getElem?_eq_none_iff.mp there)]
    rw [same]
    refine ⟨sound, fun link found => ?_⟩
    rw [there] at found
    cases found
  | some link =>
    have stepped : link.writes.step (.side (.requestClose .success)) =
        some link.requestClose.writes := rfl
    have now : (s.requestClose (some k)).links[k]? = some link.requestClose := by
      rw [requestClose, setLink, getElem?_modify_eq, there]
      rfl
    have same : s.requestClose (some k) =
        s.setLink k fun other => { other with writes := link.requestClose.writes } := by
      rw [requestClose, setLink, setLink]
      congr 1
      apply ext_getElem?
      intro other
      by_cases here : k = other
      · subst here
        rw [getElem?_modify_eq, getElem?_modify_eq, there]
        rfl
      · rw [getElem?_modify_ne _ _ here, getElem?_modify_ne _ _ here]
    refine ⟨?_, fun link' found => ?_⟩
    · rw [same]
      exact sound.drives there (onward rfl stepped) fun none' => none'
    · rw [now] at found
      cases found
      obtain ⟨call, found', has⟩ := sound.owned k link there
      obtain ⟨_, there', -, fits, -⟩ := sound.linked _ k call found' has
      rw [there] at there'
      cases there'
      exact requested_requestClose ((writes_of_fits fits).imp_right fun sole => ⟨_, sole⟩)

/-- A step of `Close` keeps the ledger. -/
theorem Sound.actClose (sound : Sound o s) {pc : TcpClosePc}
    (found : s.closers[c]? = some pc) (stepped : s.actClose c pc = some next) : Sound o next := by
  have sealers := sound.sealers
  match pc with
  | .seal' =>
    rw [TcpRpcState.actClose] at stepped
    split_ifs at stepped with closed
    · cases stepped
      have counts := counted_closers found (.returned false)
      exact sound.closes found s.closed (counts.trans sealers) fun k _ =>
        (if_pos closed).mpr (.inr ⟨closed, fun wrong => wrong⟩)
    · cases stepped
      have counts := counted_closers found (.request s.connections)
      simp only [TcpClosePc.seals, Bool.false_eq_true, if_false, if_true] at counts
      rw [if_neg closed] at sealers
      refine sound.closes found true ((Nat.add_zero _).symm.trans (by rw [counts, sealers]; rfl)) fun k doomed => ?_
      unfold Doomed at doomed
      rw [if_neg closed] at doomed
      exact .inl doomed
  | .request [] =>
    cases stepped
    have counts := counted_closers found (.returned true)
    simp only [TcpClosePc.seals, if_true, Nat.add_right_cancel_iff] at counts
    refine sound.closes found s.closed (counts.trans sealers) fun k doomed => ?_
    unfold Doomed at doomed
    by_cases closed : s.closed = true
    · exact (if_pos closed).mpr (.inr ⟨closed, fun wrong => by cases wrong⟩)
    · rw [if_neg closed] at doomed
      exact (if_neg closed).mpr doomed
  | .request (k :: doomed) =>
    cases stepped
    obtain ⟨sound', requested⟩ := sound.dooms k
    have counts := counted_closers found (.request doomed)
    simp only [TcpClosePc.seals, if_true, Nat.add_right_cancel_iff] at counts
    refine ⟨sound'.inflight, sound'.bounded, sound'.unlinked, ?_, sound'.owned, sound'.listed,
      counts.trans sealers⟩
    intro j k' call found' has
    obtain ⟨link, there, owner, fits, asked⟩ := sound'.linked j k' call found' has
    refine ⟨link, there, owner, fits, ?_⟩
    by_cases here : k' = k
    · subst here
      exact .inl (requested link there)
    · refine asked.imp_right fun rest => rest.imp_right fun doomed' => ?_
      by_cases closed : s.closed = true
      · have before : ∃ pc ∈ s.closers, pc.Dooms k' := (if_pos closed).mp doomed'
        refine (if_pos closed).mpr ?_
        obtain ⟨pc'', member, theirs⟩ := before
        obtain ⟨d, found''⟩ := List.mem_iff_getElem?.mp member
        by_cases mine : c = d
        · subst mine
          rw [found] at found''
          cases found''
          refine ⟨.request doomed, List.mem_of_getElem?
            (List.getElem?_set_found found), ?_⟩
          exact (List.mem_cons.mp theirs).resolve_left here
        · exact ⟨pc'', List.mem_of_getElem? ((List.getElem?_set_ne mine).trans found''), theirs⟩
      · exact (if_neg closed).mpr ((if_neg closed).mp doomed')
  | .returned first => cases stepped

/-- Every step keeps the ledger. -/
theorem Sound.step (sound : Sound o s) {label : TcpRpcLabel}
    (stepped : s.step o label = some next) : Sound o next := by
  cases label with
  | exchange request =>
    cases stepped
    have old : ∀ (j : Nat) call, (s.calls ++ [({ request } : ExchangeCall)])[j]? = some call →
        call = { request } ∨ s.calls[j]? = some call := by
      intro j call found
      exact (getElem?_push_cases found).imp_left fun new => new.2
    refine ⟨?_, sound.bounded, ?_, ?_, ?_, ?_, sound.sealers⟩
    · rw [countP_push]
      exact sound.inflight
    · intro j call found free
      rcases old j call found with rfl | before
      · rfl
      · exact sound.unlinked j call before free
    · intro j k call found has
      rcases old j call found with rfl | before
      · cases has
      · exact sound.linked j k call before has
    · intro k link there
      obtain ⟨call, found, has⟩ := sound.owned k link there
      exact ⟨call, getElem?_push_old found, has⟩
    · intro k member
      obtain ⟨j, call, found, rest⟩ := sound.listed k member
      exact ⟨j, call, getElem?_push_old found, rest⟩
  | act i move =>
    obtain ⟨call, found, stepped⟩ := bind_eq_some_iff.mp stepped
    exact sound.act found rfl stepped
  | link k label =>
    rw [TcpRpcState.step] at stepped
    split_ifs at stepped with alone
    obtain ⟨link, there, stepped⟩ := bind_eq_some_iff.mp stepped
    obtain ⟨writes, moved, rfl⟩ := map_eq_some_iff.mp stepped
    refine sound.drives there (onward alone moved) fun none' => ?_
    cases label with
    | side label =>
      obtain ⟨side, -, rfl⟩ := map_eq_some_iff.mp moved
      exact none'
    | call data => cases alone
    | act i event =>
      rw [CoWrites.step, none'] at moved
      cases moved
  | close =>
    cases stepped
    refine ⟨sound.inflight, sound.bounded, sound.unlinked, ?_, sound.owned, sound.listed, ?_⟩
    · intro j k call found has
      obtain ⟨link, there, owner, fits, asked⟩ := sound.linked j k call found has
      refine ⟨link, there, owner, fits, asked.imp_right fun rest => rest.imp_right fun doomed => ?_⟩
      unfold Doomed at doomed ⊢
      by_cases closed : s.closed = true
      · rw [if_pos closed] at doomed
        obtain ⟨pc, member, mine⟩ := doomed
        exact (if_pos closed).mpr ⟨pc, mem_append_left _ member, mine⟩
      · rw [if_neg closed] at doomed
        exact (if_neg closed).mpr doomed
    · rw [countP_push]
      exact sound.sealers
  | closer c =>
    obtain ⟨pc, found, stepped⟩ := bind_eq_some_iff.mp stepped
    exact sound.actClose found stepped

/-- The ledger is right in every reachable state. -/
theorem reachable_sound (reachable : (tcpRpcMachine o).Reachable s) : Sound o s := by
  refine reachable.invariant (Sound o) ?_ fun s label next sound stepped => sound.step stepped
  rintro _ rfl
  refine ⟨rfl, Nat.zero_le _, ?_, ?_, ?_, ?_, rfl⟩ <;> intro _ _ <;> simp_all

/-- The frames accepted for sending, on all connections. -/
def accepted (s : TcpRpcState) : List (Nat × Bytes) :=
  s.links.flatMap fun link => link.writes.side.keys

omit [CompletionBuffer] in
/-- A rewrite of a connection that accepts nothing. -/
theorem accepted_modify {f : TcpLink → TcpLink}
    (same : ∀ link, s.links[k]? = some link → (f link).writes.side.keys = link.writes.side.keys) :
    ((s.links.modify k f).flatMap fun link => link.writes.side.keys) = s.accepted := by
  rw [accepted, flatMap_def, flatMap_def]
  congr 1
  apply ext_getElem?
  intro other
  rw [getElem?_map, getElem?_map]
  by_cases here : k = other
  · subst here
    rw [getElem?_modify_eq]
    cases there : s.links[k]? with
    | none => rfl
    | some link => exact congrArg some (same link there)
  · rw [getElem?_modify_ne _ _ here]

omit [CompletionBuffer] in
/-- `RequestClose` accepts nothing. -/
theorem accepted_requestClose (s : TcpRpcState) (target : Option Nat) :
    (s.requestClose target).accepted = s.accepted := by
  cases target with
  | none => rfl
  | some k =>
    refine accepted_modify (f := TcpLink.requestClose) fun link _ => ?_
    show (link.writes.side.requestClose .success).keys = _
    unfold WriteSide.requestClose
    split_ifs <;> rfl

omit [CompletionBuffer] in
/-- The calls of `Exchange` accept nothing themselves, and leave those of `Close` alone. -/
theorem act_aside (stepped : s.act o i call pc move = some next) :
    next.accepted = s.accepted ∧ next.closers = s.closers := by
  have requested : ∀ target, (s.requestClose target).accepted = s.accepted ∧
      (s.requestClose target).closers = s.closers := fun target =>
    ⟨accepted_requestClose s target, by cases target <;> rfl⟩
  unfold act at stepped
  split at stepped <;> try (cases stepped <;> exact ⟨rfl, rfl⟩)
  · split at stepped
    · cases stepped
      exact ⟨rfl, rfl⟩
    · split at stepped <;> cases stepped <;> exact ⟨rfl, rfl⟩
  · split_ifs at stepped <;> cases stepped <;> exact ⟨rfl, rfl⟩
  · cases stepped
    refine ⟨?_, rfl⟩
    show ((s.links ++ [_]).flatMap _) = _
    rw [flatMap_append, flatMap_cons, flatMap_nil]
    exact append_nil _
  · split_ifs at stepped <;> cases stepped <;> exact ⟨rfl, rfl⟩
  · cases stepped
    exact requested call.link
  · obtain ⟨k, -, rfl⟩ := map_eq_some_iff.mp stepped
    exact ⟨accepted_modify fun _ _ => rfl, rfl⟩
  · obtain ⟨link, -, stepped⟩ := bind_eq_some_iff.mp stepped
    obtain ⟨pc', -, rfl⟩ := map_eq_some_iff.mp stepped
    exact ⟨rfl, rfl⟩
  · obtain ⟨⟨reading, ending⟩, -, rfl⟩ := map_eq_some_iff.mp stepped
    exact ⟨rfl, rfl⟩
  · cases stepped
    exact requested call.link
  · split at stepped <;> cases stepped <;> exact ⟨rfl, rfl⟩

/-- The `Close` that has sealed the transport has returned. -/
def Sealed (s : TcpRpcState) : Prop := .returned true ∈ s.closers

/-- Then no `Close` has a connection left to ask. -/
theorem Sound.undoomed (sound : Sound o s) (sealed : s.Sealed) :
    s.closed = true ∧ ¬s.Doomed k := by
  obtain ⟨c, found⟩ := mem_iff_getElem?.mp sealed
  have sealers := sound.sealers
  have closed : s.closed = true := by
    by_contra open'
    rw [if_neg open'] at sealers
    have none' := not_of_countP_eq_zero found sealers
    cases none'
  refine ⟨closed, fun doomed => ?_⟩
  unfold Doomed at doomed
  rw [if_pos closed] at doomed sealers
  obtain ⟨pc, member, dooms⟩ := doomed
  obtain ⟨d, found'⟩ := mem_iff_getElem?.mp member
  have two : [c, d].length ≤ s.closers.countP TcpClosePc.seals := by
    apply length_le_countP
    · refine nodup_cons.mpr ⟨fun same => ?_, nodup_singleton d⟩
      rw [mem_singleton.mp same, found'] at found
      cases found
      exact dooms
    · intro place inside
      rcases mem_cons.mp inside with rfl | rest
      · exact ⟨_, found, rfl⟩
      · rw [mem_singleton.mp rest]
        refine ⟨pc, found', ?_⟩
        cases pc with
        | request doomed => rfl
        | seal' | returned first => exact absurd dooms id
  rw [sealers] at two
  exact absurd two (Nat.not_succ_le_self 1)

/-- Behind that `Close` no frame is accepted any more. -/
theorem Sound.accepts_nothing (sound : Sound o s) (sealed : s.Sealed) {label : TcpRpcLabel}
    (stepped : s.step o label = some next) : next.accepted = s.accepted := by
  cases label with
  | exchange | close =>
    cases stepped
    rfl
  | act i move =>
    obtain ⟨call, -, stepped⟩ := bind_eq_some_iff.mp stepped
    exact (act_aside stepped).1
  | link k label =>
    rw [TcpRpcState.step] at stepped
    split_ifs at stepped with alone
    obtain ⟨link, there, stepped⟩ := bind_eq_some_iff.mp stepped
    obtain ⟨writes, moved, rfl⟩ := map_eq_some_iff.mp stepped
    obtain ⟨call, found, has⟩ := sound.owned k link there
    obtain ⟨_, there', -, fits, asked⟩ := sound.linked _ k call found has
    rw [there] at there'
    cases there'
    have reachable : coWriteMachine.Reachable link.writes := by
      rcases writes_of_fits fits with unwritten | sole
      · exact unwritten.reachable
      · exact sole.reachable
    refine accepted_modify fun other found' => ?_
    rw [there] at found'
    cases found'
    rcases asked with requested | ⟨-, none'⟩ | doomed
    · exact CoWrites.keys_requested reachable alone requested moved
    · cases label with
      | side label =>
        obtain ⟨side, moved', rfl⟩ := map_eq_some_iff.mp moved
        exact CoWrites.keys_side (CoWrites.reachable_side reachable) alone moved'
      | call data => cases alone
      | act j event =>
        rw [CoWrites.step, none'] at moved
        cases moved
    · exact absurd doomed (sound.undoomed sealed).2
  | closer c =>
    obtain ⟨pc, -, stepped⟩ := bind_eq_some_iff.mp stepped
    cases pc with
    | seal' =>
      rw [TcpRpcState.actClose] at stepped
      split_ifs at stepped <;> cases stepped <;> rfl
    | request doomed =>
      cases doomed with
      | nil =>
        cases stepped
        rfl
      | cons k doomed =>
        cases stepped
        exact accepted_requestClose s (some k)
    | returned first => cases stepped

/-- The books of a transport, read off its state. -/
structure Ledger (o : TcpRpcOptions) (s : TcpRpcState) : Prop where
  inflight : s.inflight = s.calls.countP fun call => call.pc.holds
  bounded : s.inflight ≤ o.maxInflight
  /-- A call that has returned has asked its connection to close and taken it off the list. -/
  returned : ∀ (i : Nat) call, s.calls[i]? = some call → call.pc.isReturned = true →
    ∀ (k : Nat) link, s.links[k]? = some link → link.owner = i →
      link.requested = true ∧ k ∉ s.connections
  /-- A call that returns a payload has written its frame and read the payload's, no more. -/
  answered : ∀ (i : Nat) call body, s.calls[i]? = some call → call.pc = .returned (.ok body) →
    ∃ k link, call.link = some k ∧ s.links[k]? = some link ∧ link.owner = i ∧
      link.writes.side.handed = tcpFrame call.request ∧
      call.reading.arrived = tcpFrame body ∧ o.Legal body

/-- What the places of the calls say, read as the books. -/
theorem Sound.ledger (sound : Sound o s) : Ledger o s := by
  refine ⟨sound.inflight, sound.bounded, ?_, ?_⟩
  · intro i call found returned k link there owner
    obtain ⟨call', found', has⟩ := sound.owned k link there
    rw [owner, found] at found'
    cases found'
    obtain ⟨_, there', -, fits, -⟩ := sound.linked i k call found has
    rw [there] at there'
    cases there'
    constructor
    · cases pc : call.pc <;> rw [pc] at returned fits <;> first | exact fits.2 | cases returned
    · intro member
      obtain ⟨j, other, found'', has', open'⟩ := sound.listed k member
      obtain ⟨_, there', owner', -, -⟩ := sound.linked j k other found'' has'
      rw [there] at there'
      cases there'
      rw [← owner', owner, found] at found''
      cases found''
      rw [returned] at open'
      cases open'
  · intro i call body found returned
    obtain ⟨k, link, has, there, owner, ⟨ends, -⟩, -⟩ := sound.linked_at found returned rfl
    have answered := ends.answered body rfl
    exact ⟨k, link, has, there, owner, answered.written.sole.completed answered.written.completed,
      answered.arrived, answered.legal⟩

/-- The ledger of a transport is right in every state, and once the `Close` that has sealed it has
returned no request frame is accepted for sending. -/
theorem exchange_ledger (o : TcpRpcOptions) (s : TcpRpcState)
    (reachable : (tcpRpcMachine o).Reachable s) :
    Ledger o s ∧ (s.Sealed → ∀ label next, s.step o label = some next →
      next.Sealed ∧ next.accepted = s.accepted) := by
  have sound := reachable_sound reachable
  refine ⟨sound.ledger, fun sealed label next stepped => ⟨?_, sound.accepts_nothing sealed stepped⟩⟩
  have kept : ∀ c pc', (∀ pc, s.closers[c]? = some pc → pc ≠ .returned true) →
      .returned true ∈ s.closers.set c pc' := by
    intro c pc' other
    obtain ⟨d, found⟩ := mem_iff_getElem?.mp sealed
    have away : c ≠ d := by
      rintro rfl
      exact other _ found rfl
    exact mem_of_getElem? ((getElem?_set_ne away).trans found)
  cases label with
  | exchange request =>
    cases stepped
    exact sealed
  | act i move =>
    obtain ⟨call, -, stepped⟩ := bind_eq_some_iff.mp stepped
    rw [Sealed, (act_aside stepped).2]
    exact sealed
  | link k label =>
    rw [step] at stepped
    split_ifs at stepped
    obtain ⟨link, -, stepped⟩ := bind_eq_some_iff.mp stepped
    obtain ⟨writes, -, rfl⟩ := map_eq_some_iff.mp stepped
    exact sealed
  | close =>
    cases stepped
    exact mem_append_left _ sealed
  | closer c =>
    obtain ⟨pc, found, stepped⟩ := bind_eq_some_iff.mp stepped
    have only : ∀ other, s.closers[c]? = some other → other = pc := by
      intro other found'
      rw [found] at found'
      exact (Option.some.inj found').symm
    match pc with
    | .seal' =>
      rw [actClose] at stepped
      split_ifs at stepped <;> cases stepped <;>
        exact kept c _ fun other found' => by rw [only other found']; simp
    | .request [] =>
      cases stepped
      exact kept c _ fun other found' => by rw [only other found']; simp
    | .request (k :: doomed) =>
      cases stepped
      exact kept c _ fun other found' => by rw [only other found']; simp
    | .returned first => cases stepped

end

/-- A call up to the acceptance of its frame. -/
def writingRun (request : Bytes) : List TcpRpcLabel :=
  [.exchange request, .act 0 .go, .act 0 (.prepare .valid), .act 0 (.gate .success), .act 0 .go,
    .act 0 (.dialed 64 4), .act 0 .go, .act 0 .go, .link 0 (.act 0 (.context true true))]

/-- The frame is written and the answer arrives in two pieces, while `Close` runs. -/
def answeredRun : List TcpRpcLabel :=
  writingRun [7] ++ [.link 0 (.act 0 (.accept .fine false)),
    .link 0 (.act 0 (.context true true)), .link 0 (.side (.pump 8 64 [.sent 5])),
    .link 0 (.act 0 .queried), .act 0 .go, .act 0 (.fill .take), .act 0 (.fill (.gate .success)),
    .act 0 (.fill (.read (.ok [0, 0, 0]))), .act 0 (.fill .take),
    .act 0 (.fill (.gate .success)), .act 0 (.fill (.read (.ok [1, 9]))), .act 0 (.fill .take),
    .act 0 (.fill .take), .act 0 .go, .act 0 (.gate .success),
    .act 0 (.lastRead (.error (.generic 110))), .close, .closer 0, .closer 0, .closer 0,
    .act 0 .go, .act 0 .go]

/-- The ledger of a call that was answered, behind the `Close`. -/
theorem exchange_ledger_answered : ∃ s : TcpRpcState,
    (s.Sealed ∧ s.calls.map (·.pc) = [.returned (.ok [9])]) ∧ Ledger ⟨1, 8⟩ s ∧
      (s.Sealed → ∀ label next, s.step ⟨1, 8⟩ label = some next →
        next.Sealed ∧ next.accepted = s.accepted) := by
  obtain ⟨s, reachable, ended⟩ := Machine.exists_reachable
    (m := tcpRpcMachine ⟨1, 8⟩) answeredRun
    (fun s : TcpRpcState => decide (.returned true ∈ s.closers ∧
      s.calls.map (·.pc) = [.returned (.ok [9])])) rfl (by decide +kernel)
  have behind : .returned true ∈ s.closers ∧ s.calls.map (·.pc) = [.returned (.ok [9])] :=
    of_decide_eq_true ended
  exact ⟨s, behind, exchange_ledger ⟨1, 8⟩ s reachable⟩

/-- The next step can accept the frame of a call. -/
def acceptsNow (s : TcpRpcState) (request : Bytes) : Bool :=
  (s.step ⟨1, 8⟩ (.link 0 (.act 0 (.accept .fine false)))).any fun next =>
    decide (next.accepted = [(1, tcpFrame request)])

/-- A second `Close` returns at the flag, and a frame is accepted behind it: the first has not asked
the connection to close yet. -/
theorem accepted_behind_close : ∃ s next label, (tcpRpcMachine ⟨1, 8⟩).Reachable s ∧
    (∃ first, .returned first ∈ s.closers) ∧ s.step ⟨1, 8⟩ label = some next ∧
      next.accepted ≠ s.accepted := by
  obtain ⟨s, reachable, ended⟩ := Machine.exists_reachable
    (m := tcpRpcMachine ⟨1, 8⟩) (writingRun [7] ++ [.close, .closer 0, .close, .closer 1])
    (fun s : TcpRpcState => decide (.returned false ∈ s.closers ∧ s.accepted = [] ∧
      s.acceptsNow [7] = true)) rfl (by decide +kernel)
  obtain ⟨member, none', accepts⟩ := of_decide_eq_true ended
  obtain ⟨next, stepped, one⟩ := (any_eq_true _ _).mp accepts
  refine ⟨s, next, _, reachable, ⟨false, member⟩, stepped, ?_⟩
  rw [of_decide_eq_true one, none']
  exact cons_ne_nil _ _

end TcpRpcState

end BbtInfra.Rpc
