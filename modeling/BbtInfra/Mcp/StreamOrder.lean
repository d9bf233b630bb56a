import BbtInfra.Mcp.Subscriptions

/-!
# The stream of a subscription

The frames that a sink gets for one subscription, in the order in which it gets them. The
acknowledgement, the events and the end are sent by different threads outside every lock. The end
is in order exactly as long as it does not overtake the acknowledgement or an event that a
publisher has already collected.
-/
namespace BbtInfra.Mcp

open Lib McpServer List Option

/-- How often a call owes the end of a subscription. -/
def CallPc.owed (token : Nat) (pc : CallPc) : Nat :=
  pc.emitting.toList.countP fun entry => decide (entry.token = token)

/-- How often an end owes the end of a subscription. -/
def EndPc.owed (token : Nat) (pc : EndPc) : Nat :=
  pc.emitting.countP fun entry => decide (entry.token = token)

/-- The events that a publisher has collected and not yet sent. -/
def PublishPc.targets : PublishPc → List Delivery
  | .deliver targets _ => targets
  | _ => []

namespace McpServer

/-- Whether the notifications of a session have a sink. -/
def hasSink (s : McpServer) (session : Nat) : Bool := (s.sessions[session]?).any McpSession.sink

/-- What was sent for a subscription, with the sessions whose sinks it was sent to. -/
def frames (s : McpServer) (token : Nat) : List (Nat × SubscriptionFrame) :=
  (s.delivered.filter fun delivery => decide (delivery.token = token)).map fun delivery =>
    (delivery.session, delivery.frame)

/-- How often the end of a subscription is still to come. -/
def owed (s : McpServer) (token : Nat) : Nat :=
  s.subscriptions.countP (fun entry => decide (entry.token = token)) +
    (s.calls.map fun call => call.pc.owed token).sum +
    (s.ends.map fun ending => ending.pc.owed token).sum

/-- The acknowledgement and events, each for an accepted uri. -/
def Began (frames : List (Nat × SubscriptionFrame)) (session : Nat) (id : RequestId)
    (uris : List Bytes) : Prop :=
  ∃ events : List Bytes, (∀ uri ∈ events, uri ∈ uris) ∧
    frames = (session, .acknowledged id uris) :: events.map fun uri => (session, .updated id uri)

/-- The same, and the end behind it. -/
def Ended (frames : List (Nat × SubscriptionFrame)) (session : Nat) (id : RequestId)
    (uris : List Bytes) : Prop :=
  ∃ open', Began open' session id uris ∧ frames = open' ++ [(session, .ended id)]

/-- Every stream is empty, begun or ended. -/
def StreamOrder (s : McpServer) : Prop :=
  ∀ token, s.frames token = [] ∨ ∃ session id uris,
    Began (s.frames token) session id uris ∨ Ended (s.frames token) session id uris

/-- The acknowledgement of a subscription was sent, and no publisher holds an event of it. -/
def Quiet (s : McpServer) (entry : SubscriptionEntry) : Prop :=
  s.frames entry.token ≠ [] ∧
    ∀ (j : Nat) (publish : Publish), s.publishes[j]? = some publish →
      ∀ target ∈ publish.pc.targets, target.token ≠ entry.token

/-- The end of a subscription is sent to a sink only behind its acknowledgement and behind every
event that was collected for it. -/
def Orderly (s : McpServer) (label : Label) : Prop :=
  (∀ (i : Nat) (call : Call) (entry : SubscriptionEntry), actor label = some i →
    s.calls[i]? = some call → call.pc.emitting = some entry → s.hasSink entry.session = true →
    s.Quiet entry) ∧
  ∀ (j : Nat) (ending : EndAll) (entry : SubscriptionEntry), label = .actEnd j →
    s.ends[j]? = some ending → ending.pc.emitting.head? = some entry →
    s.hasSink entry.session = true → s.Quiet entry

variable {boost : Bytes → Nat → Except JsonFault JsonValue} {options : ServerOptions}
  {registry : Registry} {s s' : McpServer} {i : Nat} {call : Call} {late : Bool}
  {entry : SubscriptionEntry} {token session : Nat} {id : RequestId} {uris : List Bytes}
  {frames : List (Nat × SubscriptionFrame)}

/-- A stream with its acknowledgement alone. -/
theorem Began.acknowledged (session : Nat) (id : RequestId) (uris : List Bytes) :
    Began [(session, .acknowledged id uris)] session id uris :=
  ⟨[], forall_mem_nil _, rfl⟩

section

variable (began : Began frames session id uris)

include began

/-- One more event. -/
theorem Began.event {uri : Bytes} (accepted : uri ∈ uris) :
    Began (frames ++ [(session, .updated id uri)]) session id uris := by
  obtain ⟨events, inside, rfl⟩ := began
  refine ⟨events ++ [uri], ?_, ?_⟩
  · intro other member
    rcases mem_append.mp member with old | new
    · exact inside other old
    · rw [mem_singleton.mp new]
      exact accepted
  · rw [map_append, cons_append]
    rfl

/-- A stream that has begun is not empty. -/
theorem Began.ne_nil : frames ≠ [] := by
  obtain ⟨events, _, rfl⟩ := began
  exact cons_ne_nil _ _

/-- A begun stream knows its session, its id and its uris. -/
theorem Began.unique {session' : Nat} {id' : RequestId}
    {uris' : List Bytes} (began' : Began frames session' id' uris') :
    session = session' ∧ id = id' ∧ uris = uris' := by
  obtain ⟨events, _, rfl⟩ := began
  obtain ⟨events', _, same⟩ := began'
  have heads := (cons.inj same).1
  simp only [Prod.mk.injEq, SubscriptionFrame.acknowledged.injEq] at heads
  exact ⟨heads.1, heads.2.1, heads.2.2⟩

end

/-- What a delivery adds to a stream. -/
theorem frames_deliver (delivery : Delivery) (token : Nat) :
    (s.deliver delivery).frames token =
      if s.hasSink delivery.session = true ∧ delivery.token = token then
        s.frames token ++ [(delivery.session, delivery.frame)]
      else s.frames token := by
  unfold deliver hasSink
  split
  next sink =>
    by_cases same : delivery.token = token
    · rw [if_pos ⟨sink, same⟩]
      unfold frames
      simp only [filter_append, map_append, same, filter_cons, decide_true,
        if_true, filter_nil, map_cons, map_nil]
    · rw [if_neg fun both => same both.2]
      unfold frames
      simp only [filter_append, filter_cons, same, decide_false, filter_nil,
        append_nil, Bool.false_eq_true, if_false]
  next sinkless => rw [if_neg fun both => sinkless both.1]

/-- An entry that is owed is counted. -/
theorem Owes.owed_pos (owes : s.Owes entry) : 0 < s.owed entry.token := by
  unfold owed
  rcases owes with stored | ⟨i, call, found, emits⟩ | ⟨j, ending, found, emits⟩
  · have inside : 0 < s.subscriptions.countP fun other => decide (other.token = entry.token) :=
      countP_pos_iff.mpr ⟨entry, stored, decide_eq_true rfl⟩
    omega
  · have weight := weight_le_sum_map (fun call : Call => call.pc.owed entry.token) found
    have one : call.pc.owed entry.token = 1 := by
      unfold CallPc.owed
      rw [emits]
      simp only [toList_some, countP_singleton, decide_true, if_true]
    omega
  · have weight := weight_le_sum_map (fun ending : EndAll => ending.pc.owed entry.token) found
    have one : 0 < ending.pc.owed entry.token :=
      countP_pos_iff.mpr ⟨entry, emits, decide_eq_true rfl⟩
    omega

/-- A step of a call moves what it owes between itself and the table. -/
theorem owed_call (after : McpServer) (found : s.calls[i]? = some call) (call' : Call)
    (calls : after.calls = s.calls.set i call') (ends : after.ends = s.ends) (token : Nat) :
    after.owed token + call.pc.owed token +
        s.subscriptions.countP (fun entry => decide (entry.token = token)) =
      s.owed token + call'.pc.owed token +
        after.subscriptions.countP (fun entry => decide (entry.token = token)) := by
  have held := sum_map_set (fun call : Call => call.pc.owed token) call' found
  unfold owed
  rw [calls, ends]
  omega

/-- A call that goes on to a place where it emits nothing owes no more. -/
theorem owed_quiet (after : McpServer) (found : s.calls[i]? = some call) {call' : Call}
    (calls : after.calls = s.calls.set i call') (ends : after.ends = s.ends) (token : Nat)
    (table : after.subscriptions.countP (fun entry => decide (entry.token = token)) =
      s.subscriptions.countP fun entry => decide (entry.token = token))
    (quiet : call'.pc.emitting = none) : after.owed token + call.pc.owed token = s.owed token := by
  have moved := owed_call after found call' calls ends token
  have none' : call'.pc.owed token = 0 := by
    unfold CallPc.owed
    rw [quiet]
    rfl
  omega

variable {j : Nat} {ending : EndAll}

/-- A step of an end moves what it owes between itself and the table. -/
theorem owed_end (after : McpServer)
    (found : s.ends[j]? = some ending) (ending' : EndAll) (calls : after.calls = s.calls)
    (ends : after.ends = s.ends.set j ending') (token : Nat) :
    after.owed token + ending.pc.owed token +
        s.subscriptions.countP (fun entry => decide (entry.token = token)) =
      s.owed token + ending'.pc.owed token +
        after.subscriptions.countP (fun entry => decide (entry.token = token)) := by
  have held := sum_map_set (fun ending : EndAll => ending.pc.owed token) ending' found
  unfold owed
  rw [calls, ends]
  omega

/-- What a publisher has collected belongs to a stream that has begun. -/
def Collected (s : McpServer) (target : Delivery) : Prop :=
  ∃ id uri uris, target.frame = .updated id uri ∧ uri ∈ uris ∧
    Began (s.frames target.token) target.session id uris

/-- The subscription of a call between its insertion and its mark. -/
def streamToken : CallPc → Option Nat
  | .acknowledge token _ _ | .mark token => some token
  | _ => none

/-- The streams and those who write to them. -/
structure Streams (s : McpServer) : Prop where
  fresh : ∀ token, s.nextToken ≤ token → s.frames token = [] ∧ s.owed token = 0
  single : ∀ token, s.owed token ≤ 1
  order : s.StreamOrder
  running : ∀ entry, s.Owes entry → s.frames entry.token = [] ∨
    Began (s.frames entry.token) entry.session entry.listenId entry.resourceUris
  marked : ∀ entry, s.Owes entry → entry.ackSent = true → s.hasSink entry.session = true →
    s.frames entry.token ≠ []
  writers : ∀ (i : Nat) (call : Call) (token : Nat), s.calls[i]? = some call →
    streamToken call.pc = some token → token < s.nextToken ∧
      ∀ (j : Nat) (other : Call), s.calls[j]? = some other → streamToken other.pc = some token →
        i = j
  acknowledging : ∀ (i : Nat) (call : Call) (token : Nat) (id : RequestId) (uris : List Bytes),
    s.calls[i]? = some call → call.pc = .acknowledge token id uris → s.frames token = [] ∧
      ∀ entry, s.Owes entry → entry.token = token → entry.session = call.session ∧
        entry.listenId = id ∧ entry.resourceUris = uris ∧ entry.ackSent = false
  marking : ∀ (i : Nat) (call : Call) (entry : SubscriptionEntry), s.calls[i]? = some call →
    call.pc = .mark entry.token → s.Owes entry → s.hasSink entry.session = true →
      s.frames entry.token ≠ []
  collected : ∀ (j : Nat) (publish : Publish), s.publishes[j]? = some publish →
    ∀ target ∈ publish.pc.targets, s.Collected target

/-- A step that sends nothing, opens no subscription and marks none. -/
theorem Streams.keep (streams : s.Streams) (delivered : s'.delivered = s.delivered)
    (next : s'.nextToken = s.nextToken) (owed : ∀ token, s'.owed token ≤ s.owed token)
    (owes : ∀ entry, s'.Owes entry → s.Owes entry)
    (sinks : ∀ entry, s.Owes entry → s'.hasSink entry.session = true →
      s.hasSink entry.session = true)
    (calls : ∀ (i : Nat) (call' : Call), s'.calls[i]? = some call' → streamToken call'.pc ≠ none →
      ∃ call, s.calls[i]? = some call ∧ call'.pc = call.pc ∧ call'.session = call.session)
    (collected : ∀ (j : Nat) (publish : Publish), s'.publishes[j]? = some publish →
      ∀ target ∈ publish.pc.targets, s.Collected target) : s'.Streams := by
  have same (token : Nat) : s'.frames token = s.frames token := by
    unfold frames
    rw [delivered]
  constructor
  · intro token later
    rw [same]
    have before := streams.fresh token (next ▸ later)
    have fewer := owed token
    exact ⟨before.1, by omega⟩
  · exact fun token => Nat.le_trans (owed token) (streams.single token)
  · intro token
    rw [same]
    exact streams.order token
  · intro entry owes'
    rw [same]
    exact streams.running entry (owes entry owes')
  · intro entry owes' sent sink
    rw [same]
    exact streams.marked entry (owes entry owes') sent (sinks entry (owes entry owes') sink)
  · intro i call' token found writes
    obtain ⟨call, found', place, _⟩ := calls i call' found (by rw [writes]; exact some_ne_none _)
    obtain ⟨known, alone⟩ := streams.writers i call token found' (place ▸ writes)
    refine ⟨next ▸ known, ?_⟩
    intro j other' stored writes'
    obtain ⟨other, stored', place', _⟩ :=
      calls j other' stored (by rw [writes']; exact some_ne_none _)
    exact alone j other stored' (place' ▸ writes')
  · intro i call' token id uris found place
    obtain ⟨call, found', place', session⟩ :=
      calls i call' found (by rw [place]; exact some_ne_none _)
    obtain ⟨empty, agree⟩ := streams.acknowledging i call token id uris found' (place'.symm.trans place)
    refine ⟨(same token).trans empty, ?_⟩
    intro entry owes' token'
    rw [session]
    exact agree entry (owes entry owes') token'
  · intro i call' entry found place owes' sink
    rw [same]
    obtain ⟨call, found', place', _⟩ :=
      calls i call' found (by rw [place]; exact some_ne_none _)
    exact streams.marking i call entry found' (place'.symm.trans place) (owes entry owes')
      (sinks entry (owes entry owes') sink)
  · intro j publish found target member
    obtain ⟨id, uri, uris, frame, accepted, began⟩ := collected j publish found target member
    exact ⟨id, uri, uris, frame, accepted, (same _).symm ▸ began⟩

/-- A stream that may get another frame, and those who know of it. -/
structure Ready (s : McpServer) (delivery : Delivery) : Prop where
  known : delivery.token < s.nextToken
  order : ∃ session id uris,
    Began (s.frames delivery.token ++ [(delivery.session, delivery.frame)]) session id uris ∨
      Ended (s.frames delivery.token ++ [(delivery.session, delivery.frame)]) session id uris
  running : ∀ entry, s.Owes entry → entry.token = delivery.token →
    Began (s.frames delivery.token ++ [(delivery.session, delivery.frame)]) entry.session
      entry.listenId entry.resourceUris
  acknowledged : ∀ (i : Nat) (call : Call) (id : RequestId) (uris : List Bytes),
    s.calls[i]? = some call → call.pc ≠ .acknowledge delivery.token id uris
  collected : ∀ (j : Nat) (publish : Publish), s.publishes[j]? = some publish →
    ∀ target ∈ publish.pc.targets, target.token = delivery.token →
      ∃ id uri uris, target.frame = .updated id uri ∧ uri ∈ uris ∧
        Began (s.frames delivery.token ++ [(delivery.session, delivery.frame)]) target.session id
          uris

/-- A delivery that the stream is ready for. -/
theorem Streams.deliver (streams : s.Streams) (delivery : Delivery)
    (ready : s.hasSink delivery.session = true → s.Ready delivery) :
    (s.deliver delivery).Streams := by
  by_cases sink : s.hasSink delivery.session = true
  swap
  · have same : s.deliver delivery = s := by
      unfold McpServer.deliver
      exact if_neg sink
    rw [same]
    exact streams
  obtain ⟨known, order, running, acknowledged, collected⟩ := ready sink
  have other (token : Nat) (apart : token ≠ delivery.token) :
      (s.deliver delivery).frames token = s.frames token := by
    rw [frames_deliver, if_neg fun both => apart both.2.symm]
  have mine : (s.deliver delivery).frames delivery.token =
      s.frames delivery.token ++ [(delivery.session, delivery.frame)] := by
    rw [frames_deliver, if_pos ⟨sink, rfl⟩]
  have filled (token : Nat) (nonempty : s.frames token ≠ []) :
      (s.deliver delivery).frames token ≠ [] := by
    by_cases same : token = delivery.token
    · rw [same, mine]
      simp
    · rw [other token same]
      exact nonempty
  have owes (entry : SubscriptionEntry) (owes : (s.deliver delivery).Owes entry) : s.Owes entry := by
    unfold Owes Taken at owes ⊢
    rwa [deliver_subscriptions, deliver_calls, deliver_ends] at owes
  have owed (token : Nat) : (s.deliver delivery).owed token = s.owed token := by
    unfold McpServer.owed
    rw [deliver_subscriptions, deliver_calls, deliver_ends]
  have next : (s.deliver delivery).nextToken = s.nextToken := by
    unfold McpServer.deliver
    split <;> rfl
  constructor
  · intro token later
    rw [next] at later
    rw [owed, other token (by omega)]
    exact streams.fresh token later
  · intro token
    rw [owed]
    exact streams.single token
  · intro token
    by_cases same : token = delivery.token
    · rw [same, mine]
      exact .inr order
    · rw [other token same]
      exact streams.order token
  · intro entry owes'
    by_cases same : entry.token = delivery.token
    · rw [same, mine]
      exact .inr (running entry (owes entry owes') same)
    · rw [other _ same]
      exact streams.running entry (owes entry owes')
  · intro entry owes' sent sink'
    unfold hasSink at sink'
    rw [deliver_sessions] at sink'
    exact filled _ (streams.marked entry (owes entry owes') sent sink')
  · intro i call token found writes
    rw [deliver_calls] at found ⊢
    rw [next]
    exact streams.writers i call token found writes
  · intro i call token id uris found place
    rw [deliver_calls] at found
    obtain ⟨empty, agree⟩ := streams.acknowledging i call token id uris found place
    have apart : token ≠ delivery.token := by
      rintro rfl
      exact acknowledged i call id uris found place
    exact ⟨(other token apart).trans empty, fun entry owes' => agree entry (owes entry owes')⟩
  · intro i call entry found place owes' sink'
    rw [deliver_calls] at found
    unfold hasSink at sink'
    rw [deliver_sessions] at sink'
    exact filled _ (streams.marking i call entry found place (owes entry owes') sink')
  · intro j publish found target member
    rw [deliver_publishes] at found
    by_cases same : target.token = delivery.token
    · obtain ⟨id, uri, uris, frame, accepted, began⟩ := collected j publish found target member same
      refine ⟨id, uri, uris, frame, accepted, ?_⟩
      rw [same, mine]
      exact began
    · unfold Collected
      rw [other _ same]
      exact streams.collected j publish found target member

/-- The state of a session is written and its sink stays. -/
theorem hasSink_of_map {sessions : List McpSession}
    (sinks : sessions.map McpSession.sink = s.sessions.map McpSession.sink) (session : Nat) :
    (sessions[session]?).any McpSession.sink = s.hasSink session := by
  have same := congrArg (·[session]?) sinks
  simp only [getElem?_map] at same
  unfold hasSink
  cases stored : sessions[session]? with
  | none =>
    rw [stored] at same
    rw [map_eq_none_iff.mp same.symm]
  | some record =>
    rw [stored] at same
    obtain ⟨record', stored', sink⟩ := map_eq_some_iff.mp same.symm
    rw [stored', any_some, any_some, sink]

/-- A call that neither takes an entry out nor is about to write to a stream. -/
theorem Streams.keepCall (streams : s.Streams) (found : s.calls[i]? = some call) (call' : Call)
    (calls : s'.calls = s.calls.set i call') (ends : s'.ends = s.ends)
    (publishes : s'.publishes = s.publishes) (delivered : s'.delivered = s.delivered)
    (next : s'.nextToken = s.nextToken) (table : s'.subscriptions = s.subscriptions)
    (sinks : ∀ session, s'.hasSink session = s.hasSink session)
    (quiet : call'.pc.emitting = none) (idle : streamToken call'.pc = none) : s'.Streams := by
  apply streams.keep delivered next
  · intro token
    have moved := owed_quiet s' found calls ends token (by rw [table]) quiet
    omega
  · rintro entry (stored | taken)
    · exact .inl (table ▸ stored)
    · exact .inr (taken.of_call call' calls ends quiet)
  · intro entry _ sink
    rw [← sinks]
    exact sink
  · intro j other stored writes
    rw [calls] at stored
    rcases getElem?_set_cases stored with ⟨_, rfl⟩ | old
    · exact absurd idle writes
    · exact ⟨other, old, rfl, rfl⟩
  · rw [publishes]
    exact streams.collected

/-- A move of its own comes to no place of a stream. -/
theorem moves_streamToken {before pc : CallPc}
    (moves : Moves boost options registry s call before pc) : streamToken pc = none := by
  cases moves with
  | dispatched pc dispatched =>
    cases dispatched with
    | asked request dispatched => cases dispatched <;> rfl
    | _ => rfl
  | _ => rfl

/-- What an insertion does to the entries that are owed. -/
theorem owes_insert (owes : (s.insertSubscription i call id uris).Owes entry) :
    s.Owes entry ∨ entry = s.newEntry i call id uris := by
  rcases owes with stored | taken
  · rcases mem_append.mp stored with old | new
    · exact .inl (.inl old)
    · exact .inr (mem_singleton.mp new)
  · exact .inl (.inr (taken.of_call
      { call with pc := .acknowledge s.nextToken id uris, opened := true } rfl rfl rfl))

section

variable (streams : s.Streams) (found : s.calls[i]? = some call)

include streams found

/-- The insertion of a subscription, under a token that no stream has. -/
theorem Streams.insert
    (id : RequestId) (uris : List Bytes) : (s.insertSubscription i call id uris).Streams := by
  obtain ⟨empty, unowed⟩ := streams.fresh s.nextToken (Nat.le_refl _)
  have owed (token : Nat) : (s.insertSubscription i call id uris).owed token ≤
      s.owed token + if s.nextToken = token then 1 else 0 := by
    have moved := owed_call (s.insertSubscription i call id uris) found
      { call with pc := .acknowledge s.nextToken id uris, opened := true } rfl rfl token
    have table : (s.insertSubscription i call id uris).subscriptions.countP
        (fun entry => decide (entry.token = token)) =
          s.subscriptions.countP (fun entry => decide (entry.token = token)) +
            if s.nextToken = token then 1 else 0 := by
      unfold insertSubscription
      rw [List.countP_push]
      simp only [decide_eq_true_eq]
    have none' : CallPc.owed token (.acknowledge s.nextToken id uris) = 0 := rfl
    dsimp only at moved
    omega
  -- An entry under the new token is the new one.
  have new (entry : SubscriptionEntry) (owes : s.Owes entry) : entry.token ≠ s.nextToken := by
    intro same
    have counted := owes.owed_pos
    rw [same] at counted
    omega
  have written (j : Nat) (other : Call)
      (stored : (s.insertSubscription i call id uris).calls[j]? = some other) (apart : i ≠ j) :
      s.calls[j]? = some other := (List.getElem?_set_ne apart).symm.trans stored
  have mine (other : Call)
      (stored : (s.insertSubscription i call id uris).calls[i]? = some other) :
      other = { call with pc := .acknowledge s.nextToken id uris, opened := true } :=
    Option.some.inj (stored.symm.trans (List.getElem?_set_found found))
  constructor
  · intro token later
    have later : s.nextToken + 1 ≤ token := later
    have before := streams.fresh token (by omega)
    have more := owed token
    rw [if_neg (by omega)] at more
    exact ⟨before.1, by omega⟩
  · intro token
    have more := owed token
    have single := streams.single token
    by_cases same : s.nextToken = token
    · subst same
      rw [if_pos rfl] at more
      omega
    · rw [if_neg same] at more
      omega
  · exact streams.order
  · intro entry owes
    rcases owes_insert owes with old | rfl
    · exact streams.running entry old
    · exact .inl empty
  · intro entry owes sent sink
    rcases owes_insert owes with old | rfl
    · exact streams.marked entry old sent sink
    · cases sent
  · intro j other token stored writes
    by_cases here : i = j
    · subst here
      obtain rfl := mine other stored
      cases writes
      refine ⟨Nat.lt_succ_self _, fun k third stored' writes' => ?_⟩
      by_contra apart
      have known := (streams.writers k third _ (written k third stored' apart) writes').1
      omega
    · have old := written j other stored here
      obtain ⟨known, alone⟩ := streams.writers j other token old writes
      refine ⟨Nat.lt_succ_of_lt known, fun k third stored' writes' => ?_⟩
      by_cases here' : i = k
      · subst here'
        obtain rfl := mine third stored'
        cases writes'
        omega
      · exact alone k third (written k third stored' here') writes'
  · intro j other token id' uris' stored place
    by_cases here : i = j
    · subst here
      obtain rfl := mine other stored
      cases place
      refine ⟨empty, fun entry owes same => ?_⟩
      rcases owes_insert owes with old | rfl
      · exact absurd same (new entry old)
      · exact ⟨rfl, rfl, rfl, rfl⟩
    · have old := written j other stored here
      obtain ⟨known, _⟩ := streams.writers j other token old (by rw [place]; rfl)
      obtain ⟨none', agree⟩ := streams.acknowledging j other token id' uris' old place
      refine ⟨none', fun entry owes same => ?_⟩
      rcases owes_insert owes with before | rfl
      · exact agree entry before same
      · have impossible : s.nextToken = token := same
        omega
  · intro j other entry stored place owes sink
    by_cases here : i = j
    · subst here
      obtain rfl := mine other stored
      cases place
    · have old := written j other stored here
      rcases owes_insert owes with before | rfl
      · exact streams.marking j other entry old place before sink
      · obtain ⟨known, _⟩ := streams.writers j other _ old (by rw [place]; rfl)
        exact absurd known (Nat.lt_irrefl _)
  · exact streams.collected

/-- The mark of an acknowledgement that was sent. -/
theorem Streams.mark {token : Nat}
    (place : call.pc = .mark token) : (s.markAcknowledged i call token).Streams := by
  have owed (token' : Nat) : (s.markAcknowledged i call token).owed token' ≤ s.owed token' := by
    have moved := owed_quiet (s.markAcknowledged i call token) found rfl rfl token' (by
      unfold markAcknowledged
      rw [countP_map]
      apply countP_congr
      intro entry _
      dsimp only [Function.comp_apply]
      split <;> rfl) rfl
    omega
  have owes (entry : SubscriptionEntry) (owes : (s.markAcknowledged i call token).Owes entry) :
      s.Owes entry ∨ s.Marks token entry := by
    rcases owes with stored | taken
    · obtain ⟨old, before, rfl⟩ := mem_map.mp stored
      by_cases same : old.token = token
      · exact .inr ⟨old, before, same, if_pos same⟩
      · exact .inl (.inl (by rw [if_neg same]; exact before))
    · exact .inl (.inr (taken.of_call { call with pc := .settle (.ok none) } rfl rfl rfl))
  have written (j : Nat) (other : Call)
      (stored : (s.markAcknowledged i call token).calls[j]? = some other)
      (writes : streamToken other.pc ≠ none) : s.calls[j]? = some other := by
    rcases getElem?_set_cases stored with ⟨_, rfl⟩ | old
    · exact absurd rfl writes
    · exact old
  have mine : streamToken call.pc = some token := by rw [place]; rfl
  constructor
  · intro token' later
    have before := streams.fresh token' later
    have fewer := owed token'
    exact ⟨before.1, by omega⟩
  · exact fun token' => Nat.le_trans (owed token') (streams.single token')
  · exact streams.order
  · intro entry owes'
    rcases owes entry owes' with old | ⟨old, stored, _, rfl⟩
    · exact streams.running entry old
    · exact streams.running old (.inl stored)
  · intro entry owes' sent sink
    rcases owes entry owes' with old | ⟨old, stored, same, rfl⟩
    · exact streams.marked entry old sent sink
    · exact streams.marking i call old found (same ▸ place) (.inl stored) sink
  · intro j other token' stored writes
    have old := written j other stored (by rw [writes]; exact some_ne_none _)
    obtain ⟨known, alone⟩ := streams.writers j other token' old writes
    refine ⟨known, fun k third stored' writes' => ?_⟩
    exact alone k third (written k third stored' (by rw [writes']; exact some_ne_none _))
      writes'
  · intro j other token' id' uris' stored place'
    have old := written j other stored (by rw [place']; exact some_ne_none _)
    obtain ⟨empty, agree⟩ := streams.acknowledging j other token' id' uris' old place'
    refine ⟨empty, fun entry owes' same => ?_⟩
    rcases owes entry owes' with before | ⟨before, _, marked, rfl⟩
    · exact agree entry before same
    · -- The call that marks is the only writer of its stream.
      have same' : token = token' := marked.symm.trans same
      subst same'
      have alone := (streams.writers i call token found mine).2 j other old (by rw [place']; rfl)
      subst alone
      cases found.symm.trans old
      rw [place] at place'
      cases place'
  · intro j other entry stored place' owes' sink
    have old := written j other stored (by rw [place']; exact some_ne_none _)
    rcases owes entry owes' with before | ⟨before, table, _, rfl⟩
    · exact streams.marking j other entry old place' before sink
    · exact streams.marking j other before old place' (.inl table) sink
  · exact streams.collected

/-- A call comes to the mark of its subscription. -/
theorem Streams.toMark {token : Nat} (known : token < s.nextToken)
    (alone : ∀ (j : Nat) (other : Call), s.calls[j]? = some other → j ≠ i →
      streamToken other.pc ≠ some token)
    (filled : ∀ entry, s.Owes entry → entry.token = token → s.hasSink entry.session = true →
      s.frames token ≠ []) : (s.move i call (.mark token)).Streams := by
  have owed (token' : Nat) : (s.move i call (.mark token)).owed token' ≤ s.owed token' := by
    have moved := owed_quiet (s.move i call (.mark token)) found rfl rfl token' rfl rfl
    omega
  have owes (entry : SubscriptionEntry) (owes : (s.move i call (.mark token)).Owes entry) :
      s.Owes entry := by
    rcases owes with stored | taken
    · exact .inl stored
    · exact .inr (taken.of_call { call with pc := .mark token } rfl rfl rfl)
  have written (j : Nat) (other : Call)
      (stored : (s.move i call (.mark token)).calls[j]? = some other) (apart : i ≠ j) :
      s.calls[j]? = some other := (List.getElem?_set_ne apart).symm.trans stored
  have mine (other : Call) (stored : (s.move i call (.mark token)).calls[i]? = some other) :
      other = { call with pc := .mark token } :=
    Option.some.inj (stored.symm.trans (List.getElem?_set_found found))
  constructor
  · intro token' later
    have before := streams.fresh token' later
    have fewer := owed token'
    exact ⟨before.1, by omega⟩
  · exact fun token' => Nat.le_trans (owed token') (streams.single token')
  · exact streams.order
  · exact fun entry owes' => streams.running entry (owes entry owes')
  · exact fun entry owes' => streams.marked entry (owes entry owes')
  · intro j other token' stored writes
    by_cases here : i = j
    · subst here
      obtain rfl := mine other stored
      cases writes
      refine ⟨known, fun k third stored' writes' => ?_⟩
      by_contra apart
      exact alone k third (written k third stored' apart) (Ne.symm apart) writes'
    · have old := written j other stored here
      obtain ⟨known', alone'⟩ := streams.writers j other token' old writes
      refine ⟨known', fun k third stored' writes' => ?_⟩
      by_cases here' : i = k
      · subst here'
        obtain rfl := mine third stored'
        cases writes'
        exact absurd writes (alone j other old (Ne.symm here))
      · exact alone' k third (written k third stored' here') writes'
  · intro j other token' id uris stored place
    by_cases here : i = j
    · subst here
      obtain rfl := mine other stored
      cases place
    · obtain ⟨empty, agree⟩ :=
        streams.acknowledging j other token' id uris (written j other stored here) place
      exact ⟨empty, fun entry owes' => agree entry (owes entry owes')⟩
  · intro j other entry stored place owes' sink
    by_cases here : i = j
    · subst here
      obtain rfl := mine other stored
      cases place
      exact filled entry (owes entry owes') rfl sink
    · exact streams.marking j other entry (written j other stored here) place (owes entry owes') sink
  · exact streams.collected

end

/-- A delivery and a move of a call, in either order. -/
theorem deliver_move (delivery : Delivery) (pc : CallPc) :
    (s.deliver delivery).move i call pc = (s.move i call pc).deliver delivery := by
  unfold deliver
  by_cases sink : (s.sessions[delivery.session]?).any McpSession.sink = true
  · rw [if_pos sink]
    exact (if_pos sink).symm
  · rw [if_neg sink]
    exact (if_neg sink).symm

/-- The delivery of an acknowledgement. -/
theorem Streams.acknowledge (streams : s.Streams) (found : s.calls[i]? = some call) {token : Nat}
    {id : RequestId} {uris : List Bytes} (place : call.pc = .acknowledge token id uris) :
    ((s.deliver { session := call.session, token, frame := .acknowledged id uris }).move i call
      (.mark token)).Streams := by
  have mine : streamToken call.pc = some token := by rw [place]; rfl
  obtain ⟨known, alone⟩ := streams.writers i call token found mine
  obtain ⟨empty, agree⟩ := streams.acknowledging i call token id uris found place
  -- The call leaves its stream, the frame goes out, and the call comes back for its mark.
  let aside := s.move i call (.settle (.ok none))
  have left : aside.Streams :=
    streams.keepCall found { call with pc := .settle (.ok none) } rfl rfl rfl rfl rfl rfl
      (fun _ => rfl) rfl rfl
  have owes (entry : SubscriptionEntry) (owes : aside.Owes entry) : s.Owes entry := by
    rcases owes with stored | taken
    · exact .inl stored
    · exact .inr (taken.of_call { call with pc := .settle (.ok none) } rfl rfl rfl)
  have others (j : Nat) (other : Call) (stored : aside.calls[j]? = some other) :
      streamToken other.pc ≠ some token := by
    intro writes
    rcases List.getElem?_set_cases stored with ⟨_, rfl⟩ | old
    · cases writes
    · have same := alone j other old writes
      subst same
      have here := stored.symm.trans (List.getElem?_set_found found)
      cases here
      cases writes
  have begun : Began (aside.frames token ++ [(call.session, .acknowledged id uris)]) call.session id
      uris := by
    rw [show aside.frames token = [] from empty]
    exact .acknowledged _ _ _
  have sent := left.deliver { session := call.session, token, frame := .acknowledged id uris } (by
    intro _
    refine ⟨known, ⟨_, _, _, .inl begun⟩, ?_, ?_, ?_⟩
    · intro entry owes' same
      obtain ⟨session, listenId, accepted, _⟩ := agree entry (owes entry owes') same
      rw [session, listenId, accepted]
      exact begun
    · intro j other id' uris' stored place'
      exact others j other stored (by rw [place']; rfl)
    · intro j publish stored target member same
      obtain ⟨_, _, _, _, _, began⟩ := streams.collected j publish stored target member
      rw [show target.token = token from same, empty] at began
      exact absurd rfl began.ne_nil)
  have back := sent.toMark
    (show _ = some { call with pc := .settle (.ok none) } by
      rw [deliver_calls]
      exact List.getElem?_set_found found)
    (show token < _ by
      unfold McpServer.deliver
      split <;> exact known)
    (by
      intro j other stored apart
      rw [deliver_calls] at stored
      exact others j other stored)
    (by
      intro entry owes' same sink
      unfold hasSink at sink
      rw [deliver_sessions] at sink
      have owes'' : aside.Owes entry := by
        unfold Owes Taken at owes' ⊢
        rwa [deliver_subscriptions, deliver_calls, deliver_ends] at owes'
      obtain ⟨session, _⟩ := agree entry (owes entry owes'') same
      rw [frames_deliver, if_pos ⟨by rw [← session]; exact sink, rfl⟩]
      simp)
  rw [← deliver_move] at back
  have same : ((s.deliver { session := call.session, token, frame := .acknowledged id uris }).move i
      call (.settle (.ok none))).move i { call with pc := .settle (.ok none) } (.mark token) =
        (s.deliver { session := call.session, token, frame := .acknowledged id uris }).move i call
          (.mark token) := by
    unfold move setCall
    simp only [List.set_set]
  rw [same] at back
  exact back

/-- An entry is taken out of the table. -/
theorem Streams.takeOut (streams : s.Streams) (found : s.calls[i]? = some call) (call' : Call)
    (idle : streamToken call'.pc = none) (emits : call'.pc.emitting = some entry)
    (stored : entry ∈ s.subscriptions) :
    McpServer.Streams
      { s.setCall i call' with subscriptions := s.subscriptions.erase entry } := by
  refine streams.keep rfl rfl ?_ ?_ ?_ ?_ ?_
  · intro token
    have moved := owed_call ({ s.setCall i call' with
      subscriptions := s.subscriptions.erase entry }) found call' rfl rfl token
    have fewer := countP_erase (fun entry => decide (entry.token = token)) s.subscriptions entry
    have present : s.subscriptions.countP (fun entry => decide (entry.token = token)) ≥
        if entry.token = token then 1 else 0 := by
      split
      next same => exact countP_pos_iff.mpr ⟨entry, stored, decide_eq_true same⟩
      · exact Nat.zero_le _
    have one : call'.pc.owed token = if entry.token = token then 1 else 0 := by
      unfold CallPc.owed
      rw [emits]
      simp only [toList_some, countP_singleton, decide_eq_true_eq]
    simp only [stored, true_and, decide_eq_true_eq] at fewer
    dsimp only at moved ⊢
    by_cases same : entry.token = token
    · rw [if_pos same] at fewer present one
      omega
    · rw [if_neg same] at fewer one
      omega
  · rintro other (table | ⟨j, third, stored', emits'⟩ | ends)
    · exact .inl (mem_of_mem_erase table)
    · rcases getElem?_set_cases stored' with ⟨_, rfl⟩ | old
      · rw [emits] at emits'
        cases emits'
        exact .inl stored
      · exact .inr (.inl ⟨j, third, old, emits'⟩)
    · exact .inr (.inr ends)
  · exact fun _ _ sink => sink
  · intro j other stored' writes
    rcases getElem?_set_cases stored' with ⟨_, rfl⟩ | old
    · exact absurd idle writes
    · exact ⟨other, old, rfl, rfl⟩
  · exact streams.collected

/-- The end of a subscription that nobody else owes, behind everything that was collected. -/
theorem Streams.finish (streams : s.Streams) (known : entry.token < s.nextToken)
    (unowed : s.owed entry.token = 0)
    (quiet : s.hasSink entry.session = true → s.Quiet entry ∧
      Began (s.frames entry.token) entry.session entry.listenId entry.resourceUris) :
    (s.deliver { session := entry.session, token := entry.token
                 frame := .ended entry.listenId }).Streams := by
  apply streams.deliver
  intro sink
  obtain ⟨⟨filled, collected⟩, began⟩ := quiet sink
  refine ⟨known, ⟨_, _, _, .inr ⟨_, began, rfl⟩⟩, ?_, ?_, ?_⟩
  · intro other owes same
    have counted := owes.owed_pos
    rw [show other.token = entry.token from same] at counted
    omega
  · intro i call id uris found place
    exact filled (streams.acknowledging i call entry.token id uris found place).1
  · intro j publish found target member same
    exact absurd same (collected j publish found target member)

/-- An entry that is owed has a token that was given out. -/
theorem Streams.known (streams : s.Streams) (owes : s.Owes entry) : entry.token < s.nextToken := by
  by_contra later
  have counted := owes.owed_pos
  have none' := (streams.fresh entry.token (by omega)).2
  omega

/-- A stream that is quiet has begun. -/
theorem Streams.calm (streams : s.Streams) (owes : s.Owes entry) (quiet : s.Quiet entry) :
    s.Quiet entry ∧ Began (s.frames entry.token) entry.session entry.listenId entry.resourceUris := by
  refine ⟨quiet, ?_⟩
  rcases streams.running entry owes with empty | began
  · exact absurd empty quiet.1
  · exact began

/-- The end of a subscription, sent by a cancel. -/
theorem Streams.announce (streams : s.Streams) (found : s.calls[i]? = some call)
    (place : call.pc = .cancelEmit entry)
    (quiet : s.hasSink entry.session = true → s.Quiet entry) :
    ((s.deliver { session := entry.session, token := entry.token
                  frame := .ended entry.listenId }).move i call
      (.cancelReturn entry.listenId)).Streams := by
  have owes : s.Owes entry := .inr (.inl ⟨i, call, found, by rw [place]; rfl⟩)
  rw [deliver_move]
  have left : (s.move i call (.cancelReturn entry.listenId)).Streams :=
    streams.keepCall found { call with pc := .cancelReturn entry.listenId } rfl rfl rfl rfl rfl rfl
      (fun _ => rfl) rfl rfl
  apply left.finish (streams.known owes) _ fun sink => streams.calm owes (quiet sink)
  · have moved := owed_quiet (s.move i call (.cancelReturn entry.listenId)) found rfl rfl
      entry.token rfl rfl
    have one : call.pc.owed entry.token = 1 := by
      unfold CallPc.owed
      rw [place]
      simp only [CallPc.emitting, toList_some, countP_singleton, decide_true, if_true]
    have single := streams.single entry.token
    omega

/-- Every step of a call keeps the streams, when an end that it sends is in order. -/
theorem Acts.streams (streams : s.Streams) (found : s.calls[i]? = some call) {before : CallPc}
    (place : call.pc = before)
    (orderly : ∀ entry, before.emitting = some entry → s.hasSink entry.session = true →
      s.Quiet entry)
    (acts : Acts boost options registry s i call late before s') : s'.Streams := by
  -- A step that neither takes an entry out nor writes to a stream.
  have onward (call' : Call) (calls : s'.calls = s.calls.set i call') (ends : s'.ends = s.ends)
      (publishes : s'.publishes = s.publishes) (delivered : s'.delivered = s.delivered)
      (next : s'.nextToken = s.nextToken) (table : s'.subscriptions = s.subscriptions)
      (sinks : s'.sessions = s.sessions) (quiet : call'.pc.emitting = none)
      (idle : streamToken call'.pc = none) : s'.Streams := by
    apply streams.keepCall found call' calls ends publishes delivered next table _ quiet idle
    intro session
    unfold hasSink
    rw [sinks]
  cases acts with
  | moved before pc moves =>
    exact onward { call with pc } rfl rfl rfl rfl rfl rfl rfl (moves_emitting moves)
      (moves_streamToken moves)
  | stated before outcome sessions origin sinks =>
    exact streams.keepCall found { call with pc := .settle outcome } rfl rfl rfl rfl rfl rfl
      (hasSink_of_map sinks) rfl rfl
  | inserted id uris => exact streams.insert found id uris
  | acknowledged token id uris => exact streams.acknowledge found place
  | marked token => exact streams.mark found place
  | ended id entry stored =>
    exact streams.takeOut found
      { call with pc := .cancelEmit entry, seen := s.registered call.session id } rfl rfl stored
  | announced entry => exact streams.announce found place (orderly entry rfl)
  | _ => exact onward _ rfl rfl rfl rfl rfl rfl rfl rfl rfl

/-- A step of another thread that neither takes an entry out nor sends a frame. -/
theorem Streams.keepRest (streams : s.Streams) (calls : s'.calls = s.calls)
    (ends : s'.ends = s.ends) (delivered : s'.delivered = s.delivered)
    (next : s'.nextToken = s.nextToken) (table : s'.subscriptions ⊆ s.subscriptions)
    (fewer : ∀ token, s'.subscriptions.countP (fun entry => decide (entry.token = token)) ≤
      s.subscriptions.countP (fun entry => decide (entry.token = token)))
    (sinks : ∀ entry, s.Owes entry → s'.hasSink entry.session = true →
      s.hasSink entry.session = true)
    (collected : ∀ (j : Nat) (publish : Publish), s'.publishes[j]? = some publish →
      ∀ target ∈ publish.pc.targets, s.Collected target) : s'.Streams := by
  apply streams.keep delivered next _ _ sinks _ collected
  · intro token
    have less := fewer token
    unfold owed
    rw [calls, ends]
    omega
  · intro entry owes
    unfold Owes Taken at owes ⊢
    rw [calls, ends] at owes
    exact owes.imp_left fun stored => table stored
  · intro i call' found _
    rw [calls] at found
    exact ⟨call', found, rfl, rfl⟩

/-- The collected events of the publishers after one of them went on. -/
theorem Streams.collected_set (streams : s.Streams) (publish : Publish)
    (mine : ∀ target ∈ publish.pc.targets, s.Collected target) :
    ∀ (k : Nat) (other : Publish), (s.publishes.set j publish)[k]? = some other →
      ∀ target ∈ other.pc.targets, s.Collected target := by
  intro k other found target member
  rcases getElem?_set_cases found with ⟨_, rfl⟩ | old
  · exact mine target member
  · exact streams.collected k other old target member

/-- A publisher goes on. -/
theorem Streams.keepPublish (streams : s.Streams) (publish : Publish)
    (mine : ∀ target ∈ publish.pc.targets, s.Collected target) :
    ({ s with publishes := s.publishes.set j publish } : McpServer).Streams :=
  streams.keepRest rfl rfl rfl rfl (List.Subset.refl _) (fun _ => Nat.le_refl _)
    (fun _ _ sink => sink) (streams.collected_set publish mine)

/-- What a publisher collects belongs to a stream that has begun. -/
theorem Streams.collect (streams : s.Streams) (j : Nat) (uri : Bytes) :
    ∀ target ∈ s.targets j uri, s.Collected target := by
  intro target member
  obtain ⟨entry, chosen, rfl⟩ := mem_map.mp member
  obtain ⟨stored, fits⟩ := mem_filter.mp chosen
  simp only [Bool.and_eq_true, contains_iff_mem] at fits
  obtain ⟨⟨sent, accepted⟩, sink⟩ := fits
  have filled := streams.marked entry (.inl stored) sent sink
  refine ⟨entry.listenId, uri, entry.resourceUris, rfl, accepted, ?_⟩
  rcases streams.running entry (.inl stored) with empty | began
  · exact absurd empty filled
  · exact began

/-- The delivery of a collected event. -/
theorem Streams.send (streams : s.Streams) {target : Delivery} (collected : s.Collected target) :
    (s.deliver target).Streams := by
  obtain ⟨id, uri, uris, frame, accepted, began⟩ := collected
  have longer := began.event accepted
  have filled := began.ne_nil
  apply streams.deliver
  intro _
  rw [← frame] at longer
  constructor
  · by_contra later
    exact filled (streams.fresh target.token (by omega)).1
  · exact ⟨_, _, _, .inl longer⟩
  · intro entry owes same
    have running := streams.running entry owes
    rw [same] at running
    rcases running with empty | began'
    · exact absurd empty filled
    · obtain ⟨session, listenId, accepted⟩ := began'.unique began
      rw [session, listenId, accepted]
      exact longer
  · intro i call id' uris' found place
    exact filled (streams.acknowledging i call target.token id' uris' found place).1
  · intro j publish found other member same
    obtain ⟨id', uri', uris', frame', accepted', began'⟩ :=
      streams.collected j publish found other member
    rw [same] at began'
    obtain ⟨session, listenId, uris⟩ := began'.unique began
    refine ⟨id', uri', uris', frame', accepted', ?_⟩
    rw [session, listenId, uris]
    exact longer

/-- An end goes on, with no more to send than before. -/
theorem Streams.keepEnd (streams : s.Streams)
    (found : s.ends[j]? = some ending) (ending' : EndAll)
    (fewer : ending'.pc.emitting.Sublist ending.pc.emitting) :
    ({ s with ends := s.ends.set j ending' } : McpServer).Streams := by
  refine streams.keep rfl rfl ?_ ?_ (fun _ _ sink => sink) ?_ streams.collected
  · intro token
    have moved := owed_end { s with ends := s.ends.set j ending' } found ending' rfl rfl token
    have less : ending'.pc.owed token ≤ ending.pc.owed token := fewer.countP_le
    dsimp only at moved
    omega
  · rintro entry (stored | taken)
    · exact .inl stored
    · exact .inr (taken.of_end found ending' rfl rfl fun _ emits => fewer.subset emits)
  · exact fun i call found _ => ⟨call, found, rfl, rfl⟩

/-- The end of a subscription, sent by an end. -/
theorem Streams.emit (streams : s.Streams)
    (found : s.ends[j]? = some ending) {rest : List SubscriptionEntry}
    (place : ending.pc.emitting = entry :: rest) (ending' : EndAll)
    (left : ending'.pc.emitting = rest)
    (quiet : s.hasSink entry.session = true → s.Quiet entry) :
    ({ s.deliver { session := entry.session, token := entry.token
                   frame := .ended entry.listenId } with
        ends := s.ends.set j ending' } : McpServer).Streams := by
  have owes : s.Owes entry :=
    .inr (.inr ⟨j, ending, found, place.symm ▸ mem_cons_self⟩)
  have aside : ({ s with ends := s.ends.set j ending' } : McpServer).Streams := by
    apply streams.keepEnd found
    rw [place, left]
    exact sublist_cons_self entry rest
  have sent := aside.finish (streams.known owes) (by
      have moved := owed_end { s with ends := s.ends.set j ending' } found ending' rfl rfl entry.token
      have single := streams.single entry.token
      have one : ending.pc.owed entry.token = ending'.pc.owed entry.token + 1 := by
        unfold EndPc.owed
        rw [place, left]
        exact countP_cons_of_pos (decide_eq_true rfl)
      dsimp only at moved
      omega) fun sink => streams.calm owes (quiet sink)
  have same : ({ s with ends := s.ends.set j ending' } : McpServer).deliver
      { session := entry.session, token := entry.token, frame := .ended entry.listenId } =
        { s.deliver { session := entry.session, token := entry.token
                      frame := .ended entry.listenId } with
          ends := s.ends.set j ending' } := by
    unfold McpServer.deliver
    split <;> rfl
  exact same ▸ sent

/-- A frame that begins owes and writes nothing. -/
theorem Streams.begin (streams : s.Streams) (raw : Bytes) :
    ({ s with calls := s.calls ++ [newCall boost options session raw] } : McpServer).Streams := by
  have idle : (newCall boost options session raw).pc.emitting = none ∧
      streamToken (newCall boost options session raw).pc = none := by
    unfold newCall
    dsimp only
    split <;> exact ⟨rfl, rfl⟩
  refine streams.keep rfl rfl ?_ ?_ (fun _ _ sink => sink) ?_ streams.collected
  · intro token
    have more := sum_map_push (fun call : Call => call.pc.owed token) s.calls
      (newCall boost options session raw)
    have none' : (newCall boost options session raw).pc.owed token = 0 := by
      unfold CallPc.owed
      rw [idle.1]
      rfl
    unfold owed
    dsimp only at more ⊢
    omega
  · rintro entry (stored | ⟨i, call, found, emits⟩ | taken)
    · exact .inl stored
    · rcases getElem?_push_cases found with ⟨_, rfl⟩ | old
      · rw [idle.1] at emits
        cases emits
      · exact .inr (.inl ⟨i, call, old, emits⟩)
    · exact .inr (.inr taken)
  · intro i call found writes
    rcases getElem?_push_cases found with ⟨_, rfl⟩ | old
    · exact absurd idle.2 writes
    · exact ⟨call, old, rfl, rfl⟩

/-- An end that begins owes nothing. -/
theorem Streams.beginEnd (streams : s.Streams) (session : Nat) :
    ({ s with ends := s.ends ++ [{ session }] } : McpServer).Streams := by
  refine streams.keep rfl rfl ?_ ?_ (fun _ _ sink => sink) ?_ streams.collected
  · intro token
    have more := sum_map_push (fun ending : EndAll => ending.pc.owed token) s.ends { session }
    have none' : EndPc.owed token .take = 0 := rfl
    unfold owed
    dsimp only at more ⊢
    omega
  · rintro entry (stored | calls | ⟨j, ending, found, emits⟩)
    · exact .inl stored
    · exact .inr (.inl calls)
    · rcases getElem?_push_cases found with ⟨_, rfl⟩ | old
      · cases emits
      · exact .inr (.inr ⟨j, ending, old, emits⟩)
  · exact fun i call found _ => ⟨call, found, rfl, rfl⟩

/-- An end takes out the subscriptions of its session. -/
theorem Streams.take (streams : s.Streams) (found : s.ends[j]? = some ending) (ending' : EndAll)
    (emits : ending'.pc.emitting =
      s.subscriptions.filter fun entry => decide (entry.session = session)) :
    ({ s with
        subscriptions := s.subscriptions.filter fun entry => decide (entry.session ≠ session)
        ends := s.ends.set j ending' } : McpServer).Streams := by
  refine streams.keep rfl rfl ?_ ?_ (fun _ _ sink => sink) ?_ streams.collected
  · intro token
    have moved := owed_end { s with
        subscriptions := s.subscriptions.filter fun entry => decide (entry.session ≠ session)
        ends := s.ends.set j ending' } found ending' rfl rfl token
    have parts := countP_eq_countP_filter_add s.subscriptions
      (fun entry => decide (entry.token = token)) fun entry => decide (entry.session = session)
    have mine : ending'.pc.owed token = (s.subscriptions.filter fun entry =>
        decide (entry.session = session)).countP fun entry => decide (entry.token = token) := by
      unfold EndPc.owed
      rw [emits]
    simp only [← decide_not, ← ne_eq] at parts
    dsimp only at moved ⊢
    omega
  · rintro entry (stored | calls | ⟨k, other, found', emits'⟩)
    · exact .inl (mem_filter.mp stored).1
    · exact .inr (.inl calls)
    · rcases getElem?_set_cases found' with ⟨_, rfl⟩ | old
      · rw [emits] at emits'
        exact .inl (mem_filter.mp emits').1
      · exact .inr (.inr ⟨k, other, old, emits'⟩)
  · exact fun i call found _ => ⟨call, found, rfl, rfl⟩

/-- Every step keeps the streams, when an end that it sends is in order. -/
theorem Steps.streams (streams : s.Streams) (links : s.EntryLinks)
    (shaped : s.Shaped boost options) {label : Label} (orderly : s.Orderly label)
    (steps : Steps boost options registry s label s') : s'.Streams := by
  have rest (publishes : s'.publishes = s.publishes) (calls : s'.calls = s.calls)
      (ends : s'.ends = s.ends) (delivered : s'.delivered = s.delivered)
      (next : s'.nextToken = s.nextToken) (table : s'.subscriptions = s.subscriptions)
      (sinks : s'.sessions = s.sessions) : s'.Streams := by
    apply streams.keepRest calls ends delivered next
    · rw [table]
      exact List.Subset.refl _
    · intro token
      rw [table]
    · intro entry _ sink
      unfold hasSink at sink ⊢
      rwa [sinks] at sink
    · rw [publishes]
      exact streams.collected
  cases steps with
  | acted i call late label next found origin acts =>
    apply acts.streams streams found rfl
    intro entry emits sink
    exact orderly.1 i call entry (actor_of_origin origin) found emits sink
  | begun session raw known => exact streams.begin raw
  | joined sink =>
    refine streams.keepRest rfl rfl rfl rfl (List.Subset.refl _) (fun _ => Nat.le_refl _) ?_
      streams.collected
    intro entry owes sink'
    -- The session of an entry was there before.
    obtain ⟨call, found, session, _⟩ := links entry owes
    have known := (shaped entry.opener call found).1
    unfold hasSink at sink' ⊢
    rwa [getElem?_append_left (session ▸ known)] at sink'
  | adopted session version sessions sinks =>
    refine streams.keepRest rfl rfl rfl rfl (List.Subset.refl _) (fun _ => Nat.le_refl _) ?_
      streams.collected
    intro entry _ sink
    exact (hasSink_of_map sinks entry.session).symm.trans sink
  | publishes uri =>
    refine streams.keepRest rfl rfl rfl rfl (List.Subset.refl _) (fun _ => Nat.le_refl _)
      (fun _ _ sink => sink) ?_
    intro k other found target member
    rcases getElem?_push_cases found with ⟨_, rfl⟩ | old
    · cases member
    · exact streams.collected k other old target member
  | barred | passed | counted => exact streams.keepPublish _ (forall_mem_nil _)
  | collected j publish => exact streams.keepPublish _ (streams.collect j publish.uri)
  | sent j publish target rest' count found place =>
    have held := streams.collected j publish found
    rw [place] at held
    have aside := streams.keepPublish (j := j) { publish with pc := .deliver rest' count }
      fun other member => held other (mem_cons_of_mem _ member)
    have sent := aside.send (held target mem_cons_self)
    have same : ({ s with
        publishes := s.publishes.set j { publish with pc := .deliver rest' count } } :
          McpServer).deliver target =
        { s.deliver target with
          publishes := s.publishes.set j { publish with pc := .deliver rest' count } } := by
      unfold deliver
      split <;> rfl
    exact same ▸ sent
  | ends session => exact streams.beginEnd session
  | took j ending found place => exact streams.take found _ rfl
  | spent j ending taken found place => exact streams.keepEnd found _ (nil_sublist _)
  | emitted j ending entry rest' taken found place =>
    have emits : ending.pc.emitting = entry :: rest' := by rw [place]; rfl
    apply streams.emit found emits { ending with pc := .emit rest' taken } rfl
    intro sink
    apply orderly.2 j ending entry rfl found _ sink
    rw [emits]
    rfl
  | gaveBack j ending left found place =>
    have aside := streams.keepEnd found { ending with pc := .release left } (nil_sublist _)
    exact aside.keepRest rfl rfl rfl rfl (List.Subset.refl _) (fun _ => Nat.le_refl _)
      (fun _ _ sink => sink) aside.collected
  | swept j found =>
    refine streams.keepRest rfl rfl rfl rfl (nil_subset _) (fun _ => Nat.zero_le _)
      (fun _ _ sink => sink) streams.collected
  | _ => exact rest rfl rfl rfl rfl rfl rfl rfl

/-- A server on which nothing has happened has no stream. -/
theorem Streams.empty : ({} : McpServer).Streams := by
  have nobody (entry : SubscriptionEntry) : ¬({} : McpServer).Owes entry := by
    rintro (stored | ⟨i, call, found, _⟩ | ⟨j, ending, found, _⟩)
    · cases stored
    · cases found
    · cases found
  constructor
  · exact fun _ _ => ⟨rfl, rfl⟩
  · exact fun _ => Nat.zero_le 1
  · exact fun _ => .inl rfl
  · exact fun entry owes => absurd owes (nobody entry)
  · exact fun entry owes => absurd owes (nobody entry)
  · intro i call token found
    cases found
  · intro i call token id uris found
    cases found
  · intro i call entry found
    cases found
  · intro j publish found
    cases found

/-- In a run in which no end overtakes its acknowledgement or a collected event, every stream is
the acknowledgement, events for accepted uris and at most one end, in this order. -/
theorem stream_order {labels : List Label}
    (run : (mcpMachine boost options registry).GuardedRun Orderly labels s) : s.StreamOrder := by
  have streams : s.Streams := by
    apply run.reachableInvariant
    · intro s begun
      subst begun
      exact .empty
    · intro s label next reachable streams orderly stepped
      exact (steps_of_reachable reachable stepped).streams streams
        (entryLinks_of_reachable reachable) (shaped_of_reachable reachable) orderly
  exact streams.order

/-- A test for the condition, which asks for more than it does. -/
def orderlyTest (s : McpServer) (label : Label) : Bool :=
  ((actor label).all fun i => (s.calls[i]?).all fun call => call.pc.emitting.toList.all fun entry =>
    !(s.frames entry.token).isEmpty && s.publishes.all fun publish => publish.pc.targets.isEmpty) &&
  match label with
  | .actEnd _ => false
  | _ => true

/-- A step that passes the test meets the condition. -/
theorem orderly_of_test {label : Label} (test : s.orderlyTest label = true) :
    s.Orderly label := by
  obtain ⟨calm, other⟩ := Bool.and_eq_true_iff.mp test
  constructor
  · intro i call entry actor found emits _
    rw [actor, all_some, found, all_some, emits, toList_some] at calm
    simp only [List.all_cons, List.all_nil, Bool.and_true, Bool.and_eq_true, Bool.not_eq_true',
      List.isEmpty_eq_false_iff, List.all_eq_true, List.isEmpty_iff] at calm
    obtain ⟨filled, idle⟩ := calm
    refine ⟨filled, fun j publish stored target member => ?_⟩
    rw [idle publish (List.mem_of_getElem? stored)] at member
    cases member
  · intro j ending entry same
    subst same
    cases other

/-- A listen, an event and a cancel. -/
theorem stream_order_ended : ∃ s labels, sampleMachine.GuardedRun Orderly labels s ∧
    (s.frames 0).length = 3 ∧ s.StreamOrder := by
  have begun : sampleMachine.start {} := rfl
  obtain ⟨s, run, three⟩ := Machine.exists_guardedRun
    (listenSteps 8 ++ [.publish (text "r"), .actPublish 0, .actPublish 0, .actPublish 0,
      .frame 0 cancelFrame, .act 1 false, .act 1 false, .act 1 false]) orderlyTest
    (fun s : McpServer => decide ((s.frames 0).length = 3)) begun (by decide +kernel)
  have orderly : sampleMachine.GuardedRun Orderly _ s := run.mono fun _ _ => orderly_of_test
  exact ⟨s, _, orderly, of_decide_eq_true three, stream_order orderly⟩

/-- A cancel ends a subscription whose acknowledgement is still to be sent. -/
theorem stream_order_fails : ∃ s, sampleMachine.Reachable s ∧ ¬s.StreamOrder := by
  have begun : sampleMachine.start {} := rfl
  obtain ⟨s, reachable, overtaken⟩ := Machine.exists_reachable
    (listenSteps 6 ++ [.frame 0 cancelFrame, .act 1 false, .act 1 false, .act 1 false,
      .act 0 false])
    (fun s : McpServer => decide (s.frames 0 = [(0, .ended (.string (text "x"))),
      (0, .acknowledged (.string (text "x")) [text "r"])])) begun (by decide +kernel)
  have frames := of_decide_eq_true overtaken
  refine ⟨s, reachable, fun order => ?_⟩
  rcases order 0 with empty | ⟨session, id, uris, began | ended⟩
  · rw [frames] at empty
    cases empty
  · obtain ⟨events, _, same⟩ := began
    rw [frames] at same
    cases same
  · obtain ⟨open', ⟨events, _, rfl⟩, same⟩ := ended
    rw [frames] at same
    cases same

end McpServer

end BbtInfra.Mcp
