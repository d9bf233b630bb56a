import BbtInfra.Mcp.StreamOrder
import BbtInfra.Mcp.Survivors

/-!
# Events behind an acknowledgement

A publisher passes over the subscriptions that are not marked as acknowledged, and a listen marks
its subscription only after it has sent the acknowledgement. An event reaches every subscription
whose acknowledgement the client has seen as long as no publisher collects between the two.
-/
namespace BbtInfra.Mcp

open Lib List

/-- A uri under which a resource is registered. -/
def Registry.Knows (registry : Registry) (uri : Bytes) : Prop :=
  ∃ definition ∈ registry.resources, definition.uri = uri

/-- The uris of a listen on its way to the table. -/
def CallPc.uris : CallPc → List Bytes
  | .listenCheck _ uris | .listenAdmit _ uris | .listenInsert _ uris => uris
  | _ => []

/-- A listen accepts registered uris only. -/
def Dispatched.Knows (registry : Registry) : Dispatched → Prop
  | .listen _ uris => ∀ uri ∈ uris, registry.Knows uri
  | _ => True

/-- How far a publish has come with its event for a subscription. -/
def PublishPc.Serves (event : Delivery) (delivered : List Delivery) : PublishPc → Prop
  | .gate | .collect => True
  | .deliver targets _ => event ∈ targets ∨ event ∈ delivered
  | .returned _ => event ∈ delivered

section Dispatch

variable {options : ServerOptions} {registry : Registry} {request : JsonRpcRequest}

section

variable (modern : Bool) (capabilities : JsonValue)

/-- The dispatches that end in a callback open no subscription. -/
theorem dispatchRead_knows :
    (dispatchRead registry request modern capabilities).Knows registry := by
  unfold dispatchRead
  split
  · exact trivial
  · split <;> exact trivial

/-- Nor does a call of a tool. -/
theorem dispatchTool_knows :
    (dispatchTool registry request modern capabilities).Knows registry := by
  unfold dispatchTool
  split
  · exact trivial
  · split
    · exact trivial
    · dsimp only
      split
      · exact trivial
      · split <;> exact trivial

/-- Nor does a request for a prompt. -/
theorem dispatchPrompt_knows :
    (dispatchPrompt registry request modern capabilities).Knows registry := by
  unfold dispatchPrompt
  split
  · exact trivial
  · split
    · exact trivial
    · dsimp only
      split
      · exact trivial
      · split
        · exact trivial
        · split <;> exact trivial

/-- `DispatchBusiness` opens no subscription. -/
theorem dispatchBusiness_knows :
    (dispatchBusiness options registry request modern capabilities).Knows registry := by
  unfold dispatchBusiness
  dsimp only
  split
  · exact trivial
  split
  · exact trivial
  split
  · exact trivial
  split
  · exact dispatchRead_knows modern capabilities
  split
  · exact trivial
  split
  · exact trivial
  split
  · exact dispatchTool_knows modern capabilities
  split
  · exact dispatchPrompt_knows modern capabilities
  · exact trivial

end

/-- `HandleSubscriptionsListen` accepts registered uris only. -/
theorem dispatchListen_knows : (dispatchListen registry request).Knows registry := by
  unfold dispatchListen
  split
  · exact trivial
  · split
    · exact trivial
    · split
      · exact trivial
      · intro uri member
        obtain ⟨definition, listed, same⟩ := any_eq_true.mp (mem_filter.mp member).2
        exact ⟨definition, listed, of_decide_eq_true same⟩

/-- `DispatchModern` accepts registered uris only. -/
theorem dispatchModern_knows :
    (dispatchModern options registry request).Knows registry := by
  unfold dispatchModern
  split
  · exact trivial
  · unfold dispatchAccepted
    split
    · exact trivial
    split
    · exact dispatchListen_knows
    split
    · exact trivial
    · split
      · exact dispatchBusiness_knows _ _
      · exact trivial

/-- `DispatchLegacy` opens no subscription. -/
theorem dispatchLegacy_knows (accepted : Bool) (capabilities : JsonValue) :
    (dispatchLegacy options registry request accepted capabilities).Knows registry := by
  unfold dispatchLegacy
  split
  · unfold handleInitialize
    dsimp only
    repeat' split
    all_goals exact trivial
  split
  · exact trivial
  split
  · exact trivial
  split
  · exact trivial
  · exact dispatchBusiness_knows _ _

end Dispatch

namespace McpServer

/-- The acknowledgement of a subscription was sent before this many frames were. -/
def Acked (s : McpServer) (begun : Nat) (entry : SubscriptionEntry) : Prop :=
  ∃ delivery ∈ s.delivered.take begun, delivery.token = entry.token ∧
    ∃ id uris, delivery.frame = .acknowledged id uris

/-- The event of a publisher for a subscription. -/
def eventOf (j : Nat) (uri : Bytes) (entry : SubscriptionEntry) : Delivery :=
  { session := entry.session, token := entry.token, frame := .updated entry.listenId uri
    publisher := some j }

/-- A publish that was called behind the acknowledgement of a subscription has delivered its event,
when it has returned and the subscription is still there. -/
def NoLostEvent (s : McpServer) : Prop :=
  ∀ (j : Nat) (publish : Publish) (result : Except Error Nat), s.publishes[j]? = some publish →
    publish.pc = .returned result → ∀ entry ∈ s.subscriptions,
      publish.uri ∈ entry.resourceUris → s.Acked publish.begun entry →
        eventOf j publish.uri entry ∈ s.delivered

/-- A publisher collects only behind the marks of the acknowledgements that came before its call,
and no listen inserts behind a `Close` that has emptied the table. -/
def Heeded (s : McpServer) (label : Label) : Prop :=
  (∀ (j : Nat) (publish : Publish), label = .actPublish j → s.publishes[j]? = some publish →
    publish.pc = .collect → ∀ entry ∈ s.subscriptions, publish.uri ∈ entry.resourceUris →
      s.Acked publish.begun entry → entry.ackSent = true) ∧
  ∀ (i : Nat) (call : Call) (id : RequestId) (uris : List Bytes), actor label = some i →
    s.calls[i]? = some call → call.pc = .listenInsert id uris → s.swept = false

variable {boost : Bytes → Nat → Except JsonFault JsonValue} {options : ServerOptions}
  {registry : Registry} {s s' : McpServer} {i : Nat} {call : Call} {late : Bool}
  {entry : SubscriptionEntry}

/-- A frame that a step sends: an acknowledgement, an event that was collected, or an end that was
owed. -/
def Sends (s : McpServer) (delivery : Delivery) : Prop :=
  (∃ (i : Nat) (call : Call) (token : Nat) (id : RequestId) (uris : List Bytes),
    s.calls[i]? = some call ∧ call.pc = .acknowledge token id uris ∧
    delivery.session = call.session ∧ delivery.token = token) ∨
  (∃ (j : Nat) (publish : Publish), s.publishes[j]? = some publish ∧ delivery ∈ publish.pc.targets) ∨
  ∃ entry, s.Owes entry ∧ delivery.session = entry.session ∧ delivery.token = entry.token

/-- What a delivery to a sink adds. -/
theorem delivered_deliver (delivery : Delivery) :
    (s.deliver delivery).delivered = s.delivered ∨
      (s.hasSink delivery.session = true ∧
        (s.deliver delivery).delivered = s.delivered ++ [delivery]) := by
  unfold deliver hasSink
  split
  next sink => exact .inr ⟨sink, rfl⟩
  · exact .inl rfl

variable {label : Label} {home : Nat → Nat} {j : Nat}

section

variable (steps : Steps boost options registry s label s')

include steps

/-- A step sends at most one frame. -/
theorem Steps.delivered : s'.delivered = s.delivered ∨ ∃ delivery, s.Sends delivery ∧
      s.hasSink delivery.session = true ∧ s'.delivered = s.delivered ++ [delivery] := by
  have one (delivery : Delivery) (sends : s.Sends delivery)
      (same : s'.delivered = (s.deliver delivery).delivered) :
      s'.delivered = s.delivered ∨ ∃ delivery, s.Sends delivery ∧
        s.hasSink delivery.session = true ∧ s'.delivered = s.delivered ++ [delivery] := by
    rcases delivered_deliver (s := s) delivery with nothing | ⟨sink, more⟩
    · exact .inl (same.trans nothing)
    · exact .inr ⟨delivery, sends, sink, same.trans more⟩
  cases steps with
  | acted i call late label next found origin acts =>
    generalize place : call.pc = before at acts
    cases acts with
    | acknowledged token id uris =>
      exact one _ (.inl ⟨i, call, token, id, uris, found, place, rfl, rfl⟩) rfl
    | announced entry =>
      have owes : s.Owes entry := .inr (.inl ⟨i, call, found, by rw [place]; rfl⟩)
      exact one _ (.inr (.inr ⟨entry, owes, rfl, rfl⟩)) rfl
    | _ => exact .inl rfl
  | sent j publish target rest count found place =>
    exact one target (.inr (.inl ⟨j, publish, found, by rw [place]; exact mem_cons_self⟩)) rfl
  | emitted j ending entry rest taken found place =>
    have owes : s.Owes entry := .inr (.inr ⟨j, ending, found, by rw [place]; exact mem_cons_self⟩)
    exact one _ (.inr (.inr ⟨entry, owes, rfl, rfl⟩)) rfl
  | _ => exact .inl rfl

/-- A call that stands before its insertion inserts. -/
theorem Steps.inserts
    (acts : actor label = some i) (found : s.calls[i]? = some call) {id : RequestId}
    {uris : List Bytes} (place : call.pc = .listenInsert id uris) :
    s' = s.insertSubscription i call id uris := by
  cases steps with
  | acted j other late label next found' origin step =>
    have same : j = i := Option.some.inj ((actor_of_origin origin).symm.trans acts)
    subst same
    cases found.symm.trans found'
    rw [place] at step
    cases step with
    | moved before pc moves => cases moves
    | stated before outcome sessions origin' sinks =>
      rcases origin' with ⟨wrong, _⟩ | ⟨version, capabilities, wrong⟩
      · cases wrong
      · cases wrong
    | inserted => rfl
  | _ => cases acts

/-- A step of a call that does not insert leaves the tokens that are given out. -/
theorem Steps.nextToken : s'.nextToken = s.nextToken ∨ ∃ i call id uris, actor label = some i ∧
      s.calls[i]? = some call ∧ call.pc = .listenInsert id uris := by
  have deliver (delivery : Delivery) : (s.deliver delivery).nextToken = s.nextToken := by
    unfold McpServer.deliver
    split <;> rfl
  cases steps with
  | acted i call late label next found origin acts =>
    generalize place : call.pc = before at acts
    cases acts with
    | inserted id uris => exact .inr ⟨i, call, id, uris, actor_of_origin origin, found, place⟩
    | acknowledged | announced => exact .inl (deliver _)
    | _ => exact .inl rfl
  | sent => exact .inl (deliver _)
  | emitted => exact .inl (deliver _)
  | _ => exact .inl rfl

/-- What a publisher holds was collected before, or it has just collected it. -/
theorem Steps.holds
    {publish : Publish} (found : s'.publishes[j]? = some publish) {target : Delivery}
    (member : target ∈ publish.pc.targets) :
    (∃ before, s.publishes[j]? = some before ∧ target ∈ before.pc.targets) ∨
      ∃ entry ∈ s.subscriptions, target.token = entry.token ∧ target.session = entry.session := by
  have same (publishes : s'.publishes = s.publishes) :
      (∃ before, s.publishes[j]? = some before ∧ target ∈ before.pc.targets) ∨
        ∃ entry ∈ s.subscriptions, target.token = entry.token ∧ target.session = entry.session :=
    .inl ⟨publish, publishes ▸ found, member⟩
  cases steps with
  | acted i call late label next found' origin acts => exact same acts.publishes
  | publishes uri =>
    rcases getElem?_push_cases found with ⟨_, rfl⟩ | old
    · cases member
    · exact .inl ⟨publish, old, member⟩
  | barred | passed | counted =>
    rcases getElem?_set_cases found with ⟨_, rfl⟩ | old
    · cases member
    · exact .inl ⟨publish, old, member⟩
  | collected k before =>
    rcases getElem?_set_cases found with ⟨_, rfl⟩ | old
    · obtain ⟨entry, chosen, rfl⟩ := mem_map.mp member
      exact .inr ⟨entry, (mem_filter.mp chosen).1, rfl, rfl⟩
    · exact .inl ⟨publish, old, member⟩
  | sent k before target' rest count found' place =>
    rcases getElem?_set_cases found with ⟨rfl, rfl⟩ | old
    · refine .inl ⟨before, found', ?_⟩
      rw [place]
      exact mem_cons_of_mem _ member
    · exact .inl ⟨publish, old, member⟩
  | emitted => exact same (deliver_publishes _)
  | _ => exact same rfl

/-- A call that is about to acknowledge was so before, or it has just inserted. -/
theorem Steps.acknowledging
    {other : Call} (found : s'.calls[j]? = some other) {token : Nat} {id : RequestId}
    {uris : List Bytes} (place : other.pc = .acknowledge token id uris) :
    (∃ before, s.calls[j]? = some before ∧ before.pc = .acknowledge token id uris ∧
      before.session = other.session) ∨
    ∃ i call id uris, actor label = some i ∧ s.calls[i]? = some call ∧
      call.pc = .listenInsert id uris := by
  have same (calls : s'.calls = s.calls) :
      (∃ before, s.calls[j]? = some before ∧ before.pc = .acknowledge token id uris ∧
        before.session = other.session) ∨
      ∃ i call id uris, actor label = some i ∧ s.calls[i]? = some call ∧
        call.pc = .listenInsert id uris :=
    .inl ⟨other, calls ▸ found, place, rfl⟩
  cases steps with
  | acted i call late label next present origin acts =>
    -- A call that goes on elsewhere is about to acknowledge nothing.
    have elsewhere (call' : Call) (calls : s'.calls = s.calls.set i call')
        (idle : ∀ token id uris, call'.pc ≠ .acknowledge token id uris) :
        (∃ before, s.calls[j]? = some before ∧ before.pc = .acknowledge token id uris ∧
          before.session = other.session) ∨
        ∃ i call id uris, actor label = some i ∧ s.calls[i]? = some call ∧
          call.pc = .listenInsert id uris := by
      rw [calls] at found
      rcases getElem?_set_cases found with ⟨_, rfl⟩ | old
      · exact absurd place (idle token id uris)
      · exact .inl ⟨other, old, place, rfl⟩
    generalize here : call.pc = before at acts
    cases acts with
    | moved before pc moves =>
      apply elsewhere { call with pc } rfl
      intro token id uris same
      have none' := moves_streamToken moves
      rw [show pc = .acknowledge token id uris from same] at none'
      cases none'
    | inserted id' uris' =>
      exact .inr ⟨i, call, id', uris', actor_of_origin origin, present, here⟩
    | acknowledged | announced =>
      exact elsewhere _ (congrArg (set · i _) (deliver_calls _)) (by intro _ _ _ same; cases same)
    | _ => exact elsewhere _ rfl (by intro _ _ _ same; cases same)
  | begun session raw known =>
    rcases getElem?_push_cases found with ⟨_, rfl⟩ | old
    · unfold newCall at place
      dsimp only at place
      split at place
      · cases place
      · cases place
    · exact .inl ⟨other, old, place, rfl⟩
  | sent | emitted => exact same (deliver_calls _)
  | _ => exact same rfl

end

/-- Every stream is at home in one session, which has a sink if anything was sent. -/
structure Homes (s : McpServer) (home : Nat → Nat) : Prop where
  owes : ∀ entry, s.Owes entry → entry.token < s.nextToken ∧ entry.session = home entry.token
  delivered : ∀ delivery ∈ s.delivered,
    delivery.token < s.nextToken ∧ delivery.session = home delivery.token ∧
      s.hasSink delivery.session = true
  collected : ∀ (j : Nat) (publish : Publish), s.publishes[j]? = some publish →
    ∀ target ∈ publish.pc.targets, target.token < s.nextToken ∧ target.session = home target.token
  acknowledging : ∀ (i : Nat) (call : Call) (token : Nat) (id : RequestId) (uris : List Bytes),
    s.calls[i]? = some call → call.pc = .acknowledge token id uris →
      token < s.nextToken ∧ call.session = home token

/-- A frame that is sent belongs to the session of its stream. -/
theorem Homes.sends (homes : s.Homes home) {delivery : Delivery} (sends : s.Sends delivery) :
    delivery.token < s.nextToken ∧ delivery.session = home delivery.token := by
  rcases sends with ⟨i, call, token, id, uris, found, place, session, same⟩ |
    ⟨j, publish, found, member⟩ | ⟨entry, owes, session, same⟩
  · rw [session, same]
    exact homes.acknowledging i call token id uris found place
  · exact homes.collected j publish found delivery member
  · rw [session, same]
    exact homes.owes entry owes

/-- A sink stays. -/
theorem Steps.hasSink (steps : Steps boost options registry s label s')
    {session : Nat} (sink : s.hasSink session = true) : s'.hasSink session = true := by
  have same (sessions : s'.sessions = s.sessions) : s'.hasSink session = true := by
    unfold McpServer.hasSink
    rw [sessions]
    exact sink
  cases steps with
  | acted i call late label next found origin acts =>
    generalize call.pc = before at acts
    cases acts with
    | stated before outcome sessions origin' sinks =>
      exact (hasSink_of_map sinks session).trans sink
    | acknowledged | announced => exact same (deliver_sessions _)
    | _ => exact same rfl
  | joined other =>
    have inside : session < s.sessions.length := by
      by_contra outside
      unfold McpServer.hasSink at sink
      rw [getElem?_eq_none (by omega)] at sink
      cases sink
    unfold McpServer.hasSink
    rw [getElem?_append_left inside]
    exact sink
  | adopted other version sessions sinks => exact (hasSink_of_map sinks session).trans sink
  | sent | emitted => exact same (deliver_sessions _)
  | _ => exact same rfl

/-- The insertion of a subscription gives its stream a home. -/
theorem Homes.insert (homes : s.Homes home) (id : RequestId) (uris : List Bytes) :
    (s.insertSubscription i call id uris).Homes
      (Function.update home s.nextToken call.session) := by
  have kept {token session : Nat} (known : token < s.nextToken ∧ session = home token) :
      token < s.nextToken + 1 ∧
        session = Function.update home s.nextToken call.session token := by
    rw [Function.update_of_ne (Nat.ne_of_lt known.1)]
    exact ⟨Nat.lt_succ_of_lt known.1, known.2⟩
  have new : s.nextToken < s.nextToken + 1 ∧
      call.session = Function.update home s.nextToken call.session s.nextToken := by
    rw [Function.update_self]
    exact ⟨Nat.lt_succ_self _, rfl⟩
  constructor
  · intro entry owes
    rcases owes_insert owes with old | rfl
    · exact kept (homes.owes entry old)
    · exact new
  · intro delivery sent
    obtain ⟨known, session, sink⟩ := homes.delivered delivery sent
    have kept' := kept ⟨known, session⟩
    exact ⟨kept'.1, kept'.2, sink⟩
  · exact fun j publish found target member => kept (homes.collected j publish found target member)
  · intro j other token id' uris' found place
    rcases getElem?_set_cases found with ⟨_, rfl⟩ | old
    · cases place
      exact new
    · exact kept (homes.acknowledging j other token id' uris' old place)

/-- Every step leaves the streams at home. -/
theorem Steps.homes (homes : s.Homes home)
    (steps : Steps boost options registry s label s') : ∃ home', s'.Homes home' := by
  by_cases inserting : ∃ (i : Nat) (call : Call) (id : RequestId) (uris : List Bytes),
      actor label = some i ∧ s.calls[i]? = some call ∧ call.pc = .listenInsert id uris
  · obtain ⟨i, call, id, uris, acts, found, place⟩ := inserting
    rw [steps.inserts acts found place]
    exact ⟨_, homes.insert id uris⟩
  have next : s'.nextToken = s.nextToken := steps.nextToken.resolve_right inserting
  refine ⟨home, ?_, ?_, ?_, ?_⟩
  · intro entry owes
    rw [next]
    rcases steps.owes_same owes with ⟨old, before, same⟩ | ⟨i, call, id, uris, acts, found, place, _⟩
    · rw [same]
      exact homes.owes old before
    · exact absurd ⟨i, call, id, uris, acts, found, place⟩ inserting
  · intro delivery sent
    rw [next]
    have known : delivery ∈ s.delivered ∨ (s.Sends delivery ∧ s.hasSink delivery.session = true) := by
      rcases steps.delivered with nothing | ⟨new, sends, sink, more⟩
      · exact .inl (nothing ▸ sent)
      · rw [more] at sent
        rcases mem_append.mp sent with old | last
        · exact .inl old
        · rw [mem_singleton.mp last]
          exact .inr ⟨sends, sink⟩
    rcases known with old | ⟨sends, sink⟩
    · obtain ⟨bound, session, sink⟩ := homes.delivered delivery old
      exact ⟨bound, session, steps.hasSink sink⟩
    · obtain ⟨bound, session⟩ := homes.sends sends
      exact ⟨bound, session, steps.hasSink sink⟩
  · intro j publish found target member
    rw [next]
    rcases steps.holds found member with ⟨before, old, member'⟩ | ⟨entry, stored, token, session⟩
    · exact homes.collected j before old target member'
    · rw [token, session]
      exact homes.owes entry (.inl stored)
  · intro j other token id uris found place
    rw [next]
    rcases steps.acknowledging found place with ⟨before, old, place', session⟩ | inserts
    · rw [← session]
      exact homes.acknowledging j before token id uris old place'
    · exact absurd inserts inserting

/-- What every run keeps beside its subscriptions: an entry is there only on a server that was
started, for registered uris, and a closed server is locked or swept. -/
structure Feeds (registry : Registry) (s : McpServer) : Prop where
  listening : ∀ (i : Nat) (call : Call), s.calls[i]? = some call →
    ∀ uri ∈ call.pc.uris, registry.Knows uri
  started : ∀ (i : Nat) (call : Call) (id : RequestId) (uris : List Bytes),
    s.calls[i]? = some call → call.pc = .listenInsert id uris → s.started = true
  entries : ∀ entry ∈ s.subscriptions, s.started = true ∧
    ∀ uri ∈ entry.resourceUris, registry.Knows uri
  closed : s.closed = true → s.locked = true ∨ s.swept = true
  sweeps : ∀ (j left : Nat),
    s.closes[j]? = some (.clear left) ∨ s.closes[j]? = some (.release left) → s.swept = true

/-- The gates of the server, which no step of a call touches. -/
theorem Acts.gates {before : CallPc} (acts : Acts boost options registry s i call late before s') :
    s'.started = s.started ∧ s'.closed = s.closed ∧ s'.locked = s.locked := by
  have deliver (delivery : Delivery) : (s.deliver delivery).started = s.started ∧
      (s.deliver delivery).closed = s.closed ∧ (s.deliver delivery).locked = s.locked := by
    unfold McpServer.deliver
    split <;> exact ⟨rfl, rfl, rfl⟩
  cases acts with
  | acknowledged => exact deliver _
  | announced => exact deliver _
  | _ => exact ⟨rfl, rfl, rfl⟩

/-- A server that was started stays so. -/
theorem Steps.started' (steps : Steps boost options registry s label s')
    (begun : s.started = true) : s'.started = true := by
  have deliver (delivery : Delivery) : (s.deliver delivery).started = s.started := by
    unfold McpServer.deliver
    split <;> rfl
  cases steps with
  | acted i call late label next found origin acts => exact acts.gates.1.trans begun
  | started unlocked =>
    rw [begun]
    rfl
  | sent | emitted => exact (deliver _).trans begun
  | _ => exact begun

/-- The uris of a call come from its dispatch, and a listen that is admitted is on a started
server. -/
theorem Acts.uris {before : CallPc} (acts : Acts boost options registry s i call late before s') :
    ∃ call', s'.calls = s.calls.set i call' ∧
      (∀ uri ∈ call'.pc.uris, uri ∈ before.uris ∨ registry.Knows uri) ∧
      ∀ id uris, call'.pc = .listenInsert id uris → s.started = true := by
  have idle (call' : Call) (none' : call'.pc.uris = []) :
      ∀ uri ∈ call'.pc.uris, uri ∈ before.uris ∨ registry.Knows uri := by
    rw [none']
    exact forall_mem_nil _
  cases acts with
  | moved before pc moves =>
    refine ⟨{ call with pc }, rfl, ?_, ?_⟩
    · cases moves with
      | dispatched pc dispatched =>
        cases dispatched with
        | asked request dispatched parsed asked source =>
          have knows : dispatched.Knows registry := by
            rcases source with rfl | ⟨accepted, capabilities, rfl⟩
            · exact dispatchModern_knows
            · exact dispatchLegacy_knows accepted capabilities
          intro uri member
          cases dispatched with
          | listen id uris => exact .inr (knows uri member)
          | _ => cases member
        | _ => exact forall_mem_nil _
      | free id uris => exact fun uri member => .inl member
      | _ => exact forall_mem_nil _
    · intro id uris same
      have same : pc = .listenInsert id uris := same
      subst same
      cases moves with
      | dispatched pc dispatched =>
        generalize there : CallPc.listenInsert id uris = pc at dispatched
        cases dispatched with
        | asked request dispatched => cases dispatched <;> cases there
        | _ => cases there
  | reserved id uris unlocked started =>
    exact ⟨_, rfl, fun uri member => .inl member, fun _ _ _ => started⟩
  | acknowledged | announced =>
    exact ⟨_, congrArg (set · i _) (deliver_calls _), idle _ rfl,
      by intro _ _ same; cases same⟩
  | _ => exact ⟨_, rfl, idle _ rfl, by intro _ _ same; cases same⟩

/-- An entry after a step was there before, or it was just opened. -/
theorem Steps.entry_origin (steps : Steps boost options registry s label s')
    (stored : entry ∈ s'.subscriptions) : (∃ old ∈ s.subscriptions, old.Same entry) ∨
      ∃ i call id uris, actor label = some i ∧ s.calls[i]? = some call ∧
        call.pc = .listenInsert id uris ∧ entry = s.newEntry i call id uris := by
  rcases steps.table with fewer | ⟨token, marks⟩ | ⟨i, call, id, uris, acts, found, place, table⟩
  · exact .inl ⟨entry, fewer.subset stored, .refl entry⟩
  · rw [marks] at stored
    obtain ⟨old, before, rfl⟩ := mem_map.mp stored
    refine .inl ⟨old, before, ?_⟩
    split <;> rfl
  · rw [table] at stored
    rcases mem_append.mp stored with old | new
    · exact .inl ⟨entry, old, .refl entry⟩
    · exact .inr ⟨i, call, id, uris, acts, found, place, mem_singleton.mp new⟩

/-- Every step keeps the listens on their way and the entries. -/
theorem Steps.feeds (feeds : s.Feeds registry)
    (steps : Steps boost options registry s label s') : s'.Feeds registry := by
  have calls (j : Nat) (other : Call) (found : s'.calls[j]? = some other) :
      (∀ uri ∈ other.pc.uris, registry.Knows uri) ∧
        ∀ id uris, other.pc = .listenInsert id uris → s.started = true := by
    have same (calls : s'.calls = s.calls) : (∀ uri ∈ other.pc.uris, registry.Knows uri) ∧
        ∀ id uris, other.pc = .listenInsert id uris → s.started = true := by
      rw [calls] at found
      exact ⟨feeds.listening j other found, fun id uris => feeds.started j other id uris found⟩
    cases steps with
    | acted i call late label next present origin acts =>
      obtain ⟨call', calls, uris, started⟩ := acts.uris
      rw [calls] at found
      rcases getElem?_set_cases found with ⟨_, rfl⟩ | old
      · refine ⟨fun uri member => ?_, started⟩
        rcases uris uri member with before | knows
        · exact feeds.listening i call present uri before
        · exact knows
      · exact ⟨feeds.listening j other old, fun id uris => feeds.started j other id uris old⟩
    | begun session raw known =>
      rcases getElem?_push_cases found with ⟨_, rfl⟩ | old
      · unfold newCall
        dsimp only
        split
        · exact ⟨forall_mem_nil _, by intro _ _ same; cases same⟩
        · exact ⟨forall_mem_nil _, by intro _ _ same; cases same⟩
      · exact ⟨feeds.listening j other old, fun id uris => feeds.started j other id uris old⟩
    | sent | emitted => exact same (deliver_calls _)
    | _ => exact same rfl
  have entries (entry : SubscriptionEntry) (stored : entry ∈ s'.subscriptions) :
      s'.started = true ∧ ∀ uri ∈ entry.resourceUris, registry.Knows uri := by
    rcases steps.entry_origin stored with ⟨old, before, same⟩ | ⟨i, call, id, uris, _, found, place, rfl⟩
    · obtain ⟨started, knows⟩ := feeds.entries old before
      rw [same]
      exact ⟨steps.started' started, knows⟩
    · refine ⟨steps.started' (feeds.started i call id uris found place), ?_⟩
      have knows := feeds.listening i call found
      rw [place] at knows
      exact knows
  have closed : s'.closed = true → s'.locked = true ∨ s'.swept = true := by
    have deliver (delivery : Delivery) (closed : (s.deliver delivery).closed = true) :
        (s.deliver delivery).locked = true ∨ (s.deliver delivery).swept = true := by
      have gates : (s.deliver delivery).closed = s.closed ∧
          (s.deliver delivery).locked = s.locked := by
        unfold McpServer.deliver
        split <;> exact ⟨rfl, rfl⟩
      rw [gates.1] at closed
      rw [gates.2, deliver_swept]
      exact feeds.closed closed
    cases steps with
    | acted i call late label next found origin acts =>
      rw [acts.gates.2.1, acts.gates.2.2, acts.sweeps.1]
      exact feeds.closed
    | sent => exact deliver _
    | emitted => exact deliver _
    | sealed' => exact fun _ => .inl rfl
    | swept => exact fun _ => .inr rfl
    | cleared j drained found => exact fun _ => .inr (feeds.sweeps j drained (.inl found))
    | _ => exact feeds.closed
  constructor
  · exact fun i call found => (calls i call found).1
  · exact fun i call id uris found place => steps.started' ((calls i call found).2 id uris place)
  · exact entries
  · exact closed
  · exact (steps.sweeps feeds.sweeps).2

/-- The publishes that were called behind an acknowledgement serve its subscription. -/
structure Serving (s : McpServer) : Prop where
  begun : ∀ (j : Nat) (publish : Publish), s.publishes[j]? = some publish →
    publish.begun ≤ s.delivered.length
  serves : ∀ (j : Nat) (publish : Publish), s.publishes[j]? = some publish →
    ∀ entry ∈ s.subscriptions, publish.uri ∈ entry.resourceUris → s.Acked publish.begun entry →
      publish.pc.Serves (eventOf j publish.uri entry) s.delivered
  swept : s.swept = true → s.subscriptions = []

/-- How a publish goes on. -/
inductive Goes (registry : Registry) (s s' : McpServer) (j : Nat) (uri : Bytes) :
    PublishPc → PublishPc → Prop
  | stays (pc : PublishPc) : Goes registry s s' j uri pc pc
  | barred (error : Error) : s.locked = false →
    (s.started = false ∨ s.closed = true ∨ ¬registry.Knows uri) →
    Goes registry s s' j uri .gate (.returned (.error error))
  | passed : Goes registry s s' j uri .gate .collect
  | collected : Goes registry s s' j uri .collect
    (.deliver (s.targets j uri) (s.targets j uri).length)
  | counted (count : Nat) : Goes registry s s' j uri (.deliver [] count) (.returned (.ok count))
  | sent (target : Delivery) (rest : List Delivery) (count : Nat) :
    s'.delivered = (s.deliver target).delivered →
    Goes registry s s' j uri (.deliver (target :: rest) count) (.deliver rest count)

/-- A publish after a step has just been called, or it has gone on. -/
theorem Steps.publish {label : Label} (steps : Steps boost options registry s label s') {j : Nat}
    {publish : Publish} (found : s'.publishes[j]? = some publish) :
    (publish.pc = .gate ∧ publish.begun = s.delivered.length) ∨
      ∃ before, s.publishes[j]? = some before ∧ publish.uri = before.uri ∧
        publish.begun = before.begun ∧ Goes registry s s' j before.uri before.pc publish.pc ∧
        (before.pc = .collect → publish.pc = .collect ∨ label = .actPublish j) := by
  have same (old : s.publishes[j]? = some publish) :
      (publish.pc = .gate ∧ publish.begun = s.delivered.length) ∨
        ∃ before, s.publishes[j]? = some before ∧ publish.uri = before.uri ∧
          publish.begun = before.begun ∧ Goes registry s s' j before.uri before.pc publish.pc ∧
          (before.pc = .collect → publish.pc = .collect ∨ label = .actPublish j) :=
    .inr ⟨publish, old, rfl, rfl, .stays _, fun place => .inl place⟩
  -- The publish that acts goes on, the others stay.
  have goes {k : Nat} {before : Publish} (pc : PublishPc) (acts : label = .actPublish k)
      (present : s.publishes[k]? = some before)
      (publishes : s'.publishes = s.publishes.set k { before with pc })
      (goes : Goes registry s s' k before.uri before.pc pc) :
      (publish.pc = .gate ∧ publish.begun = s.delivered.length) ∨
        ∃ before, s.publishes[j]? = some before ∧ publish.uri = before.uri ∧
          publish.begun = before.begun ∧ Goes registry s s' j before.uri before.pc publish.pc ∧
          (before.pc = .collect → publish.pc = .collect ∨ label = .actPublish j) := by
    rw [publishes] at found
    rcases getElem?_set_cases found with ⟨rfl, rfl⟩ | old
    · exact .inr ⟨before, present, rfl, rfl, goes, fun _ => .inr acts⟩
    · exact same old
  cases steps with
  | acted i call late label next found' origin acts => exact same (acts.publishes ▸ found)
  | publishes uri =>
    rcases getElem?_push_cases found with ⟨_, rfl⟩ | old
    · exact .inl ⟨rfl, rfl⟩
    · exact same old
  | barred k before error present place unlocked refused =>
    apply goes (.returned (.error error)) rfl present rfl
    rw [place]
    apply Goes.barred error unlocked
    refine refused.imp_right fun refused => refused.imp_right fun unknown => ?_
    rintro ⟨definition, listed, known⟩
    exact unknown definition listed known
  | passed k before present place => exact goes .collect rfl present rfl (place ▸ .passed)
  | collected k before present place => exact goes _ rfl present rfl (place ▸ .collected)
  | counted k before count present place => exact goes _ rfl present rfl (place ▸ .counted count)
  | sent k before target rest count present place =>
    exact goes _ rfl present rfl (place ▸ .sent target rest count rfl)
  | emitted => exact same ((deliver_publishes (s := s) _) ▸ found)
  | _ => exact same found

/-- An acknowledgement that was sent was sent to a sink in the session of its subscription. -/
theorem Homes.acked (homes : s.Homes home) {begun : Nat}
    (stored : entry ∈ s.subscriptions) (acked : s.Acked begun entry) :
    s.hasSink entry.session = true := by
  obtain ⟨delivery, sent, token, _⟩ := acked
  obtain ⟨_, session, sink⟩ := homes.delivered delivery (mem_of_mem_take sent)
  obtain ⟨_, session'⟩ := homes.owes entry (.inl stored)
  rw [session'.trans (token ▸ session.symm)]
  exact sink

/-- A publish that goes on goes on serving a subscription. -/
theorem Goes.serves (homes : s.Homes home) (feeds : s.Feeds registry)
    (swept : s.swept = true → s.subscriptions = []) {begun : Nat} {uri : Bytes}
    {pc pc' : PublishPc} (stored : entry ∈ s.subscriptions) (accepted : uri ∈ entry.resourceUris)
    (acked : s.Acked begun entry) (marked : pc = .collect → pc' ≠ .collect → entry.ackSent = true)
    (more : s.delivered ⊆ s'.delivered) (serves : pc.Serves (eventOf j uri entry) s.delivered)
    (goes : Goes registry s s' j uri pc pc') : pc'.Serves (eventOf j uri entry) s'.delivered := by
  have sink := homes.acked stored acked
  cases goes with
  | stays =>
    cases pc with
    | gate => trivial
    | collect => trivial
    | deliver targets count => exact serves.imp_right fun sent => more sent
    | returned result => exact more serves
  | barred error unlocked refused =>
    -- The subscription is there, so the gate lets the publish pass.
    obtain ⟨started, knows⟩ := feeds.entries entry stored
    rcases refused with absent | closed | unknown
    · rw [started] at absent
      cases absent
    · rcases feeds.closed closed with locked | sweep
      · rw [unlocked] at locked
        cases locked
      · rw [swept sweep] at stored
        cases stored
    · exact absurd (knows uri accepted) unknown
  | passed => trivial
  | collected =>
    left
    apply mem_map.mpr ⟨entry, _, rfl⟩
    apply mem_filter.mpr ⟨stored, _⟩
    have sent := marked rfl (by intro same; cases same)
    simp only [Bool.and_eq_true, contains_iff_mem]
    exact ⟨⟨sent, accepted⟩, sink⟩
  | counted count =>
    rcases serves with none' | sent
    · cases none'
    · exact more sent
  | sent target rest count delivered =>
    rcases serves with held | sent
    · rcases mem_cons.mp held with first | later
      · right
        rw [delivered, ← first]
        have there : s.hasSink (eventOf j uri entry).session = true := sink
        unfold hasSink at there
        unfold McpServer.deliver
        rw [if_pos there]
        exact mem_append_right _ (mem_singleton_self _)
      · exact .inl later
    · exact .inr (more sent)

/-- Every step of a heeded run keeps the publishes serving. -/
theorem Steps.serving (serving : s.Serving) (homes : s.Homes home)
    (feeds : s.Feeds registry) (heeded : s.Heeded label)
    (steps : Steps boost options registry s label s') : s'.Serving := by
  obtain ⟨last, delivered⟩ : ∃ last, s'.delivered = s.delivered ++ last := by
    rcases steps.delivered with nothing | ⟨delivery, _, _, more⟩
    · exact ⟨[], nothing.trans (append_nil _).symm⟩
    · exact ⟨[delivery], more⟩
  have more : s.delivered ⊆ s'.delivered := by
    rw [delivered]
    exact subset_append_left _ _
  constructor
  · intro j publish found
    rw [delivered, length_append]
    rcases steps.publish found with ⟨_, begun⟩ | ⟨before, old, _, begun, _⟩
    · omega
    · have bound := serving.begun j before old
      omega
  · intro j publish found entry stored accepted acked
    rcases steps.publish found with ⟨gate, _⟩ | ⟨before, old, uri, begun, goes, acts⟩
    · rw [gate]
      trivial
    -- What was sent before the call is what was sent before it in the state before.
    have bound := serving.begun j before old
    have past : s'.delivered.take publish.begun = s.delivered.take before.begun := by
      rw [delivered, begun, take_append_of_le_length bound]
    obtain ⟨frame, sent, token, acknowledges⟩ := acked
    rw [past] at sent
    rcases steps.entry_origin stored with ⟨entry', stored', same⟩ |
      ⟨i, call, id, uris, _, _, _, rfl⟩
    · have event : eventOf j publish.uri entry = eventOf j before.uri entry' := by
        rw [same, uri]
        rfl
      rw [same] at accepted token
      have accepted' : before.uri ∈ entry'.resourceUris := uri ▸ accepted
      have acked' : s.Acked before.begun entry' := ⟨frame, sent, token, acknowledges⟩
      rw [event]
      refine goes.serves homes feeds serving.swept stored' accepted' acked' ?_ more
        (serving.serves j before old entry' stored' accepted' acked')
      intro collects leaves
      rcases acts collects with stays | label
      · exact absurd stays leaves
      · exact heeded.1 j before label old collects entry' stored' accepted' acked'
    · -- Nothing was sent yet for a subscription that has just been opened.
      have known := (homes.delivered frame (mem_of_mem_take sent)).1
      have fresh : frame.token = s.nextToken := token
      omega
  · intro mark
    rcases (steps.sweeps feeds.sweeps).1 with same | none'
    · have swept : s.swept = true := same.symm.trans mark
      have empty := serving.swept swept
      rcases steps.table with fewer | ⟨token, marks⟩ | ⟨i, call, id, uris, acts, found, place, _⟩
      · exact sublist_nil.mp (empty ▸ fewer)
      · rw [marks, empty, map_nil]
      · rw [heeded.2 i call id uris acts found place] at swept
        cases swept
    · exact none'

/-- In a run in which every publisher heeds the acknowledgements that were sent before its call, no
event behind an acknowledgement is lost. -/
theorem no_lost_event {labels : List Label}
    (run : (mcpMachine boost options registry).GuardedRun Heeded labels s) : s.NoLostEvent := by
  have kept : (∃ home, s.Homes home) ∧ s.Feeds registry ∧ s.Serving := by
    apply run.reachableInvariant (fun s => (∃ home, s.Homes home) ∧ s.Feeds registry ∧ s.Serving)
    · intro s begun
      subst begun
      refine ⟨⟨fun _ => 0, ?_, ?_, ?_, ?_⟩, ⟨?_, ?_, ?_, ?_, ?_⟩, ?_, ?_, ?_⟩
      · rintro entry (stored | ⟨i, call, found, _⟩ | ⟨j, ending, found, _⟩)
        · cases stored
        · cases found
        · cases found
      · exact forall_mem_nil _
      · intro j publish found
        cases found
      · intro i call token id uris found
        cases found
      · intro i call found
        cases found
      · intro i call id uris found
        cases found
      · exact forall_mem_nil _
      · intro closed
        cases closed
      · rintro j left (found | found)
        · cases found
        · cases found
      · intro j publish found
        cases found
      · intro j publish found
        cases found
      · exact fun _ => rfl
    · rintro s label next reachable ⟨⟨home, homes⟩, feeds, serving⟩ heeded stepped
      have steps := steps_of_reachable reachable stepped
      exact ⟨steps.homes homes, steps.feeds feeds, steps.serving serving homes feeds heeded⟩
  intro j publish result found returned entry stored accepted acked
  have serves := kept.2.2.serves j publish found entry stored accepted acked
  rw [returned] at serves
  exact serves

/-- A test for the condition, which asks for more than it does. -/
def heededTest (s : McpServer) (label : Label) : Bool :=
  (match label with
    | .actPublish _ => s.subscriptions.all SubscriptionEntry.ackSent
    | _ => true) && !s.swept

/-- A step that passes the test meets the condition. -/
theorem heeded_of_test (test : s.heededTest label = true) : s.Heeded label := by
  obtain ⟨marked, unswept⟩ := Bool.and_eq_true_iff.mp test
  constructor
  · intro j publish same _ _ entry stored _ _
    subst same
    exact all_eq_true.mp marked entry stored
  · intro i call id uris _ _ _
    simpa using unswept

/-- A listen and a publish behind it. -/
theorem no_lost_event_updated : ∃ s labels, sampleMachine.GuardedRun Heeded labels s ∧
    s.delivered.length = 2 ∧ s.NoLostEvent := by
  have begun : sampleMachine.start {} := rfl
  obtain ⟨s, run, two⟩ := Machine.exists_guardedRun
    (listenSteps 8 ++ [.publish (text "r"), .actPublish 0, .actPublish 0, .actPublish 0,
      .actPublish 0]) heededTest
    (fun s : McpServer => decide (s.delivered.length = 2)) begun (by decide +kernel)
  have heeded : sampleMachine.GuardedRun Heeded _ s := run.mono fun _ _ => heeded_of_test
  exact ⟨s, _, heeded, of_decide_eq_true two, no_lost_event heeded⟩

/-- A publisher collects between the acknowledgement of a subscription and its mark, and delivers
nothing to it. -/
theorem no_lost_event_fails : ∃ s, sampleMachine.Reachable s ∧ ¬s.NoLostEvent := by
  have begun : sampleMachine.start {} := rfl
  obtain ⟨s, reachable, lost⟩ := Machine.exists_reachable
    (listenSteps 7 ++ [.publish (text "r"), .actPublish 0, .actPublish 0, .actPublish 0,
      .act 0 false])
    (fun s : McpServer => decide (s.delivered =
        [{ session := 0, token := 0
           frame := .acknowledged (.string (text "x")) [text "r"] }] ∧
        s.subscriptions = [{ token := 0, listenId := .string (text "x"), session := 0
                             resourceUris := [text "r"], ackSent := true, opener := 0 }] ∧
        s.publishes.map (fun publish => (publish.uri, publish.begun)) = [(text "r", 1)]) &&
      s.publishes.all fun publish => publish.pc.result.isSome) begun (by decide +kernel)
  obtain ⟨facts, over'⟩ := Bool.and_eq_true_iff.mp lost
  obtain ⟨delivered, table, calls⟩ := of_decide_eq_true facts
  obtain ⟨publish, _, publishes, same, _⟩ := map_eq_cons_iff.mp calls
  simp only [Prod.mk.injEq] at same
  have found : s.publishes[0]? = some publish := by rw [publishes]; rfl
  obtain ⟨result, returned⟩ := Option.isSome_iff_exists.mp
    (all_eq_true.mp over' publish (mem_of_getElem? found))
  refine ⟨s, reachable, fun none' => ?_⟩
  have event := none' 0 publish result found (PublishPc.of_result returned)
  rw [same.1, same.2, table] at event
  have sent : s.Acked 1 { token := 0, listenId := .string (text "x"), session := 0
                          resourceUris := [text "r"], ackSent := true, opener := 0 } := by
    unfold Acked
    rw [delivered]
    exact ⟨_, mem_singleton_self _, rfl, _, _, rfl⟩
  have served := event _ (mem_singleton_self _) (mem_singleton_self _) sent
  rw [delivered] at served
  have impossible := congrArg Delivery.publisher (mem_singleton.mp served)
  cases impossible

/-- The frames of a stream go to one session only, the one whose call opened the subscription. -/
theorem streams_isolated (reachable : (mcpMachine boost options registry).Reachable s) :
    (∀ one ∈ s.delivered, ∀ other ∈ s.delivered, one.token = other.token →
      one.session = other.session) ∧
    ∀ entry ∈ s.subscriptions,
      (∃ call, s.calls[entry.opener]? = some call ∧ call.session = entry.session) ∧
      ∀ sent ∈ s.delivered, sent.token = entry.token → sent.session = entry.session := by
  have entries := entryLinks_of_reachable reachable
  obtain ⟨home, homes⟩ : ∃ home, s.Homes home := by
    obtain ⟨labels, run⟩ := reachable
    apply run.reachableInvariant fun s => ∃ home, s.Homes home
    · rintro _ rfl
      refine ⟨fun _ => 0, ?_, ?_, ?_, ?_⟩ <;> simp [Owes, Taken]
    · rintro s label next reachable ⟨home, homes⟩ - stepped
      exact (steps_of_reachable reachable stepped).homes homes
  constructor
  · intro one first other second same
    rw [(homes.delivered one first).2.1, (homes.delivered other second).2.1, same]
  · intro entry stored
    obtain ⟨call, opener, session, -⟩ := entries entry (.inl stored)
    refine ⟨⟨call, opener, session⟩, ?_⟩
    intro sent member same
    rw [(homes.delivered sent member).2.1, (homes.owes entry (.inl stored)).2, same]

/-- A listen and a publish behind it. -/
theorem streams_isolated_updated : ∃ s, sampleMachine.Reachable s ∧ s.delivered.length = 2 ∧
    ∀ one ∈ s.delivered, ∀ other ∈ s.delivered, one.token = other.token →
      one.session = other.session := by
  obtain ⟨s, reachable, two⟩ := Machine.exists_reachable (m := sampleMachine)
    (listenSteps 8 ++
      [.publish (text "r")] ++ replicate 4 (.actPublish 0))
    (fun s : McpServer => decide (s.delivered.length = 2)) rfl (by decide +kernel)
  exact ⟨s, reachable, of_decide_eq_true two, (streams_isolated reachable).1⟩

end McpServer

end BbtInfra.Mcp
