import BbtInfra.Mcp.CallShape

/-!
# The ledger of the admissions

`m_inflight` counts the running frames that were admitted and the admissions of subscriptions,
wherever those are: with the call that listens, in the table, or with whoever took them out.
-/
namespace BbtInfra.Mcp

open Lib List

/-- The places of a request with an admission of its own. -/
def CallPc.guarded : CallPc → Bool
  | .admit' | .returned _ | .crashed => false
  | _ => true

/-- Whether `HandleFrame` holds the guard of its frame. -/
def Call.guarded (call : Call) : Bool := !call.recognized && call.pc.guarded

/-- The admission of a subscription that is not in the table, when a call holds it. -/
def CallPc.admissions : CallPc → Nat
  | .listenInsert _ _ | .cancelEmit _ | .cancelReturn _ => 1
  | _ => 0

/-- The entries that an `EndAllSubscriptions` has taken and not given back. -/
def EndPc.admissions : EndPc → Nat
  | .take => 0
  | .emit _ taken => taken
  | .release entries => entries

/-- The entries that a `Close` has taken and not given back. -/
def ClosePc.admissions : ClosePc → Nat
  | .enter | .swap => 0
  | .clear drained => drained
  | .release entries => entries

namespace McpServer

/-- The running admitted guards. -/
def guards (s : McpServer) : Nat := (s.calls.map fun call => call.guarded.toNat).sum

/-- The live admissions of subscriptions. -/
def admissions (s : McpServer) : Nat :=
  (s.calls.map fun call => call.pc.admissions).sum + s.subscriptions.length +
    (s.ends.map fun ending => ending.pc.admissions).sum + (s.closes.map ClosePc.admissions).sum

/-- Whether the step calls `Release`. -/
def releases (s : McpServer) : Label → Prop
  | .act i _ => ∃ call, s.calls[i]? = some call ∧
      ((∃ outcome, call.pc = .release outcome) ∨ ∃ id, call.pc = .cancelReturn id)
  | .actEnd j => ∃ ending left, s.ends[j]? = some ending ∧ ending.pc = .release (left + 1)
  | .actClose j => ∃ left, s.closes[j]? = some (.release (left + 1))
  | _ => False

/-- The counter is right and within its bounds. -/
structure Ledger (s : McpServer) (max : Nat) : Prop where
  counted : s.inflight = s.guards + s.admissions
  bounded : s.inflight ≤ max + 1
  live : s.admissions ≤ max

variable {boost : Bytes → Nat → Except JsonFault JsonValue} {options : ServerOptions}
  {registry : Registry} {s s' : McpServer} {i : Nat} {call : Call} {late : Bool} {max : Nat}

/-- A step of a call that books what it takes and what it returns. A new admission is booked under
the guard of its frame, which leaves room for it. -/
theorem Ledger.book (ledger : s.Ledger max) (found : s.calls[i]? = some call) (call' : Call)
    (calls : s'.calls = s.calls.set i call') (ends : s'.ends = s.ends) (closes : s'.closes = s.closes)
    (books : s'.inflight + call.guarded.toNat + call.pc.admissions + s.subscriptions.length =
      s.inflight + call'.guarded.toNat + call'.pc.admissions + s'.subscriptions.length)
    (bounded : s'.inflight ≤ max + 1)
    (live : call'.pc.admissions + s'.subscriptions.length ≤
        call.pc.admissions + s.subscriptions.length ∨ call'.guarded = true) :
    s'.Ledger max := by
  have guards : s'.guards + call.guarded.toNat = s.guards + call'.guarded.toNat := by
    unfold guards
    rw [calls]
    exact List.sum_map_set _ _ found
  have admissions : s'.admissions + call.pc.admissions + s.subscriptions.length =
      s.admissions + call'.pc.admissions + s'.subscriptions.length := by
    have held := List.sum_map_set (fun call : Call => call.pc.admissions) call' found
    unfold McpServer.admissions
    rw [calls, ends, closes]
    omega
  have counted : s'.inflight = s'.guards + s'.admissions := by
    have before := ledger.counted
    omega
  refine ⟨counted, bounded, ?_⟩
  have before := ledger.live
  rcases live with fewer | guarded
  · omega
  · have own := List.weight_le_sum_map (fun call : Call => call.guarded.toNat)
      (show s'.calls[i]? = some call' by
        rw [calls, List.getElem?_set_found found])
    rw [show call'.guarded.toNat = 1 by rw [guarded]; rfl] at own
    have inside : 1 ≤ s'.guards := own
    omega

/-- `Dispatch` comes to a place under the same guard, and to no admission. -/
theorem dispatches_slots {pc : CallPc} (dispatched : Dispatches boost options registry s call pc) :
    pc.guarded = true ∧ pc.admissions = 0 := by
  cases dispatched with
  | asked request dispatched => cases dispatched <;> exact ⟨rfl, rfl⟩
  | _ => exact ⟨rfl, rfl⟩

/-- A move of its own takes nothing and returns nothing. -/
theorem moves_slots (shaped : call.Shaped boost options) {before pc : CallPc}
    (place : call.pc = before) (moves : Moves boost options registry s call before pc) :
    Call.guarded { call with pc } = call.guarded ∧ pc.admissions = before.admissions := by
  have kept (same : pc.guarded = before.guarded) :
      Call.guarded { call with pc } = call.guarded := by
    simp only [Call.guarded, same, place]
  -- A request that is about to answer has its owner.
  have owned (asked : call.recognized = false) (there : before.owned = true)
      (ownerless : call.owner = none) : False := by
    have present := shaped.owner_isSome asked place there
    rw [ownerless] at present
    cases present
  cases moves with
  | dispatched pc dispatched =>
    have slots := dispatches_slots dispatched
    exact ⟨kept slots.1, slots.2⟩
  | ownerless outcome ownerless =>
    have told : call.recognized = true := by
      by_contra asked
      exact owned (by simpa using asked) rfl ownerless
    constructor
    · simp only [Call.guarded, told, Bool.not_true, Bool.false_and]
    · rfl
  | bare response ownerless | crashed ownerless =>
    exact (owned (shaped.asked (by rw [place]; exact id)) rfl ownerless).elim
  | _ => exact ⟨kept rfl, rfl⟩

/-- Every step of a call keeps the ledger. -/
theorem Acts.ledger (ledger : s.Ledger options.maxInflightRequests)
    (shaped : call.Shaped boost options) (found : s.calls[i]? = some call) {before : CallPc}
    (place : call.pc = before) (acts : Acts boost options registry s i call late before s') :
    s'.Ledger options.maxInflightRequests := by
  have room := ledger.bounded
  have asked (place' : ¬before.OfNotice) : call.recognized = false :=
    shaped.asked (by rw [place]; exact place')
  -- A step that neither takes nor returns.
  have still (call' : Call) (calls : s'.calls = s.calls.set i call')
      (ends : s'.ends = s.ends) (closes : s'.closes = s.closes)
      (inflight : s'.inflight = s.inflight)
      (table : s'.subscriptions.length = s.subscriptions.length)
      (guarded : call'.guarded = call.guarded) (held : call'.pc.admissions = before.admissions) :
      s'.Ledger options.maxInflightRequests := by
    apply ledger.book found call' calls ends closes
    · rw [inflight, table, guarded, held, place]
    · omega
    · left
      rw [table, held, place]
  have same (pc : CallPc) (guarded : pc.guarded = before.guarded) :
      Call.guarded { call with pc } = call.guarded := by
    simp only [Call.guarded, guarded, place]
  have weight (asked : call.recognized = false) (pc : CallPc) :
      Call.guarded { call with pc } = pc.guarded := by
    simp only [Call.guarded, asked, Bool.not_false, Bool.true_and]
  have own (asked : call.recognized = false) : call.guarded = before.guarded := by
    simp only [Call.guarded, asked, place, Bool.not_false, Bool.true_and]
  cases acts with
  | moved before pc moves =>
    obtain ⟨guarded, held⟩ := moves_slots shaped place moves
    exact still _ rfl rfl rfl rfl rfl guarded held
  | admitted unlocked started unsealed free =>
    have asked := asked id
    refine ledger.book found { call with pc := .register } rfl rfl rfl ?_ ?_ ?_
    · rw [own asked, weight asked, place]
      change s.inflight + 1 + 0 + 0 + s.subscriptions.length =
        s.inflight + 1 + 0 + s.subscriptions.length
      omega
    · exact Nat.le_succ_of_le free
    · exact .inr (weight asked _)
  | registered free => exact still _ rfl rfl rfl rfl rfl (same .dispatch rfl) rfl
  | stated before outcome sessions origin =>
    rcases origin with ⟨rfl, _⟩ | ⟨version, capabilities, rfl⟩
    · exact still _ rfl rfl rfl rfl rfl (same (.settle outcome) rfl) rfl
    · exact still _ rfl rfl rfl rfl rfl (same (.settle outcome) rfl) rfl
  | reserved id uris unlocked started unsealed free =>
    have asked := asked fun h => h
    refine ledger.book found { call with pc := .listenInsert id uris } rfl rfl rfl ?_ ?_ ?_
    · rw [own asked, weight asked, place]
      change s.inflight + 1 + 1 + 0 + s.subscriptions.length =
        s.inflight + 1 + 1 + s.subscriptions.length
      omega
    · exact Nat.succ_le_succ free
    · exact .inr (weight asked _)
  | inserted id uris =>
    have asked := asked fun h => h
    refine ledger.book found
      { call with pc := .acknowledge s.nextToken id uris, opened := true } rfl rfl rfl ?_ ?_ ?_
    · rw [show Call.guarded { call with pc := .acknowledge s.nextToken id uris, opened := true } =
        true from weight asked (.acknowledge s.nextToken id uris), own asked, place]
      change s.inflight + 1 + 1 + s.subscriptions.length =
        s.inflight + 1 + 0 + (s.subscriptions ++ [_]).length
      rw [length_append]
      exact Nat.add_right_comm _ _ _
    · exact room
    · exact .inr (weight asked (.acknowledge s.nextToken id uris))
  | acknowledged token id uris =>
    apply still { call with pc := .mark token }
    · exact congrArg (set · i _) (deliver_calls _)
    · exact deliver_ends _
    · exact deliver_closes _
    · exact deliver_inflight _
    · exact congrArg length (deliver_subscriptions _)
    · exact same (.mark token) rfl
    · rfl
  | marked token =>
    exact still _ rfl rfl rfl rfl (length_map _) (same (.settle (.ok none)) rfl) rfl
  | looked id => exact still _ rfl rfl rfl rfl rfl (same (.cancelOwners id) rfl) rfl
  | ended id entry member =>
    have shorter := length_erase_of_mem member
    have present := length_pos_of_mem member
    refine ledger.book found
      { call with pc := .cancelEmit entry, seen := s.registered call.session id } rfl rfl rfl ?_ ?_ ?_
    · rw [show Call.guarded { call with
        pc := .cancelEmit entry, seen := s.registered call.session id } = call.guarded from
          same (.cancelEmit entry) rfl, place]
      change s.inflight + call.guarded.toNat + 0 + s.subscriptions.length =
        s.inflight + call.guarded.toNat + 1 + (s.subscriptions.erase entry).length
      omega
    · exact room
    · left
      rw [place]
      change 1 + (s.subscriptions.erase entry).length ≤ 0 + s.subscriptions.length
      omega
  | announced entry =>
    apply still { call with pc := .cancelReturn entry.listenId }
    · exact congrArg (set · i _) (deliver_calls _)
    · exact deliver_ends _
    · exact deliver_closes _
    · exact deliver_inflight _
    · exact congrArg length (deliver_subscriptions _)
    · exact same (.cancelReturn entry.listenId) rfl
    · rfl
  | givenBack id unlocked =>
    have held : 1 ≤ s.inflight := by
      have one := weight_le_sum_map (fun call : Call => call.pc.admissions) found
      rw [place] at one
      have inside : 1 ≤ (s.calls.map fun call => call.pc.admissions).sum := one
      have counted := ledger.counted
      unfold admissions at counted
      omega
    refine ledger.book found { call with pc := .cancelOwners id } rfl rfl rfl ?_ ?_ ?_
    · rw [same (.cancelOwners id) rfl, place]
      change s.inflight - 1 + call.guarded.toNat + 1 + s.subscriptions.length =
        s.inflight + call.guarded.toNat + 0 + s.subscriptions.length
      omega
    · exact Nat.le_trans (Nat.sub_le _ _) room
    · left
      exact Nat.add_le_add_right (Nat.zero_le _) _
  | erased id =>
    exact still _ rfl rfl rfl rfl rfl
      (same (.cancelFlip (s.requestOwners.filter (s.ownedBy call.session id))) rfl) rfl
  | flips victim rest => exact still _ rfl rfl rfl rfl rfl (same (.cancelFlip rest) rfl) rfl
  | completed outcome owner => exact still _ rfl rfl rfl rfl rfl (same (.retire outcome) rfl) rfl
  | closes owner =>
    exact still _ rfl rfl rfl rfl rfl (same (.retire (.error closedCoreError)) rfl) rfl
  | expired response owner =>
    exact still _ rfl rfl rfl rfl rfl (same (.retire _) rfl) rfl
  | answered response owner =>
    exact still _ rfl rfl rfl rfl rfl (same (.retire (.ok (some response))) rfl) rfl
  | retired outcome => exact still _ rfl rfl rfl rfl rfl (same (.release outcome) rfl) rfl
  | left outcome unlocked =>
    have asked := asked id
    have held : 1 ≤ s.inflight := by
      have one := weight_le_sum_map (fun call : Call => call.guarded.toNat) found
      rw [own asked] at one
      have inside : 1 ≤ s.guards := one
      have counted := ledger.counted
      omega
    refine ledger.book found { call with pc := .returned outcome } rfl rfl rfl ?_ ?_ ?_
    · rw [own asked, weight asked, place]
      change s.inflight - 1 + 1 + 0 + s.subscriptions.length =
        s.inflight + 0 + 0 + s.subscriptions.length
      omega
    · exact Nat.le_trans (Nat.sub_le _ _) room
    · left
      rw [place]
      exact Nat.le_refl _

section

variable (ledger : s.Ledger max)

include ledger

/-- A step that leaves the guards and returns what it gives up. -/
theorem Ledger.shift (guards : s'.guards = s.guards)
    (books : s'.inflight + s.admissions = s.inflight + s'.admissions)
    (fewer : s'.inflight ≤ s.inflight) : s'.Ledger max := by
  obtain ⟨counted, bounded, live⟩ := ledger
  constructor <;> omega

/-- A step of an end moves admissions between it and the table, or returns one. -/
theorem Ledger.bookEnd {j : Nat} {ending : EndAll}
    (found : s.ends[j]? = some ending) (ending' : EndAll) (calls : s'.calls = s.calls)
    (closes : s'.closes = s.closes) (ends : s'.ends = s.ends.set j ending')
    (books : s'.inflight + ending.pc.admissions + s.subscriptions.length =
      s.inflight + ending'.pc.admissions + s'.subscriptions.length)
    (fewer : s'.inflight ≤ s.inflight) : s'.Ledger max := by
  have held := sum_map_set (fun ending : EndAll => ending.pc.admissions) ending' found
  apply ledger.shift _ _ fewer
  · unfold guards
    rw [calls]
  · unfold admissions
    rw [calls, closes, ends]
    omega

/-- A step of a close moves admissions between it and the table, or returns one. -/
theorem Ledger.bookClose {j : Nat} {pc : ClosePc}
    (found : s.closes[j]? = some pc) (pc' : ClosePc) (calls : s'.calls = s.calls)
    (ends : s'.ends = s.ends) (closes : s'.closes = s.closes.set j pc')
    (books : s'.inflight + pc.admissions + s.subscriptions.length =
      s.inflight + pc'.admissions + s'.subscriptions.length)
    (fewer : s'.inflight ≤ s.inflight) : s'.Ledger max := by
  have held := sum_map_set ClosePc.admissions pc' found
  apply ledger.shift _ _ fewer
  · unfold guards
    rw [calls]
  · unfold admissions
    rw [calls, closes, ends]
    omega

/-- What an end holds is counted. -/
theorem Ledger.end_le {j : Nat} {ending : EndAll}
    (found : s.ends[j]? = some ending) : ending.pc.admissions ≤ s.inflight := by
  have inside := weight_le_sum_map (fun ending : EndAll => ending.pc.admissions) found
  have counted := ledger.counted
  unfold admissions at counted
  omega

/-- What a close holds is counted. -/
theorem Ledger.close_le {j : Nat} {pc : ClosePc}
    (found : s.closes[j]? = some pc) : pc.admissions ≤ s.inflight := by
  have inside := weight_le_sum_map ClosePc.admissions found
  have counted := ledger.counted
  unfold admissions at counted
  omega

/-- What a call holds is counted. -/
theorem Ledger.call_le (found : s.calls[i]? = some call) :
    call.guarded.toNat + call.pc.admissions ≤ s.inflight := by
  have guard := weight_le_sum_map (fun call : Call => call.guarded.toNat) found
  have held := weight_le_sum_map (fun call : Call => call.pc.admissions) found
  have counted := ledger.counted
  unfold guards admissions at counted
  omega

end

/-- Every step keeps the ledger. -/
theorem Steps.ledger (ledger : s.Ledger options.maxInflightRequests)
    (shaped : s.Shaped boost options) {label : Label}
    (steps : Steps boost options registry s label s') :
    s'.Ledger options.maxInflightRequests := by
  -- A step that neither takes nor returns.
  have still (inflight : s'.inflight = s.inflight) (guards : s'.guards = s.guards)
      (admissions : s'.admissions = s.admissions) : s'.Ledger options.maxInflightRequests := by
    apply ledger.shift guards <;> omega
  cases steps with
  | acted i call late label next found origin acts =>
    exact acts.ledger ledger (shaped i call found).2 found rfl
  | begun session raw known =>
    have unguarded : (newCall boost options session raw).guarded = false := by
      unfold newCall Call.guarded
      dsimp only
      split
      next told => rw [told]; rfl
      next asked => rw [show CallPc.guarded .admit' = false from rfl, Bool.and_false]
    have empty : (newCall boost options session raw).pc.admissions = 0 := by
      unfold newCall
      dsimp only
      split <;> rfl
    apply still rfl
    · have counted := sum_map_push (fun call : Call => call.guarded.toNat) s.calls
        (newCall boost options session raw)
      rw [unguarded] at counted
      exact counted
    · have counted := sum_map_push (fun call : Call => call.pc.admissions) s.calls
        (newCall boost options session raw)
      rw [empty] at counted
      exact congrArg (fun held => held + s.subscriptions.length +
        (s.ends.map fun ending => ending.pc.admissions).sum +
          (s.closes.map ClosePc.admissions).sum) counted
  | sent =>
    apply still (deliver_inflight _)
    · exact congrArg (fun calls => (calls.map fun call => call.guarded.toNat).sum) (deliver_calls _)
    · unfold admissions
      rw [deliver_calls, deliver_subscriptions, deliver_ends, deliver_closes]
  | ends session =>
    have counted := sum_map_push (fun ending : EndAll => ending.pc.admissions) s.ends
      { session }
    apply still rfl rfl
    exact congrArg (fun held => (s.calls.map fun call => call.pc.admissions).sum +
      s.subscriptions.length + held + (s.closes.map ClosePc.admissions).sum) counted
  | took j ending found place =>
    have parts := length_eq_length_filter_add (l := s.subscriptions)
      fun entry => decide (entry.session = ending.session)
    refine ledger.bookEnd found
      { ending with
        pc := .emit (s.subscriptions.filter fun entry => decide (entry.session = ending.session))
          (s.subscriptions.filter fun entry => decide (entry.session = ending.session)).length }
      rfl rfl rfl ?_ (Nat.le_refl _)
    rw [place]
    simp only [EndPc.admissions, decide_not]
    omega
  | spent j ending taken found place =>
    refine ledger.bookEnd found { ending with pc := .release taken } rfl rfl rfl ?_ (Nat.le_refl _)
    rw [place]
    rfl
  | emitted j ending entry rest taken found place =>
    refine ledger.bookEnd found { ending with pc := .emit rest taken } (deliver_calls _)
      (deliver_closes _) rfl ?_ (Nat.le_of_eq (deliver_inflight _))
    rw [place]
    simp only [EndPc.admissions, deliver_inflight, deliver_subscriptions]
  | gaveBack j ending left found place =>
    have held := ledger.end_le found
    refine ledger.bookEnd found { ending with pc := .release left } rfl rfl rfl ?_ (Nat.sub_le _ _)
    rw [place] at held ⊢
    simp only [EndPc.admissions, release] at held ⊢
    omega
  | closing =>
    have counted := sum_map_push ClosePc.admissions s.closes .enter
    apply still rfl rfl
    exact congrArg (fun held => (s.calls.map fun call => call.pc.admissions).sum +
      s.subscriptions.length + (s.ends.map fun ending => ending.pc.admissions).sum + held) counted
  | sealed' j found => exact ledger.bookClose found .swap rfl rfl rfl rfl (Nat.le_refl _)
  | swept j found =>
    refine ledger.bookClose found (.clear s.subscriptions.length) rfl rfl rfl ?_ (Nat.le_refl _)
    simp only [ClosePc.admissions, length_nil]
    omega
  | cleared j drained found =>
    exact ledger.bookClose found (.release drained) rfl rfl rfl rfl (Nat.le_refl _)
  | drained j left found =>
    have held := ledger.close_le found
    refine ledger.bookClose found (.release left) rfl rfl rfl ?_ (Nat.sub_le _ _)
    simp only [ClosePc.admissions, release] at held ⊢
    omega
  | _ => exact still rfl rfl rfl

/-- The ledger of a reachable server. -/
theorem ledger_of_reachable (reachable : (mcpMachine boost options registry).Reachable s) :
    s.Ledger options.maxInflightRequests := by
  obtain ⟨labels, run⟩ := reachable
  apply run.reachableInvariant
  · intro s begun
    subst begun
    exact ⟨rfl, Nat.zero_le _, Nat.zero_le _⟩
  · intro s label next reachable ledger _ stepped
    exact (steps_of_reachable reachable stepped).ledger ledger (shaped_of_reachable reachable)

/-- In every reachable state `m_inflight` is the number of the running admitted guards and of the
live admissions of subscriptions. It is at most one above its bound, the live subscriptions are
within it, and `Release` is only called while it counts something. -/
theorem admission_ledger (reachable : (mcpMachine boost options registry).Reachable s) :
    s.inflight = s.guards + s.admissions ∧ s.inflight ≤ options.maxInflightRequests + 1 ∧
      s.admissions ≤ options.maxInflightRequests ∧
      ∀ label, s.releases label → 0 < s.inflight := by
  have ledger := ledger_of_reachable reachable
  refine ⟨ledger.counted, ledger.bounded, ledger.live, ?_⟩
  intro label releases
  cases label with
  | act i late =>
    obtain ⟨call, found, place⟩ := releases
    have held := ledger.call_le found
    rcases place with ⟨outcome, place⟩ | ⟨id, place⟩
    · have asked := (shaped_of_reachable reachable i call found).2.asked (by rw [place]; exact id)
      simp only [Call.guarded, asked, place, CallPc.guarded, CallPc.admissions] at held
      exact held
    · rw [place] at held
      simp only [CallPc.admissions] at held
      omega
  | actEnd j =>
    obtain ⟨ending, left, found, place⟩ := releases
    have held := ledger.end_le found
    rw [place] at held
    exact Nat.lt_of_lt_of_le (Nat.succ_pos left) held
  | actClose j =>
    obtain ⟨left, found⟩ := releases
    exact Nat.lt_of_lt_of_le (Nat.succ_pos left) (ledger.close_le found)
  | _ => exact releases.elim

/-- A listen that holds two slots. -/
theorem admission_ledger_listening : ∃ s, sampleMachine.Reachable s ∧ s.inflight = 2 ∧
    s.inflight = s.guards + s.admissions ∧ s.inflight ≤ 64 + 1 ∧ s.admissions ≤ 64 ∧
      ∀ label, s.releases label → 0 < s.inflight := by
  have begun : sampleMachine.start {} := rfl
  obtain ⟨s, reachable, two⟩ := Machine.exists_reachable
    (listenSteps 5) (fun s : McpServer => decide (s.inflight = 2)) begun
    (by decide +kernel)
  exact ⟨s, reachable, of_decide_eq_true two, admission_ledger reachable⟩

end McpServer

end BbtInfra.Mcp
