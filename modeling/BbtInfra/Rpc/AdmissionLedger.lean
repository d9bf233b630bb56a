import BbtInfra.Lib.Census
import BbtInfra.Rpc.Admission

/-!
# The in-flight ledger of a server

The count goes up in `AdmitInbound` and comes down in whichever `Release` wins the exchange. A
lease is handed out only with an item that was counted, so every decrement has its increment.
-/
namespace BbtInfra.Rpc

open Lib ServerState Option List

/-- Past the section that counts. -/
def ItemPc.admitted : ItemPc → Bool
  | .arrived | .overCap => false
  | .counted | .rejected _ | .unwound | .queued | .handed => true

/-- `Release` may have been called. -/
def ItemPc.shared : ItemPc → Bool
  | .unwound | .handed => true
  | .arrived | .overCap | .counted | .rejected _ | .queued => false

namespace AdmissionItem

/-- The item was counted on this lane, and no `Release` of its lease has come to its end. -/
def owed (lane : TrafficClass) (item : AdmissionItem) : Bool :=
  item.lease.lane = lane && item.lease.counted && item.lease.pc ≠ .released

/-- What holds of one item at any time. -/
structure Sound (item : AdmissionItem) : Prop where
  counted : item.lease.counted = item.pc.admitted
  held : item.pc.shared = false → item.lease.pc = .held

end AdmissionItem

namespace ServerState

/-- The ledger against the items. -/
structure Ledger (s : ServerState) : Prop where
  owed : ∀ lane, (s.inflight lane).toNat = s.items.countP (AdmissionItem.owed lane)
  capacity : ∀ lane, (s.inflight lane).toNat ≤ s.options.maxInflight
  limit : s.options.maxInflight ≤ kNetworkLimitsMaxInflight
  sound : ∀ (i : Nat) (item : AdmissionItem), s.items[i]? = some item → item.Sound
  queued : ∀ i ∈ s.queue, ∃ item, s.items[i]? = some item ∧ item.pc = .queued
  once : s.queue.Nodup
  /-- The item in the worker's hand was handed out. -/
  worker : ∀ i handled, s.worker = .handling i ∨ s.worker = .concluding i handled →
    ∃ item, s.items[i]? = some item ∧ item.pc = .handed

variable {s next : ServerState} {i : Nat} {item : AdmissionItem}

section

variable (ledger : s.Ledger)

include ledger

/-- What the ledger does not read may change. -/
theorem Ledger.congr (inflight : next.inflight = s.inflight)
    (options : next.options = s.options) (items : next.items = s.items)
    (queue : next.queue = s.queue) (worker : next.worker = s.worker) : next.Ledger where
  owed := by
    rw [inflight, items]
    exact ledger.owed
  capacity := by
    rw [inflight, options]
    exact ledger.capacity
  limit := by
    rw [options]
    exact ledger.limit
  sound := by
    rw [items]
    exact ledger.sound
  queued := by
    rw [queue, items]
    exact ledger.queued
  once := by
    rw [queue]
    exact ledger.once
  worker := by
    rw [worker, items]
    exact ledger.worker

section

variable (found : s.items[i]? = some item)

include found

/-- One item changes: what it must keep for the queue and the worker. -/
theorem Ledger.modify {f : AdmissionItem → AdmissionItem} {inflight : TrafficClass → UInt64}
    (owed : ∀ lane, (inflight lane).toNat =
      (s.items.modify i f).countP (AdmissionItem.owed lane))
    (capacity : ∀ lane, (inflight lane).toNat ≤ s.options.maxInflight) (sound : (f item).Sound)
    (queued : item.pc = .queued → (f item).pc = .queued)
    (handed : item.pc = .handed → (f item).pc = .handed) :
    Ledger { s with inflight, items := s.items.modify i f } := by
  have stays : ∀ (j : Nat) (pc : ItemPc), (item.pc = pc → (f item).pc = pc) →
      (∃ old, s.items[j]? = some old ∧ old.pc = pc) →
        ∃ later, (s.items.modify i f)[j]? = some later ∧ later.pc = pc := by
    intro j pc kept old
    obtain ⟨old, present, at_⟩ := old
    by_cases same : i = j
    · subst same
      cases found.symm.trans present
      exact ⟨f item, by simp [found], kept at_⟩
    · exact ⟨old, by simpa [same] using present, at_⟩
  refine ⟨owed, capacity, ledger.limit, ?_, ?_, ledger.once, ?_⟩
  · intro j other present
    rcases getElem?_modify_cases present with ⟨rfl, old, was, rfl⟩ | ⟨-, old⟩
    · cases found.symm.trans was
      exact sound
    · exact ledger.sound j other old
  · intro j member
    exact stays j .queued queued (ledger.queued j member)
  · intro j handled holding
    exact stays j .handed handed (ledger.worker j handled holding)

/-- An item changes without being counted in or out. -/
theorem Ledger.proceed {f : AdmissionItem → AdmissionItem}
    (unseen : ∀ lane, (f item).owed lane = item.owed lane)
    (sound : (f item).Sound) (queued : item.pc = .queued → (f item).pc = .queued)
    (handed : item.pc = .handed → (f item).pc = .handed) : (s.modifyItem i f).Ledger := by
  apply ledger.modify found _ ledger.capacity sound queued handed
  intro lane
  rw [countP_modify_same, ledger.owed]
  intro other present
  cases found.symm.trans present
  exact unseen lane

/-- The section that counts. -/
theorem Ledger.check (arrived : item.pc = .arrived) : (s.check i item).Ledger := by
  have sound := ledger.sound i item found
  have held : item.lease.pc = .held := sound.held (by rw [arrived]; rfl)
  have uncounted : item.lease.counted = false := by
    rw [sound.counted, arrived]
    rfl
  have later : ∀ pc, item.pc = pc → pc ≠ .arrived → False := by
    intro pc same other
    exact other (same.symm.trans arrived)
  unfold ServerState.check
  split_ifs with full
  · apply ledger.proceed found (fun _ => rfl)
    · exact ⟨uncounted, fun _ => held⟩
    · exact fun queued => (later _ queued (by decide)).elim
    · exact fun handed => (later _ handed (by decide)).elim
  · have room : (s.inflight item.lease.lane).toNat < s.options.maxInflight := by omega
    have limit : s.options.maxInflight ≤ 1000000 := ledger.limit
    have grown : (s.inflight item.lease.lane + 1).toNat =
        (s.inflight item.lease.lane).toNat + 1 := by
      rw [UInt64.toNat_add]
      have one : (1 : UInt64).toNat = 1 := rfl
      omega
    refine ledger.modify found (fun lane => ?_) (fun lane => ?_) ⟨rfl, fun _ => held⟩ ?_ ?_
    · by_cases same : lane = item.lease.lane
      · subst same
        rw [noteInflight_self, grown, ledger.owed]
        rw [countP_modify_gain found]
        · simp [AdmissionItem.owed, uncounted]
        · simp [AdmissionItem.owed, held]
      · rw [noteInflight_other s same, ledger.owed, countP_modify_same]
        intro other present
        cases found.symm.trans present
        have apart : item.lease.lane ≠ lane := Ne.symm same
        simp [AdmissionItem.owed, apart]
    · by_cases same : lane = item.lease.lane
      · subst same
        rw [noteInflight_self, grown]
        omega
      · rw [noteInflight_other s same]
        exact ledger.capacity lane
    · exact fun queued => (later _ queued (by decide)).elim
    · exact fun handed => (later _ handed (by decide)).elim

/-- `Admit`. -/
theorem Ledger.push (counted : item.pc = .counted) : (s.push i item).Ledger := by
  have sound := ledger.sound i item found
  have held : item.lease.pc = .held := sound.held (by rw [counted]; rfl)
  have wasCounted : item.lease.counted = true := by
    rw [sound.counted, counted]
    rfl
  have moved : ∀ pc : ItemPc, pc.admitted = true → (s.goto i pc).Ledger := by
    intro pc admitted
    apply ledger.proceed found (fun _ => rfl)
    · exact ⟨wasCounted.trans admitted.symm, fun _ => held⟩
    · intro queued
      cases counted.symm.trans queued
    · intro handed
      cases counted.symm.trans handed
  unfold ServerState.push
  split_ifs with shut full
  · exact moved _ rfl
  · exact moved _ rfl
  · have queued := moved .queued rfl
    refine ⟨queued.owed, queued.capacity, queued.limit, queued.sound, ?_, ?_, queued.worker⟩
    · intro j member
      rcases mem_append.mp member with old | new
      · exact queued.queued j old
      · rw [mem_singleton.mp new]
        exact ⟨{ item with pc := .queued }, by simp [goto, modifyItem, found], rfl⟩
    · apply nodup_append.mpr
      refine ⟨ledger.once, nodup_singleton i, ?_⟩
      intro j old k new same
      rw [mem_singleton.mp new] at same
      subst same
      obtain ⟨other, present, at_⟩ := ledger.queued j old
      cases found.symm.trans present
      cases counted.symm.trans at_

/-- A `Release` by somebody who got the item. -/
theorem Ledger.release (shared : item.pc.shared = true) : (s.release i).Ledger := by
  have sound := ledger.sound i item found
  apply ledger.proceed found
  · intro lane
    split_ifs with held
    · simp [AdmissionItem.owed, held]
    · rfl
  · split_ifs with held
    · refine ⟨sound.counted, fun unshared => ?_⟩
      exact absurd (shared.symm.trans unshared) (by decide)
    · exact sound
  · intro queued
    rw [queued] at shared
    cases shared
  · intro handed
    split_ifs
    · exact handed
    · exact handed

/-- The critical section of the `Release` that won takes what was counted. -/
theorem Ledger.settleRelease
    (releasing : item.lease.pc = .releasing) : (s.settleRelease i item).Ledger := by
  have sound := ledger.sound i item found
  have shared : item.pc.shared = true := by
    rw [← Bool.not_eq_false]
    intro unshared
    cases releasing.symm.trans (sound.held unshared)
  have counted : item.lease.counted = true := by
    rw [sound.counted]
    cases pc : item.pc <;> simp_all [ItemPc.shared, ItemPc.admitted]
  have fewer : (s.items.modify i fun item =>
        { item with lease := { item.lease with pc := .released } }).countP
          (AdmissionItem.owed item.lease.lane) + 1 =
      s.items.countP (AdmissionItem.owed item.lease.lane) := countP_modify_loss found
    (by simp [AdmissionItem.owed, counted, releasing]) (by simp [AdmissionItem.owed])
  have some : 1 ≤ (s.inflight item.lease.lane).toNat := by
    rw [ledger.owed]
    omega
  have shrunk : (s.inflight item.lease.lane + -1).toNat =
      (s.inflight item.lease.lane).toNat - 1 := by
    rw [← UInt64.sub_eq_add_neg]
    exact UInt64.toNat_sub_of_le _ _ (UInt64.le_iff_toNat_le.mpr some)
  refine ledger.modify found (fun lane => ?_) (fun lane => ?_)
    ⟨sound.counted, fun unshared => absurd (shared.symm.trans unshared) (by decide)⟩ id id
  · by_cases same : lane = item.lease.lane
    · subst same
      rw [noteInflight_self, shrunk, ledger.owed]
      omega
    · rw [noteInflight_other s same, ledger.owed, countP_modify_same]
      intro other present
      cases found.symm.trans present
      have apart : item.lease.lane ≠ lane := Ne.symm same
      simp [AdmissionItem.owed, apart]
  · by_cases same : lane = item.lease.lane
    · subst same
      have before := ledger.capacity item.lease.lane
      rw [noteInflight_self, shrunk]
      omega
    · rw [noteInflight_other s same]
      exact ledger.capacity lane

end

end

variable {label : AdmissionLabel}

/-- The steps of items keep the ledger. -/
theorem Ledger.stepItem (ledger : s.Ledger)
    (found : s.items[i]? = some item) (stepped : s.stepItem i item label = some next) :
    next.Ledger := by
  cases label with
  | check j =>
    obtain ⟨arrived, rfl⟩ := guarded_some stepped
    exact ledger.check found arrived
  | push j =>
    obtain ⟨counted, rfl⟩ := guarded_some stepped
    exact ledger.push found counted
  | unwind j =>
    cases pc : item.pc <;> rw [stepItem, pc] at stepped <;> cases stepped
    have sound := ledger.sound i item found
    have held : item.lease.pc = .held := sound.held (by rw [pc]; rfl)
    have counted : item.lease.counted = true := by
      rw [sound.counted, pc]
      rfl
    have both : (s.release i).goto i .unwound = s.modifyItem i fun item =>
        { (if item.lease.pc = .held then { item with lease := { item.lease with pc := .releasing } }
          else item) with pc := .unwound } := by
      simp [ServerState.release, goto, modifyItem, modify_modify_eq, Function.comp_def]
    rw [both]
    apply ledger.proceed found
    · intro lane
      simp [AdmissionItem.owed, held]
    · rw [if_pos held]
      exact ⟨counted, fun unshared => by cases unshared⟩
    · intro queued
      cases pc.symm.trans queued
    · intro handed
      cases pc.symm.trans handed
  | release j =>
    obtain ⟨handed, rfl⟩ := guarded_some stepped
    exact ledger.release found (by rw [handed]; rfl)
  | settleRelease j =>
    obtain ⟨releasing, rfl⟩ := guarded_some stepped
    exact ledger.settleRelease found releasing
  | _ => simp [stepItem] at stepped

/-- The steps of the worker keep the ledger. -/
theorem Ledger.stepWorker (ledger : s.Ledger)
    (stepped : s.stepWorker label = some next) : next.Ledger := by
  cases label with
  | pop =>
    simp only [stepWorker, ite_none_right_eq_some] at stepped
    obtain ⟨_, stepped⟩ := stepped
    cases queue : s.queue with
    | nil => simp [queue] at stepped
    | cons first rest =>
      simp only [queue, map_eq_some_iff] at stepped
      obtain ⟨item, found, rfl⟩ := stepped
      have once := ledger.once
      rw [queue, nodup_cons] at once
      obtain ⟨same, present, queued⟩ := ledger.queued first (by rw [queue]; exact mem_cons_self)
      cases found.symm.trans present
      have sound := ledger.sound first item found
      have counted : item.lease.counted = true := by
        rw [sound.counted, queued]
        rfl
      have stays : ∀ j ∈ rest, ∃ item, (s.goto first .handed).items[j]? = some item ∧
          item.pc = .queued := by
        intro j member
        obtain ⟨other, stood, at_⟩ := ledger.queued j (by rw [queue]; exact mem_cons_of_mem _ member)
        have apart : first ≠ j := by
          rintro rfl
          exact once.1 member
        exact ⟨other, by simpa [goto, modifyItem, apart] using stood, at_⟩
      refine ⟨fun lane => ?_, ledger.capacity, ledger.limit, ?_, stays, once.2, ?_⟩
      · change (s.inflight lane).toNat = (s.items.modify first _).countP _
        rw [countP_modify_same, ledger.owed]
        intro other _
        rfl
      · intro j other found'
        rcases getElem?_modify_cases found' with ⟨rfl, old, was, rfl⟩ | ⟨-, old⟩
        · cases found.symm.trans was
          exact ⟨counted, fun unshared => by cases unshared⟩
        · exact ledger.sound j other old
      · intro j handled holding
        rcases holding with holding | holding
        · cases holding
          exact ⟨{ item with pc := .handed }, by simp [goto, modifyItem, found], rfl⟩
        · cases holding
  | handle returned =>
    cases worker : s.worker <;> rw [stepWorker, worker] at stepped <;> cases stepped
    refine ⟨ledger.owed, ledger.capacity, ledger.limit, ledger.sound, ledger.queued, ledger.once, ?_⟩
    intro j handled holding
    rcases holding with holding | holding
    · cases holding
    · cases holding
      exact ledger.worker _ (.ok ()) (.inl worker)
  | conclude =>
    cases worker : s.worker <;>
      simp only [stepWorker, worker, map_eq_some_iff, reduceCtorEq] at stepped
    obtain ⟨item, found, rfl⟩ := stepped
    obtain ⟨same, present, handed⟩ := ledger.worker _ _ (.inr worker)
    cases found.symm.trans present
    have idle : ∀ s : ServerState, s.Ledger → Ledger { s with worker := .idle } := by
      intro s ledger
      refine ⟨ledger.owed, ledger.capacity, ledger.limit, ledger.sound, ledger.queued,
        ledger.once, ?_⟩
      rintro j handled (holding | holding) <;> cases holding
    unfold ServerState.conclude
    split_ifs
    · exact idle s ledger
    · exact idle _ (ledger.release found (by rw [handed]; rfl))
  | workerExit =>
    obtain ⟨-, rfl⟩ := guarded_some stepped
    refine ⟨ledger.owed, ledger.capacity, ledger.limit, ledger.sound, ledger.queued, ledger.once, ?_⟩
    rintro j handled (holding | holding) <;> cases holding
  | _ => simp [stepWorker] at stepped

/-- Every step keeps the ledger. -/
theorem Ledger.step (ledger : s.Ledger) {label : AdmissionLabel}
    (stepped : s.step label = some next) : next.Ledger := by
  cases label with
  | arrive session lane bytes isCall =>
    cases stepped
    refine ⟨fun other => ?_, ledger.capacity, ledger.limit, ?_, ?_, ledger.once, ?_⟩
    · rw [countP_push, if_neg (by simp [AdmissionItem.owed])]
      exact ledger.owed other
    · intro i item found
      rcases getElem?_push_cases found with ⟨-, rfl⟩ | old
      · exact ⟨rfl, fun _ => rfl⟩
      · exact ledger.sound i item old
    · intro i member
      obtain ⟨item, found, at_⟩ := ledger.queued i member
      exact ⟨item, getElem?_push_old found, at_⟩
    · intro i handled holding
      obtain ⟨item, found, at_⟩ := ledger.worker i handled holding
      exact ⟨item, getElem?_push_old found, at_⟩
  | check i | push i | unwind i | release i | settleRelease i =>
    obtain ⟨item, found, stepped⟩ := bind_eq_some_iff.mp stepped
    exact ledger.stepItem found stepped
  | pop | handle returned | conclude | workerExit =>
    simp only [ServerState.step] at stepped
    exact ledger.stepWorker stepped
  | closeQueue | sealServer reason | drain | linkUp =>
    cases stepped
    exact ledger.congr rfl rfl rfl rfl rfl
  | shutdown =>
    cases stepped
    unfold shutdown
    cases s.closeReason with
    | some reason => exact ledger.congr rfl rfl rfl rfl rfl
    | none =>
      split_ifs <;> exact ledger.congr rfl rfl rfl rfl rfl
  | drainClose d =>
    simp only [ServerState.step, bind_eq_some_iff, stepDrain, ite_none_right_eq_some,
      Option.some.injEq] at stepped
    obtain ⟨drain, -, -, rfl⟩ := stepped
    exact ledger.congr rfl rfl rfl rfl rfl
  | drainCheck d late =>
    simp only [ServerState.step, bind_eq_some_iff, stepDrain, ite_none_right_eq_some,
      map_eq_some_iff] at stepped
    obtain ⟨drain, -, -, result, -, rfl⟩ := stepped
    exact ledger.congr rfl rfl rfl rfl rfl
  | wrote link outstanding =>
    obtain ⟨-, rfl⟩ := guarded_some stepped
    exact ledger.congr rfl rfl rfl rfl rfl

/-- The ledger is exact in every reachable state. -/
theorem reachable_ledger {options : ServerOptions} (reachable : (machine options).Reachable s) :
    s.Ledger := by
  apply reachable.invariant Ledger
  · rintro state ⟨valid, rfl⟩
    have limits := ServerOptions.validate_ok valid
    refine ⟨fun lane => rfl, fun _ => Nat.zero_le _, limits.2.2.1, ?_, ?_, nodup_nil, ?_⟩
    · intro i item found
      cases found
    · intro i member
      cases member
    · rintro i handled (holding | holding) <;> cases holding
  · intro state label next ledger stepped
    exact ledger.step stepped

/-! ## Draining -/

/-- A drained server has an empty queue and owes nothing. -/
theorem Ledger.drained (ledger : s.Ledger) (drained : s.drainedLocked = true) :
    s.queue = [] ∧ ∀ item ∈ s.items, item.lease.counted = true → item.lease.pc = .released := by
  simp only [drainedLocked, Bool.and_eq_true, decide_eq_true_eq, List.isEmpty_iff] at drained
  obtain ⟨⟨⟨⟨system, service⟩, actor⟩, queue⟩, -⟩ := drained
  refine ⟨queue, fun item member counted => ?_⟩
  have none : s.items.countP (AdmissionItem.owed item.lease.lane) = 0 := by
    rw [← ledger.owed]
    cases item.lease.lane with
    | system => rw [system]; rfl
    | service => rw [service]; rfl
    | actor => rw [actor]; rfl
  have fails := List.countP_eq_zero.mp none item member
  simpa [AdmissionItem.owed, counted] using fails

/-- Items and worker do not touch the drains. -/
theorem stepItem_drains (stepped : s.stepItem i item label = some next) :
    next.drains = s.drains := by
  cases label with
  | check j =>
    obtain ⟨-, rfl⟩ := guarded_some stepped
    unfold ServerState.check
    split_ifs <;> rfl
  | push j =>
    obtain ⟨-, rfl⟩ := guarded_some stepped
    unfold ServerState.push
    split_ifs <;> rfl
  | unwind j =>
    cases pc : item.pc <;> rw [stepItem, pc] at stepped <;> cases stepped
    rfl
  | release j | settleRelease j =>
    obtain ⟨-, rfl⟩ := guarded_some stepped
    rfl
  | _ => simp [stepItem] at stepped

/-- No step of a worker drains the queue. -/
theorem stepWorker_drains (stepped : s.stepWorker label = some next) : next.drains = s.drains := by
  cases label with
  | pop =>
    simp only [stepWorker, ite_none_right_eq_some] at stepped
    obtain ⟨-, stepped⟩ := stepped
    cases queue : s.queue with
    | nil => simp [queue] at stepped
    | cons first rest =>
      simp only [queue, map_eq_some_iff] at stepped
      obtain ⟨item, -, rfl⟩ := stepped
      rfl
  | handle returned =>
    cases worker : s.worker <;> rw [stepWorker, worker] at stepped <;> cases stepped
    rfl
  | conclude =>
    cases worker : s.worker <;>
      simp only [stepWorker, worker, map_eq_some_iff, reduceCtorEq] at stepped
    obtain ⟨item, -, rfl⟩ := stepped
    unfold ServerState.conclude
    split_ifs <;> rfl
  | workerExit =>
    obtain ⟨-, rfl⟩ := guarded_some stepped
    rfl
  | _ => simp [stepWorker] at stepped

/-- A drain that wakes up returns ok only when the server is drained. -/
theorem drainResult_ok {isShutdown late : Bool}
    (returned : s.drainResult isShutdown late = some (.ok ())) : s.drainedLocked = true := by
  by_contra undrained
  unfold drainResult at returned
  rw [if_neg undrained] at returned
  cases closed : s.closeReason with
  | some reason => simp [closed] at returned
  | none => cases late <;> simp [closed] at returned

/-- A step after which a drain has returned ok: it had before, or the server is drained. -/
theorem step_drained (stepped : s.step label = some next) {d : Nat}
    {drain : Drain} (found : next.drains[d]? = some drain) (done : drain.pc = .returned (.ok ())) :
    s.drains[d]? = some drain ∨
      s.drainedLocked = true ∧ next.queue = s.queue ∧ next.items = s.items := by
  have added : ∀ (isShutdown : Bool) (pc : DrainPc), next.drains = (s.addDrain isShutdown pc).drains →
      s.drains[d]? = some drain ∨ drain.pc = pc := by
    intro isShutdown pc grown
    rw [grown] at found
    rcases getElem?_push_cases found with ⟨-, rfl⟩ | old
    · exact .inr rfl
    · exact .inl old
  cases label with
  | arrive session lane bytes isCall | closeQueue | sealServer reason | linkUp =>
    cases stepped
    exact .inl found
  | check i | push i | unwind i | release i | settleRelease i =>
    obtain ⟨item, -, stepped⟩ := bind_eq_some_iff.mp stepped
    exact .inl (stepItem_drains stepped ▸ found)
  | pop | handle returned | conclude | workerExit =>
    simp only [step] at stepped
    exact .inl (stepWorker_drains stepped ▸ found)
  | wrote link outstanding =>
    obtain ⟨-, rfl⟩ := guarded_some stepped
    exact .inl found
  | drain =>
    cases stepped
    rcases added false .closing rfl with old | same
    · exact .inl old
    · cases done.symm.trans same
  | shutdown =>
    cases stepped
    unfold shutdown at added
    unfold shutdown
    cases closed : s.closeReason with
    | some reason =>
      simp only [closed] at added
      rcases added true (.returned (.error reason)) rfl with old | same
      · exact .inl old
      · cases done.symm.trans same
    | none =>
      simp only [closed] at added ⊢
      split_ifs at added ⊢ with draining drained
      · exact .inr ⟨drained, rfl, rfl⟩
      · rcases added true _ rfl with old | same
        · exact .inl old
        · cases done.symm.trans same
      · rcases added true .closing rfl with old | same
        · exact .inl old
        · cases done.symm.trans same
  | drainClose e =>
    simp only [step, bind_eq_some_iff, stepDrain, ite_none_right_eq_some,
      Option.some.injEq] at stepped
    obtain ⟨other, -, -, rfl⟩ := stepped
    rcases getElem?_set_cases found with ⟨-, rfl⟩ | old
    · cases done
    · exact .inl old
  | drainCheck e late =>
    simp only [step, bind_eq_some_iff, stepDrain, ite_none_right_eq_some,
      map_eq_some_iff] at stepped
    obtain ⟨other, -, -, result, returned, rfl⟩ := stepped
    rcases getElem?_set_cases found with ⟨-, rfl⟩ | old
    · cases done
      exact .inr ⟨drainResult_ok returned, rfl, rfl⟩
    · exact .inl old

/-- What the in-flight ledger of a server promises. -/
structure AdmissionExact (s : ServerState) : Prop where
  /-- The counter of a lane is the number of counted items whose release has not come to its
  end. -/
  owed : ∀ lane, (s.inflight lane).toNat = s.items.countP (AdmissionItem.owed lane)
  capacity : ∀ lane, (s.inflight lane).toNat ≤ s.options.maxInflight
  /-- A release that is to decrement the counter finds it above zero. -/
  positive : ∀ (i : Nat) (item : AdmissionItem), s.items[i]? = some item →
    item.lease.pc = .releasing → 0 < (s.inflight item.lease.lane).toNat
  /-- A drain that returns ok leaves an empty queue and no counted lease unreleased. -/
  drained : ∀ label next, s.step label = some next → ∀ (d : Nat) (drain : Drain),
    next.drains[d]? = some drain → drain.pc = .returned (.ok ()) →
      s.drains[d]? = some drain ∨ next.queue = [] ∧
        ∀ item ∈ next.items, item.lease.counted = true → item.lease.pc = .released

/-- In every reachable state of a server, whatever its readers, its worker, its handler, the
holders of leases and its closers do, the in-flight ledger is exact, stays within
`MaxInflight`, never goes below zero, and lets a drain return ok only when nothing is queued and
nothing counted is unreleased. -/
theorem admission_exact {options : ServerOptions} (reachable : (machine options).Reachable s) :
    s.AdmissionExact := by
  have ledger := reachable_ledger reachable
  refine ⟨ledger.owed, ledger.capacity, ?_, ?_⟩
  · intro i item found releasing
    have sound := ledger.sound i item found
    have shared : item.pc.shared = true := by
      rw [← Bool.not_eq_false]
      intro unshared
      cases releasing.symm.trans (sound.held unshared)
    have counted : item.lease.counted = true := by
      rw [sound.counted]
      cases pc : item.pc <;> simp_all [ItemPc.shared, ItemPc.admitted]
    rw [ledger.owed]
    apply countP_pos_iff.mpr
    exact ⟨item, mem_of_getElem? found, by simp [AdmissionItem.owed, counted, releasing]⟩
  · intro label next stepped d drain found done
    rcases step_drained stepped found done with old | ⟨drained, queue, items⟩
    · exact .inl old
    · rw [queue, items]
      exact .inr (ledger.drained drained)

/-- A call and a send of two sessions; the handler takes the call and throws on the send, the
framework releases the call twice, and a drain waits for both. -/
def drainedRun : List AdmissionLabel :=
  [.arrive 0 .service 100 true, .arrive 1 .service 100 false, .check 0, .push 0, .check 1, .push 1,
    .pop, .handle (some (.ok ())), .conclude, .drain, .drainClose 0, .release 0, .release 0,
    .settleRelease 0, .pop, .handle none, .conclude, .settleRelease 1, .drainCheck 0 false]

/-- A drain that returned ok after both responsibilities ended. -/
theorem admission_exact_drained :
    ∃ s : ServerState, (s.drains[0]?.any fun drain => drain.pc = .returned (.ok ())) = true ∧
      s.AdmissionExact := by
  obtain ⟨s, reachable, ended⟩ := Machine.exists_reachable (m := machine {}) drainedRun
    (fun s => s.drains[0]?.any fun drain => drain.pc = .returned (.ok ()))
    ⟨by decide, rfl⟩ (by decide)
  exact ⟨s, ended, admission_exact reachable⟩

end ServerState

end BbtInfra.Rpc
