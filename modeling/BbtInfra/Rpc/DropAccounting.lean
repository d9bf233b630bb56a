import BbtInfra.Rpc.AdmissionLedger

/-!
# What a server counts as finished and as dropped

`finished` goes up with every lease that is released, also with one that infra releases for a
request it refuses. `dropped` goes up in four places: at the in-flight limit, in an `Admit` that
finds the queue full, in `AdmitInbound` behind a refused `Admit`, and in the worker behind a handler
that failed. The machine of the admission is run with these counters; the sections that only count
are labels of their own.
-/
namespace BbtInfra.Rpc

open Lib ServerState Option

/-- What became of a request. -/
inductive Fate
  /-- Refused at the in-flight limit. -/
  | overInflight
  /-- `Admit` found the queue closed. -/
  | queueClosed
  /-- `Admit` found the queue full. -/
  | queueFull
  /-- The handler failed or threw. -/
  | failed
  | accepted
  deriving DecidableEq, Repr

/-- What was counted for one request, and what its threads are still to count. `finished`, `dropped`
and `fate` record what happened; no step reads them. -/
structure RequestCounts where
  lane : TrafficClass
  finished : Nat := 0
  dropped : Nat := 0
  fate : Option Fate := none
  /-- `Admit` is before its `++server->dropped`. -/
  admitOwes : Bool := false
  /-- `AdmitInbound` is before its `++server->dropped`. -/
  readerOwes : Bool := false
  deriving DecidableEq, Repr

/-- `ServerV2State` with `finished` and `dropped`. -/
structure CountedServer where
  core : ServerState
  finished : TrafficClass → Nat := fun _ => 0
  dropped : TrafficClass → Nat := fun _ => 0
  counts : List RequestCounts := []
  /-- The worker is before its `++server->dropped` for this item. -/
  workerOwes : Option Nat := none

/-- One step of one party. -/
inductive CountedLabel
  | core (label : AdmissionLabel)
  /-- `Admit` counts the drop of an item that found the queue full. -/
  | dropFull (item : Nat)
  /-- `AdmitInbound` counts the drop of an item that `Admit` refused. -/
  | dropRefused (item : Nat)
  /-- The worker counts the drop of an item whose handler failed. -/
  | dropFailed

namespace CountedServer

/-- `++server->dropped` for an item. -/
def countDrop (s : CountedServer) (i : Nat) (lane : TrafficClass) : CountedServer :=
  { s with
    dropped := Function.update s.dropped lane (s.dropped lane + 1)
    counts := s.counts.modify i fun counts => { counts with dropped := counts.dropped + 1 } }

/-- `++server->finished` for an item. -/
def countFinish (s : CountedServer) (i : Nat) (lane : TrafficClass) : CountedServer :=
  { s with
    finished := Function.update s.finished lane (s.finished lane + 1)
    counts := s.counts.modify i fun counts => { counts with finished := counts.finished + 1 } }

/-- Rewrite the record of one item. -/
def note (s : CountedServer) (i : Nat) (change : RequestCounts → RequestCounts) : CountedServer :=
  { s with counts := s.counts.modify i change }

/-- What an `Admit` that refused with this error leaves to be counted. -/
def refusedCounts (error : Error) (counts : RequestCounts) : RequestCounts :=
  if error.code = .overloaded then
    { counts with fate := some .queueFull, admitOwes := true, readerOwes := true }
  else { counts with fate := some .queueClosed, readerOwes := true }

/-- What a step of the admission counts, and what it leaves to be counted. -/
def tally (s : CountedServer) (next : ServerState) : AdmissionLabel → CountedServer
  | .arrive _ lane _ _ => { s with core := next, counts := s.counts ++ [{ lane }] }
  | .check i =>
    match next.items[i]? with
    | some item =>
      if item.pc = .overCap then
        ({ s with core := next }.countDrop i item.lease.lane).note i fun counts =>
          { counts with fate := some .overInflight }
      else { s with core := next }
    | none => { s with core := next }
  | .push i =>
    match next.items[i]? with
    | some item =>
      match item.pc with
      | .rejected error => { s with core := next }.note i (refusedCounts error)
      | _ => { s with core := next }
    | none => { s with core := next }
  | .settleRelease i =>
    match next.items[i]? with
    | some item => { s with core := next }.countFinish i item.lease.lane
    | none => { s with core := next }
  | .conclude =>
    match s.core.worker with
    | .concluding i (.error _) =>
      { { s with core := next }.note i fun counts => { counts with fate := some .failed } with
        workerOwes := some i }
    | .concluding i (.ok ()) =>
      { s with core := next }.note i fun counts => { counts with fate := some .accepted }
    | _ => { s with core := next }
  | _ => { s with core := next }

/-- The thread that takes this step has nothing left to count before it. -/
def clear (s : CountedServer) : AdmissionLabel → Bool
  | .unwind i => !(s.counts[i]?.any fun counts => counts.admitOwes)
  | .pop | .workerExit => s.workerOwes.isNone
  | _ => true

/-- One step. -/
def step (s : CountedServer) : CountedLabel → Option CountedServer
  | .core label =>
    if s.clear label then (s.core.step label).map fun next => s.tally next label else none
  | .dropFull i =>
    match s.core.items[i]?, s.counts[i]? with
    | some item, some counts =>
      if counts.admitOwes then
        some ((s.countDrop i item.lease.lane).note i fun counts =>
          { counts with admitOwes := false })
      else none
    | _, _ => none
  | .dropRefused i =>
    match s.core.items[i]?, s.counts[i]? with
    | some item, some counts =>
      if counts.readerOwes ∧ item.pc = .unwound ∧ item.lease.pc = .released then
        some ((s.countDrop i item.lease.lane).note i fun counts =>
          { counts with readerOwes := false })
      else none
    | _, _ => none
  | .dropFailed =>
    match s.workerOwes with
    | some i =>
      match s.core.items[i]? with
      | some item => some { s.countDrop i item.lease.lane with workerOwes := none }
      | none => none
    | none => none

/-- A server as `Create` and `Start` leave it. -/
def machine (options : ServerOptions) : Machine CountedServer CountedLabel where
  start s := options.validate = .ok () ∧ s = { core := { options } }
  step := step

/-! ## The books -/

/-- How often a request with this fate is counted as dropped in the end. -/
def dueDrops : Option Fate → Nat
  | none | some .accepted => 0
  | some .overInflight | some .queueClosed | some .failed => 1
  | some .queueFull => 2

/-- The worker has the item and has not seen the end of its handler. -/
def holds (i : Nat) : WorkerPc → Bool
  | .handling j | .concluding j _ => j = i
  | .idle | .exited => false

/-- The fates that a request may have where it is; `held` says that the worker has it. -/
def FateFits (held : Bool) (counts : RequestCounts) : ItemPc → Prop
  | .arrived | .counted | .queued => counts.fate = none ∧ counts.readerOwes = false
  | .overCap => counts.fate = some .overInflight ∧ counts.readerOwes = false
  | .rejected _ =>
    (counts.fate = some .queueClosed ∨ counts.fate = some .queueFull) ∧ counts.readerOwes = true
  | .unwound => counts.fate = some .queueClosed ∨ counts.fate = some .queueFull
  | .handed => (if held then counts.fate = none
      else counts.fate = some .failed ∨ counts.fate = some .accepted) ∧ counts.readerOwes = false

/-- What is still to be counted as dropped for a request; `owed` says that the worker will. -/
def pending (owed : Bool) (counts : RequestCounts) : Nat :=
  (if counts.admitOwes then 1 else 0) + (if counts.readerOwes then 1 else 0) +
    if owed then 1 else 0

/-- What is known of one item and of what was counted for it. -/
structure Booked (held owed : Bool) (item : AdmissionItem) (counts : RequestCounts) : Prop where
  lane : counts.lane = item.lease.lane
  finished : counts.finished = if item.lease.pc = .released then 1 else 0
  dropped : counts.dropped + pending owed counts = dueDrops counts.fate
  fits : FateFits held counts item.pc
  admitOwes : counts.admitOwes = true → ∃ error, item.pc = .rejected error
  workerOwes : owed = true → item.pc = .handed ∧ held = false

/-- Every request is booked. -/
structure Books (s : CountedServer) : Prop where
  ledger : s.core.Ledger
  same : s.counts.length = s.core.items.length
  booked : ∀ i item counts, s.core.items[i]? = some item → s.counts[i]? = some counts →
    Booked (holds i s.core.worker) (s.workerOwes = some i) item counts
  known : ∀ i, s.workerOwes = some i → i < s.core.items.length
  rests : ∀ i, s.workerOwes = some i → s.core.worker = .idle

variable {s next : CountedServer} {core : ServerState} {i : Nat} {item : AdmissionItem}
  {counts : RequestCounts} {held owed : Bool}

/-- An item has a record. -/
theorem Books.record (books : s.Books) (found : s.core.items[i]? = some item) :
    ∃ counts, s.counts[i]? = some counts := by
  have inside := (List.getElem?_eq_some_iff.mp found).1
  rw [← books.same] at inside
  exact ⟨_, List.getElem?_eq_getElem inside⟩

variable {g : RequestCounts → RequestCounts} {label : AdmissionLabel} {lane : TrafficClass}

/-- One item and its record change; the worker keeps its hands off the others. -/
theorem Books.update (books : s.Books) {f : AdmissionItem → AdmissionItem}
    (ledger : next.core.Ledger) (items : next.core.items = s.core.items.modify i f)
    (records : next.counts = s.counts.modify i g)
    (held : ∀ j, j ≠ i → holds j next.core.worker = holds j s.core.worker)
    (owed : ∀ j, j ≠ i → (next.workerOwes = some j ↔ s.workerOwes = some j))
    (found : s.core.items[i]? = some item)
    (rests : ∀ j, next.workerOwes = some j → next.core.worker = .idle)
    (own : ∀ counts, s.counts[i]? = some counts →
      Booked (holds i s.core.worker) (s.workerOwes = some i) item counts →
      Booked (holds i next.core.worker) (next.workerOwes = some i) (f item) (g counts)) :
    next.Books where
  ledger := ledger
  same := by
    rw [items, records, List.length_modify, List.length_modify]
    exact books.same
  booked j later counts found' recorded := by
    rw [items] at found'
    rw [records] at recorded
    obtain ⟨rfl, old, present, rfl⟩ | ⟨apart, present⟩ := List.getElem?_modify_cases found'
    · cases found.symm.trans present
      obtain ⟨-, before, noted, rfl⟩ | ⟨apart, -⟩ := List.getElem?_modify_cases recorded
      · exact own before noted (books.booked j item before present noted)
      · exact absurd rfl apart
    · obtain ⟨same, -⟩ | ⟨-, noted⟩ := List.getElem?_modify_cases recorded
      · exact absurd same apart
      · rw [held j apart]
        have kept := books.booked j later counts present noted
        simpa only [owed j apart] using kept
  known j owes := by
    rw [items, List.length_modify]
    by_cases same : j = i
    · rw [same]
      exact (List.getElem?_eq_some_iff.mp found).1
    · exact books.known j ((owed j same).mp owes)
  rests := rests

/-- A step that touches no item, no record and not the worker. -/
theorem Books.congr (books : s.Books) (ledger : next.core.Ledger)
    (items : next.core.items = s.core.items) (records : next.counts = s.counts)
    (worker : ∀ j, holds j next.core.worker = holds j s.core.worker)
    (owed : next.workerOwes = s.workerOwes)
    (rests : ∀ j, next.workerOwes = some j → next.core.worker = .idle) : next.Books where
  ledger := ledger
  same := by
    rw [items, records]
    exact books.same
  booked j item counts found recorded := by
    rw [items] at found
    rw [records] at recorded
    rw [worker, owed]
    exact books.booked j item counts found recorded
  known j owes := by
    rw [owed] at owes
    rw [items]
    exact books.known j owes
  rests := rests

/-- A new request. -/
theorem Books.arrive (books : s.Books) {session bytes : Nat} {isCall : Bool}
    (ledger : core.Ledger)
    (items : core.items = s.core.items ++ [{ session, bytes, isCall, lease := { lane } }])
    (worker : core.worker = s.core.worker) :
    ({ s with core, counts := s.counts ++ [{ lane }] } : CountedServer).Books where
  ledger := ledger
  same := by
    rw [items, List.length_append, List.length_append, books.same]
    rfl
  booked j item counts found recorded := by
    rw [items] at found
    rw [worker]
    obtain ⟨rfl, rfl⟩ | old := List.getElem?_push_cases found
    · rw [← books.same] at recorded
      rw [List.getElem?_concat_length, Option.some.injEq] at recorded
      subst recorded
      have idle : holds s.core.items.length s.core.worker = false := by
        cases at' : s.core.worker with
        | handling k =>
          obtain ⟨held, present, -⟩ := books.ledger.worker k (.ok ()) (.inl at')
          have inside := (List.getElem?_eq_some_iff.mp present).1
          exact decide_eq_false (by omega)
        | concluding k handled =>
          obtain ⟨held, present, -⟩ := books.ledger.worker k handled (.inr at')
          have inside := (List.getElem?_eq_some_iff.mp present).1
          exact decide_eq_false (by omega)
        | idle => rfl
        | exited => rfl
      have free : decide (s.workerOwes = some s.core.items.length) = false := by
        apply decide_eq_false
        intro owes
        have inside := books.known _ owes
        omega
      rw [idle, free]
      exact ⟨rfl, rfl, rfl, ⟨rfl, rfl⟩, nofun, nofun⟩
    · have inside := (List.getElem?_eq_some_iff.mp old).1
      rw [List.getElem?_append_left (by rw [books.same]; exact inside)] at recorded
      exact books.booked j item counts old recorded
  known j owes := by
    rw [items, List.length_append]
    have inside := books.known j owes
    omega
  rests j owes := by
    rw [worker]
    exact books.rests j owes

/-- One item changes, and its record does not. -/
theorem Books.proceed (books : s.Books) {f : AdmissionItem → AdmissionItem}
    (ledger : core.Ledger) (items : core.items = s.core.items.modify i f)
    (worker : core.worker = s.core.worker) (found : s.core.items[i]? = some item)
    (own : ∀ counts held owed, Booked held owed item counts → Booked held owed (f item) counts) :
    ({ s with core } : CountedServer).Books := by
  have records : ({ s with core } : CountedServer).counts = s.counts.modify i id :=
    (List.modify_id ..).symm
  apply books.update (f := f) ledger items records
  · intro j _
    rw [worker]
  · exact fun j _ => Iff.rfl
  · exact found
  · intro j owes
    rw [worker]
    exact books.rests j owes
  · intro counts _ booked
    rw [worker]
    exact own counts _ _ booked

section

variable (booked : Booked held owed item counts)

include booked

/-- Before its fate is decided nothing was counted as dropped for a request, and nothing is to
be. -/
theorem Booked.undecided (open' : counts.fate = none) :
    counts.dropped = 0 ∧ counts.admitOwes = false ∧ counts.readerOwes = false ∧ owed = false := by
  have total : counts.dropped + pending owed counts = 0 := by
    rw [booked.dropped, open']
    rfl
  unfold pending at total
  refine ⟨by omega, ?_, ?_, ?_⟩
  all_goals
    rw [← Bool.not_eq_true]
    intro owes
    rw [if_pos owes] at total
    omega

/-- A request at the in-flight limit is dropped in the section that finds the limit. -/
theorem Booked.overInflight (arrived : item.pc = .arrived) :
    Booked held owed { item with pc := .overCap }
      { counts with dropped := counts.dropped + 1, fate := some .overInflight } := by
  have fits := booked.fits
  rw [arrived] at fits
  obtain ⟨noneLeft, accepts, reader, free⟩ := booked.undecided fits.1
  exact ⟨booked.lane, booked.finished, by simp [pending, noneLeft, accepts, reader, free, dueDrops],
    ⟨rfl, reader⟩, fun owes => (by cases accepts.symm.trans owes),
    fun owes => (by cases free.symm.trans owes)⟩

/-- A request moves on undecided. -/
theorem Booked.moves {pc : ItemPc} (counted : Bool)
    (before : item.pc = .arrived ∨ item.pc = .counted ∨ item.pc = .queued)
    (after : FateFits held counts pc) :
    Booked held owed { item with pc, lease := { item.lease with counted } } counts := by
  have fits : counts.fate = none := by
    have fits := booked.fits
    obtain pc | pc | pc := before
    all_goals
      rw [pc] at fits
      exact fits.1
  obtain ⟨_, accepts, _, free⟩ := booked.undecided fits
  exact ⟨booked.lane, booked.finished, booked.dropped, after,
    fun owes => (by cases accepts.symm.trans owes),
    fun owes => (by cases free.symm.trans owes)⟩

/-- A request that `Admit` refused is still to be counted. -/
theorem Booked.refused (counted : item.pc = .counted) (error : Error) :
    Booked held owed { item with pc := .rejected error } (refusedCounts error counts) := by
  have fits := booked.fits
  rw [counted] at fits
  obtain ⟨noneLeft, accepts, _, free⟩ := booked.undecided fits.1
  have free' : owed = true → False := fun owes => (by cases free.symm.trans owes)
  unfold refusedCounts
  split_ifs
  · exact ⟨booked.lane, booked.finished, by simp [pending, noneLeft, free, dueDrops],
      ⟨.inr rfl, rfl⟩, fun _ => ⟨error, rfl⟩, fun owes => (free' owes).elim⟩
  · exact ⟨booked.lane, booked.finished, by simp [pending, noneLeft, accepts, free, dueDrops],
      ⟨.inl rfl, rfl⟩, fun _ => ⟨error, rfl⟩, fun owes => (free' owes).elim⟩

/-- The reader releases the lease of a request that `Admit` refused, once `Admit` has counted. -/
theorem Booked.unwinds {error : Error}
    (rejected : item.pc = .rejected error) (accepts : counts.admitOwes = false)
    (lease : item.lease.pc = .held) :
    Booked held owed { item with pc := .unwound, lease := { item.lease with pc := .releasing } }
      counts := by
  have fits := booked.fits
  rw [rejected] at fits
  have finished := booked.finished
  rw [lease] at finished
  refine ⟨booked.lane, finished, booked.dropped, fits.1,
    fun owes => (by cases accepts.symm.trans owes), fun owes => ?_⟩
  have handed := (booked.workerOwes owes).1
  rw [rejected] at handed
  cases handed

/-- Somebody wins the exchange of a lease. -/
theorem Booked.releases (lease : item.lease.pc = .held) :
    Booked held owed { item with lease := { item.lease with pc := .releasing } } counts := by
  have finished := booked.finished
  rw [lease] at finished
  exact ⟨booked.lane, finished, booked.dropped, booked.fits, booked.admitOwes, booked.workerOwes⟩

/-- The section of the release that won counts the request as finished. -/
theorem Booked.finishes (lease : item.lease.pc = .releasing) :
    Booked held owed { item with lease := { item.lease with pc := .released } }
      { counts with finished := counts.finished + 1 } := by
  have finished := booked.finished
  rw [lease] at finished
  exact ⟨booked.lane, by simp [finished], booked.dropped, booked.fits, booked.admitOwes,
    booked.workerOwes⟩

/-- The worker takes a request. -/
theorem Booked.taken (queued : item.pc = .queued) {holding : Bool} (now : holding = true) :
    Booked holding owed { item with pc := .handed } counts := by
  subst now
  have fits := booked.fits
  rw [queued] at fits
  obtain ⟨_, accepts, _, free⟩ := booked.undecided fits.1
  exact ⟨booked.lane, booked.finished, booked.dropped, fits,
    fun owes => (by cases accepts.symm.trans owes),
    fun owes => (by cases free.symm.trans owes)⟩

end

/-- The handler failed: the worker is still to count the request as dropped. -/
theorem Booked.fails (booked : Booked true owed item counts) (handed : item.pc = .handed) :
    Booked false true item { counts with fate := some .failed } := by
  have fits := booked.fits
  rw [handed] at fits
  obtain ⟨noneLeft, accepts, reader, -⟩ := booked.undecided fits.1
  refine ⟨booked.lane, booked.finished, by simp [pending, noneLeft, accepts, reader, dueDrops], ?_,
    fun owes => (by cases accepts.symm.trans owes), fun _ => ⟨handed, rfl⟩⟩
  rw [handed]
  exact ⟨.inl rfl, fits.2⟩

/-- The handler took the request. -/
theorem Booked.succeeds (booked : Booked true owed item counts) (handed : item.pc = .handed) :
    Booked false owed item { counts with fate := some .accepted } := by
  have fits := booked.fits
  rw [handed] at fits
  obtain ⟨noneLeft, accepts, reader, free⟩ := booked.undecided fits.1
  refine ⟨booked.lane, booked.finished, by simp [pending, noneLeft, accepts, reader, free, dueDrops], ?_,
    fun owes => (by cases accepts.symm.trans owes),
    fun owes => (by cases free.symm.trans owes)⟩
  rw [handed]
  exact ⟨.inr rfl, fits.2⟩

section

variable (books : s.Books) (found : s.core.items[i]? = some item)

include books found

/-- The section that checks the in-flight limit. -/
theorem Books.check (arrived : item.pc = .arrived) (ledger : (s.core.check i item).Ledger) :
    (s.tally (s.core.check i item) (.check i)).Books := by
  unfold ServerState.check at ledger ⊢
  split_ifs at ledger ⊢ with full
  · have after : (s.core.goto i .overCap).items[i]? = some { item with pc := .overCap } := by
      simp [ServerState.goto, ServerState.modifyItem, found]
    unfold tally
    dsimp only
    rw [after]
    have records : (({ s with core := s.core.goto i .overCap }.countDrop i item.lease.lane).note i
        fun counts => { counts with fate := some .overInflight }).counts =
        s.counts.modify i fun counts =>
          { counts with dropped := counts.dropped + 1, fate := some .overInflight } := by
      simp [countDrop, note, List.modify_modify_eq, Function.comp_def]
    exact books.update ledger rfl records (fun j _ => rfl) (fun j _ => Iff.rfl) found books.rests
      fun counts _ booked => booked.overInflight arrived
  · have after : ((s.core.noteInflight item.lease.lane 1).modifyItem i fun item =>
        { item with pc := .counted, lease := { item.lease with counted := true } }).items[i]? =
        some { item with pc := .counted, lease := { item.lease with counted := true } } := by
      simp [ServerState.noteInflight, ServerState.modifyItem, found]
    unfold tally
    dsimp only
    rw [after]
    refine books.proceed ledger rfl rfl found ?_
    intro counts held owed booked
    have fits := booked.fits
    rw [arrived] at fits
    exact booked.moves _ (.inl arrived) fits

/-- An `Admit` that refuses. -/
theorem Books.reject
    (counted : item.pc = .counted) (error : Error) (ledger : (s.core.goto i (.rejected error)).Ledger) :
    (s.tally (s.core.goto i (.rejected error)) (.push i)).Books := by
  have after : (s.core.goto i (.rejected error)).items[i]? =
      some { item with pc := .rejected error } := by
    simp [goto, modifyItem, found]
  unfold tally
  dsimp only
  rw [after]
  exact books.update (f := fun item => { item with pc := .rejected error })
    (g := refusedCounts error) ledger rfl rfl (fun j _ => rfl) (fun j _ => Iff.rfl) found books.rests
    fun counts _ booked => booked.refused counted error

/-- `Admit`. -/
theorem Books.push (counted : item.pc = .counted) (ledger : (s.core.push i item).Ledger) :
    (s.tally (s.core.push i item) (.push i)).Books := by
  unfold ServerState.push at ledger ⊢
  split_ifs at ledger ⊢ with shut full
  · exact books.reject found counted _ ledger
  · exact books.reject found counted _ ledger
  · have after : (s.core.goto i .queued).items[i]? = some { item with pc := .queued } := by
      simp [ServerState.goto, ServerState.modifyItem, found]
    unfold tally
    dsimp only
    rw [after]
    refine books.proceed (f := fun item => { item with pc := .queued }) ledger rfl rfl found ?_
    intro counts held owed booked
    have fits := booked.fits
    rw [counted] at fits
    exact booked.moves item.lease.counted (.inr (.inl counted)) fits

/-- The reader releases the lease of a refused request. -/
theorem Books.unwind {error : Error}
    (rejected : item.pc = .rejected error) (clear : s.clear (.unwind i) = true)
    (ledger : ((s.core.release i).goto i .unwound).Ledger) :
    (s.tally ((s.core.release i).goto i .unwound) (.unwind i)).Books := by
  have lease : item.lease.pc = .held :=
    (books.ledger.sound i item found).held (by rw [rejected]; rfl)
  have items : ((s.core.release i).goto i .unwound).items = s.core.items.modify i fun item =>
      { (if item.lease.pc = .held then { item with lease := { item.lease with pc := .releasing } }
        else item) with pc := .unwound } := by
    simp [release, goto, modifyItem, List.modify_modify_eq,
      Function.comp_def]
  obtain ⟨counts, recorded⟩ := books.record found
  have accepts : counts.admitOwes = false := by
    change (!(s.counts[i]?.any fun counts => counts.admitOwes)) = true at clear
    rw [recorded] at clear
    simpa using clear
  have records : (s.tally ((s.core.release i).goto i .unwound) (.unwind i)).counts =
      s.counts.modify i id := (List.modify_id ..).symm
  refine books.update ledger items records (fun j _ => rfl) (fun j _ => Iff.rfl) found books.rests ?_
  intro noted same booked
  cases recorded.symm.trans same
  rw [if_pos lease]
  exact booked.unwinds rejected accepts lease

/-- Somebody calls `Release`. -/
theorem Books.release (ledger : (s.core.release i).Ledger) :
    ({ s with core := s.core.release i } : CountedServer).Books := by
  refine books.proceed ledger rfl rfl found ?_
  intro counts held owed booked
  split_ifs with lease
  · exact booked.releases lease
  · exact booked

/-- The section of the release that won. -/
theorem Books.settleRelease
    (releasing : item.lease.pc = .releasing) (ledger : (s.core.settleRelease i item).Ledger) :
    (s.tally (s.core.settleRelease i item) (.settleRelease i)).Books := by
  have after : (s.core.settleRelease i item).items[i]? =
      some { item with lease := { item.lease with pc := .released } } := by
    simp [ServerState.settleRelease, ServerState.noteInflight, ServerState.modifyItem, found]
  unfold tally
  dsimp only
  rw [after]
  refine books.update (f := fun item =>
      { item with lease := { item.lease with pc := .released } })
    (g := fun counts => { counts with finished := counts.finished + 1 }) ledger rfl rfl
    (fun j _ => rfl) (fun j _ => Iff.rfl) found books.rests fun counts _ booked => ?_
  exact booked.finishes releasing

end

/-- The steps of an item in `AdmitInbound`, of its lease, and of anybody who releases it. -/
theorem Books.stepItem (books : s.Books) (ledger : core.Ledger)
    (found : s.core.items[i]? = some item) (clear : s.clear label = true)
    (own : label = .check i ∨ label = .push i ∨ label = .unwind i ∨ label = .release i ∨
      label = .settleRelease i)
    (stepped : s.core.stepItem i item label = some core) : (s.tally core label).Books := by
  obtain rfl | rfl | rfl | rfl | rfl := own
  · obtain ⟨arrived, rfl⟩ := guarded_some stepped
    exact books.check found arrived ledger
  · obtain ⟨counted, rfl⟩ := guarded_some stepped
    exact books.push found counted ledger
  · cases pc : item.pc <;> rw [stepItem, pc] at stepped <;> cases stepped
    exact books.unwind found pc clear ledger
  · obtain ⟨-, rfl⟩ := guarded_some stepped
    exact books.release found ledger
  · obtain ⟨releasing, rfl⟩ := guarded_some stepped
    exact books.settleRelease found releasing ledger

/-- The worker takes the oldest item. -/
theorem Books.pop (books : s.Books) {rest : List Nat} (idle : s.core.worker = .idle)
    (queue : s.core.queue = i :: rest) (found : s.core.items[i]? = some item)
    (clear : s.clear .pop = true)
    (ledger : ({ s.core.goto i .handed with queue := rest, queueBytes := s.core.queueBytes - item.bytes,
                                            worker := .handling i } : ServerState).Ledger) :
    (s.tally { s.core.goto i .handed with
      queue := rest, queueBytes := s.core.queueBytes - item.bytes, worker := .handling i }
      .pop).Books := by
  obtain ⟨other, present, queued⟩ := books.ledger.queued i (by rw [queue]; exact List.mem_cons_self)
  cases found.symm.trans present
  have free : s.workerOwes = none := by
    change s.workerOwes.isNone = true at clear
    simpa using clear
  have records : (s.tally { s.core.goto i .handed with
      queue := rest, queueBytes := s.core.queueBytes - item.bytes, worker := .handling i }
      .pop).counts = s.counts.modify i id := (List.modify_id ..).symm
  refine books.update (f := fun item => { item with pc := .handed }) ledger rfl records ?_
    (fun j _ => Iff.rfl) found ?_ fun counts _ booked => booked.taken queued (decide_eq_true rfl)
  · intro j apart
    rw [idle]
    exact decide_eq_false fun same => apart same.symm
  · intro j owes
    exact absurd (free.symm.trans owes) nofun

/-- What the worker does to an item when it is done with it. -/
theorem conclude_items (core : ServerState) (i : Nat) (item : AdmissionItem)
    (handled : Except Error Unit) :
    ∃ f : AdmissionItem → AdmissionItem,
      (core.conclude i item handled).items = core.items.modify i f ∧
      (core.conclude i item handled).worker = .idle ∧
      ∀ held owed counts, Booked held owed item counts → Booked held owed (f item) counts := by
  unfold conclude
  split_ifs
  · exact ⟨id, (List.modify_id ..).symm, rfl, fun _ _ _ booked => booked⟩
  · refine ⟨_, rfl, rfl, fun held owed counts booked => ?_⟩
    split_ifs with lease
    · exact booked.releases lease
    · exact booked

/-- The worker is done with an item. -/
theorem Books.conclude (books : s.Books) {handled : Except Error Unit}
    (worker : s.core.worker = .concluding i handled) (found : s.core.items[i]? = some item)
    (ledger : (s.core.conclude i item handled).Ledger) :
    (s.tally (s.core.conclude i item handled) .conclude).Books := by
  obtain ⟨f, items, idle, keeps⟩ := conclude_items s.core i item handled
  obtain ⟨other, present, handed⟩ := books.ledger.worker i handled (.inr worker)
  cases found.symm.trans present
  have free : s.workerOwes = none := by
    cases owes : s.workerOwes with
    | none => rfl
    | some j => cases worker.symm.trans (books.rests j owes)
  have held : holds i s.core.worker = true := by
    rw [worker]
    exact decide_eq_true rfl
  have others : ∀ j, j ≠ i → holds j (s.core.conclude i item handled).worker =
      holds j s.core.worker := by
    intro j apart
    rw [idle, worker]
    exact (decide_eq_false fun same => apart same.symm).symm
  unfold tally
  rw [worker]
  cases handled with
  | error error =>
    refine books.update ledger items rfl others ?_ found (fun j _ => idle) ?_
    · intro j apart
      rw [free]
      exact iff_of_false (fun same => apart (Option.some.inj same).symm) nofun
    · intro counts _ booked
      rw [held] at booked
      change Booked (holds i (s.core.conclude i item (.error error)).worker)
        (decide (some i = some i)) (f item) { counts with fate := some .failed }
      rw [idle, decide_eq_true (show some i = some i from rfl)]
      exact keeps _ _ _ (booked.fails handed)
  | ok value =>
    refine books.update ledger items rfl others (fun j _ => Iff.rfl) found (fun j _ => idle) ?_
    intro counts _ booked
    rw [held] at booked
    change Booked (holds i (s.core.conclude i item (.ok value)).worker)
      (decide (s.workerOwes = some i)) (f item) { counts with fate := some .accepted }
    rw [idle]
    exact keeps _ _ _ (booked.succeeds handed)

/-- The steps of the worker. -/
theorem Books.stepWorker (books : s.Books) (ledger : core.Ledger) (clear : s.clear label = true)
    (own : label = .pop ∨ (∃ returned, label = .handle returned) ∨ label = .conclude ∨
      label = .workerExit)
    (stepped : s.core.stepWorker label = some core) : (s.tally core label).Books := by
  obtain rfl | ⟨returned, rfl⟩ | rfl | rfl := own
  · simp only [stepWorker, ite_none_right_eq_some] at stepped
    obtain ⟨idle, stepped⟩ := stepped
    cases queue : s.core.queue with
    | nil => simp [queue] at stepped
    | cons i rest =>
      simp only [queue, map_eq_some_iff] at stepped
      obtain ⟨item, found, rfl⟩ := stepped
      exact books.pop idle queue found clear ledger
  · cases worker : s.core.worker <;> rw [stepWorker, worker] at stepped <;> cases stepped
    refine books.congr ledger rfl rfl (fun j => ?_) rfl fun j owes => ?_
    · rw [worker]
      rfl
    · cases worker.symm.trans (books.rests j owes)
  · cases worker : s.core.worker <;>
      simp only [stepWorker, worker, map_eq_some_iff, reduceCtorEq] at stepped
    obtain ⟨item, found, rfl⟩ := stepped
    exact books.conclude worker found ledger
  · obtain ⟨⟨idle, -, -⟩, rfl⟩ := guarded_some stepped
    change s.workerOwes.isNone = true at clear
    refine books.congr ledger rfl rfl (fun j => ?_) rfl fun j owes => ?_
    · rw [idle]
      rfl
    · change s.workerOwes = some j at owes
      rw [owes] at clear
      cases clear

/-- A shutdown touches no item and not the worker. -/
theorem shutdown_keeps (core : ServerState) :
    core.shutdown.items = core.items ∧ core.shutdown.worker = core.worker := by
  unfold shutdown
  split
  · exact ⟨rfl, rfl⟩
  · split_ifs
    · exact ⟨rfl, rfl⟩
    · exact ⟨rfl, rfl⟩
    · exact ⟨rfl, rfl⟩

/-- A step of the admission, with what it counts. -/
theorem Books.stepCore (books : s.Books) (clear : s.clear label = true)
    (stepped : s.core.step label = some core) : (s.tally core label).Books := by
  have ledger := books.ledger.step stepped
  cases label with
  | arrive session lane bytes isCall =>
    cases stepped
    exact books.arrive ledger rfl rfl
  | check i | push i | unwind i | release i | settleRelease i =>
    obtain ⟨item, found, stepped⟩ := bind_eq_some_iff.mp stepped
    exact books.stepItem ledger found clear (by simp) stepped
  | pop | handle returned | conclude | workerExit =>
    exact books.stepWorker ledger clear (by simp) stepped
  | closeQueue | sealServer reason | drain | linkUp =>
    cases stepped
    exact books.congr ledger rfl rfl (fun j => rfl) rfl books.rests
  | shutdown =>
    cases stepped
    obtain ⟨items, worker⟩ := shutdown_keeps s.core
    refine books.congr ledger items rfl (fun j => congrArg (holds j) worker) rfl fun j owes => ?_
    exact worker.trans (books.rests j owes)
  | drainClose d =>
    simp only [ServerState.step, bind_eq_some_iff, ServerState.stepDrain,
      ite_none_right_eq_some, Option.some.injEq] at stepped
    obtain ⟨drain, -, -, rfl⟩ := stepped
    exact books.congr ledger rfl rfl (fun j => rfl) rfl books.rests
  | drainCheck d late =>
    simp only [ServerState.step, bind_eq_some_iff, ServerState.stepDrain,
      ite_none_right_eq_some, map_eq_some_iff] at stepped
    obtain ⟨drain, -, -, result, -, rfl⟩ := stepped
    exact books.congr ledger rfl rfl (fun j => rfl) rfl books.rests
  | wrote link outstanding =>
    obtain ⟨-, rfl⟩ := guarded_some stepped
    exact books.congr ledger rfl rfl (fun j => rfl) rfl books.rests

/-- `Admit` counts. -/
theorem Booked.dropsFull (booked : Booked held owed item counts) (owes : counts.admitOwes = true) :
    Booked held owed item
      { counts with dropped := counts.dropped + 1, admitOwes := false } := by
  have total := booked.dropped
  unfold pending at total
  rw [if_pos owes] at total
  refine ⟨booked.lane, booked.finished, ?_, booked.fits, nofun, booked.workerOwes⟩
  unfold pending
  rw [if_neg Bool.false_ne_true]
  dsimp only
  omega

/-- `AdmitInbound` counts. -/
theorem Booked.dropsRefused (booked : Booked held owed item counts)
    (owes : counts.readerOwes = true) (unwound : item.pc = .unwound) :
    Booked held owed item
      { counts with dropped := counts.dropped + 1, readerOwes := false } := by
  have total := booked.dropped
  have fits := booked.fits
  unfold pending at total
  rw [if_pos owes] at total
  rw [unwound] at fits
  refine ⟨booked.lane, booked.finished, ?_, ?_, booked.admitOwes, booked.workerOwes⟩
  · unfold pending
    rw [if_neg Bool.false_ne_true]
    dsimp only
    omega
  · rw [unwound]
    exact fits

/-- The worker counts. -/
theorem Booked.dropsFailed (booked : Booked held true item counts) :
    Booked held false item { counts with dropped := counts.dropped + 1 } := by
  have total := booked.dropped
  unfold pending at total
  rw [if_pos rfl] at total
  refine ⟨booked.lane, booked.finished, ?_, booked.fits, booked.admitOwes, nofun⟩
  unfold pending
  rw [if_neg Bool.false_ne_true]
  dsimp only
  omega

/-- The record of one item changes, and nothing else but the counters. -/
theorem Books.recount (books : s.Books)
    (found : s.core.items[i]? = some item) (core : next.core = s.core)
    (records : next.counts = s.counts.modify i g)
    (owed : ∀ j, j ≠ i → (next.workerOwes = some j ↔ s.workerOwes = some j))
    (rests : ∀ j, next.workerOwes = some j → s.workerOwes = some j)
    (own : ∀ counts, s.counts[i]? = some counts →
      Booked (holds i s.core.worker) (s.workerOwes = some i) item counts →
      Booked (holds i s.core.worker) (next.workerOwes = some i) item (g counts)) : next.Books := by
  refine books.update (f := id) ?_ ?_ records (fun j _ => by rw [core]) owed
    found (fun j owes => ?_) ?_
  · rw [core]
    exact books.ledger
  · rw [core, List.modify_id]
  · rw [core]
    exact books.rests j (rests j owes)
  · intro counts recorded booked
    rw [core]
    exact own counts recorded booked

/-- Every step keeps the books. -/
theorem Books.step (books : s.Books) {label : CountedLabel} (stepped : s.step label = some next) :
    next.Books := by
  cases label with
  | core label =>
    simp only [CountedServer.step, ite_none_right_eq_some, map_eq_some_iff] at stepped
    obtain ⟨clear, core, stepped, rfl⟩ := stepped
    exact books.stepCore clear stepped
  | dropFull i =>
    cases found : s.core.items[i]? with
    | none => simp [CountedServer.step, found] at stepped
    | some item =>
      obtain ⟨counts, recorded⟩ := books.record found
      simp only [CountedServer.step, found, recorded, ite_none_right_eq_some,
        Option.some.injEq] at stepped
      obtain ⟨owes, rfl⟩ := stepped
      refine books.recount (g := fun counts =>
        { counts with dropped := counts.dropped + 1, admitOwes := false }) found rfl ?_
        (fun j _ => Iff.rfl) (fun j same => same) fun other same booked => ?_
      · simp [countDrop, note, List.modify_modify_eq, Function.comp_def]
      · cases recorded.symm.trans same
        exact booked.dropsFull owes
  | dropRefused i =>
    cases found : s.core.items[i]? with
    | none => simp [CountedServer.step, found] at stepped
    | some item =>
      obtain ⟨counts, recorded⟩ := books.record found
      simp only [CountedServer.step, found, recorded, ite_none_right_eq_some,
        Option.some.injEq] at stepped
      obtain ⟨⟨owes, unwound, -⟩, rfl⟩ := stepped
      refine books.recount (g := fun counts =>
        { counts with dropped := counts.dropped + 1, readerOwes := false }) found rfl ?_
        (fun j _ => Iff.rfl) (fun j same => same) fun other same booked => ?_
      · simp [countDrop, note, List.modify_modify_eq, Function.comp_def]
      · cases recorded.symm.trans same
        exact booked.dropsRefused owes unwound
  | dropFailed =>
    cases owes : s.workerOwes with
    | none => simp [CountedServer.step, owes] at stepped
    | some i =>
      cases found : s.core.items[i]? with
      | none => simp [CountedServer.step, owes, found] at stepped
      | some item =>
        simp only [CountedServer.step, owes, found, Option.some.injEq] at stepped
        subst stepped
        refine books.recount (g := fun counts => { counts with dropped := counts.dropped + 1 })
          found rfl rfl (fun j apart => ?_) nofun fun counts _ booked => ?_
        · rw [owes]
          exact iff_of_false nofun fun same => apart (Option.some.inj same).symm
        · rw [owes, decide_eq_true (show some i = some i from rfl)] at booked
          exact booked.dropsFailed

/-! ## The counters of a lane -/

/-- What was counted as finished for the requests of a lane. -/
def finishedOn (lane : TrafficClass) (all : List RequestCounts) : Nat :=
  (all.map fun counts => if counts.lane = lane then counts.finished else 0).sum

/-- What was counted as dropped for the requests of a lane. -/
def droppedOn (lane : TrafficClass) (all : List RequestCounts) : Nat :=
  (all.map fun counts => if counts.lane = lane then counts.dropped else 0).sum

/-- The counters are the sums over the requests of their lanes. -/
def Summed (s : CountedServer) : Prop :=
  ∀ lane, s.finished lane = finishedOn lane s.counts ∧ s.dropped lane = droppedOn lane s.counts

/-- A record changes, and the counters of its lane as it does. -/
theorem Summed.recount (summed : s.Summed) (recorded : s.counts[i]? = some counts)
    (records : next.counts = s.counts.modify i g) (lane : (g counts).lane = counts.lane)
    (finished : ∀ other, next.finished other + (if counts.lane = other then counts.finished else 0) =
      s.finished other + if counts.lane = other then (g counts).finished else 0)
    (dropped : ∀ other, next.dropped other + (if counts.lane = other then counts.dropped else 0) =
      s.dropped other + if counts.lane = other then (g counts).dropped else 0) : next.Summed := by
  intro other
  have first := List.sum_map_modify
    (fun counts : RequestCounts => if counts.lane = other then counts.finished else 0) g recorded
  have second := List.sum_map_modify
    (fun counts : RequestCounts => if counts.lane = other then counts.dropped else 0) g recorded
  obtain ⟨finishes, drops⟩ := summed other
  have finished := finished other
  have dropped := dropped other
  rw [lane] at first second
  unfold finishedOn droppedOn at *
  rw [records]
  omega

/-- A record changes, and its counts do not. -/
theorem Summed.note (summed : s.Summed) (i : Nat)
    (lane : ∀ counts, (g counts).lane = counts.lane)
    (finished : ∀ counts, (g counts).finished = counts.finished)
    (dropped : ∀ counts, (g counts).dropped = counts.dropped) : (s.note i g).Summed := by
  cases recorded : s.counts[i]? with
  | none =>
    have same : s.note i g = s := by
      unfold CountedServer.note
      rw [List.modify_eq_self (List.getElem?_eq_none_iff.mp recorded)]
    rw [same]
    exact summed
  | some counts =>
    apply summed.recount recorded rfl (lane counts)
    · exact fun other => by rw [finished]; rfl
    · exact fun other => by rw [dropped]; rfl

/-- A counter of one lane goes up by one. -/
theorem update_count (counter : TrafficClass → Nat) (lane other : TrafficClass) (n : Nat) :
    Function.update counter lane (counter lane + 1) other + (if lane = other then n else 0) =
      counter other + if lane = other then n + 1 else 0 := by
  by_cases same : lane = other
  · subst same
    rw [Function.update_self, if_pos rfl, if_pos rfl]
    omega
  · rw [Function.update_of_ne (Ne.symm same), if_neg same, if_neg same]

section

variable (summed : s.Summed) (recorded : s.counts[i]? = some counts) (own : counts.lane = lane)

include summed recorded own

/-- A drop is counted for a request of the lane. -/
theorem Summed.countDrop : (s.countDrop i lane).Summed := by
  subst own
  exact summed.recount recorded rfl rfl (fun _ => rfl) fun _ => update_count _ _ _ _

/-- A request of the lane is counted as finished. -/
theorem Summed.countFinish : (s.countFinish i lane).Summed := by
  subst own
  exact summed.recount recorded rfl rfl (fun _ => update_count _ _ _ _) fun _ => rfl

end

/-- The record of an item has the item's lane. -/
theorem Books.noted (books : s.Books) (found : s.core.items[i]? = some item) :
    ∃ counts, s.counts[i]? = some counts ∧ counts.lane = item.lease.lane := by
  obtain ⟨counts, recorded⟩ := books.record found
  exact ⟨counts, recorded, (books.booked i item counts found recorded).lane⟩

/-- The record of an item has the item's lane also before the step that rewrote it. -/
theorem Books.lane_before (books : next.Books)
    (records : next.counts = s.counts.modify i g) (keeps : ∀ counts, (g counts).lane = counts.lane)
    (found : next.core.items[i]? = some item) :
    ∃ counts, s.counts[i]? = some counts ∧ counts.lane = item.lease.lane := by
  obtain ⟨counts, recorded, lane⟩ := books.noted found
  rw [records] at recorded
  obtain ⟨-, before, noted, rfl⟩ | ⟨apart, -⟩ := List.getElem?_modify_cases recorded
  · exact ⟨before, noted, (keeps before).symm.trans lane⟩
  · exact absurd rfl apart

/-- A step of the admission counts what it counts. -/
theorem Summed.tally (summed : s.Summed)
    (books : (s.tally core label).Books) : (s.tally core label).Summed := by
  cases label with
  | arrive session lane bytes isCall =>
    intro other
    obtain ⟨finishes, drops⟩ := summed other
    refine ⟨?_, ?_⟩
    · change s.finished other = finishedOn other (s.counts ++ [{ lane := lane }])
      unfold finishedOn at finishes ⊢
      rw [List.sum_map_push, finishes]
      simp
    · change s.dropped other = droppedOn other (s.counts ++ [{ lane := lane }])
      unfold droppedOn at drops ⊢
      rw [List.sum_map_push, drops]
      simp
  | check i =>
    dsimp only [CountedServer.tally] at books ⊢
    cases found : core.items[i]? with
    | none => exact summed
    | some item =>
      rw [found] at books
      dsimp only at books ⊢
      split_ifs at books ⊢ with past
      · have records : (({ s with core }.countDrop i item.lease.lane).note i
            fun counts => { counts with fate := some .overInflight }).counts =
            s.counts.modify i fun counts =>
              { counts with dropped := counts.dropped + 1, fate := some .overInflight } := by
          simp [CountedServer.countDrop, CountedServer.note, List.modify_modify_eq, Function.comp_def]
        obtain ⟨counts, recorded, lane⟩ := books.lane_before records (fun _ => rfl) found
        have counted := Summed.countDrop (s := { s with core }) summed recorded lane
        exact counted.note i (fun _ => rfl) (fun _ => rfl) fun _ => rfl
      · exact summed
  | push i =>
    dsimp only [CountedServer.tally]
    split
    · split
      · apply Summed.note (s := { s with core }) summed i
        all_goals
          intro counts
          unfold refusedCounts
          split_ifs
          all_goals rfl
      · exact summed
    · exact summed
  | settleRelease i =>
    dsimp only [CountedServer.tally] at books ⊢
    cases found : core.items[i]? with
    | none => exact summed
    | some item =>
      rw [found] at books
      obtain ⟨counts, recorded, lane⟩ := books.lane_before (s := s) rfl (fun _ => rfl) found
      exact Summed.countFinish (s := { s with core }) summed recorded lane
  | conclude =>
    dsimp only [CountedServer.tally]
    split
    · exact Summed.note (s := { s with core }) summed _ (fun _ => rfl) (fun _ => rfl) fun _ => rfl
    · exact Summed.note (s := { s with core }) summed _ (fun _ => rfl) (fun _ => rfl) fun _ => rfl
    · exact summed
  | _ => exact summed

/-- Every step keeps the counters the sums over the requests. -/
theorem Summed.step (summed : s.Summed) (books : s.Books) {label : CountedLabel}
    (stepped : s.step label = some next) : next.Summed := by
  have after := books.step stepped
  cases label with
  | core label =>
    simp only [CountedServer.step, ite_none_right_eq_some, map_eq_some_iff] at stepped
    obtain ⟨-, core, -, rfl⟩ := stepped
    exact summed.tally after
  | dropFull i | dropRefused i =>
    cases found : s.core.items[i]? with
    | none => simp [CountedServer.step, found] at stepped
    | some item =>
      obtain ⟨counts, recorded, lane⟩ := books.noted found
      simp only [CountedServer.step, found, recorded, ite_none_right_eq_some,
        Option.some.injEq] at stepped
      rw [← stepped.2]
      exact (summed.countDrop recorded lane).note i (fun _ => rfl) (fun _ => rfl) fun _ => rfl
  | dropFailed =>
    cases owes : s.workerOwes with
    | none => simp [CountedServer.step, owes] at stepped
    | some i =>
      cases found : s.core.items[i]? with
      | none => simp [CountedServer.step, owes, found] at stepped
      | some item =>
        obtain ⟨counts, recorded, lane⟩ := books.noted found
        simp only [CountedServer.step, owes, found, Option.some.injEq] at stepped
        subst stepped
        exact summed.countDrop recorded lane

/-- Every reachable server is booked and summed. -/
theorem reachable_books {options : ServerOptions} (reachable : (machine options).Reachable s) :
    s.Books ∧ s.Summed := by
  apply reachable.invariant fun s : CountedServer => s.Books ∧ s.Summed
  · rintro state ⟨valid, rfl⟩
    have reachable : (ServerState.machine options).Reachable { options } := ⟨[], .start ⟨valid, rfl⟩⟩
    refine ⟨⟨reachable_ledger reachable, rfl, ?_, nofun, nofun⟩, fun lane => ⟨rfl, rfl⟩⟩
    intro i item counts found
    cases found
  · rintro state label next ⟨books, summed⟩ stepped
    exact ⟨books.step stepped, summed.step books stepped⟩

/-- All steps of a request are taken: refused at the limit; or refused by `Admit`, with the lease
released and everything counted; or given to the handler, with the lease released, when the worker
is done with it. -/
def Settled (s : CountedServer) (i : Nat) (item : AdmissionItem) (counts : RequestCounts) : Prop :=
  (item.pc = .overCap ∨ item.pc = .unwound ∨ item.pc = .handed) ∧
    (item.pc ≠ .overCap → item.lease.pc = .released) ∧ counts.admitOwes = false ∧
    counts.readerOwes = false ∧ s.workerOwes ≠ some i ∧ holds i s.core.worker = false

instance (s : CountedServer) (i : Nat) (item : AdmissionItem) (counts : RequestCounts) :
    Decidable (s.Settled i item counts) := by
  unfold Settled
  infer_instance

/-- What a request with this fate may have been counted as in the end. A request that found the
queue full is counted as finished; its drops are left open. -/
def countsFit : Option Fate → Nat → Nat → Prop
  | some .overInflight, finished, dropped => finished = 0 ∧ dropped = 1
  | some .queueClosed, finished, dropped => finished = 1 ∧ dropped = 1
  | some .failed, finished, dropped => finished = 1 ∧ dropped = 1
  | some .accepted, finished, dropped => finished = 1 ∧ dropped = 0
  | some .queueFull, finished, _ => finished = 1
  | none, _, _ => False

/-- The drop accounting: the counters of a lane are the sums over its requests, and a request all of
whose steps are taken is counted as its fate says. -/
theorem drop_accounting (options : ServerOptions) (s : CountedServer)
    (reachable : (machine options).Reachable s) :
    (∀ lane, s.finished lane = finishedOn lane s.counts ∧
      s.dropped lane = droppedOn lane s.counts) ∧
    ∀ i item, s.core.items[i]? = some item → ∃ counts, s.counts[i]? = some counts ∧
      counts.lane = item.lease.lane ∧
      (s.Settled i item counts → countsFit counts.fate counts.finished counts.dropped) := by
  obtain ⟨books, summed⟩ := reachable_books reachable
  refine ⟨summed, fun i item found => ?_⟩
  obtain ⟨counts, recorded, lane⟩ := books.noted found
  have booked := books.booked i item counts found recorded
  refine ⟨counts, recorded, lane, ?_⟩
  rintro ⟨place, released, accepts, reader, worker, done⟩
  have fits := booked.fits
  have total := booked.dropped
  have finished := booked.finished
  rw [pending, if_neg (Bool.eq_false_iff.mp accepts), if_neg (Bool.eq_false_iff.mp reader),
    if_neg (by simpa using worker)] at total
  obtain past | unwound | handed := place
  · -- an item over the limit never had its lease released
    rw [past] at fits
    have held := (books.ledger.sound i item found).held (by rw [past]; rfl)
    rw [held, if_neg nofun] at finished
    rw [fits.1] at total ⊢
    exact ⟨finished, by simpa [dueDrops] using total⟩
  · rw [unwound] at fits
    rw [released (by rw [unwound]; exact nofun), if_pos rfl] at finished
    obtain closed | full := fits
    · rw [closed] at total ⊢
      exact ⟨finished, by simpa [dueDrops] using total⟩
    · rw [full]
      exact finished
  · rw [handed, done] at fits
    rw [released (by rw [handed]; exact nofun), if_pos rfl] at finished
    obtain failed | accepted := fits.1
    · rw [failed] at total ⊢
      exact ⟨finished, by simpa [dueDrops] using total⟩
    · rw [accepted] at total ⊢
      exact ⟨finished, by simpa [dueDrops] using total⟩

/-- A call whose handler takes it and a send whose handler throws, both released. -/
theorem drop_accounting_handled : ∃ s : CountedServer,
    (s.core.items.length = 2 ∧ s.dropped .service = 1 ∧ s.finished .service = 2) ∧
    ∀ lane, s.finished lane = finishedOn lane s.counts ∧ s.dropped lane = droppedOn lane s.counts := by
  obtain ⟨s, reachable, tested⟩ := Machine.exists_reachable (m := machine {})
    [.core (.arrive 0 .service 100 true), .core (.arrive 1 .service 100 false), .core (.check 0),
      .core (.push 0), .core (.check 1), .core (.push 1), .core .pop,
      .core (.handle (some (.ok ()))), .core .conclude, .core (.release 0),
      .core (.settleRelease 0), .core .pop, .core (.handle none), .core .conclude,
      .core (.settleRelease 1), .dropFailed]
    (fun s : CountedServer => decide (s.core.items.length = 2 ∧ s.dropped .service = 1 ∧
      s.finished .service = 2))
    ⟨by decide, rfl⟩ (by decide +kernel)
  exact ⟨s, of_decide_eq_true tested, (drop_accounting {} s reachable).1⟩

/-- A request that finds the queue closed is counted twice in the end, once as finished and once as
dropped. -/
theorem refused_counted_twice : ∃ s : CountedServer, (machine {}).Reachable s ∧
    ∃ item counts, s.core.items[0]? = some item ∧ s.counts[0]? = some counts ∧
      s.Settled 0 item counts ∧ counts.finished = 1 ∧ counts.dropped = 1 := by
  obtain ⟨s, reachable, tested⟩ := Machine.exists_reachable (m := machine {})
    [.core (.arrive 0 .service 100 true), .core (.check 0), .core .closeQueue, .core (.push 0),
      .core (.unwind 0), .core (.settleRelease 0), .dropRefused 0]
    (fun s : CountedServer => s.core.items[0]?.any fun item => s.counts[0]?.any fun counts =>
      decide (s.Settled 0 item counts ∧ counts.finished = 1 ∧ counts.dropped = 1))
    ⟨by decide, rfl⟩ (by decide +kernel)
  obtain ⟨item, found, tested⟩ := any_eq_true .. |>.mp tested
  obtain ⟨counts, recorded, tested⟩ := any_eq_true .. |>.mp tested
  exact ⟨s, reachable, item, counts, found, recorded, of_decide_eq_true tested⟩

end CountedServer

end BbtInfra.Rpc
