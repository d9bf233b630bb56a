import BbtInfra.Http.BuildRequest

/-!
# Streamed replies

`ServeStream` behind the head of a chunked reply: the chunks of the source are encoded by hand and
written piece by piece, each up to a deadline. The body is the one that the chunked coding means.
The deadline is that of the stream only when the request's own deadline does not come first.
-/
namespace BbtInfra.Http

open List Option

/-- The end of a line. -/
def crlf : Bytes := [0x0D, 0x0A]

/-- The loop of `EncodeChunk` that counts the digits. -/
def countDigits (v : Nat) : Nat :=
  if v = 0 then 0 else countDigits (v / 16) + 1
decreasing_by omega

/-- The loop that writes the digits, the last one first. -/
def fillDigits : Nat → Nat → Bytes → Bytes
  | 0, _, head => head
  | i + 1, size, head => fillDigits i (size / 16) (hexDigit (size % 16) :: head)

/-- The digits of a size. -/
def sizeLine (size : Nat) : Bytes :=
  fillDigits (if countDigits size = 0 then 1 else countDigits size) size []

/-- `EncodeChunk`. -/
def encodeChunk (data : Bytes) : Bytes := sizeLine data.length ++ crlf ++ data ++ crlf

/-- The report of `CoTcpConnection::Write`. -/
inductive WriteReport
  | done
  /-- Nothing was taken for want of room. -/
  | rejected
  | timedOut
  | failed

/-- What one round of the loop of `Write` meets: the report is that of a piece of so many bytes. -/
structure WriteRound where
  closing : Bool := false
  now : Nat
  report : Nat → WriteReport := fun _ => .done

/-- How `Write` ends. -/
inductive WriteEnd
  | sent
  | closing
  | failed
  | expired (deadline : Nat)
  deriving DecidableEq

/-- The loop of `Write`: how it ends, the bytes that were handed over, and the rounds to come. -/
def writeLoop (deadline : Nat) :
    List WriteRound → Nat → Bytes → Option (WriteEnd × Bytes × List WriteRound)
  | rounds, _, [] => some (.sent, [], rounds)
  | [], _, _ :: _ => none
  | round :: rounds, chunk, c :: rest =>
    let bytes := c :: rest
    let count := min chunk bytes.length
    if round.closing then some (.closing, [], rounds)
    else if deadline ≤ round.now then some (.expired deadline, [], rounds)
    else
      match round.report count with
      | .rejected =>
        if 1 < count then writeLoop deadline rounds (count / 2) bytes
        else some (.failed, [], rounds)
      | .timedOut => some (.expired deadline, [], rounds)
      | .failed => some (.failed, [], rounds)
      | .done =>
        (writeLoop deadline rounds chunk (bytes.drop count)).map fun (ended, handed, later) =>
          (ended, bytes.take count ++ handed, later)

/-- `Write`. -/
def write (now deadline perWrite : Nat) (rounds : List WriteRound) (bytes : Bytes) :
    Option (WriteEnd × Bytes × List WriteRound) :=
  writeLoop (min deadline (now + perWrite)) rounds (16 * 1024) bytes

/-- `StreamingOptions`. -/
structure StreamingOptions where
  maxChunkBytes : Nat := 16 * 1024
  maxStreamLifetime : Nat := 60000
  streamWriteTimeout : Nat := 5000

/-- What `Next` returns. -/
inductive NextResult
  | chunk (data : Bytes)
  | eof
  | error

/-- A call of `Next`, and when it returns. -/
structure Pull where
  result : NextResult
  now : Nat

/-- How a stream ends. -/
inductive StreamEnd
  | eof
  | sourceError
  | oversized
  /-- A write that began then did not send everything. -/
  | writing (start : Nat) (ended : WriteEnd)
  deriving DecidableEq

/-- A stream behind the head. -/
structure Streamed where
  ended : StreamEnd
  written : Bytes
  /-- The deadlines that `Next` was called with. -/
  nextDeadlines : List Nat
  deriving DecidableEq

variable (options : StreamingOptions)

/-- `write_chunk`: how the stream ends here, if it does. -/
def writeChunk (deadline now : Nat) (rounds : List WriteRound) (data : Bytes) :
    Option (Option StreamEnd × Bytes × List WriteRound) :=
  if data = [] then some (none, [], rounds)
  else if options.maxChunkBytes < data.length then some (some .oversized, [], rounds)
  else
    (write now deadline options.streamWriteTimeout rounds (encodeChunk data)).map
      fun (ended, handed, later) =>
        (if ended = .sent then none else some (.writing now ended), handed, later)

/-- `FinishStream`. -/
def finishStream (now : Nat) (rounds : List WriteRound) : Option (StreamEnd × Bytes) :=
  (write now (now + options.streamWriteTimeout) options.streamWriteTimeout rounds
    (text "0\r\n\r\n")).map fun (ended, handed, _) =>
      (if ended = .sent then .eof else .writing now ended, handed)

/-- The loop over `Next`. -/
def pulling (deadline : Nat) : List Pull → List WriteRound → Option Streamed
  | [], _ => none
  | pull :: pulls, rounds =>
    match pull.result with
    | .error => some { ended := .sourceError, written := [], nextDeadlines := [deadline] }
    | .eof =>
      (finishStream options pull.now rounds).map fun (ended, written) =>
        { ended, written, nextDeadlines := [deadline] }
    | .chunk data =>
      (writeChunk options deadline pull.now rounds data).bind fun (stopped, handed, later) =>
        match stopped with
        | some ended => some { ended, written := handed, nextDeadlines := [deadline] }
        | none =>
          (pulling deadline pulls later).map fun streamed => { streamed with
            written := handed ++ streamed.written
            nextDeadlines := deadline :: streamed.nextDeadlines }

/-- `ServeStream` behind the head, which was written at `commit`. -/
def streamBody (commit deadline : Nat) (first : Bytes) (pulls : List Pull)
    (rounds : List WriteRound) : Option Streamed :=
  let streamDeadline := min (commit + options.maxStreamLifetime) deadline
  (writeChunk options streamDeadline commit rounds first).bind fun (stopped, handed, later) =>
    match stopped with
    | some ended => some { ended, written := handed, nextDeadlines := [] }
    | none =>
      (pulling options streamDeadline pulls later).map fun streamed =>
        { streamed with written := handed ++ streamed.written }

section Deadlines

variable {options : StreamingOptions} {deadline now : Nat} {rounds : List WriteRound}

/-- A round that can end a write: the server closes, the deadline is over, or a piece fails, times out
or is refused though it is a single byte. -/
def WriteRound.Blocks (deadline : Nat) (round : WriteRound) : Prop :=
  round.closing = true ∨ deadline ≤ round.now ∨ ∃ count,
    round.report count = .failed ∨ round.report count = .timedOut ∨
      count ≤ 1 ∧ round.report count = .rejected

/-- What a write comes to: the bytes that are handed over are the first ones, each once, and all of them
unless a round blocks; a deadline that is met is the one that was given. -/
structure Handed (deadline : Nat) (rounds later : List WriteRound) (bytes : Bytes)
    (ended : WriteEnd) (handed : Bytes) : Prop where
  rest : later <:+ rounds
  front : handed <+: bytes
  whole : ended = .sent → handed = bytes
  sent : ended = .sent ∨ ∃ round ∈ rounds, round.Blocks deadline
  met : ∀ limit, ended = .expired limit → limit = deadline

/-- A write that a round ends has handed over nothing more. -/
theorem Handed.blocked {round : WriteRound} {ended : WriteEnd} {bytes : Bytes}
    (blocks : round.Blocks deadline) (apart : ended ≠ .sent)
    (met : ∀ limit, ended = .expired limit → limit = deadline) :
    Handed deadline (round :: rounds) rounds bytes ended [] where
  rest := suffix_cons round rounds
  front := nil_prefix
  whole := fun sent => absurd sent apart
  sent := .inr ⟨round, mem_cons_self, blocks⟩
  met := met

/-- A write that is done hands over all that it was given, unless a round blocks. -/
theorem writeLoop_handed {later : List WriteRound} {chunk : Nat} {bytes handed : Bytes} {ended : WriteEnd}
    (done : writeLoop deadline rounds chunk bytes = some (ended, handed, later)) :
    Handed deadline rounds later bytes ended handed := by
  induction rounds generalizing chunk bytes handed with
  | nil =>
    cases bytes with
    | nil =>
      cases done
      exact ⟨suffix_refl _, nil_prefix, fun _ => rfl, .inl rfl, nofun⟩
    | cons c rest => cases done
  | cons round rounds ih =>
    cases bytes with
    | nil =>
      cases done
      exact ⟨suffix_refl _, nil_prefix, fun _ => rfl, .inl rfl, nofun⟩
    | cons c rest =>
      have longer : ∀ {bytes ended handed}, Handed deadline rounds later bytes ended handed →
          later <:+ round :: rounds ∧
            (ended = .sent ∨ ∃ other ∈ round :: rounds, other.Blocks deadline) := by
        intro bytes ended handed behind
        exact ⟨behind.rest.trans (suffix_cons round rounds),
          behind.sent.imp_right fun ⟨other, inside, blocks⟩ =>
            ⟨other, mem_cons_of_mem _ inside, blocks⟩⟩
      simp only [writeLoop] at done
      split at done
      · next closing =>
        cases done
        exact .blocked (.inl closing) nofun nofun
      · split at done
        · next expired =>
          cases done
          refine .blocked (.inr (.inl expired)) nofun fun limit same => ?_
          cases same
          rfl
        · split at done
          · next refused =>
            split at done
            · have behind := ih done
              exact ⟨(longer behind).1, behind.front, behind.whole, (longer behind).2, behind.met⟩
            · next single =>
              cases done
              exact .blocked (.inr (.inr ⟨_, .inr (.inr ⟨Nat.le_of_not_lt single, refused⟩)⟩))
                nofun nofun
          · next late =>
            cases done
            refine .blocked (.inr (.inr ⟨_, .inr (.inl late)⟩)) nofun fun limit same => ?_
            cases same
            rfl
          · next failed =>
            cases done
            exact .blocked (.inr (.inr ⟨_, .inl failed⟩)) nofun nofun
          · obtain ⟨⟨how, more, last⟩, behind, same⟩ := map_eq_some_iff.mp done
            cases same
            have behind := ih behind
            refine ⟨(longer behind).1, ?_, fun sent => ?_, (longer behind).2, behind.met⟩
            · have joined := (prefix_append_right_inj
                ((c :: rest).take (min chunk (c :: rest).length))).mpr behind.front
              rwa [take_append_drop] at joined
            · rw [behind.whole sent, take_append_drop]

/-- What the deadlines of a stream are. -/
structure Timed (options : StreamingOptions) (deadline : Nat) (streamed : Streamed) : Prop where
  next : ∀ limit ∈ streamed.nextDeadlines, limit = deadline
  ended : ∀ start limit, streamed.ended = .writing start (.expired limit) →
    min deadline (start + options.streamWriteTimeout) ≤ limit

/-- A chunk that meets a deadline meets that of the stream or of the write. -/
theorem writeChunk_expired {data handed : Bytes} {ended : StreamEnd} {later : List WriteRound}
    (done : writeChunk options deadline now rounds data = some (some ended, handed, later))
    {start limit : Nat} (expired : ended = .writing start (.expired limit)) :
    min deadline (start + options.streamWriteTimeout) ≤ limit := by
  rw [expired] at done
  unfold writeChunk at done
  split at done
  · cases done
  · split at done
    · cases done
    · obtain ⟨⟨how, handed', later'⟩, wrote, same⟩ := map_eq_some_iff.mp done
      simp only at same
      split at same
      · cases same
      · cases same
        exact Nat.le_of_eq ((writeLoop_handed wrote).met limit rfl).symm

/-- The deadlines in the loop over `Next`. -/
theorem pulling_timed {pulls : List Pull} {streamed : Streamed}
    (done : pulling options deadline pulls rounds = some streamed) :
    Timed options deadline streamed := by
  induction pulls generalizing rounds streamed with
  | nil => cases done
  | cons pull pulls ih =>
    have one : ∀ limit ∈ [deadline], limit = deadline := fun limit => mem_singleton.mp
    unfold pulling at done
    split at done
    · cases done
      exact ⟨one, by simp⟩
    · obtain ⟨⟨ended, written⟩, finished, same⟩ := map_eq_some_iff.mp done
      cases same
      refine ⟨one, fun start limit expired => ?_⟩
      obtain ⟨⟨how, handed, later⟩, wrote, same⟩ := map_eq_some_iff.mp finished
      simp only [Prod.mk.injEq] at same expired
      rw [expired] at same
      split at same
      · cases same.1
      · have both := same.1
        simp only [StreamEnd.writing.injEq] at both
        rw [both.2] at wrote
        have met := (writeLoop_handed wrote).met limit rfl
        omega
    · obtain ⟨⟨stopped, handed, later⟩, wrote, done⟩ := bind_eq_some_iff.mp done
      cases stopped with
      | some ended =>
        cases done
        exact ⟨one, fun start limit expired => writeChunk_expired wrote expired⟩
      | none =>
        obtain ⟨behind, pulled, same⟩ := map_eq_some_iff.mp done
        cases same
        have timed := ih pulled
        exact ⟨forall_mem_cons.mpr ⟨rfl, timed.next⟩, timed.ended⟩

/-- A stream that only limits of its own end: `Next` is given all of its lifetime, and a write that
is cut off has had all of its lifetime or all of the time for one write. -/
structure OwnLimits (options : StreamingOptions) (commit : Nat) (streamed : Streamed) : Prop where
  next : ∀ limit ∈ streamed.nextDeadlines, commit + options.maxStreamLifetime ≤ limit
  ended : ∀ start limit, streamed.ended = .writing start (.expired limit) →
    commit + options.maxStreamLifetime ≤ limit ∨ start + options.streamWriteTimeout ≤ limit

/-- Whatever the source and the connection do, a stream is ended by limits of its own exactly when
the deadline of the request leaves it its lifetime. -/
theorem stream_own_limits_iff (options : StreamingOptions) (begun incomingTimeout commit : Nat) :
    (∀ first pulls rounds streamed,
      streamBody options commit (begun + incomingTimeout) first pulls rounds = some streamed →
      OwnLimits options commit streamed) ↔
    commit + options.maxStreamLifetime ≤ begun + incomingTimeout := by
  constructor
  · intro every
    have own := every [] [{ result := .error, now := commit }] [] _ rfl
    have least := own.next _ (mem_singleton.mpr rfl)
    omega
  · intro room first pulls rounds streamed done
    have limit : min (commit + options.maxStreamLifetime) (begun + incomingTimeout) =
        commit + options.maxStreamLifetime := Nat.min_eq_left room
    have timed : Timed options (commit + options.maxStreamLifetime) streamed := by
      unfold streamBody at done
      rw [limit] at done
      obtain ⟨⟨stopped, handed, later⟩, wrote, done⟩ := bind_eq_some_iff.mp done
      cases stopped with
      | some ended =>
        cases done
        exact ⟨by simp, fun start limit expired => writeChunk_expired wrote expired⟩
      | none =>
        obtain ⟨behind, pulled, same⟩ := map_eq_some_iff.mp done
        cases same
        exact ⟨(pulling_timed pulled).next, (pulling_timed pulled).ended⟩
    refine ⟨fun limit inside => Nat.le_of_eq (timed.next limit inside).symm, ?_⟩
    intro start limit expired
    have least := timed.ended start limit expired
    omega

/-- With the options as they are by default a chunk six seconds into the request is cut off. -/
theorem stream_cut_off :
    streamBody {} 10 (0 + 5000) [] [{ result := .chunk [0x61], now := 6000 }] [{ now := 6000 }] =
      some { ended := .writing 6000 (.expired 5000), written := [], nextDeadlines := [5000] } ∧
    ¬OwnLimits {} 10 { ended := .writing 6000 (.expired 5000), written := []
                       nextDeadlines := [5000] } := by
  refine ⟨by decide +kernel, fun own => ?_⟩
  have least := own.next 5000 (by simp)
  simp at least

end Deadlines

section Coding

/-- The value of a hexadecimal digit. -/
def hexDigitValue (c : UInt8) : Option Nat :=
  if 0x30 ≤ c ∧ c ≤ 0x39 then some (c.toNat - 0x30)
  else if 0x41 ≤ c ∧ c ≤ 0x46 then some (c.toNat - 0x37)
  else if 0x61 ≤ c ∧ c ≤ 0x66 then some (c.toNat - 0x57)
  else none

/-- A hexadecimal digit. -/
def isHexDigit (c : UInt8) : Bool := (hexDigitValue c).isSome

/-- The number that digits spell. -/
def hexNumber (digits : Bytes) : Nat :=
  digits.foldl (fun value c => value * 16 + (hexDigitValue c).getD 0) 0

/-- A line, and what follows its end. -/
def splitLine : Bytes → Option (Bytes × Bytes)
  | 0x0D :: 0x0A :: rest => some ([], rest)
  | c :: rest => (splitLine rest).map fun parts => (c :: parts.1, parts.2)
  | [] => none

/-- What follows the trailer fields. -/
def skipTrailers : Nat → Bytes → Option Bytes
  | 0, _ => none
  | fuel + 1, wire =>
    (splitLine wire).bind fun (line, rest) =>
      if line = [] then some rest else skipTrailers fuel rest

/-- The size of a chunk: digits, and extensions behind them. -/
def chunkSize (line : Bytes) : Option Nat :=
  let digits := line.takeWhile isHexDigit
  match line.dropWhile isHexDigit with
  | c :: _ =>
    if digits ≠ [] ∧ (c = 0x3B ∨ c = 0x20 ∨ c = 0x09) then some (hexNumber digits) else none
  | [] => if digits ≠ [] then some (hexNumber digits) else none

/-- The chunked coding: the body, and what follows the last chunk and the trailer fields. -/
def decodeChunked : Nat → Bytes → Option (Bytes × Bytes)
  | 0, _ => none
  | fuel + 1, wire =>
    (splitLine wire).bind fun (line, rest) => (chunkSize line).bind fun size =>
      if size = 0 then (skipTrailers (rest.length + 1) rest).map fun tail => ([], tail)
      else if (rest.drop size).take 2 = crlf then
        (decodeChunked fuel (rest.drop (size + 2))).map fun (body, tail) =>
          (rest.take size ++ body, tail)
      else none

/-- A digit that is written is read back. -/
theorem hexDigitValue_hexDigit {value : Nat} (small : value < 16) :
    hexDigitValue (hexDigit value) = some value := by
  have all : ∀ value : Fin 16, hexDigitValue (hexDigit value) = some value.val := by decide
  exact all ⟨value, small⟩

/-- The digits stand in front of what was there. -/
theorem fillDigits_append (n size : Nat) (head : Bytes) :
    fillDigits n size head = fillDigits n size [] ++ head := by
  induction n generalizing size head with
  | zero => rfl
  | succ n ih => rw [fillDigits, ih, fillDigits, ih _ [_], append_assoc, singleton_append]

/-- The digits of a size spell it. -/
theorem hexNumber_fillDigits {n size : Nat} (fits : size < 16 ^ n) :
    hexNumber (fillDigits n size []) = size := by
  induction n generalizing size with
  | zero =>
    have zero : size = 0 := by simpa using fits
    rw [zero]
    rfl
  | succ n ih =>
    have front : hexNumber (fillDigits n (size / 16) []) = size / 16 := by
      apply ih
      omega
    have digit := hexDigitValue_hexDigit (Nat.mod_lt size (by decide : 0 < 16))
    rw [hexNumber] at front
    rw [fillDigits, fillDigits_append, hexNumber, foldl_append, front]
    simp only [foldl_cons, foldl_nil, digit, getD_some]
    omega

/-- As many bytes as asked for, each a digit. -/
theorem fillDigits_bytes (n size : Nat) :
    (fillDigits n size []).length = n ∧ ∀ c ∈ fillDigits n size [], isHexDigit c = true := by
  induction n generalizing size with
  | zero => exact ⟨rfl, by simp [fillDigits]⟩
  | succ n ih =>
    have digit := hexDigitValue_hexDigit (Nat.mod_lt size (by decide : 0 < 16))
    rw [fillDigits, fillDigits_append, length_append, (ih _).1, forall_mem_append]
    exact ⟨rfl, (ih _).2, forall_mem_singleton.mpr (by simp [isHexDigit, digit])⟩

/-- The digits that are counted are enough. -/
theorem lt_countDigits (size : Nat) : size < 16 ^ countDigits size := by
  induction size using Nat.strongRecOn with
  | ind size ih =>
    rw [countDigits]
    split
    · omega
    · have front := ih (size / 16) (by omega)
      omega

/-- The size line is the hexadecimal number of the size. -/
theorem sizeLine_spec (size : Nat) : hexNumber (sizeLine size) = size ∧ sizeLine size ≠ [] ∧
    ∀ c ∈ sizeLine size, isHexDigit c = true := by
  have fits := lt_countDigits size
  unfold sizeLine
  generalize places : (if countDigits size = 0 then 1 else countDigits size) = n
  have positive : 0 < n ∧ size < 16 ^ n := by
    split at places
    · rename_i none'
      rw [none'] at fits
      rw [← places]
      omega
    · rw [← places]
      exact ⟨by omega, fits⟩
  have bytes := fillDigits_bytes n size
  refine ⟨hexNumber_fillDigits positive.2, ?_, bytes.2⟩
  exact ne_nil_of_length_pos (by rw [bytes.1]; exact positive.1)

/-- A line without a carriage return is split where it ends. -/
theorem splitLine_append {line : Bytes} (bytes : ∀ c ∈ line, isHexDigit c = true) (rest : Bytes) :
    splitLine (line ++ (crlf ++ rest)) = some (line, rest) := by
  induction line with
  | nil => rfl
  | cons c line ih =>
    rw [forall_mem_cons] at bytes
    have apart : c ≠ 0x0D := by
      rintro rfl
      exact absurd bytes.1 (by decide)
    rw [cons_append, splitLine, ih bytes.2]
    · rfl
    · rintro tail rfl
      exact absurd rfl apart

/-- The size of a line of digits. -/
theorem chunkSize_digits {line : Bytes} (some' : line ≠ [])
    (bytes : ∀ c ∈ line, isHexDigit c = true) : chunkSize line = some (hexNumber line) := by
  rw [chunkSize, takeWhile_eq_self_iff.mpr bytes, dropWhile_eq_nil_iff.mpr bytes]
  simp [some']

/-- A chunk is decoded. -/
theorem decodeChunked_encodeChunk {data : Bytes} (some' : data ≠ []) (fuel : Nat) (rest : Bytes) :
    decodeChunked (fuel + 1) (encodeChunk data ++ rest) =
      (decodeChunked fuel rest).map fun (body, tail) => (data ++ body, tail) := by
  obtain ⟨number, line, bytes⟩ := sizeLine_spec data.length
  have whole : encodeChunk data ++ rest =
      sizeLine data.length ++ (crlf ++ (data ++ (crlf ++ rest))) := by
    simp [encodeChunk]
  have positive : data.length ≠ 0 := by simpa using some'
  have behind : (data ++ (crlf ++ rest)).drop (data.length + 2) = rest := by
    rw [← drop_drop, drop_left]
    rfl
  rw [decodeChunked, whole, splitLine_append bytes]
  simp only [bind_some, chunkSize_digits line bytes, number, positive, if_false,
    drop_left, take_left, behind]
  rfl

/-- The last chunk is decoded. -/
theorem decodeChunked_last (fuel : Nat) (tail : Bytes) :
    decodeChunked (fuel + 1) (text "0\r\n\r\n" ++ tail) = some ([], tail) := by
  rfl

/-- What a stream of chunks is on the wire. -/
def encodeBody (chunks : List Bytes) : Bytes :=
  (chunks.flatMap fun data => if data = [] then [] else encodeChunk data) ++ text "0\r\n\r\n"

/-- It stands for the chunks one behind the other. -/
theorem decodeChunked_encodeBody (chunks : List Bytes) {fuel : Nat} (enough : chunks.length < fuel)
    (tail : Bytes) :
    decodeChunked fuel (encodeBody chunks ++ tail) = some (chunks.flatten, tail) := by
  induction chunks generalizing fuel with
  | nil =>
    obtain ⟨fuel, rfl⟩ := Nat.exists_eq_succ_of_ne_zero (Nat.ne_zero_of_lt enough)
    exact decodeChunked_last fuel tail
  | cons data chunks ih =>
    rw [length_cons] at enough
    by_cases none' : data = []
    · have same : encodeBody (data :: chunks) = encodeBody chunks := by
        simp [encodeBody, none']
      rw [same, ih (by omega), none']
      rfl
    · have same : encodeBody (data :: chunks) ++ tail =
          encodeChunk data ++ (encodeBody chunks ++ tail) := by
        simp [encodeBody, none']
      obtain ⟨fuel, rfl⟩ := Nat.exists_eq_succ_of_ne_zero (Nat.ne_zero_of_lt enough)
      rw [same, Nat.succ_eq_add_one, decodeChunked_encodeChunk none', ih (by omega)]
      rfl

end Coding

section Writing

variable {options : StreamingOptions} {deadline now : Nat} {rounds later : List WriteRound}

/-- The loop of `Write` comes to an end, and each round that it uses brings it closer. -/
theorem writeLoop_total {chunk : Nat} (positive : 0 < chunk) {bytes : Bytes}
    (enough : bytes.length + chunk ≤ rounds.length) :
    ∃ ended handed later, writeLoop deadline rounds chunk bytes = some (ended, handed, later) ∧
      rounds.length ≤ later.length + (bytes.length + chunk) := by
  induction rounds generalizing chunk bytes with
  | nil =>
    rw [length_nil] at enough
    omega
  | cons round rounds ih =>
    cases bytes with
    | nil => exact ⟨_, _, _, rfl, by omega⟩
    | cons c rest =>
      simp only [length_cons] at enough
      simp only [writeLoop, length_cons]
      split
      · exact ⟨_, _, _, rfl, by omega⟩
      · split
        · exact ⟨_, _, _, rfl, by omega⟩
        · split
          · split
            · obtain ⟨ended, handed, later, done, used⟩ :=
                @ih (min chunk (rest.length + 1) / 2) (by omega) (c :: rest) (by
                  simp only [length_cons]
                  omega)
              refine ⟨ended, handed, later, done, ?_⟩
              simp only [length_cons] at used
              omega
            · exact ⟨_, _, _, rfl, by omega⟩
          · exact ⟨_, _, _, rfl, by omega⟩
          · exact ⟨_, _, _, rfl, by omega⟩
          · obtain ⟨ended, handed, later, done, used⟩ := @ih chunk positive
              ((c :: rest).drop (min chunk (rest.length + 1))) (by
                simp only [length_drop, length_cons]
                omega)
            rw [done]
            refine ⟨_, _, later, rfl, ?_⟩
            simp only [length_drop, length_cons] at used
            omega

/-- Rounds that are enough to write a piece of a body. -/
def roundsFor (bytes : Bytes) : Nat := bytes.length + 16 * 1024

/-- With enough rounds a write ends, and leaves the rounds of the writes behind it. -/
theorem write_total (now limit perWrite : Nat) {bytes : Bytes} {needed : Nat}
    (enough : roundsFor bytes + needed ≤ rounds.length) :
    ∃ ended handed later, write now limit perWrite rounds bytes = some (ended, handed, later) ∧
      needed ≤ later.length ∧
        Handed (min limit (now + perWrite)) rounds later bytes ended handed := by
  unfold roundsFor at enough
  obtain ⟨ended, handed, later, done, used⟩ :=
    @writeLoop_total (min limit (now + perWrite)) _ _ (by decide : 0 < 16 * 1024) _
      (show bytes.length + 16 * 1024 ≤ rounds.length by omega)
  exact ⟨ended, handed, later, done, by omega, writeLoop_handed done⟩

/-- A round blocks a write of the stream that begins then. -/
def Blocked (options : StreamingOptions) (deadline start : Nat) (rounds : List WriteRound) : Prop :=
  ∃ round ∈ rounds, round.Blocks (min deadline (start + options.streamWriteTimeout))

/-- What blocks a write behind others is a round of the stream. -/
theorem Blocked.mono {start : Nat} (blocked : Blocked options deadline start later)
    (rest : later <:+ rounds) : Blocked options deadline start rounds := by
  obtain ⟨round, inside, blocks⟩ := blocked
  exact ⟨round, rest.subset inside, blocks⟩

/-- A write of the stream fails, and a round blocks it. -/
def Fails (options : StreamingOptions) (deadline : Nat) (rounds : List WriteRound)
    (ended : StreamEnd) : Prop :=
  ∃ start how, ended = .writing start how ∧ how ≠ .sent ∧ Blocked options deadline start rounds

/-- A chunk that is not too large is written, or a write of it fails. -/
theorem writeChunk_handed {data handed : Bytes} {stopped : Option StreamEnd}
    (small : data.length ≤ options.maxChunkBytes)
    (done : writeChunk options deadline now rounds data = some (stopped, handed, later)) :
    later <:+ rounds ∧
      ((stopped = none ∧ handed = if data = [] then [] else encodeChunk data) ∨
        ∃ ended, stopped = some ended ∧ Fails options deadline rounds ended) := by
  unfold writeChunk at done
  split at done
  · cases done
    exact ⟨suffix_refl _, .inl ⟨rfl, by simp [*]⟩⟩
  · rename_i some'
    rw [if_neg (by omega)] at done
    obtain ⟨⟨how, more, last⟩, wrote, same⟩ := map_eq_some_iff.mp done
    cases same
    have written := writeLoop_handed wrote
    refine ⟨written.rest, ?_⟩
    by_cases sent : how = .sent
    · exact .inl ⟨if_pos sent, by rw [if_neg some', written.whole sent]⟩
    · exact .inr ⟨_, if_neg sent, now, how, rfl, sent, written.sent.resolve_left sent⟩

/-- Enough rounds for a chunk write it or stop the stream. -/
theorem writeChunk_total (options : StreamingOptions) (deadline now : Nat) (data : Bytes)
    {needed : Nat} (enough : roundsFor (encodeChunk data) + needed ≤ rounds.length) :
    ∃ stopped handed later,
      writeChunk options deadline now rounds data = some (stopped, handed, later) ∧
        needed ≤ later.length := by
  unfold writeChunk
  split_ifs
  · exact ⟨_, _, rounds, rfl, by omega⟩
  · exact ⟨_, _, rounds, rfl, by omega⟩
  · obtain ⟨ended, handed, later, wrote, left, -⟩ :=
      write_total now deadline options.streamWriteTimeout enough
    rw [wrote]
    exact ⟨_, _, later, rfl, left⟩

/-- The rounds that are enough for a stream of chunks. -/
def roundsForAll (chunks : List Bytes) : Nat :=
  (chunks.map fun data => roundsFor (encodeChunk data)).sum + roundsFor (text "0\r\n\r\n")

/-- A source that ends has its chunks taken up, with enough rounds for them. -/
theorem pulling_total {chunks : List Bytes} {pulls : List Pull}
    (pulled : pulls.map Pull.result = chunks.map NextResult.chunk ++ [.eof])
    (enough : roundsForAll chunks ≤ rounds.length) :
    ∃ streamed, pulling options deadline pulls rounds = some streamed := by
  induction chunks generalizing pulls rounds with
  | nil =>
    obtain ⟨pull, pulls, rfl, eof, -⟩ := map_eq_cons_iff.mp pulled
    rw [roundsForAll, map_nil, sum_nil, Nat.zero_add] at enough
    obtain ⟨ended, handed, later, wrote, -⟩ :=
      write_total pull.now (pull.now + options.streamWriteTimeout) options.streamWriteTimeout
        (show roundsFor _ + 0 ≤ _ from enough)
    rw [pulling, eof]
    simp only [finishStream, wrote, map_some]
    exact ⟨_, rfl⟩
  | cons data chunks ih =>
    obtain ⟨pull, pulls, rfl, first, behind⟩ := map_eq_cons_iff.mp pulled
    rw [roundsForAll, map_cons, sum_cons, Nat.add_assoc] at enough
    obtain ⟨stopped, handed, later, wrote, left⟩ :=
      writeChunk_total options deadline pull.now data enough
    rw [pulling, first]
    simp only [wrote, bind_some]
    cases stopped with
    | some ended => exact ⟨_, rfl⟩
    | none =>
      obtain ⟨streamed, done⟩ := ih behind left
      rw [done]
      exact ⟨_, rfl⟩

/-- Chunks that are not too large and the end of the source: all is written, or a write fails. -/
theorem pulling_written {chunks : List Bytes} {pulls : List Pull} {streamed : Streamed}
    (small : ∀ data ∈ chunks, data.length ≤ options.maxChunkBytes)
    (pulled : pulls.map Pull.result = chunks.map NextResult.chunk ++ [.eof])
    (done : pulling options deadline pulls rounds = some streamed) :
    (streamed.ended = .eof ∧ streamed.written = encodeBody chunks) ∨
      Fails options deadline rounds streamed.ended := by
  induction chunks generalizing pulls rounds streamed with
  | nil =>
    obtain ⟨pull, pulls, rfl, eof, -⟩ := map_eq_cons_iff.mp pulled
    rw [pulling, eof] at done
    obtain ⟨⟨ended, written⟩, finished, same⟩ := map_eq_some_iff.mp done
    cases same
    obtain ⟨⟨how, more, last⟩, wrote, same⟩ := map_eq_some_iff.mp finished
    cases same
    have finish := writeLoop_handed wrote
    by_cases sent : how = .sent
    · exact .inl ⟨if_pos sent, finish.whole sent⟩
    · obtain ⟨round, inside, blocks⟩ := finish.sent.resolve_left sent
      refine .inr ⟨pull.now, how, if_neg sent, sent, round, inside, ?_⟩
      -- The last chunk has the time of one write, also beyond the deadline of the stream.
      exact blocks.imp_right (.imp_left fun expired => by omega)
  | cons data chunks ih =>
    rw [forall_mem_cons] at small
    obtain ⟨pull, pulls, rfl, first, behind⟩ := map_eq_cons_iff.mp pulled
    rw [pulling, first] at done
    obtain ⟨⟨stopped, handed, last⟩, wrote, done⟩ := bind_eq_some_iff.mp done
    obtain ⟨rest, ⟨rfl, rfl⟩ | ⟨ended, rfl, fails⟩⟩ := writeChunk_handed small.1 wrote
    · obtain ⟨more, again, same⟩ := map_eq_some_iff.mp done
      cases same
      rcases ih small.2 behind again with ⟨eof, written⟩ | ⟨start, how, same, unsent, blocked⟩
      · exact .inl ⟨eof, by simp [written, encodeBody]⟩
      · exact .inr ⟨start, how, same, unsent, blocked.mono rest⟩
    · cases done
      exact .inr fails

/-- Chunked streams. The line of every size is its hexadecimal number. With rounds enough the loop of
`Write` ends, and it has handed over the first bytes, each once and in order, and all of them unless a
round blocks, which a refusal for want of room does only of a single byte. When the source gives chunks
that are not too large and ends, the stream ends with rounds enough, and unless a round blocks one of
its writes what is written decodes to the chunks one behind the other, up to the last byte of the last
chunk. -/
theorem chunks_decode {commit deadline : Nat} {first : Bytes} {chunks : List Bytes}
    {pulls : List Pull} {rounds : List WriteRound}
    (small : ∀ data ∈ first :: chunks, data.length ≤ options.maxChunkBytes)
    (pulled : pulls.map Pull.result = chunks.map NextResult.chunk ++ [.eof]) :
    (∀ size, hexNumber (sizeLine size) = size ∧ sizeLine size ≠ [] ∧
      ∀ c ∈ sizeLine size, isHexDigit c = true) ∧
    (∀ now limit perWrite bytes (rounds : List WriteRound),
      roundsFor bytes ≤ rounds.length → ∃ ended handed later,
        write now limit perWrite rounds bytes = some (ended, handed, later) ∧
        handed <+: bytes ∧ (ended = .sent → handed = bytes) ∧
        (ended = .sent ∨ ∃ round ∈ rounds, round.Blocks (min limit (now + perWrite)))) ∧
    (roundsForAll (first :: chunks) ≤ rounds.length →
      ∃ streamed, streamBody options commit deadline first pulls rounds = some streamed) ∧
    ∀ streamed, streamBody options commit deadline first pulls rounds = some streamed →
      Fails options (min (commit + options.maxStreamLifetime) deadline) rounds streamed.ended ∨
      streamed.ended = .eof ∧ ∀ fuel tail, chunks.length + 1 < fuel →
        decodeChunked fuel (streamed.written ++ tail) =
          some ((first :: chunks).flatten, tail) := by
  refine ⟨sizeLine_spec, ?_, ?_, ?_⟩
  · intro now limit perWrite bytes rounds enough
    obtain ⟨ended, handed, later, wrote, -, written⟩ :=
      write_total now limit perWrite (show roundsFor _ + 0 ≤ _ from enough)
    exact ⟨ended, handed, later, wrote, written.front, written.whole, written.sent⟩
  · intro enough
    rw [roundsForAll, map_cons, sum_cons, Nat.add_assoc] at enough
    obtain ⟨stopped, handed, later, wrote, left⟩ := writeChunk_total options
      (min (commit + options.maxStreamLifetime) deadline) commit first enough
    unfold streamBody
    simp only [wrote, bind_some]
    cases stopped with
    | some ended => exact ⟨_, rfl⟩
    | none =>
      obtain ⟨streamed, done⟩ := pulling_total pulled left
      rw [done]
      exact ⟨_, rfl⟩
  · intro streamed done
    rw [forall_mem_cons] at small
    obtain ⟨⟨stopped, handed, last⟩, wrote, done⟩ := bind_eq_some_iff.mp done
    obtain ⟨rest, ⟨rfl, rfl⟩ | ⟨ended, rfl, fails⟩⟩ := writeChunk_handed small.1 wrote
    · obtain ⟨more, again, same⟩ := map_eq_some_iff.mp done
      cases same
      rcases pulling_written small.2 pulled again with
        ⟨eof, written⟩ | ⟨start, how, same, unsent, blocked⟩
      · refine .inr ⟨eof, fun fuel tail enough => ?_⟩
        have whole : (if first = [] then [] else encodeChunk first) ++ encodeBody chunks =
            encodeBody (first :: chunks) := by
          simp [encodeBody]
        simp only [written, whole]
        exact decodeChunked_encodeBody (first :: chunks) enough tail
      · exact .inl ⟨start, how, same, unsent, blocked.mono rest⟩
    · cases done
      exact .inl fails

/-- A connection with room for a single byte of what is offered. -/
def narrow (now : Nat) : WriteRound where
  now := now
  report := fun count => if count ≤ 1 then .done else .rejected

/-- Two chunks around an empty one, which go out byte by byte after refusals. -/
theorem chunks_decode_refused : ∃ streamed,
    streamBody {} 0 9 [0x61, 0x62] [⟨.chunk [], 1⟩, ⟨.chunk [0x63], 1⟩, ⟨.eof, 1⟩]
      (List.replicate 40 (narrow 2)) = some streamed ∧
    ∀ tail, decodeChunked 5 (streamed.written ++ tail) = some ([0x61, 0x62, 0x63], tail) := by
  have ends : (streamBody {} 0 9 [0x61, 0x62]
      [⟨.chunk [], 1⟩, ⟨.chunk [0x63], 1⟩, ⟨.eof, 1⟩]
      (replicate 40 (narrow 2))).isSome = true := by
    decide +kernel
  obtain ⟨streamed, done⟩ := isSome_iff_exists.mp ends
  have small : ∀ data ∈ ([[0x61, 0x62], [], [0x63]] : List Bytes),
      data.length ≤ ({} : StreamingOptions).maxChunkBytes := by decide
  obtain ⟨start, how, -, -, round, inside, blocks⟩ | ⟨-, decoded⟩ :=
    (chunks_decode small rfl).2.2.2 streamed done
  · -- No round of this connection blocks a write of the stream.
    obtain rfl := eq_of_mem_replicate inside
    exfalso
    rcases blocks with closing | expired | ⟨count, answer⟩
    · cases closing
    · simp only [narrow] at expired
      omega
    · by_cases single : count ≤ 1 <;> simp [narrow, single] at answer
  · exact ⟨streamed, done, fun tail => decoded 5 tail (by decide)⟩

end Writing

end BbtInfra.Http
