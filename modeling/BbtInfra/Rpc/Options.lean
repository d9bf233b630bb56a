import BbtInfra.Result

/-!
# Client options

The value layer of a session owner: limits, lanes and the local identity, with the check
that every constructor of an owner runs first. Identities are compared as byte strings, the
order `std::string::operator<` uses.
-/
namespace BbtInfra.Rpc

/-- Default limit of the session table. -/
def kDefaultMaxSessions : Nat := 64
/-- Hard limit of the session table. -/
def kMaxMaxSessions : Nat := 4096
/-- Default limit of one frame. -/
def kDefaultMaxFrameBytes : Nat := 8 * 1024 * 1024
/-- Least frame limit. -/
def kMinFrameBytes : Nat := 1024
/-- Hard limit of a body, and of one frame. -/
def kNetworkLimitsMaxBodyBytes : Nat := 1024 * 1024 * 1024
/-- Hard limit of one frame. -/
def kMaxFrameBytes : Nat := kNetworkLimitsMaxBodyBytes
/-- Default limit of the bytes queued on one lane. -/
def kDefaultQueueBytes : Nat := 16 * 1024 * 1024
/-- Hard limit of the bytes queued on one lane. -/
def kMaxQueueBytes : Nat := 256 * 1024 * 1024

/-- `ClientOptions`. -/
structure ClientOptions where
  localIdentity : Bytes := []
  trustedNetworkPlaintext : Bool := false
  maxSessions : Nat := kDefaultMaxSessions
  maxFrameBytes : Nat := kDefaultMaxFrameBytes
  systemQueueBytes : Nat := kDefaultQueueBytes
  serviceQueueBytes : Nat := kDefaultQueueBytes
  actorQueueBytes : Nat := kDefaultQueueBytes
  serviceWeight : Nat := 1
  actorWeight : Nat := 1
  controlDataSplit : Bool := false
  deriving DecidableEq, Repr

namespace ClientOptions

/-- A lane limit that `Validate` refuses. -/
def queueOutOfRange (bytes : Nat) : Bool := bytes = 0 || bytes > kMaxQueueBytes

/-- `ClientOptions::Validate`. -/
def validate (options : ClientOptions) : Except Error Unit :=
  if options.localIdentity = [] ∨ options.localIdentity.length > 256 ∨
      isValidUtf8 options.localIdentity = false then
    .error (makeError .invalidArgument (text "local_identity empty/too long/not UTF-8"))
  else if options.maxSessions = 0 ∨ options.maxSessions > kMaxMaxSessions then
    .error (makeError .invalidArgument (text "max_sessions out of range"))
  else if options.maxFrameBytes < kMinFrameBytes ∨ options.maxFrameBytes > kMaxFrameBytes then
    .error (makeError .invalidArgument (text "max_frame_bytes out of range"))
  else if queueOutOfRange options.systemQueueBytes || queueOutOfRange options.serviceQueueBytes ||
      queueOutOfRange options.actorQueueBytes then
    .error (makeError .invalidArgument (text "queue bytes out of range"))
  else if options.serviceWeight = 0 ∨ options.actorWeight = 0 then
    .error (makeError .invalidArgument (text "lane weight must be non-zero"))
  else .ok ()

/-- The identity and frame limits of accepted options. -/
theorem validate_ok {options : ClientOptions} (valid : options.validate = .ok ()) :
    options.localIdentity ≠ [] ∧ options.localIdentity.length ≤ 256 ∧
      isValidUtf8 options.localIdentity = true ∧ options.maxSessions ≠ 0 ∧
      kMinFrameBytes ≤ options.maxFrameBytes ∧ options.maxFrameBytes ≤ kMaxFrameBytes := by
  unfold validate at valid
  split_ifs at valid with identity sessions frame queues weights
  simp only [not_or, Nat.not_lt, Bool.not_eq_false] at identity sessions frame
  exact ⟨identity.1, identity.2.1, identity.2.2, sessions.1, frame.1, frame.2⟩

/-- An ASCII identity and a session limit in range are accepted with every other option at its
default. -/
theorem validate_defaults {localIdentity : Bytes} {maxSessions : Nat} (named : localIdentity ≠ [])
    (short : localIdentity.length ≤ 256) (ascii : ∀ byte ∈ localIdentity, byte < 0x80)
    (sessions : 0 < maxSessions) (bounded : maxSessions ≤ kMaxMaxSessions) :
    ({ localIdentity, maxSessions } : ClientOptions).validate = .ok () := by
  unfold validate
  rw [if_neg (by simp [named, Nat.not_lt.mpr short, isValidUtf8_ascii ascii]),
    if_neg (by simp [Nat.ne_of_gt sessions, Nat.not_lt.mpr bounded]),
    if_neg (by dsimp only; decide), if_neg (by dsimp only; decide), if_neg (by dsimp only; decide)]

end ClientOptions

/-- Hard limit of the connections of a server. -/
def kNetworkLimitsMaxConnections : Nat := 1000000
/-- Hard limit of the requests in flight of a server. -/
def kNetworkLimitsMaxInflight : Nat := 1000000
/-- Hard limit of the time-out of an inbound request, in milliseconds. -/
def kNetworkLimitsMaxIncomingTimeout : Int := 24 * 60 * 60 * 1000

/-- `ServerOptions`; times are in milliseconds. -/
structure ServerOptions where
  /-- `ListenAddress().Valid()`. -/
  listenAddressValid : Bool := true
  maxFrameBytes : Nat := kDefaultMaxFrameBytes
  maxConnections : Nat := 1024
  maxInflight : Nat := 4096
  maxHandlerBytes : Nat := kNetworkLimitsMaxBodyBytes
  incomingTimeout : Int := 30000
  deriving DecidableEq, Repr

/-- `ServerOptions::Validate`. -/
def ServerOptions.validate (options : ServerOptions) : Except Error Unit :=
  if options.listenAddressValid = false then
    .error (makeError .invalidArgument (text "listen_address invalid"))
  else if options.maxFrameBytes < kMinFrameBytes ∨ options.maxFrameBytes > kMaxFrameBytes then
    .error (makeError .invalidArgument (text "max_frame_bytes out of range"))
  else if options.maxConnections = 0 ∨ options.maxConnections > kNetworkLimitsMaxConnections then
    .error (makeError .invalidArgument (text "max_connections out of range"))
  else if options.maxInflight = 0 ∨ options.maxInflight > kNetworkLimitsMaxInflight then
    .error (makeError .invalidArgument (text "max_inflight out of range"))
  else if options.maxHandlerBytes = 0 ∨ options.maxHandlerBytes > kNetworkLimitsMaxBodyBytes then
    .error (makeError .invalidArgument (text "max_handler_bytes out of range"))
  else if options.incomingTimeout ≤ 0 ∨
      options.incomingTimeout > kNetworkLimitsMaxIncomingTimeout then
    .error (makeError .invalidArgument (text "incoming_timeout out of range"))
  else .ok ()

/-- The limits of an accepted server. -/
theorem ServerOptions.validate_ok {options : ServerOptions} (valid : options.validate = .ok ()) :
    0 < options.maxConnections ∧ 0 < options.maxInflight ∧
      options.maxInflight ≤ kNetworkLimitsMaxInflight ∧ 0 < options.incomingTimeout ∧
      options.incomingTimeout ≤ kNetworkLimitsMaxIncomingTimeout := by
  unfold validate at valid
  split_ifs at valid with listen frame connections inflight handler incoming
  simp only [not_or, Int.not_le, Nat.not_lt, Int.not_lt] at connections inflight incoming
  exact ⟨Nat.pos_of_ne_zero connections.1, Nat.pos_of_ne_zero inflight.1, inflight.2, incoming⟩

/-- Of two distinct identities exactly one is smaller. -/
theorem identity_lt_or_lt {left right : Bytes} (distinct : left ≠ right) :
    left < right ∨ right < left := by
  by_contra neither
  rw [not_or, List.not_lt, List.not_lt] at neither
  exact distinct (List.le_antisymm neither.2 neither.1)

end BbtInfra.Rpc
