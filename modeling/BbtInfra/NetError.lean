import BbtInfra.Result

/-!
# The bridge from system errors

`std::error_code` keeps its category and its value: the categories that the bridge tells
apart are constructors, every other category keeps its name. Values of the generic and
system categories are `errno` numbers.
-/
namespace BbtInfra

/-- A `std::error_code`. The value zero is success in every category. -/
inductive StdErrorCode
  | net (value : Int)
  | generic (value : Int)
  | system (value : Int)
  | other (category : Bytes) (value : Int)
  deriving DecidableEq, Repr

namespace StdErrorCode

/-- `ec.value()`. -/
def value : StdErrorCode → Int
  | net value | generic value | system value | other _ value => value

/-- `ec.category().name()`. -/
def category : StdErrorCode → Bytes
  | net _ => text "bbt.net"
  | generic _ => text "generic"
  | system _ => text "system"
  | other name _ => name

/-- The conversion of `std::error_code` to bool: the code reports a failure. -/
def failed (code : StdErrorCode) : Bool := code.value ≠ 0

/-- No error. -/
def success : StdErrorCode := .system 0

end StdErrorCode

/-- `NetErrc`, by its numbers. -/
def NetErrc.eof : Int := 1
/-- `NetErrc::Closed`. -/
def NetErrc.closed : Int := 6

/-- `detail::NetBaseErrorCode`. -/
def netBaseErrorCode (code : StdErrorCode) : ErrorCode :=
  if code.failed = false then .internalError
  else
    match code with
    | .net value =>
      if value = NetErrc.closed then .closed
      else if value = NetErrc.eof then .transportError
      else if value = 2 ∨ value = 3 ∨ value = 4 ∨ value = 5 then .overloaded
      else .transportError
    | .other _ _ => .transportError
    | .generic value | .system value =>
      match value with
      | 110 => .timedOut
      | 125 => .cancelled
      | 1 => .invalidContext
      | 22 => .invalidArgument
      | 95 => .runtimeUnavailable
      | 105 | 16 => .overloaded
      | _ => .transportError

/-- `detail::NetDomainCode`. -/
def netDomainCode : StdErrorCode → Option Bytes
  | .net 1 => some (text "net.eof")
  | .net 2 => some (text "net.would_block")
  | .net 3 => some (text "net.busy")
  | .net 4 => some (text "net.write_settling")
  | .net 5 => some (text "net.rejected")
  | .net 6 => some (text "net.closed")
  | .net _ => some (text "net.unknown")
  | _ => none

/-- `NetToError`. -/
def netToError (code : StdErrorCode) (message : Bytes) : Error :=
  { makeError (netBaseErrorCode code) message with
    backendCategory := code.category
    backendCode := code.value
    domainCode := (netDomainCode code).getD [] }

end BbtInfra
