import VestingBridge.Octets
import VestingBridge.Text.Decimal
/-!
# WithdrawRequest — what a packet asks of the bridge

The payload of a packet is one octet that selects an operation, then an operand of eight octets.  There is one
operation: to release what has vested of a stream.
-/
namespace VestingBridge

/-- **An operation that a packet asks for.** -/
inductive WithdrawRequest where
  | withdraw (stream : StreamId)
deriving DecidableEq

/-- Why a payload or an operand stands for no request. -/
inductive RequestError where
  | wrongLength (count : Nat)
  | unknownSelector (selector : UInt8)
  | outOfRange (value : Nat)
deriving DecidableEq

/-- The text of the error. -/
def RequestError.message : RequestError → String
  | wrongLength count => "Invalid request payload: expected 9 bytes, got " ++ Text.Decimal.encode count
  | unknownSelector selector => "Unknown operation selector: " ++ Text.Decimal.encode selector.toNat
  | outOfRange value => "Value out of range: " ++ Text.Decimal.encode value ++ " does not fit in 64 bits"

namespace WithdrawRequest

/-- The number of octets of a payload. -/
def payloadLength : Nat := 9

/-- The octet that selects a withdrawal. -/
def withdrawSelector : UInt8 := 0

/-- The octet that selects a request's operation. -/
def selector : WithdrawRequest → UInt8
  | withdraw _ => withdrawSelector

/-- The operand of a request. -/
def operand : WithdrawRequest → StreamId
  | withdraw stream => stream

/-- A payload: the octet that selects an operation, then its operand. -/
def payload (selector : UInt8) (operand : StreamId) : Octets := selector :: operand.octets 8

/-- **The payload of a request.** -/
def encode (r : WithdrawRequest) : Octets := payload r.selector r.operand

/-- **The payload that asks for a withdrawal.** -/
def withdrawal (stream : StreamId) : Octets := payload withdrawSelector stream

/-- **The request that a payload stands for.**  Its length is looked at before its selector. -/
def parse : Octets → Except RequestError WithdrawRequest
  | [] => .error (.wrongLength 0)
  | s :: bs =>
    if h : bs.length = 8 then
      if s = withdrawSelector then .ok (.withdraw (Word.ofOctets 8 bs (by omega))) else .error (.unknownSelector s)
    else .error (.wrongLength (bs.length + 1))

/-- The quantity as an operand, if it fits. -/
def operand? (value : Amount) : Except RequestError StreamId :=
  match Word.ofNat? value.val with
  | some stream => .ok stream
  | none => .error (.outOfRange value.val)

end WithdrawRequest

end VestingBridge
