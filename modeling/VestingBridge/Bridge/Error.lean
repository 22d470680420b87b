import VestingBridge.Bridge.Store
import VestingBridge.WithdrawRequest
/-!
# Bridge.Error — why a bridge refuses a call

One constructor for each cause; `message` is its wording.
-/
namespace VestingBridge.Bridge

/-- **Why a bridge refuses a call.**  The cause `streamIdsExhausted` is no refusal of the caller: there is no number
for another stream. -/
inductive Error where
  | account (error : AccountError)
  | address (error : AddressError)
  | event (error : EventError)
  | request (error : RequestError)
  | typeTag (error : TagError)
  | unreadable
  | noConfig
  | unauthorized
  | notEndpoint
  | notInitialized
  | alreadyInitialized
  | notActive
  | paused
  | unexpectedReply (id : ReplyId)
  | badChain (chain : ChainId)
  | zeroRemote
  | noRemote (chain : ChainId)
  | noRemoteCoin (tag : TypeTag) (chain : ChainId)
  | noLocalCoin (key : Octets)
  | noAsset (tag : TypeTag)
  | emptyDenom
  | wrongHolding (expected got : Holding)
  | wrongFunding (expected : Holding)
  | untrustedSender (chain : ChainId) (sender : WireAddress)
  | wrongChain (target here : ChainId)
  | wrongTarget (target : WireAddress)
  | alreadyProcessed (hash : Digest)
  | noStream (id : StreamId)
  | wrongCoinCount (count : Nat)
  | zeroDeposit
  | stopNotAfterStart
  | alreadyFinished
  | nothingToWithdraw (id : StreamId)
  | overflow (left right : Amount)
  | streamIdsExhausted
deriving DecidableEq

namespace Error

open Text (Decimal.encode)

/-- The value is held elsewhere than what was offered. -/
def mismatch (expected : Holding) (got : String) : String :=
  "Asset mismatch: expected " ++ expected.display ++ ", got " ++ got

/-- The packet is for another application. -/
def notAddressed (reason : String) : String := "Packet not addressed to this UA: " ++ reason

/-- The times of a stream make no sense. -/
def badSchedule (reason : String) : String := "Invalid schedule: " ++ reason

/-- **The text of the error.** -/
def message : Error → String
  | account error => error.message
  | address error => error.message
  | event error => error.message
  | request error => error.message
  | typeTag error => error.message
  | unreadable => "ParseErr"
  | noConfig => "type: stream_bridge::state::Config; key: [63, 6F, 6E, 66, 69, 67] not found"
  | unauthorized => "Unauthorized: caller does not hold the required role"
  | notEndpoint => "Unauthorized: only the messaging endpoint can deliver packets"
  | notInitialized => "UA not initialized"
  | alreadyInitialized => "UA already initialized"
  | notActive => "UA not active: endpoint registration has not completed"
  | paused => "Bridge is paused"
  | unexpectedReply id => "Unexpected reply id: " ++ Decimal.encode id.val
  | badChain chain => "Invalid chain ID: " ++ Decimal.encode chain.val
  | zeroRemote => "Invalid remote address: zero address"
  | noRemote chain => "Trusted remote not configured for chain " ++ Decimal.encode chain.val
  | noRemoteCoin tag chain => "No coin mapping for " ++ tag.name ++ "@" ++ Decimal.encode chain.val
  | noLocalCoin key => "No coin mapping for " ++ Text.Utf8.decodeLossy key
  | noAsset tag => "Asset type not registered: " ++ tag.name
  | emptyDenom => "Invalid asset: native denom cannot be empty"
  | wrongHolding expected got => mismatch expected got.display
  | wrongFunding expected => mismatch expected "native funds"
  | untrustedSender chain sender =>
    "Untrusted sender " ++ sender.toHex ++ " on chain " ++ Decimal.encode chain.val
  | wrongChain target here =>
    notAddressed ("packet targets chain " ++ Decimal.encode target.val ++ ", this is chain " ++
      Decimal.encode here.val)
  | wrongTarget target => notAddressed ("packet targets " ++ target.toHex)
  | alreadyProcessed hash => "Packet already processed: " ++ hash.toHex
  | noStream id => "Stream not found: " ++ Decimal.encode id.val
  | wrongCoinCount count => "Invalid amount: expected exactly one coin, got " ++ Decimal.encode count
  | zeroDeposit => "Invalid amount: deposit must be greater than zero"
  | stopNotAfterStart => badSchedule "stop_time must be after start_time"
  | alreadyFinished => badSchedule "stream would already be finished"
  | nothingToWithdraw id => "Nothing to withdraw from stream " ++ Decimal.encode id.val
  | overflow left right =>
    "Overflow: Cannot Add with " ++ Decimal.encode left.val ++ " and " ++ Decimal.encode right.val
  | streamIdsExhausted => "no number is left for another stream"

end Error

end VestingBridge.Bridge
