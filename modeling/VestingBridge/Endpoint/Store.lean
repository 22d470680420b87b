import VestingBridge.Packet
import VestingBridge.Response
import VestingBridge.Table
/-!
# Endpoint.Store — what an endpoint keeps

An endpoint keeps its configuration, the applications that are registered with it, and for each path the nonce of the
last packet that was sent or delivered on it.
-/
namespace VestingBridge.Endpoint

/-- **Which chain the endpoint is on, and who may deliver packets to it.** -/
structure Config where
  localChain : ChainId
  relayer : Account
deriving DecidableEq

/-- The configuration as a message. -/
def Config.toJson (c : Config) : Json :=
  .object [("local_chain_id", .ofWord c.localChain), ("relayer", .string c.relayer)]

/-- A path out of this chain: to which chain, from which application, to which address. -/
abbrev OutboundPath := ChainId × Account × WireAddress

/-- A path into this chain: from which chain, from which address, to which application. -/
abbrev InboundPath := ChainId × WireAddress × Account

/-- **The storage of an endpoint.** -/
structure Store where
  config : Option Config
  applications : Table Account TypeTag
  outbound : Table OutboundPath Nonce
  inbound : Table InboundPath Nonce
  version : Option CodeVersion
deriving DecidableEq

/-- The storage of an endpoint that was never called. -/
def Store.empty : Store := ⟨none, ∅, ∅, ∅, none⟩

instance : Inhabited Store := ⟨.empty⟩

/-- The code of the endpoint. -/
def codeVersion : CodeVersion := ⟨"crates.io:mock-endpoint", CodeVersion.current⟩

namespace Store

/-- The nonce of the last packet sent on a path, zero if there was none. -/
def lastSent (s : Store) (path : OutboundPath) : Nonce := (s.outbound.get? path).getD Nonce.zero

/-- The nonce of the last packet delivered on a path, zero if there was none. -/
def lastDelivered (s : Store) (path : InboundPath) : Nonce := (s.inbound.get? path).getD Nonce.zero

end Store

/-- **Why an endpoint refuses a call.**  The cause `noncesExhausted` is no refusal of the caller: the path has no nonce
for another packet. -/
inductive Error where
  | account (error : AccountError)
  | address (error : AddressError)
  | event (error : EventError)
  | noConfig
  | unauthorized
  | alreadyRegistered (application : Account)
  | notRegistered (application : Account)
  | wrongChain (expected got : ChainId)
  | invalidNonce (expected got : Nonce)
  | noncesExhausted
deriving DecidableEq

open Text (Decimal.encode) in
/-- **The text of the error.** -/
def Error.message : Error → String
  | account error => error.message
  | address error => error.message
  | event error => error.message
  | noConfig => "type: mock_endpoint::state::Config; key: [63, 6F, 6E, 66, 69, 67] not found"
  | unauthorized => "Unauthorized: only the relayer can deliver packets"
  | alreadyRegistered application => "UA already registered: " ++ application
  | notRegistered application => "UA not registered: " ++ application
  | wrongChain expected got =>
    "Packet for chain " ++ Decimal.encode got.val ++ " delivered to chain " ++ Decimal.encode expected.val
  | invalidNonce expected got =>
    "Invalid nonce: expected " ++ Decimal.encode expected.val ++ ", got " ++ Decimal.encode got.val
  | noncesExhausted => "no nonce is left for another packet"

end VestingBridge.Endpoint
