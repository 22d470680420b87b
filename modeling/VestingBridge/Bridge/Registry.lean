import VestingBridge.Handler
import VestingBridge.Bridge.Error
import VestingBridge.Bridge.Message
/-!
# Bridge.Registry — what the authority has entered

Three registries say which address is trusted on each chain, which asset of each chain goes by which type here, and
where the value of each type is held.  Only the authority writes to them, and a write replaces what stood under the
same key.
-/
namespace VestingBridge.Bridge

/-- What the calls of a bridge are. -/
abbrev Step := Handler Store Error

open Handler (look check require)

namespace Store

/-- The configuration. -/
def loadConfig (s : Store) : Except Error Config :=
  match s.config with
  | some c => .ok c
  | none => .error .noConfig

/-- **The authority, if it is the sender.** -/
def verifyAuthority (s : Store) (sender : Account) : Except Error Account := do
  let config ← s.loadConfig
  match config.authority with
  | none => .error .notInitialized
  | some authority => if sender = authority then .ok authority else .error .unauthorized

/-- The trusted address on a chain. -/
def remote (s : Store) (chain : ChainId) : Except Error WireAddress :=
  match s.remotes.get? chain with
  | some address => .ok address
  | none => .error (.noRemote chain)

/-- **The address is the trusted one of the chain.** -/
def isTrusted (s : Store) (chain : ChainId) (address : WireAddress) : Bool := s.remotes.get? chain == some address

/-- A packet from the address may be applied. -/
def verifySender (s : Store) (chain : ChainId) (address : WireAddress) : Except Error Unit :=
  if s.isTrusted chain address then .ok () else .error (.untrustedSender chain address)

/-- The address on a chain of the asset that goes by a type here. -/
def remoteCoin (s : Store) (chain : ChainId) (tag : TypeTag) : Except Error WireAddress :=
  match s.remoteCoins.get? (chain, tag.key) with
  | some address => .ok address
  | none => .error (.noRemoteCoin tag chain)

/-- The type that was mapped under a key. -/
def localCoin (s : Store) (key : Octets) : Except Error TypeTag :=
  match s.localCoins.get? key with
  | some tag => .ok tag
  | none => .error (.noLocalCoin key)

/-- The holding of a type. -/
def asset (s : Store) (tag : TypeTag) : Except Error Holding :=
  match s.assets.get? tag.key with
  | some holding => .ok holding
  | none => .error (.noAsset tag)

end Store

/-- **The authority trusts an address on a chain**, in place of the one it trusted there before. -/
def setTrustedRemote (caller : Caller) (chain : ChainId) (address : String) : Step Response := do
  let _ ← look (·.verifyAuthority caller.sender)
  let address ← check .address (WireAddress.ofHex address)
  require (chain.val ≠ 0) (.badChain chain)
  require (!address.isZero) .zeroRemote
  modify fun s => { s with remotes := s.remotes.insert chain address }
  return .note [("action", "set_trusted_remote"), ("chain_id", Text.Decimal.encode chain.val),
    ("address", address.toHex)]

/-- **The authority says which asset of a chain goes by a type here.** -/
def setCoinMap (caller : Caller) (chain : ChainId) (remoteAsset assetType : String) : Step Response := do
  let _ ← look (·.verifyAuthority caller.sender)
  let remoteAsset ← check .address (WireAddress.ofHex remoteAsset)
  let tag ← check .typeTag (TypeTag.parse assetType)
  require (chain.val ≠ 0) (.badChain chain)
  modify fun s => { s with localCoins := s.localCoins.insert tag.key tag }
  modify fun s => { s with remoteCoins := s.remoteCoins.insert (chain, tag.key) remoteAsset }
  return .note [("action", "set_coin_map"), ("chain_id", Text.Decimal.encode chain.val),
    ("remote_asset", remoteAsset.toHex), ("asset_type", tag.name)]

/-- A holding as it is registered: a denomination without blanks around it, or a token contract that the host
accepts. -/
def normalHolding : Holding → Except Error Holding
  | .native denom =>
    let denom := Text.trim denom
    if denom = "" then .error .emptyDenom else .ok (.native denom)
  | .token contract =>
    match Account.validate contract with
    | .ok contract => .ok (.token contract)
    | .error e => .error (.account e)

/-- **The authority says where the value of a type is held.** -/
def registerAsset (caller : Caller) (assetType : String) (asset : Holding) : Step Response := do
  let _ ← look (·.verifyAuthority caller.sender)
  let tag ← check .typeTag (TypeTag.parse assetType)
  let asset ← ofExcept (normalHolding asset)
  modify fun s => { s with assets := s.assets.insert tag.key asset }
  return .note [("action", "register_asset"), ("asset_type", tag.name), ("asset", asset.display)]

end VestingBridge.Bridge
