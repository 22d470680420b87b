import VestingBridge.Bridge.Payout
/-!
# Bridge.View — what a bridge answers when it is asked

Answers are read off the storage and change nothing.  What is not there is answered with null; an argument that cannot
be read is refused.
-/
namespace VestingBridge.Bridge

/-- Why a question to another contract has no answer. -/
inductive QuerierError where
  | noContract (address : Account)
  | failed (message : String)
deriving DecidableEq

/-- The text of the error. -/
def QuerierError.message : QuerierError → String
  | noContract address => "Generic error: Querier system error: No such contract: " ++ address
  | failed message => "Generic error: Querier contract error: " ++ message

/-- How a bridge asks an endpoint: the host finds the contract and hands the question on. -/
abbrev Querier := Account → EndpointQuestion → Except QuerierError Registration

/-- Why a question is refused. -/
inductive ViewError where
  | account (error : AccountError)
  | typeTag (error : TagError)
  | event (error : EventError)
  | request (error : RequestError)
  | querier (error : QuerierError)
  | noConfig
deriving DecidableEq

/-- The text of the error. -/
def ViewError.message : ViewError → String
  | account error => error.message
  | typeTag error => "Generic error: " ++ error.message
  | event error => "Generic error: " ++ error.message
  | request error => "Generic error: " ++ error.message
  | querier error => error.message
  | noConfig => Error.noConfig.message

/-- What is said of the configuration. -/
structure ConfigView where
  config : Config
  wireAddress : WireAddress

/-- What is said of a trusted address. -/
structure RemoteView where
  chain : ChainId
  address : WireAddress

/-- What is said of an asset of another chain. -/
structure RemoteCoinView where
  chain : ChainId
  assetType : TypeTag
  remoteAsset : WireAddress

/-- What is said of an entry of the mapping of assets. -/
structure CoinMapping where
  chain : ChainId
  key : Octets
  remoteAsset : WireAddress

/-- What is said of a stream. -/
structure StreamView where
  stream : Stream
  withdrawable : Amount

/-- What is said of the packet that an event describes. -/
structure PacketView where
  encoded : Octets
  hash : Digest

namespace ConfigView

/-- The answer as a message. -/
def toJson (v : ConfigView) : Json :=
  .object (v.config.members ++ [("wire_address", .ofOctets v.wireAddress.octets)])

end ConfigView

namespace RemoteView

/-- The answer as a message. -/
def toJson (v : RemoteView) : Json := .object [
  ("chain_id", .ofWord v.chain), ("address", .ofOctets v.address.octets), ("address_hex", .string v.address.toHex)]

end RemoteView

namespace RemoteCoinView

/-- The answer as a message. -/
def toJson (v : RemoteCoinView) : Json := .object [
  ("chain_id", .ofWord v.chain), ("asset_type", .string v.assetType.name),
  ("asset_type_bytes", .ofOctets v.assetType.key), ("remote_asset", .ofOctets v.remoteAsset.octets),
  ("remote_asset_evm", .ofOption .string v.remoteAsset.toEvm?)]

end RemoteCoinView

namespace CoinMapping

/-- The answer as a message. -/
def toJson (v : CoinMapping) : Json := .object [
  ("chain_id", .ofWord v.chain), ("asset_type_bytes", .ofOctets v.key),
  ("remote_asset", .ofOctets v.remoteAsset.octets)]

end CoinMapping

namespace StreamView

/-- The answer as a message. -/
def toJson (v : StreamView) : Json :=
  let s := v.stream
  .object [
    ("id", .ofWord s.id), ("sender", .string s.sender), ("recipient", .string s.recipient),
    ("asset_type", .string s.assetType.name), ("asset", s.asset.toJson), ("deposit", .ofAmount s.deposit),
    ("withdrawn", .ofAmount s.withdrawn), ("withdrawable", .ofAmount v.withdrawable),
    ("start_time", .ofWord s.start), ("stop_time", .ofWord s.stop), ("created_at", .ofWord s.created)]

end StreamView

namespace PacketView

/-- The answer as a message. -/
def toJson (v : PacketView) : Json :=
  .object [("packet", .ofOctets v.encoded), ("hash", .ofOctets v.hash.octets)]

end PacketView

namespace Store

/-- **The configuration and the bridge's own address on the wire.** -/
def configView (s : Store) (self : Account) : Except ViewError ConfigView :=
  match s.config with
  | none => .error .noConfig
  | some config => (self.wire.mapError ViewError.account).map fun wireAddress => { config, wireAddress }

/-- **The type that the endpoint has registered the bridge with.** -/
def registrationView (s : Store) (self : Account) (ask : Querier) : Except ViewError Registration :=
  match s.config with
  | none => .error .noConfig
  | some config => (ask config.endpoint (.registration self)).mapError ViewError.querier

/-- **The trusted address on a chain.** -/
def remoteView (s : Store) (chain : ChainId) : Option RemoteView := (s.remotes.get? chain).map (⟨chain, ·⟩)

/-- A page of the trusted addresses. -/
def remotePage (s : Store) (start : Option ChainId) (limit : Option (PageSize)) : List RemoteView :=
  (s.remotes.page start (limit.map (·.val))).map fun e => ⟨e.1, e.2⟩

/-- **The asset on a chain that goes by a type here.** -/
def remoteCoinView (s : Store) (chain : ChainId) (assetType : String) : Except ViewError (Option RemoteCoinView) := do
  let tag ← (TypeTag.parse assetType).mapError ViewError.typeTag
  return (s.remoteCoins.get? (chain, tag.key)).map (⟨chain, tag, ·⟩)

/-- A page of the mapping of assets. -/
def coinPage (s : Store) (start : Option (ChainId × Octets)) (limit : Option (PageSize)) : List CoinMapping :=
  (s.remoteCoins.page start (limit.map (·.val))).map fun e => ⟨e.1.1, e.1.2, e.2⟩

/-- **The holding that is registered for a type.** -/
def assetView (s : Store) (assetType : String) : Except ViewError (Option Holding) := do
  let tag ← (TypeTag.parse assetType).mapError ViewError.typeTag
  return s.assets.get? tag.key

/-- **A stream and what may be withdrawn of it now.** -/
def streamView (s : Store) (now : Seconds) (id : StreamId) : Option StreamView :=
  (s.streams.get? id).map fun stream => ⟨stream, stream.withdrawable now⟩

/-- A packet with the hash was applied.  The hash may have any length. -/
def isProcessed (s : Store) (hash : Octets) : Bool :=
  if h : hash.length = 32 then s.processed.contains ⟨hash, h⟩ else false

end Store

/-- **The payload that asks for a stream's release.** -/
def withdrawPayload (stream : Amount) : Except ViewError Octets :=
  match WithdrawRequest.operand? stream with
  | .ok id => .ok (WithdrawRequest.withdrawal id)
  | .error e => .error (.request e)

/-- **The packet that an event describes, and its hash.** -/
def packetView (event : DeliveryEvent) : Except ViewError PacketView :=
  match event.rebuild with
  | .ok packet => .ok ⟨packet.encode, packet.hash⟩
  | .error e => .error (.event e)

/-- **The answer to a question.** -/
def Question.answer (env : Env) (ask : Querier) (s : Store) : Question → Except ViewError Json
  | config => (s.configView env.self).map ConfigView.toJson
  | registration => (s.registrationView env.self ask).map Registration.toJson
  | trustedRemote chain => .ok (.ofOption RemoteView.toJson (s.remoteView chain))
  | trustedRemotes start limit =>
    .ok (.object [("remotes", .array ((s.remotePage start limit).map RemoteView.toJson))])
  | remoteCoin chain assetType =>
    (s.remoteCoinView chain assetType).map (.ofOption RemoteCoinView.toJson)
  | localCoin key => .ok (.ofOption TypeTag.toJson (s.localCoins.get? key))
  | coinMappings start limit =>
    .ok (.object [("mappings", .array ((s.coinPage start limit).map CoinMapping.toJson))])
  | registeredAsset assetType => (s.assetView assetType).map (.ofOption Holding.toJson)
  | stream id => .ok (.ofOption StreamView.toJson (s.streamView env.now id))
  | withdrawPayload id => (Bridge.withdrawPayload id).map Json.ofOctets
  | packetHash event => (packetView event).map PacketView.toJson
  | packetProcessed hash => .ok (.bool (s.isProcessed hash))

end VestingBridge.Bridge
