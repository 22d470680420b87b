import VestingBridge.Holding
import VestingBridge.Interface
/-!
# Bridge.Message — what a bridge takes

The messages by which a bridge is created, called, hooked by a token contract, and asked.
-/
namespace VestingBridge.Bridge

/-- What a new bridge is told: its endpoint and the chain that it is on. -/
structure Setup where
  endpoint : String
  localChain : ChainId
deriving DecidableEq

/-- What a stream is to be: for whom, of which asset type, and between which times. -/
structure StreamTerms where
  recipient : String
  assetType : String
  start : Seconds
  stop : Seconds
deriving DecidableEq

/-- What a token contract tells the bridge after tokens were sent to it. -/
structure TokenHook where
  sender : String
  amount : Amount
  payload : Octets
deriving DecidableEq

/-- What the payload of such a hook may ask for. -/
inductive HookCall where
  | createStream (terms : StreamTerms)
deriving DecidableEq

/-- **What a bridge may be called for.** -/
inductive ExecuteCall where
  | appoint (admin authority : String)
  | pause
  | unpause
  | setTrustedRemote (chain : ChainId) (address : String)
  | setCoinMap (chain : ChainId) (remoteAsset assetType : String)
  | registerAsset (assetType : String) (asset : Holding)
  | createStream (terms : StreamTerms)
  | receive (hook : TokenHook)
  | withdraw (stream : StreamId)
  | deliver (event : DeliveryEvent)
  | requestRemoteWithdraw (dstChain : ChainId) (stream : Amount)
deriving DecidableEq

/-- **What a bridge may be asked.** -/
inductive Question where
  | config
  | registration
  | trustedRemote (chain : ChainId)
  | trustedRemotes (start : Option ChainId) (limit : Option (PageSize))
  | remoteCoin (chain : ChainId) (assetType : String)
  | localCoin (key : Octets)
  | coinMappings (start : Option (ChainId × Octets)) (limit : Option (PageSize))
  | registeredAsset (assetType : String)
  | stream (id : StreamId)
  | withdrawPayload (id : Amount)
  | packetHash (event : DeliveryEvent)
  | packetProcessed (hash : Octets)
deriving DecidableEq

namespace Setup

/-- The setup as a message. -/
def toJson (s : Setup) : Json :=
  .object [("endpoint", .string s.endpoint), ("local_chain_id", .ofWord s.localChain)]

/-- The setup that a message stands for. -/
def ofJson? (j : Json) : Option Setup := do
  let r ← j.record? ["endpoint", "local_chain_id"]
  return { endpoint := ← r.text? "endpoint", localChain := ← r.word? "local_chain_id" }

end Setup

/-- The message that asks for new code to take over: an object without members. -/
def upgradeJson : Json := .object []

/-- The message asks for new code to take over. -/
def isUpgrade (j : Json) : Bool := (j.record? []).isSome

namespace StreamTerms

/-- The members of the terms as a message. -/
def members (t : StreamTerms) : List (String × Json) := [
  ("recipient", .string t.recipient), ("asset_type", .string t.assetType),
  ("start_time", .ofWord t.start), ("stop_time", .ofWord t.stop)]

/-- The terms that a part of a message stands for. -/
def ofJson? (j : Json) : Option StreamTerms := do
  let r ← j.record? ["recipient", "asset_type", "start_time", "stop_time"]
  return { recipient := ← r.text? "recipient", assetType := ← r.text? "asset_type",
           start := ← r.word? "start_time", stop := ← r.word? "stop_time" }

end StreamTerms

namespace TokenHook

/-- The members of the hook as a message. -/
def members (h : TokenHook) : List (String × Json) :=
  [("sender", .string h.sender), ("amount", .ofAmount h.amount), ("msg", .ofOctets h.payload)]

/-- The hook that a part of a message stands for. -/
def ofJson? (j : Json) : Option TokenHook := do
  let r ← j.record? ["sender", "amount", "msg"]
  return { sender := ← r.text? "sender", amount := ← r.amount? "amount", payload := ← r.octets? "msg" }

end TokenHook

namespace HookCall

/-- The call as a message. -/
def toJson : HookCall → Json
  | createStream terms => .variant "create_stream" terms.members

/-- The call that a message stands for. -/
def ofJson? (j : Json) : Option HookCall := do
  let (name, body) ← j.variant?
  match name with
  | "create_stream" => return .createStream (← StreamTerms.ofJson? body)
  | _ => none

end HookCall

namespace ExecuteCall

/-- The call as a message. -/
def toJson : ExecuteCall → Json
  | appoint admin authority =>
    .variant "initialize" [("admin", .string admin), ("authority", .string authority)]
  | pause => .variant "pause" []
  | unpause => .variant "unpause" []
  | setTrustedRemote chain address =>
    .variant "set_trusted_remote" [("chain_id", .ofWord chain), ("address", .string address)]
  | setCoinMap chain remoteAsset assetType => .variant "set_coin_map" [
      ("chain_id", .ofWord chain), ("remote_asset", .string remoteAsset), ("asset_type", .string assetType)]
  | registerAsset assetType asset =>
    .variant "register_asset" [("asset_type", .string assetType), ("asset", asset.toJson)]
  | createStream terms => .variant "create_stream" terms.members
  | receive hook => .variant "receive" hook.members
  | withdraw stream => .variant "withdraw" [("stream_id", .ofWord stream)]
  | deliver event => .variant "lz_receive" [("event", event.toJson)]
  | requestRemoteWithdraw dstChain stream =>
    .variant "request_remote_withdraw" [("dst_chain_id", .ofWord dstChain), ("stream_id", .ofAmount stream)]

/-- The call that a message stands for. -/
def ofJson? (j : Json) : Option ExecuteCall := do
  let (name, body) ← j.variant?
  match name with
  | "initialize" =>
    let r ← body.record? ["admin", "authority"]
    return .appoint (← r.text? "admin") (← r.text? "authority")
  | "pause" => let _ ← body.record? []; return .pause
  | "unpause" => let _ ← body.record? []; return .unpause
  | "set_trusted_remote" =>
    let r ← body.record? ["chain_id", "address"]
    return .setTrustedRemote (← r.word? "chain_id") (← r.text? "address")
  | "set_coin_map" =>
    let r ← body.record? ["chain_id", "remote_asset", "asset_type"]
    return .setCoinMap (← r.word? "chain_id") (← r.text? "remote_asset") (← r.text? "asset_type")
  | "register_asset" =>
    let r ← body.record? ["asset_type", "asset"]
    return .registerAsset (← r.text? "asset_type") (← r.get? "asset" Holding.ofJson?)
  | "create_stream" => return .createStream (← StreamTerms.ofJson? body)
  | "receive" => return .receive (← TokenHook.ofJson? body)
  | "withdraw" => return .withdraw (← (← body.record? ["stream_id"]).word? "stream_id")
  | "lz_receive" => return .deliver (← (← body.record? ["event"]).get? "event" DeliveryEvent.ofJson?)
  | "request_remote_withdraw" =>
    let r ← body.record? ["dst_chain_id", "stream_id"]
    return .requestRemoteWithdraw (← r.word? "dst_chain_id") (← r.amount? "stream_id")
  | _ => none

end ExecuteCall

namespace Question

/-- The key after which a page of mappings starts, as a message. -/
def coinKeyToJson (k : ChainId × Octets) : Json := .array [.ofWord k.1, .ofOctets k.2]

/-- The key that a part of a message stands for: a chain and then octets. -/
def coinKey? (j : Json) : Option (ChainId × Octets) := do
  match ← j.items? with
  | [chain, key] => return (← chain.word?, ← key.octets?)
  | _ => none

/-- The question as a message. -/
def toJson : Question → Json
  | config => .variant "config" []
  | registration => .variant "ua_type_info" []
  | trustedRemote chain => .variant "trusted_remote" [("chain_id", .ofWord chain)]
  | trustedRemotes start limit => .variant "trusted_remotes" [
      ("start_after", .ofOption .ofWord start), ("limit", .ofOption .ofWord limit)]
  | remoteCoin chain assetType =>
    .variant "remote_coin" [("chain_id", .ofWord chain), ("asset_type", .string assetType)]
  | localCoin key => .variant "local_coin" [("asset_type_bytes", .ofOctets key)]
  | coinMappings start limit => .variant "coin_mappings" [
      ("start_after", .ofOption coinKeyToJson start), ("limit", .ofOption .ofWord limit)]
  | registeredAsset assetType => .variant "registered_asset" [("asset_type", .string assetType)]
  | stream id => .variant "stream" [("stream_id", .ofWord id)]
  | withdrawPayload id => .variant "withdraw_payload" [("stream_id", .ofAmount id)]
  | packetHash event => .variant "packet_hash" [("event", event.toJson)]
  | packetProcessed hash => .variant "packet_processed" [("hash", .ofOctets hash)]

/-- The question that a message stands for. -/
def ofJson? (j : Json) : Option Question := do
  let (name, body) ← j.variant?
  match name with
  | "config" => let _ ← body.record? []; return .config
  | "ua_type_info" => let _ ← body.record? []; return .registration
  | "trusted_remote" => return .trustedRemote (← (← body.record? ["chain_id"]).word? "chain_id")
  | "trusted_remotes" =>
    let r ← body.record? ["start_after", "limit"]
    return .trustedRemotes (← r.optional? "start_after" Json.word?) (← r.optional? "limit" Json.word?)
  | "remote_coin" =>
    let r ← body.record? ["chain_id", "asset_type"]
    return .remoteCoin (← r.word? "chain_id") (← r.text? "asset_type")
  | "local_coin" => return .localCoin (← (← body.record? ["asset_type_bytes"]).octets? "asset_type_bytes")
  | "coin_mappings" =>
    let r ← body.record? ["start_after", "limit"]
    return .coinMappings (← r.optional? "start_after" coinKey?) (← r.optional? "limit" Json.word?)
  | "registered_asset" => return .registeredAsset (← (← body.record? ["asset_type"]).text? "asset_type")
  | "stream" => return .stream (← (← body.record? ["stream_id"]).word? "stream_id")
  | "withdraw_payload" => return .withdrawPayload (← (← body.record? ["stream_id"]).amount? "stream_id")
  | "packet_hash" => return .packetHash (← (← body.record? ["event"]).get? "event" DeliveryEvent.ofJson?)
  | "packet_processed" => return .packetProcessed (← (← body.record? ["hash"]).octets? "hash")
  | _ => none

end Question

end VestingBridge.Bridge
