import VestingBridge.Bridge.Registry
/-!
# Bridge.Payout — how streams are drawn on

What has vested leaves the bridge in two ways: the recipient asks for it here, or a packet from a trusted address on
another chain asks for it.  Both release the same amount and pay it to the stream's recipient out of the holding that
the deposit was made in.  A packet is applied once.
-/
namespace VestingBridge.Bridge

open Handler (look check require)

/-- The stream of a number. -/
def Store.stream (s : Store) (id : StreamId) : Except Error Stream :=
  match s.streams.get? id with
  | some stream => .ok stream
  | none => .error (.noStream id)

/-- What a stream releases now, and the stream after it. -/
def released (stream : Stream) (now : Seconds) : Except Error (Amount × Stream) :=
  match stream.release now with
  | .ok r => .ok r
  | .error .nothing => .error (.nothingToWithdraw stream.id)
  | .error .overflow => .error (.overflow stream.withdrawn (stream.withdrawable now))

/-- **The recipient draws on a stream.** -/
def withdraw (env : Env) (caller : Caller) (id : StreamId) : Step Response := do
  let config ← look Store.loadConfig
  require (!config.paused) .paused
  let stream ← look (·.stream id)
  require (caller.sender = stream.recipient) .unauthorized
  let (amount, stream) ← ofExcept (released stream env.now)
  modify fun s => s.putStream id stream
  return .send (stream.payout amount) [("action", "withdraw"), ("stream_id", Text.Decimal.encode id.val),
    ("recipient", stream.recipient), ("amount", Text.Decimal.encode amount.val)]

/-- The bridge is active and not paused. -/
def requireActive (config : Config) : Step Unit := do
  require (config.lifecycle = .active) .notActive
  require (!config.paused) .paused

/-- **A packet draws on a stream**: the stream's type is mapped for the chain of the packet, and its value is held where
the deposit was made. -/
def applyWithdraw (env : Env) (packet : Packet) (id : StreamId) : Step Response := do
  let stream ← look (·.stream id)
  let remoteAsset ← look (·.remoteCoin packet.srcChain stream.assetType)
  let tag ← look (·.localCoin stream.assetType.key)
  let asset ← look (·.asset tag)
  require (asset = stream.asset) (.wrongHolding stream.asset asset)
  let (amount, stream) ← ofExcept (released stream env.now)
  modify fun s => s.putStream id stream
  return .send (stream.payout amount) [("action", "lz_receive"), ("request", "withdraw"),
    ("stream_id", Text.Decimal.encode id.val), ("asset_type", tag.name), ("remote_asset", remoteAsset.toHex),
    ("recipient", stream.recipient), ("amount", Text.Decimal.encode amount.val)]

/-- **The endpoint delivers an event**, and the request in its packet is applied. -/
def deliver (env : Env) (caller : Caller) (event : DeliveryEvent) : Step Response := do
  let config ← look Store.loadConfig
  require (caller.sender = config.endpoint) .notEndpoint
  requireActive config
  let packet ← check .event event.rebuild
  require (packet.dstChain = config.localChain) (.wrongChain packet.dstChain config.localChain)
  let here ← check .account env.self.wire
  require (packet.dst = here) (.wrongTarget packet.dst)
  look (·.verifySender packet.srcChain packet.src)
  require (!(← get).processed.contains packet.hash) (.alreadyProcessed packet.hash)
  let .withdraw id ← check .request (WithdrawRequest.parse packet.payload)
  let response ← applyWithdraw env packet id
  modify fun s => { s with processed := s.processed.insert packet.hash packet.nonce }
  return { response with
    attributes := response.attributes ++ [("src_chain_id", Text.Decimal.encode packet.srcChain.val),
      ("src_address", packet.src.toHex), ("nonce", Text.Decimal.encode packet.nonce.val),
      ("packet_hash", packet.hash.toHex)] }

/-- **Anyone asks the bridge on another chain to release what has vested of a stream there.**  The funds go on to the
endpoint. -/
def requestRemoteWithdraw (caller : Caller) (dstChain : ChainId) (stream : Amount) : Step Response := do
  let config ← look Store.loadConfig
  requireActive config
  let id ← check .request (WithdrawRequest.operand? stream)
  let remote ← look (·.remote dstChain)
  let payload := WithdrawRequest.withdrawal id
  return .send (.call config.endpoint (.endpoint (.send dstChain remote.octets payload)) caller.funds) [
    ("action", "request_remote_withdraw"), ("dst_chain_id", Text.Decimal.encode dstChain.val),
    ("dst_address", remote.toHex), ("stream_id", Text.Decimal.encode id.val),
    ("payload", Text.Hex.encode payload)]

end VestingBridge.Bridge
