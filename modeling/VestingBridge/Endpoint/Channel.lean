import VestingBridge.Handler
import VestingBridge.Endpoint.Message
import VestingBridge.Endpoint.Store
/-!
# Endpoint.Channel — how packets go out and come in

A registered application sends packets, which are numbered from one on each path.  The relayer delivers events to
applications, on each path in the order of the nonces and none twice; the application is called with the event as it
came.
-/
namespace VestingBridge.Endpoint

/-- What the calls of an endpoint are. -/
abbrev Step := Handler Store Error

open Handler (look check require)

namespace Store

/-- The configuration. -/
def loadConfig (s : Store) : Except Error Config :=
  match s.config with
  | some c => .ok c
  | none => .error .noConfig

/-- The application is registered. -/
def verifyRegistered (s : Store) (application : Account) : Except Error Unit :=
  if s.applications.contains application then .ok () else .error (.notRegistered application)

/-- The nonce after a given one. -/
def nextNonce (n : Nonce) : Except Error Nonce :=
  match n.succ? with
  | some next => .ok next
  | none => .error .noncesExhausted

end Store

/-- **The creation of an endpoint.** -/
def create (setup : Setup) : Step Response := do
  modify fun s => { s with version := some codeVersion }
  let relayer ← check .account (Account.validate setup.relayer)
  modify fun s => { s with config := some { localChain := setup.localChain, relayer } }
  return .note [("action", "instantiate"), ("relayer", relayer),
    ("local_chain_id", Text.Decimal.encode setup.localChain.val)]

/-- **An application registers itself**, once. -/
def register (caller : Caller) (typeInfo : TypeTag) : Step Response := do
  require (!(← get).applications.contains caller.sender) (.alreadyRegistered caller.sender)
  modify fun s => { s with applications := s.applications.insert caller.sender typeInfo }
  return .note [("action", "register_ua"), ("ua", caller.sender), ("type_info", typeInfo.name)]

/-- **A registered application sends a packet**, which takes the next nonce of its path. -/
def send (caller : Caller) (dstChain : ChainId) (dst payload : Octets) : Step Response := do
  look (·.verifyRegistered caller.sender)
  let config ← look Store.loadConfig
  let dst ← check .address (WireAddress.ofOctets dst)
  let path : OutboundPath := (dstChain, caller.sender, dst)
  let nonce ← look fun s => Store.nextNonce (s.lastSent path)
  modify fun s => { s with outbound := s.outbound.insert path nonce }
  let src ← check .account caller.sender.wire
  let packet : Packet := { srcChain := config.localChain, src, dstChain, dst, nonce, payload }
  return .note [("action", "send"), ("ua", caller.sender), ("dst_chain_id", Text.Decimal.encode dstChain.val),
    ("dst_address", dst.toHex), ("nonce", Text.Decimal.encode nonce.val),
    ("packet", Text.Hex.encode packet.encode), ("packet_hash", packet.hash.toHex)]

/-- **The relayer delivers an event to an application**, if its packet is the next one of its path. -/
def deliver (caller : Caller) (application : String) (event : DeliveryEvent) : Step Response := do
  let config ← look Store.loadConfig
  require (caller.sender = config.relayer) .unauthorized
  let application ← check .account (Account.validate application)
  look (·.verifyRegistered application)
  let packet ← check .event event.rebuild
  require (packet.dstChain = config.localChain) (.wrongChain config.localChain packet.dstChain)
  let path : InboundPath := (packet.srcChain, packet.src, application)
  let expected ← look fun s => Store.nextNonce (s.lastDelivered path)
  require (packet.nonce = expected) (.invalidNonce expected packet.nonce)
  modify fun s => { s with inbound := s.inbound.insert path packet.nonce }
  return .send (.call application (.receiver (.receive event)) []) [("action", "deliver"), ("ua", application),
    ("src_chain_id", Text.Decimal.encode packet.srcChain.val), ("nonce", Text.Decimal.encode packet.nonce.val),
    ("packet_hash", packet.hash.toHex)]

/-- **What a call does.** -/
def ExecuteCall.run (caller : Caller) : ExecuteCall → Step Response
  | register typeInfo => Endpoint.register caller typeInfo
  | send dstChain dst payload => Endpoint.send caller dstChain dst payload
  | deliver application event => Endpoint.deliver caller application event

/-- **What can happen to an endpoint**: its creation, or a call. -/
inductive Event where
  | create (setup : Setup)
  | execute (caller : Caller) (call : ExecuteCall)

/-- What an event does. -/
def Event.run : Event → Step Response
  | create setup => Endpoint.create setup
  | execute caller call => call.run caller

end VestingBridge.Endpoint
