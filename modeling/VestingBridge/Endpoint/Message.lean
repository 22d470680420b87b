import VestingBridge.Interface
/-!
# Endpoint.Message — what an endpoint takes

The messages by which an endpoint is created, called by applications and by its relayer, and asked.
-/
namespace VestingBridge.Endpoint

/-- What a new endpoint is told: the chain that it is on, and its relayer. -/
structure Setup where
  localChain : ChainId
  relayer : String
deriving DecidableEq

/-- **What an endpoint may be called for.** -/
inductive ExecuteCall where
  | register (typeInfo : TypeTag)
  | send (dstChain : ChainId) (dst : Octets) (payload : Octets)
  | deliver (application : String) (event : DeliveryEvent)
deriving DecidableEq

/-- **What an endpoint may be asked.** -/
inductive Question where
  | config
  | registration (application : String)
  | outboundNonce (dstChain : ChainId) (application : String) (dst : Octets)
  | inboundNonce (srcChain : ChainId) (src : Octets) (application : String)
deriving DecidableEq

namespace Setup

/-- The setup as a message. -/
def toJson (s : Setup) : Json :=
  .object [("local_chain_id", .ofWord s.localChain), ("relayer", .string s.relayer)]

/-- The setup that a message stands for. -/
def ofJson? (j : Json) : Option Setup := do
  let r ← j.record? ["local_chain_id", "relayer"]
  return { localChain := ← r.word? "local_chain_id", relayer := ← r.text? "relayer" }

end Setup

namespace ExecuteCall

/-- The call as a message. -/
def toJson : ExecuteCall → Json
  | register typeInfo => .variant "register_ua" [("type_info", typeInfo.toJson)]
  | send dstChain dst payload => .variant "send" [
      ("dst_chain_id", .ofWord dstChain), ("dst_address", .ofOctets dst), ("payload", .ofOctets payload)]
  | deliver application event => .variant "deliver" [("ua", .string application), ("event", event.toJson)]

/-- The call that a message stands for. -/
def ofJson? (j : Json) : Option ExecuteCall := do
  let (name, body) ← j.variant?
  match name with
  | "register_ua" => return .register (← (← body.record? ["type_info"]).get? "type_info" TypeTag.ofJson?)
  | "send" =>
    let r ← body.record? ["dst_chain_id", "dst_address", "payload"]
    return .send (← r.word? "dst_chain_id") (← r.octets? "dst_address") (← r.octets? "payload")
  | "deliver" =>
    let r ← body.record? ["ua", "event"]
    return .deliver (← r.text? "ua") (← r.get? "event" DeliveryEvent.ofJson?)
  | _ => none

end ExecuteCall

namespace Question

/-- The question as a message. -/
def toJson : Question → Json
  | config => .variant "config" []
  | registration application => .variant "ua_type_info" [("ua", .string application)]
  | outboundNonce dstChain application dst => .variant "outbound_nonce" [
      ("dst_chain_id", .ofWord dstChain), ("ua", .string application), ("dst_address", .ofOctets dst)]
  | inboundNonce srcChain src application => .variant "inbound_nonce" [
      ("src_chain_id", .ofWord srcChain), ("src_address", .ofOctets src), ("ua", .string application)]

/-- The question that a message stands for. -/
def ofJson? (j : Json) : Option Question := do
  let (name, body) ← j.variant?
  match name with
  | "config" => let _ ← body.record? []; return .config
  | "ua_type_info" => return .registration (← (← body.record? ["ua"]).text? "ua")
  | "outbound_nonce" =>
    let r ← body.record? ["dst_chain_id", "ua", "dst_address"]
    return .outboundNonce (← r.word? "dst_chain_id") (← r.text? "ua") (← r.octets? "dst_address")
  | "inbound_nonce" =>
    let r ← body.record? ["src_chain_id", "src_address", "ua"]
    return .inboundNonce (← r.word? "src_chain_id") (← r.octets? "src_address") (← r.text? "ua")
  | _ => none

end Question

end VestingBridge.Endpoint
