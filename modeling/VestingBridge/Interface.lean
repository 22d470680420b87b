import VestingBridge.Account
import VestingBridge.DeliveryEvent
import VestingBridge.TypeTag
/-!
# Interface — what applications and endpoints say to each other

An application asks its endpoint to register it and to send packets, and asks who is registered.  An endpoint hands an
application the events that report packets for it.  Each side holds its own description of what it takes; these are
the messages that both agree on.
-/
namespace VestingBridge

/-- **What an application asks of an endpoint.** -/
inductive EndpointCall where
  | register (typeInfo : TypeTag)
  | send (dstChain : ChainId) (dst : Octets) (payload : Octets)
deriving DecidableEq

/-- What an application asks an endpoint about. -/
inductive EndpointQuestion where
  | registration (application : Account)
deriving DecidableEq

/-- The answer: an application and the type that it is registered with. -/
structure Registration where
  application : Account
  typeInfo : TypeTag
deriving DecidableEq

/-- **What an endpoint asks of an application.** -/
inductive ReceiverCall where
  | receive (event : DeliveryEvent)
deriving DecidableEq

namespace EndpointCall

/-- The call as a message. -/
def toJson : EndpointCall → Json
  | register typeInfo => .variant "register_ua" [("type_info", typeInfo.toJson)]
  | send dstChain dst payload => .variant "send" [
      ("dst_chain_id", .ofWord dstChain), ("dst_address", .ofOctets dst), ("payload", .ofOctets payload)]

/-- The call that a message stands for. -/
def ofJson? (j : Json) : Option EndpointCall := do
  let (name, body) ← j.variant?
  match name with
  | "register_ua" =>
    let r ← body.record? ["type_info"]
    return .register (← r.get? "type_info" TypeTag.ofJson?)
  | "send" =>
    let r ← body.record? ["dst_chain_id", "dst_address", "payload"]
    return .send (← r.word? "dst_chain_id") (← r.octets? "dst_address") (← r.octets? "payload")
  | _ => none

end EndpointCall

namespace EndpointQuestion

/-- The question as a message. -/
def toJson : EndpointQuestion → Json
  | registration application => .variant "ua_type_info" [("ua", .string application)]

/-- The question that a message stands for. -/
def ofJson? (j : Json) : Option EndpointQuestion := do
  let (name, body) ← j.variant?
  match name with
  | "ua_type_info" => return .registration (← (← body.record? ["ua"]).text? "ua")
  | _ => none

end EndpointQuestion

namespace Registration

/-- The answer as a message. -/
def toJson (a : Registration) : Json :=
  .object [("ua", .string a.application), ("type_info", a.typeInfo.toJson)]

/-- The answer that a message stands for. -/
def ofJson? (j : Json) : Option Registration := do
  let r ← j.record? ["ua", "type_info"]
  return { application := ← r.text? "ua", typeInfo := ← r.get? "type_info" TypeTag.ofJson? }

end Registration

namespace ReceiverCall

/-- The call as a message. -/
def toJson : ReceiverCall → Json
  | receive event => .variant "lz_receive" [("event", event.toJson)]

/-- The call that a message stands for. -/
def ofJson? (j : Json) : Option ReceiverCall := do
  let (name, body) ← j.variant?
  match name with
  | "lz_receive" => return .receive (← (← body.record? ["event"]).get? "event" DeliveryEvent.ofJson?)
  | _ => none

end ReceiverCall

end VestingBridge
