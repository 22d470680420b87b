import VestingBridge.Json.Record
import VestingBridge.Packet
/-!
# DeliveryEvent — the shapes in which a packet is reported

A packet reaches its destination in one of three shapes: with its addresses as octets, with its addresses as
hexadecimal texts, or encoded as a whole.  `rebuild` gives the packet back, which is all that later steps look at.
-/
namespace VestingBridge

/-- **A report that a packet was sent.** -/
inductive DeliveryEvent where
  | packet (srcChain : ChainId) (src : Octets) (dstChain : ChainId) (dst : Octets) (nonce : Nonce) (payload : Octets)
  | raw (srcChain : ChainId) (src : String) (dstChain : ChainId) (dst : String) (nonce : Nonce) (payload : Octets)
  | encoded (data : Octets)
deriving DecidableEq

/-- Why an event describes no packet.
* `noSource`, `noDestination`: an address has no octets;
* `blankSource`, `blankDestination`: an address text holds nothing but blanks;
* `tooShort`: encoded octets that end before the header does;
* `address`: an address is malformed. -/
inductive EventError where
  | noSource
  | noDestination
  | blankSource
  | blankDestination
  | tooShort (count : Nat)
  | address (error : AddressError)
deriving DecidableEq

namespace EventError

/-- The text of an error that is in the shape of the event. -/
def shape (reason : String) : String := "Unrecognized event shape: " ++ reason

/-- The text of the error. -/
def message : EventError → String
  | noSource => shape "missing src_address"
  | noDestination => shape "missing dst_address"
  | blankSource => shape "missing src_address_raw"
  | blankDestination => shape "missing dst_address_raw"
  | tooShort count => shape ("encoded packet needs at least 76 bytes, got " ++ Text.Decimal.encode count)
  | address error => error.message

end EventError

namespace DeliveryEvent

/-- **The packet that an event describes.**  Absent addresses are found before malformed ones. -/
def rebuild : DeliveryEvent → Except EventError Packet
  | .packet srcChain src dstChain dst nonce payload =>
    if src = [] then .error .noSource
    else if dst = [] then .error .noDestination
    else (Packet.ofOctets srcChain src dstChain dst nonce payload).mapError .address
  | .raw srcChain src dstChain dst nonce payload =>
    if Text.trimChars src.toList = [] then .error .blankSource
    else if Text.trimChars dst.toList = [] then .error .blankDestination
    else (Packet.ofHex srcChain src dstChain dst nonce payload).mapError .address
  | .encoded data =>
    match Packet.decode? data with
    | some p => .ok p
    | none => .error (.tooShort data.length)

/-- The event as a message. -/
def toJson : DeliveryEvent → Json
  | .packet srcChain src dstChain dst nonce payload => .variant "packet" [
      ("src_chain_id", .ofWord srcChain), ("src_address", .ofOctets src),
      ("dst_chain_id", .ofWord dstChain), ("dst_address", .ofOctets dst),
      ("nonce", .ofWord nonce), ("payload", .ofOctets payload)]
  | .raw srcChain src dstChain dst nonce payload => .variant "raw" [
      ("src_chain_id", .ofWord srcChain), ("src_address_raw", .string src),
      ("dst_chain_id", .ofWord dstChain), ("dst_address_raw", .string dst),
      ("nonce", .ofWord nonce), ("payload", .ofOctets payload)]
  | .encoded data => .variant "encoded" [("data", .ofOctets data)]

/-- The event that a message stands for. -/
def ofJson? (j : Json) : Option DeliveryEvent := do
  let (name, body) ← j.variant?
  match name with
  | "packet" =>
    let r ← body.record? ["src_chain_id", "src_address", "dst_chain_id", "dst_address", "nonce", "payload"]
    return .packet (← r.word? "src_chain_id") (← r.octets? "src_address") (← r.word? "dst_chain_id")
      (← r.octets? "dst_address") (← r.word? "nonce") (← r.octets? "payload")
  | "raw" =>
    let r ← body.record? ["src_chain_id", "src_address_raw", "dst_chain_id", "dst_address_raw", "nonce", "payload"]
    return .raw (← r.word? "src_chain_id") (← r.text? "src_address_raw") (← r.word? "dst_chain_id")
      (← r.text? "dst_address_raw") (← r.word? "nonce") (← r.octets? "payload")
  | "encoded" =>
    let r ← body.record? ["data"]
    return .encoded (← r.octets? "data")
  | _ => none

end DeliveryEvent

end VestingBridge
