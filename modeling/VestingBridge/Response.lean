import VestingBridge.Holding
import VestingBridge.Interface
/-!
# Response — what a contract asks the host to do

A contract that has done its part answers with messages, which the host carries out in order, and with attributes,
which tell observers what happened.  A message is a payment in native coins or a call to another contract.
-/
namespace VestingBridge

/-- What one contract calls another for: a transfer of tokens, a service of an endpoint, or the delivery of an event. -/
inductive Call where
  | transfer (recipient : Account) (amount : Amount)
  | endpoint (call : EndpointCall)
  | receiver (call : ReceiverCall)
deriving DecidableEq

/-- The call as a message. -/
def Call.toJson : Call → Json
  | transfer recipient amount => .variant "transfer" [("recipient", .string recipient), ("amount", .ofAmount amount)]
  | endpoint call => call.toJson
  | receiver call => call.toJson

/-- **What a contract asks the host for**: a payment, or a call with funds attached. -/
inductive Message where
  | pay (recipient : Account) (coins : List Coin)
  | call (contract : Account) (body : Call) (funds : List Coin)
deriving DecidableEq

/-- The message as answers show it. -/
def Message.toJson : Message → Json
  | pay recipient coins => .object [("bank", .variant "send" [
      ("to_address", .string recipient), ("amount", .array (coins.map Coin.toJson))])]
  | call contract body funds => .object [("wasm", .variant "execute" [
      ("contract_addr", .string contract), ("msg", body.toJson), ("funds", .array (funds.map Coin.toJson))])]

/-- The payment of an amount out of a holding. -/
def Holding.payment (h : Holding) (recipient : Account) (amount : Amount) : Message :=
  match h with
  | native denom => .pay recipient [⟨denom, amount⟩]
  | token contract => .call contract (.transfer recipient amount) []

/-- The number that a contract gives to a message whose success it wants to hear of. -/
abbrev ReplyId := Word 0x10000000000000000

/-- A message, and whether its sender is called back after it has succeeded. -/
structure Outgoing where
  message : Message
  replyId : Option ReplyId
deriving DecidableEq

/-- **What a contract answers.** -/
structure Response where
  messages : List Outgoing
  attributes : List (String × String)
deriving DecidableEq

/-- An answer without messages. -/
def Response.note (attributes : List (String × String)) : Response := ⟨[], attributes⟩

/-- An answer with one message, of which nothing more is to be heard. -/
def Response.send (message : Message) (attributes : List (String × String)) : Response :=
  ⟨[⟨message, none⟩], attributes⟩

/-- Where and when a contract is called. -/
structure Env where
  self : Account
  now : Seconds

/-- Who calls a contract, and with which funds. -/
structure Caller where
  sender : Account
  funds : List Coin

/-- The name and the version of the code that a contract runs. -/
structure CodeVersion where
  contract : String
  version : String
deriving DecidableEq

/-- The version of the code, for every contract of the bridge. -/
def CodeVersion.current : String := "0.1.0"

end VestingBridge
