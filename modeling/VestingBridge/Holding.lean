import VestingBridge.Account
import VestingBridge.Json.Record
/-!
# Holding — where value is held and how it is paid out

A deposit is held either in a native denomination of the host chain or in a token contract.  A payment from a native
holding is a transfer by the host; from a token it is a call to the token's contract.
-/
namespace VestingBridge

/-- An amount of a native denomination. -/
structure Coin where
  denom : String
  amount : Amount
deriving DecidableEq

namespace Coin

/-- The coin as part of a message. -/
def toJson (c : Coin) : Json := .object [("denom", .string c.denom), ("amount", .ofAmount c.amount)]

/-- The coin that the host describes, which may say more of it than a bridge takes note of. -/
def ofJson? (j : Json) : Option Coin := do
  let r ← j.selection? ["denom", "amount"]
  return { denom := ← r.text? "denom", amount := ← r.amount? "amount" }

end Coin

/-- **Where value is held**: in a native denomination or in a token contract. -/
inductive Holding where
  | native (denom : String)
  | token (contract : Account)
deriving DecidableEq

namespace Holding

/-- The value is held in a native denomination. -/
def isNative : Holding → Bool
  | native _ => true
  | token _ => false

/-- The holding as error texts and answers show it. -/
def display : Holding → String
  | native denom => "native:" ++ denom
  | token contract => "cw20:" ++ contract

/-- The holding as a message. -/
def toJson : Holding → Json
  | native denom => .variant "native" [("denom", .string denom)]
  | token contract => .variant "cw20" [("contract_addr", .string contract)]

/-- The holding that a message stands for. -/
def ofJson? (j : Json) : Option Holding := do
  let (name, body) ← j.variant?
  match name with
  | "native" => return .native (← (← body.record? ["denom"]).text? "denom")
  | "cw20" => return .token (← (← body.record? ["contract_addr"]).text? "contract_addr")
  | _ => none

end Holding

end VestingBridge
