/-!
# Json — the values that messages and answers are made of

A numeral of plain digits is a count.  Any other numeral, with a sign, a fraction or an exponent, is kept as written:
no message of the bridge has a place for one, so it is never taken for a number.  The members of an object keep their
order.
-/
namespace VestingBridge

/-- **A JSON value.** -/
inductive Json where
  | null
  | bool (value : Bool)
  | count (value : Nat)
  | numeral (written : String)
  | string (value : String)
  | array (items : List Json)
  | object (members : List (String × Json))
deriving Inhabited

namespace Json

/-- The value of an optional part: `null` where it is absent. -/
def ofOption {α : Type} (write : α → Json) : Option α → Json
  | none => .null
  | some a => write a

/-- The object of a single member: how messages that have variants are written. -/
def variant (name : String) (members : List (String × Json)) : Json := .object [(name, .object members)]

end Json

end VestingBridge
