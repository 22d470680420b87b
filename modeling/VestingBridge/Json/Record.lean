import VestingBridge.Json
import VestingBridge.Text.Base64
import VestingBridge.Text.Decimal
/-!
# Record — strict reading of messages

A message is an object with fixed fields.  It is read strictly: every member is one of the fields, no field stands
twice, and each value has exactly the form that its field asks for.  A message with variants is an object of a single
member, which names the variant.  Only what the host says of itself may have members besides the fields.
-/
namespace VestingBridge

/-- The members of an object, by name. -/
abbrev Record := List (String × Json)

namespace Json

/-- **The members of an object that names only the given fields**, and none of them twice. -/
def record? (fields : List String) : Json → Option Record
  | .object members =>
    if (members.map (·.1)).all fields.contains ∧ (members.map (·.1)).Nodup then some members else none
  | _ => none

/-- **The members of an object that the given fields name**, none of them twice.  Other members are passed over. -/
def selection? (fields : List String) : Json → Option Record
  | .object members =>
    let named := members.filter fun m => fields.contains m.1
    if (named.map (·.1)).Nodup then some named else none
  | _ => none

/-- The one member of an object that has a single member. -/
def variant? : Json → Option (String × Json)
  | .object [member] => some member
  | _ => none

/-- The text of a string. -/
def text? : Json → Option String
  | .string s => some s
  | _ => none

/-- A count below `size`. -/
def word? {size : Nat} : Json → Option (Word size)
  | .count n => Word.ofNat? n
  | _ => none

/-- A quantity: a string of digits, with a plus sign in front or not. -/
def amount? : Json → Option Amount
  | .string s => do Word.ofNat? (← Text.Decimal.decode? s)
  | _ => none

/-- Octets in base 64. -/
def octets? : Json → Option Octets
  | .string s => Text.Base64.decode? s
  | _ => none

/-- The items of an array. -/
def items? : Json → Option (List Json)
  | .array items => some items
  | _ => none

/-- A word as a count. -/
def ofWord {size : Nat} (w : Word size) : Json := .count w.val

/-- A quantity as a string of digits. -/
def ofAmount (a : Amount) : Json := .string (Text.Decimal.encode a.val)

/-- Octets in base 64. -/
def ofOctets (bs : Octets) : Json := .string (Text.Base64.encode bs)

end Json

namespace Record

variable {α : Type}

/-- The value of a field that must be there. -/
def get? (r : Record) (name : String) (read : Json → Option α) : Option α := do read (← r.lookup name)

/-- The value of a field that may be absent or null. -/
def optional? (r : Record) (name : String) (read : Json → Option α) : Option (Option α) :=
  match r.lookup name with
  | none | some .null => some none
  | some j => (read j).map some

/-- The text of a field. -/
def text? (r : Record) (name : String) : Option String := r.get? name Json.text?

/-- The word of a field. -/
def word? {size : Nat} (r : Record) (name : String) : Option (Word size) := r.get? name Json.word?

/-- The quantity of a field. -/
def amount? (r : Record) (name : String) : Option Amount := r.get? name Json.amount?

/-- The octets of a field. -/
def octets? (r : Record) (name : String) : Option Octets := r.get? name Json.octets?

end Record

end VestingBridge
