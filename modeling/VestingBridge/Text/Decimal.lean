/-!
# Decimal — counts in base ten

Counts are written without leading zeros.  A count in a text may have one plus sign in front and leading zeros.
-/
namespace VestingBridge.Text.Decimal

/-- **A count in base ten.** -/
def encode (n : Nat) : String := String.ofList (Nat.toDigits 10 n)

/-- The value of a row of ASCII digits that continues a number of value `n`. -/
def readFrom (n : Nat) : List Char → Option Nat
  | [] => some n
  | c :: cs => if '0' ≤ c ∧ c ≤ '9' then readFrom (n * 10 + (c.toNat - 48)) cs else none

/-- The value of a row of one or more ASCII digits. -/
def readDigits : List Char → Option Nat
  | [] => none
  | cs => readFrom 0 cs

/-- **The count that a text denotes**: an optional plus sign, then one or more digits. -/
def decode? (s : String) : Option Nat :=
  match s.toList with
  | '+' :: cs => readDigits cs
  | cs => readDigits cs

example : encode 340282366920938463463374607431768211456 = "340282366920938463463374607431768211456" := by decide
example : decode? "+007" = some 7 ∧ decode? "" = none ∧ decode? "+" = none ∧ decode? "-1" = none := by decide

end VestingBridge.Text.Decimal
