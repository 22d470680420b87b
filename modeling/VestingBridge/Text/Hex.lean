import VestingBridge.Octets
/-!
# Hex — octets as hexadecimal digits

Octets are written with two lower-case digits each.  The reader takes digits of either case, in pairs, and tells which
octet of the digit string is the first that is no digit.
-/
namespace VestingBridge.Text.Hex

/-- The digit of value `n`, for `n` below sixteen. -/
def digit (n : Nat) : Char := if n < 10 then Char.ofNat (48 + n) else Char.ofNat (87 + n)

/-- **Octets as digits**, two for each, in lower case. -/
def encode (bs : Octets) : String :=
  String.ofList (bs.flatMap fun b => [digit (b.toNat / 16), digit (b.toNat % 16)])

/-- The value of a digit, given as the octet of its character. -/
def digitValue? (b : UInt8) : Option Nat :=
  if 0x30 ≤ b ∧ b ≤ 0x39 then some (b.toNat - 0x30)
  else if 0x61 ≤ b ∧ b ≤ 0x66 then some (b.toNat - 0x57)
  else if 0x41 ≤ b ∧ b ≤ 0x46 then some (b.toNat - 0x37)
  else none

/-- An octet that is no digit, and where it stands. -/
structure BadDigit where
  octet : UInt8
  position : Nat
deriving DecidableEq, Repr

/-- The digit at a given position. -/
def digitAt (position : Nat) (b : UInt8) : Except BadDigit Nat :=
  match digitValue? b with
  | some d => .ok d
  | none => .error ⟨b, position⟩

/-- The octets that pairs of digits denote, the first digit standing at `position`. -/
def decodeFrom (position : Nat) : Octets → Except BadDigit Octets
  | high :: low :: rest => do
    let h ← digitAt position high
    let l ← digitAt (position + 1) low
    let bs ← decodeFrom (position + 2) rest
    return UInt8.ofNat (h * 16 + l) :: bs
  | _ => .ok []

/-- **The octets that pairs of digits denote**, or the first octet that is no digit.  The count of digits is even. -/
def decode (digits : Octets) : Except BadDigit Octets := decodeFrom 0 digits

end VestingBridge.Text.Hex
