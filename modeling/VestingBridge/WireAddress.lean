import VestingBridge.Text.Blank
import VestingBridge.Text.Decimal
import VestingBridge.Text.Hex
import VestingBridge.Text.Quoted
import VestingBridge.Text.Utf8
/-!
# WireAddress — addresses as packets carry them

Chains have addresses of different lengths.  On the wire every address is thirty-two octets: a shorter one stands at
the end, after zeros.  So an address is a number below `2 ^ 256`, and octets or hexadecimal digits that denote the same
number give the same address.
-/
namespace VestingBridge

/-- **An address on the wire.** -/
structure WireAddress where
  octets : Octets
  length_eq : octets.length = 32

/-- Why octets or a text are no address. -/
inductive AddressError where
  | empty
  | tooManyOctets (count : Nat)
  | tooManyDigits (count : Nat)
  | notHex (digit : Text.Hex.BadDigit)
deriving DecidableEq

namespace AddressError

/-- What is wrong. -/
def reason : AddressError → String
  | empty => "empty address"
  | tooManyOctets count => "expected at most 32 bytes, got " ++ Text.Decimal.encode count
  | tooManyDigits count => "expected at most 64 hex chars, got " ++ Text.Decimal.encode count
  | notHex digit =>
    "invalid hex: Invalid character " ++ Text.quoted digit.octet ++ " at position " ++
      Text.Decimal.encode digit.position

/-- The text of the error. -/
def message (e : AddressError) : String := "Malformed address: " ++ e.reason

end AddressError

namespace WireAddress

theorem ext_octets {a b : WireAddress} (h : a.octets = b.octets) : a = b := by
  obtain ⟨as, _⟩ := a
  obtain ⟨bs, _⟩ := b
  subst h
  rfl

instance : DecidableEq WireAddress := fun a b =>
  decidable_of_iff (a.octets = b.octets) ⟨ext_octets, congrArg octets⟩

/-- Addresses are ordered as the numbers that they denote. -/
instance : Ord WireAddress := ⟨compareOn octets⟩

instance : Std.TransOrd WireAddress := inferInstanceAs (Std.TransCmp (compareOn octets))

instance : Std.LawfulEqOrd WireAddress where
  eq_of_compare {a b} h :=
    ext_octets (Std.LawfulEqOrd.eq_of_compare (show compare a.octets b.octets = .eq from h))

/-- **The address that octets denote**: one to thirty-two of them, with zeros put in front. -/
def ofOctets (bs : Octets) : Except AddressError WireAddress :=
  if bs = [] then .error .empty
  else if h : bs.length ≤ 32 then .ok ⟨bs.leftPad 32, Octets.length_leftPad h⟩
  else .error (.tooManyOctets bs.length)

/-- A text without a leading `0x` or `0X`. -/
def dropMark : List Char → List Char
  | '0' :: 'x' :: cs => cs
  | '0' :: 'X' :: cs => cs
  | cs => cs

/-- The digits in a text: what is left without the blanks around it and without the mark in front. -/
def digits (text : String) : Octets :=
  Text.Utf8.encode (String.ofList (dropMark (Text.trimChars text.toList)))

/-- Digits with a zero in front of an odd count. -/
def evenDigits (ds : Octets) : Octets := if ds.length % 2 = 1 then 0x30 :: ds else ds

/-- **The address that a text denotes**: one to sixty-four hexadecimal digits, of either case. -/
def ofHex (text : String) : Except AddressError WireAddress :=
  let ds := digits text
  if ds = [] then .error .empty
  else if 64 < ds.length then .error (.tooManyDigits ds.length)
  else
    match Text.Hex.decode (evenDigits ds) with
    | .error digit => .error (.notHex digit)
    | .ok bs => ofOctets bs

/-- The address as sixty-four digits after the mark. -/
def toHex (a : WireAddress) : String := "0x" ++ Text.Hex.encode a.octets

/-- The address as forty digits after the mark, if it fits in twenty octets. -/
def toEvm? (a : WireAddress) : Option String :=
  if (a.octets.take 12).all (· = 0) then some ("0x" ++ Text.Hex.encode (a.octets.drop 12)) else none

/-- The address is the number zero. -/
def isZero (a : WireAddress) : Bool := a.octets.all (· = 0)

end WireAddress

end VestingBridge
