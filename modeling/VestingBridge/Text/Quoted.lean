/-!
# Quoted — one octet shown between single quotes

Error texts name the octet at fault as a character between single quotes.  The octet is taken as the character of that
number; a quote, a backslash and what cannot be seen are escaped.
-/
namespace VestingBridge.Text

/-- An octet whose character cannot be seen: a control, a blank other than the space, or the soft hyphen. -/
def isUnseen (n : Nat) : Bool := n < 0x20 || (0x7F ≤ n && n ≤ 0xA0) || n == 0xAD

/-- **The character of an octet between single quotes.** -/
def quoted (b : UInt8) : String :=
  let body :=
    if b = 0x00 then "\\0"
    else if b = 0x09 then "\\t"
    else if b = 0x0A then "\\n"
    else if b = 0x0D then "\\r"
    else if b = 0x27 then "\\\x27"
    else if b = 0x5C then "\\\\"
    else if isUnseen b.toNat then
      "\\u\x7b" ++ String.ofList (Nat.toDigits 16 b.toNat) ++ "\x7d"
    else String.singleton (Char.ofNat b.toNat)
  "\x27" ++ body ++ "\x27"

example : quoted 0x1F = "\x27\\u\x7b1f\x7d\x27" ∧ quoted 0xC3 = "\x27Ã\x27" ∧ quoted 0x22 = "\x27\"\x27" := by decide

end VestingBridge.Text
