import VestingBridge.Json
/-!
# Escape — what the characters between two quotes stand for

A string without a backslash stands for its characters as they are.  In a string with one, each escape stands for the
character that it names, and no control stands for itself.  A character of more than sixteen bits is escaped in two
halves.  Other escapes may come between the halves, and their characters then come before it; anything else between
them, and a half alone, is refused.
-/
namespace VestingBridge.Json

/-- A control character of ASCII, the last one apart. -/
def isControl (c : Char) : Bool := c.val < 0x20

/-- The value of a hexadecimal digit. -/
def hexDigit? (c : Char) : Option Nat :=
  let n := c.val.toNat
  if 48 ≤ n ∧ n ≤ 57 then some (n - 48)
  else if 97 ≤ n ∧ n ≤ 102 then some (n - 87)
  else if 65 ≤ n ∧ n ≤ 70 then some (n - 55)
  else none

/-- The number that four hexadecimal digits denote. -/
def unit? (a b c d : Char) : Option Nat := do
  return (((← hexDigit? a) * 16 + (← hexDigit? b)) * 16 + (← hexDigit? c)) * 16 + (← hexDigit? d)

/-- The first half of a character of more than sixteen bits. -/
def isLeading (n : Nat) : Bool := 0xD800 ≤ n && n < 0xDC00

/-- The second half of a character of more than sixteen bits. -/
def isTrailing (n : Nat) : Bool := 0xDC00 ≤ n && n < 0xE000

/-- The character of two halves. -/
def pair (lead trail : Nat) : Char := Char.ofNat (0x10000 + (lead - 0xD800) * 0x400 + (trail - 0xDC00))

/-- The character that a single letter after a backslash stands for. -/
def letter? (c : Char) : Option Char :=
  if c = '"' ∨ c = '\\' ∨ c = '/' then some c
  else if c = 'b' then some '\x08'
  else if c = 'f' then some '\x0c'
  else if c = 'n' then some '\n'
  else if c = 'r' then some '\r'
  else if c = 't' then some '\t'
  else none

/-- What follows from an escape of value `n`: the characters so far, last first, and the first half that waits for its
second. -/
def acceptUnit (seen : List Char) (lead : Option Nat) (n : Nat) : Option (List Char × Option Nat) :=
  if isTrailing n then lead.map fun h => (pair h n :: seen, none)
  else if isLeading n then if lead = none then some (seen, some n) else none
  else some (Char.ofNat n :: seen, lead)

/-- **The characters that a string with escapes stands for**, after those that are held last first, where `lead` is the
first half that waits for its second. -/
def unescape? (seen : List Char) (lead : Option Nat) : List Char → Option (List Char)
  | [] => if lead = none then some seen.reverse else none
  | '\\' :: 'u' :: a :: b :: c :: d :: cs =>
    match (unit? a b c d).bind (acceptUnit seen lead) with
    | some (seen, lead) => unescape? seen lead cs
    | none => none
  | '\\' :: c :: cs =>
    match letter? c with
    | some d => unescape? (d :: seen) lead cs
    | none => none
  | c :: cs => if c = '\\' ∨ isControl c ∨ lead ≠ none then none else unescape? (c :: seen) lead cs

/-- **The text of a string whose quotes hold the characters.** -/
def unquote? (cs : List Char) : Option String :=
  if '\\' ∈ cs then (unescape? [] none cs).map String.ofList else some (String.ofList cs)

example : unquote? "\t\\".toList = none ∧ unquote? "a\tb".toList = some "a\tb" ∧ unquote? "a\t\\n".toList = none := by
  decide +kernel

example : unquote? "\\ud83d\\n\\ude00".toList = some "\n😀" ∧ unquote? "\\ud83d \\ude00".toList = none := by
  decide +kernel

end VestingBridge.Json
