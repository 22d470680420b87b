import VestingBridge.Octets
/-!
# Base64 — octets as text in messages

Octets are written in the standard alphabet with complete padding.  The reader takes the same alphabet and no blank,
with the padding complete, cut short or absent, and refuses a last group that has bits left over.
-/
namespace VestingBridge.Text.Base64

/-- The character of the sextet `n`. -/
def letter (n : Nat) : Char :=
  if n < 26 then Char.ofNat (65 + n)
  else if n < 52 then Char.ofNat (71 + n)
  else if n < 62 then Char.ofNat (n - 4)
  else if n = 62 then '+' else '/'

/-- The sextet of a character, if it has one. -/
def sextet? (c : Char) : Option Nat :=
  let n := c.val.toNat
  if 65 ≤ n ∧ n ≤ 90 then some (n - 65)
  else if 97 ≤ n ∧ n ≤ 122 then some (n - 71)
  else if 48 ≤ n ∧ n ≤ 57 then some (n + 4)
  else if n = 43 then some 62
  else if n = 47 then some 63
  else none

/-- The characters for octets, four for each three. -/
def encodeChars : Octets → List Char
  | a :: b :: c :: rest =>
    let n := (a.toNat * 256 + b.toNat) * 256 + c.toNat
    letter (n / 262144) :: letter (n / 4096 % 64) :: letter (n / 64 % 64) :: letter (n % 64) :: encodeChars rest
  | [a, b] =>
    let n := (a.toNat * 256 + b.toNat) * 4
    [letter (n / 4096), letter (n / 64 % 64), letter (n % 64), '=']
  | [a] =>
    let n := a.toNat * 16
    [letter (n / 64), letter (n % 64), '=', '=']
  | [] => []

/-- **Octets as text**, with complete padding. -/
def encode (bs : Octets) : String := String.ofList (encodeChars bs)

/-- The octets of groups of sextets, and how many padding characters the last group may have. -/
def joinSextets : List Nat → Option (Octets × Nat)
  | a :: b :: c :: d :: rest => do
    let n := ((a * 64 + b) * 64 + c) * 64 + d
    let (bs, padding) ← joinSextets rest
    return (UInt8.ofNat (n / 65536) :: UInt8.ofNat (n / 256) :: UInt8.ofNat n :: bs, padding)
  | [a, b, c] =>
    let n := (a * 64 + b) * 64 + c
    if n % 4 = 0 then some ([UInt8.ofNat (n / 1024), UInt8.ofNat (n / 4)], 1) else none
  | [a, b] =>
    let n := a * 64 + b
    if n % 16 = 0 then some ([UInt8.ofNat (n / 16)], 2) else none
  | [_] => none
  | [] => some ([], 0)

/-- **The octets that a text stands for**, if it is well formed. -/
def decode? (s : String) : Option Octets := do
  let body := s.toList.takeWhile (· ≠ '=')
  let padding := s.toList.dropWhile (· ≠ '=')
  let (bs, allowed) ← joinSextets (← body.mapM sextet?)
  if padding.all (· = '=') ∧ padding.length ≤ allowed then some bs else none

example : encode [1] = "AQ==" ∧ encode [1, 2, 3, 255] = "AQID/w==" := by decide
example : ["AQ", "AQ=", "AQ=="].map decode? = List.replicate 3 (some [1]) := by decide
example : ["AQ===", "AR==", "AQID=", "A", "A=Q=", "AQ ="].map decode? = List.replicate 6 none := by decide

end VestingBridge.Text.Base64
