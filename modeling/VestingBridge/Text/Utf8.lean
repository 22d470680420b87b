import VestingBridge.Octets
/-!
# Utf8 — texts as octets

`encode` writes a text in UTF-8.  `scan` reads octets back, one entry for each character and `none` for each broken
piece, where a broken piece is as long as it can be while some character begins with it.  The strict reading refuses
broken pieces, the lenient one puts U+FFFD for each.
-/
namespace VestingBridge.Text.Utf8

/-- **A text as octets.** -/
def encode (s : String) : Octets := s.toList.flatMap String.utf8EncodeChar

/-- Where a reader stands: between characters, or inside one that still lacks `missing` octets, the next of which lies
between `low` and `high`; `value` collects the bits seen so far. -/
inductive State where
  | between
  | inside (missing : Nat) (low high : UInt8) (value : Nat)

/-- What one octet at the start of a character gives: a piece that is complete, or the state inside a longer one. -/
def lead (b : UInt8) : Option (Option Char) × State :=
  if b < 0x80 then (some (some (Char.ofNat b.toNat)), .between)
  else if b < 0xC2 then (some none, .between)
  else if b < 0xE0 then (none, .inside 1 0x80 0xBF (b.toNat - 0xC0))
  else if b = 0xE0 then (none, .inside 2 0xA0 0xBF 0)
  else if b = 0xED then (none, .inside 2 0x80 0x9F 0xD)
  else if b < 0xF0 then (none, .inside 2 0x80 0xBF (b.toNat - 0xE0))
  else if b = 0xF0 then (none, .inside 3 0x90 0xBF 0)
  else if b < 0xF4 then (none, .inside 3 0x80 0xBF (b.toNat - 0xF0))
  else if b = 0xF4 then (none, .inside 3 0x80 0x8F 4)
  else (some none, .between)

/-- The pieces of an octet string, read from a given state. -/
def scanFrom : State → Octets → List (Option Char)
  | .between, [] => []
  | .inside .., [] => [none]
  | .between, b :: bs => (lead b).1.toList ++ scanFrom (lead b).2 bs
  | .inside missing low high value, b :: bs =>
    if low ≤ b ∧ b ≤ high then
      let value := value * 64 + (b.toNat - 0x80)
      if missing ≤ 1 then some (Char.ofNat value) :: scanFrom .between bs
      else scanFrom (.inside (missing - 1) 0x80 0xBF value) bs
    else none :: ((lead b).1.toList ++ scanFrom (lead b).2 bs)

/-- **The pieces of an octet string**: its characters, and `none` for each broken piece. -/
def scan (bs : Octets) : List (Option Char) := scanFrom .between bs

/-- **The text that octets encode**, if they encode one. -/
def decode? (bs : Octets) : Option String := ((scan bs).mapM id).map String.ofList

/-- The text that octets encode, with U+FFFD for each broken piece. -/
def decodeLossy (bs : Octets) : String := String.ofList ((scan bs).map (·.getD '\uFFFD'))

/-- The number of octets of a text. -/
def size (s : String) : Nat := (encode s).length

example : decode? (encode "añ€😀") = some "añ€😀" := by decide
example : decodeLossy [0x61, 0xE2, 0x82, 0x62, 0xF0, 0x80, 0xFF] = "a\uFFFDb\uFFFD\uFFFD\uFFFD" := by decide

end VestingBridge.Text.Utf8
