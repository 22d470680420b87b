import VestingBridge.Octets
/-!
# Keccak — the hash of packets

Keccak-256 with the padding of its first publication: a one bit, zeros and a one bit, without the domain bits that were
added when the function was made a standard.  The state is five rows of five lanes of sixty-four bits; both rows and
columns are rings, so that every step is said of whole rows and their turns.
-/
namespace VestingBridge

/-- **Thirty-two octets that stand for a longer string.** -/
structure Digest where
  octets : Octets
  length_eq : octets.length = 32

theorem Digest.ext_octets {a b : Digest} (h : a.octets = b.octets) : a = b := by
  obtain ⟨as, _⟩ := a
  obtain ⟨bs, _⟩ := b
  subst h
  rfl

instance : DecidableEq Digest := fun a b =>
  decidable_of_iff (a.octets = b.octets) ⟨Digest.ext_octets, congrArg Digest.octets⟩

namespace Keccak

/-- **Five values in a ring.** -/
structure Five (α : Type) where
  a : α
  b : α
  c : α
  d : α
  e : α

namespace Five

variable {α β γ : Type}

/-- The same value five times. -/
def replicate (x : α) : Five α := ⟨x, x, x, x, x⟩

/-- Five consecutive numbers. -/
def upFrom (n : Nat) : Five Nat := ⟨n, n + 1, n + 2, n + 3, n + 4⟩

/-- A function applied to each value. -/
def map (f : α → β) (v : Five α) : Five β := ⟨f v.a, f v.b, f v.c, f v.d, f v.e⟩

/-- A function applied to the values of two rings, place by place. -/
def zipWith (f : α → β → γ) (v : Five α) (w : Five β) : Five γ :=
  ⟨f v.a w.a, f v.b w.b, f v.c w.c, f v.d w.d, f v.e w.e⟩

/-- At each place, the value after it. -/
def next (v : Five α) : Five α := ⟨v.b, v.c, v.d, v.e, v.a⟩

/-- At each place, the value before it. -/
def prev (v : Five α) : Five α := ⟨v.e, v.a, v.b, v.c, v.d⟩

/-- The values of the first row in the first column, of the second row in the second, and so on. -/
def diagonal (v : Five (Five α)) : Five α := ⟨v.a.a, v.b.b, v.c.c, v.d.d, v.e.e⟩

end Five

/-- One row of the state. -/
abbrev Row := Five UInt64

/-- The state, row by row. -/
abbrev Lanes := Five Row

/-- Two rows, each lane of one with the lane of the other. -/
def Row.xor (r s : Row) : Row := r.zipWith (· ^^^ ·) s

/-- A lane turned left by `n` bits, `n` below sixty-four. -/
def rotate (w : UInt64) (n : Nat) : UInt64 :=
  if n = 0 then w else w <<< UInt64.ofNat n ||| w >>> UInt64.ofNat (64 - n)

/-- How far each lane is turned. -/
def offsets : Five (Five Nat) :=
  ⟨⟨0, 1, 62, 28, 27⟩,
   ⟨36, 44, 6, 55, 20⟩,
   ⟨3, 10, 43, 25, 39⟩,
   ⟨41, 45, 15, 21, 8⟩,
   ⟨18, 2, 61, 56, 14⟩⟩

/-- The constants that tell the rounds apart. -/
def roundConstants : List UInt64 := [
  0x0000000000000001, 0x0000000000008082, 0x800000000000808A, 0x8000000080008000, 0x000000000000808B,
  0x0000000080000001, 0x8000000080008081, 0x8000000000008009, 0x000000000000008A, 0x0000000000000088,
  0x0000000080008009, 0x000000008000000A, 0x000000008000808B, 0x800000000000008B, 0x8000000000008089,
  0x8000000000008003, 0x8000000000008002, 0x8000000000000080, 0x000000000000800A, 0x800000008000000A,
  0x8000000080008081, 0x8000000000008080, 0x0000000080000001, 0x8000000080008008]

/-- The exclusive or of each column. -/
def parities (s : Lanes) : Row := Row.xor s.a (Row.xor s.b (Row.xor s.c (Row.xor s.d s.e)))

/-- Each lane takes in the parities of the columns beside it. -/
def theta (s : Lanes) : Lanes :=
  let p := parities s
  s.map fun r => Row.xor r (Row.xor p.prev (p.next.map fun w => rotate w 1))

/-- Each lane is turned by its offset. -/
def rho (s : Lanes) : Lanes := s.zipWith (·.zipWith rotate ·) offsets

/-- The lanes change places: row `y` is the diagonal that starts in column `3 * y`. -/
def pi (s : Lanes) : Lanes :=
  let one := s.map Five.next
  let two := one.map Five.next
  let three := two.map Five.next
  let four := three.map Five.next
  ⟨s.diagonal, three.diagonal, one.diagonal, four.diagonal, two.diagonal⟩

/-- Each lane takes in the two lanes after it. -/
def chi (s : Lanes) : Lanes := s.map fun r => Row.xor r (r.next.zipWith (~~~· &&& ·) r.next.next)

/-- The first lane takes in the constant of the round. -/
def iota (k : UInt64) (s : Lanes) : Lanes := { s with a := { s.a with a := s.a.a ^^^ k } }

/-- One round. -/
def round (s : Lanes) (k : UInt64) : Lanes := iota k (chi (pi (rho (theta s))))

/-- **The permutation of the state**: twenty-four rounds. -/
def permute (s : Lanes) : Lanes := roundConstants.foldl round s

/-- The number of octets that one block holds. -/
def rate : Nat := 136

/-- The octets with the padding that makes them whole blocks. -/
def pad (bs : Octets) : Octets :=
  let free := rate - bs.length % rate
  if free = 1 then bs ++ [0x81] else bs ++ 0x01 :: (List.replicate (free - 2) 0 ++ [0x80])

/-- The lane of eight octets, least significant first. -/
def laneOf (bs : Octets) : UInt64 := bs.foldr (fun b w => w <<< 8 ||| b.toUInt64) 0

/-- The place of each lane in a block, counted in lanes. -/
def places : Five (Five Nat) := ⟨.upFrom 0, .upFrom 5, .upFrom 10, .upFrom 15, .upFrom 20⟩

/-- The state after it takes in one block.  Lanes whose place is past the end of the block stay as they are. -/
def absorb (s : Lanes) (block : Octets) : Lanes :=
  permute (s.zipWith (·.zipWith (fun w i => w ^^^ laneOf ((block.drop (8 * i)).take 8)) ·) places)

/-- The state after it takes in `n` blocks. -/
def absorbAll : Nat → Lanes → Octets → Lanes
  | 0, s, _ => s
  | n + 1, s, bs => absorbAll n (absorb s (bs.take rate)) (bs.drop rate)

/-- The octets of a lane, least significant first. -/
def octetsOf (w : UInt64) : Octets := (List.range 8).map fun i => (w >>> UInt64.ofNat (8 * i)).toUInt8

/-- **The Keccak-256 hash of an octet string.** -/
def hash (bs : Octets) : Digest where
  octets :=
    let padded := pad bs
    let first := (absorbAll (padded.length / rate) (.replicate (.replicate 0)) padded).a
    octetsOf first.a ++ octetsOf first.b ++ octetsOf first.c ++ octetsOf first.d
  length_eq := by simp [octetsOf]

end Keccak

end VestingBridge
