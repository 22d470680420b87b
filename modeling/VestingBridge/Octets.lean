import VestingBridge.Word
/-!
# Octets — numbers and octet strings

There are `count k` octet strings of length `k`, and such a string carries the same information as a number below that
count, most significant octet first.  `value` and `ofValue` are the two directions; `leftPad` puts zeros in front, which
keeps the value.
-/
namespace VestingBridge

/-- A string of octets. -/
abbrev Octets := List UInt8

namespace Octets

/-- How many octet strings of length `k` there are. -/
def count : Nat → Nat
  | 0 => 1
  | k + 1 => 256 * count k

/-- **The number that an octet string denotes**, most significant octet first. -/
def value (bs : Octets) : Nat := bs.foldl (fun n b => n * 256 + b.toNat) 0

/-- The last `k` octets of the number `n`, most significant first. -/
def ofValue : (k n : Nat) → Octets
  | 0, _ => []
  | k + 1, n => ofValue k (n / 256) ++ [UInt8.ofNat n]

/-- `bs` with zeros in front, so that there are at least `k` octets. -/
def leftPad (k : Nat) (bs : Octets) : Octets := List.replicate (k - bs.length) 0 ++ bs

@[simp] theorem length_ofValue (k n : Nat) : (ofValue k n).length = k := by
  induction k generalizing n with
  | zero => rfl
  | succ k ih => simp [ofValue, ih]

theorem length_leftPad {k : Nat} {bs : Octets} (h : bs.length ≤ k) : (leftPad k bs).length = k := by
  simp [leftPad]
  omega

@[simp] theorem leftPad_of_length_eq {k : Nat} {bs : Octets} (h : bs.length = k) : leftPad k bs = bs := by
  simp [leftPad, h]

@[simp] theorem value_nil : value [] = 0 := rfl

theorem value_concat (bs : Octets) (b : UInt8) : value (bs ++ [b]) = value bs * 256 + b.toNat := by
  simp [value]

theorem value_cons_zero (bs : Octets) : value (0 :: bs) = value bs := by
  simp [value]

@[simp] theorem value_leftPad (k : Nat) (bs : Octets) : value (leftPad k bs) = value bs := by
  unfold leftPad
  induction k - bs.length with
  | zero => rfl
  | succ n ih => rw [List.replicate_succ, List.cons_append, value_cons_zero, ih]

theorem count_le_count {j k : Nat} (h : j ≤ k) : count j ≤ count k := by
  induction h with
  | refl => exact Nat.le_refl _
  | step _ ih =>
    rw [count]
    omega

/-- **An octet string denotes a number below the count of its length.** -/
theorem value_lt (bs : Octets) : value bs < count bs.length := by
  suffices h : ∀ (cs : Octets) (n : Nat),
      cs.foldl (fun n b => n * 256 + b.toNat) n < (n + 1) * count cs.length by
    simpa [value] using h bs 0
  intro cs
  induction cs with
  | nil => intro n; simp [count]
  | cons c cs ih =>
    intro n
    have hc : c.toNat < 256 := c.toNat_lt
    refine Nat.lt_of_lt_of_le (ih _) ?_
    rw [List.length_cons, count, ← Nat.mul_assoc]
    exact Nat.mul_le_mul_right _ (show n * 256 + c.toNat + 1 ≤ (n + 1) * 256 by omega)

/-- **A number that fits is the value of its octets.** -/
theorem value_ofValue {k n : Nat} (h : n < count k) : value (ofValue k n) = n := by
  induction k generalizing n with
  | zero =>
    rw [count] at h
    rw [show n = 0 by omega]
    rfl
  | succ k ih =>
    rw [count] at h
    rw [ofValue, value_concat, ih (Nat.div_lt_of_lt_mul h), UInt8.toNat_ofNat']
    omega

/-- **The octets of their own number are the octets.** -/
theorem ofValue_value (bs : Octets) : ofValue bs.length (value bs) = bs := by
  obtain ⟨k, hk⟩ : ∃ k, bs.length = k := ⟨_, rfl⟩
  induction k generalizing bs with
  | zero => rw [List.length_eq_zero_iff.1 hk]; rfl
  | succ k ih =>
    obtain ⟨cs, c, rfl⟩ := List.eq_nil_or_concat bs |>.resolve_left (by rintro rfl; cases hk)
    have hc := c.toNat_lt
    have hcs : cs.length = k := by simpa using hk
    have hhigh : (value cs * 256 + c.toNat) / 256 = value cs := by omega
    have hlow : UInt8.ofNat (value cs * 256 + c.toNat) = c := by
      rw [← UInt8.toNat_inj, UInt8.toNat_ofNat']
      omega
    rw [hk, ofValue, List.concat_eq_append, value_concat, hhigh, hlow, ← hcs, ih cs hcs]

/-- Octets are known by their count and their number. -/
theorem eq_of_value {bs cs : Octets} (hlength : bs.length = cs.length) (h : bs.value = cs.value) : bs = cs := by
  rw [← ofValue_value bs, hlength, h, ofValue_value]

end Octets

namespace Word

/-- The `k` octets of a word of that width. -/
def octets (k : Nat) (w : Word (Octets.count k)) : Octets := Octets.ofValue k w.val

/-- The word that at most `k` octets denote. -/
def ofOctets (k : Nat) (bs : Octets) (h : bs.length ≤ k) : Word (Octets.count k) :=
  ⟨bs.value, Nat.lt_of_lt_of_le bs.value_lt (Octets.count_le_count h)⟩

@[simp] theorem length_octets (k : Nat) (w : Word (Octets.count k)) : (octets k w).length = k :=
  Octets.length_ofValue _ _

theorem ofOctets_octets (k : Nat) (w : Word (Octets.count k)) (h : (octets k w).length ≤ k) :
    ofOctets k (octets k w) h = w :=
  Fin.ext (Octets.value_ofValue w.isLt)

theorem octets_ofOctets {k : Nat} {bs : Octets} (h : bs.length ≤ k) (hlength : bs.length = k) :
    octets k (ofOctets k bs h) = bs := by
  subst hlength
  exact Octets.ofValue_value bs

end Word

end VestingBridge
