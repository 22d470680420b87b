/-!
# Word — numbers of a fixed width

Chain ids, nonces, times and amounts are numbers that travel in a fixed number of bits.  A word is such a number
together with its bound.  Arithmetic on words never wraps: each operation answers `none` where the result has no word,
and its law says exactly when that is, in terms of the plain numbers.
-/
namespace VestingBridge

/-- **A number below `size`.** -/
abbrev Word (size : Nat) := Fin size

namespace Word

variable {size : Nat}

/-- The word of value `n`, if `n` fits. -/
def ofNat? (n : Nat) : Option (Word size) := if h : n < size then some ⟨n, h⟩ else none

/-- The word after `w`, if there is one. -/
def succ? (w : Word size) : Option (Word size) := ofNat? (w.val + 1)

/-- The sum of two words, if it fits. -/
def add? (a b : Word size) : Option (Word size) := ofNat? (a.val + b.val)

/-- The difference of two words, if it is not negative. -/
def sub? (a b : Word size) : Option (Word size) := if b.val ≤ a.val then ofNat? (a.val - b.val) else none

/-- The part `num / den` of `a`, rounded down, if `den` is not zero and the part fits.  The product is taken without a
bound. -/
def scale? {other : Nat} (a : Word size) (num den : Word other) : Option (Word size) :=
  if den.val = 0 then none else ofNat? (a.val * num.val / den.val)

/-- The difference of two words, or zero where it would be negative. -/
def monus (a b : Word size) : Word size := ⟨a.val - b.val, Nat.lt_of_le_of_lt (Nat.sub_le _ _) a.isLt⟩

theorem ofNat?_eq_some_iff {n : Nat} {w : Word size} : ofNat? n = some w ↔ w.val = n := by
  unfold ofNat?
  split
  · rw [Option.some_inj, Fin.ext_iff]
    exact eq_comm
  · have := w.isLt
    simp only [reduceCtorEq, false_iff]
    omega

theorem ofNat?_eq_none_iff {n : Nat} : (ofNat? n : Option (Word size)) = none ↔ size ≤ n := by
  unfold ofNat?
  split
  · simp only [reduceCtorEq, false_iff]
    omega
  · simp only [true_iff]
    omega

@[simp] theorem ofNat?_val (w : Word size) : ofNat? w.val = some w :=
  ofNat?_eq_some_iff.2 rfl

theorem succ?_eq_some_iff {w v : Word size} : w.succ? = some v ↔ v.val = w.val + 1 :=
  ofNat?_eq_some_iff

theorem succ?_eq_none_iff {w : Word size} : w.succ? = none ↔ w.val + 1 = size := by
  have := w.isLt
  rw [succ?, ofNat?_eq_none_iff]
  omega

theorem add?_eq_some_iff {a b c : Word size} : a.add? b = some c ↔ c.val = a.val + b.val :=
  ofNat?_eq_some_iff

theorem sub?_eq_some_iff {a b c : Word size} : a.sub? b = some c ↔ a.val = b.val + c.val := by
  unfold sub?
  split
  · rw [ofNat?_eq_some_iff]
    omega
  · simp only [reduceCtorEq, false_iff]
    omega

theorem scale?_eq_some_iff {other : Nat} {a c : Word size} {num den : Word other} :
    a.scale? num den = some c ↔ den.val ≠ 0 ∧ c.val = a.val * num.val / den.val := by
  unfold scale?
  split
  · rename_i h
    simp [h]
  · rename_i h
    rw [ofNat?_eq_some_iff]
    simp only [ne_eq, h, not_false_eq_true, true_and]

@[simp] theorem val_monus (a b : Word size) : (a.monus b).val = a.val - b.val := rfl

end Word

/-! There are words of each width that is used, so that they can be written as numerals.  These instances come before
any other and name the zero that they speak of, so that a numeral means the same wherever it stands. -/

instance (priority := 2000) neZero_sixteen : @NeZero Nat Zero.ofOfNat0 0x10000 := ⟨Nat.succ_ne_zero _⟩

instance (priority := 2000) neZero_thirtyTwo : @NeZero Nat Zero.ofOfNat0 0x100000000 := ⟨Nat.succ_ne_zero _⟩

instance (priority := 2000) neZero_sixtyFour : @NeZero Nat Zero.ofOfNat0 0x10000000000000000 := ⟨Nat.succ_ne_zero _⟩

instance (priority := 2000) neZero_hundredTwentyEight :
    @NeZero Nat Zero.ofOfNat0 0x100000000000000000000000000000000 := ⟨Nat.succ_ne_zero _⟩

/-- The number of a chain, on either side of a packet: sixteen bits. -/
abbrev ChainId := Word 0x10000

/-- The position of a packet on its path, counted from one: sixty-four bits. -/
abbrev Nonce := Word 0x10000000000000000

/-- The number under which a stream is kept: sixty-four bits. -/
abbrev StreamId := Word 0x10000000000000000

/-- A point in time, in whole seconds: sixty-four bits. -/
abbrev Seconds := Word 0x10000000000000000

/-- A quantity of some holding, in its smallest unit: a hundred and twenty-eight bits. -/
abbrev Amount := Word 0x100000000000000000000000000000000

/-- The nonce of a path that no packet has taken. -/
def Nonce.zero : Nonce := 0

/-- The number of the first stream. -/
def StreamId.zero : StreamId := 0

/-- Nothing of a holding. -/
def Amount.zero : Amount := 0

/-- The number of entries that a page is to have: thirty-two bits. -/
abbrev PageSize := Word 0x100000000

end VestingBridge
