import Mathlib.Algebra.GroupWithZero.Nat
import Mathlib.Data.List.Induction
import VestingBridge.Proofs.Spelling
/-!
# Proofs.NormalForm — one form for every address

A text and octets are two ways to put an address (`Source`), and either denotes a number or nothing.  What denotes a
number is read as the thirty-two octets of the number; what denotes none is refused, and told what is wrong with it
(`Faulty`).  So two sources are read as one address exactly if they denote one number, and what is written of an address
is read back as the address.
-/
namespace VestingBridge

namespace Octets

theorem count_eq_two_pow (k : Nat) : count k = 2 ^ (8 * k) := by
  induction k with
  | zero => rfl
  | succ k ih => rw [count, ih, Nat.mul_succ, Nat.pow_add, Nat.mul_comm]

theorem value_append (xs ys : Octets) : value (xs ++ ys) = value xs * count ys.length + value ys := by
  induction ys using List.reverseRecOn with
  | nil => simp [count, value_nil]
  | append_singleton ys y ih =>
    rw [← List.append_assoc, value_concat, value_concat, ih, List.length_append, List.length_singleton, count]
    grind

theorem value_eq_zero_iff {bs : Octets} : value bs = 0 ↔ ∀ b ∈ bs, b = 0 := by
  induction bs using List.reverseRecOn with
  | nil => simp [value_nil]
  | append_singleton bs b ih =>
    rw [value_concat, List.forall_mem_append, ← ih, List.forall_mem_singleton, ← UInt8.toNat_inj]
    simp

end Octets

namespace Text.Hex

variable {position : Nat} {d : UInt8} {ds : Octets} {bad : BadDigit}

/-- **The first octet that is no digit**, where the first of all stands at `position`. -/
def FirstBad (position : Nat) (ds : Octets) (bad : BadDigit) : Prop :=
  ∃ before after, ds = before ++ bad.octet :: after ∧ (∀ d ∈ before, digitValue? d ≠ none) ∧
    digitValue? bad.octet = none ∧ bad.position = position + before.length

theorem firstBad_nil : ¬FirstBad position [] bad := by
  rintro ⟨before, after, h, -⟩
  simp at h

theorem firstBad_cons : FirstBad position (d :: ds) bad ↔
    digitValue? d = none ∧ bad = ⟨d, position⟩ ∨ digitValue? d ≠ none ∧ FirstBad (position + 1) ds bad := by
  constructor
  · rintro ⟨before, after, heq, hgood, hbad, hposition⟩
    cases before with
    | nil =>
      cases heq
      obtain ⟨octet, place⟩ := bad
      cases hposition
      exact .inl ⟨hbad, rfl⟩
    | cons c before =>
      cases heq
      refine .inr ⟨hgood d (by simp), before, after, rfl, fun x hx => hgood x (by simp [hx]), hbad, ?_⟩
      rw [hposition, List.length_cons]
      omega
  · rintro (⟨hbad, rfl⟩ | ⟨hd, before, after, rfl, hgood, hbad, hposition⟩)
    · exact ⟨[], ds, rfl, nofun, hbad, rfl⟩
    · refine ⟨d :: before, after, rfl, by simpa [hd] using hgood, hbad, ?_⟩
      rw [hposition, List.length_cons]
      omega

/-- **Pairs of digits are not read exactly for the first octet that is no digit.** -/
theorem decodeFrom_eq_error_iff : ∀ {ds : Octets} {position : Nat}, ds.length % 2 = 0 →
    (decodeFrom position ds = .error bad ↔ FirstBad position ds bad)
  | [], _, _ => by simp [decodeFrom, firstBad_nil]
  | [_], _, heven => by simp at heven
  | high :: low :: rest, position, heven => by
    have heven' : rest.length % 2 = 0 := by
      simp only [List.length_cons] at heven
      omega
    have ih : decodeFrom (position + 2) rest = .error bad ↔ _ := decodeFrom_eq_error_iff heven'
    rw [firstBad_cons, firstBad_cons, ← ih]
    simp only [decodeFrom, digitAt]
    cases hhigh : digitValue? high with
    | none => simp [bind, Except.bind, eq_comm]
    | some a =>
      cases hlow : digitValue? low with
      | none => simp [bind, Except.bind, eq_comm]
      | some b =>
        cases hrest : decodeFrom (position + 2) rest with
        | error e => simp [bind, Except.bind]
        | ok bs => simp [bind, Except.bind, pure, Except.pure]

end Text.Hex

namespace WireAddress

variable {a b : WireAddress} {text : String} {bs : Octets} {e : AddressError} {n : Nat}

/-! ## What denotes a number -/

/-- **What an address is read from.** -/
inductive Source where
  | text (t : String)
  | octets (bs : Octets)

namespace Source

def read : Source → Except AddressError WireAddress
  | .text t => ofHex t
  | .octets bs => ofOctets bs

/-- **The number that a source denotes**, if it denotes one. -/
def Denotes : Source → Nat → Prop
  | .text t, n => Spells t n
  | .octets bs, n => 1 ≤ bs.length ∧ bs.length ≤ 32 ∧ bs.value = n

/-- **What is wrong with a source that denotes no number.** -/
inductive Faulty : Source → AddressError → Prop
  | noDigits {t : String} (none : digits t = []) : Faulty (.text t) .empty
  | tooManyDigits {t : String} (long : 64 < (digits t).length) : Faulty (.text t) (.tooManyDigits (digits t).length)
  | noDigit {t : String} {bad : Text.Hex.BadDigit} (short : (digits t).length ≤ 64)
      (first : Text.Hex.FirstBad 0 (evenDigits (digits t)) bad) : Faulty (.text t) (.notHex bad)
  | noOctets : Faulty (.octets []) .empty
  | tooManyOctets {bs : Octets} (long : 32 < bs.length) : Faulty (.octets bs) (.tooManyOctets bs.length)

end Source

theorem octets_of_number (h : a.number = n) : a.octets = Octets.ofValue 32 n := by
  rw [← h, number, ← a.length_eq, Octets.ofValue_value]

theorem ofOctets_eq_error_iff : ofOctets bs = .error e ↔ Source.Faulty (.octets bs) e := by
  constructor
  · intro h
    unfold ofOctets at h
    split at h
    · rename_i hempty
      cases h
      rw [hempty]
      exact .noOctets
    · split at h
      · cases h
      · rename_i hlong
        cases h
        exact .tooManyOctets (Nat.not_le.1 hlong)
  · intro h
    cases h with
    | noOctets => rfl
    | tooManyOctets long =>
      have hne : bs ≠ [] := by
        rintro rfl
        cases long
      rw [ofOctets, if_neg hne, dif_neg (Nat.not_le.2 long)]

theorem ofHex_eq_error_iff : ofHex text = .error e ↔ Source.Faulty (.text text) e := by
  have heven := length_evenDigits (digits text)
  have hdecode {bad} : Text.Hex.decode (evenDigits (digits text)) = .error bad ↔
      Text.Hex.FirstBad 0 (evenDigits (digits text)) bad := Text.Hex.decodeFrom_eq_error_iff (by omega)
  constructor
  · intro h
    simp only [ofHex] at h
    split at h
    · rename_i hempty
      cases h
      exact .noDigits hempty
    rename_i hne
    split at h
    · rename_i hlong
      cases h
      exact .tooManyDigits hlong
    rename_i hshort
    split at h
    · rename_i bad hbad
      cases h
      exact .noDigit (Nat.not_lt.1 hshort) (hdecode.1 hbad)
    · -- the octets that digits give are neither none nor too many
      rename_i bs hread
      obtain ⟨-, hlength, -⟩ := Text.Hex.decodeFrom_ok (by omega) hread
      have hpositive := List.length_pos_iff.2 hne
      cases ofOctets_eq_error_iff.1 h with
      | noOctets =>
        rw [List.length_nil] at hlength
        omega
      | tooManyOctets long => omega
  · intro h
    cases h with
    | noDigits none => simp only [ofHex, if_pos none]
    | tooManyDigits long =>
      have hne : digits text ≠ [] := List.length_pos_iff.1 (by omega)
      simp only [ofHex, if_neg hne, if_pos long]
    | noDigit short first =>
      have hne : digits text ≠ [] := by
        intro hempty
        rw [hempty] at first
        exact Text.Hex.firstBad_nil first
      simp only [ofHex, if_neg hne, if_neg (Nat.not_lt.2 short), hdecode.2 first]

variable {source : Source}

theorem Source.read_eq_error_iff : source.read = .error e ↔ source.Faulty e := by
  unfold read
  cases source with
  | text => exact ofHex_eq_error_iff
  | octets => exact ofOctets_eq_error_iff

/-- **What denotes a number is read as the address that is this number.** -/
theorem Source.exists_read (h : source.Denotes n) : ∃ a, source.read = .ok a ∧ a.number = n := by
  unfold read
  cases source with
  | text => exact exists_ofHex h
  | octets =>
    obtain ⟨hpositive, hshort, rfl⟩ := h
    obtain ⟨a, hpadded⟩ := exists_isPadded hpositive hshort
    exact ⟨a, ofOctets_eq_ok_iff.2 hpadded, number_of_isPadded hpadded⟩

theorem Source.read_eq_ok_iff : source.read = .ok a ↔ source.Denotes a.number := by
  constructor
  · unfold read
    cases source with
    | text => exact spells_of_ofHex
    | octets =>
      intro h
      have hpadded := ofOctets_eq_ok_iff.1 h
      exact ⟨hpadded.1, hpadded.2.1, (number_of_isPadded hpadded).symm⟩
  · intro h
    obtain ⟨b, hb, hnumber⟩ := exists_read h
    rw [hb, ext_number hnumber]

/-! ## The forty digits -/

theorem exists_toEvm?_iff : (∃ t, a.toEvm? = some t) ↔ ∀ b ∈ a.octets.take 12, b = 0 := by
  unfold toEvm?
  split
  · rename_i hzero
    simpa using hzero
  · rename_i hother
    simpa using hother

theorem length_low (a : WireAddress) : (a.octets.drop 12).length = 20 := by
  rw [List.length_drop, a.length_eq]

theorem number_lt_iff : a.number < 2 ^ 160 ↔ ∀ b ∈ a.octets.take 12, b = 0 := by
  have hcount : Octets.count 20 = 2 ^ 160 := Octets.count_eq_two_pow 20
  have hsplit := Octets.value_append (a.octets.take 12) (a.octets.drop 12)
  have hlow := Octets.value_lt (a.octets.drop 12)
  rw [List.take_append_drop, a.length_low] at hsplit
  rw [a.length_low] at hlow
  rw [← Octets.value_eq_zero_iff, ← hcount, number, hsplit]
  constructor
  · intro hlt
    by_contra hne
    have := Nat.le_mul_of_pos_left (Octets.count 20) (Nat.pos_of_ne_zero hne)
    omega
  · intro hzero
    rwa [hzero, Nat.zero_mul, Nat.zero_add]

theorem ofHex_toEvm? (h : a.toEvm? = some text) : ofHex text = .ok a := by
  have hzero := exists_toEvm?_iff.1 ⟨text, h⟩
  have htake : a.octets.take 12 = List.replicate 12 0 :=
    List.eq_replicate_iff.2 ⟨by rw [List.length_take, a.length_eq]; rfl, hzero⟩
  have hlength := a.length_low
  unfold toEvm? at h
  split at h
  · cases h
    rw [ofHex_marked (by omega)]
    refine ofOctets_eq_ok_iff.2 ⟨by omega, by omega, ?_⟩
    rw [hlength, ← htake, List.take_append_drop]
  · cases h

/-- **Every address has one form.**
* `accepted`, `form`: a source is read exactly if it denotes a number, and then as the thirty-two octets of the number.
* `refused`: what is not read is told what is wrong with it.
* `padded`: octets are read with zeros in front.
* `same`: two sources are read as one address exactly if they denote one number.
* `digits_back`, `octets_back`: an address is read back from its digits and from its octets.
* `evm`, `evm_back`: it has a form of forty digits exactly if the number fits, and is read back from that too. -/
structure OneForm : Prop where
  accepted : ∀ source : Source, (∃ a, source.read = .ok a) ↔ ∃ n, source.Denotes n
  form : ∀ (source : Source) a n, source.read = .ok a → source.Denotes n → a.octets = Octets.ofValue 32 n
  refused : ∀ (source : Source) e, source.read = .error e ↔ source.Faulty e
  padded : ∀ bs a, ofOctets bs = .ok a ↔
    1 ≤ bs.length ∧ bs.length ≤ 32 ∧ a.octets = List.replicate (32 - bs.length) 0 ++ bs
  same : ∀ (source other : Source) a b m n, source.read = .ok a → other.read = .ok b → source.Denotes m →
    other.Denotes n → (a = b ↔ m = n)
  digits_back : ∀ a, ofHex a.toHex = .ok a
  octets_back : ∀ a, ofOctets a.octets = .ok a
  evm : ∀ a, (∃ t, toEvm? a = some t) ↔ a.number < 2 ^ 160
  evm_back : ∀ a t, toEvm? a = some t → ofHex t = .ok a

theorem Source.number_eq (hread : source.read = .ok a) (h : source.Denotes n) : a.number = n := by
  obtain ⟨b, hb, hnumber⟩ := exists_read h
  cases hread.symm.trans hb
  exact hnumber

/-- **An address is one number, however it is put.** -/
theorem address_one_form : OneForm where
  accepted source := by
    constructor
    · rintro ⟨a, h⟩
      exact ⟨a.number, Source.read_eq_ok_iff.1 h⟩
    · rintro ⟨n, h⟩
      obtain ⟨a, ha, -⟩ := Source.exists_read h
      exact ⟨a, ha⟩
  form _ _ _ hread h := octets_of_number (Source.number_eq hread h)
  refused _ _ := Source.read_eq_error_iff
  padded _ _ := ofOctets_eq_ok_iff
  same source other a b m n ha hb hm hn := by
    rw [← Source.number_eq ha hm, ← Source.number_eq hb hn]
    exact ⟨congrArg number, ext_number⟩
  digits_back := ofHex_toHex
  octets_back := ofOctets_octets
  evm _ := exists_toEvm?_iff.trans number_lt_iff.symm
  evm_back _ _ := ofHex_toEvm?

example : (ofHex " 0XABC\n").toOption = (ofOctets [0x0a, 0xbc]).toOption := by decide +kernel

end WireAddress

end VestingBridge
