import VestingBridge.Proofs.WireAddress
/-!
# Proofs.Spelling — which octets and texts denote an address

An address is a number below the count of strings of thirty-two octets, and is known by that number (`ext_number`).
It is denoted by octets that need only zeros in front, and by a text that is nothing but a mark and digits once it is
trimmed (`ofOctets_eq_ok_iff`, `ofHex_eq_ok_iff`).  The number of a row of digits is read off its characters, whatever
octets they are written in.
-/
namespace VestingBridge

namespace Text.Hex

/-- The hexadecimal digits in the order of their values.  A capital letter counts as the small one. -/
def digits : List Char := "0123456789abcdef".toList

abbrev IsDigit (c : Char) : Prop := c.toLower ∈ digits

def digitValue (c : Char) : Nat := digits.idxOf c.toLower

/-- **The number that a row of digits denotes**, most significant digit first. -/
def number (cs : List Char) : Nat := cs.foldl (fun n c => n * 16 + digitValue c) 0

theorem ascii_octets : ∀ n < 128, (String.utf8EncodeChar (Char.ofNat n)).map digitValue? =
    [if IsDigit (Char.ofNat n) then some (digitValue (Char.ofNat n)) else none] := by
  decide

theorem digitValue?_of_high {b : UInt8} (h : 128 ≤ b.toNat) : digitValue? b = none := by
  unfold digitValue?
  simp only [UInt8.le_iff_toNat_le, UInt8.reduceToNat]
  rw [if_neg (by omega), if_neg (by omega), if_neg (by omega)]

/-- A character beyond ASCII is written in octets none of which is a digit, and is none itself. -/
theorem beyond_ascii {c : Char} (h : 128 ≤ c.val.toNat) :
    ¬IsDigit c ∧ ∃ b ∈ String.utf8EncodeChar c, digitValue? b = none := by
  constructor
  · have hlower : c.toLower = c := by
      unfold Char.toLower
      rw [dif_neg]
      rintro ⟨-, hle⟩
      have : c.val.toNat ≤ 90 := hle
      omega
    have hsmall : ∀ d ∈ digits, d.val.toNat < 128 := by
      have hall : digits.all (fun d => decide (d.val.toNat < 128)) = true := by decide
      simpa using hall
    intro hdigit
    rw [IsDigit, hlower] at hdigit
    exact absurd (hsmall c hdigit) (by omega)
  · unfold String.utf8EncodeChar
    dsimp only
    rw [if_neg (by omega)]
    split
    · exact ⟨_, List.mem_cons_self .., digitValue?_of_high (by rw [UInt8.toNat_ofNat']; omega)⟩
    · split
      · exact ⟨_, List.mem_cons_self .., digitValue?_of_high (by rw [UInt8.toNat_ofNat']; omega)⟩
      · exact ⟨_, List.mem_cons_self .., digitValue?_of_high (by rw [UInt8.toNat_ofNat']; omega)⟩

/-- **A digit is one octet of the same value, and no other character is written in octets that are all digits.** -/
theorem octets_of_char (c : Char) :
    (IsDigit c ∧ ∃ b, String.utf8EncodeChar c = [b] ∧ digitValue? b = some (digitValue c)) ∨
    (¬IsDigit c ∧ ∃ b ∈ String.utf8EncodeChar c, digitValue? b = none) := by
  by_cases hascii : c.val.toNat < 128
  · have hc : Char.ofNat c.val.toNat = c := Char.ofNat_toNat c
    have hoctets := ascii_octets _ hascii
    rw [hc] at hoctets
    obtain ⟨b, hb, hvalue⟩ := List.map_eq_singleton_iff.1 hoctets
    by_cases hdigit : IsDigit c
    · rw [if_pos hdigit] at hvalue
      exact .inl ⟨hdigit, b, hb, hvalue⟩
    · rw [if_neg hdigit] at hvalue
      exact .inr ⟨hdigit, b, by simp [hb], hvalue⟩
  · exact .inr (beyond_ascii (by omega))

/-- The number of a row of octets that are digits. -/
def octetNumber (n : Nat) (ds : Octets) : Nat := ds.foldl (fun n d => n * 16 + (digitValue? d).getD 0) n

theorem decodeFrom_ok : ∀ {ds bs : Octets} {position : Nat}, ds.length % 2 = 0 → decodeFrom position ds = .ok bs →
    (∀ d ∈ ds, digitValue? d ≠ none) ∧ ds.length = 2 * bs.length ∧
      ∀ n, bs.foldl (fun n b => n * 256 + b.toNat) n = octetNumber n ds
  | [], bs, _, _, h => by
    cases h
    exact ⟨nofun, rfl, fun _ => rfl⟩
  | [_], _, _, heven, _ => by simp at heven
  | high :: low :: rest, bs, position, heven, h => by
    have hlt : ∀ {d v}, digitValue? d = some v → v < 16 := by
      intro d v hd
      simp only [digitValue?, UInt8.le_iff_toNat_le] at hd
      grind
    simp only [decodeFrom, digitAt] at h
    cases hhigh : digitValue? high with
    | none => rw [hhigh] at h; cases h
    | some a =>
      cases hlow : digitValue? low with
      | none => rw [hhigh, hlow] at h; cases h
      | some b =>
        cases hrest : decodeFrom (position + 2) rest with
        | error e => rw [hhigh, hlow, hrest] at h; cases h
        | ok cs =>
          rw [hhigh, hlow, hrest] at h
          cases h
          have ha := hlt hhigh
          have hb := hlt hlow
          obtain ⟨hdigits, hlength, hvalue⟩ := decodeFrom_ok (by simp only [List.length_cons] at heven; omega) hrest
          refine ⟨by simpa [hhigh, hlow] using hdigits, by simp [hlength]; omega, fun n => ?_⟩
          rw [List.foldl_cons, hvalue, octetNumber, octetNumber, List.foldl_cons, List.foldl_cons, hhigh, hlow,
            UInt8.toNat_ofNat', Option.getD_some, Option.getD_some]
          congr 1
          omega

theorem decodeFrom_of_digits : ∀ {ds : Octets} (position : Nat), (∀ d ∈ ds, digitValue? d ≠ none) →
    ∃ bs, decodeFrom position ds = .ok bs
  | [], _, _ | [_], _, _ => ⟨[], rfl⟩
  | high :: low :: rest, position, h => by
    obtain ⟨a, ha⟩ := Option.ne_none_iff_exists'.1 (h high (by simp))
    obtain ⟨b, hb⟩ := Option.ne_none_iff_exists'.1 (h low (by simp))
    obtain ⟨bs, hbs⟩ := decodeFrom_of_digits (position + 2) fun d (hd : d ∈ rest) => h d (by simp [hd])
    refine ⟨UInt8.ofNat (a * 16 + b) :: bs, ?_⟩
    simp only [decodeFrom, digitAt, ha, hb, hbs]
    rfl

theorem octets_of_digits {cs : List Char} (h : ∀ c ∈ cs, IsDigit c) :
    (∀ d ∈ cs.flatMap String.utf8EncodeChar, digitValue? d ≠ none) ∧
    (cs.flatMap String.utf8EncodeChar).length = cs.length ∧
      ∀ n, octetNumber n (cs.flatMap String.utf8EncodeChar) = cs.foldl (fun n c => n * 16 + digitValue c) n := by
  induction cs with
  | nil => exact ⟨nofun, rfl, fun _ => rfl⟩
  | cons c cs ih =>
    obtain ⟨hdigits, hlength, hnumber⟩ := ih fun d hd => h d (by simp [hd])
    obtain ⟨-, b, hb, hvalue⟩ := (octets_of_char c).resolve_right fun hno => hno.1 (h c (by simp))
    rw [List.flatMap_cons, hb, List.singleton_append]
    refine ⟨by simpa [hvalue] using hdigits, by simp [hlength], fun n => ?_⟩
    rw [octetNumber, List.foldl_cons, List.foldl_cons, hvalue, Option.getD_some]
    exact hnumber _

theorem digits_of_octets {cs : List Char} (h : ∀ d ∈ cs.flatMap String.utf8EncodeChar, digitValue? d ≠ none) :
    ∀ c ∈ cs, IsDigit c := by
  intro c hc
  refine ((octets_of_char c).resolve_right ?_).1
  rintro ⟨-, b, hb, hnone⟩
  exact h b (List.mem_flatMap.2 ⟨c, hc, hb⟩) hnone

/-- **A numeral of an address**: one to sixty-four digits. -/
structure IsNumeral (cs : List Char) : Prop where
  nonempty : 1 ≤ cs.length
  short : cs.length ≤ 64
  digit : ∀ c ∈ cs, IsDigit c

end Text.Hex

namespace WireAddress

variable {a b : WireAddress} {text : String} {bs : Octets}

/-- **The number that an address is.** -/
def number (a : WireAddress) : Nat := a.octets.value

theorem ext_number (h : a.number = b.number) : a = b :=
  ext_octets (Octets.eq_of_value (a.length_eq.trans b.length_eq.symm) h)

/-- **The octets denote the address**: with zeros in front they are its octets. -/
def IsPadded (bs : Octets) (a : WireAddress) : Prop :=
  1 ≤ bs.length ∧ bs.length ≤ 32 ∧ a.octets = List.replicate (32 - bs.length) 0 ++ bs

/-- What may stand in front of the digits. -/
def marks : List (List Char) := [[], ['0', 'x'], ['0', 'X']]

/-- **The text spells the number**: what is left of it without the blanks around it is at most one mark and then a
numeral. -/
def Spells (text : String) (n : Nat) : Prop :=
  ∃ mark ∈ marks, ∃ digits, (Text.trim text).toList = mark ++ digits ∧ Text.Hex.IsNumeral digits ∧
    Text.Hex.number digits = n

theorem ofOctets_eq_ok_iff : ofOctets bs = .ok a ↔ IsPadded bs a := by
  unfold ofOctets IsPadded
  by_cases hempty : bs = []
  · simp [hempty]
  · by_cases hshort : bs.length ≤ 32
    · have hpositive : 1 ≤ bs.length := List.length_pos_iff.2 hempty
      rw [if_neg hempty, dif_pos hshort, Except.ok.injEq]
      exact ⟨fun h => ⟨hpositive, hshort, h ▸ rfl⟩, fun h => ext_octets h.2.2.symm⟩
    · simp [hempty, hshort]

theorem number_of_isPadded (h : IsPadded bs a) : a.number = bs.value := by
  rw [number, h.2.2]
  exact Octets.value_leftPad 32 bs

theorem exists_isPadded (hpositive : 1 ≤ bs.length) (hshort : bs.length ≤ 32) : ∃ a, IsPadded bs a :=
  ⟨⟨bs.leftPad 32, Octets.length_leftPad hshort⟩, hpositive, hshort, rfl⟩

theorem dropMark_eq (cs : List Char) : ∃ mark ∈ marks, cs = mark ++ dropMark cs := by
  unfold dropMark marks
  split <;> simp

theorem dropMark_of_isNumeral {mark ds : List Char} (hmark : mark ∈ marks)
    (h : Text.Hex.IsNumeral ds) : dropMark (mark ++ ds) = ds := by
  simp only [marks, List.mem_cons, List.not_mem_nil, or_false] at hmark
  obtain rfl | rfl | rfl := hmark
  · -- the second character of a numeral is a digit, so no mark
    rw [List.nil_append]
    unfold dropMark
    split
    · exact absurd (h.digit 'x' (by simp)) (by decide)
    · exact absurd (h.digit 'X' (by simp)) (by decide)
    · rfl
  · rfl
  · rfl

theorem length_evenDigits (ds : Octets) : (evenDigits ds).length = ds.length + ds.length % 2 := by
  unfold evenDigits
  split
  · rw [List.length_cons]
    omega
  · omega

theorem octetNumber_evenDigits (ds : Octets) : Text.Hex.octetNumber 0 (evenDigits ds) = Text.Hex.octetNumber 0 ds := by
  unfold evenDigits
  split
  · rfl
  · rfl

theorem mem_evenDigits {ds : Octets} {d : UInt8} (h : d ∈ evenDigits ds) : d = 0x30 ∨ d ∈ ds := by
  unfold evenDigits at h
  split at h
  · exact List.mem_cons.1 h
  · exact .inr h

theorem mem_evenDigits_of_mem {ds : Octets} {d : UInt8} (h : d ∈ ds) : d ∈ evenDigits ds := by
  unfold evenDigits
  split
  · exact List.mem_cons_of_mem _ h
  · exact h

/-- **Characters that are read as octets are digits, and the octets are their number.** -/
theorem decode_evenDigits_ok {cs : List Char}
    (h : Text.Hex.decode (evenDigits (cs.flatMap String.utf8EncodeChar)) = .ok bs) :
    (∀ c ∈ cs, Text.Hex.IsDigit c) ∧ 2 * bs.length = cs.length + cs.length % 2 ∧ bs.value = Text.Hex.number cs := by
  have heven := length_evenDigits (cs.flatMap String.utf8EncodeChar)
  obtain ⟨hdigits, hcount, hvalue⟩ := Text.Hex.decodeFrom_ok (by rw [heven]; omega) h
  have hall := Text.Hex.digits_of_octets fun d hd => hdigits d (mem_evenDigits_of_mem hd)
  obtain ⟨-, hlength, hnumber⟩ := Text.Hex.octets_of_digits hall
  refine ⟨hall, by rw [← hcount, heven, hlength], ?_⟩
  rw [Octets.value, hvalue, octetNumber_evenDigits, hnumber]
  rfl

theorem exists_decode_evenDigits {cs : List Char} (h : ∀ c ∈ cs, Text.Hex.IsDigit c) :
    ∃ bs, Text.Hex.decode (evenDigits (cs.flatMap String.utf8EncodeChar)) = .ok bs := by
  obtain ⟨hdigits, -⟩ := Text.Hex.octets_of_digits h
  refine Text.Hex.decodeFrom_of_digits 0 fun d hd => ?_
  rcases mem_evenDigits hd with rfl | hd
  · decide
  · exact hdigits d hd

theorem digits_eq (text : String) :
    digits text = (dropMark (Text.trim text).toList).flatMap String.utf8EncodeChar := by
  rw [digits, Text.Utf8.encode, String.toList_ofList, Text.toList_trim]

theorem spells_of_ofHex (h : ofHex text = .ok a) : Spells text a.number := by
  simp only [ofHex, digits_eq] at h
  split at h
  · cases h
  rename_i hne
  split at h
  · cases h
  rename_i hshort
  split at h
  · cases h
  rename_i bs hdecode
  obtain ⟨hall, -, hvalue⟩ := decode_evenDigits_ok hdecode
  obtain ⟨-, hlength, -⟩ := Text.Hex.octets_of_digits hall
  have hpositive := List.length_pos_iff.2 hne
  obtain ⟨mark, hmark, heq⟩ := dropMark_eq (Text.trim text).toList
  refine ⟨mark, hmark, dropMark (Text.trim text).toList, heq, ⟨by omega, by omega, hall⟩, ?_⟩
  rw [number_of_isPadded (ofOctets_eq_ok_iff.1 h), hvalue]

/-- **Every spelling is that of an address.** -/
theorem exists_ofHex {n : Nat} (h : Spells text n) : ∃ a, ofHex text = .ok a ∧ a.number = n := by
  obtain ⟨mark, hmark, ds, heq, hds, rfl⟩ := h
  obtain ⟨-, hlength, -⟩ := Text.Hex.octets_of_digits hds.digit
  have hpositive := hds.nonempty
  have hshort := hds.short
  obtain ⟨bs, hdecode⟩ := exists_decode_evenDigits hds.digit
  obtain ⟨-, hcount, hvalue⟩ := decode_evenDigits_ok hdecode
  obtain ⟨a, hpadded⟩ : ∃ a, IsPadded bs a := exists_isPadded (by omega) (by omega)
  have hne : ds.flatMap String.utf8EncodeChar ≠ [] := List.length_pos_iff.1 (by omega)
  refine ⟨a, ?_, (number_of_isPadded hpadded).trans hvalue⟩
  simp only [ofHex, digits_eq, heq, dropMark_of_isNumeral hmark hds]
  rw [if_neg hne, if_neg (by omega), hdecode]
  exact ofOctets_eq_ok_iff.2 hpadded

/-- **A text denotes the address whose number it spells, and no other text denotes one.** -/
theorem ofHex_eq_ok_iff : ofHex text = .ok a ↔ Spells text a.number := by
  refine ⟨spells_of_ofHex, fun h => ?_⟩
  obtain ⟨b, hb, hnumber⟩ := exists_ofHex h
  rw [hb, ext_number hnumber]

end WireAddress

end VestingBridge
