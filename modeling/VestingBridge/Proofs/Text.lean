import VestingBridge.Text.Base64
import VestingBridge.Text.Blank
import VestingBridge.Text.Decimal
import VestingBridge.Text.Hex
import VestingBridge.Text.Utf8
/-!
# Proofs.Text — octets that are written and read back

What is written in UTF-8, in base ten, in base 64 or in hexadecimal digits is read back as it was (`decode?_encode`,
`decode_encode`).  A text without blank characters is trimmed to itself, and so is what was trimmed.
-/
namespace VestingBridge.Text

theorem dropWhile_isBlank_of_head {cs : List Char} (h : ∀ c ∈ cs.head?, isBlank c = false) :
    cs.dropWhile isBlank = cs := by
  cases cs with
  | nil => rfl
  | cons c cs => rw [List.dropWhile_cons_of_neg (by simp [h c rfl])]

theorem trimChars_of_noBlank {cs : List Char} (h : ∀ c ∈ cs, isBlank c = false) : trimChars cs = cs := by
  have hfront := dropWhile_isBlank_of_head fun c hc => h c (List.mem_of_head? hc)
  have hback := dropWhile_isBlank_of_head fun c hc => h c (List.mem_reverse.1 (List.mem_of_head? hc))
  rw [trimChars, hfront, hback, List.reverse_reverse]

theorem isBlank_head_dropWhile (cs : List Char) : ∀ c ∈ (cs.dropWhile isBlank).head?, isBlank c = false := by
  intro c hc
  have h := List.head?_dropWhile_not isBlank cs
  rw [hc] at h
  simpa using h

/-- What is trimmed stays as it is. -/
theorem trimChars_trimChars (cs : List Char) : trimChars (trimChars cs) = trimChars cs := by
  have hback := dropWhile_isBlank_of_head (isBlank_head_dropWhile (cs.dropWhile isBlank).reverse)
  have hprefix : trimChars cs <+: cs.dropWhile isBlank := by
    rw [← List.reverse_suffix, trimChars, List.reverse_reverse]
    exact List.dropWhile_suffix isBlank
  -- the first character is the first of `cs.dropWhile isBlank`, if there is one
  have hfront : (trimChars cs).dropWhile isBlank = trimChars cs := by
    refine dropWhile_isBlank_of_head fun c hc => isBlank_head_dropWhile cs c ?_
    obtain ⟨rest, hrest⟩ := hprefix
    rw [← hrest, List.head?_append, hc]
    rfl
  rw [trimChars, hfront, trimChars, List.reverse_reverse, hback]

namespace Utf8

variable {bs : Octets} {missing value : Nat} {low high : UInt8}

theorem toNat_ofNat_of_lt {n : Nat} (h : n < 256) : (UInt8.ofNat n).toNat = n := by
  rw [UInt8.toNat_ofNat', Nat.mod_eq_of_lt h]

/-- The first of `k` octets, for each of the ranges that a reader tells apart. -/
theorem lead_ofNat {n : Nat} (hn : n < 256) : lead (UInt8.ofNat n) =
    if n < 0x80 then (some (some (Char.ofNat n)), .between)
    else if n < 0xC2 then (some none, .between)
    else if n < 0xE0 then (none, .inside 1 0x80 0xBF (n - 0xC0))
    else if n = 0xE0 then (none, .inside 2 0xA0 0xBF 0)
    else if n = 0xED then (none, .inside 2 0x80 0x9F 0xD)
    else if n < 0xF0 then (none, .inside 2 0x80 0xBF (n - 0xE0))
    else if n = 0xF0 then (none, .inside 3 0x90 0xBF 0)
    else if n < 0xF4 then (none, .inside 3 0x80 0xBF (n - 0xF0))
    else if n = 0xF4 then (none, .inside 3 0x80 0x8F 4)
    else (some none, .between) := by
  simp only [lead, UInt8.lt_iff_toNat_lt, ← UInt8.toNat_inj, toNat_ofNat_of_lt hn]
  rfl

theorem scanFrom_inside {n : Nat} (hn : n < 256) (hlow : low.toNat ≤ n) (hhigh : n ≤ high.toNat) :
    scanFrom (.inside missing low high value) (UInt8.ofNat n :: bs) =
      if missing ≤ 1 then some (Char.ofNat (value * 64 + (n - 0x80))) :: scanFrom .between bs
      else scanFrom (.inside (missing - 1) 0x80 0xBF (value * 64 + (n - 0x80))) bs := by
  rw [scanFrom, if_pos, toNat_ofNat_of_lt hn]
  rw [UInt8.le_iff_toNat_le, UInt8.le_iff_toNat_le, toNat_ofNat_of_lt hn]
  exact ⟨hlow, hhigh⟩

/-- An octet that begins a character of several. -/
theorem scanFrom_lead {n k v : Nat} {l h : UInt8} (hlead : lead (UInt8.ofNat n) = (none, .inside k l h v)) :
    scanFrom .between (UInt8.ofNat n :: bs) = scanFrom (.inside k l h v) bs := by
  rw [scanFrom, hlead]
  rfl

/-- The last octet of a character. -/
theorem scanFrom_last {n v : Nat} {c : Char} (hn : n < 256) (hlow : low.toNat ≤ n) (hhigh : n ≤ high.toNat)
    (hv : value * 64 + (n - 0x80) = v) (hc : Char.ofNat v = c) :
    scanFrom (.inside 1 low high value) (UInt8.ofNat n :: bs) = some c :: scanFrom .between bs := by
  rw [scanFrom_inside hn hlow hhigh, if_pos (Nat.le_refl 1), hv, hc]

/-- An octet that is followed by others of its character. -/
theorem scanFrom_next {n k v : Nat} (hn : n < 256) (hlow : low.toNat ≤ n) (hhigh : n ≤ high.toNat)
    (hv : value * 64 + (n - 0x80) = v) : scanFrom (.inside (k + 2) low high value) (UInt8.ofNat n :: bs) =
      scanFrom (.inside (k + 1) 0x80 0xBF v) bs := by
  rw [scanFrom_inside hn hlow hhigh, if_neg (by omega), hv]
  rfl

/-- The first octet of a character of two. -/
theorem lead_two {n : Nat} (htwo : 2 ≤ n) (hn : n < 32) :
    lead (UInt8.ofNat (n + 192)) = (none, .inside 1 0x80 0xBF n) := by
  rw [lead_ofNat (by omega), if_neg (by omega), if_neg (by omega), if_pos (by omega), Nat.add_sub_cancel]

/-- The first octet of a character of three.  The next one is bounded where the character would be too small, or half of
a larger one. -/
theorem lead_three {n : Nat} (hn : n < 16) : lead (UInt8.ofNat (n + 224)) =
    (none, .inside 2 (if n = 0 then 0xA0 else 0x80) (if n = 13 then 0x9F else 0xBF) n) := by
  by_cases hzero : n = 0
  · rw [hzero]
    rfl
  by_cases hhalf : n = 13
  · rw [hhalf]
    rfl
  rw [lead_ofNat (by omega), if_neg (by omega), if_neg (by omega), if_neg (by omega), if_neg (by omega),
    if_neg (by omega), if_pos (by omega), if_neg hzero, if_neg hhalf, Nat.add_sub_cancel]

/-- The first octet of a character of four.  The next one is bounded where the character would be too small, or too
large. -/
theorem lead_four {n : Nat} (hn : n ≤ 4) : lead (UInt8.ofNat (n + 240)) =
    (none, .inside 3 (if n = 0 then 0x90 else 0x80) (if n = 4 then 0x8F else 0xBF) n) := by
  by_cases hzero : n = 0
  · rw [hzero]
    rfl
  by_cases hlast : n = 4
  · rw [hlast]
    rfl
  rw [lead_ofNat (by omega), if_neg (by omega), if_neg (by omega), if_neg (by omega), if_neg (by omega),
    if_neg (by omega), if_neg (by omega), if_neg (by omega), if_pos (by omega), if_neg hzero, if_neg hlast,
    Nat.add_sub_cancel]

/-- **The octets of a character are read as the character.** -/
theorem scanFrom_utf8EncodeChar (c : Char) (bs : Octets) :
    scanFrom .between (String.utf8EncodeChar c ++ bs) = some c :: scanFrom .between bs := by
  have hvalid : c.val.toNat < 0xD800 ∨ 0xDFFF < c.val.toNat ∧ c.val.toNat < 0x110000 := c.valid
  have hchar : Char.ofNat c.val.toNat = c := Char.ofNat_toNat c
  unfold String.utf8EncodeChar
  dsimp only
  generalize c.val.toNat = v at hvalid hchar ⊢
  split
  · rw [List.cons_append, scanFrom, lead_ofNat (by omega), if_pos (by omega), hchar]
    rfl
  split
  · rw [List.cons_append, scanFrom_lead (lead_two (by omega) (by omega))]
    exact scanFrom_last (by omega) (by simp) (by simp; omega) (by omega) hchar
  split
  · rw [List.cons_append, scanFrom_lead (lead_three (by omega))]
    refine (scanFrom_next (by omega) ?_ ?_ rfl).trans (scanFrom_last (by omega) (by simp) (by simp; omega) ?_ hchar)
    · split
      · simp; omega
      · simp
    · split <;> (simp; omega)
    · omega
  · rw [List.cons_append, scanFrom_lead (lead_four (by omega))]
    refine (scanFrom_next (by omega) ?_ ?_ rfl).trans ((scanFrom_next (by omega) (by simp) (by simp; omega) rfl).trans
      (scanFrom_last (by omega) (by simp) (by simp; omega) ?_ hchar))
    · split
      · simp; omega
      · simp
    · split <;> (simp; omega)
    · omega

/-- **A text is read back from its octets.** -/
theorem decode?_encode (s : String) : decode? (encode s) = some s := by
  have hread : ∀ cs : List Char, (scanFrom .between (cs.flatMap String.utf8EncodeChar)).mapM id = some cs := by
    intro cs
    induction cs with
    | nil => rfl
    | cons c cs ih =>
      rw [List.flatMap_cons, scanFrom_utf8EncodeChar, List.mapM_cons, ih]
      rfl
  rw [decode?, encode, scan, hread, Option.map_some, String.ofList_toList]

theorem encode_inj {s t : String} (h : encode s = encode t) : s = t := by
  have hread := decode?_encode s
  rw [h, decode?_encode] at hread
  exact (Option.some.inj hread).symm

end Utf8

namespace Decimal

theorem readFrom_digits {cs : List Char} (h : ∀ c ∈ cs, c.isDigit = true) :
    ∀ n, readFrom n cs = some (Nat.ofDigitChars 10 cs n) := by
  induction cs with
  | nil => exact fun n => rfl
  | cons c cs ih =>
    intro n
    have hdigit : '0' ≤ c ∧ c ≤ '9' := by simpa [Char.isDigit, Char.le_def] using h c (List.mem_cons_self ..)
    rw [readFrom, if_pos hdigit, ih (fun d hd => h d (List.mem_cons_of_mem _ hd)), Nat.ofDigitChars_cons,
      Nat.mul_comm n]
    rfl

/-- **A count is read back from its digits.** -/
theorem decode?_encode (n : Nat) : decode? (encode n) = some n := by
  have hdigits : ∀ c ∈ Nat.toDigits 10 n, c.isDigit = true := fun c hc =>
    Nat.isDigit_of_mem_toDigits (by decide) (by decide) hc
  have hread := readFrom_digits hdigits 0
  rw [Nat.ofDigitChars_toDigits (by decide) (by decide)] at hread
  rw [decode?, encode, String.toList_ofList]
  cases hcs : Nat.toDigits 10 n with
  | nil => exact absurd hcs Nat.toDigits_ne_nil
  | cons c cs =>
    rw [hcs] at hread hdigits
    split
    · rename_i heq
      cases heq
      cases hdigits '+' (List.mem_cons_self ..)
    · exact hread

end Decimal

namespace Base64

/-- The sextets of octets, four for each three. -/
def sextets : Octets → List Nat
  | a :: b :: c :: rest =>
    let n := (a.toNat * 256 + b.toNat) * 256 + c.toNat
    n / 262144 :: n / 4096 % 64 :: n / 64 % 64 :: n % 64 :: sextets rest
  | [a, b] =>
    let n := (a.toNat * 256 + b.toNat) * 4
    [n / 4096, n / 64 % 64, n % 64]
  | [a] =>
    let n := a.toNat * 16
    [n / 64, n % 64]
  | [] => []

/-- The number of padding characters after them. -/
def padding : Octets → Nat
  | _ :: _ :: _ :: rest => padding rest
  | [_, _] => 1
  | [_] => 2
  | [] => 0

theorem encodeChars_eq : ∀ bs, encodeChars bs = (sextets bs).map letter ++ List.replicate (padding bs) '='
  | a :: b :: c :: rest => by
    simp only [encodeChars, sextets, padding, List.map_cons, List.cons_append]
    rw [encodeChars_eq rest]
  | [_, _] | [_] | [] => rfl

theorem sextets_lt : ∀ bs, ∀ n ∈ sextets bs, n < 64
  | a :: b :: c :: rest, n, h => by
    have := a.toNat_lt
    have := b.toNat_lt
    have := c.toNat_lt
    simp only [sextets, List.mem_cons] at h
    rcases h with rfl | rfl | rfl | rfl | h
    · omega
    · omega
    · omega
    · omega
    · exact sextets_lt rest n h
  | [a, b], n, h => by
    have := a.toNat_lt
    have := b.toNat_lt
    simp only [sextets, List.mem_cons, List.not_mem_nil, or_false] at h
    omega
  | [a], n, h => by
    have := a.toNat_lt
    simp only [sextets, List.mem_cons, List.not_mem_nil, or_false] at h
    omega

theorem ofNat_eq {n : Nat} {b : UInt8} (h : n % 256 = b.toNat) : UInt8.ofNat n = b := by
  rw [← UInt8.toNat_inj, UInt8.toNat_ofNat', h]

theorem joinSextets_sextets : ∀ bs, joinSextets (sextets bs) = some (bs, padding bs)
  | a :: b :: c :: rest => by
    have ha := a.toNat_lt
    have hb := b.toNat_lt
    have hc := c.toNat_lt
    simp only [sextets, joinSextets, padding, joinSextets_sextets rest, Option.bind_eq_bind, Option.bind_some,
      Option.pure_def, Option.some.injEq, Prod.mk.injEq, and_true]
    rw [ofNat_eq (b := a) (by omega), ofNat_eq (b := b) (by omega), ofNat_eq (b := c) (by omega)]
  | [a, b] => by
    have ha := a.toNat_lt
    have hb := b.toNat_lt
    simp only [sextets, joinSextets, padding]
    rw [if_pos (by omega), ofNat_eq (b := a) (by omega), ofNat_eq (b := b) (by omega)]
  | [a] => by
    have ha := a.toNat_lt
    simp only [sextets, joinSextets, padding]
    rw [if_pos (by omega), ofNat_eq (b := a) (by omega)]
  | [] => rfl

theorem letter_read : ∀ n < 64, letter n ≠ '=' ∧ sextet? (letter n) = some n := by
  decide

theorem mapM_letter : ∀ ns : List Nat, (∀ n ∈ ns, n < 64) → (ns.map letter).mapM sextet? = some ns
  | [], _ => rfl
  | n :: ns, h => by
    have hn := (letter_read n (h n (List.mem_cons_self ..))).2
    have hns := mapM_letter ns fun m hm => h m (List.mem_cons_of_mem _ hm)
    rw [List.map_cons, List.mapM_cons, hn, hns]
    rfl

/-- **Octets are read back from base 64.** -/
theorem decode?_encode (bs : Octets) : decode? (encode bs) = some bs := by
  have hletters : ∀ c ∈ (sextets bs).map letter, decide (c ≠ '=') = true := by
    intro c hc
    obtain ⟨n, hn, rfl⟩ := List.mem_map.1 hc
    exact decide_eq_true (letter_read n (sextets_lt bs n hn)).1
  have hbody : (encodeChars bs).takeWhile (· ≠ '=') = (sextets bs).map letter := by
    rw [encodeChars_eq, List.takeWhile_append_of_pos hletters]
    cases padding bs <;> simp [List.replicate_succ]
  have hpadding : (encodeChars bs).dropWhile (· ≠ '=') = List.replicate (padding bs) '=' := by
    rw [encodeChars_eq, List.dropWhile_append_of_pos hletters]
    cases padding bs <;> simp [List.replicate_succ]
  simp only [decode?, encode, String.toList_ofList, hbody, hpadding, mapM_letter _ (sextets_lt bs),
    joinSextets_sextets, Option.bind_eq_bind, Option.bind_some]
  exact if_pos ⟨by simp, Nat.le_of_eq List.length_replicate⟩

end Base64

namespace Hex

theorem digit_read : ∀ n < 16, (String.utf8EncodeChar (digit n)).map digitValue? = [some n] := by
  decide

theorem digit_octet {n : Nat} (h : n < 16) : ∃ b, String.utf8EncodeChar (digit n) = [b] ∧ digitValue? b = some n := by
  obtain ⟨b, hb, hread⟩ := List.map_eq_singleton_iff.1 (digit_read n h)
  exact ⟨b, hb, hread⟩

theorem decodeFrom_digits (bs : Octets) : ∀ position, decodeFrom position
    ((bs.flatMap fun b => [digit (b.toNat / 16), digit (b.toNat % 16)]).flatMap String.utf8EncodeChar) = .ok bs := by
  induction bs with
  | nil => exact fun _ => rfl
  | cons b bs ih =>
    intro position
    have hb := b.toNat_lt
    obtain ⟨high, hhigh, hhighRead⟩ := digit_octet (n := b.toNat / 16) (by omega)
    obtain ⟨low, hlow, hlowRead⟩ := digit_octet (n := b.toNat % 16) (by omega)
    simp only [List.flatMap_cons, List.cons_append, List.nil_append, hhigh, hlow, decodeFrom, digitAt, hhighRead,
      hlowRead, ih]
    have hjoin : UInt8.ofNat (b.toNat / 16 * 16 + b.toNat % 16) = b := by
      rw [Nat.div_add_mod' b.toNat 16, UInt8.ofNat_toNat]
    exact congrArg (fun c => Except.ok (c :: bs)) hjoin

/-- **Octets are read back from hexadecimal digits.** -/
theorem decode_encode (bs : Octets) : decode (Utf8.encode (encode bs)) = .ok bs := by
  rw [decode, Utf8.encode, encode, String.toList_ofList]
  exact decodeFrom_digits bs 0

theorem digit_plain : ∀ n < 16, digit n ≠ ':' ∧ isBlank (digit n) = false := by
  decide

theorem mem_encode {bs : Octets} {c : Char} (h : c ∈ (encode bs).toList) : ∃ n < 16, c = digit n := by
  rw [encode, String.toList_ofList] at h
  obtain ⟨b, -, hc⟩ := List.mem_flatMap.1 h
  have hb := b.toNat_lt
  rcases List.mem_cons.1 hc with rfl | hc
  · exact ⟨_, by omega, rfl⟩
  · exact ⟨_, by omega, List.mem_singleton.1 hc⟩

theorem length_encode (bs : Octets) : (Utf8.encode (encode bs)).length = 2 * bs.length := by
  rw [Utf8.encode, encode, String.toList_ofList]
  induction bs with
  | nil => rfl
  | cons b bs ih =>
    have hb := b.toNat_lt
    obtain ⟨high, hhigh, -⟩ := digit_octet (n := b.toNat / 16) (by omega)
    obtain ⟨low, hlow, -⟩ := digit_octet (n := b.toNat % 16) (by omega)
    simp only [List.flatMap_cons, List.cons_append, List.nil_append, hhigh, hlow, List.length_cons, ih]
    omega

end Hex

end VestingBridge.Text
