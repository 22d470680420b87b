import VestingBridge.Json.Document
/-!
# Proofs.Json.Token — texts of values and the words that they are cut into

What is written between the quotes of a string is read as the string, and so are the digits of a count and a numeral
that is kept as it was written.  A text is cut into the same words wherever it stands (`Reads`), if what comes after it
cannot make its last word longer; so the words of two texts with a mark between them are the words of both.
-/
namespace VestingBridge.Json

variable {c : Char} {cs rest : List Char} {tokens ws vs : List Token} {t : Token} {j : Json}

/-! ## Strings -/

theorem hexDigit?_digitChar {n : Nat} (h : n < 16) : hexDigit? (Nat.digitChar n) = some n := by
  have hdigits : ∀ d : Fin 16, hexDigit? (Nat.digitChar d.val) = some d.val := by decide
  exact hdigits ⟨n, h⟩

theorem unit?_unitDigits {n : Nat} (h : n < 0x10000) :
    unit? (Nat.digitChar (n / 4096 % 16)) (Nat.digitChar (n / 256 % 16)) (Nat.digitChar (n / 16 % 16))
      (Nat.digitChar (n % 16)) = some n := by
  have hdigit (k : Nat) : hexDigit? (Nat.digitChar (k % 16)) = some (k % 16) :=
    hexDigit?_digitChar (Nat.mod_lt k (by decide))
  simp only [unit?, hdigit, Option.pure_def, Option.bind_eq_bind, Option.bind_some, Option.some.injEq]
  omega

theorem toNat_lt_of_needsUnit (h : needsUnit c = true) : c.val.toNat < 0xD800 := by
  simp only [needsUnit, isControl, Bool.or_eq_true, decide_eq_true_eq] at h
  rcases h with ((h | rfl) | rfl) | rfl
  · exact Nat.lt_trans (UInt32.lt_iff_toNat_lt.1 h) (by decide)
  all_goals decide

theorem acceptUnit_of_lt {seen : List Char} {n : Nat} (h : n < 0xD800) :
    acceptUnit seen none n = some (Char.ofNat n :: seen, none) := by
  have htrailing : isTrailing n = false := by simp [isTrailing]; omega
  have hleading : isLeading n = false := by simp [isLeading]; omega
  rw [acceptUnit, htrailing, hleading]
  rfl

/-- A character stands for itself once it is written. -/
theorem unescape?_renderChar (seen : List Char) :
    unescape? seen none (renderChar c ++ cs) = unescape? (c :: seen) none cs := by
  unfold renderChar
  split
  · rename_i hescaped
    rcases hescaped with rfl | rfl <;> rfl
  split
  · rename_i hunit
    have hlt := toNat_lt_of_needsUnit hunit
    have hchar : Char.ofNat c.val.toNat = c := Char.ofNat_toNat c
    simp only [unitDigits, List.map_cons, List.map_nil, List.cons_append, List.nil_append, unescape?,
      unit?_unitDigits (Nat.lt_trans hlt (by decide)), Option.bind_some, acceptUnit_of_lt hlt, hchar]
  · rename_i hescaped hunit
    obtain ⟨-, hbackslash⟩ := not_or.1 hescaped
    have hcontrol : isControl c = false := by
      cases h : isControl c with
      | false => rfl
      | true => exact absurd (by simp [needsUnit, h]) hunit
    rw [List.cons_append, List.nil_append, unescape?]
    · simp [hbackslash, hcontrol]
    · exact fun _ _ _ _ _ h => absurd h hbackslash
    · exact fun _ _ h => absurd h hbackslash

theorem unescape?_flatMap (seen : List Char) :
    unescape? seen none (cs.flatMap renderChar) = some (seen.reverse ++ cs) := by
  induction cs generalizing seen with
  | nil => simp [unescape?]
  | cons c cs ih => rw [List.flatMap_cons, unescape?_renderChar, ih, List.reverse_cons, List.append_assoc]; rfl

/-- Without a backslash in it, a string is written as it is. -/
theorem flatMap_renderChar_of_plain (h : '\\' ∉ cs.flatMap renderChar) : cs.flatMap renderChar = cs := by
  induction cs with
  | nil => rfl
  | cons c cs ih =>
    rw [List.flatMap_cons, List.mem_append, not_or] at h
    rw [List.flatMap_cons, ih h.2]
    have hplain := h.1
    unfold renderChar at hplain ⊢
    split
    · rename_i hescaped
      rw [if_pos hescaped] at hplain
      exact absurd (List.mem_cons_self ..) hplain
    split
    · rename_i hescaped hunit
      rw [if_neg hescaped, if_pos hunit] at hplain
      exact absurd (List.mem_cons_self ..) hplain
    · rfl

/-- **What a string is written as is read as the string.** -/
theorem unquote?_flatMap : unquote? (cs.flatMap renderChar) = some (String.ofList cs) := by
  unfold unquote?
  split
  · rw [unescape?_flatMap]
    rfl
  · rename_i hplain
    rw [flatMap_renderChar_of_plain hplain]

/-! ## The pass over a string -/

theorem run_cons (state : Lexer) : state.run tokens (c :: cs) =
    match state.step tokens c with
    | some (tokens, next) => next.run tokens cs
    | none => none := by
  cases state <;> rfl

theorem run_text_of_plain {seen : List Char} (hquote : c ≠ '"') (hbackslash : c ≠ '\\') :
    (Lexer.text seen).run tokens (c :: cs) = (Lexer.text (c :: seen)).run tokens cs := by
  rw [run_cons, Lexer.step, if_neg hquote, if_neg hbackslash]

theorem run_text_escape {seen : List Char} :
    (Lexer.text seen).run tokens ('\\' :: c :: cs) = (Lexer.text (c :: '\\' :: seen)).run tokens cs := rfl

theorem digitChar_plain (k : Nat) : Nat.digitChar k ≠ '"' ∧ Nat.digitChar k ≠ '\\' := by
  constructor <;> simp

theorem run_text_renderChar (seen : List Char) : (Lexer.text seen).run tokens (renderChar c ++ cs) =
    (Lexer.text ((renderChar c).reverse ++ seen)).run tokens cs := by
  unfold renderChar
  split
  · exact run_text_escape
  split
  · have hdigit (k : Nat) (seen rest : List Char) : (Lexer.text seen).run tokens (Nat.digitChar k :: rest) =
        (Lexer.text (Nat.digitChar k :: seen)).run tokens rest :=
      run_text_of_plain (digitChar_plain k).1 (digitChar_plain k).2
    simp only [unitDigits, List.map_cons, List.map_nil, List.cons_append, List.nil_append, run_text_escape, hdigit]
    rfl
  · rename_i hescaped _
    obtain ⟨hquote, hbackslash⟩ := not_or.1 hescaped
    exact run_text_of_plain hquote hbackslash

theorem run_text_flatMap (seen : List Char) : (Lexer.text seen).run tokens (cs.flatMap renderChar ++ rest) =
    (Lexer.text ((cs.flatMap renderChar).reverse ++ seen)).run tokens rest := by
  induction cs generalizing seen with
  | nil => rfl
  | cons c cs ih =>
    rw [List.flatMap_cons, List.append_assoc, run_text_renderChar, ih, List.reverse_append, List.append_assoc]

/-! ## Texts and their words -/

/-- **A text is cut into words**, whatever was cut before, if what comes after cannot make its last word longer. -/
def Reads (cs : List Char) (ws : List Token) : Prop :=
  ∀ tokens rest, (∀ c ∈ rest.head?, isBare c = false) →
    Lexer.between.run tokens (cs ++ rest) = Lexer.between.run (ws.reverse ++ tokens) rest

theorem Reads.nil : Reads [] [] := fun _ _ _ => rfl

theorem reads_renderString (s : String) : Reads (renderString s).toList [.text s] := by
  intro tokens rest _
  have hstart (rest : List Char) : Lexer.between.run tokens ('"' :: rest) = (Lexer.text []).run tokens rest := rfl
  have hend (seen : List Char) : (Lexer.text seen).run tokens ('"' :: rest) =
      match unquote? seen.reverse with
      | some value => Lexer.between.run (.text value :: tokens) rest
      | none => none := by
    rw [run_cons, Lexer.step, if_pos rfl]
    cases unquote? seen.reverse <;> rfl
  have htext : (renderString s).toList ++ rest = '"' :: (s.toList.flatMap renderChar ++ '"' :: rest) := by
    simp [renderString]
  rw [htext, hstart, run_text_flatMap, hend, List.append_nil, List.reverse_reverse, unquote?_flatMap,
    String.ofList_toList]
  rfl

theorem start_of_isBare (h : isBare c = true) : Lexer.start c = some (none, .bare [c]) := by
  have hne (d : Char) (hd : isBare d = false) : c ≠ d := by
    rintro rfl
    rw [h] at hd
    cases hd
  simp [Lexer.start, h, hne ' ' rfl, hne '\t' rfl, hne '\n' rfl, hne '\r' rfl, hne '[' rfl, hne ']' rfl,
    hne '\x7b' rfl, hne '\x7d' rfl, hne ':' rfl, hne ',' rfl, hne '"' rfl]

theorem run_bare (seen : List Char) (h : ∀ c ∈ cs, isBare c = true) :
    (Lexer.bare seen).run tokens (cs ++ rest) = (Lexer.bare (cs.reverse ++ seen)).run tokens rest := by
  induction cs generalizing seen with
  | nil => rfl
  | cons c cs ih =>
    rw [List.cons_append, run_cons, Lexer.step, if_pos (h c (List.mem_cons_self ..))]
    change (Lexer.bare (c :: seen)).run tokens (cs ++ rest) = _
    rw [ih (c :: seen) fun d hd => h d (List.mem_cons_of_mem c hd), List.reverse_cons, List.append_assoc]
    rfl

theorem step_bare_of_end {seen : List Char} (hc : isBare c = false) (hj : bare? seen.reverse = some j) :
    (Lexer.bare seen).step tokens c = Lexer.between.step (.scalar j :: tokens) c := by
  simp [Lexer.step, hc, hj]

/-- A bare row of characters is a word once nothing makes it longer. -/
theorem run_bare_of_end {seen : List Char} (hrest : ∀ c ∈ rest.head?, isBare c = false)
    (hj : bare? seen.reverse = some j) :
    (Lexer.bare seen).run tokens rest = Lexer.between.run (.scalar j :: tokens) rest := by
  cases rest with
  | nil =>
    change (bare? seen.reverse).map _ = _
    rw [hj]
    rfl
  | cons c cs => rw [run_cons, run_cons, step_bare_of_end (hrest c rfl) hj]

/-- **A bare row of characters is one word.** -/
theorem reads_bare (hsome : cs ≠ []) (hbare : ∀ c ∈ cs, isBare c = true) (hj : bare? cs = some j) :
    Reads cs [.scalar j] := by
  intro tokens rest hrest
  cases cs with
  | nil => exact absurd rfl hsome
  | cons c cs =>
    rw [List.cons_append, run_cons, Lexer.step, start_of_isBare (hbare c (List.mem_cons_self ..))]
    change (Lexer.bare [c]).run tokens (cs ++ rest) = _
    rw [run_bare [c] fun d hd => hbare d (List.mem_cons_of_mem c hd), ← List.reverse_cons]
    exact run_bare_of_end hrest (by rw [List.reverse_reverse, hj])

/-- Two texts with a mark between them. -/
theorem Reads.mark {as : List Char} (hc : Lexer.start c = some (some t, .between)) (ha : Reads as ws)
    (hb : Reads cs vs) : Reads (as ++ c :: cs) (ws ++ t :: vs) := by
  intro tokens rest hrest
  have hend : ∀ d ∈ (c :: (cs ++ rest)).head?, isBare d = false := by
    rintro d ⟨⟩
    cases hbare : isBare c with
    | false => rfl
    | true => cases (start_of_isBare hbare).symm.trans hc
  rw [List.append_assoc, List.cons_append, ha tokens _ hend, run_cons, Lexer.step, hc]
  change Lexer.between.run (t :: (ws.reverse ++ tokens)) (cs ++ rest) = _
  rw [hb _ rest hrest, List.reverse_append, List.reverse_cons]
  simp only [List.append_assoc, List.cons_append, List.nil_append]

/-- A text with a mark on either side. -/
theorem Reads.enclosed {b e : Char} {u : Token} (hb : Lexer.start b = some (some t, .between))
    (he : Lexer.start e = some (some u, .between)) (h : Reads cs ws) : Reads (b :: (cs ++ [e])) (t :: (ws ++ [u])) :=
  Reads.nil.mark hb (h.mark he .nil)

/-! ## Counts -/

/-- The digits of a positive count do not begin with a zero. -/
theorem toDigits_ne_zero_cons {n : Nat} (h : 0 < n) : ∀ cs, Nat.toDigits 10 n ≠ '0' :: cs := by
  induction n using Nat.strongRecOn with
  | ind n ih =>
    intro cs hcs
    by_cases hlt : n < 10
    · rw [Nat.toDigits_of_lt_base hlt, List.cons.injEq, Nat.digitChar_eq_zero] at hcs
      exact Nat.ne_of_gt h hcs.1
    · have hle := Nat.not_lt.1 hlt
      rw [Nat.toDigits_of_base_le (by decide) hle] at hcs
      obtain ⟨hnil, -⟩ | ⟨ds, hds, -⟩ := List.append_eq_cons_iff.1 hcs
      · exact Nat.toDigits_ne_nil hnil
      · exact ih (n / 10) (Nat.div_lt_self h (by decide)) (Nat.div_pos hle (by decide)) ds hds

theorem isDigit_of_mem_toDigits {n : Nat} (h : c ∈ Nat.toDigits 10 n) : c.isDigit = true :=
  Nat.isDigit_of_mem_toDigits (by decide) (by decide) h

theorem dropDigits?_of_digits (hsome : cs ≠ []) (hdigits : ∀ c ∈ cs, c.isDigit = true) :
    dropDigits? cs = some [] := by
  cases cs with
  | nil => exact absurd rfl hsome
  | cons c cs =>
    have hnone : (cs ++ []).dropWhile Char.isDigit = [] :=
      List.dropWhile_append_of_pos fun d hd => hdigits d (List.mem_cons_of_mem c hd)
    rw [List.append_nil] at hnone
    rw [dropDigits?, if_pos (hdigits c (List.mem_cons_self ..)), hnone]

theorem dropWhole?_toDigits (n : Nat) : dropWhole? (Nat.toDigits 10 n) = some [] := by
  rcases Nat.eq_zero_or_pos n with rfl | hpos
  · rfl
  · rw [dropWhole?]
    · exact dropDigits?_of_digits Nat.toDigits_ne_nil fun c => isDigit_of_mem_toDigits
    · exact fun cs hcs => toDigits_ne_zero_cons hpos cs hcs

theorem isNumeral_toDigits (n : Nat) : isNumeral (Nat.toDigits 10 n) = true := by
  unfold isNumeral
  split
  · rename_i ds heq
    cases isDigit_of_mem_toDigits (heq ▸ List.mem_cons_self ..)
  · simp only [dropWhole?_toDigits]
    rfl

theorem digitsValue_toDigits (n : Nat) : digitsValue (Nat.toDigits 10 n) = n := by
  have hvalue : Nat.ofDigitChars 10 (Nat.toDigits 10 n) 0 = n := Nat.ofDigitChars_ten_toDigits
  rw [Nat.ofDigitChars_eq_foldl] at hvalue
  simp only [Nat.mul_comm 10] at hvalue
  exact hvalue

theorem bare?_toDigits (n : Nat) : bare? (Nat.toDigits 10 n) = some (.count n) := by
  have hword (w : List Char) (hw : ∃ c ∈ w, c.isDigit = false) : Nat.toDigits 10 n ≠ w := by
    rintro rfl
    obtain ⟨c, hc, hnone⟩ := hw
    cases (isDigit_of_mem_toDigits hc).symm.trans hnone
  have hdigits : (Nat.toDigits 10 n).all Char.isDigit = true := List.all_eq_true.2 fun c => isDigit_of_mem_toDigits
  rw [bare?, if_neg (hword _ ⟨'n', by decide, rfl⟩), if_neg (hword _ ⟨'t', by decide, rfl⟩),
    if_neg (hword _ ⟨'f', by decide, rfl⟩), if_pos (isNumeral_toDigits n), if_pos hdigits, digitsValue_toDigits]

theorem isBare_of_isDigit (h : c.isDigit = true) : isBare c = true := by
  simp [isBare, Char.isAlphanum, h]

theorem reads_count (n : Nat) : Reads (render (.count n)).toList [.scalar (.count n)] := by
  rw [render, String.toList_ofList]
  exact reads_bare Nat.toDigits_ne_nil (fun c hc => isBare_of_isDigit (isDigit_of_mem_toDigits hc)) (bare?_toDigits n)

/-! ## Numerals -/

/-- Some bare characters are dropped from the front. -/
def Drops (cs rest : List Char) : Prop := ∃ front, cs = front ++ rest ∧ ∀ c ∈ front, isBare c = true

theorem Drops.refl : Drops cs cs := ⟨[], rfl, nofun⟩

theorem Drops.cons (hc : isBare c = true) (h : Drops cs rest) : Drops (c :: cs) rest := by
  obtain ⟨front, rfl, hfront⟩ := h
  refine ⟨c :: front, rfl, fun d hd => ?_⟩
  rcases List.mem_cons.1 hd with rfl | hd
  · exact hc
  · exact hfront d hd

theorem Drops.trans {ds : List Char} (h : Drops cs ds) (h' : Drops ds rest) : Drops cs rest := by
  obtain ⟨front, rfl, hfront⟩ := h
  obtain ⟨middle, rfl, hmiddle⟩ := h'
  refine ⟨front ++ middle, (List.append_assoc ..).symm, fun d hd => ?_⟩
  rcases List.mem_append.1 hd with hd | hd
  · exact hfront d hd
  · exact hmiddle d hd

theorem drops_dropDigits? (h : dropDigits? cs = some rest) : Drops cs rest := by
  cases cs with
  | nil => cases h
  | cons c cs =>
    rw [dropDigits?] at h
    split at h
    · rename_i hc
      cases h
      refine .cons (isBare_of_isDigit hc) ⟨cs.takeWhile Char.isDigit, List.takeWhile_append_dropWhile.symm, ?_⟩
      exact fun d hd => isBare_of_isDigit (List.all_eq_true.1 List.all_takeWhile d hd)
    · cases h

theorem drops_dropWhole? (h : dropWhole? cs = some rest) : Drops cs rest := by
  unfold dropWhole? at h
  split at h
  · cases h
    exact .cons rfl .refl
  · exact drops_dropDigits? h

theorem drops_dropFraction? (h : dropFraction? cs = some rest) : Drops cs rest := by
  unfold dropFraction? at h
  split at h
  · exact .cons rfl (drops_dropDigits? h)
  · cases h
    exact .refl

theorem drops_dropExponent? (h : dropExponent? cs = some rest) : Drops cs rest := by
  cases cs with
  | nil =>
    cases h
    exact .refl
  | cons c cs =>
    unfold dropExponent? at h
    dsimp only at h
    split at h
    · rename_i hmark
      have hc : isBare c = true := by rcases hmark with rfl | rfl <;> rfl
      cases cs with
      | nil => cases h
      | cons s ds =>
        dsimp only at h
        split at h
        · rename_i hsign
          have hs : isBare s = true := by rcases hsign with rfl | rfl <;> rfl
          exact .cons hc (.cons hs (drops_dropDigits? h))
        · exact .cons hc (drops_dropDigits? h)
    · cases h
      exact .refl

theorem isBare_of_isNumeral (h : isNumeral cs = true) : ∀ c ∈ cs, isBare c = true := by
  have hunsigned {ds : List Char}
      (h : (do dropExponent? (← dropFraction? (← dropWhole? ds))) = some []) : Drops ds [] := by
    obtain ⟨whole, hwhole, h⟩ := Option.bind_eq_some_iff.1 h
    obtain ⟨fraction, hfraction, h⟩ := Option.bind_eq_some_iff.1 h
    exact (drops_dropWhole? hwhole).trans ((drops_dropFraction? hfraction).trans (drops_dropExponent? h))
  have hdrops : Drops cs [] := by
    unfold isNumeral at h
    split at h
    · exact .cons rfl (hunsigned (eq_of_beq h))
    · exact hunsigned (eq_of_beq h)
  obtain ⟨front, rfl, hfront⟩ := hdrops
  rwa [List.append_nil]

/-- **A text is kept as a numeral**: it is one, and more than a row of digits. -/
structure IsKept (written : String) : Prop where
  numeral : isNumeral written.toList = true
  other : written.toList.all Char.isDigit = false

theorem bare?_of_isKept {written : String} (h : IsKept written) : bare? written.toList = some (.numeral written) := by
  have hword (w : List Char) (hw : isNumeral w = false) : written.toList ≠ w := by
    rintro rfl
    cases h.numeral.symm.trans hw
  rw [bare?, if_neg (hword _ (by decide)), if_neg (hword _ (by decide)), if_neg (hword _ (by decide)),
    if_pos h.numeral, if_neg (by simp [h.other]), String.ofList_toList]

theorem reads_numeral {written : String} (h : IsKept written) :
    Reads written.toList [.scalar (.numeral written)] := by
  refine reads_bare ?_ (isBare_of_isNumeral h.numeral) (bare?_of_isKept h)
  intro hnil
  have hnumeral := h.numeral
  rw [hnil] at hnumeral
  cases hnumeral

end VestingBridge.Json
