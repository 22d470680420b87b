import VestingBridge.Proofs.Handler
import VestingBridge.Proofs.Spelling
import VestingBridge.Proofs.TypeTag
/-!
# Proofs.TypeName — which texts name a type, and which of them name the same

A text names a type if it is an account, a module and a struct with pairs of colons between them (`Names`).  The reader
accepts these texts and no others (`parse_eq_ok_iff`).  It keeps the module and the struct as they stand, and an account
that is no number; an account that is a number it writes with all its digits.  So two texts have one key exactly if they
name the same module and struct of the same account, where numbers count as numbers.
-/
namespace VestingBridge.TypeTag

variable {text account account' normal normal' moduleName structName : String} {s t : TypeTag}

/-! ## Modules and structs -/

def IsLetter (c : Char) : Prop := 'A' ≤ c ∧ c ≤ 'Z' ∨ 'a' ≤ c ∧ c ≤ 'z' ∨ c = '_'

def IsDecimal (c : Char) : Prop := '0' ≤ c ∧ c ≤ '9'

/-- **An identifier**: a letter or an underscore, and then any number of these and of decimal digits. -/
def IsIdentifier (name : String) : Prop :=
  ∃ c cs, name.toList = c :: cs ∧ IsLetter c ∧ ∀ d ∈ cs, IsLetter d ∨ IsDecimal d

theorem isUpper_iff {c : Char} : c.isUpper = true ↔ 'A' ≤ c ∧ c ≤ 'Z' :=
  decide_eq_true_iff (p := c.val ≥ 'A'.val ∧ c.val ≤ 'Z'.val)

theorem isLower_iff {c : Char} : c.isLower = true ↔ 'a' ≤ c ∧ c ≤ 'z' := by
  change (decide (c.val ≥ 'a'.val) && decide (c.val ≤ 'z'.val)) = true ↔ _
  rw [Bool.and_eq_true, decide_eq_true_iff, decide_eq_true_iff]
  rfl

theorem isAlpha_or_underscore_iff {c : Char} : (c.isAlpha = true ∨ c = '_') ↔ IsLetter c := by
  change (c.isUpper || c.isLower) = true ∨ c = '_' ↔ _
  rw [Bool.or_eq_true, isUpper_iff, isLower_iff, or_assoc]
  rfl

theorem isNameStart_iff {c : Char} : isNameStart c = true ↔ IsLetter c := by
  simp [isNameStart, ← isAlpha_or_underscore_iff]

theorem isNamePart_iff {c : Char} : isNamePart c = true ↔ IsLetter c ∨ IsDecimal c := by
  simp only [isNamePart, Char.isAlphanum, Bool.or_eq_true, decide_eq_true_eq, ← isAlpha_or_underscore_iff, IsDecimal]
  simp [Char.isDigit, Char.le_def, or_right_comm]

theorem isName_iff {name : String} : isName name = true ↔ IsIdentifier name := by
  unfold isName IsIdentifier
  cases name.toList with
  | nil => simp
  | cons c cs => simp [isNameStart_iff, isNamePart_iff, and_assoc]

/-! ## Accounts -/

/-- What an account that is a number starts with. -/
def marks : List (List Char) := [['0', 'x'], ['0', 'X']]

/-- **An account**: a text that is not empty, without colons and blanks, in which a mark is followed by a numeral. -/
structure IsAccount (account : String) : Prop where
  nonempty : account ≠ ""
  plain : IsPlain account
  hexadecimal : ∀ mark ∈ marks, ∀ rest, account.toList = mark ++ rest → Text.Hex.IsNumeral rest

/-- **The account is a number.** -/
def Denotes (account : String) (n : Nat) : Prop :=
  ∃ mark ∈ marks, ∃ digits, account.toList = mark ++ digits ∧ Text.Hex.IsNumeral digits ∧ Text.Hex.number digits = n

/-- **The same account**: one text that is no number, or two spellings of one number. -/
def SameAccount (account account' : String) : Prop :=
  account = account' ∧ (∀ n, ¬Denotes account n) ∨ ∃ n, Denotes account n ∧ Denotes account' n

/-- **An account and its one form**: the text itself, or the number with all its digits. -/
def HasForm (account normal : String) : Prop :=
  normal = account ∧ (∀ n, ¬Denotes account n) ∨ ∃ a : WireAddress, Denotes account a.number ∧ normal = a.toHex

theorem isMarked_iff {cs : List Char} : isMarked cs = true ↔ ∃ mark ∈ marks, ∃ rest, cs = mark ++ rest := by
  constructor
  · intro h
    unfold isMarked at h
    split at h
    · exact ⟨['0', 'x'], by decide, _, rfl⟩
    · exact ⟨['0', 'X'], by decide, _, rfl⟩
    · cases h
  · rintro ⟨mark, hmark, rest, rfl⟩
    simp only [marks, List.mem_cons, List.not_mem_nil, or_false] at hmark
    rcases hmark with rfl | rfl <;> rfl

theorem eq_of_marks {mark mark' rest rest' : List Char} (hmark : mark ∈ marks) (hmark' : mark' ∈ marks)
    (h : mark ++ rest = mark' ++ rest') : rest = rest' := by
  have hlength : ∀ m ∈ marks, m.length = 2 := by decide
  exact (List.append_inj h ((hlength _ hmark).trans (hlength _ hmark').symm)).2

theorem Denotes.unique {n k : Nat} (hn : Denotes account n) (hk : Denotes account k) : n = k := by
  obtain ⟨mark, hmark, digits, heq, -, rfl⟩ := hn
  obtain ⟨mark', hmark', digits', heq', -, rfl⟩ := hk
  rw [eq_of_marks hmark hmark' (heq.symm.trans heq')]

theorem not_isMarked_of_isNumeral {cs : List Char} (h : Text.Hex.IsNumeral cs) : isMarked cs = false := by
  unfold isMarked
  split
  · exact absurd (h.digit 'x' (by simp)) (by decide)
  · exact absurd (h.digit 'X' (by simp)) (by decide)
  · rfl

theorem denotes_iff (hplain : IsPlain account) {n : Nat} :
    Denotes account n ↔ isMarked account.toList = true ∧ WireAddress.Spells account n := by
  unfold WireAddress.Spells
  rw [Text.toList_trim, trimChars_of_isPlain hplain]
  constructor
  · rintro ⟨mark, hmark, digits, heq, hdigits, hn⟩
    exact ⟨isMarked_iff.2 ⟨mark, hmark, digits, heq⟩, mark, List.mem_cons_of_mem _ hmark, digits, heq, hdigits, hn⟩
  · rintro ⟨hmarked, mark, hmark, digits, heq, hdigits, hn⟩
    rcases List.mem_cons.1 hmark with rfl | hmark
    · -- digits alone are not marked
      rw [heq, List.nil_append, not_isMarked_of_isNumeral hdigits] at hmarked
      cases hmarked
    · exact ⟨mark, hmark, digits, heq, hdigits, hn⟩

theorem denotes_toHex (a : WireAddress) : Denotes a.toHex a.number := by
  refine (denotes_iff (isPlain_toHex a)).2 ⟨?_, WireAddress.spells_of_ofHex (WireAddress.ofHex_toHex a)⟩
  rw [WireAddress.toList_toHex]
  rfl

/-- **Accounts that have one form are the same, and the same accounts have one form.** -/
theorem HasForm.eq_iff (h : HasForm account normal) (h' : HasForm account' normal') :
    normal = normal' ↔ SameAccount account account' := by
  unfold SameAccount
  obtain ⟨rfl, hno⟩ | ⟨a, ha, rfl⟩ := h
  · obtain ⟨rfl, -⟩ | ⟨b, hb, rfl⟩ := h'
    · simp [hno]
    · -- a text that is no number is not the form of one
      refine iff_of_false ?_ (by rintro (⟨rfl, -⟩ | ⟨n, hn, -⟩) <;> simp_all)
      rintro rfl
      exact hno _ (denotes_toHex b)
  · obtain ⟨rfl, hno'⟩ | ⟨b, hb, rfl⟩ := h'
    · refine iff_of_false ?_ (by rintro (⟨rfl, hno⟩ | ⟨n, -, hn⟩) <;> simp_all)
      rintro rfl
      exact hno' _ (denotes_toHex a)
    · constructor
      · intro h
        have hnumber : a.number = b.number := (h ▸ denotes_toHex a).unique (denotes_toHex b)
        exact .inr ⟨_, ha, hnumber ▸ hb⟩
      · rintro (⟨-, hno⟩ | ⟨n, hn, hn'⟩)
        · exact absurd ha (hno _)
        · rw [WireAddress.ext_number ((ha.unique hn).trans (hb.unique hn').symm)]

theorem normalAccount_trim (text : String) : normalAccount text = normalAccount (Text.trim text) := by
  simp only [normalAccount, Text.toList_trim, Text.trimChars_trimChars]

theorem isPlain_of_normalAccount (h : normalAccount text = .ok normal) :
    IsPlain (Text.trim text) ∧ Text.trim text ≠ "" := by
  simp only [normalAccount] at h
  split at h
  · cases h
  rename_i hne
  split at h
  · cases h
  rename_i hall
  constructor
  · intro c hc
    rw [Text.toList_trim] at hc
    simpa using fun hbad => hall (List.any_eq_true.2 ⟨c, hc, hbad⟩)
  · rwa [Ne, ← String.toList_inj, Text.toList_trim, String.toList_empty]

theorem normalAccount_plain_iff (hplain : IsPlain account) (hne : account ≠ "") :
    normalAccount account = .ok normal ↔ IsAccount account ∧ HasForm account normal := by
  have hchars : account.toList ≠ [] := fun h => hne (String.toList_inj.1 (h.trans String.toList_empty.symm))
  rw [normalAccount_of_isPlain hplain hchars]
  by_cases hmarked : isMarked account.toList = true
  · rw [if_pos hmarked]
    have hread : ((WireAddress.ofHex account).mapError TagError.badAddress).map WireAddress.toHex = .ok normal ↔
        ∃ a : WireAddress, Denotes account a.number ∧ normal = a.toHex := by
      simp only [denotes_iff hplain, hmarked, true_and, ← WireAddress.ofHex_eq_ok_iff]
      cases WireAddress.ofHex account with
      | error e =>
        constructor
        · intro h
          cases h
        · rintro ⟨a, h, -⟩
          cases h
      | ok a =>
        constructor
        · intro h
          cases h
          exact ⟨a, rfl, rfl⟩
        · rintro ⟨b, h, rfl⟩
          cases h
          rfl
    rw [hread]
    constructor
    · rintro ⟨a, ha, rfl⟩
      refine ⟨⟨hne, hplain, fun mark hmark rest heq => ?_⟩, .inr ⟨a, ha, rfl⟩⟩
      obtain ⟨mark', hmark', digits, heq', hdigits, -⟩ := ha
      rwa [eq_of_marks hmark hmark' (heq.symm.trans heq')]
    · rintro ⟨haccount, ⟨-, hno⟩ | hform⟩
      · obtain ⟨mark, hmark, rest, heq⟩ := isMarked_iff.1 hmarked
        exact absurd ⟨mark, hmark, rest, heq, haccount.hexadecimal mark hmark rest heq, rfl⟩ (hno _)
      · exact hform
  · have hno : ∀ n, ¬Denotes account n := fun n hn => hmarked ((denotes_iff hplain).1 hn).1
    rw [if_neg hmarked, Except.ok.injEq]
    constructor
    · rintro rfl
      exact ⟨⟨hne, hplain, fun mark hmark rest heq => absurd (isMarked_iff.2 ⟨mark, hmark, rest, heq⟩) hmarked⟩,
        .inl ⟨rfl, hno⟩⟩
    · rintro ⟨-, ⟨rfl, -⟩ | ⟨a, ha, -⟩⟩
      · rfl
      · exact absurd ha (hno _)

/-- **An account is read in its one form**, without the blanks around it. -/
theorem normalAccount_eq_ok_iff :
    normalAccount text = .ok normal ↔ IsAccount (Text.trim text) ∧ HasForm (Text.trim text) normal := by
  constructor
  · intro h
    obtain ⟨hplain, hne⟩ := isPlain_of_normalAccount h
    rw [normalAccount_trim] at h
    exact (normalAccount_plain_iff hplain hne).1 h
  · intro h
    rw [normalAccount_trim]
    exact (normalAccount_plain_iff h.1.plain h.1.nonempty).2 h

theorem exists_hasForm (h : IsAccount account) : ∃ normal, HasForm account normal := by
  by_cases hnumber : ∃ n, Denotes account n
  · obtain ⟨n, hn⟩ := hnumber
    obtain ⟨a, -, rfl⟩ := WireAddress.exists_ofHex ((denotes_iff h.plain).1 hn).2
    exact ⟨_, .inr ⟨a, hn, rfl⟩⟩
  · exact ⟨account, .inl ⟨rfl, fun n hn => hnumber ⟨n, hn⟩⟩⟩

/-! ## Whole texts -/

/-- **The text names a type by an account, a module and a struct.**  Blanks may stand around the text and around the
account. -/
structure Names (text account moduleName structName : String) : Prop where
  written : ∃ outer, Text.trim text = outer ++ "::" ++ moduleName ++ "::" ++ structName ∧ Text.trim outer = account
  isAccount : IsAccount account
  isModule : IsIdentifier moduleName
  isStruct : IsIdentifier structName

theorem splitPairs_ne_nil (cs : List Char) : splitPairs cs ≠ [] := by
  unfold splitPairs
  repeat' split
  all_goals simp

/-- The parts between pairs of colons, with pairs of colons between them, are what was split. -/
theorem intercalate_splitPairs (cs : List Char) : [':', ':'].intercalate (splitPairs cs) = cs := by
  induction cs using splitPairs.induct with
  | case1 cs ih =>
    obtain ⟨part, parts, heq⟩ := List.exists_cons_of_ne_nil (splitPairs_ne_nil cs)
    rw [splitPairs, heq, List.intercalate_cons_cons, ← heq, ih]
    rfl
  | case2 c cs hc part parts heq ih =>
    rw [splitPairs, heq]
    · rw [heq] at ih
      cases parts with
      | nil => rw [List.intercalate_singleton] at ih ⊢; rw [ih]
      | cons next parts =>
        rw [List.intercalate_cons_cons] at ih ⊢
        rw [List.cons_append, List.cons_append, ih]
    · exact hc
  | case3 c cs hc heq ih => exact absurd heq (splitPairs_ne_nil cs)
  | case4 => rfl

/-- Trimming takes away blanks only. -/
theorem mem_trimChars {cs : List Char} {c : Char} (hc : c ∈ cs) (hblank : Text.isBlank c = false) :
    c ∈ Text.trimChars cs := by
  have hkept : ∀ {ds : List Char}, c ∈ ds → c ∈ ds.dropWhile Text.isBlank := by
    intro ds hds
    rw [← List.takeWhile_append_dropWhile (p := Text.isBlank) (l := ds), List.mem_append] at hds
    refine hds.resolve_left fun hfront => ?_
    rw [List.all_eq_true.1 List.all_takeWhile c hfront] at hblank
    cases hblank
  rw [Text.trimChars, List.mem_reverse]
  exact hkept (List.mem_reverse.2 (hkept hc))

/-- **The reader accepts the texts that name a type, and answers the type that they name.** -/
theorem parse_eq_ok_iff :
    parse text = .ok t ↔ ∃ account, Names text account t.moduleName t.structName ∧ HasForm account t.account := by
  have hpair : "::".toList = [':', ':'] := rfl
  constructor
  · intro h
    unfold parse at h
    split at h
    · rename_i outer moduleName structName heq
      obtain ⟨haccount, hmodule, hstruct, hm, hs⟩ := ofParts_ok h
      obtain ⟨hisAccount, hform⟩ := normalAccount_eq_ok_iff.1 haccount
      refine ⟨_, ⟨⟨String.ofList outer, ?_, rfl⟩, hisAccount, isName_iff.1 hmodule, isName_iff.1 hstruct⟩, hform⟩
      have hjoined := intercalate_splitPairs (Text.trimChars text.toList)
      rw [heq] at hjoined
      rw [hm, hs, ← String.toList_inj, Text.toList_trim, ← hjoined]
      simp [List.intercalate_cons_cons]
    · cases h
  · rintro ⟨account, ⟨⟨outer, hwritten, rfl⟩, haccount, hmodule, hstruct⟩, hform⟩
    have houter : ∀ c ∈ outer.toList, c ≠ ':' := by
      rintro c hc rfl
      refine (haccount.plain ':' ?_).1 rfl
      rw [Text.toList_trim]
      exact mem_trimChars hc rfl
    have hsplit : splitPairs (Text.trimChars text.toList) =
        [outer.toList, t.moduleName.toList, t.structName.toList] := by
      rw [← Text.toList_trim, hwritten]
      simp only [String.toList_append, hpair, List.append_assoc, List.cons_append, List.nil_append]
      rw [splitPairs_append houter, splitPairs_append fun c hc => (isPlain_of_isName (isName_iff.2 hmodule) c hc).1,
        splitPairs_of_noColon fun c hc => (isPlain_of_isName (isName_iff.2 hstruct) c hc).1]
    rw [parse, hsplit]
    simp only [String.ofList_toList]
    exact ofParts_of_ok (normalAccount_eq_ok_iff.2 ⟨haccount, hform⟩) (isName_iff.2 hmodule) (isName_iff.2 hstruct)

example : (parse " 0X1 ::coin::Coin\n").toOption = (parse "0x01::coin::Coin").toOption := by decide +kernel

/-- A text that names a type is read, with the account in its one form. -/
theorem Names.read {moduleName structName : String} (h : Names text account moduleName structName) :
    ∃ normal, HasForm account normal ∧ parse text = .ok ⟨normal, moduleName, structName⟩ := by
  obtain ⟨normal, hform⟩ := exists_hasForm h.isAccount
  exact ⟨normal, hform, parse_eq_ok_iff.2 ⟨account, h, hform⟩⟩

theorem names_of_parse (h : parse text = .ok t) :
    ∃ account moduleName structName, Names text account moduleName structName := by
  obtain ⟨account, hnames, -⟩ := parse_eq_ok_iff.1 h
  exact ⟨account, _, _, hnames⟩

/-- **A type that the contracts made themselves**, of a text or of its parts. -/
def IsMade (t : TypeTag) : Prop :=
  (∃ text, parse text = .ok t) ∨ ∃ account moduleName structName, ofParts account moduleName structName = .ok t

theorem IsMade.isNormal (h : t.IsMade) : t.IsNormal := by
  obtain ⟨text, h⟩ | ⟨account, moduleName, structName, h⟩ := h
  · exact isNormal_of_parse h
  · exact isNormal_of_ofParts h

/-- **The key of a type is canonical.**
* A text is read exactly if it names a type, and any other text is a malformed asset type.
* What was made of a text or of parts is read back from its written name, so that the one form has itself as its form.
* Two types that were made so are one if their keys are.
* Two texts that name types have one key exactly if the modules, the structs and the accounts are the same. -/
theorem key_canonical :
    (∀ text, (∃ t, parse text = .ok t) ↔ ∃ account moduleName structName, Names text account moduleName structName) ∧
    (∀ text, (¬∃ account moduleName structName, Names text account moduleName structName) →
      ∃ e, parse text = .error e ∧ e.message = "Malformed asset type: " ++ e.reason) ∧
    (∀ t, IsMade t → parse t.name = .ok t) ∧
    (∀ s t, IsMade s → IsMade t → s.key = t.key → s = t) ∧
    ∀ text account moduleName structName text' account' moduleName' structName',
      Names text account moduleName structName → Names text' account' moduleName' structName' →
      ∃ t t', parse text = .ok t ∧ parse text' = .ok t' ∧
        (t.key = t'.key ↔ moduleName = moduleName' ∧ structName = structName' ∧ SameAccount account account') := by
  refine ⟨fun text => ⟨fun ⟨t, h⟩ => names_of_parse h, ?_⟩, ?_, fun t ht => ht.isNormal,
    fun s t hs ht h => hs.isNormal.eq_of_key ht.isNormal h, ?_⟩
  · rintro ⟨account, moduleName, structName, hnames⟩
    obtain ⟨normal, -, h⟩ := hnames.read
    exact ⟨_, h⟩
  · intro text hno
    cases hparse : parse text with
    | ok t => exact absurd (names_of_parse hparse) hno
    | error e => exact ⟨e, rfl, rfl⟩
  · intro text account moduleName structName text' account' moduleName' structName' h h'
    obtain ⟨normal, hform, hparse⟩ := h.read
    obtain ⟨normal', hform', hparse'⟩ := h'.read
    refine ⟨_, _, hparse, hparse', ?_⟩
    rw [← hform.eq_iff hform']
    constructor
    · intro hkey
      cases (isNormal_of_parse hparse).eq_of_key (isNormal_of_parse hparse') hkey
      exact ⟨rfl, rfl, rfl⟩
    · rintro ⟨rfl, rfl, rfl⟩
      rfl

end VestingBridge.TypeTag
