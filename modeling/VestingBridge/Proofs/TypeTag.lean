import VestingBridge.Proofs.WireAddress
import VestingBridge.TypeTag
/-!
# Proofs.TypeTag — the one form of a type

What the reader of type names answers is in one form (`isNormal_of_parse`): its account, its module and its struct hold
neither colons nor blanks, so that the written name splits where it was put together, and an account of digits has its
full length.  Hence a type in this form is known by its key.
-/
namespace VestingBridge.TypeTag

/-- No character of the text is a colon or blank. -/
def IsPlain (text : String) : Prop := ∀ c ∈ text.toList, c ≠ ':' ∧ Text.isBlank c = false

theorem range_of_between {c : Char} {low high : UInt32} (h : (decide (c.val ≥ low) && decide (c.val ≤ high)) = true) :
    low.toNat ≤ c.val.toNat ∧ c.val.toNat ≤ high.toNat := by
  rw [Bool.and_eq_true, decide_eq_true_eq, decide_eq_true_eq] at h
  exact h

theorem isNamePart_plain {c : Char} (h : isNamePart c = true) : c ≠ ':' ∧ Text.isBlank c = false := by
  have hrange : 48 ≤ c.val.toNat ∧ c.val.toNat ≤ 57 ∨ 65 ≤ c.val.toNat ∧ c.val.toNat ≤ 122 := by
    simp only [isNamePart, Char.isAlphanum, Bool.or_eq_true, decide_eq_true_eq] at h
    rcases h with (h | h) | rfl
    · rcases Bool.or_eq_true_iff.1 h with h | h
      · have hupper : c.val ≥ 'A'.val ∧ c.val ≤ 'Z'.val := of_decide_eq_true h
        have hrange : 65 ≤ c.val.toNat ∧ c.val.toNat ≤ 90 := hupper
        omega
      · have hlower : 97 ≤ c.val.toNat ∧ c.val.toNat ≤ 122 := range_of_between h
        omega
    · have hdigit : 48 ≤ c.val.toNat ∧ c.val.toNat ≤ 57 := range_of_between h
      omega
    · decide
  constructor
  · rintro rfl
    revert hrange
    decide
  · simp only [Text.isBlank, Bool.or_eq_false_iff, Bool.and_eq_false_iff, decide_eq_false_iff_not, beq_eq_false_iff_ne]
    omega

theorem isPlain_of_isName {name : String} (h : isName name = true) : IsPlain name := by
  unfold isName at h
  split at h
  · cases h
  · rename_i c cs heq
    rw [Bool.and_eq_true] at h
    obtain ⟨hstart, hrest⟩ := h
    have hc : isNamePart c = true := by
      simp only [isNameStart, Bool.or_eq_true] at hstart
      simp only [isNamePart, Char.isAlphanum, Bool.or_eq_true]
      rcases hstart with h | h
      · exact .inl (.inl h)
      · exact .inr h
    intro d hd
    rw [heq] at hd
    rcases List.mem_cons.1 hd with rfl | hd
    · exact isNamePart_plain hc
    · exact isNamePart_plain (List.all_eq_true.1 hrest d hd)

theorem isPlain_toHex (a : WireAddress) : IsPlain a.toHex := by
  intro c hc
  rw [WireAddress.toList_toHex] at hc
  rcases List.mem_cons.1 hc with rfl | hc
  · decide
  · rcases List.mem_cons.1 hc with rfl | hc
    · decide
    · obtain ⟨n, hn, rfl⟩ := Text.Hex.mem_encode hc
      exact Text.Hex.digit_plain n hn

theorem trimChars_of_isPlain {text : String} (h : IsPlain text) : Text.trimChars text.toList = text.toList :=
  Text.trimChars_of_noBlank fun c hc => (h c hc).2

theorem normalAccount_of_isPlain {text : String} (hplain : IsPlain text) (hne : text.toList ≠ []) :
    normalAccount text =
      if isMarked text.toList then ((WireAddress.ofHex text).mapError .badAddress).map WireAddress.toHex
      else .ok text := by
  have hall : ¬(text.toList.any fun c => c = ':' || Text.isBlank c) = true := by
    intro hany
    obtain ⟨c, hc, hbad⟩ := List.any_eq_true.1 hany
    obtain ⟨hcolon, hblank⟩ := hplain c hc
    simp [hcolon, hblank] at hbad
  simp only [normalAccount, trimChars_of_isPlain hplain, String.ofList_toList]
  rw [if_neg hne, if_neg hall]
  cases WireAddress.ofHex text <;> rfl

/-- **The one form of an account is plain, and reading it gives it back.** -/
theorem normalAccount_ok {text account : String} (h : normalAccount text = .ok account) :
    IsPlain account ∧ account.toList ≠ [] ∧ normalAccount account = .ok account := by
  simp only [normalAccount] at h
  split at h
  · cases h
  rename_i hne
  split at h
  · cases h
  rename_i hall
  split at h
  · split at h
    · rename_i address haddress
      cases h
      have hmarked : isMarked address.toHex.toList = true := by
        rw [WireAddress.toList_toHex]
        rfl
      have hne' : address.toHex.toList ≠ [] := by
        rw [WireAddress.toList_toHex]
        exact List.cons_ne_nil _ _
      refine ⟨isPlain_toHex address, hne', ?_⟩
      rw [normalAccount_of_isPlain (isPlain_toHex address) hne', if_pos hmarked, WireAddress.ofHex_toHex]
      rfl
    · cases h
  · rename_i hunmarked
    cases h
    have hplain : IsPlain (String.ofList (Text.trimChars text.toList)) := by
      intro c hc
      rw [String.toList_ofList] at hc
      have hnot := fun hbad => hall (List.any_eq_true.2 ⟨c, hc, hbad⟩)
      simpa using hnot
    have hne' : (String.ofList (Text.trimChars text.toList)).toList ≠ [] := by rwa [String.toList_ofList]
    refine ⟨hplain, hne', ?_⟩
    rw [normalAccount_of_isPlain hplain hne', String.toList_ofList, if_neg hunmarked]

theorem splitPairs_of_noColon {cs : List Char} (h : ∀ c ∈ cs, c ≠ ':') : splitPairs cs = [cs] := by
  induction cs with
  | nil => rfl
  | cons c cs ih =>
    have hc := h c (List.mem_cons_self ..)
    rw [splitPairs, ih fun d hd => h d (List.mem_cons_of_mem _ hd)]
    intro _ hcolon
    exact absurd hcolon hc

theorem splitPairs_append {part rest : List Char} (h : ∀ c ∈ part, c ≠ ':') :
    splitPairs (part ++ ':' :: ':' :: rest) = part :: splitPairs rest := by
  induction part with
  | nil => rfl
  | cons c part ih =>
    have hc := h c (List.mem_cons_self ..)
    rw [List.cons_append, splitPairs, ih fun d hd => h d (List.mem_cons_of_mem _ hd)]
    intro _ hcolon
    exact absurd hcolon hc

theorem ofParts_ok {account moduleName structName : String} {t : TypeTag}
    (h : ofParts account moduleName structName = .ok t) :
    normalAccount account = .ok t.account ∧ isName t.moduleName = true ∧ isName t.structName = true ∧
      t.moduleName = moduleName ∧ t.structName = structName := by
  unfold ofParts at h
  cases haccount : normalAccount account with
  | error e =>
    rw [haccount] at h
    cases h
  | ok normal =>
    cases hmodule : isName moduleName with
    | false =>
      rw [haccount, hmodule] at h
      cases h
    | true =>
      cases hstruct : isName structName with
      | false =>
        rw [haccount, hmodule, hstruct] at h
        cases h
      | true =>
        rw [haccount, hmodule, hstruct] at h
        cases h
        exact ⟨rfl, hmodule, hstruct, rfl, rfl⟩

theorem ofParts_of_ok {account moduleName structName normal : String} (haccount : normalAccount account = .ok normal)
    (hmodule : isName moduleName = true) (hstruct : isName structName = true) :
    ofParts account moduleName structName = .ok ⟨normal, moduleName, structName⟩ := by
  rw [ofParts, haccount, hmodule, hstruct]
  rfl

/-- **The type is in its one form**: its written name is read back as the same type. -/
def IsNormal (t : TypeTag) : Prop := parse t.name = .ok t

theorem toList_name (t : TypeTag) : t.name.toList =
    t.account.toList ++ ':' :: ':' :: (t.moduleName.toList ++ ':' :: ':' :: t.structName.toList) := by
  simp [name, String.toList_append]

/-- **What is made of parts is in its one form.** -/
theorem isNormal_of_ofParts {account moduleName structName : String} {t : TypeTag}
    (h : ofParts account moduleName structName = .ok t) : t.IsNormal := by
  obtain ⟨haccount, hmodule, hstruct, -⟩ := ofParts_ok h
  obtain ⟨hplain, hne, hnormal⟩ := normalAccount_ok haccount
  have hplainModule := isPlain_of_isName hmodule
  have hplainStruct := isPlain_of_isName hstruct
  have hnoBlank : ∀ c ∈ t.name.toList, Text.isBlank c = false := by
    intro c hc
    rw [toList_name] at hc
    simp only [List.mem_append, List.mem_cons] at hc
    rcases hc with hc | rfl | rfl | hc | rfl | rfl | hc
    · exact (hplain c hc).2
    · rfl
    · rfl
    · exact (hplainModule c hc).2
    · rfl
    · rfl
    · exact (hplainStruct c hc).2
  have hsplit : splitPairs t.name.toList = [t.account.toList, t.moduleName.toList, t.structName.toList] := by
    rw [toList_name, splitPairs_append fun c hc => (hplain c hc).1,
      splitPairs_append fun c hc => (hplainModule c hc).1, splitPairs_of_noColon fun c hc => (hplainStruct c hc).1]
  rw [IsNormal, parse, Text.trimChars_of_noBlank hnoBlank, hsplit]
  simp only [String.ofList_toList]
  exact ofParts_of_ok hnormal hmodule hstruct

theorem isNormal_of_parse {text : String} {t : TypeTag} (h : parse text = .ok t) : t.IsNormal := by
  unfold parse at h
  split at h
  · exact isNormal_of_ofParts h
  · cases h

/-- **Types in their one form are told apart by their keys.** -/
theorem IsNormal.eq_of_key {s t : TypeTag} (hs : s.IsNormal) (ht : t.IsNormal) (h : s.key = t.key) : s = t := by
  rw [IsNormal, Text.Utf8.encode_inj h, ht] at hs
  exact (Except.ok.inj hs).symm

end VestingBridge.TypeTag
