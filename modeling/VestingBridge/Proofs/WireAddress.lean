import VestingBridge.Proofs.Text
import VestingBridge.WireAddress
/-!
# Proofs.WireAddress — addresses that are written and read back

Octets that are written in hexadecimal digits after the mark denote what they denote themselves (`ofHex_marked`).  So
the octets of an address and its sixty-four digits are each read back as the address.
-/
namespace VestingBridge.WireAddress

theorem ofOctets_octets (a : WireAddress) : ofOctets a.octets = .ok a := by
  have hne : a.octets ≠ [] := fun h => by
    have := a.length_eq
    rw [h] at this
    cases this
  rw [ofOctets, if_neg hne, dif_pos (Nat.le_of_eq a.length_eq)]
  exact congrArg Except.ok (ext_octets (Octets.leftPad_of_length_eq a.length_eq))

variable {bs : Octets}

/-! ## Digits after the mark -/

theorem toList_marked (bs : Octets) :
    ("0x" ++ Text.Hex.encode bs).toList = '0' :: 'x' :: (Text.Hex.encode bs).toList := by
  rw [String.toList_append]
  rfl

theorem trimChars_marked (bs : Octets) :
    Text.trimChars ("0x" ++ Text.Hex.encode bs).toList = ("0x" ++ Text.Hex.encode bs).toList := by
  refine Text.trimChars_of_noBlank fun c hc => ?_
  rw [toList_marked] at hc
  rcases List.mem_cons.1 hc with rfl | hc
  · rfl
  · rcases List.mem_cons.1 hc with rfl | hc
    · rfl
    · obtain ⟨n, hn, rfl⟩ := Text.Hex.mem_encode hc
      exact (Text.Hex.digit_plain n hn).2

theorem digits_marked (bs : Octets) :
    digits ("0x" ++ Text.Hex.encode bs) = Text.Utf8.encode (Text.Hex.encode bs) := by
  rw [digits, trimChars_marked, toList_marked, dropMark, String.ofList_toList]

/-- **Octets that are written with two digits each denote what they denote themselves**, if there are not too many. -/
theorem ofHex_marked (hshort : bs.length ≤ 32) : ofHex ("0x" ++ Text.Hex.encode bs) = ofOctets bs := by
  have hlength : (digits ("0x" ++ Text.Hex.encode bs)).length = 2 * bs.length := by
    rw [digits_marked, Text.Hex.length_encode]
  have heven : evenDigits (digits ("0x" ++ Text.Hex.encode bs)) = digits ("0x" ++ Text.Hex.encode bs) := by
    rw [evenDigits, if_neg (by omega)]
  by_cases hempty : bs = []
  · subst hempty
    have hnone : digits ("0x" ++ Text.Hex.encode []) = [] := List.length_eq_zero_iff.1 hlength
    simp only [ofHex, if_pos hnone]
    rfl
  · have hne : digits ("0x" ++ Text.Hex.encode bs) ≠ [] := by
      intro h
      have hpositive := List.length_pos_iff.2 hempty
      rw [h, List.length_nil] at hlength
      omega
    simp only [ofHex, if_neg hne, heven]
    rw [if_neg (by omega), digits_marked, Text.Hex.decode_encode]

/-! ## The sixty-four digits -/

theorem toList_toHex (a : WireAddress) : a.toHex.toList = '0' :: 'x' :: (Text.Hex.encode a.octets).toList :=
  toList_marked a.octets

theorem trimChars_toHex (a : WireAddress) : Text.trimChars a.toHex.toList = a.toHex.toList :=
  trimChars_marked a.octets

theorem ofHex_toHex (a : WireAddress) : ofHex a.toHex = .ok a :=
  (ofHex_marked (Nat.le_of_eq a.length_eq)).trans a.ofOctets_octets

end VestingBridge.WireAddress
