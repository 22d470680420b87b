import VestingBridge.Proofs.Handler
import VestingBridge.Proofs.Packet
import VestingBridge.Proofs.Spelling
/-!
# Proofs.DeliveryEvent — which packet an event describes

An event describes a packet if its fields are those of the packet, up to zeros in front of an address and up to the
spelling of it, or if it is the packet's encoding.  What is rebuilt is that packet (`rebuild_eq_ok_iff`), so that all
events which describe one packet are the same to every later step.  An event that describes none lacks a part, or has
all its parts and a malformed address among them (`rebuild_error`).
-/
namespace VestingBridge

namespace Packet

variable {p : Packet} {srcChain dstChain : ChainId} {nonce : Nonce} {payload : Octets}

theorem between_eq_ok_iff {x y : Except AddressError WireAddress} :
    (do let src ← x; let dst ← y; return ({ srcChain, src, dstChain, dst, nonce, payload } : Packet)) = .ok p ↔
      x = .ok p.src ∧ y = .ok p.dst ∧ p = { srcChain, src := p.src, dstChain, dst := p.dst, nonce, payload } := by
  cases x with
  | error e => exact ⟨nofun, nofun⟩
  | ok a =>
    cases y with
    | error e => exact ⟨nofun, nofun⟩
    | ok b =>
      constructor
      · intro h
        cases h
        exact ⟨rfl, rfl, rfl⟩
      · rintro ⟨ha, hb, hp⟩
        cases ha
        cases hb
        rw [hp]
        rfl

theorem ofOctets_eq_ok_iff {src dst : Octets} : ofOctets srcChain src dstChain dst nonce payload = .ok p ↔
    WireAddress.IsPadded src p.src ∧ WireAddress.IsPadded dst p.dst ∧
      p = { srcChain, src := p.src, dstChain, dst := p.dst, nonce, payload } := by
  rw [← WireAddress.ofOctets_eq_ok_iff, ← WireAddress.ofOctets_eq_ok_iff]
  exact between_eq_ok_iff

theorem ofHex_eq_ok_iff {src dst : String} : ofHex srcChain src dstChain dst nonce payload = .ok p ↔
    WireAddress.Spells src p.src.number ∧ WireAddress.Spells dst p.dst.number ∧
      p = { srcChain, src := p.src, dstChain, dst := p.dst, nonce, payload } := by
  rw [← WireAddress.ofHex_eq_ok_iff, ← WireAddress.ofHex_eq_ok_iff]
  exact between_eq_ok_iff

end Packet

/-- The text of the error says that the event has no known shape. -/
def EventError.IsShape (err : EventError) : Prop := ∃ reason, err.message = shape reason

theorem EventError.not_isShape_address (a : AddressError) : ¬(EventError.address a).IsShape := by
  have hmalformed : "Malformed address: ".toList = 'M' :: "alformed address: ".toList := rfl
  have hshape : "Unrecognized event shape: ".toList = 'U' :: "nrecognized event shape: ".toList := rfl
  rintro ⟨reason, h⟩
  have hfirst : ("Malformed address: " ++ a.reason).toList.head? =
      ("Unrecognized event shape: " ++ reason).toList.head? := congrArg (fun text => text.toList.head?) h
  rw [String.toList_append, String.toList_append, hmalformed, hshape] at hfirst
  exact absurd (Option.some.inj hfirst) (by decide)

namespace DeliveryEvent

variable {e : DeliveryEvent} {p : Packet} {err : EventError}

/-- **The event describes the packet**: it has the numbers and the payload of the packet, and octets or spellings of its
addresses; or it is the encoding of the packet. -/
def Describes : DeliveryEvent → Packet → Prop
  | .packet srcChain src dstChain dst nonce payload, p =>
    WireAddress.IsPadded src p.src ∧ WireAddress.IsPadded dst p.dst ∧
      p = { srcChain, src := p.src, dstChain, dst := p.dst, nonce, payload }
  | .raw srcChain src dstChain dst nonce payload, p =>
    WireAddress.Spells src p.src.number ∧ WireAddress.Spells dst p.dst.number ∧
      p = { srcChain, src := p.src, dstChain, dst := p.dst, nonce, payload }
  | .encoded data, p => data = p.encode

/-- **The event lacks a part**: an address without octets, a text of blanks, or octets that end in the header. -/
def IsShapeless : DeliveryEvent → Prop
  | .packet _ src _ dst _ _ => src = [] ∨ dst = []
  | .raw _ src _ dst _ _ => Text.trim src = "" ∨ Text.trim dst = ""
  | .encoded data => data.length < Packet.headerLength

/-! ## What is checked of the addresses -/

section Addresses

variable {absent absent' : Prop} [Decidable absent] [Decidable absent'] {e₁ e₂ : EventError}
  {x : Except AddressError Packet}

theorem present_eq_ok_iff :
    (if absent then .error e₁ else if absent' then .error e₂ else x.mapError EventError.address) = .ok p ↔
      ¬(absent ∨ absent') ∧ x = .ok p := by
  by_cases h : absent
  · simp [h]
  · by_cases h' : absent'
    · simp [h, h']
    · simp only [h, h', if_false, Handler.mapError_eq_ok_iff, or_self, not_false_eq_true, true_and]

/-- Absent parts are found before malformed ones. -/
theorem present_error
    (h : (if absent then .error e₁ else if absent' then .error e₂ else x.mapError EventError.address) = .error err) :
    (absent ∨ absent') ∧ (err = e₁ ∨ err = e₂) ∨ ¬(absent ∨ absent') ∧ ∃ a, err = .address a := by
  by_cases habsent : absent
  · rw [if_pos habsent] at h
    exact .inl ⟨.inl habsent, .inl (Except.error.inj h).symm⟩
  · by_cases habsent' : absent'
    · rw [if_neg habsent, if_pos habsent'] at h
      exact .inl ⟨.inr habsent', .inr (Except.error.inj h).symm⟩
    · rw [if_neg habsent, if_neg habsent', Handler.mapError_eq_error_iff] at h
      obtain ⟨a, -, rfl⟩ := h
      exact .inr ⟨fun hno => hno.elim habsent habsent', a, rfl⟩

end Addresses

theorem ne_nil_of_isPadded {bs : Octets} {a : WireAddress} (h : WireAddress.IsPadded bs a) : bs ≠ [] :=
  List.length_pos_iff.1 h.1

theorem ne_nil_of_spells {text : String} {n : Nat} (h : WireAddress.Spells text n) :
    Text.trimChars text.toList ≠ [] := by
  obtain ⟨mark, -, digits, heq, hdigits, -⟩ := h
  have hpositive := hdigits.nonempty
  rw [← Text.toList_trim, heq]
  exact List.append_ne_nil_of_right_ne_nil _ (List.length_pos_iff.1 hpositive)

theorem trim_eq_empty_iff {text : String} : Text.trim text = "" ↔ Text.trimChars text.toList = [] := by
  rw [← String.toList_inj, Text.toList_trim, String.toList_empty]

/-- **The packet that is rebuilt is the one that the event describes.** -/
theorem rebuild_eq_ok_iff : e.rebuild = .ok p ↔ e.Describes p := by
  cases e with
  | packet srcChain src dstChain dst nonce payload =>
    rw [rebuild, present_eq_ok_iff, Packet.ofOctets_eq_ok_iff]
    exact and_iff_right_of_imp fun h => not_or.2 ⟨ne_nil_of_isPadded h.1, ne_nil_of_isPadded h.2.1⟩
  | raw srcChain src dstChain dst nonce payload =>
    rw [rebuild, present_eq_ok_iff, Packet.ofHex_eq_ok_iff]
    exact and_iff_right_of_imp fun h => not_or.2 ⟨ne_nil_of_spells h.1, ne_nil_of_spells h.2.1⟩
  | encoded data =>
    rw [rebuild, Describes, ← Packet.decode?_eq_some_iff]
    cases Packet.decode? data <;> simp

example (c d : ChainId) (n : Nonce) : (DeliveryEvent.raw c " 0XaB\n" d "C" n [7]).rebuild =
    (DeliveryEvent.packet c [0xab] d [0x00, 0x0c] n [7]).rebuild := by
  rfl

/-- **What is wrong with an event that describes nothing**: its shape if it lacks a part, and else an address. -/
theorem rebuild_error (h : e.rebuild = .error err) :
    e.IsShapeless ∧ err.IsShape ∨ ¬e.IsShapeless ∧ ∃ a, err = .address a := by
  cases e with
  | packet srcChain src dstChain dst nonce payload =>
    rw [rebuild] at h
    refine (present_error h).imp_left ?_
    rintro ⟨habsent, rfl | rfl⟩
    · exact ⟨habsent, _, rfl⟩
    · exact ⟨habsent, _, rfl⟩
  | raw srcChain src dstChain dst nonce payload =>
    rw [rebuild] at h
    rw [IsShapeless, trim_eq_empty_iff, trim_eq_empty_iff]
    refine (present_error h).imp_left ?_
    rintro ⟨habsent, rfl | rfl⟩
    · exact ⟨habsent, _, rfl⟩
    · exact ⟨habsent, _, rfl⟩
  | encoded data =>
    rw [rebuild] at h
    cases hdecode : Packet.decode? data with
    | none =>
      rw [hdecode] at h
      cases h
      exact .inl ⟨Packet.decode?_eq_none_iff.1 hdecode, _, rfl⟩
    | some p =>
      rw [hdecode] at h
      cases h

/-- **Rebuilding is exact and does not see the shape.**  An event is rebuilt to the packets that it describes and to no
other, so that all events which describe one packet are rebuilt to the same packet under the same hash.  If it is
rebuilt to none, the error is in its shape exactly if it lacks a part, and in an address exactly if it lacks none. -/
theorem rebuild_exact (e : DeliveryEvent) :
    (∀ p, e.rebuild = .ok p ↔ e.Describes p) ∧
    (∀ (f : DeliveryEvent) p, e.Describes p → f.Describes p →
      f.rebuild = e.rebuild ∧ f.rebuild.map Packet.hash = e.rebuild.map Packet.hash) ∧
    ∀ err, e.rebuild = .error err →
      (err.IsShape ↔ e.IsShapeless) ∧ ((∃ a, err = .address a) ↔ ¬e.IsShapeless) := by
  refine ⟨fun p => rebuild_eq_ok_iff, fun f p he hf => ?_, fun err herr => ?_⟩
  · have hsame : f.rebuild = e.rebuild := (rebuild_eq_ok_iff.2 hf).trans (rebuild_eq_ok_iff.2 he).symm
    exact ⟨hsame, congrArg (Except.map Packet.hash) hsame⟩
  · rcases rebuild_error herr with ⟨hless, hshape⟩ | ⟨hfull, a, rfl⟩
    · refine ⟨iff_of_true hshape hless, iff_of_false ?_ (not_not_intro hless)⟩
      rintro ⟨a, rfl⟩
      exact EventError.not_isShape_address a hshape
    · exact ⟨iff_of_false (EventError.not_isShape_address a) hfull, iff_of_true ⟨a, rfl⟩ hfull⟩

end DeliveryEvent

end VestingBridge
