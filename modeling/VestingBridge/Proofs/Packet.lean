import VestingBridge.DeliveryEvent
import VestingBridge.Proofs.WireAddress
import VestingBridge.WithdrawRequest
/-!
# Proofs.Packet — packets that are encoded and read back

The header of a packet has fields of fixed widths, so that what is cut out of an encoding is what was put into it.  A
packet is rebuilt from each of the shapes in which it may be reported, and a request from its payload.
-/
namespace VestingBridge.Packet

variable {p q : Packet}

theorem length_chain (c : ChainId) : (c.octets 2).length = 2 := Word.length_octets 2 c

theorem length_nonce (n : Nonce) : (n.octets 8).length = 8 := Word.length_octets 8 n

theorem length_encode (p : Packet) : p.encode.length = headerLength + p.payload.length := by
  simp only [encode, List.length_append, length_chain, length_nonce, p.src.length_eq, p.dst.length_eq, headerLength]

theorem take_drop_of_length {as bs cs : Octets} {n k : Nat} (ha : as.length = n) (hb : bs.length = k) :
    ((as ++ (bs ++ cs)).drop n).take k = bs := by
  rw [List.drop_left' ha, List.take_left' hb]

theorem ofOctets_of_eq {k : Nat} {w : Word (Octets.count k)} {bs : Octets} (h : bs.length ≤ k) (heq : bs = w.octets k) :
    Word.ofOctets k bs h = w := by
  subst heq
  exact Word.ofOctets_octets k w h

/-- **A packet is read back from its encoding.** -/
theorem decode?_encode (p : Packet) : decode? p.encode = some p := by
  have hlength : headerLength ≤ p.encode.length := by
    rw [length_encode]
    exact Nat.le_add_right _ _
  have hsrcChain : p.encode.take 2 = p.srcChain.octets 2 := by
    simp only [encode, List.append_assoc]
    exact List.take_left' (length_chain _)
  have hsrc : (p.encode.drop 2).take 32 = p.src.octets := by
    simp only [encode, List.append_assoc]
    exact take_drop_of_length (length_chain _) p.src.length_eq
  have hdstChain : (p.encode.drop 34).take 2 = p.dstChain.octets 2 := by
    rw [encode, List.append_assoc, List.append_assoc, List.append_assoc]
    refine take_drop_of_length ?_ (length_chain _)
    rw [List.length_append, length_chain, p.src.length_eq]
  have hdst : (p.encode.drop 36).take 32 = p.dst.octets := by
    rw [encode, List.append_assoc, List.append_assoc]
    refine take_drop_of_length ?_ p.dst.length_eq
    rw [List.length_append, List.length_append, length_chain, length_chain, p.src.length_eq]
  have hnonce : (p.encode.drop 68).take 8 = p.nonce.octets 8 := by
    rw [encode, List.append_assoc]
    refine take_drop_of_length ?_ (length_nonce _)
    simp only [List.length_append, length_chain, p.src.length_eq, p.dst.length_eq]
  have hpayload : p.encode.drop 76 = p.payload := by
    refine List.drop_left' ?_
    simp only [List.length_append, length_chain, length_nonce, p.src.length_eq, p.dst.length_eq]
  rw [decode?, dif_pos hlength, Option.some.injEq]
  obtain ⟨srcChain, src, dstChain, dst, nonce, payload⟩ := p
  congr 1
  · exact ofOctets_of_eq _ hsrcChain
  · exact WireAddress.ext_octets hsrc
  · exact ofOctets_of_eq _ hdstChain
  · exact WireAddress.ext_octets hdst
  · exact ofOctets_of_eq _ hnonce

theorem decode?_eq_none_iff {bs : Octets} : decode? bs = none ↔ bs.length < headerLength := by
  unfold decode?
  by_cases h : headerLength ≤ bs.length
  · simp [h]
  · simp [h, Nat.lt_of_not_le h]

/-- The octets from `n` on are the next `k` of them and then those from `n + k` on. -/
theorem take_append_rest (bs : Octets) (n k : Nat) : (bs.drop n).take k ++ bs.drop (n + k) = bs.drop n := by
  rw [← List.drop_drop, List.take_append_drop]

/-- **Octets encode nothing but the packet that is read from them.** -/
theorem encode_of_decode? {bs : Octets} (h : decode? bs = some p) : p.encode = bs := by
  unfold decode? at h
  split at h
  · rename_i hlength
    have h76 : 76 ≤ bs.length := hlength
    have hcut : ∀ n k, n + k ≤ 76 → ((bs.drop n).take k).length = k := by
      intro n k hnk
      simp only [List.length_take, List.length_drop]
      omega
    cases h
    have hfirst : (bs.take 2).length = 2 := hcut 0 2 (by decide)
    have hsrcChain := Word.octets_ofOctets (Nat.le_of_eq hfirst) hfirst
    have hdstChain := Word.octets_ofOctets (Nat.le_of_eq (hcut 34 2 (by decide))) (hcut 34 2 (by decide))
    have hnonce := Word.octets_ofOctets (Nat.le_of_eq (hcut 68 8 (by decide))) (hcut 68 8 (by decide))
    simp only [encode, List.append_assoc]
    rw [hsrcChain, hdstChain, hnonce, take_append_rest bs 68 8, take_append_rest bs 36 32, take_append_rest bs 34 2,
      take_append_rest bs 2 32, List.take_append_drop]
  · cases h

theorem decode?_eq_some_iff {bs : Octets} : decode? bs = some p ↔ bs = p.encode :=
  ⟨fun h => (encode_of_decode? h).symm, fun h => h ▸ decode?_encode p⟩

theorem encode_inj (h : p.encode = q.encode) : p = q := by
  have hdecoded := congrArg decode? h
  rw [decode?_encode, decode?_encode] at hdecoded
  exact Option.some.inj hdecoded

/-- The packet that an attribute shows. -/
def ofDigits? (text : String) : Option Packet :=
  match Text.Hex.decode (Text.Utf8.encode text) with
  | .ok bs => decode? bs
  | .error _ => none

theorem ofDigits?_encode (p : Packet) : ofDigits? (Text.Hex.encode p.encode) = some p := by
  rw [ofDigits?, Text.Hex.decode_encode]
  exact decode?_encode p

/-- **The shapes in which a packet may be reported**, each in its plainest spelling. -/
def shapes (p : Packet) : List DeliveryEvent := [
  .packet p.srcChain p.src.octets p.dstChain p.dst.octets p.nonce p.payload,
  .raw p.srcChain p.src.toHex p.dstChain p.dst.toHex p.nonce p.payload,
  .encoded p.encode]

/-- **A packet is rebuilt from every shape of it.** -/
theorem rebuild_of_mem_shapes {event : DeliveryEvent} (h : event ∈ p.shapes) : event.rebuild = .ok p := by
  have hoctets : ∀ a : WireAddress, a.octets ≠ [] := fun a heq => by
    have hlength := a.length_eq
    rw [heq] at hlength
    cases hlength
  have hdigits : ∀ a : WireAddress, Text.trimChars a.toHex.toList ≠ [] := fun a => by
    rw [WireAddress.trimChars_toHex, WireAddress.toList_toHex]
    exact List.cons_ne_nil _ _
  simp only [shapes, List.mem_cons, List.not_mem_nil, or_false] at h
  rcases h with rfl | rfl | rfl
  · rw [DeliveryEvent.rebuild, if_neg (hoctets _), if_neg (hoctets _), ofOctets, WireAddress.ofOctets_octets,
      WireAddress.ofOctets_octets]
    rfl
  · rw [DeliveryEvent.rebuild, if_neg (hdigits _), if_neg (hdigits _), ofHex, WireAddress.ofHex_toHex,
      WireAddress.ofHex_toHex]
    rfl
  · rw [DeliveryEvent.rebuild, decode?_encode]

end VestingBridge.Packet

namespace VestingBridge.WithdrawRequest

variable {payload : Octets} {id : StreamId} {value : Amount} {e : RequestError}

theorem operand?_eq_ok_iff : operand? value = .ok id ↔ id.val = value.val := by
  rw [← Word.ofNat?_eq_some_iff, operand?]
  cases (Word.ofNat? value.val : Option StreamId) <;> simp

theorem parse_zero_cons {operand : Octets} (h : operand.length = 8) :
    parse (0 :: operand) = .ok (.withdraw (Word.ofOctets 8 operand (Nat.le_of_eq h))) :=
  dif_pos h

/-- The payload that asks for a withdrawal is that of the request. -/
theorem withdrawal_eq_encode (id : StreamId) : withdrawal id = (withdraw id).encode := rfl

/-- **A request is read back from its payload.** -/
theorem parse_encode (r : WithdrawRequest) : parse r.encode = .ok r := by
  obtain ⟨id⟩ := r
  refine (parse_zero_cons (Word.length_octets 8 id)).trans ?_
  exact congrArg (fun id => Except.ok (WithdrawRequest.withdraw id)) (Word.ofOctets_octets 8 id _)

/-- **A payload asks for a stream** if it is a zero and the eight octets of the stream's number. -/
theorem parse_eq_ok_iff : parse payload = .ok (.withdraw id) ↔
    ∃ operand : Octets, payload = 0 :: operand ∧ operand.length = 8 ∧ id.val = operand.value := by
  constructor
  · intro h
    unfold parse at h
    split at h
    · cases h
    · split at h
      · rename_i hlength
        split at h
        · rename_i hfirst
          cases h
          exact ⟨_, by rw [hfirst, withdrawSelector], hlength, rfl⟩
        · cases h
      · cases h
  · rintro ⟨operand, rfl, hlength, hvalue⟩
    rw [parse_zero_cons hlength]
    exact congrArg (fun id => Except.ok (withdraw id)) (Fin.ext hvalue.symm)

theorem parse_eq_error_iff : parse payload = .error e ↔
    payload.length ≠ payloadLength ∧ e = .wrongLength payload.length ∨
    ∃ selector operand, payload = selector :: operand ∧ operand.length = 8 ∧ selector ≠ 0 ∧
      e = .unknownSelector selector := by
  cases payload with
  | nil => simp [parse, payloadLength, eq_comm]
  | cons first operand =>
    unfold parse withdrawSelector
    by_cases hlength : operand.length = 8
    · by_cases hfirst : first = 0
      · simp [hlength, hfirst, payloadLength]
      · simp [hlength, hfirst, payloadLength, and_assoc, eq_comm]
    · simp [hlength, payloadLength, eq_comm]

end VestingBridge.WithdrawRequest
