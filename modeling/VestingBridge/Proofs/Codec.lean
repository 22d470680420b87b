import Mathlib.Data.Set.Function
import VestingBridge.Bridge.View
import VestingBridge.Proofs.DeliveryEvent
/-!
# Proofs.Codec — octets, and the packets and requests that they stand for

A packet lies in octets at fixed places (`Packet.LiesIn`), and a request does (`WithdrawRequest.LiesIn`).  Writing and
reading both agree with these places, so that octets of the right length stand for one packet and for at most one
request.  An operand is looked at before it is written, so that no payload asks for another stream than was meant.
-/
namespace VestingBridge

namespace Packet

variable {p : Packet} {bs : Octets} {e : EventError}

/-- **Where the parts of a packet lie.**  Numbers have their most significant octet first; the payload is whatever
follows the header. -/
structure LiesIn (p : Packet) (bs : Octets) : Prop where
  header : 76 ≤ bs.length
  srcChain : Octets.value (bs.take 2) = p.srcChain.val
  src : (bs.drop 2).take 32 = p.src.octets
  dstChain : Octets.value ((bs.drop 34).take 2) = p.dstChain.val
  dst : (bs.drop 36).take 32 = p.dst.octets
  nonce : Octets.value ((bs.drop 68).take 8) = p.nonce.val
  payload : bs.drop 76 = p.payload

/-- **What is read lies there.** -/
theorem decode?_eq_some_iff_liesIn : decode? bs = some p ↔ p.LiesIn bs := by
  constructor
  · intro h
    unfold decode? at h
    split at h
    · rename_i hlength
      cases h
      exact ⟨hlength, rfl, rfl, rfl, rfl, rfl, rfl⟩
    · cases h
  · rintro ⟨hheader, hsrcChain, hsrc, hdstChain, hdst, hnonce, hpayload⟩
    have hlength : headerLength ≤ bs.length := hheader
    rw [decode?, dif_pos hlength, Option.some.injEq]
    obtain ⟨srcChain, src, dstChain, dst, nonce, payload⟩ := p
    congr 1
    · exact Fin.ext hsrcChain
    · exact WireAddress.ext_octets hsrc
    · exact Fin.ext hdstChain
    · exact WireAddress.ext_octets hdst
    · exact Fin.ext hnonce

/-- **What is written lies there**, and nothing else does. -/
theorem encode_eq_iff_liesIn : p.encode = bs ↔ p.LiesIn bs := by
  rw [← decode?_eq_some_iff_liesIn, decode?_eq_some_iff]
  exact eq_comm

theorem exists_decode?_iff : (∃ p, decode? bs = some p) ↔ headerLength ≤ bs.length := by
  rw [← Option.isSome_iff_exists, ← Nat.not_lt, ← decode?_eq_none_iff, Option.isSome_iff_ne_none]

theorem rebuild_encoded_eq_error_iff :
    (DeliveryEvent.encoded bs).rebuild = .error e ↔ bs.length < headerLength ∧ e = .tooShort bs.length := by
  rw [← decode?_eq_none_iff, DeliveryEvent.rebuild]
  cases decode? bs with
  | none => simp [eq_comm]
  | some p => simp

/-- **Packets and the octets that are long enough stand for each other one by one.**  A packet is read back from its
octets, octets of at least a header's length are those of the packet that is read from them, and shorter ones are
refused for their shape.  Both directions go by the same places. -/
theorem codec_bijective :
    (∀ p bs, (p.encode = bs ↔ p.LiesIn bs) ∧ (decode? bs = some p ↔ p.LiesIn bs)) ∧
    (∀ p, decode? p.encode = some p) ∧
    (∀ bs, (∃ p, decode? bs = some p) ↔ 76 ≤ bs.length) ∧
    (∀ bs p, decode? bs = some p → p.encode = bs) ∧
    (∀ bs e, (DeliveryEvent.encoded bs).rebuild = .error e ↔ bs.length < 76 ∧ e = .tooShort bs.length) ∧
    (∀ count, (EventError.tooShort count).IsShape) ∧
    Set.BijOn encode Set.univ {bs | 76 ≤ bs.length} := by
  refine ⟨fun p bs => ⟨encode_eq_iff_liesIn, decode?_eq_some_iff_liesIn⟩, decode?_encode, fun bs => exists_decode?_iff,
    fun bs p => encode_of_decode?, fun bs e => rebuild_encoded_eq_error_iff, fun count => ⟨_, rfl⟩, ?_, ?_, ?_⟩
  · intro p _
    exact exists_decode?_iff.1 ⟨p, decode?_encode p⟩
  · intro p _ q _ h
    exact encode_inj h
  · intro bs hlength
    obtain ⟨p, hp⟩ := exists_decode?_iff.2 hlength
    exact ⟨p, Set.mem_univ p, encode_of_decode? hp⟩

end Packet

namespace WithdrawRequest

variable {payload : Octets} {r : WithdrawRequest} {id : StreamId} {selector : UInt8} {count : Nat} {value : Amount}

/-- **Where the parts of a request lie**: the selector first, then the number of the stream. -/
structure LiesIn (id : StreamId) (payload : Octets) : Prop where
  length : payload.length = 9
  selector : payload.head? = some 0
  operand : Octets.value payload.tail = id.val

theorem parse_eq_ok_iff_liesIn : parse payload = .ok (.withdraw id) ↔ LiesIn id payload := by
  rw [parse_eq_ok_iff]
  constructor
  · rintro ⟨operand, rfl, hlength, hvalue⟩
    exact ⟨congrArg (· + 1) hlength, rfl, hvalue.symm⟩
  · rintro ⟨hlength, hselector, hoperand⟩
    obtain ⟨operand, rfl⟩ := List.head?_eq_some_iff.1 hselector
    exact ⟨operand, rfl, Nat.succ.inj hlength, hoperand.symm⟩

/-- **A payload is that of the request that is read from it.** -/
theorem encode_of_parse (h : parse payload = .ok r) : r.encode = payload := by
  obtain ⟨id⟩ := r
  obtain ⟨operand, rfl, hlength, hvalue⟩ := parse_eq_ok_iff.1 h
  have hoctets : id.octets 8 = operand := by
    refine Octets.eq_of_value ((Word.length_octets 8 id).trans hlength.symm) ?_
    rw [← hvalue]
    exact Octets.value_ofValue id.isLt
  exact congrArg (0 :: ·) hoctets

theorem parse_eq_ok_iff_encode : parse payload = .ok r ↔ r.encode = payload :=
  ⟨encode_of_parse, fun h => h ▸ parse_encode r⟩

theorem exists_parse_iff : (∃ r, parse payload = .ok r) ↔ payload.length = 9 ∧ payload.head? = some 0 := by
  constructor
  · rintro ⟨⟨id⟩, h⟩
    have hlies := parse_eq_ok_iff_liesIn.1 h
    exact ⟨hlies.length, hlies.selector⟩
  · rintro ⟨hlength, hselector⟩
    obtain ⟨operand, rfl⟩ := List.head?_eq_some_iff.1 hselector
    exact ⟨_, parse_zero_cons (Nat.succ.inj hlength)⟩

/-- A payload of the wrong length is refused for it, whatever its selector is. -/
theorem parse_wrongLength_iff : parse payload = .error (.wrongLength count) ↔
    payload.length ≠ 9 ∧ count = payload.length := by
  simp [parse_eq_error_iff, payloadLength]

theorem parse_unknownSelector_iff : parse payload = .error (.unknownSelector selector) ↔
    payload.length = 9 ∧ payload.head? = some selector ∧ selector ≠ 0 := by
  rw [parse_eq_error_iff]
  constructor
  · rintro (⟨-, h⟩ | ⟨_, operand, rfl, hlength, hother, h⟩)
    · cases h
    · cases h
      exact ⟨congrArg (· + 1) hlength, rfl, hother⟩
  · rintro ⟨hlength, hselector, hother⟩
    obtain ⟨operand, rfl⟩ := List.head?_eq_some_iff.1 hselector
    exact .inr ⟨selector, operand, rfl, Nat.succ.inj hlength, hother, rfl⟩

theorem exists_operand?_iff : (∃ id, operand? value = .ok id) ↔ value.val < 0x10000000000000000 := by
  simp only [operand?_eq_ok_iff]
  constructor
  · rintro ⟨id, hid⟩
    exact hid ▸ id.isLt
  · intro hlt
    exact ⟨⟨value.val, hlt⟩, rfl⟩

/-- **The payload that a bridge shows for a value asks for the stream of that very number.** -/
theorem withdrawPayload_eq_ok_iff :
    Bridge.withdrawPayload value = .ok payload ↔ ∃ id, id.val = value.val ∧ parse payload = .ok (.withdraw id) := by
  simp only [← operand?_eq_ok_iff, parse_eq_ok_iff_encode, Bridge.withdrawPayload]
  cases operand? value with
  | error e => simp
  | ok id => simp [withdrawal_eq_encode]

/-- **Requests and their payloads stand for each other one by one**, and a request is made only of a number that fits.
The payload that a bridge writes to ask for a withdrawal is the one of the request.  A payload that stands for none is
refused for its length, and for its selector only if its length is right. -/
theorem payload_exact :
    (∀ id payload, ((withdraw id).encode = payload ↔ LiesIn id payload) ∧
      (parse payload = .ok (.withdraw id) ↔ LiesIn id payload)) ∧
    (∀ id, withdrawal id = (withdraw id).encode) ∧
    (∀ id, parse (withdraw id).encode = .ok (.withdraw id)) ∧
    (∀ payload, (∃ r, parse payload = .ok r) ↔ payload.length = 9 ∧ payload.head? = some 0) ∧
    (∀ payload r, parse payload = .ok r → r.encode = payload) ∧
    (∀ payload count, parse payload = .error (.wrongLength count) ↔ payload.length ≠ 9 ∧ count = payload.length) ∧
    (∀ payload selector, parse payload = .error (.unknownSelector selector) ↔
      payload.length = 9 ∧ payload.head? = some selector ∧ selector ≠ 0) ∧
    (∀ value, (∃ id, operand? value = .ok id) ↔ value.val < 0x10000000000000000) ∧
    (∀ value id, operand? value = .ok id → parse (withdraw id).encode = .ok (.withdraw id) ∧ id.val = value.val) ∧
    ∀ value payload, Bridge.withdrawPayload value = .ok payload ↔
      ∃ id, id.val = value.val ∧ parse payload = .ok (.withdraw id) := by
  refine ⟨fun id payload => ⟨?_, parse_eq_ok_iff_liesIn⟩, withdrawal_eq_encode, fun id => parse_encode _,
    fun payload => exists_parse_iff, fun payload r => encode_of_parse, fun payload count => parse_wrongLength_iff,
    fun payload selector => parse_unknownSelector_iff, fun value => exists_operand?_iff, fun value id hid => ?_,
    fun value payload => withdrawPayload_eq_ok_iff⟩
  · rw [← parse_eq_ok_iff_liesIn, parse_eq_ok_iff_encode]
  · exact ⟨parse_encode _, operand?_eq_ok_iff.1 hid⟩

end WithdrawRequest

end VestingBridge
