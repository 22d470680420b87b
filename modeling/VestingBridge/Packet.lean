import VestingBridge.Keccak
import VestingBridge.WireAddress
/-!
# Packet — what travels between two chains

A packet says where it comes from, where it goes, its position on that path, and what it carries.  Its encoding is a
header of seventy-six octets and then the payload, so that every string of at least that length is the encoding of
exactly one packet.
-/
namespace VestingBridge

namespace Digest

/-- Digests are ordered as the numbers that they denote. -/
instance : Ord Digest := ⟨compareOn octets⟩

instance : Std.TransOrd Digest := inferInstanceAs (Std.TransCmp (compareOn octets))

instance : Std.LawfulEqOrd Digest where
  eq_of_compare {a b} h :=
    ext_octets (Std.LawfulEqOrd.eq_of_compare (show compare a.octets b.octets = .eq from h))

/-- The digest as sixty-four digits after the mark. -/
def toHex (d : Digest) : String := "0x" ++ Text.Hex.encode d.octets

example : (Keccak.hash []).toHex = "0xc5d2460186f7233c927e7db2dcc703c0e500b653ca82273b7bfad8045d85a470" := by
  decide +kernel

end Digest

/-- **A message from an address on one chain to an address on another.** -/
structure Packet where
  srcChain : ChainId
  src : WireAddress
  dstChain : ChainId
  dst : WireAddress
  nonce : Nonce
  payload : Octets
deriving DecidableEq

namespace Packet

/-- The number of octets before the payload. -/
def headerLength : Nat := 76

/-- **The octets of a packet.** -/
def encode (p : Packet) : Octets :=
  p.srcChain.octets 2 ++ p.src.octets ++ p.dstChain.octets 2 ++ p.dst.octets ++ p.nonce.octets 8 ++ p.payload

/-- **The packet that octets encode**, if there are enough of them for a header. -/
def decode? (bs : Octets) : Option Packet :=
  if h : headerLength ≤ bs.length then
    have h76 : 76 ≤ bs.length := h
    some {
      srcChain := Word.ofOctets 2 (bs.take 2) (by rw [List.length_take]; omega)
      src := ⟨(bs.drop 2).take 32, by simp only [List.length_take, List.length_drop]; omega⟩
      dstChain := Word.ofOctets 2 ((bs.drop 34).take 2) (by simp only [List.length_take, List.length_drop]; omega)
      dst := ⟨(bs.drop 36).take 32, by simp only [List.length_take, List.length_drop]; omega⟩
      nonce := Word.ofOctets 8 ((bs.drop 68).take 8) (by simp only [List.length_take, List.length_drop]; omega)
      payload := bs.drop 76 }
  else none

/-- The hash that names a packet. -/
def hash (p : Packet) : Digest := Keccak.hash p.encode

/-- The packet between two addresses given as octets. -/
def ofOctets (srcChain : ChainId) (src : Octets) (dstChain : ChainId) (dst : Octets) (nonce : Nonce)
    (payload : Octets) : Except AddressError Packet := do
  let src ← WireAddress.ofOctets src
  let dst ← WireAddress.ofOctets dst
  return { srcChain, src, dstChain, dst, nonce, payload }

/-- The packet between two addresses given as hexadecimal texts. -/
def ofHex (srcChain : ChainId) (src : String) (dstChain : ChainId) (dst : String) (nonce : Nonce)
    (payload : Octets) : Except AddressError Packet := do
  let src ← WireAddress.ofHex src
  let dst ← WireAddress.ofHex dst
  return { srcChain, src, dstChain, dst, nonce, payload }

end Packet

end VestingBridge
