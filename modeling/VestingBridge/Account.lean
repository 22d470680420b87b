import VestingBridge.Keccak
import VestingBridge.WireAddress
/-!
# Account — the addresses of the host chain

An account is named by a text.  Which texts are accounts, and which octets an account has, is for the host to say; here
the host is one that takes three to ninety octets without a capital letter of ASCII, and whose accounts stand for their
own octets.  What is said of bridges rests on no more of its judgement than that an accepted text is kept as it is
(`Account.validate_ok`).  On the wire an account of at most thirty-two octets stands for itself, and any other is named
by its hash.
-/
namespace VestingBridge

/-- The name of an account or a contract of the host chain. -/
abbrev Account := String

/-- Why the host refuses a text as an account. -/
inductive AccountError where
  | tooShort
  | tooLong
  | notNormalized
deriving DecidableEq

/-- The text of the error. -/
def AccountError.message : AccountError → String
  | tooShort => "Generic error: Invalid input: human address too short"
  | tooLong => "Generic error: Invalid input: human address too long"
  | notNormalized => "Generic error: Invalid input: address not normalized"

namespace Account

/-- The fewest octets of an account's name. -/
def minOctets : Nat := 3

/-- The most octets of an account's name. -/
def maxOctets : Nat := 90

/-- **The octets of an account** as the host has them: those of its text, if there are not too many. -/
def canonical (a : Account) : Except AccountError Octets :=
  let bs := Text.Utf8.encode a
  if maxOctets < bs.length then .error .tooLong else .ok bs

/-- **The text as an account**, if the host accepts it.  This is the host's judgement and not the bridge's. -/
def validate (text : String) : Except AccountError Account :=
  if Text.Utf8.size text < minOctets then .error .tooShort
  else if maxOctets < Text.Utf8.size text then .error .tooLong
  else if text.toList.any Char.isUpper then .error .notNormalized
  else .ok text

/-- The wire address that the octets of an account give. -/
def wireOfOctets (bs : Octets) : WireAddress :=
  if h : bs ≠ [] ∧ bs.length ≤ 32 then ⟨bs.leftPad 32, Octets.length_leftPad h.2⟩
  else ⟨(Keccak.hash bs).octets, (Keccak.hash bs).length_eq⟩

/-- **The wire address of an account.** -/
def wire (a : Account) : Except AccountError WireAddress := a.canonical.map wireOfOctets

end Account

end VestingBridge
