import VestingBridge.Proofs.Endpoint.Sends
import VestingBridge.Proofs.Messages
import VestingBridge.Proofs.Session.Streams
/-!
# Proofs.Session.Sends — no number is given twice

The packets that leave an endpoint bear the numbers of their paths in order, so that no two of an application are the
same.  On a path whose last number was given the next call brings the whole step to nothing.
-/
namespace VestingBridge.Session

open Endpoint (emittedBy sentOn)

variable {t : Session} {E : Account} {entry : Entry} {event : Endpoint.Event} {e : Endpoint.Store}
  {log : List Endpoint.Landing}

/-- An application asks an endpoint. -/
def asks (sender : Account) (call : EndpointCall) : Entry := .execute ⟨sender, []⟩ (Call.endpoint call).toJson

/-- The octets of an address as they stand on the wire. -/
def padded : Octets := Octets.leftPad 32 [0x0a]

/-- One address is written in three ways, and another chain and another application come in between. -/
def addressed : List Occasion := [
  ⟨some 10, "endpoint", .create ⟨"owner", []⟩ (Endpoint.Setup.toJson ⟨108, "relayer"⟩)⟩,
  ⟨none, "endpoint", asks "alice" (.register ⟨"alice", "M", "S"⟩)⟩,
  ⟨none, "endpoint", asks "bob" (.register ⟨"bob", "M", "S"⟩)⟩,
  ⟨none, "endpoint", asks "alice" (.send 5 [0x0a] [1])⟩,
  ⟨none, "endpoint", asks "alice" (.send 6 [0x0a] [1])⟩,
  ⟨none, "endpoint", asks "alice" (.send 5 [0x00, 0x0a] [1])⟩,
  ⟨none, "endpoint", asks "bob" (.send 5 [0x0a] [1])⟩,
  ⟨none, "endpoint", asks "carol" (.send 5 [0x0a] [1])⟩,
  ⟨none, "endpoint", asks "alice" (.send 5 padded [1])⟩]

end VestingBridge.Session
