import VestingBridge.Session.World
/-!
# Session.Step — a world over time

A session is a world and a clock.  A step lands as a whole or not at all: where any contract refuses, every storage is
as it was before the step.  The clock is set from outside and does not go back with the storages.
-/
namespace VestingBridge

/-- **A world and the time on its clock.** -/
structure Session where
  world : Session.World
  now : Seconds

namespace Session

/-- The time at which a session starts. -/
def epoch : Seconds := ⟨1571797419, by decide⟩

/-- The whole seconds in a number of nanoseconds. -/
def secondsOf? (nanoseconds : Nat) : Option Seconds := Word.ofNat? (nanoseconds / 1000000000)

/-- A session of contracts that were never called. -/
def start (contracts : List (Account × Contract)) : Session :=
  ⟨contracts.foldl (fun w c => w.insert c.1 c.2) ∅, epoch⟩

/-- The session with its clock set, if a time is given. -/
def setClock (s : Session) (now : Option Seconds) : Session := { s with now := now.getD s.now }

/-- **One step**: the contracts that were entered or why none was, and the session after it. -/
def step (s : Session) (self : Account) (entry : Entry) : Except Failure (List Visit) × Session :=
  match s.world.call s.now self entry with
  | .ok (world, visits) => (.ok visits, { s with world })
  | .error e => (.error e, s)

/-- The storage of the contract at an address is written to directly. -/
def overwrite (s : Session) (self : Account) (f : Contract → Contract) : Session :=
  match s.world.get? self with
  | some c => { s with world := s.world.insert self (f c) }
  | none => s

end Session

end VestingBridge
