import VestingBridge.Response
/-!
# Stream — deposits that vest over time

A stream holds a deposit for a recipient.  Nothing has vested up to its start, everything from its stop on, and in
between a share in proportion to the time, rounded down.  The recipient is owed what has vested less what was
withdrawn.
-/
namespace VestingBridge

/-- **A deposit that vests between two points in time.** -/
structure Stream where
  id : StreamId
  sender : Account
  recipient : Account
  assetType : TypeTag
  asset : Holding
  deposit : Amount
  withdrawn : Amount
  start : Seconds
  stop : Seconds
  created : Seconds
deriving DecidableEq

namespace Stream

/-- What has vested, by steps each of which may fail: two differences of times, and a product that is divided. -/
def vested? (s : Stream) (now : Seconds) : Option Amount :=
  if now ≤ s.start then some Amount.zero
  else if s.stop ≤ now then some s.deposit
  else do s.deposit.scale? (← now.sub? s.start) (← s.stop.sub? s.start)

/-- A share of a deposit is no more than the deposit. -/
theorem share_le (deposit elapsed duration : Nat) (h : elapsed ≤ duration) :
    deposit * elapsed / duration ≤ deposit := by
  refine Nat.div_le_of_le_mul ?_
  rw [Nat.mul_comm duration]
  exact Nat.mul_le_mul_left _ h

/-- Between the start and the stop the steps give the share of the time that has passed. -/
theorem vested?_of_between {s : Stream} {now : Seconds} (hstart : s.start.val < now.val)
    (hstop : now.val < s.stop.val) :
    ∃ a : Amount, s.vested? now = some a ∧
      a.val = s.deposit.val * (now.val - s.start.val) / (s.stop.val - s.start.val) := by
  have hle := share_le s.deposit.val (now.val - s.start.val) (s.stop.val - s.start.val) (by omega)
  have hn := now.isLt
  have hs := s.stop.isLt
  let elapsed : Seconds := ⟨now.val - s.start.val, by omega⟩
  let duration : Seconds := ⟨s.stop.val - s.start.val, by omega⟩
  let share : Amount := ⟨_, Nat.lt_of_le_of_lt hle s.deposit.isLt⟩
  have he : now.sub? s.start = some elapsed :=
    Word.sub?_eq_some_iff.2 (show now.val = s.start.val + (now.val - s.start.val) by omega)
  have hd : s.stop.sub? s.start = some duration :=
    Word.sub?_eq_some_iff.2 (show s.stop.val = s.start.val + (s.stop.val - s.start.val) by omega)
  have hsh : s.deposit.scale? elapsed duration = some share :=
    Word.scale?_eq_some_iff.2 ⟨show s.stop.val - s.start.val ≠ 0 by omega, rfl⟩
  refine ⟨share, ?_, rfl⟩
  unfold vested?
  rw [if_neg (by rw [Fin.le_def]; omega), if_neg (by rw [Fin.le_def]; omega), he, hd]
  exact hsh

/-- None of the steps fails. -/
theorem isSome_vested? (s : Stream) (now : Seconds) : (s.vested? now).isSome := by
  by_cases hstart : now ≤ s.start
  · rw [vested?, if_pos hstart]
    rfl
  · by_cases hstop : s.stop ≤ now
    · rw [vested?, if_neg hstart, if_pos hstop]
      rfl
    · rw [Fin.le_def] at hstart hstop
      obtain ⟨a, ha, -⟩ := @vested?_of_between s now (by omega) (by omega)
      rw [ha]
      rfl

/-- **What has vested at a point in time.** -/
def vested (s : Stream) (now : Seconds) : Amount := (s.vested? now).get (s.isSome_vested? now)

/-- **What the recipient may withdraw**: what has vested beyond what was withdrawn. -/
def withdrawable (s : Stream) (now : Seconds) : Amount := (s.vested now).monus s.withdrawn

/-- Why nothing is released. -/
inductive ReleaseError where
  | nothing
  | overflow
deriving DecidableEq

/-- **The release of all that may be withdrawn**: the amount, and the stream after it. -/
def release (s : Stream) (now : Seconds) : Except ReleaseError (Amount × Stream) :=
  let amount := s.withdrawable now
  if amount.val = 0 then .error .nothing
  else
    match s.withdrawn.add? amount with
    | some withdrawn => .ok (amount, { s with withdrawn })
    | none => .error .overflow

/-- The payment of an amount to the recipient. -/
def payout (s : Stream) (amount : Amount) : Message := s.asset.payment s.recipient amount

/-- The stream as it is kept. -/
def toJson (s : Stream) : Json := .object [
  ("id", .ofWord s.id), ("sender", .string s.sender), ("recipient", .string s.recipient),
  ("asset_type", s.assetType.toJson), ("asset", s.asset.toJson),
  ("deposit", .ofAmount s.deposit), ("withdrawn", .ofAmount s.withdrawn),
  ("start_time", .ofWord s.start), ("stop_time", .ofWord s.stop), ("created_at", .ofWord s.created)]

end Stream

end VestingBridge
