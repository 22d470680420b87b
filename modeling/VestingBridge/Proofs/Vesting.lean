import Mathlib.Order.Fin.Basic
import Mathlib.Order.MinMax
import VestingBridge.Proofs.Stream
/-!
# Proofs.Vesting — the schedule of a stream as one formula

What has vested is computed by cases, and between the start and the stop in steps that could fail.  They never do.
Where the stop comes after the start the cases are one formula: the share of the deposit in the time that has passed,
with the time kept between the start and the stop.  Whatever the record says, more time never vests less.
-/
namespace VestingBridge.Stream

variable {s : Stream} {now later : Seconds}

/-- The time kept between the start and the stop. -/
def clamped (s : Stream) (now : Seconds) : Nat := max s.start.val (min now.val s.stop.val)

theorem clamped_mono (s : Stream) (h : now ≤ later) : s.clamped now ≤ s.clamped later := by
  have := Fin.le_def.1 h
  unfold clamped
  omega

theorem vested_eq (h : s.start < s.stop) (now : Seconds) :
    (s.vested now).val = s.deposit.val * (s.clamped now - s.start.val) / (s.stop.val - s.start.val) := by
  have hschedule := Fin.lt_def.1 h
  by_cases hstart : now ≤ s.start
  · have hclamped : s.clamped now - s.start.val = 0 := by
      have := Fin.le_def.1 hstart
      unfold clamped
      omega
    rw [vested_of_le_start hstart, hclamped, Nat.mul_zero, Nat.zero_div]
    rfl
  · have hafter := Fin.lt_def.1 (Fin.not_le.1 hstart)
    by_cases hstop : s.stop ≤ now
    · have hclamped : s.clamped now = s.stop.val := by
        have := Fin.le_def.1 hstop
        unfold clamped
        omega
      rw [vested_of_stop_le (Fin.not_le.1 hstart) hstop, hclamped, Nat.mul_div_cancel _ (by omega)]
    · have hclamped : s.clamped now = now.val := by
        have := Fin.lt_def.1 (Fin.not_le.1 hstop)
        unfold clamped
        omega
      rw [vested_of_between (Fin.not_le.1 hstart) (Fin.not_le.1 hstop), hclamped]

/-- **More time never vests less.** -/
theorem vested_mono (s : Stream) (h : now ≤ later) : s.vested now ≤ s.vested later := by
  by_cases hschedule : s.start < s.stop
  · rw [Fin.le_def, vested_eq hschedule, vested_eq hschedule]
    exact Nat.div_le_div_right (Nat.mul_le_mul_left _ (Nat.sub_le_sub_right (s.clamped_mono h) _))
  · -- everything vests at once, just after the start
    by_cases hstart : now ≤ s.start
    · rw [vested_of_le_start hstart]
      exact Nat.zero_le _
    · have hnow := Fin.not_le.1 hstart
      have hstop := le_of_lt (lt_of_le_of_lt (Fin.not_lt.1 hschedule) hnow)
      rw [vested_of_stop_le hnow hstop, vested_of_stop_le (lt_of_lt_of_le hnow h) (le_trans hstop h)]

theorem vested_max (s : Stream) (now later : Seconds) :
    s.vested (max now later) = max (s.vested now) (s.vested later) :=
  Monotone.map_max fun _ _ h => s.vested_mono h

theorem vested_of_zero (s : Stream) (h : now.val = 0) : s.vested now = Amount.zero := by
  refine vested_of_le_start (Fin.le_def.2 ?_)
  rw [h]
  exact Nat.zero_le _

/-- **Between the start and the stop** both differences of times are there, the divisor is not zero, and neither the
product nor the share is too large. -/
theorem steps_of_between (hstart : s.start < now) (hstop : now < s.stop) :
    ∃ elapsed duration : Seconds, now.sub? s.start = some elapsed ∧ s.stop.sub? s.start = some duration ∧
      duration.val ≠ 0 ∧ s.deposit.val * elapsed.val < Octets.count 32 ∧
      s.deposit.val * elapsed.val / duration.val < Octets.count 16 := by
  have hv := s.vested?_vested now
  rw [vested?, if_neg (Fin.not_le.2 hstart), if_neg (Fin.not_le.2 hstop)] at hv
  obtain ⟨elapsed, helapsed, hv⟩ := Option.bind_eq_some_iff.1 hv
  obtain ⟨duration, hduration, hv⟩ := Option.bind_eq_some_iff.1 hv
  obtain ⟨hpositive, hshare⟩ := Word.scale?_eq_some_iff.1 hv
  refine ⟨elapsed, duration, helapsed, hduration, hpositive, ?_, ?_⟩
  · exact Nat.lt_of_lt_of_le (Nat.mul_lt_mul'' s.deposit.isLt elapsed.isLt) (by decide)
  · rw [← hshare]
    exact (s.vested now).isLt

/-- **How a stream vests**, whatever its record says.
* `defined`, `steps`: none of the steps fails, be it a difference of times, the division or the size of the share.
* `bounded`, `monotone`: no more than the deposit vests, and more time never vests less.
* `linear`: where the stop comes after the start, the share is that of the time kept between them.
* `released`, `refused`: a release takes the withdrawn part up to what has vested; it is refused if there is no more,
  and never for the sum. -/
structure Vests (s : Stream) : Prop where
  defined : ∀ now, s.vested? now = some (s.vested now)
  steps : ∀ now, s.start < now → now < s.stop → ∃ elapsed duration : Seconds, now.sub? s.start = some elapsed ∧
    s.stop.sub? s.start = some duration ∧ duration.val ≠ 0 ∧ s.deposit.val * elapsed.val < Octets.count 32 ∧
    s.deposit.val * elapsed.val / duration.val < Octets.count 16
  bounded : ∀ now, s.vested now ≤ s.deposit
  monotone : ∀ now later, now ≤ later → s.vested now ≤ s.vested later
  linear : s.start < s.stop → ∀ now,
    (s.vested now).val = s.deposit.val * (s.clamped now - s.start.val) / (s.stop.val - s.start.val)
  released : ∀ now amount left, s.release now = .ok (amount, left) ↔ s.withdrawn < s.vested now ∧
    amount.val = (s.vested now).val - s.withdrawn.val ∧ left = { s with withdrawn := max s.withdrawn (s.vested now) }
  refused : ∀ now cause, s.release now = .error cause ↔ s.vested now ≤ s.withdrawn ∧ cause = .nothing

theorem release_eq_ok_iff {amount : Amount} {left : Stream} : s.release now = .ok (amount, left) ↔
    s.withdrawn < s.vested now ∧ amount.val = (s.vested now).val - s.withdrawn.val ∧
      left = { s with withdrawn := max s.withdrawn (s.vested now) } := by
  rw [release_eq]
  by_cases hnothing : s.vested now ≤ s.withdrawn
  · simp [hnothing]
  · have hmore := lt_of_not_ge hnothing
    rw [if_neg hnothing, max_eq_right hmore.le]
    constructor
    · intro h
      cases h
      exact ⟨hmore, rfl, rfl⟩
    · rintro ⟨-, hamount, rfl⟩
      rw [show amount = s.withdrawable now from Fin.ext hamount]

theorem release_eq_error_iff {cause : ReleaseError} :
    s.release now = .error cause ↔ s.vested now ≤ s.withdrawn ∧ cause = .nothing := by
  rw [release_eq]
  by_cases hnothing : s.vested now ≤ s.withdrawn
  · simp [hnothing, eq_comm]
  · simp [hnothing]

/-- **The arithmetic of every stream is safe, bounded and monotone**, at every time. -/
theorem vesting_exact (s : Stream) : s.Vests where
  defined := s.vested?_vested
  steps _ := steps_of_between
  bounded := s.vested_le_deposit
  monotone _ _ := s.vested_mono
  linear := vested_eq
  released _ _ _ := release_eq_ok_iff
  refused _ _ := release_eq_error_iff

end VestingBridge.Stream
