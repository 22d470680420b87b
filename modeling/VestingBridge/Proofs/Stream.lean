import VestingBridge.Stream
/-!
# Proofs.Stream — how far a stream can be drawn on

No more than the deposit ever vests, so that a release never takes the withdrawn part above the deposit, whatever the
time on the clock.
-/
namespace VestingBridge.Stream

theorem vested?_vested (s : Stream) (now : Seconds) : s.vested? now = some (s.vested now) :=
  (Option.some_get _).symm

theorem vested_of_le_start {s : Stream} {now : Seconds} (h : now ≤ s.start) : s.vested now = Amount.zero := by
  have hv := s.vested?_vested now
  rw [vested?, if_pos h, Option.some.injEq] at hv
  exact hv.symm

theorem vested_of_stop_le {s : Stream} {now : Seconds} (hstart : s.start < now) (hstop : s.stop ≤ now) :
    s.vested now = s.deposit := by
  have hv := s.vested?_vested now
  rw [vested?, if_neg (Fin.not_le.2 hstart), if_pos hstop, Option.some.injEq] at hv
  exact hv.symm

theorem vested_of_between {s : Stream} {now : Seconds} (hstart : s.start < now) (hstop : now < s.stop) :
    (s.vested now).val = s.deposit.val * (now.val - s.start.val) / (s.stop.val - s.start.val) := by
  obtain ⟨a, ha, hval⟩ := vested?_of_between hstart hstop
  rw [vested?_vested, Option.some.injEq] at ha
  rw [ha, hval]

theorem vested_le_deposit (s : Stream) (now : Seconds) : (s.vested now).val ≤ s.deposit.val := by
  by_cases hstart : now ≤ s.start
  · rw [vested_of_le_start hstart]
    exact Nat.zero_le _
  · by_cases hstop : s.stop ≤ now
    · exact Nat.le_of_eq (by rw [vested_of_stop_le (Fin.not_le.1 hstart) hstop])
    · have hlt := Fin.not_le.1 hstop
      rw [vested_of_between (Fin.not_le.1 hstart) hlt]
      exact share_le _ _ _ (Nat.sub_le_sub_right (Nat.le_of_lt hlt) _)

theorem withdrawable_eq_zero_iff {s : Stream} {now : Seconds} :
    (s.withdrawable now).val = 0 ↔ s.vested now ≤ s.withdrawn := by
  rw [withdrawable, Word.val_monus, Fin.le_def]
  omega

/-- What was withdrawn and what may be withdrawn are what has vested, if no more was withdrawn than that. -/
theorem withdrawn_add_withdrawable {s : Stream} {now : Seconds} (h : s.withdrawn ≤ s.vested now) :
    s.withdrawn.val + (s.withdrawable now).val = (s.vested now).val := by
  rw [Fin.le_def] at h
  rw [withdrawable, Word.val_monus]
  omega

theorem withdrawn_add_withdrawable_le {s : Stream} (h : s.withdrawn.val ≤ s.deposit.val) (now : Seconds) :
    s.withdrawn.val + (s.withdrawable now).val ≤ s.deposit.val := by
  have hv := s.vested_le_deposit now
  rw [withdrawable, Word.val_monus]
  omega

/-- **A release takes all that has vested**, if that is more than was withdrawn.  The sum never fails, whatever the
record says. -/
theorem release_eq (s : Stream) (now : Seconds) : s.release now =
    if s.vested now ≤ s.withdrawn then .error .nothing
    else .ok (s.withdrawable now, { s with withdrawn := s.vested now }) := by
  by_cases hnothing : s.vested now ≤ s.withdrawn
  · simp [release, withdrawable_eq_zero_iff.2 hnothing, hnothing]
  · have hdue : (s.withdrawable now).val ≠ 0 := fun hzero => hnothing (withdrawable_eq_zero_iff.1 hzero)
    have hsum : s.withdrawn.add? (s.withdrawable now) = some (s.vested now) := by
      rw [Word.add?_eq_some_iff]
      exact (withdrawn_add_withdrawable (Nat.le_of_not_le hnothing)).symm
    simp [release, hdue, hnothing, hsum]

end VestingBridge.Stream
