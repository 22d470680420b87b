import VestingBridge.Account
/-!
# Proofs.Account — accounts that the host accepts
-/
namespace VestingBridge.Account

theorem validate_ok {text : String} {account : Account} (h : validate text = .ok account) : account = text := by
  unfold validate at h
  split at h
  · cases h
  · split at h
    · cases h
    · split at h
      · cases h
      · exact (Except.ok.inj h).symm

theorem wire_eq_error_iff {account : Account} {e : AccountError} :
    account.wire = .error e ↔ account.canonical = .error e := by
  rw [wire]
  cases account.canonical <;> simp [Except.map]

end VestingBridge.Account
