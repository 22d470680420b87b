/-!
# Handler — calls that change a storage or refuse

A contract works on its storage step by step and may refuse at any of them.  A refusal undoes nothing by itself: the
storage that it leaves is what was written so far, and it is the caller who goes back to the storage before the call.
-/
namespace VestingBridge

/-- **A call on a storage**: it answers or refuses, and either way leaves a storage. -/
abbrev Handler (σ ε α : Type) := EStateM ε σ α

namespace Handler

variable {σ ε α : Type}

/-- A look at the storage, which may be a reason to refuse. -/
def look (f : σ → Except ε α) : Handler σ ε α := do ofExcept (f (← get))

/-- An outcome whose error becomes one of this contract. -/
def check {δ : Type} (wrap : δ → ε) (x : Except δ α) : Handler σ ε α := ofExcept (x.mapError wrap)

/-- Refuse unless the condition holds. -/
def require (p : Prop) [Decidable p] (e : ε) : Handler σ ε Unit := if p then pure () else throw e

/-- **The call as a whole**: the answer with the storage after it, or the refusal alone. -/
def commit (m : Handler σ ε α) (s : σ) : Except ε (α × σ) :=
  match m.run s with
  | .ok a s => .ok (a, s)
  | .error e _ => .error e

/-! ## What the steps do to a storage -/

@[simp] theorem run_look (f : σ → Except ε α) (s : σ) :
    (look f).run s = match f s with
      | .ok a => .ok a s
      | .error e => .error e s := by
  change EStateM.run (ofExcept (f s) : Handler σ ε α) s = _
  cases f s <;> rfl

@[simp] theorem run_check {δ : Type} (wrap : δ → ε) (x : Except δ α) (s : σ) :
    (check wrap x : Handler σ ε α).run s = match x with
      | .ok a => .ok a s
      | .error e => .error (wrap e) s := by
  cases x <;> rfl

@[simp] theorem run_require (p : Prop) [Decidable p] (e : ε) (s : σ) :
    (require p e : Handler σ ε Unit).run s = if p then .ok () s else .error e s := by
  unfold require
  split <;> rfl

/-- A call lands if it answers. -/
theorem commit_eq_ok_iff {m : Handler σ ε α} {s t : σ} {a : α} : m.commit s = .ok (a, t) ↔ m.run s = .ok a t := by
  unfold commit
  split <;> simp_all

/-- A call that does not land is refused for the same cause. -/
theorem commit_eq_error_iff {m : Handler σ ε α} {s : σ} {e : ε} :
    m.commit s = .error e ↔ ∃ t, m.run s = .error e t := by
  unfold commit
  split <;> simp_all

end Handler

end VestingBridge
