import Mathlib.Data.List.Induction
/-!
# Proofs.Runs — what is driven by steps

A run is any sequence of steps from one state to another.  A step that lands leaves an entry in the log; one that comes
to nothing leaves none.  The runs of a bridge, of an endpoint and of a whole session are such runs.
-/
namespace VestingBridge

/-- **The runs of what is driven by steps**, with the entries of the log in order.
* `Lands s a t`: a step from `s` to `t` that is entered as `a`;
* `Passes s t`: a step from `s` to `t` that is not entered. -/
inductive Runs {σ α : Type} (Lands : σ → α → σ → Prop) (Passes : σ → σ → Prop) (s : σ) : List α → σ → Prop
  | start : Runs Lands Passes s [] s
  | land {log t a u} : Runs Lands Passes s log t → Lands t a u → Runs Lands Passes s (log ++ [a]) u
  | pass {log t u} : Runs Lands Passes s log t → Passes t u → Runs Lands Passes s log u

variable {σ α ο : Type} {Lands : σ → α → σ → Prop} {Passes : σ → σ → Prop} {s t u : σ} {log more : List α}

theorem Runs.trans (h : Runs Lands Passes s log t) (h' : Runs Lands Passes t more u) :
    Runs Lands Passes s (log ++ more) u := by
  induction h' with
  | start => rwa [List.append_nil]
  | land _ hland ih =>
    rw [← List.append_assoc]
    exact .land ih hland
  | pass _ hpass ih => exact .pass ih hpass

/-! ## Driving -/

/-- The log and the state after one more occasion, where `attempt` says what comes of it: the entry, if there is one,
and the next state.  An occasion that must not arise has no outcome. -/
def advance (attempt : σ → ο → Option (Option α × σ)) : List α × σ → ο → Option (List α × σ)
  | (log, s), occasion => (attempt s occasion).map fun (entry, t) => (log ++ entry.toList, t)

/-- **A state driven through occasions**: what lands, and the state at the end. -/
def drive (attempt : σ → ο → Option (Option α × σ)) (s : σ) (occasions : List ο) : Option (List α × σ) :=
  occasions.foldlM (advance attempt) ([], s)

variable {attempt : σ → ο → Option (Option α × σ)}

theorem drive_concat (attempt : σ → ο → Option (Option α × σ)) (s : σ) (occasions : List ο) (occasion : ο) :
    drive attempt s (occasions ++ [occasion]) = (drive attempt s occasions).bind (advance attempt · occasion) := by
  simp only [drive, List.foldlM_append, List.foldlM_cons, List.foldlM_nil, bind_pure]
  rfl

/-- **What something can be driven through is a run**, if what comes of each occasion is a step. -/
theorem runs_of_drive {occasions : List ο} (h : drive attempt s occasions = some (log, t))
    (lands : ∀ {t o a u}, attempt t o = some (some a, u) → Lands t a u)
    (passes : ∀ {t o u}, attempt t o = some (none, u) → Passes t u) : Runs Lands Passes s log t := by
  induction occasions using List.reverseRecOn generalizing log t with
  | nil =>
    cases h
    exact .start
  | append_singleton occasions occasion ih =>
    rw [drive_concat] at h
    obtain ⟨⟨before, v⟩, hbefore, h⟩ := Option.bind_eq_some_iff.1 h
    obtain ⟨⟨entry, w⟩, hentry, h⟩ := Option.map_eq_some_iff.1 h
    cases h
    cases entry with
    | none => exact (List.append_nil before).symm ▸ .pass (ih hbefore) (passes hentry)
    | some a => exact .land (ih hbefore) (lands hentry)

/-- **A run is what something can be driven through**, if each step comes of an occasion. -/
theorem Runs.exists_drive (lands : ∀ {t a u}, Lands t a u → ∃ o, attempt t o = some (some a, u))
    (passes : ∀ {t u}, Passes t u → ∃ o, attempt t o = some (none, u)) (h : Runs Lands Passes s log t) :
    ∃ occasions, drive attempt s occasions = some (log, t) := by
  induction h with
  | start => exact ⟨[], rfl⟩
  | @land log t a u _ hland ih =>
    obtain ⟨occasions, hdrive⟩ := ih
    obtain ⟨occasion, hoccasion⟩ := lands hland
    refine ⟨occasions ++ [occasion], ?_⟩
    rw [drive_concat, hdrive, Option.bind_some, advance, hoccasion]
    rfl
  | @pass log t u _ hpass ih =>
    obtain ⟨occasions, hdrive⟩ := ih
    obtain ⟨occasion, hoccasion⟩ := passes hpass
    refine ⟨occasions ++ [occasion], ?_⟩
    rw [drive_concat, hdrive, Option.bind_some, advance, hoccasion]
    exact congrArg (fun log => some (log, u)) (List.append_nil log)

end VestingBridge
