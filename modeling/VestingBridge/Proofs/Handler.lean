import VestingBridge.Handler
/-!
# Proofs.Handler — how a call that landed is taken apart

A call lands as a whole exactly if each of its steps lands on the storage that the one before it left
(`commit_bind_eq_ok_iff`).  Steps that only look leave the storage as it is, so that the laws of a step and what
follows it speak of one storage: with them a landed call opens to the conditions that it checked, the storage that it
left and the answer that it gave.  A call that is refused opens in the same way to the step that refused it, and leaves
the storage as it was if nothing was written before that step (`ChecksFirst`).  A call comes out alike on two storages
if each of its steps does (`Alike`).
-/
namespace VestingBridge.Handler

variable {σ ε α β δ : Type}

/-- A sequence of calls, as a whole: the second works on what the first left. -/
theorem commit_bind {m : Handler σ ε α} {f : α → Handler σ ε β} {s : σ} :
    (m >>= f).commit s = (m.commit s).bind fun p => (f p.1).commit p.2 := by
  rw [commit, commit, EStateM.run_bind]
  cases m.run s <;> rfl

/-- **A sequence of calls lands if the first lands, and the second on what the first left.** -/
theorem commit_bind_eq_ok_iff {m : Handler σ ε α} {f : α → Handler σ ε β} {s u : σ} {b : β} :
    (m >>= f).commit s = .ok (b, u) ↔ ∃ a t, m.commit s = .ok (a, t) ∧ (f a).commit t = .ok (b, u) := by
  rw [commit_bind]
  cases m.commit s with
  | ok p =>
    constructor
    · intro h
      exact ⟨p.1, p.2, rfl, h⟩
    · rintro ⟨a, t, h, hf⟩
      cases h
      exact hf
  | error e => exact ⟨nofun, fun ⟨_, _, h, _⟩ => nomatch h⟩

/-- A step that only looks: it answers `x`, or refuses, and leaves the storage as it is. -/
theorem commit_bind_of_looks {m : Handler σ ε α} {x : Except ε α} {f : α → Handler σ ε β} {s u : σ} {b : β}
    (hm : m.commit s = x.map (·, s)) :
    (m >>= f).commit s = .ok (b, u) ↔ ∃ a, x = .ok a ∧ (f a).commit s = .ok (b, u) := by
  rw [commit_bind_eq_ok_iff, hm]
  cases x with
  | error e => simp [Except.map]
  | ok a =>
    constructor
    · rintro ⟨a', t, h, hf⟩
      cases h
      exact ⟨a, rfl, hf⟩
    · rintro ⟨a', h, hf⟩
      cases h
      exact ⟨a, s, rfl, hf⟩

theorem commit_look {g : σ → Except ε α} {s : σ} : (look g).commit s = (g s).map (·, s) := by
  rw [commit, run_look]
  cases g s <;> rfl

theorem commit_check {wrap : δ → ε} {x : Except δ α} {s : σ} :
    (check wrap x : Handler σ ε α).commit s = (x.mapError wrap).map (·, s) := by
  rw [commit, run_check]
  cases x <;> rfl

theorem commit_ofExcept {x : Except ε α} {s : σ} : (ofExcept x : Handler σ ε α).commit s = x.map (·, s) := by
  cases x <;> rfl

theorem commit_require {p : Prop} [Decidable p] {e : ε} {s : σ} :
    (require p e : Handler σ ε Unit).commit s = (if p then Except.ok () else .error e).map (·, s) := by
  rw [commit, run_require]
  by_cases h : p
  · rw [if_pos h, if_pos h]
    rfl
  · rw [if_neg h, if_neg h]
    rfl

theorem toOption_eq_some_iff {x : Except ε α} {a : α} : x.toOption = some a ↔ x = .ok a := by
  cases x <;> simp [Except.toOption]

theorem mapError_eq_ok_iff {wrap : δ → ε} {x : Except δ α} {a : α} : x.mapError wrap = .ok a ↔ x = .ok a := by
  cases x with
  | error e => exact ⟨nofun, nofun⟩
  | ok b =>
    constructor
    · intro h
      cases h
      rfl
    · intro h
      cases h
      rfl

theorem mapError_eq_error_iff {wrap : δ → ε} {x : Except δ α} {e : ε} :
    x.mapError wrap = .error e ↔ ∃ d, x = .error d ∧ wrap d = e := by
  cases x with
  | error d =>
    constructor
    · intro h
      exact ⟨d, rfl, Except.error.inj h⟩
    · rintro ⟨d', h, rfl⟩
      cases h
      rfl
  | ok a => exact ⟨nofun, nofun⟩

theorem commit_look_bind {g : σ → Except ε α} {f : α → Handler σ ε β} {s u : σ} {b : β} :
    (look g >>= f).commit s = .ok (b, u) ↔ ∃ a, g s = .ok a ∧ (f a).commit s = .ok (b, u) :=
  commit_bind_of_looks commit_look

theorem commit_check_bind {wrap : δ → ε} {x : Except δ α} {f : α → Handler σ ε β} {s u : σ} {b : β} :
    (check wrap x >>= f).commit s = .ok (b, u) ↔ ∃ a, x = .ok a ∧ (f a).commit s = .ok (b, u) := by
  simp only [commit_bind_of_looks commit_check, mapError_eq_ok_iff]

theorem commit_ofExcept_bind {x : Except ε α} {f : α → Handler σ ε β} {s u : σ} {b : β} :
    ((ofExcept x : Handler σ ε α) >>= f).commit s = .ok (b, u) ↔ ∃ a, x = .ok a ∧ (f a).commit s = .ok (b, u) :=
  commit_bind_of_looks commit_ofExcept

theorem commit_get_bind {f : σ → Handler σ ε β} {s u : σ} {b : β} :
    ((get : Handler σ ε σ) >>= f).commit s = .ok (b, u) ↔ (f s).commit s = .ok (b, u) := by
  rw [commit_bind]
  rfl

theorem commit_require_bind {p : Prop} [Decidable p] {e : ε} {f : Unit → Handler σ ε β} {s u : σ} {b : β} :
    (require p e >>= f).commit s = .ok (b, u) ↔ p ∧ (f ()).commit s = .ok (b, u) := by
  rw [commit_bind_of_looks commit_require]
  by_cases h : p
  · rw [if_pos h]
    exact ⟨fun ⟨_, _, hf⟩ => ⟨h, hf⟩, fun ⟨_, hf⟩ => ⟨(), rfl, hf⟩⟩
  · simp [h]

theorem commit_modify_bind {g : σ → σ} {f : PUnit → Handler σ ε β} {s u : σ} {b : β} :
    ((modify g : Handler σ ε PUnit) >>= f).commit s = .ok (b, u) ↔ (f ⟨⟩).commit (g s) = .ok (b, u) := by
  rw [commit_bind]
  rfl

theorem commit_pure_eq_ok_iff {s t : σ} {a b : α} :
    (pure a : Handler σ ε α).commit s = .ok (b, t) ↔ b = a ∧ t = s := by
  rw [show (pure a : Handler σ ε α).commit s = .ok (a, s) from rfl, Except.ok.injEq, Prod.mk.injEq]
  exact and_congr eq_comm eq_comm

theorem commit_throw_eq_ok_iff {s t : σ} {e : ε} {a : α} :
    (throw e : Handler σ ε α).commit s = .ok (a, t) ↔ False :=
  ⟨nofun, False.elim⟩

/-! ## Calls that are refused -/

/-- **A sequence of calls is refused if the first is, or the second on what the first left.** -/
theorem commit_bind_eq_error_iff {m : Handler σ ε α} {f : α → Handler σ ε β} {s : σ} {e : ε} :
    (m >>= f).commit s = .error e ↔
      m.commit s = .error e ∨ ∃ a t, m.commit s = .ok (a, t) ∧ (f a).commit t = .error e := by
  rw [commit_bind]
  cases m.commit s with
  | ok p =>
    constructor
    · intro h
      exact .inr ⟨p.1, p.2, rfl, h⟩
    · rintro (h | ⟨a, t, h, hf⟩)
      · cases h
      · cases h
        exact hf
  | error e' =>
    constructor
    · intro h
      cases h
      exact .inl rfl
    · rintro (h | ⟨_, _, h, _⟩)
      · cases h
        rfl
      · cases h

/-- A step that only looks: what follows it stops on the storage that the step was given. -/
theorem stopped_bind_of_looks {m : Handler σ ε α} {x : Except ε α} {f : α → Handler σ ε β} {s t : σ} {e : ε}
    (hm : m.run s = (ofExcept x : Handler σ ε α).run s) :
    (m >>= f).run s = .error e t ↔ x = .error e ∧ t = s ∨ ∃ a, x = .ok a ∧ (f a).run s = .error e t := by
  rw [EStateM.run_bind, hm]
  cases x with
  | ok a =>
    constructor
    · intro h
      exact .inr ⟨a, rfl, h⟩
    · rintro (⟨h, -⟩ | ⟨a', h, hf⟩)
      · cases h
      · cases h
        exact hf
  | error e' =>
    constructor
    · intro h
      cases h
      exact .inl ⟨rfl, rfl⟩
    · rintro (⟨h, rfl⟩ | ⟨_, h, _⟩)
      · cases h
        rfl
      · cases h

theorem stopped_look_bind {g : σ → Except ε α} {f : α → Handler σ ε β} {s t : σ} {e : ε} :
    (look g >>= f).run s = .error e t ↔ g s = .error e ∧ t = s ∨ ∃ a, g s = .ok a ∧ (f a).run s = .error e t :=
  stopped_bind_of_looks rfl

theorem stopped_ofExcept_bind {x : Except ε α} {f : α → Handler σ ε β} {s t : σ} {e : ε} :
    ((ofExcept x : Handler σ ε α) >>= f).run s = .error e t ↔
      x = .error e ∧ t = s ∨ ∃ a, x = .ok a ∧ (f a).run s = .error e t :=
  stopped_bind_of_looks rfl

theorem stopped_check_bind {wrap : δ → ε} {x : Except δ α} {f : α → Handler σ ε β} {s t : σ} {e : ε} :
    (check wrap x >>= f).run s = .error e t ↔
      (∃ d, x = .error d ∧ wrap d = e) ∧ t = s ∨ ∃ a, x = .ok a ∧ (f a).run s = .error e t := by
  simp only [check, stopped_ofExcept_bind, mapError_eq_ok_iff, mapError_eq_error_iff]

theorem stopped_require_bind {p : Prop} [Decidable p] {e' : ε} {f : Unit → Handler σ ε β} {s t : σ} {e : ε} :
    (require p e' >>= f).run s = .error e t ↔ (¬p ∧ e' = e) ∧ t = s ∨ p ∧ (f ()).run s = .error e t := by
  rw [EStateM.run_bind, run_require]
  by_cases h : p
  · simp [h]
  · simp [h, eq_comm]

theorem stopped_modify_bind {g : σ → σ} {f : PUnit → Handler σ ε β} {s t : σ} {e : ε} :
    ((modify g : Handler σ ε PUnit) >>= f).run s = .error e t ↔ (f ⟨⟩).run (g s) = .error e t :=
  Iff.rfl

theorem stopped_get_bind {f : σ → Handler σ ε β} {s t : σ} {e : ε} :
    ((get : Handler σ ε σ) >>= f).run s = .error e t ↔ (f s).run s = .error e t :=
  Iff.rfl

theorem stopped_throw_bind {f : α → Handler σ ε β} {s t : σ} {e e' : ε} :
    ((throw e' : Handler σ ε α) >>= f).run s = .error e t ↔ e' = e ∧ t = s := by
  rw [show ((throw e' : Handler σ ε α) >>= f).run s = .error e' s from rfl, EStateM.Result.error.injEq, @eq_comm _ s]

theorem refused_bind_of_looks {m : Handler σ ε α} {x : Except ε α} {f : α → Handler σ ε β} {s : σ} {e : ε}
    (hm : m.run s = (ofExcept x : Handler σ ε α).run s) :
    (m >>= f).commit s = .error e ↔ x = .error e ∨ ∃ a, x = .ok a ∧ (f a).commit s = .error e := by
  simp only [commit_eq_error_iff, stopped_bind_of_looks hm, exists_or, exists_and_left, exists_eq, and_true]
  rw [exists_comm]
  simp only [exists_and_left]

theorem refused_look_bind {g : σ → Except ε α} {f : α → Handler σ ε β} {s : σ} {e : ε} :
    (look g >>= f).commit s = .error e ↔ g s = .error e ∨ ∃ a, g s = .ok a ∧ (f a).commit s = .error e :=
  refused_bind_of_looks rfl

theorem refused_ofExcept_bind {x : Except ε α} {f : α → Handler σ ε β} {s : σ} {e : ε} :
    ((ofExcept x : Handler σ ε α) >>= f).commit s = .error e ↔
      x = .error e ∨ ∃ a, x = .ok a ∧ (f a).commit s = .error e :=
  refused_bind_of_looks rfl

theorem refused_check_bind {wrap : δ → ε} {x : Except δ α} {f : α → Handler σ ε β} {s : σ} {e : ε} :
    (check wrap x >>= f).commit s = .error e ↔
      (∃ d, x = .error d ∧ wrap d = e) ∨ ∃ a, x = .ok a ∧ (f a).commit s = .error e := by
  simp only [check, refused_ofExcept_bind, mapError_eq_ok_iff, mapError_eq_error_iff]

theorem refused_get_bind {f : σ → Handler σ ε β} {s : σ} {e : ε} :
    ((get : Handler σ ε σ) >>= f).commit s = .error e ↔ (f s).commit s = .error e := by
  rw [commit_bind]
  rfl

theorem refused_require_bind {p : Prop} [Decidable p] {e' : ε} {f : Unit → Handler σ ε β} {s : σ} {e : ε} :
    (require p e' >>= f).commit s = .error e ↔ ¬p ∧ e' = e ∨ p ∧ (f ()).commit s = .error e := by
  rw [commit_bind, commit_require]
  by_cases h : p
  · simp [h, Except.map, Except.bind]
  · simp [h, Except.map, Except.bind]

theorem refused_modify_bind {g : σ → σ} {f : PUnit → Handler σ ε β} {s : σ} {e : ε} :
    ((modify g : Handler σ ε PUnit) >>= f).commit s = .error e ↔ (f ⟨⟩).commit (g s) = .error e := by
  rw [commit_bind]
  rfl

theorem refused_pure {s : σ} {a : α} {e : ε} : (pure a : Handler σ ε α).commit s = .error e ↔ False :=
  ⟨nofun, False.elim⟩

theorem refused_throw {s : σ} {e e' : ε} : (throw e' : Handler σ ε α).commit s = .error e ↔ e' = e := by
  rw [show (throw e' : Handler σ ε α).commit s = .error e' from rfl, Except.error.injEq]

theorem refused_throw_bind {f : α → Handler σ ε β} {s : σ} {e e' : ε} :
    ((throw e' : Handler σ ε α) >>= f).commit s = .error e ↔ e' = e := by
  rw [show ((throw e' : Handler σ ε α) >>= f).commit s = .error e' from rfl, Except.error.injEq]

/-! ## What a refusal leaves -/

/-- **The step only looks**: on each storage it comes to an outcome, and leaves the storage as it is. -/
def Looks (m : Handler σ ε α) : Prop := ∀ s, ∃ x : Except ε α, m.run s = (ofExcept x : Handler σ ε α).run s

/-- **The step cannot be refused.** -/
def Unrefused (m : Handler σ ε α) : Prop := ∀ s e t, m.run s ≠ .error e t

/-- **Every check comes before the first write**: a refusal leaves the storage as it was before the call. -/
def ChecksFirst (m : Handler σ ε α) : Prop := ∀ s e t, m.run s = .error e t → t = s

theorem Looks.stopped_bind_iff {m : Handler σ ε α} {f : α → Handler σ ε β} {s t : σ} {e : ε} (hm : Looks m) :
    (m >>= f).run s = .error e t ↔
      m.commit s = .error e ∧ t = s ∨ ∃ a, m.commit s = .ok (a, s) ∧ (f a).run s = .error e t := by
  obtain ⟨x, hx⟩ := hm s
  have hcommit : m.commit s = x.map (·, s) := by
    rw [commit, hx]
    cases x <;> rfl
  rw [stopped_bind_of_looks hx, hcommit]
  cases x <;> simp [Except.map]

theorem Looks.look (g : σ → Except ε α) : Looks (look g) := fun s => ⟨g s, rfl⟩

theorem Looks.check (wrap : δ → ε) (x : Except δ α) : Looks (check wrap x : Handler σ ε α) :=
  fun _ => ⟨x.mapError wrap, rfl⟩

theorem Looks.ofExcept (x : Except ε α) : Looks (ofExcept x : Handler σ ε α) := fun _ => ⟨x, rfl⟩

theorem Looks.pure (a : α) : Looks (pure a : Handler σ ε α) := fun _ => ⟨.ok a, rfl⟩

theorem Looks.throw (e : ε) : Looks (throw e : Handler σ ε α) := fun _ => ⟨.error e, rfl⟩

theorem Looks.get : Looks (get : Handler σ ε σ) := fun s => ⟨.ok s, rfl⟩

theorem Looks.require (p : Prop) [Decidable p] (e : ε) : Looks (require p e : Handler σ ε Unit) := by
  unfold Handler.require
  split
  · exact .pure ()
  · exact .throw e

theorem Looks.bind {m : Handler σ ε α} {f : α → Handler σ ε β} (hm : Looks m) (hf : ∀ a, Looks (f a)) :
    Looks (m >>= f) := by
  intro s
  obtain ⟨x, hx⟩ := hm s
  rw [EStateM.run_bind, hx]
  cases x with
  | ok a => exact hf a s
  | error e => exact ⟨.error e, rfl⟩

theorem Unrefused.pure (a : α) : Unrefused (pure a : Handler σ ε α) := nofun

theorem Unrefused.modify_bind {g : σ → σ} {f : PUnit → Handler σ ε β} (hf : ∀ u, Unrefused (f u)) :
    Unrefused (modify g >>= f) := fun s e t h => hf ⟨⟩ (g s) e t h

theorem ChecksFirst.of_looks {m : Handler σ ε α} (hm : Looks m) : ChecksFirst m := by
  intro s e t h
  obtain ⟨x, hx⟩ := hm s
  rw [hx] at h
  cases x with
  | ok a => cases h
  | error e' =>
    cases h
    rfl

theorem ChecksFirst.of_unrefused {m : Handler σ ε α} (hm : Unrefused m) : ChecksFirst m :=
  fun s e t h => absurd h (hm s e t)

/-- A step that only looks may come before a call that checks first. -/
theorem ChecksFirst.bind {m : Handler σ ε α} {f : α → Handler σ ε β} (hm : Looks m) (hf : ∀ a, ChecksFirst (f a)) :
    ChecksFirst (m >>= f) := by
  intro s e t h
  rcases hm.stopped_bind_iff.1 h with ⟨-, rfl⟩ | ⟨a, -, h⟩
  · rfl
  · exact hf a s e t h

/-- A step that cannot be refused may come after one. -/
theorem ChecksFirst.then {m : Handler σ ε α} {f : α → Handler σ ε β} (hm : ChecksFirst m) (hf : ∀ a, Unrefused (f a)) :
    ChecksFirst (m >>= f) := by
  intro s e t h
  rw [EStateM.run_bind] at h
  cases hrun : m.run s with
  | ok a u =>
    rw [hrun] at h
    exact absurd h (hf a u e t)
  | error e' u =>
    rw [hrun] at h
    cases h
    exact hm s e t hrun

/-! ## The same call on two storages -/

/-- **Two calls come out alike**: they are refused for the same cause, or they answer the same and leave storages that
are related. -/
inductive SameOutcome (R : σ → σ → Prop) : Except ε (α × σ) → Except ε (α × σ) → Prop
  | ok (a : α) (s t : σ) (related : R s t) : SameOutcome R (.ok (a, s)) (.ok (a, t))
  | error (e : ε) : SameOutcome R (.error e) (.error e)

/-- **The call does not tell related storages apart.** -/
def Alike (R : σ → σ → Prop) (m : Handler σ ε α) : Prop := ∀ s t, R s t → SameOutcome R (m.commit s) (m.commit t)

variable {R : σ → σ → Prop}

theorem SameOutcome.elim {x y : Except ε (α × σ)} (h : SameOutcome R x y) :
    (∃ e, x = .error e ∧ y = .error e) ∨ ∃ a s t, x = .ok (a, s) ∧ y = .ok (a, t) ∧ R s t := by
  cases h with
  | ok a s t related => exact .inr ⟨a, s, t, rfl, rfl, related⟩
  | error e => exact .inl ⟨e, rfl, rfl⟩

theorem Alike.bind {m : Handler σ ε α} {f : α → Handler σ ε β} (hm : Alike R m) (hf : ∀ a, Alike R (f a)) :
    Alike R (m >>= f) := by
  intro s t hst
  rw [commit_bind, commit_bind]
  rcases (hm s t hst).elim with ⟨e, hs, ht⟩ | ⟨a, s', t', hs, ht, related⟩
  · rw [hs, ht]
    exact .error e
  · rw [hs, ht]
    exact hf a s' t' related

theorem Alike.pure (a : α) : Alike R (pure a : Handler σ ε α) := fun s t => .ok a s t

theorem Alike.throw (e : ε) : Alike R (throw e : Handler σ ε α) := fun _ _ _ => .error e

/-- A step that only looks does not tell storages apart in which it sees the same. -/
theorem alike_of_looks {m : Handler σ ε α} {g : σ → Except ε α} (hm : ∀ s, m.commit s = (g s).map (·, s))
    (hg : ∀ s t, R s t → g s = g t) : Alike R m := by
  intro s t hst
  rw [hm, hm, hg s t hst]
  cases g t with
  | ok a => exact .ok a s t hst
  | error e => exact .error e

theorem Alike.look {g : σ → Except ε α} (hg : ∀ s t, R s t → g s = g t) : Alike R (look g) :=
  alike_of_looks (fun _ => commit_look) hg

theorem Alike.check (wrap : δ → ε) (x : Except δ α) : Alike R (check wrap x : Handler σ ε α) :=
  alike_of_looks (fun _ => commit_check) fun _ _ _ => rfl

/-- What follows a check need only come out alike for what passes it. -/
theorem Alike.check_bind {wrap : δ → ε} {x : Except δ α} {f : α → Handler σ ε β} (hf : ∀ a, x = .ok a → Alike R (f a)) :
    Alike R (Handler.check wrap x >>= f) := by
  intro s t hst
  rw [commit_bind, commit_bind, commit_check, commit_check]
  cases x with
  | ok a => exact hf a rfl s t hst
  | error d => exact .error (wrap d)

theorem Alike.ofExcept (x : Except ε α) : Alike R (ofExcept x : Handler σ ε α) :=
  alike_of_looks (fun _ => commit_ofExcept) fun _ _ _ => rfl

theorem Alike.require (p : Prop) [Decidable p] (e : ε) : Alike R (require p e : Handler σ ε Unit) :=
  alike_of_looks (fun _ => commit_require) fun _ _ _ => rfl

theorem Alike.modify {g : σ → σ} (hg : ∀ s t, R s t → R (g s) (g t)) : Alike R (modify g : Handler σ ε PUnit) :=
  fun s t hst => .ok _ _ _ (hg s t hst)

theorem Alike.get_bind {f : σ → Handler σ ε β} (hf : ∀ s, Alike R (f s)) (hsame : ∀ s t, R s t → f s = f t) :
    Alike R (get >>= f) := by
  intro s t hst
  have hbind : ∀ u, ((get : Handler σ ε σ) >>= f).commit u = (f u).commit u := fun u => by
    rw [commit_bind]
    rfl
  rw [hbind, hbind, hsame s t hst]
  exact hf t s t hst

end VestingBridge.Handler
