/-!
# Table — what a contract keeps by key

A table holds at most one value for each key, in ascending order of the keys.  Its view is `get?`: two tables with the
same view are equal (`ext_get?`), and each operation says what it does to the view.  The order shows in `entries` and
in `page`, which is how a table is read in parts.
-/
namespace VestingBridge

open Std (TransOrd LawfulEqOrd)

universe u v

/-- **Values by key, in ascending order of the keys.** -/
structure Table (κ : Type u) (ν : Type v) [Ord κ] where
  entries : List (κ × ν)
  ascending : entries.Pairwise fun a b => compare a.1 b.1 = .lt

/-- Pairs are ordered by their first part, then by their second. -/
instance instOrdPair {α : Type u} {β : Type v} [Ord α] [Ord β] : Ord (α × β) := lexOrd

namespace Table

variable {κ : Type u} {ν : Type v} [Ord κ]

/-- The table without entries. -/
def empty : Table κ ν := ⟨[], .nil⟩

instance : EmptyCollection (Table κ ν) := ⟨empty⟩
instance : Inhabited (Table κ ν) := ⟨empty⟩

theorem ext_entries {s t : Table κ ν} (h : s.entries = t.entries) : s = t := by
  obtain ⟨es, _⟩ := s
  obtain ⟨fs, _⟩ := t
  subst h
  rfl

instance [DecidableEq κ] [DecidableEq ν] : DecidableEq (Table κ ν) := fun s t =>
  decidable_of_iff (s.entries = t.entries) ⟨ext_entries, congrArg entries⟩

/-- **The value kept under a key.** -/
def get? (t : Table κ ν) (k : κ) : Option ν := (t.entries.find? fun e => compare k e.1 == .eq).map (·.2)

/-- There is a value under the key. -/
def contains (t : Table κ ν) (k : κ) : Bool := (t.get? k).isSome

/-- The entries with `v` under `k`, in place of what was there. -/
def insertEntry (k : κ) (v : ν) : List (κ × ν) → List (κ × ν)
  | [] => [(k, v)]
  | e :: es =>
    match compare k e.1 with
    | .lt => (k, v) :: e :: es
    | .eq => (k, v) :: es
    | .gt => e :: insertEntry k v es

theorem compare_self_ne_lt [TransOrd κ] (k : κ) : ¬compare k k = .lt := by
  rw [show compare k k = .eq from Std.ReflCmp.compare_self]
  decide

theorem mem_insertEntry {k : κ} {v : ν} {x : κ × ν} :
    ∀ {es : List (κ × ν)}, x ∈ insertEntry k v es → x = (k, v) ∨ x ∈ es
  | [], h => .inl (List.mem_singleton.1 h)
  | e :: es, h => by
    unfold insertEntry at h
    split at h
    · exact (List.mem_cons.1 h).imp id id
    · exact (List.mem_cons.1 h).imp id (List.mem_cons_of_mem _)
    · rcases List.mem_cons.1 h with rfl | h
      · exact .inr (List.mem_cons_self ..)
      · exact (mem_insertEntry h).imp id (List.mem_cons_of_mem _)

theorem insertEntry_ascending [TransOrd κ] [LawfulEqOrd κ] (k : κ) (v : ν) :
    ∀ {es : List (κ × ν)}, es.Pairwise (fun a b => compare a.1 b.1 = .lt) →
      (insertEntry k v es).Pairwise fun a b => compare a.1 b.1 = .lt
  | [], _ => List.pairwise_singleton _ _
  | e :: es, h => by
    obtain ⟨he, hes⟩ := List.pairwise_cons.1 h
    unfold insertEntry
    split
    · rename_i hlt
      refine List.pairwise_cons.2 ⟨fun x hx => ?_, h⟩
      rcases List.mem_cons.1 hx with rfl | hx
      · exact hlt
      · exact Std.TransCmp.lt_trans hlt (he x hx)
    · rename_i heq
      have := LawfulEqOrd.eq_of_compare heq
      exact List.pairwise_cons.2 ⟨fun x hx => this ▸ he x hx, hes⟩
    · rename_i hgt
      refine List.pairwise_cons.2 ⟨fun x hx => ?_, insertEntry_ascending k v hes⟩
      rcases mem_insertEntry hx with rfl | hx
      · exact Std.OrientedCmp.lt_of_gt hgt
      · exact he x hx

/-- **The table with `v` under `k`**, in place of what was there. -/
def insert [TransOrd κ] [LawfulEqOrd κ] (t : Table κ ν) (k : κ) (v : ν) : Table κ ν :=
  ⟨insertEntry k v t.entries, insertEntry_ascending k v t.ascending⟩

/-- The table without what is under `k`. -/
def erase (t : Table κ ν) (k : κ) : Table κ ν :=
  ⟨t.entries.filter fun e => compare k e.1 != .eq, t.ascending.filter _⟩

/-- The entries above a key, or all of them. -/
def after (t : Table κ ν) : Option κ → List (κ × ν)
  | none => t.entries
  | some k => t.entries.filter fun e => compare k e.1 == .lt

/-- The most entries that one page holds. -/
def maxPage : Nat := 100

/-- The number of entries of a page when none is asked for. -/
def defaultPage : Nat := 30

/-- **A page**: the first entries above `start`, as many as `limit` asks for but never more than `maxPage`. -/
def page (t : Table κ ν) (start : Option κ) (limit : Option Nat) : List (κ × ν) :=
  (t.after start).take (min (limit.getD defaultPage) maxPage)

/-! ## The view -/

@[simp] theorem get?_empty (k : κ) : (∅ : Table κ ν).get? k = none := rfl

theorem find?_insertEntry [TransOrd κ] [LawfulEqOrd κ] (k j : κ) (v : ν) :
    ∀ es : List (κ × ν), es.Pairwise (fun a b => compare a.1 b.1 = .lt) →
      ((insertEntry k v es).find? fun e => compare j e.1 == .eq).map (·.2) =
        if compare j k = .eq then some v else (es.find? fun e => compare j e.1 == .eq).map (·.2)
  | [], _ => by by_cases h : compare j k = .eq <;> simp [insertEntry, h]
  | e :: es, hp => by
    obtain ⟨_, hes⟩ := List.pairwise_cons.1 hp
    unfold insertEntry
    split
    · by_cases h : compare j k = .eq <;> simp [h, List.find?_cons]
    · rename_i heq
      have hk := LawfulEqOrd.eq_of_compare heq
      by_cases h : compare j k = .eq
      · simp [h]
      · simp [h, ← hk]
    · rename_i hgt
      by_cases hj : compare j e.1 = .eq
      · have hjk : ¬compare j k = .eq := by
          intro h
          have h1 := LawfulEqOrd.eq_of_compare hj
          have h2 := LawfulEqOrd.eq_of_compare h
          rw [← h2, h1, show compare e.1 e.1 = .eq from Std.ReflCmp.compare_self] at hgt
          cases hgt
        simp [hj, hjk]
      · have := find?_insertEntry k j v es hes
        have hb : (compare j e.1 == .eq) = false := by simpa using hj
        simpa only [List.find?_cons, hb] using this

/-- **What a table holds after a write.** -/
theorem get?_insert [TransOrd κ] [LawfulEqOrd κ] [DecidableEq κ] (t : Table κ ν) (k j : κ) (v : ν) :
    (t.insert k v).get? j = if j = k then some v else t.get? j := by
  unfold insert get?
  rw [find?_insertEntry k j v _ t.ascending]
  by_cases h : j = k
  · subst h
    simp
  · have : ¬compare j k = .eq := fun hc => h (LawfulEqOrd.eq_of_compare hc)
    simp [h, this]

theorem get?_eq_some_iff [TransOrd κ] [LawfulEqOrd κ] (t : Table κ ν) (k : κ) (v : ν) :
    t.get? k = some v ↔ (k, v) ∈ t.entries := by
  unfold get?
  rw [Option.map_eq_some_iff]
  constructor
  · rintro ⟨e, he, rfl⟩
    have hk := LawfulEqOrd.eq_of_compare (eq_of_beq (List.find?_some he :))
    exact hk ▸ List.mem_of_find?_eq_some he
  · intro h
    have hp := t.ascending
    generalize t.entries = es at h hp
    induction es with
    | nil => cases h
    | cons e es ih =>
      obtain ⟨he, hes⟩ := List.pairwise_cons.1 hp
      rcases List.mem_cons.1 h with rfl | h
      · exact ⟨(k, v), by simp, rfl⟩
      · obtain ⟨e', h', hv⟩ := ih h hes
        have hne : ¬compare k e.1 = .eq := fun hc => by
          have hlt := he _ h
          rw [LawfulEqOrd.eq_of_compare hc] at hlt
          exact compare_self_ne_lt _ hlt
        exact ⟨e', by simp [hne, h'], hv⟩

/-- **Two tables with the same view are equal.** -/
theorem ext_get? [TransOrd κ] [LawfulEqOrd κ] {s t : Table κ ν} (h : ∀ k, s.get? k = t.get? k) : s = t := by
  have hmem : ∀ e, e ∈ s.entries ↔ e ∈ t.entries := fun e => by
    rw [show e = (e.1, e.2) from rfl, ← get?_eq_some_iff, ← get?_eq_some_iff, h]
  obtain ⟨es, hs⟩ := s
  obtain ⟨fs, ht⟩ := t
  have hirr : ∀ {a b : κ × ν}, compare a.1 b.1 = .lt → ¬compare b.1 a.1 = .lt := fun hab hba => by
    rw [Std.OrientedCmp.gt_of_lt hab] at hba
    cases hba
  refine ext_entries (?_ : es = fs)
  dsimp only at hmem
  clear h
  induction es generalizing fs with
  | nil =>
    cases fs with
    | nil => rfl
    | cons f fs => exact absurd ((hmem f).2 (List.mem_cons_self ..)) (List.not_mem_nil)
  | cons e es ih =>
    cases fs with
    | nil => exact absurd ((hmem e).1 (List.mem_cons_self ..)) (List.not_mem_nil)
    | cons f fs =>
      obtain ⟨he, hes⟩ := List.pairwise_cons.1 hs
      obtain ⟨hf, hfs⟩ := List.pairwise_cons.1 ht
      have hef : e = f := by
        rcases List.mem_cons.1 ((hmem e).1 (List.mem_cons_self ..)) with h | h
        · exact h
        · rcases List.mem_cons.1 ((hmem f).2 (List.mem_cons_self ..)) with h' | h'
          · exact h'.symm
          · exact absurd (hf e h) (hirr (he f h'))
      subst hef
      have hself : ¬compare e.1 e.1 = .lt := compare_self_ne_lt _
      congr 1
      refine ih hes fs hfs fun x => ⟨fun hx => ?_, fun hx => ?_⟩
      · rcases List.mem_cons.1 ((hmem x).1 (List.mem_cons_of_mem _ hx)) with rfl | h
        · exact absurd (he x hx) hself
        · exact h
      · rcases List.mem_cons.1 ((hmem x).2 (List.mem_cons_of_mem _ hx)) with rfl | h
        · exact absurd (hf x hx) hself
        · exact h

end Table

end VestingBridge
