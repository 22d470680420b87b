import Mathlib.Algebra.GroupWithZero.Nat
import Mathlib.Data.List.Induction
import VestingBridge.Table
/-!
# Proofs.Table — sums over a table, and what a write leaves

`total` adds up a figure of each entry.  A write changes it by the figure of the new entry, less the figure of the entry
that stood under the key (`total_insert`), and leaves what stands under other keys (`insert_eqExcept`).  What a row of
writes leaves is, under each key, what the last of them entered there (`get?_ofWrites`).
-/
namespace VestingBridge.Table

open Std (TransOrd LawfulEqOrd)

universe u v

variable {κ : Type u} {ν : Type v} [Ord κ]

/-- **The sum of a figure of each entry.** -/
def total (f : κ → ν → Nat) (t : Table κ ν) : Nat := (t.entries.map fun e => f e.1 e.2).sum

theorem find?_eq_none_of_lt [TransOrd κ] {k : κ} {e : κ × ν} {es : List (κ × ν)}
    (hp : (e :: es).Pairwise fun a b => compare a.1 b.1 = .lt) (hlt : compare k e.1 = .lt) :
    ((e :: es).find? fun x => compare k x.1 == .eq) = none := by
  rw [List.find?_eq_none]
  intro x hx heq
  have hkx : compare k x.1 = .lt := by
    rcases List.mem_cons.1 hx with rfl | hx
    · exact hlt
    · exact Std.TransCmp.lt_trans hlt (List.rel_of_pairwise_cons hp hx)
  rw [hkx] at heq
  cases heq

theorem sum_insertEntry [TransOrd κ] [LawfulEqOrd κ] (f : κ → ν → Nat) (k : κ) (v : ν) :
    ∀ es : List (κ × ν), es.Pairwise (fun a b => compare a.1 b.1 = .lt) →
      ((insertEntry k v es).map fun e => f e.1 e.2).sum +
          (((es.find? fun e => compare k e.1 == .eq).map (·.2)).elim 0 (f k)) =
        (es.map fun e => f e.1 e.2).sum + f k v
  | [], _ => by simp [insertEntry]
  | e :: es, hp => by
    unfold insertEntry
    split
    · rename_i hlt
      rw [find?_eq_none_of_lt hp hlt]
      simp only [List.map_cons, List.sum_cons, Option.map_none, Option.elim_none]
      omega
    · rename_i heq
      rw [List.find?_cons_of_pos (by simpa using heq), LawfulEqOrd.eq_of_compare heq]
      simp only [List.map_cons, List.sum_cons, Option.map_some, Option.elim_some]
      omega
    · rename_i hgt
      rw [List.find?_cons_of_neg (by simp [hgt])]
      have ih := sum_insertEntry f k v es hp.of_cons
      simp only [List.map_cons, List.sum_cons]
      omega

/-- **What a write does to a sum.** -/
theorem total_insert [TransOrd κ] [LawfulEqOrd κ] (f : κ → ν → Nat) (t : Table κ ν) (k : κ) (v : ν) :
    (t.insert k v).total f + (t.get? k).elim 0 (f k) = t.total f + f k v :=
  sum_insertEntry f k v t.entries t.ascending

theorem total_one (t : Table κ ν) : t.total (fun _ _ => 1) = t.entries.length := by
  rw [total, List.map_const', List.sum_replicate_nat, Nat.mul_one]

theorem length_insert_of_new [TransOrd κ] [LawfulEqOrd κ] {t : Table κ ν} {k : κ} {v : ν} (new : t.get? k = none) :
    (t.insert k v).entries.length = t.entries.length + 1 := by
  have h := total_insert (fun _ _ => 1) t k v
  rwa [new, Option.elim_none, Nat.add_zero, total_one, total_one] at h

/-- **The tables agree on every other key.** -/
def EqExcept (k : κ) (s t : Table κ ν) : Prop := ∀ j, j ≠ k → s.get? j = t.get? j

theorem insert_eqExcept [TransOrd κ] [LawfulEqOrd κ] [DecidableEq κ] (t : Table κ ν) (k : κ) (v : ν) :
    EqExcept k (t.insert k v) t := by
  intro j hne
  rw [get?_insert, if_neg hne]

/-- The same write leaves tables alike where they were. -/
theorem get?_insert_congr [TransOrd κ] [LawfulEqOrd κ] [DecidableEq κ] {s t : Table κ ν} {j : κ} (k : κ) (v : ν)
    (h : s.get? j = t.get? j) : (s.insert k v).get? j = (t.insert k v).get? j := by
  rw [get?_insert, get?_insert, h]

/-- **The last write under a key counts.** -/
theorem insert_insert [TransOrd κ] [LawfulEqOrd κ] [DecidableEq κ] (t : Table κ ν) (k : κ) (v v' : ν) :
    (t.insert k v).insert k v' = t.insert k v' := by
  refine ext_get? fun j => ?_
  rw [get?_insert, get?_insert, get?_insert]
  by_cases hj : j = k
  · rw [if_pos hj, if_pos hj]
  · rw [if_neg hj, if_neg hj, if_neg hj]

/-- To write what is there changes nothing. -/
theorem insert_of_get? [TransOrd κ] [LawfulEqOrd κ] [DecidableEq κ] {t : Table κ ν} {k : κ} {v : ν}
    (h : t.get? k = some v) : t.insert k v = t := by
  refine ext_get? fun j => ?_
  rw [get?_insert]
  by_cases hj : j = k
  · rw [if_pos hj, hj, h]
  · rw [if_neg hj]

theorem contains_of_get? {t : Table κ ν} {k : κ} {v : ν} (h : t.get? k = some v) : t.contains k = true := by
  rw [contains, h]
  rfl

theorem exists_get?_insert [TransOrd κ] [LawfulEqOrd κ] [DecidableEq κ] {t : Table κ ν} {j : κ} (k : κ) (v : ν)
    (h : ∃ w, t.get? j = some w) : ∃ w, (t.insert k v).get? j = some w := by
  rw [get?_insert]
  by_cases hj : j = k
  · rw [if_pos hj]
    exact ⟨v, rfl⟩
  · rwa [if_neg hj]

/-! ## Rows of writes -/

/-- **The table that a row of writes leaves.** -/
def ofWrites [TransOrd κ] [LawfulEqOrd κ] (writes : List (κ × ν)) : Table κ ν :=
  writes.foldl (fun t w => t.insert w.1 w.2) ∅

/-- The table after a write, or as it is without one. -/
def enter [TransOrd κ] [LawfulEqOrd κ] (t : Table κ ν) : Option (κ × ν) → Table κ ν
  | some w => t.insert w.1 w.2
  | none => t

/-- **What the last write under a key enters**, if there is any. -/
def lastWrite [DecidableEq κ] (k : κ) (writes : List (κ × ν)) : Option ν :=
  (writes.filter (·.1 = k)).getLast?.map (·.2)

theorem ofWrites_concat [TransOrd κ] [LawfulEqOrd κ] (writes : List (κ × ν)) (w : κ × ν) :
    ofWrites (writes ++ [w]) = (ofWrites writes).insert w.1 w.2 := by
  rw [ofWrites, List.foldl_append, List.foldl_cons, List.foldl_nil, ofWrites]

theorem ofWrites_filterMap_concat [TransOrd κ] [LawfulEqOrd κ] {ω : Type u} (f : ω → Option (κ × ν)) (ws : List ω)
    (w : ω) : ofWrites ((ws ++ [w]).filterMap f) = (ofWrites (ws.filterMap f)).enter (f w) := by
  cases h : f w with
  | none => simp [h, enter]
  | some e => simp [h, enter, ofWrites_concat]

omit [Ord κ] in
theorem lastWrite_concat [DecidableEq κ] (k : κ) (writes : List (κ × ν)) (w : κ × ν) :
    lastWrite k (writes ++ [w]) = if k = w.1 then some w.2 else lastWrite k writes := by
  by_cases hw : w.1 = k
  · simp [lastWrite, List.filter_append, hw]
  · simp [lastWrite, List.filter_append, hw, Ne.symm hw]

theorem get?_ofWrites [TransOrd κ] [LawfulEqOrd κ] [DecidableEq κ] (writes : List (κ × ν)) (k : κ) :
    (ofWrites writes).get? k = lastWrite k writes := by
  induction writes using List.reverseRecOn with
  | nil => rfl
  | append_singleton writes w ih => rw [ofWrites_concat, get?_insert, lastWrite_concat, ih]

omit [Ord κ] in
theorem lastWrite_append [DecidableEq κ] (k : κ) (writes more : List (κ × ν)) :
    lastWrite k (writes ++ more) = (lastWrite k more).or (lastWrite k writes) := by
  unfold lastWrite
  rw [List.filter_append, List.getLast?_append]
  cases (more.filter (·.1 = k)).getLast? <;> rfl

omit [Ord κ] in
theorem mem_of_lastWrite [DecidableEq κ] {k : κ} {v : ν} {writes : List (κ × ν)} (h : lastWrite k writes = some v) :
    (k, v) ∈ writes := by
  obtain ⟨⟨j, v'⟩, hlast, rfl⟩ := Option.map_eq_some_iff.1 h
  obtain ⟨hmem, hkey⟩ := List.mem_filter.1 (List.mem_of_getLast? hlast)
  exact of_decide_eq_true hkey ▸ hmem

omit [Ord κ] in
theorem exists_lastWrite [DecidableEq κ] {k : κ} {v : ν} {writes : List (κ × ν)} (h : (k, v) ∈ writes) :
    ∃ w, lastWrite k writes = some w := by
  have hne : writes.filter (·.1 = k) ≠ [] := List.ne_nil_of_mem (List.mem_filter.2 ⟨h, by simp⟩)
  exact ⟨_, by rw [lastWrite, List.getLast?_eq_some_getLast hne, Option.map_some]⟩

/-- No write takes an entry out. -/
theorem contains_ofWrites_append [TransOrd κ] [LawfulEqOrd κ] [DecidableEq κ] {k : κ} {writes more : List (κ × ν)}
    (h : (ofWrites writes).contains k = true) : (ofWrites (writes ++ more)).contains k = true := by
  rw [contains, get?_ofWrites] at h ⊢
  rw [lastWrite_append, Option.isSome_or, h, Bool.or_true]

/-- A key has one entry. -/
theorem nodup_keys [TransOrd κ] (t : Table κ ν) : (t.entries.map (·.1)).Nodup := by
  refine List.pairwise_map.2 (t.ascending.imp fun {a b} hlt heq => ?_)
  rw [heq] at hlt
  exact compare_self_ne_lt _ hlt

end VestingBridge.Table
