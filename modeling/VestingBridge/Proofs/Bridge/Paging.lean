import Mathlib.Order.Fin.Basic
import VestingBridge.Proofs.Bridge.Answers
/-!
# Proofs.Bridge.Paging — registries that are read page by page

A reader asks for a first page, then for the page after the last item that it was shown, until a page is empty
(`ReadsOn`).  If the items stand in a strict order and each page holds the first of them above the key that is asked
for, then the reader comes to an end and has seen every item once (`IsListing.exists_readsOn`): what is above the last
item of a page is what that page left out.  The trusted addresses and the mapping of assets are listed in this way.
-/
namespace VestingBridge

section Reading

variable {α κ : Type} {ask : Option κ → List α} {key : α → κ} {before : κ → κ → Prop} [DecidableRel before]
  {start : Option κ} {items xs ys : List α} {e : α} {n : Nat} {pages pages' : List (List α)}

/-- **The pages that a reader is shown**, from a start on: after a page it asks for the one after the last item of it,
and an empty page is the end. -/
inductive ReadsOn (ask : Option κ → List α) (key : α → κ) : Option κ → List (List α) → Prop
  | done {start : Option κ} (empty : ask start = []) : ReadsOn ask key start []
  | more {start : Option κ} {last : α} {pages : List (List α)} (shown : (ask start).getLast? = some last)
      (rest : ReadsOn ask key (some (key last)) pages) : ReadsOn ask key start (ask start :: pages)

theorem ReadsOn.unique (h : ReadsOn ask key start pages) (h' : ReadsOn ask key start pages') : pages = pages' := by
  induction h generalizing pages' with
  | done empty =>
    cases h' with
    | done => rfl
    | more shown =>
      rw [empty] at shown
      cases shown
  | more shown rest ih =>
    cases h' with
    | done empty =>
      rw [empty] at shown
      cases shown
    | more shown' rest' =>
      cases shown.symm.trans shown'
      rw [ih rest']

/-- **The items are cut into pages of `n`.**  None of the pages is empty, and only the last may be short. -/
structure Cuts (n : Nat) (items : List α) (pages : List (List α)) : Prop where
  whole : pages.flatten = items
  sized : ∀ page ∈ pages, 0 < page.length ∧ page.length ≤ n
  full : ∀ page ∈ pages.dropLast, page.length = n

theorem Cuts.nil : Cuts n ([] : List α) [] := ⟨rfl, nofun, nofun⟩

theorem Cuts.cons (h : Cuts n (items.drop n) pages) (hn : 0 < n) (some : items ≠ []) :
    Cuts n items (items.take n :: pages) where
  whole := by rw [List.flatten_cons, h.whole, List.take_append_drop]
  sized page hpage := by
    rcases List.mem_cons.1 hpage with rfl | hpage
    · have hlength := List.length_pos_iff.2 some
      rw [List.length_take]
      omega
    · exact h.sized page hpage
  full page hpage := by
    by_cases hrest : pages = []
    · rw [hrest] at hpage
      cases hpage
    rw [List.dropLast_cons_of_ne_nil hrest] at hpage
    rcases List.mem_cons.1 hpage with rfl | hpage
    · -- there is a further page, so that something was left out of this one
      have hleft : items.drop n ≠ [] := fun hnone => by
        obtain ⟨page, hpage⟩ := List.exists_mem_of_ne_nil _ hrest
        have hsized := (h.sized page hpage).1
        have hflat := h.whole
        rw [hnone, List.flatten_eq_nil_iff] at hflat
        rw [hflat page hpage] at hsized
        exact absurd hsized (Nat.lt_irrefl 0)
      rw [ne_eq, List.drop_eq_nil_iff, Nat.not_le] at hleft
      rw [List.length_take, Nat.min_eq_left (Nat.le_of_lt hleft)]
    · exact h.full page hpage

/-- The items above a key, or all of them. -/
def above (key : α → κ) (before : κ → κ → Prop) [DecidableRel before] (items : List α) : Option κ → List α
  | none => items
  | some k => items.filter fun a => before k (key a)

/-- **The pages list the items**: these are in order, and a page holds the first `n` of them, or the first `n` that are
above a key.  No item need have the key. -/
structure IsListing (ask : Option κ → List α) (key : α → κ) (before : κ → κ → Prop) [DecidableRel before] (n : Nat)
    (items : List α) : Prop where
  ascending : items.Pairwise fun a b => before (key a) (key b)
  first : ask none = items.take n
  next : ∀ k, ask (some k) = (items.filter fun a => before k (key a)).take n

theorem IsListing.ask_eq (h : IsListing ask key before n items) :
    ask start = (above key before items start).take n := by
  cases start with
  | none => exact h.first
  | some k => exact h.next k

section Order

variable [IsStrictOrder κ before]

/-- In a list in order, what is above an item is what follows it. -/
theorem filter_of_ascending (h : (xs ++ e :: ys).Pairwise fun a b => before (key a) (key b)) :
    (xs ++ e :: ys).filter (fun a => before (key e) (key a)) = ys := by
  obtain ⟨-, hys, hxs⟩ := List.pairwise_append.1 h
  have hbelow : xs.filter (fun a => before (key e) (key a)) = [] := by
    rw [List.filter_eq_nil_iff]
    intro x hx hbefore
    exact irrefl_of before (key x) (trans_of before (hxs x hx e (List.mem_cons_self ..)) (of_decide_eq_true hbefore))
  have habove : ys.filter (fun a => before (key e) (key a)) = ys := by
    rw [List.filter_eq_self]
    intro y hy
    exact decide_eq_true (List.rel_of_pairwise_cons hys hy)
  have hself : decide (before (key e) (key e)) = false := decide_eq_false (irrefl_of before (key e))
  rw [List.filter_append, List.filter_cons, hself, hbelow, habove]
  rfl

/-- **What is above the last item of a page is what the page left out.** -/
theorem above_of_split (ascending : items.Pairwise fun a b => before (key a) (key b))
    (split : above key before items start = xs ++ e :: ys) : above key before items (some (key e)) = ys := by
  cases start with
  | none =>
    have hitems : items = xs ++ e :: ys := split
    rw [above, hitems]
    exact filter_of_ascending (hitems ▸ ascending)
  | some k =>
    have hitems : items.filter (fun a => before k (key a)) = xs ++ e :: ys := split
    have he : before k (key e) := by
      have hmem : e ∈ items.filter fun a => before k (key a) := by simp [hitems]
      exact of_decide_eq_true (List.mem_filter.1 hmem).2
    have htwice : items.filter (fun a => before (key e) (key a)) =
        (items.filter fun a => before k (key a)).filter fun a => before (key e) (key a) := by
      rw [List.filter_filter]
      refine List.filter_congr fun a _ => ?_
      by_cases ha : before (key e) (key a)
      · simp [ha, trans_of before he ha]
      · simp [ha]
    rw [above, htwice, hitems]
    exact filter_of_ascending (hitems ▸ ascending.filter _)

/-- **A reader comes to an end and has seen every item once.** -/
theorem IsListing.exists_readsOn (h : IsListing ask key before n items) (hn : 0 < n) (start : Option κ) :
    ∃ pages, ReadsOn ask key start pages ∧ Cuts n (above key before items start) pages := by
  induction hlength : (above key before items start).length using Nat.strong_induction_on generalizing start with
  | _ length ih =>
    by_cases hnone : above key before items start = []
    · refine ⟨[], .done ?_, hnone ▸ .nil⟩
      rw [h.ask_eq, hnone, List.take_nil]
    · have hpage : (above key before items start).take n ≠ [] := by
        simp [hnone, Nat.ne_of_gt hn]
      obtain ⟨xs, last, hxs⟩ := (List.eq_nil_or_concat _).resolve_left hpage
      rw [List.concat_eq_append] at hxs
      have hsplit : above key before items start = xs ++ last :: (above key before items start).drop n := by
        rw [List.append_cons, ← hxs, List.take_append_drop]
      have hrest := above_of_split h.ascending hsplit
      have hless : (above key before items (some (key last))).length < length := by
        have hpositive := List.length_pos_iff.2 hnone
        rw [hrest, List.length_drop]
        omega
      obtain ⟨pages, hpages, hcuts⟩ := ih _ hless (some (key last)) rfl
      rw [hrest] at hcuts
      refine ⟨ask start :: pages, .more ?_ hpages, ?_⟩
      · rw [h.ask_eq, hxs, List.getLast?_concat]
      · rw [h.ask_eq]
        exact hcuts.cons hn hnone

/-- **The items are read whole through the pages.**
* `kept`: what is listed is what is kept;
* `pages`: if a page has room for an item, then a reader is shown one course of pages, and these are the whole listing
  cut into pages of that size. -/
structure IsReadWhole (ask : Option κ → List α) (key : α → κ) (before : κ → κ → Prop) [DecidableRel before]
    (isKept : α → Prop) (n : Nat) (items : List α) : Prop extends IsListing ask key before n items where
  kept : ∀ a, a ∈ items ↔ isKept a
  pages : 0 < n → ∃ pages, (∀ pages', ReadsOn ask key none pages' ↔ pages' = pages) ∧ Cuts n items pages

theorem IsListing.isReadWhole {isKept : α → Prop} (h : IsListing ask key before n items)
    (kept : ∀ a, a ∈ items ↔ isKept a) : IsReadWhole ask key before isKept n items where
  toIsListing := h
  kept := kept
  pages hn := by
    obtain ⟨pages, hpages, hcuts⟩ := h.exists_readsOn hn none
    exact ⟨pages, fun pages' => ⟨fun h => h.unique hpages, fun h => h ▸ hpages⟩, hcuts⟩

end Order

end Reading

/-! ## Tables -/

/-- **A table is read whole through its pages**, whatever is said of each entry, if the entry can be told from it. -/
theorem Table.isReadWhole {κ ν α : Type} [Ord κ] [Std.TransOrd κ] [Std.LawfulEqOrd κ] {before : κ → κ → Prop}
    [DecidableRel before] [IsStrictOrder κ before] (t : Table κ ν) (limit : Option Nat) (say : κ × ν → α)
    (key : α → κ) (value : α → ν) (hkey : ∀ e, key (say e) = e.1) (hvalue : ∀ e, value (say e) = e.2)
    (hsay : ∀ a, say (key a, value a) = a) (hbefore : ∀ j k : κ, compare j k = .lt ↔ before j k) :
    IsReadWhole (fun start => (t.page start limit).map say) key before (fun a => t.get? (key a) = some (value a))
      (min (limit.getD defaultPage) maxPage) (t.entries.map say) := by
  refine IsListing.isReadWhole ⟨?_, List.map_take, fun k => ?_⟩ fun a => ?_
  · rw [List.pairwise_map]
    refine t.ascending.imp fun {a b} h => ?_
    rw [hkey, hkey]
    exact (hbefore _ _).1 h
  · have hsame : (fun e : κ × ν => compare k e.1 == .lt) = (fun a => decide (before k (key a))) ∘ say := by
      funext e
      rw [Function.comp, hkey, Bool.eq_iff_iff, beq_iff_eq, decide_eq_true_iff, hbefore]
    rw [page, after, hsame, List.map_take, List.filter_map]
  · rw [get?_eq_some_iff, List.mem_map]
    constructor
    · rintro ⟨e, he, rfl⟩
      rw [hkey, hvalue]
      exact he
    · intro h
      exact ⟨_, h, hsay a⟩

theorem compare_octets_eq_lt_iff : ∀ bs cs : Octets, compare bs cs = .lt ↔ bs < cs
  | [], [] => iff_of_false nofun (List.not_lt_nil _)
  | [], _ :: _ => iff_of_true rfl (List.nil_lt_cons ..)
  | _ :: _, [] => iff_of_false nofun (List.not_lt_nil _)
  | b :: bs, c :: cs => by
    have ih : List.compareLex compare bs cs = .lt ↔ bs < cs := compare_octets_eq_lt_iff bs cs
    rw [List.compare_eq_compareLex, List.compareLex_cons_cons, Ordering.then_eq_lt, List.cons_lt_cons_iff, ih,
      Std.compare_eq_lt, Std.LawfulEqOrd.compare_eq_iff_eq]

namespace Bridge

/-- **The order of the mapping of assets**: by chain, and for one chain by the octets of the type, as in a
dictionary. -/
def Precedes (j k : ChainId × Octets) : Prop := j.1 < k.1 ∨ j.1 = k.1 ∧ j.2 < k.2

instance : DecidableRel Precedes := fun j k => inferInstanceAs (Decidable (j.1 < k.1 ∨ j.1 = k.1 ∧ j.2 < k.2))

theorem compare_eq_lt_iff_precedes (j k : ChainId × Octets) : compare j k = .lt ↔ Precedes j k := by
  change (compare j.1 k.1).then (compare j.2 k.2) = .lt ↔ _
  rw [Ordering.then_eq_lt, compare_lt_iff_lt, compare_eq_iff_eq, compare_octets_eq_lt_iff, Precedes]

instance : IsStrictOrder (ChainId × Octets) Precedes where
  irrefl k h := Table.compare_self_ne_lt k ((compare_eq_lt_iff_precedes k k).2 h)
  trans i j k h h' := by
    rw [← compare_eq_lt_iff_precedes] at h h' ⊢
    exact Std.TransCmp.lt_trans h h'

/-- Where an entry of the mapping stands. -/
def CoinMapping.place (v : CoinMapping) : ChainId × Octets := (v.chain, v.key)

/-- **Paging visits everything once.**  For each size of a page that a reader may ask for, and every storage, the
trusted addresses are read whole in the order of their chains, and the mapping of assets in the order of its keys.  A
page has thirty items if no size is asked for, and never more than a hundred; a question about either is answered with
the page, and the answer is read as that page and no other. -/
theorem pages_visit_once (s : Store) (limit : Option PageSize) :
    let n := min (limit.elim 30 (·.val)) 100
    (∃ items, IsReadWhole (s.remotePage · limit) RemoteView.chain (· < ·)
      (fun v => s.remotes.get? v.chain = some v.address) n items) ∧
    (∃ items, IsReadWhole (s.coinPage · limit) CoinMapping.place Precedes
      (fun v => s.remoteCoins.get? v.place = some v.remoteAsset) n items) ∧
    (n = 0 ↔ limit.map (·.val) = some 0) ∧
    (∀ env ask start, (Question.trustedRemotes start limit).answer env ask s =
      .ok (.object [("remotes", .array ((s.remotePage start limit).map RemoteView.toJson))])) ∧
    (∀ env ask start, (Question.coinMappings start limit).answer env ask s =
      .ok (.object [("mappings", .array ((s.coinPage start limit).map CoinMapping.toJson))])) ∧
    (∀ env ask start views, (Question.trustedRemotes start limit).Shows env ask s RemoteView.page? views ↔
      views = s.remotePage start limit) ∧
    ∀ env ask start views, (Question.coinMappings start limit).Shows env ask s CoinMapping.page? views ↔
      views = s.coinPage start limit := by
  intro n
  have hsize : min ((limit.map (·.val)).getD Table.defaultPage) Table.maxPage = n := by
    cases limit <;> rfl
  have hremotes := s.remotes.isReadWhole (limit.map (·.val)) (fun e => ⟨e.1, e.2⟩) RemoteView.chain RemoteView.address
    (fun _ => rfl) (fun _ => rfl) (fun _ => rfl) fun _ _ => compare_lt_iff_lt
  have hcoins := s.remoteCoins.isReadWhole (limit.map (·.val)) (fun e => ⟨e.1.1, e.1.2, e.2⟩) CoinMapping.place
    CoinMapping.remoteAsset (fun _ => rfl) (fun _ => rfl) (fun _ => rfl) compare_eq_lt_iff_precedes
  rw [hsize] at hremotes hcoins
  refine ⟨⟨_, hremotes⟩, ⟨_, hcoins⟩, ?_, fun _ _ _ => rfl, fun _ _ _ => rfl,
    fun _ _ _ _ => shows_trustedRemotes_iff.trans eq_comm, fun _ _ _ _ => shows_coinMappings_iff.trans eq_comm⟩
  cases limit with
  | none => simp [n]
  | some l => simp [n]

end Bridge

end VestingBridge
