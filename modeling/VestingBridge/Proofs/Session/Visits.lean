import VestingBridge.Proofs.Bridge.Run
import VestingBridge.Proofs.Endpoint.Paths
import VestingBridge.Session.Step
/-!
# Proofs.Session.Visits — the contracts that a call enters

A call that lands enters one contract after another, each on the world that the one before left (`Walk`).  Seen from one
address, that is a run of the contract there (`Walk.bridge`, `Walk.endpoint`), so that what holds of every run of a
bridge or an endpoint holds of it among other contracts.
-/
namespace VestingBridge.Session

theorem bind_eq_ok_iff {ε α β : Type} {x : Except ε α} {f : α → Except ε β} {b : β} :
    (x >>= f) = .ok b ↔ ∃ a, x = .ok a ∧ f a = .ok b := by
  cases x with
  | error e => exact ⟨nofun, nofun⟩
  | ok a =>
    constructor
    · intro h
      exact ⟨a, rfl, h⟩
    · rintro ⟨a', h, hf⟩
      cases h
      exact hf

theorem bind_eq_error_iff {ε α β : Type} {x : Except ε α} {f : α → Except ε β} {e : ε} :
    (x >>= f) = .error e ↔ x = .error e ∨ ∃ a, x = .ok a ∧ f a = .error e := by
  cases x <;> simp [bind, Except.bind]

theorem bind_eq_of_ok {ε α β : Type} {x : Except ε α} {f : α → Except ε β} {a : α} (h : x = .ok a) :
    (x >>= f) = f a := by
  rw [h]
  rfl

def Entry.isCreate : Entry → Bool
  | create .. => true
  | execute .. | reply _ | upgrade _ => false

def Contract.isCreated : Contract → Bool
  | bridge s => s.config.isSome
  | endpoint s => s.config.isSome

/-- A contract is created at most once. -/
def Entry.IsOnce (entry : Entry) (w : World) (self : Account) : Prop :=
  entry.isCreate = true → (w.get? self).any Contract.isCreated = false

instance {entry : Entry} {w : World} {self : Account} : Decidable (entry.IsOnce w self) :=
  inferInstanceAs (Decidable (_ → _))

variable {w w' w'' : World} {now : Seconds} {self here : Account} {entry : Entry} {r : Response}
  {visits more : List Visit}

theorem Entry.isOnce_of_not_create (h : entry.isCreate = false) : entry.IsOnce w self := fun hcreate => by
  rw [h] at hcreate
  cases hcreate

theorem readable_map_eq_ok_iff {α β : Type} {x : Option α} {f : α → β} {b : β} :
    (readable x).map f = .ok b ↔ ∃ a, x = some a ∧ f a = b := by
  cases x with
  | none => exact ⟨nofun, nofun⟩
  | some a =>
    constructor
    · intro h
      exact ⟨a, rfl, Except.ok.inj h⟩
    · rintro ⟨a', h, rfl⟩
      cases h
      rfl

theorem Entry.isCreate_of_toBridge {event : Bridge.Event} (h : entry.toBridge = .ok event) :
    event.isCreate = entry.isCreate := by
  cases entry with
  | create caller message | execute caller message =>
    obtain ⟨_, -, rfl⟩ := readable_map_eq_ok_iff.1 h
    rfl
  | reply id =>
    cases h
    rfl
  | upgrade message =>
    rw [toBridge] at h
    split at h
    · cases h
      rfl
    · cases h

theorem Entry.isCreate_of_toEndpoint {event : Endpoint.Event} (h : entry.toEndpoint = .ok event) :
    event.isCreate = entry.isCreate := by
  cases entry with
  | create caller message | execute caller message =>
    obtain ⟨_, -, rfl⟩ := readable_map_eq_ok_iff.1 h
    rfl
  | reply id => cases h
  | upgrade message => cases h

/-- **What it means that a contract was entered**: it read the entry and the event landed. -/
inductive Landed (w : World) (now : Seconds) (self : Account) (entry : Entry) (r : Response) (w' : World) : Prop
  | bridge (s t : Bridge.Store) (event : Bridge.Event) (found : w.get? self = some (.bridge s))
      (read : entry.toBridge = .ok event) (landed : (event.run ⟨self, now⟩).commit s = .ok (r, t))
      (after : w' = w.insert self (.bridge t))
  | endpoint (s t : Endpoint.Store) (event : Endpoint.Event) (found : w.get? self = some (.endpoint s))
      (read : entry.toEndpoint = .ok event) (landed : event.run.commit s = .ok (r, t))
      (after : w' = w.insert self (.endpoint t))

/-- What is entered at a bridge is an event that lands there. -/
theorem Landed.of_bridge (h : Landed w now self entry r w') {s : Bridge.Store} (hs : w.get? self = some (.bridge s)) :
    ∃ event t, entry.toBridge = .ok event ∧ (event.run ⟨self, now⟩).commit s = .ok (r, t) ∧
      w' = w.insert self (.bridge t) := by
  cases h with
  | endpoint _ _ _ found _ _ _ => cases hs.symm.trans found
  | bridge _ t event found read landed after =>
    cases hs.symm.trans found
    exact ⟨event, t, read, landed, after⟩

theorem Landed.of_endpoint (h : Landed w now self entry r w') {s : Endpoint.Store}
    (hs : w.get? self = some (.endpoint s)) :
    ∃ event t, entry.toEndpoint = .ok event ∧ event.run.commit s = .ok (r, t) ∧ w' = w.insert self (.endpoint t) := by
  cases h with
  | bridge _ _ _ found _ _ _ => cases hs.symm.trans found
  | endpoint _ t event found read landed after =>
    cases hs.symm.trans found
    exact ⟨event, t, read, landed, after⟩

theorem landed_of_enter (h : w.enter now self entry = .ok (w', r)) : Landed w now self entry r w' := by
  unfold World.enter at h
  split at h
  · cases h
  · rename_i contract hfound
    cases hentered : contract.enter ⟨self, now⟩ entry with
    | error f =>
      rw [hentered] at h
      cases h
    | ok result =>
      rw [hentered] at h
      cases h
      cases contract with
      | bridge s =>
        obtain ⟨event, hread, hland⟩ := bind_eq_ok_iff.1 hentered
        split at hland
        · rename_i response t hcommit
          cases hland
          exact .bridge s t event hfound hread hcommit rfl
        · cases hland
      | endpoint s =>
        obtain ⟨event, hread, hland⟩ := bind_eq_ok_iff.1 hentered
        split at hland
        · rename_i response t hcommit
          cases hland
          exact .endpoint s t event hfound hread hcommit rfl
        · cases hland

/-- **A contract after another is entered.** -/
inductive Walk (now : Seconds) : World → List Visit → World → Prop
  | done {w : World} : Walk now w [] w
  | visit {w w' w'' : World} {v : Visit} {visits : List Visit} : v.entry.IsOnce w v.contract →
      Landed w now v.contract v.entry v.response w' → Walk now w' visits w'' → Walk now w (v :: visits) w''

theorem Walk.trans (h : Walk now w visits w') (h' : Walk now w' more w'') : Walk now w (visits ++ more) w'' := by
  induction h with
  | done => exact h'
  | visit honce hland _ ih => exact .visit honce hland (ih h')

/-! ## Calls are walks -/

section
variable {call : World → Account → Entry → Outcome}
  (hcall : ∀ {w w' self entry visits}, entry.isCreate = false → call w self entry = .ok (w', visits) →
    Walk now w visits w')
include hcall

theorem walk_of_forward {m : Outgoing} (h : World.forward call self w m = .ok (w', visits)) :
    Walk now w visits w' := by
  unfold World.forward at h
  split at h
  · cases h
    exact .done
  · split at h
    · obtain ⟨⟨w1, first⟩, hfirst, h⟩ := bind_eq_ok_iff.1 h
      have hwalk := hcall rfl hfirst
      dsimp only at h
      split at h
      · cases h
        exact hwalk
      · obtain ⟨⟨w2, second⟩, hsecond, h⟩ := bind_eq_ok_iff.1 h
        cases h
        exact hwalk.trans (hcall rfl hsecond)
    · cases h
      exact .done

theorem walk_of_forwardAll {messages : List Outgoing} :
    ∀ {w visits}, World.forwardAll call self w messages = .ok (w', visits) → Walk now w visits w' := by
  induction messages with
  | nil =>
    intro w visits h
    cases h
    exact .done
  | cons m ms ih =>
    intro w visits h
    obtain ⟨⟨w1, first⟩, hfirst, h⟩ := bind_eq_ok_iff.1 h
    obtain ⟨⟨w2, rest⟩, hrest, h⟩ := bind_eq_ok_iff.1 h
    cases h
    exact (walk_of_forward hcall hfirst).trans (ih hrest)

end

theorem callWithin_ok {depth : Nat} (h : World.callWithin now (depth + 1) w self entry = .ok (w', visits)) :
    ∃ r w1 rest, w.enter now self entry = .ok (w1, r) ∧
      World.forwardAll (World.callWithin now depth) self w1 r.messages = .ok (w', rest) ∧
      visits = ⟨self, entry, r⟩ :: rest := by
  obtain ⟨⟨w1, r⟩, henter, h⟩ := bind_eq_ok_iff.1 h
  obtain ⟨⟨w2, rest⟩, hrest, h⟩ := bind_eq_ok_iff.1 h
  cases h
  exact ⟨r, w1, rest, henter, hrest, rfl⟩

/-- **A call that lands is a walk**, however deep calls are nested. -/
theorem walk_of_callWithin {depth : Nat} : ∀ {w w' self entry visits}, entry.IsOnce w self →
    World.callWithin now depth w self entry = .ok (w', visits) → Walk now w visits w' := by
  induction depth with
  | zero =>
    intro w w' self entry visits honce h
    cases h
  | succ depth ih =>
    intro w w' self entry visits honce h
    obtain ⟨r, w1, rest, henter, hrest, rfl⟩ := callWithin_ok h
    have hwalk := walk_of_forwardAll (fun hnot => ih (Entry.isOnce_of_not_create hnot)) hrest
    exact .visit honce (landed_of_enter henter) hwalk

/-! ## Calls that land -/

theorem enter_eq {contract : Contract} (found : w.get? self = some contract) :
    w.enter now self entry = (contract.enter ⟨self, now⟩ entry).map fun p => (w.insert self p.2, p.1) := by
  rw [World.enter, found]

theorem enter_of_landed (h : Landed w now self entry r w') : w.enter now self entry = .ok (w', r) := by
  cases h with
  | bridge s t event found read landed after =>
    have hentered : (Contract.bridge s).enter ⟨self, now⟩ entry = .ok (r, .bridge t) := by
      refine bind_eq_ok_iff.2 ⟨event, read, ?_⟩
      rw [landed]
      rfl
    rw [enter_eq found, hentered, after]
    rfl
  | endpoint s t event found read landed after =>
    have hentered : (Contract.endpoint s).enter ⟨self, now⟩ entry = .ok (r, .endpoint t) := by
      refine bind_eq_ok_iff.2 ⟨event, read, ?_⟩
      rw [landed]
      rfl
    rw [enter_eq found, hentered, after]
    rfl

theorem enter_of_bridge_refused {s : Bridge.Store} {event : Bridge.Event} {e : Bridge.Error}
    (found : w.get? self = some (.bridge s)) (read : entry.toBridge = .ok event)
    (refused : (event.run ⟨self, now⟩).commit s = .error e) : w.enter now self entry = .error (.bridge e) := by
  have hentered : (Contract.bridge s).enter ⟨self, now⟩ entry = .error (.bridge e) := by
    refine (bind_eq_of_ok read).trans ?_
    rw [refused]
    rfl
  rw [enter_eq found, hentered]
  rfl

/-- A contract that is entered is followed by what it asks for. -/
theorem callWithin_of_landed (depth : Nat) (h : Landed w now self entry r w') :
    World.callWithin now (depth + 1) w self entry =
      (World.forwardAll (World.callWithin now depth) self w' r.messages).map fun p =>
        (p.1, ⟨self, entry, r⟩ :: p.2) := by
  rw [World.callWithin, enter_of_landed h]
  change (World.forwardAll (World.callWithin now depth) self w' r.messages >>= _) = _
  cases World.forwardAll (World.callWithin now depth) self w' r.messages <;> rfl

theorem callWithin_of_silent {depth : Nat} (h : Landed w now self entry r w') (hsilent : r.messages = []) :
    World.callWithin now (depth + 1) w self entry = .ok (w', [⟨self, entry, r⟩]) := by
  rw [callWithin_of_landed depth h, hsilent]
  rfl

/-- A single message to a contract of the world is carried out by calling it. -/
theorem forwardAll_call {call : World → Account → Entry → Outcome} {contract : Account} {body : Call}
    {funds : List Coin} (hin : w.contains contract = true) :
    World.forwardAll call self w [⟨.call contract body funds, none⟩] =
      call w contract (.execute ⟨self, funds⟩ body.toJson) := by
  have hforward : World.forward call self w ⟨.call contract body funds, none⟩ =
      call w contract (.execute ⟨self, funds⟩ body.toJson) := by
    unfold World.forward
    dsimp only
    rw [if_pos hin]
    cases call w contract (.execute ⟨self, funds⟩ body.toJson) <;> rfl
  rw [World.forwardAll, hforward]
  cases hcall : call w contract (.execute ⟨self, funds⟩ body.toJson) with
  | error f => rfl
  | ok p =>
    change Except.ok (p.1, p.2 ++ []) = _
    rw [List.append_nil]

/-- A single message is carried out by calling its contract and then sending the reply, if the contract is in the
world. -/
theorem forwardAll_single_ok {call : World → Account → Entry → Outcome} {contract : Account} {body : Call}
    {funds : List Coin} {replyId : Option ReplyId}
    (h : World.forwardAll call self w [⟨.call contract body funds, replyId⟩] = .ok (w', visits)) :
    w.contains contract = false ∧ w' = w ∧ visits = [] ∨
      w.contains contract = true ∧ ∃ w1 first rest,
        call w contract (.execute ⟨self, funds⟩ body.toJson) = .ok (w1, first) ∧ visits = first ++ rest ∧
        (replyId = none → w1 = w' ∧ rest = []) ∧
        ∀ id, replyId = some id → call w1 self (.reply id) = .ok (w', rest) := by
  obtain ⟨⟨w2, visits'⟩, hforward, h⟩ := bind_eq_ok_iff.1 h
  cases h
  rw [List.append_nil]
  unfold World.forward at hforward
  dsimp only at hforward
  split at hforward
  · rename_i hin
    refine .inr ⟨hin, ?_⟩
    obtain ⟨⟨w1, first⟩, hfirst, hforward⟩ := bind_eq_ok_iff.1 hforward
    cases replyId with
    | none =>
      cases hforward
      exact ⟨w1, first, [], hfirst, (List.append_nil _).symm, fun _ => ⟨rfl, rfl⟩, nofun⟩
    | some id =>
      obtain ⟨⟨w3, rest⟩, hrest, hforward⟩ := bind_eq_ok_iff.1 hforward
      cases hforward
      exact ⟨w1, first, rest, hfirst, rfl, nofun, fun _ heq => Option.some.inj heq ▸ hrest⟩
  · rename_i hout
    cases hforward
    exact .inl ⟨by simpa using hout, rfl, rfl⟩

/-- A payment to an address outside, or in native coins, is only reported. -/
theorem forwardAll_payment {call : World → Account → Entry → Outcome} {holding : Holding} {recipient : Account}
    {amount : Amount} (houtside : ∀ contract, holding = .token contract → w.contains contract = false) :
    World.forwardAll call self w [⟨holding.payment recipient amount, none⟩] = .ok (w, []) := by
  cases holding with
  | native denom => rfl
  | token contract =>
    have hforward : World.forward call self w ⟨(Holding.token contract).payment recipient amount, none⟩ =
        .ok (w, []) := by
      unfold World.forward Holding.payment
      dsimp only
      rw [if_neg (by rw [houtside contract rfl]; exact Bool.false_ne_true)]
    rw [World.forwardAll, hforward]
    rfl

/-! ## A walk seen from one address -/

/-- What landed at an address, if a bridge there was visited. -/
def Visit.atBridge? (here : Account) (now : Seconds) (v : Visit) : Option Bridge.Landing :=
  if v.contract = here then
    match v.entry.toBridge with
    | .ok event => some ⟨now, event, v.response⟩
    | .error _ => none
  else none

/-- What landed at an address, if an endpoint there was visited. -/
def Visit.atEndpoint? (here : Account) (v : Visit) : Option Endpoint.Landing :=
  if v.contract = here then
    match v.entry.toEndpoint with
    | .ok event => some ⟨event, v.response⟩
    | .error _ => none
  else none

theorem Landed.get?_of_ne (h : Landed w now self entry r w') (hne : here ≠ self) : w'.get? here = w.get? here := by
  cases h with
  | bridge _ _ _ _ _ _ after => rw [after, Table.get?_insert, if_neg hne]
  | endpoint _ _ _ _ _ _ after => rw [after, Table.get?_insert, if_neg hne]

theorem Landed.contains_eq (h : Landed w now self entry r w') (here : Account) :
    w'.contains here = w.contains here := by
  by_cases hhere : here = self
  · subst hhere
    cases h with
    | bridge _ _ _ found _ _ after | endpoint _ _ _ found _ _ after =>
      rw [Table.contains, Table.contains, after, Table.get?_insert, if_pos rfl, found]
      rfl
  · rw [Table.contains, Table.contains, h.get?_of_ne hhere]

/-- **A walk is a run of each bridge on it.** -/
theorem Walk.bridge (h : Walk now w visits w') : ∀ {s : Bridge.Store}, w.get? here = some (.bridge s) →
    ∃ t, w'.get? here = some (.bridge t) ∧ Bridge.Run here s (visits.filterMap (·.atBridge? here now)) t := by
  induction h with
  | done => exact fun hs => ⟨_, hs, .start⟩
  | @visit w w1 w' v visits honce hland _ ih =>
    intro s hs
    by_cases hhere : v.contract = here
    · subst hhere
      obtain ⟨event, t, read, landed, after⟩ := hland.of_bridge hs
      obtain ⟨u, hu, hrun⟩ := @ih t (by rw [after, Table.get?_insert, if_pos rfl])
      have hvisit : v.atBridge? v.contract now = some ⟨now, event, v.response⟩ := by
        rw [Visit.atBridge?, if_pos rfl, read]
      refine ⟨u, hu, ?_⟩
      rw [List.filterMap_cons_some hvisit]
      refine Runs.trans (Bridge.Run.of_landed (fun hcreate => ?_) landed) hrun
      rw [Entry.isCreate_of_toBridge read] at hcreate
      have hnot := honce hcreate
      rw [hs] at hnot
      exact Option.isNone_iff_eq_none.1 (Option.isSome_eq_false_iff.1 hnot)
    · obtain ⟨u, hu, hrun⟩ := ih ((hland.get?_of_ne (Ne.symm hhere)).trans hs)
      have hvisit : v.atBridge? here now = none := if_neg hhere
      refine ⟨u, hu, ?_⟩
      rwa [List.filterMap_cons_none hvisit]

theorem Walk.endpoint (h : Walk now w visits w') : ∀ {s : Endpoint.Store}, w.get? here = some (.endpoint s) →
    ∃ t, w'.get? here = some (.endpoint t) ∧ Endpoint.Run s (visits.filterMap (·.atEndpoint? here)) t := by
  induction h with
  | done => exact fun hs => ⟨_, hs, .start⟩
  | @visit w w1 w' v visits honce hland _ ih =>
    intro s hs
    by_cases hhere : v.contract = here
    · subst hhere
      obtain ⟨event, t, read, landed, after⟩ := hland.of_endpoint hs
      obtain ⟨u, hu, hrun⟩ := @ih t (by rw [after, Table.get?_insert, if_pos rfl])
      have hvisit : v.atEndpoint? v.contract = some ⟨event, v.response⟩ := by
        rw [Visit.atEndpoint?, if_pos rfl, read]
      refine ⟨u, hu, ?_⟩
      rw [List.filterMap_cons_some hvisit]
      refine Runs.trans (Endpoint.Run.of_landed (fun hcreate => ?_) landed) hrun
      rw [Entry.isCreate_of_toEndpoint read] at hcreate
      have hnot := honce hcreate
      rw [hs] at hnot
      exact Option.isNone_iff_eq_none.1 (Option.isSome_eq_false_iff.1 hnot)
    · obtain ⟨u, hu, hrun⟩ := ih ((hland.get?_of_ne (Ne.symm hhere)).trans hs)
      have hvisit : v.atEndpoint? here = none := if_neg hhere
      refine ⟨u, hu, ?_⟩
      rwa [List.filterMap_cons_none hvisit]

end VestingBridge.Session
