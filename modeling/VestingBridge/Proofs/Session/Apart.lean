import VestingBridge.Proofs.Endpoint.Apart
import VestingBridge.Proofs.Session.Causes
/-!
# Proofs.Session.Apart — bridges that do not get in each other's way

A step that is for one bridge reads the storage of this bridge and its entries at endpoints, and leaves everything else
as it is (`step_twin`).  So it answers the same in worlds that agree on that bridge, and two steps for different bridges
may be taken in either order.
-/
namespace VestingBridge.Session

/-! ## Worlds that agree on some contracts -/

/-- **The contracts at an address agree on some addresses**: a bridge is the same if its address is among them, and an
endpoint keeps the same for the applications among them. -/
inductive Contract.Agree (P : Account → Prop) (here : Account) : Contract → Contract → Prop
  | bridge (s t : Bridge.Store) (same : P here → s = t) : Agree P here (.bridge s) (.bridge t)
  | endpoint (s t : Endpoint.Store) (agree : s.AgreeOn P t) : Agree P here (.endpoint s) (.endpoint t)

/-- **The worlds have the same kinds of contracts, and agree on some addresses.** -/
def World.AgreeOn (P : Account → Prop) (w w' : World) : Prop :=
  ∀ here, Option.Rel (Contract.Agree P here) (w.get? here) (w'.get? here)

variable {P Q : Account → Prop} {w w' w'' : World} {B self here author : Account} {c c' : Contract} {entry : Entry}
  {now : Seconds} {env : Env} {f : Failure} {m : Outgoing} {s t : Session}

theorem Contract.Agree.refl (P : Account → Prop) (here : Account) (c : Contract) : Contract.Agree P here c c := by
  cases c with
  | bridge s => exact .bridge s s fun _ => rfl
  | endpoint s => exact .endpoint s s (.refl P s)

theorem World.AgreeOn.refl (P : Account → Prop) (w : World) : World.AgreeOn P w w := by
  intro here
  cases w.get? here with
  | none => exact .none
  | some c => exact .some (.refl P here c)

theorem World.AgreeOn.get?_none (h : World.AgreeOn P w w') (hw : w.get? here = none) : w'.get? here = none := by
  have hrel := h here
  rw [hw] at hrel
  generalize w'.get? here = x at hrel ⊢
  cases hrel
  rfl

theorem World.AgreeOn.get?_some (h : World.AgreeOn P w w') (hw : w.get? here = some c) :
    ∃ c', w'.get? here = some c' ∧ Contract.Agree P here c c' := by
  have hrel := h here
  rw [hw] at hrel
  generalize w'.get? here = x at hrel ⊢
  cases hrel with
  | some hagree => exact ⟨_, rfl, hagree⟩

theorem World.AgreeOn.of_get? (hnone : ∀ here, w.get? here = none → w'.get? here = none)
    (hsome : ∀ here c, w.get? here = some c → ∃ c', w'.get? here = some c' ∧ Contract.Agree P here c c') :
    World.AgreeOn P w w' := by
  intro here
  cases hw : w.get? here with
  | none =>
    rw [hnone here hw]
    exact .none
  | some c =>
    obtain ⟨c', hw', hagree⟩ := hsome here c hw
    rw [hw']
    exact .some hagree

theorem Contract.Agree.symm (h : Contract.Agree P here c c') : Contract.Agree P here c' c := by
  cases h with
  | bridge s t same => exact .bridge t s fun hP => (same hP).symm
  | endpoint s t agree => exact .endpoint t s agree.symm

theorem Contract.Agree.trans {c'' : Contract} (h : Contract.Agree P here c c') (h' : Contract.Agree P here c' c'') :
    Contract.Agree P here c c'' := by
  cases h with
  | bridge s t same =>
    cases h' with
    | bridge _ u same' => exact .bridge s u fun hP => (same hP).trans (same' hP)
  | endpoint s t agree =>
    cases h' with
    | endpoint _ u agree' => exact .endpoint s u (agree.trans agree')

theorem Contract.Agree.mono (h : Contract.Agree Q here c c') (hsub : ∀ a, P a → Q a) : Contract.Agree P here c c' := by
  cases h with
  | bridge s t same => exact .bridge s t fun hP => same (hsub here hP)
  | endpoint s t agree => exact .endpoint s t (agree.mono hsub)

theorem World.AgreeOn.symm (h : World.AgreeOn P w w') : World.AgreeOn P w' w := by
  intro here
  have hrel := h here
  generalize w.get? here = x at hrel ⊢
  generalize w'.get? here = y at hrel ⊢
  cases hrel with
  | none => exact .none
  | some hagree => exact .some hagree.symm

theorem World.AgreeOn.trans (h : World.AgreeOn P w w') (h' : World.AgreeOn P w' w'') : World.AgreeOn P w w'' := by
  refine .of_get? (fun here hw => h'.get?_none (h.get?_none hw)) fun here c hw => ?_
  obtain ⟨c', hw', hagree⟩ := h.get?_some hw
  obtain ⟨c'', hw'', hagree'⟩ := h'.get?_some hw'
  exact ⟨c'', hw'', hagree.trans hagree'⟩

theorem World.AgreeOn.mono (h : World.AgreeOn Q w w') (hsub : ∀ a, P a → Q a) : World.AgreeOn P w w' := by
  refine .of_get? (fun here => h.get?_none) fun here c hw => ?_
  obtain ⟨c', hw', hagree⟩ := h.get?_some hw
  exact ⟨c', hw', hagree.mono hsub⟩

/-- **Worlds that agree on each address are the same.** -/
theorem World.eq_of_agreeOn (h : ∀ a, World.AgreeOn (· = a) w w') : w = w' := by
  refine Table.ext_get? fun here => ?_
  cases hw : w.get? here with
  | none => exact ((h here).get?_none hw).symm
  | some c =>
    obtain ⟨c', hw', hagree⟩ := (h here).get?_some hw
    rw [hw']
    cases hagree with
    | bridge s t same => rw [same rfl]
    | endpoint s t =>
      have hstore : s = t := Endpoint.Store.eq_of_agreeOn fun a => by
        obtain ⟨c'', hw'', hagree'⟩ := (h a).get?_some hw
        cases hw'.symm.trans hw''
        cases hagree' with
        | endpoint _ _ agree => exact agree
      rw [hstore]

theorem World.AgreeOn.contains_eq (h : World.AgreeOn P w w') (here : Account) : w.contains here = w'.contains here := by
  rw [Table.contains, Table.contains]
  cases hw : w.get? here with
  | none => rw [h.get?_none hw]
  | some c =>
    obtain ⟨c', hw', -⟩ := h.get?_some hw
    rw [hw']
    rfl

theorem World.AgreeOn.insert (h : World.AgreeOn P w w') (hc : Contract.Agree P here c c') :
    World.AgreeOn P (w.insert here c) (w'.insert here c') := by
  intro other
  rw [Table.get?_insert, Table.get?_insert]
  by_cases hother : other = here
  · rw [if_pos hother, if_pos hother, hother]
    exact .some hc
  · rw [if_neg hother, if_neg hother]
    exact h other

theorem agreeOn_insert (hw : w.get? here = some c) (hc : Contract.Agree P here c c') :
    World.AgreeOn P w (w.insert here c') := by
  have hinsert := (World.AgreeOn.refl P w).insert hc
  rwa [Table.insert_of_get? hw] at hinsert

theorem World.AgreeOn.bridge (h : World.AgreeOn P w w') (hB : ∃ b, w.get? B = some (.bridge b)) :
    ∃ b, w'.get? B = some (.bridge b) := by
  obtain ⟨b, hb⟩ := hB
  obtain ⟨c, hc, hagree⟩ := h.get?_some hb
  cases hagree with
  | bridge _ t => exact ⟨t, hc⟩

/-! ## What concerns one bridge -/

/-- **The entry concerns one bridge**: it is made there, or it means nothing to any bridge, and to an endpoint what
concerns that one. -/
def Entry.Concerns (B self : Account) (entry : Entry) : Prop :=
  self = B ∨ (∀ event, entry.toBridge ≠ .ok event) ∧ ∀ event, entry.toEndpoint = .ok event → event.Concerns B

/-- **The message concerns one bridge**: the call that it makes does, and only the bridge itself is called back. -/
def Concerning (B author : Account) (m : Outgoing) : Prop :=
  (∀ contract body funds, m.message = .call contract body funds →
    (Entry.execute ⟨author, funds⟩ body.toJson).Concerns B contract) ∧
  ∀ id, m.replyId = some id → author = B

theorem unread_of_none {caller : Caller} {message : Json} (h : Bridge.ExecuteCall.ofJson? message = none) :
    ∀ event, (Entry.execute caller message).toBridge ≠ .ok event := by
  intro event hread
  rw [Entry.toBridge, h] at hread
  cases hread

/-- **What a bridge sends concerns itself.** -/
theorem concerning_of_bridge {event : Bridge.Event} {b b' : Bridge.Store} {r : Response}
    (h : (event.run env).commit b = .ok (r, b')) : ∀ m ∈ r.messages, Concerning B B m := by
  refine fun m hm => ⟨fun contract body funds hmessage => ?_, fun _ _ => rfl⟩
  cases body with
  | transfer recipient amount =>
    refine .inr ⟨unread_of_none rfl, fun event hread => ?_⟩
    cases hread
  | endpoint call =>
    refine .inr ⟨unread_of_none (bridge_reads_no call "" Amount.zero).1, fun event hread => ?_⟩
    rw [Entry.toEndpoint, endpoint_reads] at hread
    cases hread
    cases call <;> rfl
  | receiver call => exact absurd hmessage (Bridge.hands_nothing h m hm contract call funds)

/-- **What an endpoint sends for an application concerns that one.** -/
theorem concerning_of_endpoint {event : Endpoint.Event} {e e' : Endpoint.Store} {r : Response}
    (hconcerns : event.Concerns B) (h : event.run.commit e = .ok (r, e')) :
    ∀ m ∈ r.messages, Concerning B author m := by
  cases Endpoint.passing_of_landed h with
  | aside _ silent _ _ _ _ _ | sent _ _ _ _ _ _ _ _ _ _ silent _ _ =>
    rw [silent]
    exact nofun
  | delivered caller target delivery packet _ isDelivery _ _ _ _ handed _ _ =>
    rw [isDelivery] at hconcerns
    rw [handed]
    intro m hm
    cases List.mem_singleton.1 hm
    refine ⟨fun contract body funds hmessage => ?_, nofun⟩
    cases hmessage
    exact .inl hconcerns

/-! ## The same step in two worlds -/

theorem enter_bridge {b : Bridge.Store} {event : Bridge.Event} (read : entry.toBridge = .ok event) :
    (Contract.bridge b).enter env entry =
      (((event.run env).commit b).mapError .bridge).map fun answer => (answer.1, .bridge answer.2) := by
  refine (bind_eq_of_ok read).trans ?_
  cases (event.run env).commit b <;> rfl

theorem enter_endpoint {e : Endpoint.Store} {event : Endpoint.Event} (read : entry.toEndpoint = .ok event) :
    (Contract.endpoint e).enter env entry =
      ((event.run.commit e).mapError .endpoint).map fun answer => (answer.1, .endpoint answer.2) := by
  refine (bind_eq_of_ok read).trans ?_
  cases event.run.commit e <;> rfl

theorem enter_bridge_unread {b : Bridge.Store} (read : entry.toBridge = .error f) :
    (Contract.bridge b).enter env entry = .error f := by
  rw [Contract.enter, read]
  rfl

theorem enter_endpoint_unread {e : Endpoint.Store} (read : entry.toEndpoint = .error f) :
    (Contract.endpoint e).enter env entry = .error f := by
  rw [Contract.enter, read]
  rfl

/-- **What concerns a bridge does not tell contracts apart that agree on it**, leaves what belongs to any other address,
and sends what concerns the bridge again. -/
theorem Contract.Agree.enter (hc : Contract.Agree P self c c') (env : Env) (hP : P B) (hentry : entry.Concerns B self)
    (hkind : self = B → ∃ b, c = .bridge b) :
    (∃ f, c.enter env entry = .error f ∧ c'.enter env entry = .error f) ∨
    ∃ r d d', c.enter env entry = .ok (r, d) ∧ c'.enter env entry = .ok (r, d') ∧ Contract.Agree P self d d' ∧
      Contract.Agree (· ≠ B) self c d ∧ ∀ m ∈ r.messages, Concerning B self m := by
  cases hc with
  | bridge s t same =>
    cases hread : entry.toBridge with
    | error f => exact .inl ⟨f, enter_bridge_unread hread, enter_bridge_unread hread⟩
    | ok event =>
      rcases hentry with rfl | ⟨hunread, -⟩
      · cases same hP
        cases hland : (event.run env).commit s with
        | error e =>
          exact .inl ⟨.bridge e, by rw [enter_bridge hread, hland]; rfl, by rw [enter_bridge hread, hland]; rfl⟩
        | ok answer =>
          have henter : (Contract.bridge s).enter env entry = .ok (answer.1, .bridge answer.2) := by
            rw [enter_bridge hread, hland]
            rfl
          exact .inr ⟨_, _, _, henter, henter, .refl P self _, .bridge _ _ fun hne => absurd rfl hne,
            concerning_of_bridge hland⟩
      · exact absurd hread (hunread event)
  | endpoint s t agree =>
    cases hread : entry.toEndpoint with
    | error f => exact .inl ⟨f, enter_endpoint_unread hread, enter_endpoint_unread hread⟩
    | ok event =>
      rcases hentry with hself | ⟨-, hconcerns⟩
      · obtain ⟨b, hb⟩ := hkind hself
        cases hb
      · have halike := Endpoint.alike_of_concerns hP (hconcerns event hread) s t agree
        rcases halike.elim with ⟨e, hs, ht⟩ | ⟨r, s', t', hs, ht, related⟩
        · exact .inl ⟨.endpoint e, by rw [enter_endpoint hread, hs]; rfl, by rw [enter_endpoint hread, ht]; rfl⟩
        · have hframe := Endpoint.agreeOn_of_landed (hconcerns event hread) hs
          exact .inr ⟨r, .endpoint s', .endpoint t', by rw [enter_endpoint hread, hs]; rfl,
            by rw [enter_endpoint hread, ht]; rfl, .endpoint s' t' related, .endpoint s s' hframe,
            concerning_of_endpoint (hconcerns event hread) hs⟩

/-- **Two calls come out alike**: they fail for the same cause, or they enter the same contracts with the same answers,
leave worlds that agree, and leave what belongs to any other address than that of the bridge. -/
inductive Twin (P : Account → Prop) (B : Account) (w : World) : Outcome → Outcome → Prop
  | ok (u u' : World) (visits : List Visit) (agree : World.AgreeOn P u u') (frame : World.AgreeOn (· ≠ B) w u) :
    Twin P B w (.ok (u, visits)) (.ok (u', visits))
  | error (f : Failure) : Twin P B w (.error f) (.error f)

theorem Twin.after {u : World} {x y : Outcome} (hframe : World.AgreeOn (· ≠ B) w u) (h : Twin P B u x y) :
    Twin P B w x y := by
  cases h with
  | error f => exact .error f
  | ok v v' visits agree frame => exact .ok v v' visits agree (hframe.trans frame)

theorem Twin.bind {x y : Outcome} {k : World × List Visit → Outcome} (h : Twin P B w x y)
    (hk : ∀ u u' visits, World.AgreeOn P u u' → World.AgreeOn (· ≠ B) w u →
      Twin P B u (k (u, visits)) (k (u', visits))) :
    Twin P B w (x >>= k) (y >>= k) := by
  cases h with
  | error f => exact .error f
  | ok u u' visits agree frame => exact (hk u u' visits agree frame).after frame

section
variable {depth : Nat}
  (hcall : ∀ {w w' self entry}, (∃ b, w.get? B = some (.bridge b)) → World.AgreeOn P w w' → entry.Concerns B self →
    Twin P B w (World.callWithin now depth w self entry) (World.callWithin now depth w' self entry))
include hcall

theorem forward_twin (hB : ∃ b, w.get? B = some (.bridge b)) (h : World.AgreeOn P w w') (hm : Concerning B author m) :
    Twin P B w (World.forward (World.callWithin now depth) author w m)
      (World.forward (World.callWithin now depth) author w' m) := by
  obtain ⟨message, replyId⟩ := m
  cases message with
  | pay recipient coins => exact .ok w w' [] h (.refl _ w)
  | call contract body funds =>
    unfold World.forward
    dsimp only
    rw [h.contains_eq contract]
    by_cases hin : w'.contains contract = true
    · rw [if_pos hin, if_pos hin]
      refine (hcall hB h (hm.1 contract body funds rfl)).bind fun u u' visits agree frame => ?_
      cases replyId with
      | none => exact .ok u u' visits agree (.refl _ u)
      | some id =>
        have hback : Entry.Concerns B author (.reply id) := .inl (hm.2 id rfl)
        exact (hcall (frame.bridge hB) agree hback).bind fun v v' more agree' _ =>
          .ok v v' (visits ++ more) agree' (.refl _ v)
    · rw [if_neg hin, if_neg hin]
      exact .ok w w' [] h (.refl _ w)

theorem forwardAll_twin {messages : List Outgoing} (hmessages : ∀ m ∈ messages, Concerning B author m) :
    ∀ {w w'}, (∃ b, w.get? B = some (.bridge b)) → World.AgreeOn P w w' →
      Twin P B w (World.forwardAll (World.callWithin now depth) author w messages)
        (World.forwardAll (World.callWithin now depth) author w' messages) := by
  induction messages with
  | nil => exact fun {w w'} _ h => .ok w w' [] h (.refl _ w)
  | cons m ms ih =>
    intro w w' hB h
    have hms : ∀ m ∈ ms, Concerning B author m := fun m' hm' => hmessages m' (List.mem_cons_of_mem _ hm')
    refine (forward_twin hcall hB h (hmessages m (List.mem_cons_self ..))).bind fun u u' visits agree frame => ?_
    exact (ih hms (frame.bridge hB) agree).bind fun v v' more agree' _ => .ok v v' (visits ++ more) agree' (.refl _ v)

end

theorem enter_twin (hP : P B) (hB : ∃ b, w.get? B = some (.bridge b)) (h : World.AgreeOn P w w')
    (hentry : entry.Concerns B self) :
    (∃ f, w.enter now self entry = .error f ∧ w'.enter now self entry = .error f) ∨
    ∃ r u u', w.enter now self entry = .ok (u, r) ∧ w'.enter now self entry = .ok (u', r) ∧ World.AgreeOn P u u' ∧
      World.AgreeOn (· ≠ B) w u ∧ ∀ m ∈ r.messages, Concerning B self m := by
  unfold World.enter
  cases hw : w.get? self with
  | none =>
    rw [h.get?_none hw]
    exact .inl ⟨.noContract self, rfl, rfl⟩
  | some c =>
    obtain ⟨c', hw', hagree⟩ := h.get?_some hw
    have hkind : self = B → ∃ b, c = .bridge b := by
      rintro rfl
      obtain ⟨b, hb⟩ := hB
      exact ⟨b, Option.some.inj (hw.symm.trans hb)⟩
    rw [hw']
    dsimp only
    rcases hagree.enter ⟨self, now⟩ hP hentry hkind with
      ⟨f, henter, henter'⟩ | ⟨r, d, d', henter, henter', hd, hframe, hmessages⟩
    · rw [henter, henter']
      exact .inl ⟨f, rfl, rfl⟩
    · rw [henter, henter']
      exact .inr ⟨r, _, _, rfl, rfl, h.insert hd, agreeOn_insert hw hframe, hmessages⟩

/-- **A call that concerns a bridge comes out alike in worlds that agree on the bridge**, however deep calls are
nested. -/
theorem callWithin_twin (hP : P B) {depth : Nat} : ∀ {w w' self entry}, (∃ b, w.get? B = some (.bridge b)) →
    World.AgreeOn P w w' → entry.Concerns B self →
    Twin P B w (World.callWithin now depth w self entry) (World.callWithin now depth w' self entry) := by
  induction depth with
  | zero => exact fun _ _ _ => .error .tooDeep
  | succ depth ih =>
    intro w w' self entry hB h hentry
    rw [World.callWithin, World.callWithin]
    rcases enter_twin hP hB h hentry with ⟨f, henter, henter'⟩ | ⟨r, u, u', henter, henter', hu, hframe, hmessages⟩
    · rw [henter, henter']
      exact .error f
    · rw [henter, henter']
      refine Twin.after hframe ?_
      exact (forwardAll_twin ih hmessages (hframe.bridge hB) hu).bind fun v v' visits agree _ =>
        .ok v v' (⟨self, entry, r⟩ :: visits) agree (.refl _ v)

theorem step_twin (hP : P B) (hB : ∃ b, s.world.get? B = some (.bridge b)) (h : World.AgreeOn P s.world t.world)
    (hnow : s.now = t.now) (hentry : entry.Concerns B self) :
    (s.step self entry).1 = (t.step self entry).1 ∧
      World.AgreeOn P (s.step self entry).2.world (t.step self entry).2.world ∧
      World.AgreeOn (· ≠ B) s.world (s.step self entry).2.world ∧ (s.step self entry).2.now = s.now := by
  have htwin : Twin P B s.world (s.world.call s.now self entry) (t.world.call t.now self entry) := by
    rw [hnow]
    exact callWithin_twin hP hB h hentry
  unfold step
  generalize s.world.call s.now self entry = x at htwin ⊢
  generalize t.world.call t.now self entry = y at htwin ⊢
  cases htwin with
  | error f => exact ⟨rfl, h, .refl _ _, rfl⟩
  | ok u u' visits agree frame => exact ⟨rfl, agree, frame, rfl⟩

theorem eq_of_world (hworld : s.world = t.world) (hnow : s.now = t.now) : s = t := by
  obtain ⟨world, now⟩ := s
  cases hworld
  cases hnow
  rfl

/-! ## Two bridges -/

/-- **The entry is for a bridge**: it is made there, or it has an endpoint deliver an event to the bridge. -/
def Entry.IsFor (B self : Account) (entry : Entry) : Prop := self = B ∨ ∃ event, entry.deliveryTo? B = some event

theorem eq_of_deliveryTo? {event : Endpoint.Event} {application : Account} {delivery : DeliveryEvent}
    (h : event.deliveryTo? application = some delivery) :
    ∃ caller, event = .execute caller (.deliver application delivery) := by
  unfold Endpoint.Event.deliveryTo? at h
  split at h
  · rename_i caller target e
    split at h
    · rename_i htarget
      cases h
      exact ⟨caller, by rw [htarget]⟩
    · cases h
  · cases h

theorem Entry.IsFor.concerns (h : entry.IsFor B self) : entry.Concerns B self := by
  rcases h with hself | ⟨delivery, hto⟩
  · exact .inl hself
  · cases hread : entry.toEndpoint with
    | error f =>
      rw [Entry.deliveryTo?, hread] at hto
      cases hto
    | ok event =>
      rw [deliveryTo?_of_toEndpoint hread] at hto
      obtain ⟨caller, rfl⟩ := eq_of_deliveryTo? hto
      refine .inr ⟨?_, fun event hevent => ?_⟩
      · cases entry with
        | execute sender message =>
          obtain ⟨call, hcall, hsame⟩ := readable_map_eq_ok_iff.1 hread
          cases hsame
          exact unread_of_none (bridge_reads_no_delivery hcall)
        | create sender message =>
          obtain ⟨_, -, hsame⟩ := readable_map_eq_ok_iff.1 hread
          cases hsame
        | reply id => cases hread
        | upgrade message => cases hread
      · cases hread.symm.trans hevent
        exact rfl

/-- **Different bridges do not interfere.**  Let one step be for one bridge and another for another one: each is made at
its bridge or has an endpoint deliver to it, by whomever and at the same time.  In either order each step answers or
fails as it does first, and every storage is the same in the end.  A step that is for one bridge leaves the other as it
is, and so every entry for the other at an endpoint. -/
theorem bridges_apart {B₁ B₂ x y : Account} {first second : Entry} {b₁ b₂ : Bridge.Store}
    (h₁ : t.world.get? B₁ = some (.bridge b₁)) (h₂ : t.world.get? B₂ = some (.bridge b₂)) (hne : B₁ ≠ B₂)
    (hfirst : first.IsFor B₁ x) (hsecond : second.IsFor B₂ y) :
    ((t.step x first).2.step y second).1 = (t.step y second).1 ∧
    ((t.step y second).2.step x first).1 = (t.step x first).1 ∧
    ((t.step x first).2.step y second).2 = ((t.step y second).2.step x first).2 ∧
    (t.step x first).2.world.get? B₂ = some (.bridge b₂) ∧
    ∀ E e, t.world.get? E = some (.endpoint e) → ∃ e', (t.step x first).2.world.get? E = some (.endpoint e') ∧
      e'.applications.get? B₂ = e.applications.get? B₂ ∧
      (∀ chain src, e'.inbound.get? (chain, src, B₂) = e.inbound.get? (chain, src, B₂)) ∧
      ∀ chain dst, e'.outbound.get? (chain, B₂, dst) = e.outbound.get? (chain, B₂, dst) := by
  -- each step leaves what belongs to others
  obtain ⟨-, -, hframe₁, hnow₁⟩ := step_twin (P := (· = B₁)) rfl ⟨b₁, h₁⟩ (.refl _ t.world) rfl hfirst.concerns
  obtain ⟨-, -, hframe₂, hnow₂⟩ := step_twin (P := (· = B₂)) rfl ⟨b₂, h₂⟩ (.refl _ t.world) rfl hsecond.concerns
  have hkeeps₁ : World.AgreeOn (· = B₂) t.world (t.step x first).2.world := hframe₁.mono fun a ha => ha ▸ hne.symm
  have hkeeps₂ : World.AgreeOn (· = B₁) t.world (t.step y second).2.world := hframe₂.mono fun a ha => ha ▸ hne
  -- so that the other step finds what it found before
  obtain ⟨hanswer₂, hafter₂, -, -⟩ := step_twin (P := (· = B₂)) rfl ⟨b₂, h₂⟩ hkeeps₁ hnow₁.symm hsecond.concerns
  obtain ⟨hanswer₁, hafter₁, -, -⟩ := step_twin (P := (· = B₁)) rfl ⟨b₁, h₁⟩ hkeeps₂ hnow₂.symm hfirst.concerns
  obtain ⟨-, -, hframe₁₂, hnow₁₂⟩ :=
    step_twin (P := (· = B₂)) rfl (hkeeps₁.bridge ⟨b₂, h₂⟩) (.refl _ _) rfl hsecond.concerns
  obtain ⟨-, -, hframe₂₁, hnow₂₁⟩ :=
    step_twin (P := (· = B₁)) rfl (hkeeps₂.bridge ⟨b₁, h₁⟩) (.refl _ _) rfl hfirst.concerns
  have hworld : ((t.step x first).2.step y second).2.world = ((t.step y second).2.step x first).2.world := by
    refine World.eq_of_agreeOn fun a => ?_
    by_cases ha₁ : a = B₁
    · have hleft := hframe₁₂.mono (P := (· = a)) fun _ heq => by rw [heq, ha₁]; exact hne
      exact hleft.symm.trans (hafter₁.mono fun _ heq => heq.trans ha₁)
    by_cases ha₂ : a = B₂
    · have hright := hframe₂₁.mono (P := (· = a)) fun _ heq => by rw [heq, ha₂]; exact hne.symm
      exact (hafter₂.mono fun _ heq => heq.trans ha₂).symm.trans hright
    · -- what belongs to neither is as it was at first
      have hleft := (hframe₁.mono (P := (· = a)) fun _ heq => heq ▸ ha₁).trans (hframe₁₂.mono fun _ heq => heq ▸ ha₂)
      have hright := (hframe₂.mono (P := (· = a)) fun _ heq => heq ▸ ha₂).trans (hframe₂₁.mono fun _ heq => heq ▸ ha₁)
      exact hleft.symm.trans hright
  have hnow : ((t.step x first).2.step y second).2.now = ((t.step y second).2.step x first).2.now := by
    rw [hnow₁₂, hnow₁, hnow₂₁, hnow₂]
  refine ⟨hanswer₂.symm, hanswer₁.symm, eq_of_world hworld hnow, ?_, fun E e hE => ?_⟩
  · obtain ⟨c, hc, hagree⟩ := hkeeps₁.get?_some h₂
    cases hagree with
    | bridge _ _ same => rw [hc, ← same rfl]
  · obtain ⟨c, hc, hagree⟩ := hkeeps₁.get?_some hE
    cases hagree with
    | endpoint _ e' agree =>
      exact ⟨e', hc, (agree.applications B₂ rfl).symm, fun chain src => (agree.inbound chain src B₂ rfl).symm,
        fun chain dst => (agree.outbound chain B₂ dst rfl).symm⟩

/-- An endpoint and two bridges that were never called. -/
def neighbours : Session :=
  start [("endpoint", .endpoint .empty), ("bridge", .bridge .empty), ("other", .bridge .empty)]

/-- Both bridges are set up at the endpoint, and trust an address on the same chain. -/
def settled : List Occasion := relayed.take 7 ++ [
  ⟨some 150, "other", .create ⟨"owner", []⟩ (Bridge.Setup.toJson ⟨"endpoint", 108⟩)⟩,
  bridgeCall "other" "owner" [] (.appoint "admin" "authority"),
  bridgeCall "other" "authority" [] (.setTrustedRemote 5 "666172")]

/-- The relayer delivers to one bridge, and anyone has the other send. -/
def delivery : Entry := relay ⟨"relayer", []⟩ "bridge" (request 1)

def outgoing : Entry := .execute ⟨"anyone", []⟩ (Bridge.ExecuteCall.requestRemoteWithdraw 5 Amount.zero).toJson

theorem bridges_apart_settled :
    ∃ log t, Run neighbours log t ∧ ((t.step "endpoint" delivery).1.toOption.map List.length) = some 2 ∧
      ((t.step "other" outgoing).1.toOption.map List.length) = some 2 ∧
      ((t.step "endpoint" delivery).2.step "other" outgoing).2 =
        ((t.step "other" outgoing).2.step "endpoint" delivery).2 := by
  have hcheck : ((play neighbours settled).bind fun p => (bridgeAt? "bridge" p.2).bind fun _ =>
      (bridgeAt? "other" p.2).map fun _ => (((p.2.step "endpoint" delivery).1.toOption.map List.length),
        ((p.2.step "other" outgoing).1.toOption.map List.length))) = some (some 2, some 2) := by
    decide +kernel
  obtain ⟨⟨log, t⟩, hplay, hcheck⟩ := Option.bind_eq_some_iff.1 hcheck
  obtain ⟨b₁, hb₁, hcheck⟩ := Option.bind_eq_some_iff.1 hcheck
  obtain ⟨b₂, hb₂, hcheck⟩ := Option.map_eq_some_iff.1 hcheck
  obtain ⟨hdelivers, hsends⟩ := Prod.mk.inj hcheck
  have hfirst : delivery.IsFor "bridge" "endpoint" := by
    refine .inr ⟨request 1, ?_⟩
    rw [delivery, deliveryTo?_of_toEndpoint (toEndpoint_relay _ _ _), Endpoint.Event.deliveryTo?, if_pos rfl]
  have hsecond : outgoing.IsFor "other" "other" := .inl rfl
  have hne : "bridge" ≠ "other" := by decide
  obtain ⟨-, -, hsame, -⟩ := bridges_apart (get?_of_bridgeAt? hb₁) (get?_of_bridgeAt? hb₂) hne hfirst hsecond
  exact ⟨log, t, run_of_play hplay, hdelivers, hsends, hsame⟩

end VestingBridge.Session
