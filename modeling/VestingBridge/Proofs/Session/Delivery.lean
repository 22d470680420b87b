import VestingBridge.Proofs.Bridge.Processed
import VestingBridge.Proofs.Bridge.Value
import VestingBridge.Proofs.Messages
import VestingBridge.Proofs.Session.Run
/-!
# Proofs.Session.Delivery — an endpoint and the bridge that trusts it

A bridge takes events from its endpoint alone, and no one outside speaks for an endpoint.  So in every step that lands,
the events that the bridge takes are those that its endpoint hands to it (`lockstep_of_step`).  The endpoint numbers
them and the bridge records them, hence the two agree.
-/
namespace VestingBridge.Session

/-- The event that an entry hands to a bridge. -/
def Entry.delivery? (entry : Entry) : Option DeliveryEvent :=
  match entry.toBridge with
  | .ok event => event.delivery?
  | .error _ => none

/-- The event that an entry has an endpoint hand to an application. -/
def Entry.deliveryTo? (application : Account) (entry : Entry) : Option DeliveryEvent :=
  match entry.toEndpoint with
  | .ok event => event.deliveryTo? application
  | .error _ => none

/-- The event that a bridge takes on a visit. -/
def Visit.taken? (bridge : Account) (v : Visit) : Option DeliveryEvent :=
  if v.contract = bridge then v.entry.delivery? else none

def Visit.handed? (endpoint application : Account) (v : Visit) : Option DeliveryEvent :=
  if v.contract = endpoint then v.entry.deliveryTo? application else none

/-- **An endpoint, and a bridge that trusts no other.** -/
structure Paired (E B : Account) (w : World) : Prop where
  endpoint : ∃ e, w.get? E = some (.endpoint e)
  bridge : ∃ b, w.get? B = some (.bridge b) ∧ ∀ config, b.config = some config → config.endpoint = E

variable {E B : Account} {w w' : World} {now : Seconds} {self : Account} {entry : Entry} {r : Response}
  {visits : List Visit} {s t u : Session} {log : List Turn}

theorem atBridge?_bind_delivery? (v : Visit) : (v.atBridge? B now).bind (·.event.delivery?) = v.taken? B := by
  unfold Visit.atBridge? Visit.taken? Entry.delivery?
  split
  · cases v.entry.toBridge <;> rfl
  · rfl

theorem atEndpoint?_bind_deliveryTo? (v : Visit) :
    (v.atEndpoint? E).bind (·.event.deliveryTo? B) = v.handed? E B := by
  unfold Visit.atEndpoint? Visit.handed? Entry.deliveryTo?
  split
  · cases v.entry.toEndpoint <;> rfl
  · rfl

theorem deliveryTo?_of_toEndpoint {event : Endpoint.Event} (read : entry.toEndpoint = .ok event) :
    entry.deliveryTo? B = event.deliveryTo? B := by
  rw [Entry.deliveryTo?, read]

theorem Paired.contains_endpoint (h : Paired E B w) : w.contains E = true := by
  obtain ⟨e, he⟩ := h.endpoint
  exact Table.contains_of_get? he

theorem Paired.contains_bridge (h : Paired E B w) : w.contains B = true := by
  obtain ⟨b, hb, -⟩ := h.bridge
  exact Table.contains_of_get? hb

theorem Landed.paired (h : Landed w now self entry r w') (hnot : entry.isCreate = false) (hpaired : Paired E B w) :
    Paired E B w' := by
  obtain ⟨e, he⟩ := hpaired.endpoint
  obtain ⟨b, hb, htrust⟩ := hpaired.bridge
  have hwalk : Walk now w [⟨self, entry, r⟩] w' := .visit (Entry.isOnce_of_not_create hnot) h .done
  obtain ⟨e', he', -⟩ := hwalk.endpoint he
  obtain ⟨b', hb', -⟩ := hwalk.bridge hb
  refine ⟨⟨e', he'⟩, b', hb', fun config hconfig => ?_⟩
  by_cases hself : B = self
  · subst hself
    obtain ⟨event, t, read, landed, after⟩ := h.of_bridge hb
    rw [after, Table.get?_insert, if_pos rfl] at hb'
    cases hb'
    have hfounding := Bridge.founding_of_landed ((Entry.isCreate_of_toBridge read).trans hnot) landed
    obtain ⟨before, hbefore, hsame⟩ := Bridge.endpoint_of_founding hfounding hconfig
    rw [← hsame]
    exact htrust before hbefore
  · rw [h.get?_of_ne hself, hb] at hb'
    cases hb'
    exact htrust config hconfig

/-- **A bridge takes events from its endpoint alone.** -/
theorem sender_of_taken (hpaired : Paired E B w) {depth : Nat} {caller : Caller} {message : Json} {e : DeliveryEvent}
    (hdelivery : (Entry.execute caller message).delivery? = some e)
    (h : World.callWithin now depth w B (.execute caller message) = .ok (w', visits)) : caller.sender = E := by
  obtain ⟨b, hb, htrust⟩ := hpaired.bridge
  cases depth with
  | zero => cases h
  | succ depth =>
    obtain ⟨r, w1, rest, henter, -, -⟩ := callWithin_ok h
    obtain ⟨event, t, read, landed, -⟩ := (landed_of_enter henter).of_bridge hb
    rw [Entry.delivery?, read] at hdelivery
    cases Bridge.recording_of_landed landed with
    | aside delivery _ => cases delivery.symm.trans hdelivery
    | applied caller' e' packet config isDelivery _ configured sender _ _ _ _ =>
      obtain ⟨_, -, hevent⟩ := readable_map_eq_ok_iff.1 read
      have hcaller : caller' = caller := by
        cases isDelivery ▸ hevent
        rfl
      rw [← hcaller, sender]
      exact htrust config configured

/-! ## What is handed over is what is taken -/

theorem delivery?_of_message {call : Call} (hcall : ∀ c, call ≠ .receiver c) {caller : Caller} :
    (Entry.execute caller call.toJson).delivery? = none := by
  cases call with
  | transfer recipient amount => rfl
  | endpoint c =>
    have hread := (bridge_reads_no c "" Amount.zero).1
    rw [Entry.delivery?, Entry.toBridge, hread]
    rfl
  | receiver c => exact absurd rfl (hcall c)

section
variable {depth : Nat}
  (hcall : ∀ {w w' self entry visits}, Paired E B w → entry.isCreate = false →
    World.callWithin now depth w self entry = .ok (w', visits) →
    Paired E B w' ∧ visits.filterMap (·.taken? B) =
      (if self = B then entry.delivery? else none).toList ++ visits.filterMap (·.handed? E B))
include hcall

/-- A message that hands over no event leads to none being taken that is not handed over further on. -/
theorem lockstep_of_forward (hpaired : Paired E B w) {m : Outgoing}
    (hm : ∀ contract call funds, m.message ≠ .call contract (.receiver call) funds)
    (h : World.forward (World.callWithin now depth) self w m = .ok (w', visits)) :
    Paired E B w' ∧ visits.filterMap (·.taken? B) = visits.filterMap (·.handed? E B) := by
  unfold World.forward at h
  split at h
  · cases h
    exact ⟨hpaired, rfl⟩
  · rename_i contract body funds hmessage
    have hnone : ∀ caller, (Entry.execute caller body.toJson).delivery? = none := fun caller =>
      delivery?_of_message fun c hc => hm contract c funds (hc ▸ hmessage)
    split at h
    · obtain ⟨⟨w1, first⟩, hfirst, h⟩ := bind_eq_ok_iff.1 h
      obtain ⟨hpaired1, heq1⟩ := hcall hpaired rfl hfirst
      rw [hnone, ite_self, Option.toList_none, List.nil_append] at heq1
      dsimp only at h
      split at h
      · cases h
        exact ⟨hpaired1, heq1⟩
      · obtain ⟨⟨w2, second⟩, hsecond, h⟩ := bind_eq_ok_iff.1 h
        cases h
        obtain ⟨hpaired2, heq2⟩ := hcall hpaired1 rfl hsecond
        have hreply : ∀ id, (Entry.reply id).delivery? = none := fun _ => rfl
        rw [hreply, ite_self, Option.toList_none, List.nil_append] at heq2
        refine ⟨hpaired2, ?_⟩
        rw [List.filterMap_append, List.filterMap_append, heq1, heq2]
    · cases h
      exact ⟨hpaired, rfl⟩

theorem lockstep_of_forwardAll {messages : List Outgoing}
    (hmessages : ∀ m ∈ messages, ∀ contract call funds, m.message ≠ .call contract (.receiver call) funds) :
    ∀ {w visits}, Paired E B w →
      World.forwardAll (World.callWithin now depth) self w messages = .ok (w', visits) →
      Paired E B w' ∧ visits.filterMap (·.taken? B) = visits.filterMap (·.handed? E B) := by
  induction messages with
  | nil =>
    intro w visits hpaired h
    cases h
    exact ⟨hpaired, rfl⟩
  | cons m ms ih =>
    intro w visits hpaired h
    obtain ⟨⟨w1, first⟩, hfirst, h⟩ := bind_eq_ok_iff.1 h
    obtain ⟨⟨w2, rest⟩, hrest, h⟩ := bind_eq_ok_iff.1 h
    cases h
    obtain ⟨hpaired1, heq1⟩ := lockstep_of_forward hcall hpaired (hmessages m (List.mem_cons_self ..)) hfirst
    obtain ⟨hpaired2, heq2⟩ := ih (fun m' hm' => hmessages m' (List.mem_cons_of_mem _ hm')) hpaired1 hrest
    refine ⟨hpaired2, ?_⟩
    rw [List.filterMap_append, List.filterMap_append, heq1, heq2]

end

/-- The answer to a delivery is carried out by handing the event to the application, if it is in the world. -/
theorem forwardAll_handover {call : World → Account → Entry → Outcome} {application : Account} {e : DeliveryEvent}
    (h : World.forwardAll call self w [⟨.call application (.receiver (.receive e)) [], none⟩] = .ok (w', visits)) :
    w.contains application = true ∧
        call w application (.execute ⟨self, []⟩ (Call.receiver (.receive e)).toJson) = .ok (w', visits) ∨
      w.contains application = false ∧ w' = w ∧ visits = [] := by
  rcases forwardAll_single_ok h with hout | ⟨hin, w1, first, rest, hfirst, rfl, hlast, -⟩
  · exact .inr hout
  · obtain ⟨rfl, rfl⟩ := hlast rfl
    exact .inl ⟨hin, by rw [List.append_nil]; exact hfirst⟩

theorem delivery?_handover (caller : Caller) (e : DeliveryEvent) :
    (Entry.execute caller (Call.receiver (.receive e)).toJson).delivery? = some e := by
  rw [Entry.delivery?, Entry.toBridge, bridge_reads]
  rfl

/-- **In a call, the events that the bridge takes are those that its endpoint hands to it**, after the one that the call
itself hands over, if it does. -/
theorem lockstep_of_callWithin {depth : Nat} : ∀ {w w' self entry visits}, Paired E B w → entry.isCreate = false →
    World.callWithin now depth w self entry = .ok (w', visits) →
    Paired E B w' ∧ visits.filterMap (·.taken? B) =
      (if self = B then entry.delivery? else none).toList ++ visits.filterMap (·.handed? E B) := by
  induction depth with
  | zero =>
    intro w w' self entry visits hpaired hnot h
    cases h
  | succ depth ih =>
    intro w w' self entry visits hpaired hnot h
    obtain ⟨r, w1, rest, henter, hrest, rfl⟩ := callWithin_ok h
    have hland := landed_of_enter henter
    have hpaired1 := hland.paired hnot hpaired
    -- what is left: the head hands over what the rest takes beyond what the rest hands over
    suffices hsuff : Paired E B w' ∧ rest.filterMap (·.taken? B) =
        (Visit.handed? E B ⟨self, entry, r⟩).toList ++ rest.filterMap (·.handed? E B) by
      refine ⟨hsuff.1, ?_⟩
      have hcons : ∀ (f : Visit → Option DeliveryEvent) (v : Visit) (vs : List Visit),
          (v :: vs).filterMap f = (f v).toList ++ vs.filterMap f := fun f v vs => by
        cases hf : f v <;> simp [hf]
      rw [hcons, hcons, hsuff.2]
      rfl
    cases hland with
    | bridge s t event found read landed after =>
      have hhanded : Visit.handed? E B ⟨self, entry, r⟩ = none := by
        refine if_neg fun hself => ?_
        obtain ⟨e, he⟩ := hpaired.endpoint
        rw [show self = E from hself] at found
        cases he.symm.trans found
      rw [hhanded, Option.toList_none, List.nil_append]
      exact lockstep_of_forwardAll ih (Bridge.hands_nothing landed) hpaired1 hrest
    | endpoint s t event found read landed after =>
      have hhanded : Visit.handed? E B ⟨self, entry, r⟩ = if self = E then event.deliveryTo? B else none := by
        rw [Visit.handed?, Entry.deliveryTo?, read]
      rw [hhanded]
      cases Endpoint.passing_of_landed landed with
      | aside delivery silent _ _ _ _ _ | sent _ _ _ delivery _ _ _ _ _ _ silent _ _ =>
        rw [delivery, ite_self, Option.toList_none, List.nil_append]
        rw [silent] at hrest
        exact lockstep_of_forwardAll ih (fun m hm => absurd hm List.not_mem_nil) hpaired1 hrest
      | delivered caller application e packet config isDelivery _ _ _ _ handed _ _ =>
        have hto : event.deliveryTo? B = if application = B then some e else none := by
          rw [isDelivery]
          rfl
        rw [handed] at hrest
        rw [hto]
        rcases forwardAll_handover hrest with ⟨-, hcall⟩ | ⟨hout, rfl, rfl⟩
        · obtain ⟨hpaired2, heq⟩ := ih hpaired1 rfl hcall
          refine ⟨hpaired2, ?_⟩
          rw [heq, delivery?_handover]
          by_cases happlication : application = B
          · subst happlication
            have hself : self = E := sender_of_taken hpaired1 (delivery?_handover _ _) hcall
            rw [if_pos hself]
          · rw [if_neg happlication, ite_self]
        · have happlication : application ≠ B := by
            rintro rfl
            rw [hpaired1.contains_bridge] at hout
            cases hout
          rw [if_neg happlication, ite_self]
          exact ⟨hpaired1, rfl⟩

theorem silent_of_create (hcreate : entry.isCreate = true) (h : Landed w now self entry r w') : r.messages = [] := by
  cases h with
  | bridge s t event found read landed after =>
    have hevent := (Entry.isCreate_of_toBridge read).trans hcreate
    cases event with
    | create caller setup => exact (Bridge.create_ok landed).2.1
    | execute | reply | upgrade => cases hevent
  | endpoint s t event found read landed after =>
    have hevent := (Entry.isCreate_of_toEndpoint read).trans hcreate
    cases event with
    | create setup => exact (Endpoint.create_ok landed).1
    | execute => cases hevent

theorem execute_of_delivery? {e : DeliveryEvent} (h : entry.delivery? = some e) :
    ∃ caller message, entry = .execute caller message := by
  cases entry with
  | execute caller message => exact ⟨caller, message, rfl⟩
  | create caller message =>
    rw [Entry.delivery?, Entry.toBridge] at h
    cases hread : Bridge.Setup.ofJson? message <;> rw [hread] at h <;> cases h
  | reply id => cases h
  | upgrade message =>
    rw [Entry.delivery?, Entry.toBridge] at h
    cases hread : Bridge.isUpgrade message <;> rw [hread] at h <;> cases h

/-- **In a step from outside, the bridge takes what its endpoint hands to it.** -/
theorem lockstep_of_step (hpaired : Paired E B s.world) (houtside : entry.IsOutside s.world)
    (h : s.step self entry = (.ok visits, u)) : visits.filterMap (·.taken? B) = visits.filterMap (·.handed? E B) := by
  have hcall := (step_ok h).1
  cases hcreate : entry.isCreate with
  | false =>
    obtain ⟨-, heq⟩ := lockstep_of_callWithin hpaired hcreate hcall
    have hhead : (if self = B then entry.delivery? else none) = none := by
      by_cases hself : self = B
      · subst hself
        rw [if_pos rfl]
        cases hdelivery : entry.delivery? with
        | none => rfl
        | some e =>
          obtain ⟨caller, message, rfl⟩ := execute_of_delivery? hdelivery
          have hsender := sender_of_taken hpaired hdelivery hcall
          have hnot : s.world.contains caller.sender = false := houtside
          rw [hsender, hpaired.contains_endpoint] at hnot
          cases hnot
      · exact if_neg hself
    rwa [hhead, Option.toList_none, List.nil_append] at heq
  | true =>
    obtain ⟨r, w1, rest, henter, hrest, rfl⟩ := callWithin_ok hcall
    rw [silent_of_create hcreate (landed_of_enter henter)] at hrest
    cases hrest
    cases entry with
    | create caller message =>
      have htaken : Visit.taken? B ⟨self, .create caller message, r⟩ = none := by
        cases hdelivery : (Entry.create caller message).delivery? with
        | none => rw [Visit.taken?, hdelivery, ite_self]
        | some e => obtain ⟨_, _, hexecute⟩ := execute_of_delivery? hdelivery; cases hexecute
      have hto : (Entry.create caller message).deliveryTo? B = none := by
        rw [Entry.deliveryTo?, Entry.toEndpoint]
        cases Endpoint.Setup.ofJson? message <;> rfl
      have hhanded : Visit.handed? E B ⟨self, .create caller message, r⟩ = none := by
        rw [Visit.handed?, hto, ite_self]
      rw [List.filterMap_cons_none htaken, List.filterMap_cons_none hhanded]
      rfl
    | execute | reply | upgrade => cases hcreate

theorem paired_of_walk {e : Endpoint.Store} {b : Bridge.Store} (h : Walk now w visits w')
    (he : w.get? E = some (.endpoint e)) (hb : w.get? B = some (.bridge b)) (hpaired : Paired E B w') :
    Paired E B w := by
  refine ⟨⟨e, he⟩, b, hb, fun config hconfig => ?_⟩
  obtain ⟨b', hb', htrust⟩ := hpaired.bridge
  obtain ⟨b'', hb'', hrun⟩ := h.bridge hb
  cases hb'.symm.trans hb''
  have hfounding := hrun.founding_eq (by rw [hconfig]; exact nofun)
  obtain ⟨after, hafter, hsame⟩ := Bridge.endpoint_of_founding hfounding.symm hconfig
  rw [← hsame]
  exact htrust after hafter

/-- **Over a run, the events that the bridge took are those that its endpoint handed to it, in the same order.** -/
theorem Run.lockstep (h : Run s log t) {e : Endpoint.Store} {b : Bridge.Store}
    (he : s.world.get? E = some (.endpoint e)) (hb : s.world.get? B = some (.bridge b))
    (hpaired : Paired E B t.world) :
    (bridgeLog B log).filterMap (·.event.delivery?) = (endpointLog E log).filterMap (·.event.deliveryTo? B) := by
  induction h with
  | start => rfl
  | @land log t _ _ hrun hturns ih =>
    obtain @⟨now, self, entry, visits, u, houtside, honce, hstep⟩ := hturns
    obtain ⟨e', he', -⟩ := Run.endpoint hrun he
    obtain ⟨b', hb', -⟩ := Run.bridge hrun hb
    have hbefore : Paired E B t.world :=
      paired_of_walk (walk_of_step (s := t.setClock now) honce hstep) he' hb' hpaired
    have hturn := lockstep_of_step (s := t.setClock now) hbefore houtside hstep
    rw [bridgeLog_append, endpointLog_append, List.filterMap_append, List.filterMap_append, ih hbefore,
      List.filterMap_filterMap, List.filterMap_filterMap]
    congr 1
    simp only [atBridge?_bind_delivery?, atEndpoint?_bind_deliveryTo?]
    exact hturn
  | pass _ hfails ih =>
    obtain ⟨hstep⟩ := hfails
    cases step_error hstep
    exact ih hpaired

theorem Run.applied_eq (h : Run s log t) {e : Endpoint.Store} {b : Bridge.Store}
    (he : s.world.get? E = some (.endpoint e)) (hb : s.world.get? B = some (.bridge b))
    (hpaired : Paired E B t.world) :
    Bridge.applied (bridgeLog B log) = Endpoint.arrived B (endpointLog E log) := by
  have heq := congrArg (List.filterMap fun e : DeliveryEvent => e.rebuild.toOption) (h.lockstep he hb hpaired)
  rw [List.filterMap_filterMap, List.filterMap_filterMap] at heq
  exact heq

/-! ## The endpoint and the bridge agree -/

/-- The relayer has an endpoint hand an event to an application. -/
def relay (caller : Caller) (application : Account) (e : DeliveryEvent) : Entry :=
  .execute caller (Endpoint.ExecuteCall.deliver application e).toJson

def handover (E : Account) (e : DeliveryEvent) : Entry := .execute ⟨E, []⟩ (Call.receiver (.receive e)).toJson

theorem toEndpoint_relay (caller : Caller) (application : Account) (e : DeliveryEvent) :
    (relay caller application e).toEndpoint = .ok (.execute caller (.deliver application e)) := by
  rw [relay, Entry.toEndpoint, endpoint_reads_delivery]
  rfl

/-- **A delivery that lands was accepted by the endpoint, and then by the application**, if this is in the world. -/
theorem accepted_of_delivery {e : Endpoint.Store} {event : DeliveryEvent} (he : s.world.get? E = some (.endpoint e))
    (hin : s.world.contains B = true) (hto : entry.deliveryTo? B = some event)
    (h : s.step E entry = (.ok visits, u)) :
    ∃ w₁ r w₂ r', s.world.enter s.now E entry = .ok (w₁, r) ∧ w₁.enter s.now B (handover E event) = .ok (w₂, r') := by
  obtain ⟨r, w₁, rest, henter, hrest, -⟩ := callWithin_ok (step_ok h).1
  have hland := landed_of_enter henter
  have hin' : w₁.contains B = true := by rw [hland.contains_eq, hin]
  obtain ⟨event', _, read, landed, -⟩ := hland.of_endpoint he
  rw [deliveryTo?_of_toEndpoint read] at hto
  obtain ⟨_, -, -, handed⟩ := Endpoint.delivered_of_landed hto landed
  rw [handed] at hrest
  rcases forwardAll_handover hrest with ⟨-, hcall⟩ | ⟨hout, -, -⟩
  · obtain ⟨r', w₂, _, henter', -, -⟩ := callWithin_ok hcall
    exact ⟨w₁, r, w₂, r', henter, henter'⟩
  · rw [hin'] at hout
    cases hout

theorem accepted_of_relay {e : Endpoint.Store} {caller : Caller} {event : DeliveryEvent}
    (he : s.world.get? E = some (.endpoint e)) (hin : s.world.contains B = true)
    (h : s.step E (relay caller B event) = (.ok visits, u)) :
    ∃ w₁ r w₂ r', s.world.enter s.now E (relay caller B event) = .ok (w₁, r) ∧
      w₁.enter s.now B (handover E event) = .ok (w₂, r') := by
  refine accepted_of_delivery he hin ?_ h
  rw [deliveryTo?_of_toEndpoint (toEndpoint_relay caller B event)]
  exact if_pos rfl

/-- **The endpoint's counters and the bridge agree, whatever the relayer delivers.**  From each source the bridge
applied the packets with the numbers from one to the endpoint's counter, in this order; it recorded as many packets as
the counters for it add up to; and a delivery to it lands only if the endpoint and then the bridge accept, while one
that fails leaves every storage as it was. -/
theorem counters_agree (h : Run s log t) {e : Endpoint.Store} {b : Bridge.Store}
    (hE : s.world.get? E = some (.endpoint .empty)) (hB : s.world.get? B = some (.bridge .empty))
    (he : t.world.get? E = some (.endpoint e)) (hb : t.world.get? B = some (.bridge b))
    (htrust : ∀ config, b.config = some config → config.endpoint = E) :
    (∀ chain src, Numbered ((Bridge.applied (bridgeLog B log)).filter (·.isFrom chain src))
      (e.lastDelivered (chain, src, B))) ∧
    b.processed.entries.length = e.inbound.total (Endpoint.arrivals B) ∧
    ∀ now caller event,
      (∃ f, (t.setClock now).step E (relay caller B event) = (.error f, t.setClock now)) ∨
      ∃ visits u w₁ r w₂ r', (t.setClock now).step E (relay caller B event) = (.ok visits, u) ∧
        t.world.enter (t.setClock now).now E (relay caller B event) = .ok (w₁, r) ∧
        w₁.enter (t.setClock now).now B (handover E event) = .ok (w₂, r') := by
  have hpaired : Paired E B t.world := ⟨⟨e, he⟩, b, hb, htrust⟩
  obtain ⟨e', he', hendpoint⟩ := h.endpoint hE
  cases he.symm.trans he'
  obtain ⟨b', hb', hbridge⟩ := h.bridge hB
  cases hb.symm.trans hb'
  have hnumbering := Endpoint.History.numbering hendpoint
  have hrecord := Bridge.History.record hbridge
  have heq := h.applied_eq hE hB hpaired
  refine ⟨fun chain src => ?_, ?_, fun now caller event => ?_⟩
  · rw [heq]
    exact hnumbering.inbound chain src B
  · rw [hrecord.counted, heq]
    exact hnumbering.counted B
  · cases hstep : (t.setClock now).step E (relay caller B event) with
    | mk outcome u =>
      cases outcome with
      | error f => exact .inl ⟨f, by rw [step_error hstep]⟩
      | ok visits =>
        obtain ⟨w₁, r, w₂, r', henter, henter'⟩ :=
          accepted_of_relay (s := t.setClock now) he hpaired.contains_bridge hstep
        exact .inr ⟨visits, u, w₁, r, w₂, r', rfl, henter, henter'⟩

/-- An endpoint and a bridge that were never called. -/
def fresh : Session := start [("endpoint", .endpoint .empty), ("bridge", .bridge .empty)]

/-- The request with a number on the path to the bridge. -/
def request (nonce : Nonce) : DeliveryEvent :=
  .raw 5 "0x666172" 108 "0x627269646765" nonce (WithdrawRequest.withdraw StreamId.zero).encode

/-- Two requests are delivered.  The second comes first when nothing more has vested, and again when more has. -/
def relayed : List Occasion := [
  ⟨some 10, "endpoint", .create ⟨"owner", []⟩ (Endpoint.Setup.toJson ⟨108, "relayer"⟩)⟩,
  ⟨none, "bridge", .create ⟨"owner", []⟩ (Bridge.Setup.toJson ⟨"endpoint", 108⟩)⟩,
  bridgeCall "bridge" "owner" [] (.appoint "admin" "authority"),
  bridgeCall "bridge" "authority" [] (.registerAsset "owner::Coins::MFL" (.native "umfl")),
  bridgeCall "bridge" "authority" [] (.setTrustedRemote 5 "666172"),
  bridgeCall "bridge" "authority" [] (.setCoinMap 5 "0xdef" "owner::Coins::MFL"),
  bridgeCall "bridge" "alice" [⟨"umfl", 1000⟩] (.createStream ⟨"bob", "owner::Coins::MFL", 100, 200⟩),
  ⟨some 150, "endpoint", relay ⟨"relayer", []⟩ "bridge" (request 1)⟩,
  ⟨some 150, "endpoint", relay ⟨"relayer", []⟩ "bridge" (request 2)⟩,
  ⟨some 170, "endpoint", relay ⟨"relayer", []⟩ "bridge" (request 2)⟩]

theorem counters_agree_relayed :
    ∃ log t e, Run fresh log t ∧ t.world.get? "endpoint" = some (.endpoint e) ∧
      (Bridge.applied (bridgeLog "bridge" log)).map (·.nonce) = [1, 2] ∧
      ∀ chain src, Numbered ((Bridge.applied (bridgeLog "bridge" log)).filter (·.isFrom chain src))
        (e.lastDelivered (chain, src, "bridge")) := by
  have hcheck : ((play fresh relayed).map fun p => ((Bridge.applied (bridgeLog "bridge" p.1)).map (·.nonce),
      (bridgeAt? "bridge" p.2).map Bridge.Store.endpoint)) = some ([1, 2], some "endpoint") := by
    decide +kernel
  obtain ⟨⟨log, t⟩, hplay, hcheck⟩ := Option.map_eq_some_iff.1 hcheck
  obtain ⟨hnonces, htrust⟩ := Prod.mk.inj hcheck
  obtain ⟨b, hb, hendpoint⟩ := Option.map_eq_some_iff.1 htrust
  have h : Run fresh log t := run_of_play hplay
  obtain ⟨e, he, -⟩ := h.endpoint (show fresh.world.get? "endpoint" = some (.endpoint .empty) from rfl)
  refine ⟨log, t, e, h, he, hnonces, (counters_agree h rfl rfl he (get?_of_bridgeAt? hb) fun config hconfig => ?_).1⟩
  rwa [Bridge.Store.endpoint, hconfig] at hendpoint

end VestingBridge.Session
