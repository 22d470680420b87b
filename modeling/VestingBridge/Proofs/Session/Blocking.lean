import VestingBridge.Proofs.Bridge.Streams
import VestingBridge.Proofs.Session.Causes
import VestingBridge.Proofs.Session.Withdrawal
/-!
# Proofs.Session.Blocking — a request that cannot be applied

The packets of a path are delivered in order, and one that the bridge refuses keeps its place.  So a request for a
stream that the bridge does not have stops its path for as long as the stream is missing (`blocked_after`).  Nothing is
asked here of those who take the steps: they may speak for contracts as well.
-/
namespace VestingBridge.Session

variable {s t u : Session} {E B self : Account} {entry : Entry} {visits : List Visit} {e : Endpoint.Store}
  {b b' : Bridge.Store} {chain : ChainId} {src : WireAddress} {nonce : Nonce} {id : StreamId} {o : Occasion}
  {occasions : List Occasion}

/-! ## One step after another -/

/-- A step is tried. -/
def attempt (t : Session) (o : Occasion) : Except Failure (List Visit) × Session :=
  (t.setClock o.now).step o.self o.entry

/-- The contracts that are entered when a step is tried: none if it fails. -/
def visited (t : Session) (o : Occasion) : List Visit := (t.attempt o).1.toOption.getD []

/-- **The session after steps that were tried one after another.** -/
def after (t : Session) (occasions : List Occasion) : Session := occasions.foldl (fun t o => (t.attempt o).2) t

theorem walk_of_attempt (hnot : o.entry.isCreate = false) :
    Walk (t.attempt o).2.now t.world (t.visited o) (t.attempt o).2.world := by
  unfold visited
  cases hattempt : t.attempt o with
  | mk outcome u =>
    cases outcome with
    | error f =>
      cases step_error (s := t.setClock o.now) hattempt
      exact .done
    | ok visits =>
      exact walk_of_step (s := t.setClock o.now) (Entry.isOnce_of_not_create hnot) hattempt

theorem after_bridge (hnot : ∀ o ∈ occasions, o.entry.isCreate = false) :
    ∀ {t : Session} {b}, t.world.get? B = some (.bridge b) →
      ∃ b' log, (t.after occasions).world.get? B = some (.bridge b') ∧ Bridge.Run B b log b' := by
  induction occasions with
  | nil => exact fun hB => ⟨_, [], hB, .start⟩
  | cons o rest ih =>
    intro t b hB
    obtain ⟨middle, hmiddle, hfirst⟩ := (walk_of_attempt (hnot o (List.mem_cons_self ..))).bridge hB
    obtain ⟨b', log, hb', hrest⟩ := ih (fun o ho => hnot o (List.mem_cons_of_mem _ ho)) hmiddle
    exact ⟨b', _, hb', hfirst.trans hrest⟩

theorem after_endpoint (hnot : ∀ o ∈ occasions, o.entry.isCreate = false) :
    ∀ {t : Session} {e}, t.world.get? E = some (.endpoint e) →
      ∃ e', (t.after occasions).world.get? E = some (.endpoint e') := by
  induction occasions with
  | nil => exact fun hE => ⟨_, hE⟩
  | cons o rest ih =>
    intro t e hE
    obtain ⟨middle, hmiddle, -⟩ := (walk_of_attempt (hnot o (List.mem_cons_self ..))).endpoint hE
    exact ih (fun o ho => hnot o (List.mem_cons_of_mem _ ho)) hmiddle

/-! ## What arrives -/

/-- **The packets that an endpoint delivered to an application** on some visits. -/
def arrivedAt (E application : Account) (visits : List Visit) : List Packet :=
  Endpoint.arrived application (visits.filterMap (·.atEndpoint? E))

theorem handed_of_arrivedAt {p : Packet} (h : p ∈ arrivedAt E B visits) :
    ∃ v ∈ visits, ∃ event, v.handed? E B = some event ∧ event.rebuild = .ok p := by
  rw [arrivedAt, Endpoint.arrived, List.filterMap_filterMap] at h
  obtain ⟨v, hv, hp⟩ := List.mem_filterMap.1 h
  refine ⟨v, hv, ?_⟩
  rw [← Option.bind_assoc, atEndpoint?_bind_deliveryTo?] at hp
  obtain ⟨event, hhanded, hrebuilt⟩ := Option.bind_eq_some_iff.1 hp
  refine ⟨event, hhanded, ?_⟩
  cases hrebuild : event.rebuild with
  | error error =>
    rw [hrebuild] at hrebuilt
    cases hrebuilt
  | ok packet =>
    rw [hrebuild] at hrebuilt
    cases hrebuilt
    rfl

/-- **A packet that a step delivered to a bridge** was called for from outside, was the next of its path, and was taken
by the bridge. -/
theorem taken_of_arrivedAt {p : Packet} (hE : s.world.get? E = some (.endpoint e))
    (hB : s.world.get? B = some (.bridge b)) (h : s.step self entry = (.ok visits, u)) (hp : p ∈ arrivedAt E B visits) :
    self = E ∧ ∃ event r b', entry.deliveryTo? B = some event ∧ event.rebuild = .ok p ∧
      p.nonce.val = (e.lastDelivered (p.srcChain, p.src, B)).val + 1 ∧
      ((Bridge.Event.execute ⟨E, []⟩ (.deliver event)).run ⟨B, s.now⟩).commit b = .ok (r, b') := by
  obtain ⟨v, hv, event, hhanded, hrebuilt⟩ := handed_of_arrivedAt hp
  obtain ⟨rfl, hto⟩ := handed_of_callWithin (step_ok h).1 hv hhanded
  obtain ⟨w₁, r, w₂, r', henter, henter'⟩ := accepted_of_delivery hE (Table.contains_of_get? hB) hto h
  have hland := landed_of_enter henter
  -- the endpoint takes it for the next packet of its path
  have hnext : p.nonce.val = (e.lastDelivered (p.srcChain, p.src, B)).val + 1 := by
    obtain ⟨_, _, read, landed, -⟩ := hland.of_endpoint hE
    rw [deliveryTo?_of_toEndpoint read] at hto
    obtain ⟨packet, rebuilt, next, -⟩ := Endpoint.delivered_of_landed hto landed
    cases hrebuilt.symm.trans rebuilt
    exact next
  -- and the bridge, which it has not touched, takes it next
  have hne : B ≠ self := by
    rintro rfl
    cases hE.symm.trans hB
  have hb : w₁.get? B = some (.bridge b) := (hland.get?_of_ne hne).trans hB
  obtain ⟨_, b', read, landed, -⟩ := (landed_of_enter henter').of_bridge hb
  cases (toBridge_handover self event).symm.trans read
  exact ⟨rfl, event, r', b', hto, hrebuilt, hnext, landed⟩

/-- **A step asks a bridge for one stream under one number of a path**, if it delivers that number at all. -/
def AsksFor (E B : Account) (chain : ChainId) (src : WireAddress) (nonce : Nonce) (id : StreamId) (self : Account)
    (entry : Entry) : Prop :=
  self = E → ∀ event packet, entry.deliveryTo? B = some event → event.rebuild = .ok packet →
    packet.isFrom chain src = true → packet.nonce = nonce →
      WithdrawRequest.parse packet.payload = .ok (.withdraw id)

/-- **The next packet of a path is not delivered as long as it asks for a stream that the bridge does not have.** -/
theorem not_arrived_of_step (hE : s.world.get? E = some (.endpoint e)) (hB : s.world.get? B = some (.bridge b))
    (hnext : nonce.val = (e.lastDelivered (chain, src, B)).val + 1)
    (hasks : AsksFor E B chain src nonce id self entry) (habsent : b.streams.get? id = none)
    (h : s.step self entry = (.ok visits, u)) : ∀ p ∈ arrivedAt E B visits, p.isFrom chain src = false := by
  intro p hp
  obtain ⟨rfl, event, _, _, hto, hrebuilt, next, landed⟩ := taken_of_arrivedAt hE hB h hp
  cases hfrom : p.isFrom chain src with
  | false => rfl
  | true =>
    obtain ⟨hchain, hsrc⟩ := Packet.isFrom_iff.1 hfrom
    rw [hchain, hsrc] at next
    have hrequest := hasks rfl event p hto hrebuilt hfrom (Fin.ext (next.trans hnext.symm))
    -- the bridge would have found the stream
    obtain ⟨_, packet, _, stream, _, _, _, _, -, -, -, -, rebuilt, -, -, -, -, request, found, -⟩ :=
      Bridge.deliver_ok landed
    cases hrebuilt.symm.trans rebuilt
    cases hrequest.symm.trans request
    cases habsent.symm.trans found

/-- **As long as the bridge does not have the stream, the path stays where it is**, whatever steps are tried. -/
theorem blocked_after : ∀ {t : Session} {e b}, t.world.get? E = some (.endpoint e) →
    t.world.get? B = some (.bridge b) → nonce.val = (e.lastDelivered (chain, src, B)).val + 1 →
    (∀ o ∈ occasions, o.entry.isCreate = false ∧ AsksFor E B chain src nonce id o.self o.entry) →
    (t.after occasions).world.get? B = some (.bridge b') → b'.streams.get? id = none →
    (∃ e', (t.after occasions).world.get? E = some (.endpoint e') ∧
      e'.inbound.get? (chain, src, B) = e.inbound.get? (chain, src, B)) ∧
    ∀ before o later, occasions = before ++ o :: later →
      ∀ p ∈ arrivedAt E B ((t.after before).visited o), p.isFrom chain src = false := by
  induction occasions with
  | nil =>
    intro t e b hE hB hnext hsteps hb' habsent
    refine ⟨⟨e, hE, rfl⟩, fun before o later hsplit => ?_⟩
    cases before <;> cases hsplit
  | cons first rest ih =>
    intro t e b hE hB hnext hsteps hb' habsent
    obtain ⟨hnot, hasks⟩ := hsteps first (List.mem_cons_self ..)
    have hsteps' : ∀ o ∈ rest, o.entry.isCreate = false ∧ AsksFor E B chain src nonce id o.self o.entry :=
      fun o ho => hsteps o (List.mem_cons_of_mem _ ho)
    have hwalk : Walk _ t.world (t.visited first) (t.attempt first).2.world := walk_of_attempt hnot
    obtain ⟨e₁, hE₁, hendpoint⟩ := hwalk.endpoint hE
    obtain ⟨b₁, hB₁, hbridge⟩ := hwalk.bridge hB
    -- a stream that is missing at the end was missing all along
    have habsent₁ : b.streams.get? id = none := by
      obtain ⟨b₂, log, hb₂, hrest⟩ := after_bridge (fun o ho => (hsteps' o ho).1) hB₁
      cases hb'.symm.trans hb₂
      exact Bridge.Run.absent_before (hbridge.trans hrest) habsent
    have hfirst : ∀ p ∈ arrivedAt E B (t.visited first), p.isFrom chain src = false := by
      unfold visited
      cases hattempt : t.attempt first with
      | mk outcome u =>
        cases outcome with
        | error f => exact nofun
        | ok visits => exact not_arrived_of_step (s := t.setClock first.now) hE hB hnext hasks habsent₁ hattempt
    have hcounter := hendpoint.inbound_eq hfirst
    have hnext₁ : nonce.val = (e₁.lastDelivered (chain, src, B)).val + 1 := by
      rw [Endpoint.Store.lastDelivered, hcounter]
      exact hnext
    obtain ⟨⟨e', hE', hsame⟩, hlater⟩ := ih hE₁ hB₁ hnext₁ hsteps' hb' habsent
    refine ⟨⟨e', hE', hsame.trans hcounter⟩, fun before o later hsplit => ?_⟩
    cases before with
    | nil =>
      cases hsplit
      exact hfirst
    | cons x before =>
      cases hsplit
      exact hlater before o later rfl

/-! ## A channel that is stopped -/

/-- **Anyone has a bridge in service ask for any stream on another chain**, and the request takes the next number of its
path. -/
theorem anyone_asks {home : Session} {EA A : Account} {ba : Bridge.Store} {ca : Bridge.Config} {ea : Endpoint.Store}
    {pa : Endpoint.Config} {there : ChainId} {dst : WireAddress} (h : InService EA A home.world ba ca ea pa)
    (trusted : ba.remotes.get? there = some dst) (source : A.wire = .ok src)
    (numbered : nonce.val = (ea.lastSent (there, A, dst)).val + 1) (caller : Caller) {value : Amount}
    (fits : id.val = value.val) :
    ∃ visits home' packet, home.step A (withdrawalRequest caller there value) = (.ok visits, home') ∧
      Endpoint.emitted (visits.filterMap (·.atEndpoint? EA)) = [packet] ∧
      packet.isFrom pa.localChain src = true ∧ packet.nonce = nonce ∧
      WithdrawRequest.parse packet.payload = .ok (.withdraw id) := by
  obtain ⟨visits, home', hstep, hemitted, -⟩ := request_lands caller h trusted source fits numbered
  exact ⟨visits, home', _, hstep, hemitted, Packet.isFrom_iff.2 ⟨rfl, rfl⟩, rfl, WithdrawRequest.parse_encode _⟩

/-- **A request that cannot be applied blocks its path.**  Let the next packet of a path into an endpoint be delivered
to a bridge only as a request for one stream, and let steps of any kind be tried one after another, at any times and by
anyone, which may land or fail.  If the bridge does not have the stream at the end, it never had, the counter of the
path is where it was, and no packet of the path was delivered.  Of the last number there is this holds for ever, since
no history of the bridge has a stream under it.  It takes no more than one call to bring this about: anyone has the
bridge at the other end send such a request. -/
theorem path_blocked (hE : t.world.get? E = some (.endpoint e)) (hB : t.world.get? B = some (.bridge b))
    (hnext : nonce.val = (e.lastDelivered (chain, src, B)).val + 1)
    (hcreate : ∀ o ∈ occasions, o.entry.isCreate = false)
    (hasks : ∀ o ∈ occasions, AsksFor E B chain src nonce id o.self o.entry) :
    ∃ e' b', (t.after occasions).world.get? E = some (.endpoint e') ∧
      (t.after occasions).world.get? B = some (.bridge b') ∧
      (b'.streams.get? id = none → b.streams.get? id = none ∧
        e'.lastDelivered (chain, src, B) = e.lastDelivered (chain, src, B) ∧
        ∀ before o later, occasions = before ++ o :: later →
          ∀ p ∈ arrivedAt E B ((t.after before).visited o), p.isFrom chain src = false) ∧
      (id.val = 0xFFFFFFFFFFFFFFFF → (∃ log, Bridge.History B log b) → b'.streams.get? id = none) ∧
      ∀ (home : Session) (EA A : Account) (ba : Bridge.Store) (ca : Bridge.Config) (ea : Endpoint.Store)
        (pa : Endpoint.Config) (there : ChainId) (dst : WireAddress), InService EA A home.world ba ca ea pa →
        pa.localChain = chain → ba.remotes.get? there = some dst → A.wire = .ok src →
        nonce.val = (ea.lastSent (there, A, dst)).val + 1 → ∀ (caller : Caller) (value : Amount), id.val = value.val →
          ∃ visits home' packet, home.step A (withdrawalRequest caller there value) = (.ok visits, home') ∧
            Endpoint.emitted (visits.filterMap (·.atEndpoint? EA)) = [packet] ∧ packet.isFrom chain src = true ∧
            packet.nonce = nonce ∧ WithdrawRequest.parse packet.payload = .ok (.withdraw id) := by
  obtain ⟨b', log, hb', hrun⟩ := after_bridge hcreate hB
  obtain ⟨e', he'⟩ := after_endpoint hcreate hE
  refine ⟨e', b', he', hb', fun habsent => ?_, fun hlast ⟨history, hhistory⟩ => ?_, ?_⟩
  · obtain ⟨⟨e'', he'', hcounter⟩, hlater⟩ :=
      blocked_after hE hB hnext (fun o ho => ⟨hcreate o ho, hasks o ho⟩) hb' habsent
    cases he'.symm.trans he''
    refine ⟨hrun.absent_before habsent, ?_, hlater⟩
    rw [Endpoint.Store.lastDelivered, Endpoint.Store.lastDelivered, hcounter]
  · refine Option.eq_none_iff_forall_ne_some.2 fun stream hfound => ?_
    have hlt := Bridge.History.below_last (Runs.trans hhistory hrun) hfound
    omega
  · rintro home EA A ba ca ea pa there dst hservice rfl trusted source numbered caller value fits
    exact anyone_asks hservice trusted source numbered caller fits

theorem asksFor_of_relay {caller : Caller} {event : DeliveryEvent} {packet : Packet}
    (rebuilt : event.rebuild = .ok packet) (request : WithdrawRequest.parse packet.payload = .ok (.withdraw id)) :
    AsksFor E B chain src nonce id E (relay caller B event) := by
  intro _ event' packet' hto hrebuilt _ _
  rw [deliveryTo?_of_toEndpoint (toEndpoint_relay caller B event), Endpoint.Event.deliveryTo?, if_pos rfl] at hto
  cases hto
  cases rebuilt.symm.trans hrebuilt
  exact request

theorem asksFor_of_ne (hne : self ≠ E) : AsksFor E B chain src nonce id self entry := fun hself => absurd hself hne

/-- A request for the stream that no bridge ever has. -/
def hopeless (nonce : Nonce) : Packet :=
  ⟨5, Account.wireOfOctets (Text.Utf8.encode "far"), 108, Account.wireOfOctets (Text.Utf8.encode "bridge"), nonce,
    (WithdrawRequest.withdraw StreamId.last).encode⟩

/-- The request is delivered, again when there is one stream more, and is followed by the next packet of its path. -/
def stalled : List Occasion := [
  ⟨some 150, "endpoint", relay ⟨"relayer", []⟩ "bridge" (.encoded (hopeless 1).encode)⟩,
  bridgeCall "bridge" "alice" [⟨"umfl", 500⟩] (.createStream ⟨"bob", "owner::Coins::MFL", 100, 900⟩),
  ⟨some 300, "endpoint", relay ⟨"relayer", []⟩ "bridge" (.packet 5
    (hopeless 1).src.octets 108 (hopeless 1).dst.octets 1
    (WithdrawRequest.withdraw StreamId.last).encode)⟩,
  ⟨none, "endpoint", relay ⟨"relayer", []⟩ "bridge" (.encoded (hopeless 2).encode)⟩]

theorem path_blocked_hopeless :
    ∃ log t e' b', Run fresh log t ∧ (t.after stalled).world.get? "endpoint" = some (.endpoint e') ∧
      (t.after stalled).world.get? "bridge" = some (.bridge b') ∧ b'.nextStreamId.val = 2 ∧
      (e'.lastDelivered (5, (hopeless 1).src, "bridge")).val = 0 := by
  have hcheck : ((play fresh (relayed.take 7)).bind fun p => (endpointAt? "endpoint" p.2).bind fun e =>
      (bridgeAt? "bridge" p.2).bind fun b => (bridgeAt? "bridge" (p.2.after stalled)).map fun b' =>
        (decide (e.inbound = ∅), b'.nextStreamId.val)) = some (true, 2) := by
    decide +kernel
  obtain ⟨⟨log, t⟩, hplay, hcheck⟩ := Option.bind_eq_some_iff.1 hcheck
  obtain ⟨e, he, hcheck⟩ := Option.bind_eq_some_iff.1 hcheck
  obtain ⟨b, hb, hcheck⟩ := Option.bind_eq_some_iff.1 hcheck
  obtain ⟨b'', hb'', hcheck⟩ := Option.map_eq_some_iff.1 hcheck
  simp only [Prod.mk.injEq, decide_eq_true_eq] at hcheck
  obtain ⟨hinbound, hnext⟩ := hcheck
  have h : Run fresh log t := run_of_play hplay
  obtain ⟨_, hsame, hhistory⟩ := h.bridge (show fresh.world.get? "bridge" = some (.bridge .empty) from rfl)
  cases (get?_of_bridgeAt? hb).symm.trans hsame
  have hfirst : (1 : Nonce).val = (e.lastDelivered (5, (hopeless 1).src, "bridge")).val + 1 := by
    rw [Endpoint.Store.lastDelivered, hinbound]
    rfl
  have hrequest : ∀ nonce, WithdrawRequest.parse (hopeless nonce).payload = .ok (.withdraw StreamId.last) :=
    fun _ => WithdrawRequest.parse_encode _
  have hshapes : ∀ nonce, ∀ event ∈ (hopeless nonce).shapes, event.rebuild = .ok (hopeless nonce) :=
    fun _ _ => Packet.rebuild_of_mem_shapes
  have hcreate : ∀ o ∈ stalled, o.entry.isCreate = false := by simp [stalled, relay, bridgeCall, Entry.isCreate]
  have hasks : ∀ o ∈ stalled, AsksFor "endpoint" "bridge" 5 (hopeless 1).src 1 StreamId.last o.self o.entry := by
    intro o ho
    simp only [stalled, List.mem_cons, List.not_mem_nil, or_false] at ho
    rcases ho with rfl | rfl | rfl | rfl
    · exact asksFor_of_relay (hshapes 1 _ (by simp [Packet.shapes])) (hrequest 1)
    · exact asksFor_of_ne (by decide)
    · exact asksFor_of_relay (hshapes 1 _ (by simp [Packet.shapes, hopeless])) (hrequest 1)
    · exact asksFor_of_relay (hshapes 2 _ (by simp [Packet.shapes])) (hrequest 2)
  obtain ⟨e', b', he', hb', hblocked, hforever, -⟩ := path_blocked (get?_of_endpointAt? he) hsame hfirst hcreate hasks
  cases hb'.symm.trans (get?_of_bridgeAt? hb'')
  obtain ⟨-, hcounter, -⟩ := hblocked (hforever rfl ⟨_, hhistory⟩)
  refine ⟨log, t, e', _, h, he', hb', hnext, ?_⟩
  rw [hcounter]
  exact (Nat.succ.inj hfirst).symm

end VestingBridge.Session
