import VestingBridge.Proofs.Bridge.Registries
import VestingBridge.Proofs.Session.Channel
/-!
# Proofs.Session.Withdrawal — a withdrawal that is asked for on another chain

A bridge at home asks its endpoint to send a request, and the endpoint on the other chain hands it to the bridge there.
What is sent names the bridge there as that bridge knows itself, and names the one at home as it is trusted there; so
the request passes every check on its way, and all that can still be wrong is with the stream.
-/
namespace VestingBridge.Session

/-- **A bridge is in service at its endpoint**: it is active and not paused, and the endpoint is up and has an entry for
it. -/
structure InService (E B : Account) (w : World) (b : Bridge.Store) (config : Bridge.Config) (e : Endpoint.Store)
    (place : Endpoint.Config) : Prop where
  bridge : w.get? B = some (.bridge b)
  configured : b.config = some config
  trusts : config.endpoint = E
  active : config.lifecycle = .active
  unpaused : config.paused = false
  endpoint : w.get? E = some (.endpoint e)
  located : e.config = some place
  registered : e.applications.contains B = true

variable {E B : Account} {w w' : World} {now : Seconds} {s u : Session} {visits : List Visit} {b : Bridge.Store}
  {config : Bridge.Config} {e : Endpoint.Store} {place : Endpoint.Config} {chain : ChainId} {src dst : WireAddress}
  {value : Amount} {id : StreamId} {nonce : Nonce} {caller : Caller}

theorem InService.ne (h : InService E B w b config e place) : E ≠ B := by
  rintro rfl
  cases h.endpoint.symm.trans h.bridge

/-! ## The request -/

def withdrawalRequest (caller : Caller) (chain : ChainId) (value : Amount) : Entry :=
  .execute caller (Bridge.ExecuteCall.requestRemoteWithdraw chain value).toJson

theorem toBridge_withdrawalRequest (caller : Caller) (chain : ChainId) (value : Amount) :
    (withdrawalRequest caller chain value).toBridge = .ok (.execute caller (.requestRemoteWithdraw chain value)) := by
  rw [withdrawalRequest, Entry.toBridge, bridge_reads_request]
  rfl

/-- **A request lands only for a number that fits in a packet.** -/
theorem fits_of_request (hb : s.world.get? B = some (.bridge b))
    (h : s.step B (withdrawalRequest caller chain value) = (.ok visits, u)) : ∃ id : StreamId, id.val = value.val := by
  obtain ⟨r, w, rest, henter, -, -⟩ := callWithin_ok (step_ok h).1
  obtain ⟨event, _, read, landed, -⟩ := (landed_of_enter henter).of_bridge hb
  cases (toBridge_withdrawalRequest caller chain value).symm.trans read
  obtain ⟨_, id, _, -, -, -, hid, -⟩ := Bridge.requestRemoteWithdraw_ok landed
  exact ⟨id, WithdrawRequest.operand?_eq_ok_iff.1 hid⟩

/-- **A request for a number that fits lands, and the endpoint shows the packet.** -/
theorem request_lands (caller : Caller) (h : InService E B s.world b config e place)
    (trusted : b.remotes.get? chain = some dst) (source : B.wire = .ok src) (fits : id.val = value.val)
    (numbered : nonce.val = (e.lastSent (chain, B, dst)).val + 1) :
    ∃ visits u, s.step B (withdrawalRequest caller chain value) = (.ok visits, u) ∧
      Endpoint.emitted (visits.filterMap (·.atEndpoint? E)) =
        [⟨place.localChain, src, chain, dst, nonce, (WithdrawRequest.withdraw id).encode⟩] ∧
      u.world.get? E = some (.endpoint { e with outbound := e.outbound.insert (chain, B, dst) nonce }) ∧
      ∀ other, other ≠ E → u.world.get? other = s.world.get? other := by
  obtain ⟨r, b', hrequest⟩ := Bridge.requestRemoteWithdraw_lands caller h.configured h.active h.unpaused
    (WithdrawRequest.operand?_eq_ok_iff.2 fits) trusted
  obtain ⟨config', id', remote, hconfig, -, -, hid, hremote, hmessages, rfl⟩ :=
    Bridge.requestRemoteWithdraw_ok hrequest
  cases h.configured.symm.trans hconfig
  cases trusted.symm.trans hremote
  cases Fin.ext ((WithdrawRequest.operand?_eq_ok_iff.1 hid).trans fits.symm)
  rw [h.trusts] at hmessages
  have hland : Landed s.world s.now B (withdrawalRequest caller chain value) r (s.world.insert B (.bridge b')) :=
    .bridge b' b' _ h.bridge (toBridge_withdrawalRequest caller chain value) hrequest rfl
  have he : (s.world.insert B (.bridge b')).get? E = some (.endpoint e) := by
    rw [hland.get?_of_ne h.ne, h.endpoint]
  have hin := Table.contains_of_get? he
  -- the endpoint gives the packet the next number, and the wire address of the one who asks
  let payload := (WithdrawRequest.withdraw id).encode
  obtain ⟨r', hsend, hsilent, hshown⟩ := Endpoint.send_lands ⟨B, caller.funds⟩ payload h.registered h.located source
    numbered
  have hread : (Entry.execute ⟨B, caller.funds⟩ (Call.endpoint (.send chain dst.octets payload)).toJson).toEndpoint =
      .ok (.execute ⟨B, caller.funds⟩ (.send chain dst.octets payload)) := by
    rw [Entry.toEndpoint, endpoint_reads]
    rfl
  have hsent : Landed (s.world.insert B (.bridge b')) s.now E _ r' _ := .endpoint e _ _ he hread hsend rfl
  have hcall := callWithin_of_landed 2 hland
  rw [hmessages, forwardAll_call hin, callWithin_of_silent hsent hsilent] at hcall
  refine ⟨_, _, step_of_call hcall, ?_, ?_, ?_⟩
  · have hfirst : Visit.atEndpoint? E ⟨B, withdrawalRequest caller chain value, r⟩ = none := if_neg h.ne.symm
    have hsecond : Visit.atEndpoint? E ⟨E, .execute ⟨B, caller.funds⟩
        (Call.endpoint (.send chain dst.octets payload)).toJson, r'⟩ =
        some ⟨.execute ⟨B, caller.funds⟩ (.send chain dst.octets payload), r'⟩ := by
      rw [Visit.atEndpoint?, if_pos rfl, hread]
    simp only [Endpoint.emitted, List.filterMap_cons, List.filterMap_nil, hfirst, hsecond, hshown]
    rfl
  · rw [Table.get?_insert, if_pos rfl]
  · intro other hother
    rw [Table.get?_insert, if_neg hother, Table.get?_insert]
    by_cases hB : other = B
    · rw [if_pos hB, hB, h.bridge]
    · rw [if_neg hB]

/-! ## The delivery -/

theorem toBridge_handover (E : Account) (event : DeliveryEvent) :
    (handover E event).toBridge = .ok (.execute ⟨E, []⟩ (.deliver event)) := by
  rw [handover, Entry.toBridge, bridge_reads]
  rfl

theorem payment_of_deliver {env : Env} {event : DeliveryEvent} {r : Response} {t : Bridge.Store}
    (h : (Bridge.deliver env caller event).commit b = .ok (r, t)) :
    ∃ key holding recipient amount, b.assets.get? key = some holding ∧
      r.messages = [⟨holding.payment recipient amount, none⟩] := by
  obtain ⟨_, _, _, stream, _, tag, amount, left, -, -, -, -, -, -, -, -, -, -, -, -, -, hasset, hleft, hmessages, -⟩ :=
    Bridge.deliver_ok h
  obtain ⟨-, -, withdrawn, -, rfl⟩ := Bridge.released_ok hleft
  exact ⟨tag.key, stream.asset, stream.recipient, amount, hasset, hmessages⟩

/-- **A delivery that lands was taken by the bridge.** -/
theorem taken_of_relay (h : InService E B s.world b config e place) {event : DeliveryEvent} {funds : List Coin}
    (hstep : s.step E (relay ⟨place.relayer, funds⟩ B event) = (.ok visits, u)) :
    ∃ r t, (Bridge.deliver ⟨B, s.now⟩ ⟨E, []⟩ event).commit b = .ok (r, t) := by
  have hin := Table.contains_of_get? h.bridge
  obtain ⟨w₁, r, w₂, r', henter, henter'⟩ := accepted_of_relay h.endpoint hin hstep
  have hb : w₁.get? B = some (.bridge b) := by rw [(landed_of_enter henter).get?_of_ne h.ne.symm, h.bridge]
  obtain ⟨event', t, read, landed, -⟩ := (landed_of_enter henter').of_bridge hb
  cases (toBridge_handover E event).symm.trans read
  exact ⟨r', t, landed⟩

/-- **The next packet of its path lands if the bridge takes it**, and the bridge is visited for it alone. -/
theorem relay_lands (h : InService E B s.world b config e place) (accepted : Account.validate B = .ok B)
    {event : DeliveryEvent} {packet : Packet} (rebuilt : event.rebuild = .ok packet)
    (here : packet.dstChain = place.localChain)
    (numbered : packet.nonce.val = (e.lastDelivered (packet.srcChain, packet.src, B)).val + 1)
    (outside : ∀ key contract, b.assets.get? key = some (.token contract) → s.world.contains contract = false)
    (funds : List Coin) {r : Response} {t : Bridge.Store}
    (hdeliver : (Bridge.deliver ⟨B, s.now⟩ ⟨E, []⟩ event).commit b = .ok (r, t)) :
    ∃ visits u, s.step E (relay ⟨place.relayer, funds⟩ B event) = (.ok visits, u) ∧
      visits.filterMap (·.atBridge? B s.now) = [⟨s.now, .execute ⟨E, []⟩ (.deliver event), r⟩] ∧
      u.world.get? B = some (.bridge t) := by
  obtain ⟨r₁, e', hland⟩ := Endpoint.deliver_lands ⟨place.relayer, funds⟩ h.located rfl accepted h.registered rebuilt
    here numbered
  obtain ⟨_, _, -, -, -, -, -, -, hmessages, -, -⟩ := Endpoint.deliver_ok hland
  have hrelayed : Landed s.world s.now E (relay ⟨place.relayer, funds⟩ B event) r₁
      (s.world.insert E (.endpoint e')) :=
    .endpoint e e' _ h.endpoint (toEndpoint_relay _ _ _) hland rfl
  have hb : (s.world.insert E (.endpoint e')).get? B = some (.bridge b) := by
    rw [hrelayed.get?_of_ne h.ne.symm, h.bridge]
  have hin := Table.contains_of_get? hb
  have htaken : Landed (s.world.insert E (.endpoint e')) s.now B (handover E event) r _ :=
    .bridge b t _ hb (toBridge_handover E event) hdeliver rfl
  obtain ⟨key, holding, recipient, amount, hholding, hpays⟩ := payment_of_deliver hdeliver
  have hpayment : ∀ contract, holding = .token contract →
      ((s.world.insert E (.endpoint e')).insert B (.bridge t)).contains contract = false := by
    rintro contract rfl
    rw [htaken.contains_eq, hrelayed.contains_eq]
    exact outside key contract hholding
  have hnext := callWithin_of_landed 1 htaken
  rw [hpays, forwardAll_payment hpayment] at hnext
  have hcall := callWithin_of_landed 2 hrelayed
  rw [hmessages, forwardAll_call hin] at hcall
  change _ = (World.callWithin s.now 2 _ B (handover E event)).map _ at hcall
  rw [hnext] at hcall
  refine ⟨_, _, step_of_call hcall, ?_, ?_⟩
  · have hfirst : Visit.atBridge? B s.now ⟨E, relay ⟨place.relayer, funds⟩ B event, r₁⟩ = none := if_neg h.ne
    have hsecond : Visit.atBridge? B s.now ⟨B, handover E event, r⟩ =
        some ⟨s.now, .execute ⟨E, []⟩ (.deliver event), r⟩ := by
      rw [Visit.atBridge?, if_pos rfl, toBridge_handover]
    simp only [List.filterMap_cons, List.filterMap_nil, hfirst, hsecond]
  · rw [Table.get?_insert, if_pos rfl]

/-! ## From one chain to the other -/

/-- **A packet has drawn on a stream**: what was due is paid to the stream's recipient out of the holding of the deposit
and counts as withdrawn, nothing but that stream is changed, and the packet is recorded. -/
def PaidOut (now : Seconds) (b : Bridge.Store) (packet : Packet) (id : StreamId) (r : Response) (b' : Bridge.Store) :
    Prop :=
  ∃ (stream : Stream) (withdrawn : Amount), b.streams.get? id = some stream ∧
    withdrawn.val = stream.withdrawn.val + (stream.withdrawable now).val ∧
    Pays r.messages ⟨stream.asset, stream.recipient, stream.withdrawable now⟩ ∧
    b' = { b.putStream id { stream with withdrawn } with processed := b.processed.insert packet.hash packet.nonce }

theorem paidOut_of_deliver {event : DeliveryEvent} {packet : Packet} {r : Response} {t : Bridge.Store}
    (hadmitted : Bridge.Admitted ⟨B, now⟩ b caller event config packet id)
    (h : (Bridge.deliver ⟨B, now⟩ caller event).commit b = .ok (r, t)) : PaidOut now b packet id r t := by
  obtain ⟨_, _, _, stream, _, _, amount, left, -, -, -, -, hrebuilt, -, -, -, -, hrequest, hfound, -, -, -, hleft,
    hmessages, rfl⟩ := Bridge.deliver_ok h
  cases hadmitted.rebuilt.symm.trans hrebuilt
  cases hadmitted.request.symm.trans hrequest
  obtain ⟨rfl, -, withdrawn, hwithdrawn, rfl⟩ := Bridge.released_ok hleft
  exact ⟨stream, withdrawn, hfound, hwithdrawn, pays_iff.2 hmessages, rfl⟩

/-- **A withdrawal that is asked for on another chain gets there as it was asked for.**  Two bridges in service trust
each other's wire addresses.  A request lands exactly for a number that fits in sixty-four bits, whoever makes it and
with whatever funds; its packet takes the next number of its path, names both bridges as they know each other and asks
for that very stream, and nothing else changes at home than the number.  Whenever that packet is the next of its path on
the other chain and was not applied, the bridge there admits it in whatever shape it is reported, and the delivery lands
exactly if the stream is there, its type is mapped for the chain of the request and is held where the deposit was made,
and something is due.  Then it pays what is due of that stream, once.  The two states may be of one session or of two,
and of any times. -/
theorem remote_withdrawal {home away first : Session} {log : List Turn} {EA A EB B : Account} {a b : ChainId}
    {src dst : WireAddress} {ba bb : Bridge.Store} {ca cb : Bridge.Config} {ea eb : Endpoint.Store}
    {pa pb : Endpoint.Config} (hhome : InService EA A home.world ba ca ea pa)
    (haway : InService EB B away.world bb cb eb pb) (created : first.world.get? B = some (.bridge .empty))
    (reached : Run first log away) (here : pa.localChain = a) (there : pb.localChain = b) (sits : cb.localChain = b)
    (source : A.wire = .ok src) (target : B.wire = .ok dst) (accepted : Account.validate B = .ok B)
    (trustsTarget : ba.remotes.get? b = some dst) (trustsSource : bb.remotes.get? a = some src)
    (outside : ∀ key contract, bb.assets.get? key = some (.token contract) → away.world.contains contract = false)
    (room : (ea.lastSent (b, A, dst)).val + 1 < 0x10000000000000000) (caller : Caller) (value : Amount) :
    ((∃ visits home', home.step A (withdrawalRequest caller b value) = (.ok visits, home')) ↔
      value.val < 0x10000000000000000) ∧
    ∀ visits home', home.step A (withdrawalRequest caller b value) = (.ok visits, home') →
      ∃ (packet : Packet) (id : StreamId), id.val = value.val ∧
        packet.nonce.val = (ea.lastSent (b, A, dst)).val + 1 ∧
        packet = ⟨a, src, b, dst, packet.nonce, (WithdrawRequest.withdraw id).encode⟩ ∧
        Endpoint.emitted (visits.filterMap (·.atEndpoint? EA)) = [packet] ∧
        home'.world.get? EA =
          some (.endpoint { ea with outbound := ea.outbound.insert (b, A, dst) packet.nonce }) ∧
        (∀ other, other ≠ EA → home'.world.get? other = home.world.get? other) ∧
        (∀ event ∈ packet.shapes, event.rebuild = .ok packet) ∧
        ∀ event now funds, event.rebuild = .ok packet →
          packet.nonce.val = (eb.lastDelivered (a, src, B)).val + 1 → bb.processed.get? packet.hash = none →
          Bridge.Admitted ⟨B, (away.setClock now).now⟩ bb ⟨EB, []⟩ event cb packet id ∧
          ((∃ visits away', (away.setClock now).step EB (relay ⟨pb.relayer, funds⟩ B event) = (.ok visits, away')) ↔
            ∃ stream, bb.streams.get? id = some stream ∧
              (∃ address, bb.remoteCoins.get? (a, stream.assetType.key) = some address) ∧
              bb.assets.get? stream.assetType.key = some stream.asset ∧
              (stream.withdrawable (away.setClock now).now).val ≠ 0) ∧
          ∀ visits away', (away.setClock now).step EB (relay ⟨pb.relayer, funds⟩ B event) = (.ok visits, away') →
            ∃ r bb', visits.filterMap (·.atBridge? B (away.setClock now).now) =
                [⟨(away.setClock now).now, .execute ⟨EB, []⟩ (.deliver event), r⟩] ∧
              away'.world.get? B = some (.bridge bb') ∧ PaidOut (away.setClock now).now bb packet id r bb' := by
  subst here there
  constructor
  · constructor
    · rintro ⟨visits, home', hstep⟩
      obtain ⟨id, hid⟩ := fits_of_request hhome.bridge hstep
      rw [← hid]
      exact id.isLt
    · intro hfits
      have hid : (⟨value.val, hfits⟩ : StreamId).val = value.val := rfl
      have hnonce : (⟨_, room⟩ : Nonce).val = (ea.lastSent (pb.localChain, A, dst)).val + 1 := rfl
      obtain ⟨visits, home', hstep, -⟩ := request_lands caller hhome trustsTarget source hid hnonce
      exact ⟨visits, home', hstep⟩
  · intro visits home' hstep
    obtain ⟨id, hid⟩ := fits_of_request hhome.bridge hstep
    have hnonce : (⟨_, room⟩ : Nonce).val = (ea.lastSent (pb.localChain, A, dst)).val + 1 := rfl
    obtain ⟨visits', home'', hlands, hemitted, hcounted, hframe⟩ :=
      request_lands caller hhome trustsTarget source hid hnonce
    cases hstep.symm.trans hlands
    refine ⟨_, id, hid, hnonce, rfl, hemitted, hcounted, hframe, fun event => Packet.rebuild_of_mem_shapes, ?_⟩
    intro event now funds rebuilt numbered new
    have hadmitted : Bridge.Admitted ⟨B, (away.setClock now).now⟩ bb ⟨EB, []⟩ event cb _ id :=
      ⟨haway.configured, haway.trusts.symm, haway.active, haway.unpaused, rebuilt, sits.symm, target, trustsSource, new,
        WithdrawRequest.parse_encode _⟩
    obtain ⟨bb', hbb, hhistory⟩ := reached.bridge created
    cases haway.bridge.symm.trans hbb
    have haway' : InService EB B (away.setClock now).world bb cb eb pb := haway
    have hlands := (Bridge.History.coherent hhistory).deliver_lands_iff hadmitted
    refine ⟨hadmitted, ⟨?_, ?_⟩, ?_⟩
    · rintro ⟨visits, away', hstep⟩
      exact hlands.1 (taken_of_relay haway' hstep)
    · intro hdue
      obtain ⟨r, t, hdeliver⟩ := hlands.2 hdue
      obtain ⟨visits, away', hstep, -⟩ := relay_lands haway' accepted rebuilt rfl numbered outside funds hdeliver
      exact ⟨visits, away', hstep⟩
    · intro visits away' hstep
      obtain ⟨r, t, hdeliver⟩ := taken_of_relay haway' hstep
      obtain ⟨visits', away'', hstep', hvisited, hafter⟩ :=
        relay_lands haway' accepted rebuilt rfl numbered outside funds hdeliver
      cases hstep.symm.trans hstep'
      exact ⟨r, t, hvisited, hafter, paidOut_of_deliver hadmitted hdeliver⟩

/-- The bridge at an address if it is in service, with its endpoint. -/
def servedAt? (E B : Account) (t : Session) :
    Option (Bridge.Store × Bridge.Config × Endpoint.Store × Endpoint.Config) := do
  let b ← bridgeAt? B t
  let config ← b.config
  let e ← endpointAt? E t
  let place ← e.config
  if config.endpoint = E ∧ config.lifecycle = .active ∧ config.paused = false ∧ e.applications.contains B = true then
    return (b, config, e, place)
  none

theorem inService_of_servedAt? {t : Session} (h : servedAt? E B t = some (b, config, e, place)) :
    InService E B t.world b config e place := by
  obtain ⟨b', hb, h⟩ := Option.bind_eq_some_iff.1 h
  obtain ⟨config', hconfig, h⟩ := Option.bind_eq_some_iff.1 h
  obtain ⟨e', he, h⟩ := Option.bind_eq_some_iff.1 h
  obtain ⟨place', hplace, h⟩ := Option.bind_eq_some_iff.1 h
  split at h
  · rename_i hserves
    cases h
    obtain ⟨htrusts, hactive, hunpaused, hregistered⟩ := hserves
    exact ⟨get?_of_bridgeAt? hb, hconfig, htrusts, hactive, hunpaused, get?_of_endpointAt? he, hplace, hregistered⟩
  · cases h

theorem remote_withdrawal_relayed :
    ∃ (log : List Turn) (home away : Session) (visits : List Visit) (home' : Session) (packet : Packet),
      Run fresh log away ∧
      home.step "far" (withdrawalRequest ⟨"anyone", []⟩ 108 Amount.zero) = (.ok visits, home') ∧
      Endpoint.emitted (visits.filterMap (·.atEndpoint? "endpoint")) = [packet] ∧
      ∃ visits away', (away.setClock (some 150)).step "endpoint"
        (relay ⟨"relayer", []⟩ "bridge" (.encoded packet.encode)) = (.ok visits, away') := by
  have hcheck : ((play freshHome (requested.take 4)).bind fun p => (play fresh (relayed.take 7)).bind fun q =>
      (servedAt? "endpoint" "far" p.2).bind fun (ba, _, ea, pa) => (servedAt? "endpoint" "bridge" q.2).bind
        fun (bb, cb, eb, pb) => (bb.streams.get? StreamId.zero).map fun stream =>
          ((pa.localChain, pb.localChain, cb.localChain, pb.relayer),
            decide (ba.remotes.get? 108 = some (Account.wireOfOctets (Text.Utf8.encode "bridge")) ∧
              bb.remotes.get? 5 = some (Account.wireOfOctets (Text.Utf8.encode "far")) ∧
              bb.assets.entries.map (·.2) = [.native "umfl"] ∧ ea.outbound = ∅ ∧ eb.inbound = ∅ ∧ bb.processed = ∅),
            decide ((bb.remoteCoins.get? (5, stream.assetType.key)).isSome = true ∧
              bb.assets.get? stream.assetType.key = some stream.asset ∧
              (stream.withdrawable 150).val ≠ 0))) = some ((5, 108, 108, "relayer"), true, true) := by
    decide +kernel
  obtain ⟨⟨_, home⟩, -, hcheck⟩ := Option.bind_eq_some_iff.1 hcheck
  obtain ⟨⟨log, away⟩, hplay, hcheck⟩ := Option.bind_eq_some_iff.1 hcheck
  obtain ⟨⟨ba, _, ea, pa⟩, hhome, hcheck⟩ := Option.bind_eq_some_iff.1 hcheck
  obtain ⟨⟨bb, cb, eb, pb⟩, haway, hcheck⟩ := Option.bind_eq_some_iff.1 hcheck
  obtain ⟨stream, hfound, hcheck⟩ := Option.map_eq_some_iff.1 hcheck
  simp only [Prod.mk.injEq, decide_eq_true_eq] at hcheck
  obtain ⟨⟨hhere, hthere, hsits, hrelayer⟩, ⟨htarget, hsource, hassets, hsent, hdelivered, hprocessed⟩, hmapped, hheld,
    hdue⟩ := hcheck
  have hnative : ∀ key contract, bb.assets.get? key = some (.token contract) →
      away.world.contains contract = false := by
    intro key contract hget
    have hmem := List.mem_map_of_mem (f := (·.2)) ((Table.get?_eq_some_iff _ _ _).1 hget)
    rw [hassets] at hmem
    cases List.mem_singleton.1 hmem
  have hfirst : (ea.lastSent (108, "far", Account.wireOfOctets (Text.Utf8.encode "bridge"))).val = 0 := by
    rw [Endpoint.Store.lastSent, hsent]
    rfl
  have hrun := run_of_play hplay
  obtain ⟨hlands, hthen⟩ := remote_withdrawal (inService_of_servedAt? hhome) (inService_of_servedAt? haway) rfl hrun
    hhere hthere hsits rfl rfl rfl htarget hsource hnative (by rw [hfirst]; decide) ⟨"anyone", []⟩ Amount.zero
  obtain ⟨visits, home', hrequest⟩ := hlands.2 (by decide)
  obtain ⟨packet, id, hid, hnonce, -, hemitted, -, -, hshapes, hrelay⟩ := hthen visits home' hrequest
  have hrebuilt := hshapes (.encoded packet.encode) (by simp [Packet.shapes])
  have hnext : packet.nonce.val =
      (eb.lastDelivered (5, Account.wireOfOctets (Text.Utf8.encode "far"), "bridge")).val + 1 := by
    rw [hnonce, hfirst, Endpoint.Store.lastDelivered, hdelivered]
    rfl
  have hnew : bb.processed.get? packet.hash = none := by rw [hprocessed, Table.get?_empty]
  have hzero : id = StreamId.zero := Fin.ext hid
  obtain ⟨-, hdelivery, -⟩ := hrelay (.encoded packet.encode) (some 150) [] hrebuilt hnext hnew
  have hlanded := hdelivery.2 ⟨stream, by rw [hzero, hfound], Option.isSome_iff_exists.1 hmapped, hheld, hdue⟩
  rw [hrelayer] at hlanded
  exact ⟨log, home, away, visits, home', packet, hrun, hrequest, hemitted, hlanded⟩

end VestingBridge.Session
