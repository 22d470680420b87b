import VestingBridge.Proofs.Session.Delivery
/-!
# Proofs.Session.Channel — from one bridge to another

Hosts take their steps independently, and what is sent on one reaches another only through a relayer, who may deliver
packets in any order, repeatedly and in any shape, but makes none up.  Between an application and a bridge this is
enough for a channel: the packets arrive in the order in which they were sent, none is missing, and none comes twice.
-/
namespace VestingBridge.Session

variable {ι : Type} [DecidableEq ι]

/-- The turns of one host. -/
def turnsOf (host : ι) (log : List (ι × Turn)) : List Turn := (log.filter (·.1 = host)).map (·.2)

/-- **The runs of several hosts**, with their steps in any order. -/
def Interleaving (hosts : ι → Session) (log : List (ι × Turn)) (hosts' : ι → Session) : Prop :=
  ∀ host, Run (hosts host) (turnsOf host log) (hosts' host)

theorem turnsOf_append (host : ι) (log more : List (ι × Turn)) :
    turnsOf host (log ++ more) = turnsOf host log ++ turnsOf host more := by
  rw [turnsOf, List.filter_append, List.map_append, turnsOf, turnsOf]

theorem endpointLog_flatMap (here : Account) (log more : List Turn) :
    endpointLog here (log ++ more) = endpointLog here log ++ endpointLog here more := List.flatMap_append

/-- The packets that an endpoint delivered to an application in a turn. -/
def Turn.delivered (E application : Account) (turn : Turn) : List Packet :=
  Endpoint.arrived application (turn.visits.filterMap (·.atEndpoint? E))

/-- **No packet from an address is made up**: what one endpoint delivers to an application was sent before through the
other. -/
def Relayed (log : List (ι × Turn)) (home : ι) (EA : Account) (away : ι) (EB B : Account) (chain : ChainId)
    (src : WireAddress) : Prop :=
  ∀ before turn after, log = before ++ (away, turn) :: after →
    ∀ p ∈ turn.delivered EB B, p.srcChain = chain → p.src = src →
      p ∈ Endpoint.emitted (endpointLog EA (turnsOf home before))

variable {hosts hosts' : ι → Session} {log : List (ι × Turn)} {home away : ι} {A B EA EB : Account}
  {src dst : WireAddress} {chain : ChainId}

theorem exists_turn_of_arrived {turns : List Turn} {p : Packet} (h : p ∈ Endpoint.arrived B (endpointLog EB turns)) :
    ∃ turn ∈ turns, p ∈ turn.delivered EB B := by
  rw [Endpoint.arrived, endpointLog, List.filterMap_flatMap] at h
  obtain ⟨turn, hturn, hp⟩ := List.mem_flatMap.1 h
  exact ⟨turn, hturn, hp⟩

theorem Relayed.emitted (h : Relayed log home EA away EB B chain src) {p : Packet}
    (hp : p ∈ Endpoint.arrived B (endpointLog EB (turnsOf away log))) (hchain : p.srcChain = chain)
    (hsrc : p.src = src) : p ∈ Endpoint.emitted (endpointLog EA (turnsOf home log)) := by
  obtain ⟨turn, hturn, hdelivered⟩ := exists_turn_of_arrived hp
  obtain ⟨⟨host, turn'⟩, hmem, rfl⟩ := List.mem_map.1 hturn
  obtain ⟨hlog, hhost⟩ := List.mem_filter.1 hmem
  cases of_decide_eq_true hhost
  obtain ⟨before, after, rfl⟩ := List.append_of_mem hlog
  have hearlier := h before turn' after rfl p hdelivered hchain hsrc
  rw [turnsOf_append, endpointLog_flatMap, Endpoint.emitted_append]
  exact List.mem_append_left _ hearlier

/-- **The channel is in order and exactly once.**  What a bridge applied from an application on another chain is a
beginning of what that application's endpoint sent for it to the bridge, as long as the counter of the bridge's own
endpoint says. -/
theorem channel_in_order (home away : ι) (h : Interleaving hosts log hosts') {ea eb : Endpoint.Store} {b : Bridge.Store}
    {config : Endpoint.Config} (hEA : (hosts home).world.get? EA = some (.endpoint .empty))
    (hEB : (hosts away).world.get? EB = some (.endpoint .empty))
    (hB : (hosts away).world.get? B = some (.bridge .empty))
    (hea : (hosts' home).world.get? EA = some (.endpoint ea))
    (heb : (hosts' away).world.get? EB = some (.endpoint eb)) (hconfig : eb.config = some config)
    (hb : (hosts' away).world.get? B = some (.bridge b))
    (htrust : ∀ config, b.config = some config → config.endpoint = EB)
    (hsrc : A.wire = .ok src) (hdst : B.wire = .ok dst)
    (hunique : ∀ other, ea.applications.contains other = true → other.wire = A.wire → other = A)
    (hrelayed : Relayed log home EA away EB B chain src) :
    (Bridge.applied (bridgeLog B (turnsOf away log))).filter (·.isFrom chain src) <+:
        (Endpoint.emittedBy A (endpointLog EA (turnsOf home log))).filter (·.isTo config.localChain dst) ∧
      ((Bridge.applied (bridgeLog B (turnsOf away log))).filter (·.isFrom chain src)).length =
        (eb.lastDelivered (chain, src, B)).val := by
  have hpaired : Paired EB B (hosts' away).world := ⟨⟨eb, heb⟩, b, hb, htrust⟩
  obtain ⟨ea', hea', hhome⟩ := (h home).endpoint hEA
  cases hea.symm.trans hea'
  obtain ⟨eb', heb', haway⟩ := (h away).endpoint hEB
  cases heb.symm.trans heb'
  obtain ⟨b', hb', hbridge⟩ := (h away).bridge hB
  cases hb.symm.trans hb'
  have hsent := Endpoint.History.numbering hhome
  have harrived := Endpoint.History.numbering haway
  have hrecord := Bridge.History.record hbridge
  have heq := (h away).applied_eq hEB hB hpaired
  have hshort : Numbered ((Bridge.applied (bridgeLog B (turnsOf away log))).filter (·.isFrom chain src))
      (eb.lastDelivered (chain, src, B)) := by
    rw [heq]
    exact harrived.inbound chain src B
  refine ⟨hshort.prefix_of_subset (hsent.outbound config.localChain A dst) fun p hp => ?_, hshort.length⟩
  obtain ⟨happlied, hfrom⟩ := List.mem_filter.1 hp
  obtain ⟨hpchain, hpsrc⟩ := Packet.isFrom_iff.1 hfrom
  have hp' := heq ▸ happlied
  -- it was sent by an application with this address, and there is only one
  obtain ⟨sender, hsender⟩ := hsent.attributed p (hrelayed.emitted hp' hpchain hpsrc)
  obtain ⟨hregistered, hwire, -⟩ := hsent.signed sender p hsender
  cases hunique sender hregistered (by rw [hwire, hpsrc, hsrc])
  -- and it was sent to this bridge, which applies no other
  have hpdst : p.dst = dst := Except.ok.inj ((hrecord.addressed p happlied).1.symm.trans hdst)
  have hpdstChain : p.dstChain = config.localChain := by
    have hhere := harrived.here B p hp'
    rw [hconfig] at hhere
    exact (Option.some.inj hhere).symm
  exact List.mem_filter.2 ⟨hsender, Packet.isTo_iff.2 ⟨hpdstChain, hpdst⟩⟩

/-! ## One host after another -/

/-- The turns of one host, and then those of another. -/
def oneAfterAnother (home away : ι) (first second : List Turn) : List (ι × Turn) :=
  first.map (home, ·) ++ second.map (away, ·)

theorem turnsOf_map (host other : ι) (turns : List Turn) :
    turnsOf host (turns.map (other, ·)) = if other = host then turns else [] := by
  rw [turnsOf, List.filter_map, List.map_map]
  by_cases h : other = host
  · have hall : turns.filter ((fun x : ι × Turn => decide (x.1 = host)) ∘ (other, ·)) = turns :=
      List.filter_eq_self.2 fun _ _ => decide_eq_true h
    rw [if_pos h, hall]
    exact List.map_id _
  · have hnone : turns.filter ((fun x : ι × Turn => decide (x.1 = host)) ∘ (other, ·)) = [] :=
      List.filter_eq_nil_iff.2 fun _ _ heq => h (of_decide_eq_true heq)
    rw [if_neg h, hnone]
    rfl

theorem relayed_of_first {first second : List Turn} (hne : home ≠ away)
    (hsub : ∀ p ∈ Endpoint.arrived B (endpointLog EB second), p ∈ Endpoint.emitted (endpointLog EA first)) :
    Relayed (oneAfterAnother home away first second) home EA away EB B chain src := by
  intro before turn after hlog p hp _ _
  have hturn : turn ∈ second := by
    have hmem : (away, turn) ∈ oneAfterAnother home away first second := by
      rw [hlog]
      exact List.mem_append_right _ (List.mem_cons_self ..)
    rcases List.mem_append.1 hmem with hmem | hmem
    · obtain ⟨_, _, heq⟩ := List.mem_map.1 hmem
      exact absurd (Prod.mk.inj heq).1 hne
    · obtain ⟨turn', hturn', heq⟩ := List.mem_map.1 hmem
      exact (Prod.mk.inj heq).2 ▸ hturn'
  have hsent : p ∈ Endpoint.emitted (endpointLog EA first) := by
    refine hsub p ?_
    rw [Endpoint.arrived, endpointLog, List.filterMap_flatMap]
    exact List.mem_flatMap.2 ⟨turn, hturn, hp⟩
  have hbefore : ∃ more, before = first.map (home, ·) ++ more := by
    rcases List.append_eq_append_iff.1 hlog with ⟨more, hmore, -⟩ | ⟨more, hfirst, hafter⟩
    · exact ⟨more, hmore⟩
    · cases more with
      | nil => exact ⟨[], by rw [hfirst, List.append_nil, List.append_nil]⟩
      | cons x more =>
        have hx : x ∈ first.map (home, ·) := by
          rw [hfirst]
          exact List.mem_append_right _ (List.mem_cons_self ..)
        obtain ⟨_, _, rfl⟩ := List.mem_map.1 hx
        exact absurd (Prod.mk.inj (List.cons.inj hafter).1).1.symm hne
  obtain ⟨more, rfl⟩ := hbefore
  rw [turnsOf_append, turnsOf_map, if_pos rfl, endpointLog_flatMap, Endpoint.emitted_append]
  exact List.mem_append_left _ hsent

/-- An endpoint and a bridge on another host, never called. -/
def freshHome : Session := start [("endpoint", .endpoint .empty), ("far", .bridge .empty)]

/-- Two withdrawals are requested from there. -/
def requested : List Occasion := [
  ⟨some 10, "endpoint", .create ⟨"owner", []⟩ (Endpoint.Setup.toJson ⟨5, "relayer"⟩)⟩,
  ⟨none, "far", .create ⟨"owner", []⟩ (Bridge.Setup.toJson ⟨"endpoint", 5⟩)⟩,
  bridgeCall "far" "owner" [] (.appoint "admin" "authority"),
  bridgeCall "far" "authority" [] (.setTrustedRemote 108 "0x627269646765"),
  bridgeCall "far" "anyone" [] (.requestRemoteWithdraw 108 Amount.zero),
  bridgeCall "far" "anyone" [] (.requestRemoteWithdraw 108 Amount.zero)]

theorem channel_in_order_requested :
    ∃ first second t u src dst,
      Interleaving (fun away => if away = true then fresh else freshHome) (oneAfterAnother false true first second)
        (fun away => if away = true then u else t) ∧
      (Bridge.applied (bridgeLog "bridge" second)).map (·.nonce) = [1, 2] ∧
      (Bridge.applied (bridgeLog "bridge" second)).filter (·.isFrom 5 src) <+:
        (Endpoint.emittedBy "far" (endpointLog "endpoint" first)).filter (·.isTo 108 dst) := by
  have hcheck : ((play freshHome requested).bind fun p => (play fresh relayed).map fun q =>
      (decide (Endpoint.arrived "bridge" (endpointLog "endpoint" q.1) = Endpoint.emitted (endpointLog "endpoint" p.1)),
        (endpointAt? "endpoint" p.2).map fun e => e.applications.entries.map (·.1),
        (endpointAt? "endpoint" q.2).bind fun e => e.config.map (·.localChain),
        decide ((bridgeAt? "bridge" q.2).map Bridge.Store.endpoint = some "endpoint" ∧
          (Bridge.applied (bridgeLog "bridge" q.1)).map (·.nonce) = [1, 2]))) =
      some (true, some ["far"], some 108, true) := by
    decide +kernel
  obtain ⟨⟨first, t⟩, hfirst, hcheck⟩ := Option.bind_eq_some_iff.1 hcheck
  obtain ⟨⟨second, u⟩, hsecond, hcheck⟩ := Option.map_eq_some_iff.1 hcheck
  simp only [Prod.mk.injEq, decide_eq_true_eq] at hcheck
  obtain ⟨hsame, happlications, hchain, htrust, hnonces⟩ := hcheck
  obtain ⟨ea, hea, happlications⟩ := Option.map_eq_some_iff.1 happlications
  obtain ⟨eb, heb, hchain⟩ := Option.bind_eq_some_iff.1 hchain
  obtain ⟨config, hconfig, hchain⟩ := Option.map_eq_some_iff.1 hchain
  obtain ⟨b, hb, hendpoint⟩ := Option.map_eq_some_iff.1 htrust
  have hrun : Interleaving (fun away => if away = true then fresh else freshHome)
      (oneAfterAnother false true first second) (fun away => if away = true then u else t) := by
    intro away
    rw [oneAfterAnother, turnsOf_append, turnsOf_map, turnsOf_map]
    cases away with
    | false => simpa using run_of_play hfirst
    | true => simpa using run_of_play hsecond
  have hhome : turnsOf false (oneAfterAnother false true first second) = first := by
    rw [oneAfterAnother, turnsOf_append, turnsOf_map, turnsOf_map, if_pos rfl, if_neg nofun, List.append_nil]
  have haway : turnsOf true (oneAfterAnother false true first second) = second := by
    rw [oneAfterAnother, turnsOf_append, turnsOf_map, turnsOf_map, if_neg nofun, if_pos rfl, List.nil_append]
  have hunique : ∀ other, ea.applications.contains other = true → other.wire = Account.wire "far" →
      other = "far" := by
    intro other hcontains _
    obtain ⟨tag, htag⟩ := Option.isSome_iff_exists.1 hcontains
    have hmem := List.mem_map_of_mem (f := (·.1)) ((Table.get?_eq_some_iff _ _ _).1 htag)
    rw [happlications] at hmem
    exact List.mem_singleton.1 hmem
  have hfar : Account.wire "far" = .ok (Account.wireOfOctets (Text.Utf8.encode "far")) := rfl
  have hbridge : Account.wire "bridge" = .ok (Account.wireOfOctets (Text.Utf8.encode "bridge")) := rfl
  have hrelayed : Relayed (oneAfterAnother false true first second) false "endpoint" true "endpoint" "bridge" 5
      (Account.wireOfOctets (Text.Utf8.encode "far")) := relayed_of_first (by decide) fun p hp => hsame ▸ hp
  have hchannel := (channel_in_order false true hrun rfl rfl rfl (get?_of_endpointAt? hea)
    (get?_of_endpointAt? heb) hconfig (get?_of_bridgeAt? hb)
    (fun c hc => by rwa [Bridge.Store.endpoint, hc] at hendpoint) hfar hbridge hunique hrelayed).1
  rw [hhome, haway, hchain] at hchannel
  exact ⟨first, second, t, u, _, _, hrun, hnonces, hchannel⟩

end VestingBridge.Session
