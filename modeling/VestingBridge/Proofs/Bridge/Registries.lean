import VestingBridge.Proofs.Bridge.Change
import VestingBridge.Proofs.Bridge.Processed
/-!
# Proofs.Bridge.Registries — the registries fit together

The coins of other chains, the types that were mapped, the holdings and the streams are entered by different calls at
different times, and all of them go by the key of a type.  `Coherent` says how they fit together, which every event that
lands keeps.  A delivery that gets as far as its stream can therefore be refused in three ways only, and two of the
errors that are written down for it never come up.
-/
namespace VestingBridge.Bridge

open Handler

variable {self : Account} {env : Env} {caller : Caller} {s t : Store} {r : Response} {event : Event}
  {log : List Landing} {e : Error} {packet : Packet} {id : StreamId} {stream : Stream}

/-! ## How the registries fit together -/

/-- **The registries fit together**: a type that is mapped for some chain is entered under its key, in its one form, and
the type of every stream has a holding. -/
structure Coherent (s : Store) : Prop where
  forward : ∀ chain key address, s.remoteCoins.get? (chain, key) = some address →
    chain.val ≠ 0 ∧ ∃ tag, s.localCoins.get? key = some tag
  backward : ∀ key tag, s.localCoins.get? key = some tag →
    ∃ chain address, s.remoteCoins.get? (chain, key) = some address
  normal : ∀ key tag, s.localCoins.get? key = some tag → tag.key = key ∧ tag.IsNormal
  typed : ∀ id stream, s.streams.get? id = some stream →
    stream.assetType.IsNormal ∧ ∃ holding, s.assets.get? stream.assetType.key = some holding

theorem Coherent.empty : Coherent .empty where
  forward := nofun
  backward := nofun
  normal := nofun
  typed := nofun

/-- A type is mapped: both entries are made under its key. -/
theorem Coherent.mapped (h : Coherent s) {chain : ChainId} {tag : TypeTag} (address : WireAddress)
    (nonzero : chain.val ≠ 0) (normal : tag.IsNormal) :
    Coherent { s with
      localCoins := s.localCoins.insert tag.key tag
      remoteCoins := s.remoteCoins.insert (chain, tag.key) address } where
  forward other key found hget := by
    rw [Table.get?_insert] at hget
    by_cases hkey : (other, key) = (chain, tag.key)
    · cases hkey
      refine ⟨nonzero, tag, ?_⟩
      rw [Table.get?_insert, if_pos rfl]
    · rw [if_neg hkey] at hget
      obtain ⟨hother, hlocal⟩ := h.forward other key found hget
      exact ⟨hother, Table.exists_get?_insert _ _ hlocal⟩
  backward key found hget := by
    rw [Table.get?_insert] at hget
    by_cases hkey : key = tag.key
    · subst hkey
      refine ⟨chain, address, ?_⟩
      rw [Table.get?_insert, if_pos rfl]
    · rw [if_neg hkey] at hget
      obtain ⟨other, hother⟩ := h.backward key found hget
      exact ⟨other, Table.exists_get?_insert _ _ hother⟩
  normal key found hget := by
    rw [Table.get?_insert] at hget
    by_cases hkey : key = tag.key
    · rw [if_pos hkey] at hget
      cases hget
      exact ⟨hkey.symm, normal⟩
    · rw [if_neg hkey] at hget
      exact h.normal key found hget
  typed := h.typed

theorem Coherent.put (h : Coherent s) (id : StreamId) (normal : stream.assetType.IsNormal)
    (registered : ∃ holding, s.assets.get? stream.assetType.key = some holding) : Coherent (s.putStream id stream) where
  forward := h.forward
  backward := h.backward
  normal := h.normal
  typed other found hget := by
    rw [Store.putStream, Table.get?_insert] at hget
    by_cases hid : other = id
    · rw [if_pos hid] at hget
      cases hget
      exact ⟨normal, registered⟩
    · rw [if_neg hid] at hget
      exact h.typed other found hget

theorem Coherent.drawn (h : Coherent s) {left : Stream} {amount : Amount} {now : Seconds}
    (found : s.streams.get? id = some stream) (released : released stream now = .ok (amount, left)) :
    Coherent (s.putStream id left) := by
  obtain ⟨-, -, withdrawn, -, rfl⟩ := released_ok released
  obtain ⟨hnormal, hregistered⟩ := h.typed id stream found
  exact h.put id hnormal hregistered

/-- **Every change keeps the registries together.** -/
theorem Change.coherent (h : Change env s event t) (hs : Coherent s) : Coherent t := by
  cases h with
  | created | upgraded | appointed | registered | stopped | resumed | trusted | requested => exact { hs with }
  | mapped caller chain text assetType config address tag configured authority nonzero read typed =>
    exact hs.mapped address nonzero (TypeTag.isNormal_of_parse typed)
  | assigned => exact { hs with typed := fun id stream hget =>
      ⟨(hs.typed id stream hget).1, Table.exists_get?_insert _ _ (hs.typed id stream hget).2⟩ }
  | opened event draft deposit next opens normal registered =>
    have hput : Coherent (s.putStream s.nextStreamId (draft.toStream s.nextStreamId deposit env.now)) :=
      hs.put _ normal ⟨draft.asset, registered⟩
    exact { hput with }
  | withdrawn caller id config stream left amount configured unpaused found recipient released =>
    exact hs.drawn found released
  | delivered caller e packet id config stream left amount configured sender active unpaused rebuilt request found
      released =>
    have hdrawn := hs.drawn found released
    exact { hdrawn with }

theorem History.coherent (h : History self log s) : Coherent s := by
  induction h with
  | start => exact .empty
  | land _ hlands ih =>
    obtain ⟨_, hland⟩ := hlands
    exact (change_of_landed hland).coherent ih
  | pass _ hrefuses ih =>
    cases hrefuses
    exact ih

/-- **Where a stream's type is mapped for a chain, its key leads back to it.** -/
theorem Coherent.localCoin_eq (h : Coherent s) {chain : ChainId} {address : WireAddress}
    (found : s.streams.get? id = some stream) (mapped : s.remoteCoin chain stream.assetType = .ok address) :
    s.localCoin stream.assetType.key = .ok stream.assetType := by
  obtain ⟨-, tag, htag⟩ := h.forward _ _ _ (remoteCoin_eq_ok_iff.1 mapped)
  obtain ⟨hkey, hnormal⟩ := h.normal _ _ htag
  have hsame : tag = stream.assetType := hnormal.eq_of_key (h.typed id stream found).1 hkey
  rw [localCoin_eq_ok_iff, htag, hsame]

/-! ## How a delivery is admitted -/

/-- The first part of a delivery, which only looks: down to the request in the packet. -/
def inspect (env : Env) (caller : Caller) (event : DeliveryEvent) : Step (Packet × StreamId) := do
  let config ← look Store.loadConfig
  require (caller.sender = config.endpoint) .notEndpoint
  requireActive config
  let packet ← check .event event.rebuild
  require (packet.dstChain = config.localChain) (.wrongChain packet.dstChain config.localChain)
  let here ← check .account env.self.wire
  require (packet.dst = here) (.wrongTarget packet.dst)
  look (·.verifySender packet.srcChain packet.src)
  require (!(← get).processed.contains packet.hash) (.alreadyProcessed packet.hash)
  let .withdraw id ← check .request (WithdrawRequest.parse packet.payload)
  return (packet, id)

/-- The last part of a delivery, after the request was applied: the packet is recorded. -/
def recordPacket (packet : Packet) (response : Response) : Step Response := do
  modify fun s => { s with processed := s.processed.insert packet.hash packet.nonce }
  return { response with
    attributes := response.attributes ++ [("src_chain_id", Text.Decimal.encode packet.srcChain.val),
      ("src_address", packet.src.toHex), ("nonce", Text.Decimal.encode packet.nonce.val),
      ("packet_hash", packet.hash.toHex)] }

theorem deliver_eq (env : Env) (caller : Caller) (event : DeliveryEvent) :
    deliver env caller event = (do
      let (packet, id) ← inspect env caller event
      let response ← applyWithdraw env packet id
      recordPacket packet response) := by
  simp only [deliver, inspect, recordPacket, bind_assoc, pure_bind]

/-- **A delivery is admitted**: the endpoint hands over, to a bridge in service, the new packet of a trusted sender,
which is addressed to this bridge on its chain. -/
structure Admitted (env : Env) (s : Store) (caller : Caller) (event : DeliveryEvent) (config : Config)
    (packet : Packet) (id : StreamId) : Prop where
  configured : s.config = some config
  sender : caller.sender = config.endpoint
  active : config.lifecycle = .active
  unpaused : config.paused = false
  rebuilt : event.rebuild = .ok packet
  chain : packet.dstChain = config.localChain
  addressed : env.self.wire = .ok packet.dst
  trusted : s.remotes.get? packet.srcChain = some packet.src
  new : s.processed.get? packet.hash = none
  request : WithdrawRequest.parse packet.payload = .ok (.withdraw id)

variable {delivery : DeliveryEvent} {config : Config}

theorem commit_inspect_eq_ok_iff : (inspect env caller delivery).commit s = .ok ((packet, id), t) ↔
    t = s ∧ ∃ config, Admitted env s caller delivery config packet id := by
  simp only [inspect, requireActive, bind_assoc, commit_look_bind, commit_check_bind, commit_get_bind,
    commit_require_bind, commit_pure_eq_ok_iff]
  constructor
  · rintro ⟨config, hconfig, hsender, hactive, hpaused, packet', hpacket, hchain, here, hhere, hdst, _, htrusted, hnew,
      ⟨id'⟩, hrequest, heq, rfl⟩
    cases heq
    subst hdst
    exact ⟨rfl, config, loadConfig_eq_ok_iff.1 hconfig, hsender, hactive, by simpa using hpaused, hpacket, hchain,
      hhere, verifySender_eq_ok_iff.1 htrusted, by simpa [Table.contains] using hnew, hrequest⟩
  · rintro ⟨rfl, config, h⟩
    exact ⟨config, loadConfig_eq_ok_iff.2 h.configured, h.sender, h.active, by simp [h.unpaused], packet, h.rebuilt,
      h.chain, packet.dst, h.addressed, rfl, (), verifySender_eq_ok_iff.2 h.trusted,
      by simp [Table.contains, h.new], .withdraw id, h.request, rfl, rfl⟩

/-- The error speaks of an entry that is missing for a type, which another registry has. -/
def Error.isDangling : Error → Bool
  | noLocalCoin _ | noAsset _ => true
  | _ => false

/-- What is checked before the stream has errors of its own. -/
theorem isDangling_of_inspect (h : (inspect env caller delivery).commit s = .error e) : e.isDangling = false := by
  have hconfig : ∀ {e}, s.loadConfig = .error e → e = .noConfig := by
    intro e h
    unfold Store.loadConfig at h
    split at h <;> cases h
    rfl
  have hverify : ∀ {chain address e}, s.verifySender chain address = .error e → e = .untrustedSender chain address := by
    intro chain address e h
    unfold Store.verifySender at h
    split at h <;> cases h
    rfl
  -- one case for each check, in the order of `inspect`
  simp only [inspect, requireActive, bind_assoc, refused_look_bind, refused_check_bind, refused_require_bind,
    refused_get_bind, refused_pure] at h
  obtain h | ⟨config, -, ⟨-, rfl⟩ | ⟨-, ⟨-, rfl⟩ | ⟨-, ⟨-, rfl⟩ | ⟨-, ⟨_, -, rfl⟩ | ⟨packet, -, ⟨-, rfl⟩ | ⟨-,
    ⟨_, -, rfl⟩ | ⟨here, -, ⟨-, rfl⟩ | ⟨-, h | ⟨_, -, ⟨-, rfl⟩ | ⟨-, ⟨_, -, rfl⟩ | ⟨_, -, h⟩⟩⟩⟩⟩⟩⟩⟩⟩⟩⟩ := h
  · rw [hconfig h]
    rfl
  · rfl
  · rfl
  · rfl
  · rfl
  · rfl
  · rfl
  · rfl
  · rw [hverify h]
    rfl
  · rfl
  · rfl
  · cases h

theorem recordPacket_lands (packet : Packet) (response : Response) (s : Store) :
    (recordPacket packet response).commit s ≠ .error e := nofun

/-- **A delivery that is admitted is refused only for its stream.** -/
theorem Admitted.refused_iff (h : Admitted env s caller delivery config packet id) :
    (deliver env caller delivery).commit s = .error e ↔ (applyWithdraw env packet id).commit s = .error e := by
  have hinspect : (inspect env caller delivery).commit s = .ok ((packet, id), s) :=
    commit_inspect_eq_ok_iff.2 ⟨rfl, config, h⟩
  rw [deliver_eq, commit_bind, hinspect]
  change (applyWithdraw env packet id >>= recordPacket packet).commit s = .error e ↔ _
  rw [commit_bind_eq_error_iff]
  exact or_iff_left fun ⟨r, t, _, hrefused⟩ => recordPacket_lands packet r t hrefused

/-! ## Why a stream is not drawn on -/

/-- **Why a packet from a chain does not draw on a stream.** -/
inductive Undrawn (s : Store) (chain : ChainId) (stream : Stream) (now : Seconds) : Error → Prop
  | unmapped (none : s.remoteCoins.get? (chain, stream.assetType.key) = none) :
    Undrawn s chain stream now (.noRemoteCoin stream.assetType chain)
  | reassigned (address : WireAddress) (holding : Holding)
      (mapped : s.remoteCoins.get? (chain, stream.assetType.key) = some address)
      (assigned : s.assets.get? stream.assetType.key = some holding) (other : holding ≠ stream.asset) :
    Undrawn s chain stream now (.wrongHolding stream.asset holding)
  | exhausted (address : WireAddress) (mapped : s.remoteCoins.get? (chain, stream.assetType.key) = some address)
      (assigned : s.assets.get? stream.assetType.key = some stream.asset)
      (nothing : (stream.withdrawable now).val = 0) :
    Undrawn s chain stream now (.nothingToWithdraw stream.id)

theorem Undrawn.isDangling {chain : ChainId} {now : Seconds} (h : Undrawn s chain stream now e) :
    e.isDangling = false := by
  cases h <;> rfl

theorem released_eq_error_iff {now : Seconds} : released stream now = .error e ↔
    (stream.withdrawable now).val = 0 ∧ e = .nothingToWithdraw stream.id := by
  rw [released_eq, Stream.withdrawable_eq_zero_iff]
  by_cases hnothing : stream.vested now ≤ stream.withdrawn
  · simp [hnothing, eq_comm]
  · simp [hnothing]

theorem remoteCoin_eq_error_iff {chain : ChainId} {tag : TypeTag} :
    s.remoteCoin chain tag = .error e ↔ s.remoteCoins.get? (chain, tag.key) = none ∧ e = .noRemoteCoin tag chain := by
  unfold Store.remoteCoin
  cases s.remoteCoins.get? (chain, tag.key) <;> simp [eq_comm]

/-- **What keeps a packet from drawing on a stream that is there.** -/
theorem Coherent.applyWithdraw_refused_iff (h : Coherent s) (found : s.streams.get? id = some stream) :
    (applyWithdraw env packet id).commit s = .error e ↔ Undrawn s packet.srcChain stream env.now e := by
  have hstream := stream_eq_ok_iff.2 found
  simp only [applyWithdraw, refused_look_bind, refused_ofExcept_bind, refused_require_bind, refused_modify_bind,
    refused_pure, and_false, exists_false, or_false]
  constructor
  · rintro (hlost | ⟨stream', hstream', hcause⟩)
    · cases hstream.symm.trans hlost
    cases hstream.symm.trans hstream'
    rcases hcause with hunmapped | ⟨address, hmapped, hcause⟩
    · obtain ⟨hnone, rfl⟩ := remoteCoin_eq_error_iff.1 hunmapped
      exact .unmapped hnone
    -- the key of a type that is mapped leads to the type itself, and the type of a stream has a holding
    have htag := h.localCoin_eq found hmapped
    obtain ⟨-, registered, hregistered⟩ := h.typed id stream found
    rcases hcause with hdangling | ⟨tag, htag', hcause⟩
    · cases htag.symm.trans hdangling
    cases htag.symm.trans htag'
    rcases hcause with hdangling | ⟨holding, hholding, hcause⟩
    · cases (asset_eq_ok_iff.2 hregistered).symm.trans hdangling
    have hmapped := remoteCoin_eq_ok_iff.1 hmapped
    have hholding := asset_eq_ok_iff.1 hholding
    rcases hcause with ⟨hother, rfl⟩ | ⟨rfl, hnothing⟩
    · exact .reassigned address holding hmapped hholding hother
    · obtain ⟨hzero, rfl⟩ := released_eq_error_iff.1 hnothing
      exact .exhausted address hmapped hholding hzero
  · intro hcause
    refine .inr ⟨stream, hstream, ?_⟩
    cases hcause with
    | unmapped hnone => exact .inl (remoteCoin_eq_error_iff.2 ⟨hnone, rfl⟩)
    | reassigned address holding hmapped hassigned hother =>
      have hmapped := remoteCoin_eq_ok_iff.2 hmapped
      exact .inr ⟨address, hmapped, .inr ⟨_, h.localCoin_eq found hmapped, .inr ⟨holding, asset_eq_ok_iff.2 hassigned,
        .inl ⟨hother, rfl⟩⟩⟩⟩
    | exhausted address hmapped hassigned hzero =>
      have hmapped := remoteCoin_eq_ok_iff.2 hmapped
      exact .inr ⟨address, hmapped, .inr ⟨_, h.localCoin_eq found hmapped, .inr ⟨_, asset_eq_ok_iff.2 hassigned,
        .inr ⟨rfl, released_eq_error_iff.2 ⟨hzero, rfl⟩⟩⟩⟩⟩

theorem applyWithdraw_refused_of_absent (absent : s.streams.get? id = none)
    (h : (applyWithdraw env packet id).commit s = .error e) : e = .noStream id := by
  rw [applyWithdraw, refused_look_bind, Store.stream, absent] at h
  rcases h with h | ⟨_, h, _⟩ <;> cases h
  rfl

/-- **A delivery that is admitted lands exactly if its stream is there and nothing keeps the packet from drawing on
it.** -/
theorem Coherent.deliver_lands_iff (h : Coherent s) (hadmitted : Admitted env s caller delivery config packet id) :
    (∃ r t, (deliver env caller delivery).commit s = .ok (r, t)) ↔ ∃ stream, s.streams.get? id = some stream ∧
      (∃ address, s.remoteCoins.get? (packet.srcChain, stream.assetType.key) = some address) ∧
      s.assets.get? stream.assetType.key = some stream.asset ∧ (stream.withdrawable env.now).val ≠ 0 := by
  constructor
  · rintro ⟨r, t, hland⟩
    cases hfound : s.streams.get? id with
    | none =>
      obtain ⟨_, packet', id', stream, _, _, _, _, -, -, -, -, hrebuilt, -, -, -, -, hrequest, hstream, -⟩ :=
        deliver_ok hland
      cases hadmitted.rebuilt.symm.trans hrebuilt
      cases hadmitted.request.symm.trans hrequest
      cases hfound.symm.trans hstream
    | some stream =>
      have hdrawn : ∀ e, ¬Undrawn s packet.srcChain stream env.now e := by
        intro e hcause
        have hrefused := (h.applyWithdraw_refused_iff hfound).2 hcause
        cases hland.symm.trans (hadmitted.refused_iff.2 hrefused)
      obtain ⟨-, holding, hholding⟩ := h.typed id stream hfound
      cases hmapped : s.remoteCoins.get? (packet.srcChain, stream.assetType.key) with
      | none => exact absurd (.unmapped hmapped) (hdrawn _)
      | some address =>
        by_cases hsame : holding = stream.asset
        · subst hsame
          refine ⟨stream, rfl, ⟨address, hmapped⟩, hholding, fun hzero => ?_⟩
          exact hdrawn _ (.exhausted address hmapped hholding hzero)
        · exact absurd (.reassigned address holding hmapped hholding hsame) (hdrawn _)
  · rintro ⟨stream, hfound, ⟨address, hmapped⟩, hassigned, hdue⟩
    cases hrun : (deliver env caller delivery).commit s with
    | ok result => exact ⟨result.1, result.2, rfl⟩
    | error e =>
      have hrefused := hadmitted.refused_iff.1 hrun
      cases (h.applyWithdraw_refused_iff hfound).1 hrefused with
      | unmapped hnone => cases hmapped.symm.trans hnone
      | reassigned _ holding _ hholding hother => exact absurd (Option.some.inj (hholding.symm.trans hassigned)) hother
      | exhausted _ _ _ hzero => exact absurd hzero hdue

/-- **No delivery is refused for an entry that is missing where another registry has one.** -/
theorem History.isDangling_of_deliver (h : History self log s)
    (hrefused : (deliver env caller delivery).commit s = .error e) : e.isDangling = false := by
  rw [deliver_eq, commit_bind_eq_error_iff] at hrefused
  rcases hrefused with hrefused | ⟨⟨packet, id⟩, t, hinspect, hrefused⟩
  · exact isDangling_of_inspect hrefused
  obtain ⟨rfl, -⟩ := commit_inspect_eq_ok_iff.1 hinspect
  rw [commit_bind_eq_error_iff] at hrefused
  rcases hrefused with hrefused | ⟨r, u, -, hrefused⟩
  · cases hget : t.streams.get? id with
    | none =>
      rw [applyWithdraw_refused_of_absent hget hrefused]
      rfl
    | some stream =>
      have hcause := (h.coherent.applyWithdraw_refused_iff hget).1 hrefused
      exact hcause.isDangling
  · exact absurd hrefused (recordPacket_lands packet r u)

/-- **The registries fit together.**  Whatever is mapped for some chain is entered under its key and in its one form,
and the type of each stream has a holding.  So the key of a stream's type leads back to that type wherever the type is
mapped; no delivery is ever refused for an entry that one registry has and another misses; and a delivery that gets to
its stream is refused exactly if the type is not mapped for the chain of the packet, is held elsewhere by now, or
nothing is due. -/
theorem registries_coherent (h : History self log s) :
    Coherent s ∧
    (∀ id stream chain address, s.streams.get? id = some stream → s.remoteCoin chain stream.assetType = .ok address →
      s.localCoin stream.assetType.key = .ok stream.assetType) ∧
    ∀ now caller delivery,
      (∀ e, (deliver ⟨self, now⟩ caller delivery).commit s = .error e → e.isDangling = false) ∧
      ∀ config packet id stream, Admitted ⟨self, now⟩ s caller delivery config packet id →
        s.streams.get? id = some stream →
        ∀ e, (deliver ⟨self, now⟩ caller delivery).commit s = .error e ↔ Undrawn s packet.srcChain stream now e := by
  refine ⟨h.coherent, fun id stream chain address found mapped => h.coherent.localCoin_eq found mapped, ?_⟩
  refine fun now caller delivery => ⟨fun e hrefused => h.isDangling_of_deliver hrefused, ?_⟩
  intro config packet id stream hadmitted found e
  rw [hadmitted.refused_iff]
  exact h.coherent.applyWithdraw_refused_iff found

/-- The request that comes after those of `respelled`, at the time of the last of them. -/
def followUp : DeliveryEvent :=
  .packet 5 [0x0a, 0xbc] 108 bareBridge 3 (WithdrawRequest.withdraw StreamId.zero).encode

theorem registries_coherent_respelled :
    ∃ log s config packet stream, History "bridge" log s ∧
      Admitted ⟨"bridge", 170⟩ s ⟨"endpoint", []⟩ followUp config packet StreamId.zero ∧
      s.streams.get? StreamId.zero = some stream ∧
      Undrawn s packet.srcChain stream 170 (.nothingToWithdraw StreamId.zero) := by
  have hcheck : ((play "bridge" .empty respelled).map fun p =>
      (((inspect ⟨"bridge", 170⟩ ⟨"endpoint", []⟩ followUp).commit p.2).toOption.map (·.1.2),
        (p.2.streams.get? StreamId.zero).isSome,
        match (deliver ⟨"bridge", 170⟩ ⟨"endpoint", []⟩ followUp).commit p.2 with
        | .ok _ => none
        | .error e => some e)) =
      some (some StreamId.zero, true, some (.nothingToWithdraw StreamId.zero)) := by
    decide +kernel
  obtain ⟨⟨log, s⟩, hplay, hcheck⟩ := Option.map_eq_some_iff.1 hcheck
  rw [Prod.mk.injEq, Prod.mk.injEq] at hcheck
  obtain ⟨hinspect, hfound, hrefused⟩ := hcheck
  have h : History "bridge" log s := run_iff_play.2 ⟨respelled, hplay⟩
  obtain ⟨stream, hfound⟩ := Option.isSome_iff_exists.1 hfound
  obtain ⟨config, packet, hadmitted⟩ : ∃ config packet,
      Admitted ⟨"bridge", 170⟩ s ⟨"endpoint", []⟩ followUp config packet StreamId.zero := by
    obtain ⟨⟨⟨packet, id⟩, t⟩, hinspect, rfl⟩ := Option.map_eq_some_iff.1 hinspect
    cases hrun : (inspect ⟨"bridge", 170⟩ ⟨"endpoint", []⟩ followUp).commit s with
    | error e =>
      rw [hrun] at hinspect
      cases hinspect
    | ok result =>
      rw [hrun] at hinspect
      cases hinspect
      obtain ⟨-, config, hadmitted⟩ := commit_inspect_eq_ok_iff.1 hrun
      exact ⟨config, packet, hadmitted⟩
  refine ⟨log, s, config, packet, stream, h, hadmitted, hfound, ?_⟩
  refine (((registries_coherent h).2.2 _ _ _).2 config packet _ stream hadmitted hfound _).1 ?_
  split at hrefused
  · cases hrefused
  · rename_i e herror
    cases hrefused
    exact herror

end VestingBridge.Bridge
