import VestingBridge.Proofs.Bridge.Registries
import VestingBridge.Proofs.Bridge.Value
import VestingBridge.Proofs.Packet
/-!
# Proofs.Bridge.Acceptance — when a delivery is accepted, and what comes first when it is not

A delivery is checked from the outside in: who hands it over and whether the bridge is in service, whether the event
describes a packet for this bridge, whether the packet is new and from a trusted address, what it asks for, and whether
the stream may be drawn on.  `Heard`, `Aimed`, `Fresh` and `Asks` gather what has been checked so far, so that each
cause of a refusal is stated with what holds before it.  Nothing is assumed of the storage.
-/
namespace VestingBridge.Bridge

open Handler

variable {env : Env} {s t : Store} {caller : Caller} {event : DeliveryEvent} {config : Config} {packet : Packet}
  {id : StreamId} {stream : Stream} {now : Seconds} {e : Error}

/-! ## What is checked, in its order -/

/-- **The endpoint speaks to a bridge in service.** -/
structure Heard (s : Store) (caller : Caller) (config : Config) : Prop where
  configured : s.config = some config
  sender : caller.sender = config.endpoint
  active : config.lifecycle = .active
  unpaused : config.paused = false

/-- **The event describes a packet for this bridge.** -/
structure Aimed (env : Env) (s : Store) (caller : Caller) (event : DeliveryEvent) (config : Config)
    (packet : Packet) : Prop extends Heard s caller config where
  rebuilt : event.rebuild = .ok packet
  chain : packet.dstChain = config.localChain
  addressed : env.self.wire = .ok packet.dst

/-- **The packet comes from a trusted address, and it is new.** -/
structure Fresh (env : Env) (s : Store) (caller : Caller) (event : DeliveryEvent) (config : Config)
    (packet : Packet) : Prop extends Aimed env s caller event config packet where
  trusted : s.remotes.get? packet.srcChain = some packet.src
  new : s.processed.get? packet.hash = none

/-- **The packet asks for a stream**: its payload is a zero and the eight octets of the number. -/
structure Asks (env : Env) (s : Store) (caller : Caller) (event : DeliveryEvent) (config : Config) (packet : Packet)
    (id : StreamId) : Prop extends Fresh env s caller event config packet where
  request : ∃ operand : Octets, packet.payload = 0 :: operand ∧ operand.length = 8 ∧ id.val = operand.value

/-- **The stream may be drawn on for a chain**: its type is mapped there and back, the type that this leads to is held
where the deposit was made, and something is due. -/
structure Payable (s : Store) (chain : ChainId) (id : StreamId) (stream : Stream) (now : Seconds) : Prop where
  found : s.streams.get? id = some stream
  mapped : ∃ address, s.remoteCoins.get? (chain, stream.assetType.key) = some address
  held : ∃ tag, s.localCoins.get? stream.assetType.key = some tag ∧ s.assets.get? tag.key = some stream.asset
  due : stream.withdrawn < stream.vested now

/-- **Why a delivery is turned away before its stream is looked for.** -/
inductive TurnedAway (env : Env) (s : Store) (caller : Caller) (event : DeliveryEvent) : Error → Prop
  | noConfig (none : s.config = none) : TurnedAway env s caller event .noConfig
  | notEndpoint (config : Config) (configured : s.config = some config) (other : caller.sender ≠ config.endpoint) :
    TurnedAway env s caller event .notEndpoint
  | notActive (config : Config) (configured : s.config = some config) (sender : caller.sender = config.endpoint)
      (inactive : config.lifecycle ≠ .active) : TurnedAway env s caller event .notActive
  | paused (config : Config) (configured : s.config = some config) (sender : caller.sender = config.endpoint)
      (active : config.lifecycle = .active) (paused : config.paused = true) : TurnedAway env s caller event .paused
  | event (config : Config) (error : EventError) (heard : Heard s caller config)
      (none : event.rebuild = .error error) : TurnedAway env s caller event (.event error)
  | wrongChain (config : Config) (packet : Packet) (heard : Heard s caller config)
      (rebuilt : event.rebuild = .ok packet) (other : packet.dstChain ≠ config.localChain) :
    TurnedAway env s caller event (.wrongChain packet.dstChain config.localChain)
  | unaddressable (config : Config) (packet : Packet) (error : AccountError) (heard : Heard s caller config)
      (rebuilt : event.rebuild = .ok packet) (chain : packet.dstChain = config.localChain)
      (none : env.self.wire = .error error) : TurnedAway env s caller event (.account error)
  | wrongTarget (config : Config) (packet : Packet) (here : WireAddress) (heard : Heard s caller config)
      (rebuilt : event.rebuild = .ok packet) (chain : packet.dstChain = config.localChain)
      (wire : env.self.wire = .ok here) (other : packet.dst ≠ here) :
    TurnedAway env s caller event (.wrongTarget packet.dst)
  | untrusted (config : Config) (packet : Packet) (aimed : Aimed env s caller event config packet)
      (other : s.remotes.get? packet.srcChain ≠ some packet.src) :
    TurnedAway env s caller event (.untrustedSender packet.srcChain packet.src)
  | processed (config : Config) (packet : Packet) (nonce : Nonce) (aimed : Aimed env s caller event config packet)
      (trusted : s.remotes.get? packet.srcChain = some packet.src)
      (recorded : s.processed.get? packet.hash = some nonce) :
    TurnedAway env s caller event (.alreadyProcessed packet.hash)
  | wrongLength (config : Config) (packet : Packet) (fresh : Fresh env s caller event config packet)
      (length : packet.payload.length ≠ 9) :
    TurnedAway env s caller event (.request (.wrongLength packet.payload.length))
  | unknownSelector (config : Config) (packet : Packet) (selector : UInt8) (operand : Octets)
      (fresh : Fresh env s caller event config packet) (payload : packet.payload = selector :: operand)
      (length : operand.length = 8) (other : selector ≠ 0) :
    TurnedAway env s caller event (.request (.unknownSelector selector))

/-- **Why a stream is not drawn on for a chain.** -/
inductive Unpayable (s : Store) (chain : ChainId) (id : StreamId) (now : Seconds) : Error → Prop
  | noStream (none : s.streams.get? id = none) : Unpayable s chain id now (.noStream id)
  | noRemoteCoin (stream : Stream) (found : s.streams.get? id = some stream)
      (none : s.remoteCoins.get? (chain, stream.assetType.key) = none) :
    Unpayable s chain id now (.noRemoteCoin stream.assetType chain)
  | noLocalCoin (stream : Stream) (address : WireAddress) (found : s.streams.get? id = some stream)
      (mapped : s.remoteCoins.get? (chain, stream.assetType.key) = some address)
      (none : s.localCoins.get? stream.assetType.key = none) :
    Unpayable s chain id now (.noLocalCoin stream.assetType.key)
  | noAsset (stream : Stream) (address : WireAddress) (tag : TypeTag) (found : s.streams.get? id = some stream)
      (mapped : s.remoteCoins.get? (chain, stream.assetType.key) = some address)
      (named : s.localCoins.get? stream.assetType.key = some tag) (none : s.assets.get? tag.key = none) :
    Unpayable s chain id now (.noAsset tag)
  | wrongHolding (stream : Stream) (address : WireAddress) (tag : TypeTag) (holding : Holding)
      (found : s.streams.get? id = some stream)
      (mapped : s.remoteCoins.get? (chain, stream.assetType.key) = some address)
      (named : s.localCoins.get? stream.assetType.key = some tag) (assigned : s.assets.get? tag.key = some holding)
      (other : holding ≠ stream.asset) :
    Unpayable s chain id now (.wrongHolding stream.asset holding)
  | nothingDue (stream : Stream) (address : WireAddress) (tag : TypeTag) (found : s.streams.get? id = some stream)
      (mapped : s.remoteCoins.get? (chain, stream.assetType.key) = some address)
      (named : s.localCoins.get? stream.assetType.key = some tag)
      (assigned : s.assets.get? tag.key = some stream.asset) (nothing : stream.vested now ≤ stream.withdrawn) :
    Unpayable s chain id now (.nothingToWithdraw stream.id)

/-! ## The checks before the stream -/

theorem loadConfig_eq_error_iff : s.loadConfig = .error e ↔ s.config = none ∧ e = .noConfig := by
  unfold Store.loadConfig
  cases s.config with
  | none =>
    constructor
    · intro h
      cases h
      exact ⟨rfl, rfl⟩
    · rintro ⟨-, rfl⟩
      rfl
  | some config => simp

theorem verifySender_eq_error_iff {chain : ChainId} {address : WireAddress} :
    s.verifySender chain address = .error e ↔
      s.remotes.get? chain ≠ some address ∧ e = .untrustedSender chain address := by
  unfold Store.verifySender Store.isTrusted
  by_cases h : s.remotes.get? chain = some address
  · simp [h]
  · simp only [beq_iff_eq, h, if_false, Except.error.injEq, ne_eq, not_false_eq_true, true_and]
    exact eq_comm

theorem stream_eq_error_iff : s.stream id = .error e ↔ s.streams.get? id = none ∧ e = .noStream id := by
  unfold Store.stream
  cases s.streams.get? id <;> simp [eq_comm]

theorem localCoin_eq_error_iff {key : Octets} :
    s.localCoin key = .error e ↔ s.localCoins.get? key = none ∧ e = .noLocalCoin key := by
  unfold Store.localCoin
  cases s.localCoins.get? key <;> simp [eq_comm]

theorem asset_eq_error_iff {tag : TypeTag} :
    s.asset tag = .error e ↔ s.assets.get? tag.key = none ∧ e = .noAsset tag := by
  unfold Store.asset
  cases s.assets.get? tag.key <;> simp [eq_comm]

theorem Asks.admitted (h : Asks env s caller event config packet id) :
    Admitted env s caller event config packet id :=
  { h with request := WithdrawRequest.parse_eq_ok_iff.2 h.request }

theorem Admitted.asks (h : Admitted env s caller event config packet id) :
    Asks env s caller event config packet id :=
  { h with request := WithdrawRequest.parse_eq_ok_iff.1 h.request }

/-- **A delivery is turned away for the first check that it does not pass.** -/
theorem refused_inspect_iff : (inspect env caller event).commit s = .error e ↔ TurnedAway env s caller event e := by
  simp only [inspect, requireActive, bind_assoc, refused_look_bind, refused_check_bind, refused_require_bind,
    refused_get_bind, refused_pure, loadConfig_eq_ok_iff, loadConfig_eq_error_iff, verifySender_eq_ok_iff,
    verifySender_eq_error_iff, Bool.not_eq_true', Bool.not_eq_false]
  constructor
  · -- one case for each check, in the order of `inspect`
    rintro (⟨hnone, rfl⟩ | ⟨config, hconfig, ⟨hother, rfl⟩ | ⟨hsender, ⟨hinactive, rfl⟩ | ⟨hactive, ⟨hpaused, rfl⟩ |
      ⟨hunpaused, ⟨error, hnone, rfl⟩ | ⟨packet, hrebuilt, ⟨hother, rfl⟩ | ⟨hchain, ⟨error, hnone, rfl⟩ |
      ⟨here, hwire, ⟨hother, rfl⟩ | ⟨rfl, ⟨hother, rfl⟩ | ⟨_, htrusted, ⟨hknown, rfl⟩ |
      ⟨hnew, ⟨error, hrequest, rfl⟩ | ⟨_, _, ⟨⟩⟩⟩⟩⟩⟩⟩⟩⟩⟩⟩⟩)
    · exact .noConfig hnone
    · exact .notEndpoint config hconfig hother
    · exact .notActive config hconfig hsender hinactive
    · exact .paused config hconfig hsender hactive hpaused
    · exact .event config error ⟨hconfig, hsender, hactive, hunpaused⟩ hnone
    · exact .wrongChain config packet ⟨hconfig, hsender, hactive, hunpaused⟩ hrebuilt hother
    · exact .unaddressable config packet error ⟨hconfig, hsender, hactive, hunpaused⟩ hrebuilt hchain hnone
    · exact .wrongTarget config packet here ⟨hconfig, hsender, hactive, hunpaused⟩ hrebuilt hchain hwire hother
    · exact .untrusted config packet ⟨⟨hconfig, hsender, hactive, hunpaused⟩, hrebuilt, hchain, hwire⟩ hother
    · obtain ⟨nonce, hnonce⟩ := Option.isSome_iff_exists.1 hknown
      exact .processed config packet nonce ⟨⟨hconfig, hsender, hactive, hunpaused⟩, hrebuilt, hchain, hwire⟩ htrusted
        hnonce
    · have hfresh : Fresh env s caller event config packet :=
        ⟨⟨⟨hconfig, hsender, hactive, hunpaused⟩, hrebuilt, hchain, hwire⟩, htrusted,
          Option.isNone_iff_eq_none.1 (Option.isSome_eq_false_iff.1 hnew)⟩
      obtain ⟨hlength, rfl⟩ | ⟨selector, operand, hpayload, hlength, hother, rfl⟩ :=
        WithdrawRequest.parse_eq_error_iff.1 hrequest
      · exact .wrongLength config packet hfresh hlength
      · exact .unknownSelector config packet selector operand hfresh hpayload hlength hother
  · intro h
    cases h with
    | noConfig hnone => simp [hnone]
    | notEndpoint config hconfig hother => simp [hconfig, hother]
    | notActive config hconfig hsender hinactive => simp [hconfig, hsender, hinactive]
    | paused config hconfig hsender hactive hpaused => simp [hconfig, hsender, hactive, hpaused]
    | event config error heard hnone =>
      obtain ⟨hconfig, hsender, hactive, hunpaused⟩ := heard
      simp [hconfig, hsender, hactive, hunpaused, hnone]
    | wrongChain config packet heard hrebuilt hother =>
      obtain ⟨hconfig, hsender, hactive, hunpaused⟩ := heard
      simp [hconfig, hsender, hactive, hunpaused, hrebuilt, hother]
    | unaddressable config packet error heard hrebuilt hchain hnone =>
      obtain ⟨hconfig, hsender, hactive, hunpaused⟩ := heard
      simp [hconfig, hsender, hactive, hunpaused, hrebuilt, hchain, hnone]
    | wrongTarget config packet here heard hrebuilt hchain hwire hother =>
      obtain ⟨hconfig, hsender, hactive, hunpaused⟩ := heard
      simp [hconfig, hsender, hactive, hunpaused, hrebuilt, hchain, hwire, hother]
    | untrusted config packet aimed hother =>
      obtain ⟨⟨hconfig, hsender, hactive, hunpaused⟩, hrebuilt, hchain, hwire⟩ := aimed
      simp [hconfig, hsender, hactive, hunpaused, hrebuilt, hchain, hwire, hother]
    | processed config packet nonce aimed htrusted hknown =>
      obtain ⟨⟨hconfig, hsender, hactive, hunpaused⟩, hrebuilt, hchain, hwire⟩ := aimed
      simp [hconfig, hsender, hactive, hunpaused, hrebuilt, hchain, hwire, htrusted, Table.contains, hknown]
    | wrongLength config packet fresh hlength =>
      obtain ⟨⟨⟨hconfig, hsender, hactive, hunpaused⟩, hrebuilt, hchain, hwire⟩, htrusted, hnew⟩ := fresh
      have hrequest := WithdrawRequest.parse_eq_error_iff.2 (.inl ⟨hlength, rfl⟩)
      simp [hconfig, hsender, hactive, hunpaused, hrebuilt, hchain, hwire, htrusted, Table.contains, hnew, hrequest]
    | unknownSelector config packet selector operand fresh hpayload hlength hother =>
      obtain ⟨⟨⟨hconfig, hsender, hactive, hunpaused⟩, hrebuilt, hchain, hwire⟩, htrusted, hnew⟩ := fresh
      have hrequest := WithdrawRequest.parse_eq_error_iff.2 (.inr ⟨selector, operand, hpayload, hlength, hother, rfl⟩)
      simp [hconfig, hsender, hactive, hunpaused, hrebuilt, hchain, hwire, htrusted, Table.contains, hnew, hrequest]

/-! ## The stream -/

/-- **A packet does not draw on a stream for the first check of the stream that fails.** -/
theorem refused_applyWithdraw_iff :
    (applyWithdraw env packet id).commit s = .error e ↔ Unpayable s packet.srcChain id env.now e := by
  simp only [applyWithdraw, refused_look_bind, refused_ofExcept_bind, refused_require_bind, refused_modify_bind,
    refused_pure, and_false, exists_false, or_false, stream_eq_ok_iff, stream_eq_error_iff, remoteCoin_eq_ok_iff,
    remoteCoin_eq_error_iff, localCoin_eq_ok_iff, localCoin_eq_error_iff, asset_eq_ok_iff, asset_eq_error_iff,
    released_eq]
  constructor
  · rintro (⟨hnone, rfl⟩ | ⟨stream, hfound, ⟨hnone, rfl⟩ | ⟨address, hmapped, ⟨hnone, rfl⟩ | ⟨tag, hnamed,
      ⟨hnone, rfl⟩ | ⟨holding, hassigned, ⟨hother, rfl⟩ | ⟨rfl, hnothing⟩⟩⟩⟩⟩)
    · exact .noStream hnone
    · exact .noRemoteCoin stream hfound hnone
    · exact .noLocalCoin stream address hfound hmapped hnone
    · exact .noAsset stream address tag hfound hmapped hnamed hnone
    · exact .wrongHolding stream address tag holding hfound hmapped hnamed hassigned hother
    · split at hnothing
      · rename_i hvested
        cases hnothing
        exact .nothingDue stream address tag hfound hmapped hnamed hassigned hvested
      · cases hnothing
  · intro h
    cases h with
    | noStream hnone => simp [hnone]
    | noRemoteCoin stream hfound hnone => simp [hfound, hnone]
    | noLocalCoin stream address hfound hmapped hnone => simp [hfound, hmapped, hnone]
    | noAsset stream address tag hfound hmapped hnamed hnone => simp [hfound, hmapped, hnamed, hnone]
    | wrongHolding stream address tag holding hfound hmapped hnamed hassigned hother =>
      simp [hfound, hmapped, hnamed, hassigned, hother]
    | nothingDue stream address tag hfound hmapped hnamed hassigned hnothing =>
      simp [hfound, hmapped, hnamed, hassigned, hnothing]

theorem Payable.lands (h : Payable s packet.srcChain id stream env.now) :
    ∃ r, (applyWithdraw env packet id).commit s =
        .ok (r, s.putStream id { stream with withdrawn := stream.vested env.now }) ∧
      r.messages = [⟨stream.asset.payment stream.recipient (stream.withdrawable env.now), none⟩] := by
  obtain ⟨address, hmapped⟩ := h.mapped
  obtain ⟨tag, hnamed, hassigned⟩ := h.held
  have hdue : ¬stream.vested env.now ≤ stream.withdrawn := Nat.not_le_of_lt h.due
  simp only [applyWithdraw, commit_look_bind, commit_ofExcept_bind, commit_require_bind, commit_modify_bind,
    commit_pure_eq_ok_iff]
  exact ⟨_, ⟨stream, stream_eq_ok_iff.2 h.found, address, remoteCoin_eq_ok_iff.2 hmapped, tag,
    localCoin_eq_ok_iff.2 hnamed, stream.asset, asset_eq_ok_iff.2 hassigned, rfl, _,
    (released_eq stream env.now).trans (if_neg hdue), rfl, rfl⟩, rfl⟩

/-! ## The delivery as a whole -/

/-- The storage that a delivery leaves. -/
def Store.afterDelivery (s : Store) (packet : Packet) (id : StreamId) (stream : Stream) (now : Seconds) : Store :=
  { s.putStream id { stream with withdrawn := stream.vested now } with
    processed := s.processed.insert packet.hash packet.nonce }

theorem accepted_of_deliver {r : Response} (h : (deliver env caller event).commit s = .ok (r, t)) :
    ∃ config packet id stream, Asks env s caller event config packet id ∧
      Payable s packet.srcChain id stream env.now ∧ t = s.afterDelivery packet id stream env.now ∧
      r.messages = [⟨stream.asset.payment stream.recipient (stream.withdrawable env.now), none⟩] := by
  obtain ⟨config, packet, id, stream, remoteAsset, tag, amount, left, hconfig, hsender, hactive, hunpaused, hrebuilt,
    hchain, hwire, htrusted, hnew, hrequest, hfound, hmapped, hnamed, hassigned, hreleased, hmessages, rfl⟩ :=
    deliver_ok h
  rw [released_eq] at hreleased
  split at hreleased
  · cases hreleased
  rename_i hdue
  cases hreleased
  have hadmitted : Admitted env s caller event config packet id :=
    ⟨hconfig, hsender, hactive, hunpaused, hrebuilt, hchain, hwire, htrusted, hnew, hrequest⟩
  exact ⟨config, packet, id, stream, hadmitted.asks,
    ⟨hfound, ⟨remoteAsset, hmapped⟩, ⟨tag, hnamed, hassigned⟩, Nat.lt_of_not_le hdue⟩, rfl, hmessages⟩

theorem Asks.lands (h : Asks env s caller event config packet id)
    (payable : Payable s packet.srcChain id stream env.now) :
    ∃ r, (deliver env caller event).commit s = .ok (r, s.afterDelivery packet id stream env.now) ∧
      r.messages = [⟨stream.asset.payment stream.recipient (stream.withdrawable env.now), none⟩] := by
  obtain ⟨r, hr, hmessages⟩ := payable.lands
  have hinspect := commit_inspect_eq_ok_iff.2 ⟨rfl, config, h.admitted⟩
  rw [deliver_eq, commit_bind, hinspect]
  change ∃ r, (applyWithdraw env packet id >>= recordPacket packet).commit s = _ ∧ _
  rw [commit_bind, hr]
  exact ⟨_, rfl, hmessages⟩

theorem refused_deliver_iff : (deliver env caller event).commit s = .error e ↔
    TurnedAway env s caller event e ∨
    ∃ config packet id, Asks env s caller event config packet id ∧ Unpayable s packet.srcChain id env.now e := by
  rw [deliver_eq, commit_bind_eq_error_iff, refused_inspect_iff]
  refine or_congr_right ⟨?_, ?_⟩
  · rintro ⟨⟨packet, id⟩, t, hinspect, h⟩
    obtain ⟨rfl, config, hadmitted⟩ := commit_inspect_eq_ok_iff.1 hinspect
    rw [commit_bind_eq_error_iff] at h
    rcases h with h | ⟨r, u, -, h⟩
    · exact ⟨config, packet, id, hadmitted.asks, refused_applyWithdraw_iff.1 h⟩
    · exact absurd h (recordPacket_lands packet r u)
  · rintro ⟨config, packet, id, hasks, h⟩
    refine ⟨(packet, id), s, commit_inspect_eq_ok_iff.2 ⟨rfl, config, hasks.admitted⟩, ?_⟩
    exact commit_bind_eq_error_iff.2 (.inl (refused_applyWithdraw_iff.2 h))

/-- An event that describes no packet is found so in a delivery to a bridge in service. -/
theorem Heard.refused_event_iff (h : Heard s caller config) {error : EventError} :
    (deliver env caller event).commit s = .error (.event error) ↔ event.rebuild = .error error := by
  rw [refused_deliver_iff]
  constructor
  · rintro (h | ⟨_, _, _, -, h⟩)
    · cases h with
      | event _ _ _ hnone => exact hnone
    · cases h
  · intro hnone
    exact .inl (.event config error h hnone)

/-- **A packet for the bridge's chain is turned away for its destination exactly if that is not the bridge.** -/
theorem Heard.refused_target_iff (h : Heard s caller config) (rebuilt : event.rebuild = .ok packet)
    (chain : packet.dstChain = config.localChain) {here : WireAddress} (wire : env.self.wire = .ok here) :
    (deliver env caller event).commit s = .error (.wrongTarget packet.dst) ↔ packet.dst ≠ here := by
  rw [refused_deliver_iff]
  constructor
  · rintro (h | ⟨_, _, _, -, h⟩)
    · generalize htarget : packet.dst = target at h ⊢
      cases h with
      | wrongTarget _ other here' _ hrebuilt _ hwire hother =>
        cases rebuilt.symm.trans hrebuilt
        cases wire.symm.trans hwire
        exact hother
    · cases h
  · intro hother
    exact .inl (.wrongTarget config packet here h rebuilt chain wire hother)

/-- **Exactly the deliveries that pass every check are accepted**, whatever the storage holds.  An accepted delivery
takes the withdrawn part of its stream up to what has vested, records its packet, and pays the difference to the
recipient; it changes nothing else and sends nothing else.  Any other delivery is refused for the first check that it
does not pass. -/
theorem delivery_exact (env : Env) (s : Store) (caller : Caller) (event : DeliveryEvent) :
    (∀ t messages, (∃ r, (deliver env caller event).commit s = .ok (r, t) ∧ r.messages = messages) ↔
      ∃ config packet id stream, Asks env s caller event config packet id ∧
        Payable s packet.srcChain id stream env.now ∧ t = s.afterDelivery packet id stream env.now ∧
        ∃ amount : Amount, stream.withdrawn.val + amount.val = (stream.vested env.now).val ∧
          Pays messages ⟨stream.asset, stream.recipient, amount⟩) ∧
    ∀ e, (deliver env caller event).commit s = .error e ↔
      TurnedAway env s caller event e ∨
      ∃ config packet id, Asks env s caller event config packet id ∧ Unpayable s packet.srcChain id env.now e := by
  refine ⟨fun t messages => ⟨?_, ?_⟩, fun e => refused_deliver_iff⟩
  · rintro ⟨r, h, rfl⟩
    obtain ⟨config, packet, id, stream, hasks, hpayable, ht, hmessages⟩ := accepted_of_deliver h
    exact ⟨config, packet, id, stream, hasks, hpayable, ht, _,
      Stream.withdrawn_add_withdrawable (Nat.le_of_lt hpayable.due), pays_iff.2 hmessages⟩
  · rintro ⟨config, packet, id, stream, hasks, hpayable, rfl, amount, hamount, hpays⟩
    obtain ⟨r, hr, hmessages⟩ := hasks.lands hpayable
    have hsame : amount = stream.withdrawable env.now :=
      Fin.ext (Nat.add_left_cancel
        (hamount.trans (Stream.withdrawn_add_withdrawable (Nat.le_of_lt hpayable.due)).symm))
    exact ⟨r, hr, by rw [hmessages, pays_iff.1 hpays, hsame]⟩

end VestingBridge.Bridge
