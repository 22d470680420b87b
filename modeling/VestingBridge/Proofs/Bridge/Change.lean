import VestingBridge.Proofs.Bridge.Calls
import VestingBridge.Proofs.TypeTag
/-!
# Proofs.Bridge.Change — what a landed event changes

Every event that lands changes the storage in one of a few ways (`change_of_landed`).  Each comes with the conditions
that the event met, and says what the storage is after it in terms of the storage before, so that what is not named
stays.
-/
namespace VestingBridge.Bridge

/-- The event asks for a new stream. -/
def Event.opens : Event → Bool
  | .execute _ (.createStream _) | .execute _ (.receive _) => true
  | _ => false

variable {env : Env} {s t : Store} {r : Response} {event : Event}

/-- **What a landed event changes**, and the conditions that it met. -/
inductive Change (env : Env) (s : Store) : Event → Store → Prop
  | created (caller : Caller) (setup : Setup) (chain : setup.localChain.val ≠ 0) :
    Change env s (.create caller setup) { s with
      version := some codeVersion
      nextStream := some StreamId.zero
      config := some {
        owner := caller.sender, endpoint := setup.endpoint, localChain := setup.localChain, admin := none,
        authority := none, lifecycle := .uninitialized, paused := false } }
  | upgraded : Change env s .upgrade { s with version := some codeVersion }
  | appointed (caller : Caller) (admin authority : Account) (config : Config) (configured : s.config = some config)
      (owner : caller.sender = config.owner) (stage : config.lifecycle = .uninitialized) :
    Change env s (.execute caller (.appoint admin authority)) { s with config := some { config with
      admin := some admin, authority := some authority, lifecycle := .initialized } }
  | registered (config : Config) (configured : s.config = some config) (stage : config.lifecycle = .initialized) :
    Change env s (.reply registrationReply) { s with config := some { config with lifecycle := .active } }
  | stopped (caller : Caller) (config : Config) (configured : s.config = some config)
      (admin : config.admin = some caller.sender) :
    Change env s (.execute caller .pause) { s with config := some { config with paused := true } }
  | resumed (caller : Caller) (config : Config) (configured : s.config = some config)
      (admin : config.admin = some caller.sender) :
    Change env s (.execute caller .unpause) { s with config := some { config with paused := false } }
  | trusted (caller : Caller) (chain : ChainId) (text : String) (config : Config) (address : WireAddress)
      (configured : s.config = some config) (authority : config.authority = some caller.sender)
      (nonzero : chain.val ≠ 0) (read : WireAddress.ofHex text = .ok address)
      (address_nonzero : address.isZero = false) :
    Change env s (.execute caller (.setTrustedRemote chain text)) { s with
      remotes := s.remotes.insert chain address }
  | mapped (caller : Caller) (chain : ChainId) (text assetType : String) (config : Config) (address : WireAddress)
      (tag : TypeTag) (configured : s.config = some config) (authority : config.authority = some caller.sender)
      (nonzero : chain.val ≠ 0) (read : WireAddress.ofHex text = .ok address)
      (typed : TypeTag.parse assetType = .ok tag) :
    Change env s (.execute caller (.setCoinMap chain text assetType)) { s with
      localCoins := s.localCoins.insert tag.key tag
      remoteCoins := s.remoteCoins.insert (chain, tag.key) address }
  | assigned (caller : Caller) (assetType : String) (holding normal : Holding) (config : Config) (tag : TypeTag)
      (configured : s.config = some config) (authority : config.authority = some caller.sender)
      (typed : TypeTag.parse assetType = .ok tag) (read : normalHolding holding = .ok normal) :
    Change env s (.execute caller (.registerAsset assetType holding)) { s with
      assets := s.assets.insert tag.key normal }
  | opened (event : Event) (draft : StreamDraft) (deposit : Amount) (next : StreamId) (opens : event.opens = true)
      (normal : draft.assetType.IsNormal) (registered : s.assets.get? draft.assetType.key = some draft.asset)
      (funded : deposit.val ≠ 0) (schedule : draft.start < draft.stop) (unfinished : env.now < draft.stop)
      (advanced : next.val = s.nextStreamId.val + 1) :
    Change env s event { s.putStream s.nextStreamId (draft.toStream s.nextStreamId deposit env.now) with
      nextStream := some next }
  | withdrawn (caller : Caller) (id : StreamId) (config : Config) (stream left : Stream) (amount : Amount)
      (configured : s.config = some config) (unpaused : config.paused = false)
      (found : s.streams.get? id = some stream) (recipient : caller.sender = stream.recipient)
      (released : released stream env.now = .ok (amount, left)) :
    Change env s (.execute caller (.withdraw id)) (s.putStream id left)
  | delivered (caller : Caller) (e : DeliveryEvent) (packet : Packet) (id : StreamId) (config : Config)
      (stream left : Stream) (amount : Amount) (configured : s.config = some config)
      (sender : caller.sender = config.endpoint) (active : config.lifecycle = .active)
      (unpaused : config.paused = false) (rebuilt : e.rebuild = .ok packet)
      (request : WithdrawRequest.parse packet.payload = .ok (.withdraw id))
      (found : s.streams.get? id = some stream) (released : released stream env.now = .ok (amount, left)) :
    Change env s (.execute caller (.deliver e)) { s.putStream id left with
      processed := s.processed.insert packet.hash packet.nonce }
  | requested (caller : Caller) (chain : ChainId) (value : Amount) :
    Change env s (.execute caller (.requestRemoteWithdraw chain value)) s

theorem change_of_openStream {draft : StreamDraft} {deposit : Amount} {sender : Account} {terms : StreamTerms}
    (opens : event.opens = true) (hdraft : draft.IsFor s sender terms)
    (h : (openStream env draft deposit).commit s = .ok (r, t)) : Change env s event t := by
  obtain ⟨-, -, htyped, hasset, -, -⟩ := hdraft
  obtain ⟨-, hfunded, hstart, hnow, next, hnext, rfl⟩ := openStream_ok h
  exact .opened event draft deposit next opens (TypeTag.isNormal_of_parse htyped) hasset hfunded hstart hnow hnext

/-- **Every event that lands changes the storage in one of these ways.** -/
theorem change_of_landed (h : (event.run env).commit s = .ok (r, t)) : Change env s event t := by
  cases event with
  | create caller setup =>
    obtain ⟨hchain, -, rfl⟩ := create_ok h
    exact .created caller setup hchain
  | reply id =>
    obtain ⟨rfl, -, config, hconfig, hstage, rfl⟩ := registered_ok h
    exact .registered config hconfig hstage
  | upgrade =>
    obtain ⟨-, rfl⟩ := upgrade_ok h
    exact .upgraded
  | execute caller call =>
    cases call with
    | appoint admin authority =>
      obtain ⟨config, _, hconfig, howner, hstage, -, -, rfl⟩ := appoint_ok h
      exact .appointed caller admin authority config hconfig howner hstage
    | pause =>
      obtain ⟨-, config, hconfig, hadmin, rfl⟩ := setPaused_ok h
      exact .stopped caller config hconfig hadmin
    | unpause =>
      obtain ⟨-, config, hconfig, hadmin, rfl⟩ := setPaused_ok h
      exact .resumed caller config hconfig hadmin
    | setTrustedRemote chain text =>
      obtain ⟨-, ⟨config, hconfig, hauthority⟩, hchain, address, hread, hzero, rfl⟩ := setTrustedRemote_ok h
      exact .trusted caller chain text config address hconfig hauthority hchain hread hzero
    | setCoinMap chain text assetType =>
      obtain ⟨-, ⟨config, hconfig, hauthority⟩, hchain, address, tag, hread, htag, rfl⟩ := setCoinMap_ok h
      exact .mapped caller chain text assetType config address tag hconfig hauthority hchain hread htag
    | registerAsset assetType holding =>
      obtain ⟨-, ⟨config, hconfig, hauthority⟩, tag, normal, htag, hread, rfl⟩ := registerAsset_ok h
      exact .assigned caller assetType holding normal config tag hconfig hauthority htag hread
    | createStream terms =>
      obtain ⟨draft, coin, hdraft, -, -, h⟩ := createStream_ok h
      exact change_of_openStream rfl hdraft h
    | receive hook =>
      obtain ⟨draft, terms, -, hdraft, -, h⟩ := receive_ok h
      exact change_of_openStream rfl hdraft h
    | withdraw id =>
      obtain ⟨config, stream, amount, left, hconfig, hpaused, hfound, hrecipient, hleft, -, rfl⟩ := withdraw_ok h
      exact .withdrawn caller id config stream left amount hconfig hpaused hfound hrecipient hleft
    | deliver e =>
      obtain ⟨config, packet, id, stream, _, _, amount, left, hconfig, hsender, hactive, hpaused, hpacket, -, -, -, -,
        hrequest, hfound, -, -, -, hleft, -, rfl⟩ := deliver_ok h
      exact .delivered caller e packet id config stream left amount hconfig hsender hactive hpaused hpacket hrequest
        hfound hleft
    | requestRemoteWithdraw chain value =>
      obtain ⟨_, _, _, -, -, -, -, -, -, rfl⟩ := requestRemoteWithdraw_ok h
      exact .requested caller chain value

end VestingBridge.Bridge
