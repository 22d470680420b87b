import VestingBridge.Bridge.Event
import VestingBridge.Proofs.Account
import VestingBridge.Proofs.Handler
import VestingBridge.Proofs.Stream
/-!
# Proofs.Bridge.Calls — what a call to a bridge that landed did

One theorem for each call (`withdraw_ok`, `deliver_ok`, ...): the conditions that it checked, the storage after it in
terms of the storage before it, and the messages that it sent.  Nothing later unfolds a call again.
-/
namespace VestingBridge.Bridge

open Handler

variable {env : Env} {caller : Caller} {s t : Store} {r : Response}

/-! ## Looks at the storage -/

theorem loadConfig_eq_ok_iff {config : Config} : s.loadConfig = .ok config ↔ s.config = some config := by
  unfold Store.loadConfig
  cases s.config <;> simp

theorem verifyAuthority_ok {sender authority : Account} (h : s.verifyAuthority sender = .ok authority) :
    ∃ config, s.config = some config ∧ config.authority = some sender := by
  unfold Store.verifyAuthority at h
  cases hconfig : s.loadConfig with
  | error e =>
    rw [hconfig] at h
    cases h
  | ok config =>
    rw [hconfig] at h
    refine ⟨config, loadConfig_eq_ok_iff.1 hconfig, ?_⟩
    dsimp only [bind, Except.bind] at h
    split at h
    · cases h
    · rename_i other hother
      split at h
      · rename_i hsender
        rw [hother, hsender]
      · cases h

theorem remote_eq_ok_iff {chain : ChainId} {address : WireAddress} :
    s.remote chain = .ok address ↔ s.remotes.get? chain = some address := by
  unfold Store.remote
  cases s.remotes.get? chain <;> simp

theorem verifySender_eq_ok_iff {chain : ChainId} {address : WireAddress} {u : Unit} :
    s.verifySender chain address = .ok u ↔ s.remotes.get? chain = some address := by
  unfold Store.verifySender Store.isTrusted
  split <;> simp_all

theorem remoteCoin_eq_ok_iff {chain : ChainId} {tag : TypeTag} {address : WireAddress} :
    s.remoteCoin chain tag = .ok address ↔ s.remoteCoins.get? (chain, tag.key) = some address := by
  unfold Store.remoteCoin
  cases s.remoteCoins.get? (chain, tag.key) <;> simp

theorem localCoin_eq_ok_iff {key : Octets} {tag : TypeTag} :
    s.localCoin key = .ok tag ↔ s.localCoins.get? key = some tag := by
  unfold Store.localCoin
  cases s.localCoins.get? key <;> simp

theorem asset_eq_ok_iff {tag : TypeTag} {holding : Holding} :
    s.asset tag = .ok holding ↔ s.assets.get? tag.key = some holding := by
  unfold Store.asset
  cases s.assets.get? tag.key <;> simp

theorem stream_eq_ok_iff {id : StreamId} {stream : Stream} :
    s.stream id = .ok stream ↔ s.streams.get? id = some stream := by
  unfold Store.stream
  cases s.streams.get? id <;> simp

/-! ## Coming into service -/

theorem create_ok {setup : Setup} (h : (create caller setup).commit s = .ok (r, t)) :
    setup.localChain.val ≠ 0 ∧ r.messages = [] ∧
    t = { s with
      version := some codeVersion
      nextStream := some StreamId.zero
      config := some {
        owner := caller.sender, endpoint := setup.endpoint, localChain := setup.localChain, admin := none,
        authority := none, lifecycle := .uninitialized, paused := false } } := by
  simp only [create, commit_modify_bind, commit_check_bind, commit_require_bind, commit_pure_eq_ok_iff] at h
  obtain ⟨endpoint, hendpoint, hchain, rfl, rfl⟩ := h
  cases Account.validate_ok hendpoint
  exact ⟨hchain, rfl, rfl⟩

theorem appoint_ok {admin authority : String} (h : (appoint env caller admin authority).commit s = .ok (r, t)) :
    ∃ config typeInfo, s.config = some config ∧ caller.sender = config.owner ∧ config.lifecycle = .uninitialized ∧
      TypeTag.ofParts env.self "stream" "StreamBridge" = .ok typeInfo ∧
      r.messages = [⟨.call config.endpoint (.endpoint (.register typeInfo)) [], some registrationReply⟩] ∧
      t = { s with config := some { config with
        admin := some admin, authority := some authority, lifecycle := .initialized } } := by
  simp only [appoint, commit_look_bind, commit_check_bind, commit_require_bind, commit_modify_bind,
    commit_pure_eq_ok_iff] at h
  obtain ⟨config, hconfig, howner, hstage, admin', hadmin, authority', hauthority, typeInfo, htype, rfl, rfl⟩ := h
  cases Account.validate_ok hadmin
  cases Account.validate_ok hauthority
  exact ⟨config, typeInfo, loadConfig_eq_ok_iff.1 hconfig, howner, hstage, htype, rfl, rfl⟩

theorem registered_ok {id : ReplyId} (h : (registered id).commit s = .ok (r, t)) :
    id = registrationReply ∧ r.messages = [] ∧ ∃ config, s.config = some config ∧ config.lifecycle = .initialized ∧
      t = { s with config := some { config with lifecycle := .active } } := by
  simp only [registered, commit_look_bind, commit_require_bind, commit_modify_bind, commit_pure_eq_ok_iff] at h
  obtain ⟨hid, config, hconfig, hstage, rfl, rfl⟩ := h
  exact ⟨hid, rfl, config, loadConfig_eq_ok_iff.1 hconfig, hstage, rfl⟩

theorem setPaused_ok {paused : Bool} {action : String} (h : (setPaused caller paused action).commit s = .ok (r, t)) :
    r.messages = [] ∧ ∃ config, s.config = some config ∧ config.admin = some caller.sender ∧
      t = { s with config := some { config with paused } } := by
  simp only [setPaused, commit_look_bind, commit_require_bind, commit_modify_bind, commit_pure_eq_ok_iff] at h
  obtain ⟨config, hconfig, hadmin, rfl, rfl⟩ := h
  exact ⟨rfl, config, loadConfig_eq_ok_iff.1 hconfig, hadmin, rfl⟩

theorem upgrade_ok (h : upgrade.commit s = .ok (r, t)) :
    r.messages = [] ∧ t = { s with version := some codeVersion } := by
  simp only [upgrade, commit_modify_bind, commit_pure_eq_ok_iff] at h
  obtain ⟨rfl, rfl⟩ := h
  exact ⟨rfl, rfl⟩

/-! ## The registries -/

theorem setTrustedRemote_ok {chain : ChainId} {text : String}
    (h : (setTrustedRemote caller chain text).commit s = .ok (r, t)) :
    r.messages = [] ∧ (∃ config, s.config = some config ∧ config.authority = some caller.sender) ∧ chain.val ≠ 0 ∧
      ∃ address, WireAddress.ofHex text = .ok address ∧ address.isZero = false ∧
        t = { s with remotes := s.remotes.insert chain address } := by
  simp only [setTrustedRemote, commit_look_bind, commit_check_bind, commit_require_bind, commit_modify_bind,
    commit_pure_eq_ok_iff] at h
  obtain ⟨authority, hauthority, address, haddress, hchain, hzero, rfl, rfl⟩ := h
  exact ⟨rfl, verifyAuthority_ok hauthority, hchain, address, haddress, by simpa using hzero, rfl⟩

theorem setCoinMap_ok {chain : ChainId} {text assetType : String}
    (h : (setCoinMap caller chain text assetType).commit s = .ok (r, t)) :
    r.messages = [] ∧ (∃ config, s.config = some config ∧ config.authority = some caller.sender) ∧ chain.val ≠ 0 ∧
      ∃ address tag, WireAddress.ofHex text = .ok address ∧ TypeTag.parse assetType = .ok tag ∧
        t = { s with
          localCoins := s.localCoins.insert tag.key tag
          remoteCoins := s.remoteCoins.insert (chain, tag.key) address } := by
  simp only [setCoinMap, commit_look_bind, commit_check_bind, commit_require_bind, commit_modify_bind,
    commit_pure_eq_ok_iff] at h
  obtain ⟨authority, hauthority, address, haddress, tag, htag, hchain, rfl, rfl⟩ := h
  exact ⟨rfl, verifyAuthority_ok hauthority, hchain, address, tag, haddress, htag, rfl⟩

theorem registerAsset_ok {assetType : String} {holding : Holding}
    (h : (registerAsset caller assetType holding).commit s = .ok (r, t)) :
    r.messages = [] ∧ (∃ config, s.config = some config ∧ config.authority = some caller.sender) ∧
      ∃ tag normal, TypeTag.parse assetType = .ok tag ∧ normalHolding holding = .ok normal ∧
        t = { s with assets := s.assets.insert tag.key normal } := by
  simp only [registerAsset, commit_look_bind, commit_check_bind, commit_ofExcept_bind, commit_modify_bind,
    commit_pure_eq_ok_iff] at h
  obtain ⟨authority, hauthority, tag, htag, normal, hnormal, rfl, rfl⟩ := h
  exact ⟨rfl, verifyAuthority_ok hauthority, tag, normal, htag, hnormal, rfl⟩

/-! ## Streams that are opened -/

theorem openStream_ok {draft : StreamDraft} {deposit : Amount}
    (h : (openStream env draft deposit).commit s = .ok (r, t)) :
    r.messages = [] ∧ deposit.val ≠ 0 ∧ draft.start < draft.stop ∧ env.now < draft.stop ∧
      ∃ next : StreamId, next.val = s.nextStreamId.val + 1 ∧
        t = { s.putStream s.nextStreamId (draft.toStream s.nextStreamId deposit env.now) with
          nextStream := some next } := by
  simp only [openStream, commit_get_bind, commit_require_bind, commit_modify_bind] at h
  obtain ⟨hdeposit, hstart, hnow, h⟩ := h
  split at h
  · simp only [commit_bind_eq_ok_iff, commit_throw_eq_ok_iff, false_and, exists_false] at h
  · rename_i next hnext
    simp only [commit_modify_bind, commit_pure_eq_ok_iff] at h
    obtain ⟨rfl, rfl⟩ := h
    exact ⟨rfl, hdeposit, hstart, hnow, next, Word.succ?_eq_some_iff.1 hnext, rfl⟩

/-- The draft of a stream on some terms, in the holding that is registered for its type. -/
def StreamDraft.IsFor (draft : StreamDraft) (s : Store) (sender : Account) (terms : StreamTerms) : Prop :=
  draft.sender = sender ∧ draft.recipient = terms.recipient ∧ TypeTag.parse terms.assetType = .ok draft.assetType ∧
    s.assets.get? draft.assetType.key = some draft.asset ∧ draft.start = terms.start ∧ draft.stop = terms.stop

theorem commit_draftOf_bind {α : Type} {sender : Account} {terms : StreamTerms} {f : StreamDraft → Step α} {a : α}
    (h : (draftOf sender terms >>= f).commit s = .ok (a, t)) :
    ∃ draft : StreamDraft, draft.IsFor s sender terms ∧ (f draft).commit s = .ok (a, t) := by
  simp only [draftOf, bind_assoc, pure_bind, commit_look_bind, commit_check_bind] at h
  obtain ⟨recipient, hrecipient, tag, htag, asset, hasset, h⟩ := h
  cases Account.validate_ok hrecipient
  refine ⟨_, ?_, h⟩
  exact ⟨rfl, rfl, htag, asset_eq_ok_iff.1 hasset, rfl, rfl⟩

theorem createStream_ok {terms : StreamTerms} (h : (createStream env caller terms).commit s = .ok (r, t)) :
    ∃ (draft : StreamDraft) (coin : Coin), draft.IsFor s caller.sender terms ∧ caller.funds = [coin] ∧
      draft.asset = .native coin.denom ∧ (openStream env draft coin.amount).commit s = .ok (r, t) := by
  obtain ⟨draft, hdraft, h⟩ := commit_draftOf_bind h
  split at h
  · rw [commit_throw_eq_ok_iff] at h
    cases h
  · rename_i denom hdenom
    split at h
    · rename_i coin hfunds
      rw [commit_require_bind] at h
      obtain ⟨hcoin, h⟩ := h
      exact ⟨draft, coin, hdraft, hfunds, by rw [hdenom, hcoin], h⟩
    · rw [commit_throw_eq_ok_iff] at h
      cases h

theorem receive_ok {hook : TokenHook} (h : (receive env caller hook).commit s = .ok (r, t)) :
    ∃ (draft : StreamDraft) (terms : StreamTerms), HookCall.ofPayload hook.payload = .ok (.createStream terms) ∧
      draft.IsFor s hook.sender terms ∧ draft.asset = .token caller.sender ∧
      (openStream env draft hook.amount).commit s = .ok (r, t) := by
  simp only [receive, commit_check_bind, commit_ofExcept_bind] at h
  obtain ⟨sender, hsender, ⟨terms⟩, hcall, h⟩ := h
  cases Account.validate_ok hsender
  obtain ⟨draft, hdraft, h⟩ := commit_draftOf_bind h
  rw [commit_require_bind] at h
  exact ⟨draft, terms, hcall, hdraft, h.1, h.2⟩

/-! ## Streams that are drawn on -/

theorem released_ok {stream left : Stream} {now : Seconds} {amount : Amount}
    (h : released stream now = .ok (amount, left)) :
    amount = stream.withdrawable now ∧ amount.val ≠ 0 ∧
      ∃ withdrawn : Amount, withdrawn.val = stream.withdrawn.val + amount.val ∧ left = { stream with withdrawn } := by
  unfold released at h
  split at h
  · rename_i hrelease
    cases h
    simp only [Stream.release] at hrelease
    split at hrelease
    · cases hrelease
    · rename_i hamount
      split at hrelease
      · rename_i withdrawn hsum
        cases hrelease
        exact ⟨rfl, hamount, withdrawn, Word.add?_eq_some_iff.1 hsum, rfl⟩
      · cases hrelease
  · cases h
  · cases h

/-- **A release takes all that has vested**, if that is more than was withdrawn. -/
theorem released_eq (stream : Stream) (now : Seconds) : released stream now =
    if stream.vested now ≤ stream.withdrawn then .error (.nothingToWithdraw stream.id)
    else .ok (stream.withdrawable now, { stream with withdrawn := stream.vested now }) := by
  rw [released, Stream.release_eq]
  by_cases hnothing : stream.vested now ≤ stream.withdrawn
  · simp only [if_pos hnothing]
  · simp only [if_neg hnothing]

theorem withdraw_ok {id : StreamId} (h : (withdraw env caller id).commit s = .ok (r, t)) :
    ∃ config stream amount left, s.config = some config ∧ config.paused = false ∧
      s.streams.get? id = some stream ∧ caller.sender = stream.recipient ∧
      released stream env.now = .ok (amount, left) ∧
      r.messages = [⟨left.payout amount, none⟩] ∧ t = s.putStream id left := by
  simp only [withdraw, commit_look_bind, commit_ofExcept_bind, commit_require_bind, commit_modify_bind,
    commit_pure_eq_ok_iff] at h
  obtain ⟨config, hconfig, hpaused, stream, hstream, hsender, ⟨amount, left⟩, hleft, rfl, rfl⟩ := h
  exact ⟨config, stream, amount, left, loadConfig_eq_ok_iff.1 hconfig, by simpa using hpaused,
    stream_eq_ok_iff.1 hstream, hsender, hleft, rfl, rfl⟩

/-- **The recipient is paid what may be withdrawn**, unless the bridge is paused. -/
theorem withdraw_lands {id : StreamId} {config : Config} {stream : Stream} (configured : s.config = some config)
    (unpaused : config.paused = false) (found : s.streams.get? id = some stream)
    (recipient : caller.sender = stream.recipient) (due : stream.withdrawn < stream.vested env.now) :
    ∃ r, (withdraw env caller id).commit s =
        .ok (r, s.putStream id { stream with withdrawn := stream.vested env.now }) ∧
      r.messages = [⟨stream.asset.payment stream.recipient (stream.withdrawable env.now), none⟩] := by
  have hmore : ¬stream.vested env.now ≤ stream.withdrawn := Nat.not_le_of_lt due
  simp only [withdraw, commit_look_bind, commit_ofExcept_bind, commit_require_bind, commit_modify_bind,
    commit_pure_eq_ok_iff]
  exact ⟨_, ⟨config, loadConfig_eq_ok_iff.2 configured, by simp [unpaused], stream, stream_eq_ok_iff.2 found, recipient,
    _, (released_eq stream env.now).trans (if_neg hmore), rfl, rfl⟩, rfl⟩

theorem refused_withdraw {id : StreamId} {config : Config} {stream : Stream} (configured : s.config = some config)
    (unpaused : config.paused = false) (found : s.streams.get? id = some stream)
    (recipient : caller.sender = stream.recipient) (nothing : stream.vested env.now ≤ stream.withdrawn) :
    (withdraw env caller id).commit s = .error (.nothingToWithdraw stream.id) := by
  simp only [withdraw, refused_look_bind, refused_ofExcept_bind, refused_require_bind, refused_modify_bind,
    refused_pure]
  exact .inr ⟨config, loadConfig_eq_ok_iff.2 configured, .inr ⟨by simp [unpaused], .inr ⟨stream,
    stream_eq_ok_iff.2 found, .inr ⟨recipient, .inl ((released_eq stream env.now).trans (if_pos nothing))⟩⟩⟩⟩

theorem deliver_ok {event : DeliveryEvent} (h : (deliver env caller event).commit s = .ok (r, t)) :
    ∃ config packet id stream remoteAsset tag amount left, s.config = some config ∧
      caller.sender = config.endpoint ∧ config.lifecycle = .active ∧ config.paused = false ∧
      event.rebuild = .ok packet ∧ packet.dstChain = config.localChain ∧ env.self.wire = .ok packet.dst ∧
      s.remotes.get? packet.srcChain = some packet.src ∧ s.processed.get? packet.hash = none ∧
      WithdrawRequest.parse packet.payload = .ok (.withdraw id) ∧ s.streams.get? id = some stream ∧
      s.remoteCoins.get? (packet.srcChain, stream.assetType.key) = some remoteAsset ∧
      s.localCoins.get? stream.assetType.key = some tag ∧ s.assets.get? tag.key = some stream.asset ∧
      released stream env.now = .ok (amount, left) ∧
      r.messages = [⟨left.payout amount, none⟩] ∧
      t = { s.putStream id left with processed := s.processed.insert packet.hash packet.nonce } := by
  simp only [deliver, requireActive, applyWithdraw, bind_assoc, pure_bind, commit_look_bind, commit_check_bind,
    commit_ofExcept_bind, commit_get_bind, commit_require_bind, commit_modify_bind, commit_pure_eq_ok_iff] at h
  obtain ⟨config, hconfig, hsender, hactive, hpaused, packet, hpacket, hchain, here, hhere, hdst, _, htrusted, hnew,
    ⟨id⟩, hrequest, stream, hstream, remoteAsset, hremote, tag, htag, asset, hasset, hsame, ⟨amount, left⟩, hleft,
    rfl, rfl⟩ := h
  subst hdst hsame
  exact ⟨config, packet, id, stream, remoteAsset, tag, amount, left, loadConfig_eq_ok_iff.1 hconfig, hsender, hactive,
    by simpa using hpaused, hpacket, hchain, hhere, verifySender_eq_ok_iff.1 htrusted,
    by simpa [Table.contains] using hnew, hrequest, stream_eq_ok_iff.1 hstream, remoteCoin_eq_ok_iff.1 hremote,
    localCoin_eq_ok_iff.1 htag, asset_eq_ok_iff.1 hasset, hleft, rfl, rfl⟩

theorem requestRemoteWithdraw_ok {chain : ChainId} {value : Amount}
    (h : (requestRemoteWithdraw caller chain value).commit s = .ok (r, t)) :
    ∃ config id remote, s.config = some config ∧ config.lifecycle = .active ∧ config.paused = false ∧
      WithdrawRequest.operand? value = .ok id ∧ s.remotes.get? chain = some remote ∧
      r.messages = [⟨.call config.endpoint (.endpoint (.send chain remote.octets (WithdrawRequest.withdraw id).encode))
        caller.funds, none⟩] ∧ t = s := by
  simp only [requestRemoteWithdraw, requireActive, bind_assoc, commit_look_bind, commit_check_bind,
    commit_require_bind, commit_pure_eq_ok_iff] at h
  obtain ⟨config, hconfig, hactive, hpaused, id, hid, remote, hremote, rfl, rfl⟩ := h
  exact ⟨config, id, remote, loadConfig_eq_ok_iff.1 hconfig, hactive, by simpa using hpaused, hid,
    remote_eq_ok_iff.1 hremote, rfl, rfl⟩

/-- **A bridge in service asks for every stream whose number fits.** -/
theorem requestRemoteWithdraw_lands (caller : Caller) {config : Config} {chain : ChainId} {value : Amount}
    {id : StreamId} {remote : WireAddress} (configured : s.config = some config) (active : config.lifecycle = .active)
    (unpaused : config.paused = false) (fits : WithdrawRequest.operand? value = .ok id)
    (trusted : s.remotes.get? chain = some remote) :
    ∃ r t, (requestRemoteWithdraw caller chain value).commit s = .ok (r, t) := by
  simp only [requestRemoteWithdraw, requireActive, bind_assoc, commit_look_bind, commit_check_bind,
    commit_require_bind, commit_pure_eq_ok_iff]
  exact ⟨_, _, config, loadConfig_eq_ok_iff.2 configured, active, by simp [unpaused], id, fits, remote,
    remote_eq_ok_iff.2 trusted, rfl, rfl⟩

end VestingBridge.Bridge
