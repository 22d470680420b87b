import VestingBridge.Proofs.Bridge.Acceptance
import VestingBridge.Proofs.Bridge.Answers
import VestingBridge.Proofs.Bridge.Streams
import VestingBridge.Proofs.Endpoint.Calls
import VestingBridge.Session.World
/-!
# Proofs.Bridge.Foresight — what the answers of a bridge say of its calls

The answers are computed apart from the calls.  They say nevertheless what a call at the same time would do: what a
withdrawal pays, what a request carries and to whom, under which hash a delivery is recorded, where packets must go and
come from, and in what the value of a type is held.  Each lemma puts what is looked up for one answer beside the call
that it speaks of.  `Foresight` gathers them for the answers themselves, as whoever asks reads them.
-/
namespace VestingBridge.Bridge

open Handler

variable {self : Account} {env : Env} {now : Seconds} {s t u : Store} {caller : Caller} {config : Config}
  {r : Response} {log more : List Landing} {id : StreamId} {event : DeliveryEvent} {packet : Packet}

/-! ## Streams -/

/-- **A withdrawal pays what may be withdrawn**, and is refused if that is nothing. -/
theorem withdraw_of_view {view : StreamView} (configured : s.config = some config) (unpaused : config.paused = false)
    (found : s.streamView env.now id = some view) (numbered : view.stream.id = id)
    (recipient : caller.sender = view.stream.recipient) :
    (view.withdrawable.val ≠ 0 → ∃ r t, (withdraw env caller id).commit s = .ok (r, t) ∧
      Pays r.messages ⟨view.stream.asset, view.stream.recipient, view.withdrawable⟩) ∧
    (view.withdrawable.val = 0 → (withdraw env caller id).commit s = .error (.nothingToWithdraw id)) := by
  obtain ⟨stream, hfound, rfl⟩ := Option.map_eq_some_iff.1 found
  constructor
  · intro hdue
    have hmore : ¬stream.vested env.now ≤ stream.withdrawn := fun hle =>
      hdue (Stream.withdrawable_eq_zero_iff.2 hle)
    obtain ⟨r, hland, hmessages⟩ := withdraw_lands configured unpaused hfound recipient (Nat.lt_of_not_le hmore)
    exact ⟨r, _, hland, pays_iff.2 hmessages⟩
  · intro hnothing
    have hrefused := refused_withdraw configured unpaused hfound recipient (Stream.withdrawable_eq_zero_iff.1 hnothing)
    rwa [show stream.id = id from numbered] at hrefused

/-! ## Requests -/

/-- **A request carries the payload that is shown, to the address that is shown**, and both are refused alike for a
value that is no number of a stream. -/
theorem request_of_view {view : RemoteView} {chain : ChainId} (caller : Caller) (value : Amount)
    (configured : s.config = some config) (active : config.lifecycle = .active) (unpaused : config.paused = false)
    (trusted : s.remoteView chain = some view) :
    value.val < 0x10000000000000000 ∧ (∃ payload, withdrawPayload value = .ok payload ∧
      ∃ r t, (requestRemoteWithdraw caller chain value).commit s = .ok (r, t) ∧ r.messages =
        [⟨.call config.endpoint (.endpoint (.send chain view.address.octets payload)) caller.funds, none⟩]) ∨
    0x10000000000000000 ≤ value.val ∧ withdrawPayload value = .error (.request (.outOfRange value.val)) ∧
      (requestRemoteWithdraw caller chain value).commit s = .error (.request (.outOfRange value.val)) := by
  obtain ⟨remote, hremote, rfl⟩ := Option.map_eq_some_iff.1 trusted
  have hconfig := loadConfig_eq_ok_iff.2 configured
  have hpaused : (!config.paused) = true := by rw [unpaused]; rfl
  cases hoperand : (Word.ofNat? value.val : Option StreamId) with
  | some id =>
    have hfits : WithdrawRequest.operand? value = .ok id := by rw [WithdrawRequest.operand?, hoperand]
    have hid : id.val = value.val := Word.ofNat?_eq_some_iff.1 hoperand
    obtain ⟨r, t, hland⟩ := requestRemoteWithdraw_lands caller configured active unpaused hfits hremote
    obtain ⟨config', id', remote', hconfig', -, -, hfits', hremote', hmessages, -⟩ := requestRemoteWithdraw_ok hland
    cases configured.symm.trans hconfig'
    cases hfits.symm.trans hfits'
    cases hremote.symm.trans hremote'
    have hlt := id.isLt
    refine .inl ⟨by omega, _, ?_, r, t, hland, hmessages⟩
    rw [withdrawPayload, hfits]
    rfl
  | none =>
    have hrange : WithdrawRequest.operand? value = .error (.outOfRange value.val) := by
      rw [WithdrawRequest.operand?, hoperand]
    refine .inr ⟨Word.ofNat?_eq_none_iff.1 hoperand, by rw [withdrawPayload, hrange], ?_⟩
    simp only [requestRemoteWithdraw, requireActive, bind_assoc, refused_look_bind, refused_check_bind,
      refused_require_bind, refused_pure]
    exact .inr ⟨config, hconfig, .inr ⟨active, .inr ⟨hpaused, .inl ⟨_, hrange, rfl⟩⟩⟩⟩

/-! ## Packets -/

theorem packetView_eq_ok_iff {view : PacketView} :
    packetView event = .ok view ↔ ∃ packet, event.rebuild = .ok packet ∧ view = ⟨packet.encode, packet.hash⟩ := by
  unfold packetView
  cases event.rebuild <;> simp [eq_comm]

theorem packetView_eq_error_iff {error : ViewError} :
    packetView event = .error error ↔ ∃ e, event.rebuild = .error e ∧ error = .event e := by
  unfold packetView
  cases event.rebuild <;> simp [eq_comm]

theorem isProcessed_octets (s : Store) (hash : Digest) : s.isProcessed hash.octets = s.processed.contains hash :=
  dif_pos hash.length_eq

/-- **A delivery is recorded under the hash that is shown for its event**, and nothing else is. -/
theorem recorded_of_deliver (h : (deliver env caller event).commit s = .ok (r, t)) :
    ∃ view, packetView event = .ok view ∧ s.isProcessed view.hash.octets = false ∧
      ∀ hash, t.isProcessed hash = true ↔ s.isProcessed hash = true ∨ hash = view.hash.octets := by
  obtain ⟨config, packet, id, stream, hasks, -, rfl, -⟩ := accepted_of_deliver h
  refine ⟨_, packetView_eq_ok_iff.2 ⟨packet, hasks.rebuilt, rfl⟩, ?_, fun hash => ?_⟩
  · rw [isProcessed_octets, Table.contains, hasks.new]
    rfl
  · by_cases hlength : hash.length = 32
    · obtain ⟨digest, rfl⟩ : ∃ d : Digest, hash = d.octets := ⟨⟨hash, hlength⟩, rfl⟩
      rw [isProcessed_octets, isProcessed_octets, Store.afterDelivery, Table.contains, Table.get?_insert]
      by_cases hsame : digest = packet.hash
      · simp [hsame]
      · have hother : digest.octets ≠ packet.hash.octets := fun h => hsame (Digest.ext_octets h)
        simp [hsame, hother, Table.contains]
    · have hother : hash ≠ packet.hash.octets := fun h => hlength (h ▸ packet.hash.length_eq)
      simp [Store.isProcessed, hlength, hother]

/-- **What is shown as processed is never accepted again**, however it is put. -/
theorem Run.not_accepted_again (h : Run self s more t) {view : PacketView} (shown : packetView event = .ok view)
    (processed : s.isProcessed view.hash.octets = true) : (deliver env caller event).commit t ≠ .ok (r, u) := by
  intro hland
  obtain ⟨config, packet, id, stream, hasks, -⟩ := accepted_of_deliver hland
  obtain ⟨packet', hrebuilt, rfl⟩ := packetView_eq_ok_iff.1 shown
  cases hasks.rebuilt.symm.trans hrebuilt
  rw [isProcessed_octets] at processed
  obtain ⟨nonce, hnonce⟩ := Option.isSome_iff_exists.1 processed
  cases hasks.new.symm.trans (h.recorded.1 _ _ hnonce)

/-! ## The address of the bridge -/

/-- **A packet is accepted at no address but the one that is shown**, and is turned away for no other. -/
theorem target_of_configView {view : ConfigView} (h : s.configView env.self = .ok view) :
    (∀ r t, (deliver env caller event).commit s = .ok (r, t) →
      ∃ packet, event.rebuild = .ok packet ∧ packet.dst = view.wireAddress) ∧
    ∀ config packet, Heard s caller config → event.rebuild = .ok packet → packet.dstChain = config.localChain →
      ((deliver env caller event).commit s = .error (.wrongTarget packet.dst) ↔ packet.dst ≠ view.wireAddress) := by
  have hwire := (configView_eq_ok_iff.1 h).2
  constructor
  · intro r t hland
    obtain ⟨config, packet, id, stream, hasks, -⟩ := accepted_of_deliver hland
    exact ⟨packet, hasks.rebuilt, Except.ok.inj (hasks.addressed.symm.trans hwire)⟩
  · intro config packet hheard hrebuilt hchain
    exact hheard.refused_target_iff hrebuilt hchain hwire

/-- **The endpoint stamps the address that is shown on what the bridge sends.** -/
theorem source_of_configView {view : ConfigView} {endpoint endpoint' : Endpoint.Store} {chain : ChainId}
    {dst payload : Octets} (h : s.configView self = .ok view) (sender : caller.sender = self)
    (hsend : (Endpoint.send caller chain dst payload).commit endpoint = .ok (r, endpoint')) :
    ∃ packet, r.packet? = some packet ∧ packet.src = view.wireAddress := by
  obtain ⟨config, packet, -, -, -, hsrc, -, -, -, -, -, hshown, -⟩ := Endpoint.send_ok hsend
  rw [sender, (configView_eq_ok_iff.1 h).2] at hsrc
  exact ⟨packet, hshown, (Except.ok.inj hsrc).symm⟩

/-! ## Holdings and coins -/

/-- **A call offers value for a stream**: one native coin, or tokens that their contract reports. -/
inductive Offers : Event → StreamTerms → Holding → Prop
  | coin (caller : Caller) (coin : Coin) (terms : StreamTerms) (funds : caller.funds = [coin]) :
    Offers (.execute caller (.createStream terms)) terms (.native coin.denom)
  | tokens (caller : Caller) (hook : TokenHook) (terms : StreamTerms)
      (asks : HookCall.ofPayload hook.payload = .ok (.createStream terms)) :
    Offers (.execute caller (.receive hook)) terms (.token caller.sender)

theorem assetView_of_parse {text : String} {tag : TypeTag} (h : TypeTag.parse text = .ok tag) :
    s.assetView text = .ok (s.assets.get? tag.key) := by
  rw [Store.assetView, h]
  rfl

theorem assetView_congr {text text' : String} (h : TypeTag.parse text = TypeTag.parse text') :
    s.assetView text = s.assetView text' := by
  rw [Store.assetView, Store.assetView, h]

theorem remoteCoinView_of_parse {text : String} {tag : TypeTag} (chain : ChainId) (h : TypeTag.parse text = .ok tag) :
    s.remoteCoinView chain text = .ok ((s.remoteCoins.get? (chain, tag.key)).map (⟨chain, tag, ·⟩)) := by
  rw [Store.remoteCoinView, h]
  rfl

/-- What is opened from a draft is held as shown for the type of its terms. -/
theorem StreamDraft.IsFor.held_as_shown {draft : StreamDraft} {sender : Account} {terms : StreamTerms}
    {deposit : Amount} (hdraft : draft.IsFor s sender terms)
    (h : (openStream env draft deposit).commit s = .ok (r, t)) :
    (∀ text, TypeTag.parse text = TypeTag.parse terms.assetType → s.assetView text = .ok (some draft.asset)) ∧
      ∃ stream, t.streams.get? s.nextStreamId = some stream ∧ stream.asset = draft.asset := by
  obtain ⟨-, -, htyped, hasset, -⟩ := hdraft
  obtain ⟨-, -, -, -, next, -, rfl⟩ := openStream_ok h
  refine ⟨fun text hsame => ?_, draft.toStream s.nextStreamId deposit env.now, ?_, rfl⟩
  · rw [assetView_congr hsame, assetView_of_parse htyped, hasset]
  · exact (Table.get?_insert ..).trans (if_pos rfl)

/-- **A stream is opened with value in the holding that is shown for its type**, however it is spelled. -/
theorem opened_of_view {event : Event} (hopens : event.opens = true) (h : (event.run env).commit s = .ok (r, t)) :
    ∃ terms holding stream, Offers event terms holding ∧
      (∀ text, TypeTag.parse text = TypeTag.parse terms.assetType → s.assetView text = .ok (some holding)) ∧
      t.streams.get? s.nextStreamId = some stream ∧ stream.asset = holding := by
  unfold Event.opens at hopens
  split at hopens
  · rename_i caller terms
    obtain ⟨draft, coin, hdraft, hfunds, hasset, h⟩ := createStream_ok h
    obtain ⟨hview, stream, hstream, hheld⟩ := hdraft.held_as_shown h
    exact ⟨terms, _, stream, .coin caller coin terms hfunds, hasset ▸ hview, hstream, hheld.trans hasset⟩
  · rename_i caller hook
    obtain ⟨draft, terms, hasks, hdraft, hasset, h⟩ := receive_ok h
    obtain ⟨hview, stream, hstream, hheld⟩ := hdraft.held_as_shown h
    exact ⟨terms, _, stream, .tokens caller hook terms hasks, hasset ▸ hview, hstream, hheld.trans hasset⟩
  · cases hopens

theorem Offers.unique {event : Event} {terms terms' : StreamTerms} {holding holding' : Holding}
    (h : Offers event terms holding) (h' : Offers event terms' holding') : terms = terms' ∧ holding = holding' := by
  cases h with
  | coin caller coin terms funds =>
    cases h' with
    | coin _ coin' _ funds' =>
      cases funds.symm.trans funds'
      exact ⟨rfl, rfl⟩
  | tokens caller hook terms asks =>
    cases h' with
    | tokens _ _ _ asks' =>
      cases asks.symm.trans asks'
      exact ⟨rfl, rfl⟩

theorem Offers.opens {event : Event} {terms : StreamTerms} {holding : Holding} (h : Offers event terms holding) :
    event.opens = true := by
  cases h <;> rfl

/-- An offer in another holding than the one that is shown is refused. -/
theorem Offers.refused {event : Event} {terms : StreamTerms} {holding : Holding} (h : Offers event terms holding)
    (other : s.assetView terms.assetType ≠ .ok (some holding)) : ∃ e, (event.run env).commit s = .error e := by
  cases hrun : (event.run env).commit s with
  | error e => exact ⟨e, rfl⟩
  | ok p =>
    obtain ⟨terms', holding', -, hoffers, hview, -⟩ := opened_of_view h.opens hrun
    obtain ⟨rfl, rfl⟩ := h.unique hoffers
    exact absurd (hview _ rfl) other

/-- **The entry that is shown for a type leads back to the type.** -/
theorem Coherent.named_of_view (h : Coherent s) {chain : ChainId} {text : String} {view : RemoteCoinView}
    (shown : s.remoteCoinView chain text = .ok (some view)) :
    TypeTag.parse text = .ok view.assetType ∧ s.localCoins.get? view.assetType.key = some view.assetType := by
  cases hparse : TypeTag.parse text with
  | error e =>
    rw [Store.remoteCoinView, hparse] at shown
    cases shown
  | ok tag =>
    rw [remoteCoinView_of_parse chain hparse, Except.ok.injEq] at shown
    obtain ⟨address, hmapped, rfl⟩ := Option.map_eq_some_iff.1 shown
    obtain ⟨-, found, hfound⟩ := h.forward chain tag.key address hmapped
    obtain ⟨hkey, hnormal⟩ := h.normal tag.key found hfound
    cases hnormal.eq_of_key (TypeTag.isNormal_of_parse hparse) hkey
    exact ⟨rfl, hfound⟩

/-- **A delivery is accepted only in the holding and for a coin that are shown for the stream's type.** -/
theorem Coherent.views_of_deliver (h : Coherent s) (hland : (deliver env caller event).commit s = .ok (r, t)) :
    ∃ config packet id stream, Asks env s caller event config packet id ∧ s.streams.get? id = some stream ∧
      ∀ text, TypeTag.parse text = .ok stream.assetType → s.assetView text = .ok (some stream.asset) ∧
        ∃ view, s.remoteCoinView packet.srcChain text = .ok (some view) := by
  obtain ⟨config, packet, id, stream, hasks, hpayable, -, -⟩ := accepted_of_deliver hland
  refine ⟨config, packet, id, stream, hasks, hpayable.found, fun text hparse => ?_⟩
  obtain ⟨address, hmapped⟩ := hpayable.mapped
  obtain ⟨tag, hnamed, hassigned⟩ := hpayable.held
  rw [(h.normal _ _ hnamed).1] at hassigned
  rw [assetView_of_parse hparse, remoteCoinView_of_parse _ hparse, hassigned, hmapped]
  exact ⟨rfl, _, rfl⟩

/-- **A delivery is refused as the answers for the stream's type say**: without a coin on the chain of its packet, and
with another holding than the deposit's. -/
theorem Coherent.refused_of_views (h : Coherent s) {stream : Stream} {text : String}
    (asks : Asks env s caller event config packet id) (found : s.streams.get? id = some stream)
    (named : TypeTag.parse text = .ok stream.assetType) :
    (s.remoteCoinView packet.srcChain text = .ok none →
      (deliver env caller event).commit s = .error (.noRemoteCoin stream.assetType packet.srcChain)) ∧
    ∀ view holding, s.remoteCoinView packet.srcChain text = .ok (some view) → s.assetView text = .ok (some holding) →
      holding ≠ stream.asset →
      (deliver env caller event).commit s = .error (.wrongHolding stream.asset holding) := by
  rw [remoteCoinView_of_parse _ named, assetView_of_parse named, Except.ok.injEq, Option.map_eq_none_iff]
  constructor
  · intro hnone
    exact refused_deliver_iff.2 (.inr ⟨config, packet, id, asks, .noRemoteCoin stream found hnone⟩)
  · intro view holding hshown hheld hother
    obtain ⟨address, hmapped, -⟩ := Option.map_eq_some_iff.1 (Except.ok.inj hshown)
    have hlocal := localCoin_eq_ok_iff.1 (h.localCoin_eq found (remoteCoin_eq_ok_iff.2 hmapped))
    exact refused_deliver_iff.2 (.inr ⟨config, packet, id, asks,
      .wrongHolding stream address stream.assetType holding found hmapped hlocal (Except.ok.inj hheld) hother⟩)

/-! ## All answers together -/

/-- **The answers foretell the calls.**
* `asked`: what is answered to a message is the answer to the question that it puts.
* `reports`: the answers are what is stored.
* `withdrawal`: what a stream shows as withdrawable is what its recipient is paid, and nothing is the refusal.
* `request`: the payload and the trusted address that are shown are those of a request.
* `unreadable`, `recorded`, `never_again`: an event without a hash is found unreadable by a delivery, a delivery is
  recorded under the hash of its event, and a hash that is shown as processed is that of no delivery to come.
* `target`, `source`: the address that is shown is the one that packets must have, and the one that they carry.
* `opened`, `refused`: streams are opened with value in the holding that is shown for the type, and in no other.
* `held`, `unheld`: the same holding, and the coin that is shown for a chain, decide on deliveries.
* `named`: the coin that is shown for a type is entered under the key of that type. -/
structure Foresight (env : Env) (ask : Querier) (s : Store) : Prop where
  asked : ∀ w : Session.World, w.get? env.self = some (.bridge s) → w.querier = ask → ∀ q : Question,
    w.ask env.now env.self q.toJson = (q.answer env ask s).mapError .bridgeView
  reports : Reports env ask s
  withdrawal : ∀ caller id config view, s.config = some config → config.paused = false →
    (Question.stream id).Finds env ask s StreamView.ofJson? (some view) → caller.sender = view.stream.recipient →
    (view.withdrawable.val ≠ 0 → ∃ r t, (withdraw env caller id).commit s = .ok (r, t) ∧
      Pays r.messages ⟨view.stream.asset, view.stream.recipient, view.withdrawable⟩) ∧
    (view.withdrawable.val = 0 → (withdraw env caller id).commit s = .error (.nothingToWithdraw id))
  request : ∀ caller value chain config view, s.config = some config → config.lifecycle = .active →
    config.paused = false → (Question.trustedRemote chain).Finds env ask s RemoteView.ofJson? (some view) →
    value.val < 0x10000000000000000 ∧
      (∃ payload, (Question.withdrawPayload value).Shows env ask s Json.octets? payload ∧
        ∃ r t, (requestRemoteWithdraw caller chain value).commit s = .ok (r, t) ∧ r.messages =
          [⟨.call config.endpoint (.endpoint (.send chain view.address.octets payload)) caller.funds, none⟩]) ∨
    0x10000000000000000 ≤ value.val ∧
      (Question.withdrawPayload value).answer env ask s = .error (.request (.outOfRange value.val)) ∧
      (requestRemoteWithdraw caller chain value).commit s = .error (.request (.outOfRange value.val))
  unreadable : ∀ caller config event error, Heard s caller config →
    ((deliver env caller event).commit s = .error (.event error) ↔
      (Question.packetHash event).answer env ask s = .error (.event error))
  recorded : ∀ caller event r t, (deliver env caller event).commit s = .ok (r, t) →
    ∃ view, (Question.packetHash event).Shows env ask s PacketView.ofJson? view ∧
      (Question.packetProcessed view.hash.octets).Shows env ask s Json.bool? false ∧
      ∀ hash, (Question.packetProcessed hash).Shows env ask t Json.bool? true ↔
        (Question.packetProcessed hash).Shows env ask s Json.bool? true ∨ hash = view.hash.octets
  never_again : ∀ hash more t, (Question.packetProcessed hash).Shows env ask s Json.bool? true →
    Run env.self s more t → ∀ now ask' caller event view,
      (Question.packetHash event).Shows ⟨env.self, now⟩ ask' t PacketView.ofJson? view → view.hash.octets = hash →
      ∀ r u, (deliver ⟨env.self, now⟩ caller event).commit t ≠ .ok (r, u)
  target : ∀ view, Question.config.Shows env ask s ConfigView.ofJson? view → ∀ caller event,
    (∀ r t, (deliver env caller event).commit s = .ok (r, t) →
      ∃ packet, event.rebuild = .ok packet ∧ packet.dst = view.wireAddress) ∧
    ∀ config packet, Heard s caller config → event.rebuild = .ok packet → packet.dstChain = config.localChain →
      ((deliver env caller event).commit s = .error (.wrongTarget packet.dst) ↔ packet.dst ≠ view.wireAddress)
  source : ∀ view, Question.config.Shows env ask s ConfigView.ofJson? view →
    ∀ (endpoint endpoint' : Endpoint.Store) (caller : Caller) chain dst payload r, caller.sender = env.self →
    (Endpoint.send caller chain dst payload).commit endpoint = .ok (r, endpoint') →
    ∃ packet, r.packet? = some packet ∧ packet.src = view.wireAddress
  opened : ∀ (event : Event) r t, event.opens = true → (event.run env).commit s = .ok (r, t) →
    ∃ terms holding stream, Offers event terms holding ∧
      (∀ text, TypeTag.parse text = TypeTag.parse terms.assetType →
        (Question.registeredAsset text).Finds env ask s Holding.ofJson? (some holding)) ∧
      t.streams.get? s.nextStreamId = some stream ∧ stream.asset = holding
  refused : ∀ event terms holding, Offers event terms holding →
    ¬(Question.registeredAsset terms.assetType).Finds env ask s Holding.ofJson? (some holding) →
    ∃ e, (event.run env).commit s = .error e
  held : ∀ caller event r t, (deliver env caller event).commit s = .ok (r, t) →
    ∃ config packet id stream, Asks env s caller event config packet id ∧ s.streams.get? id = some stream ∧
      ∀ text, TypeTag.parse text = .ok stream.assetType →
        (Question.registeredAsset text).Finds env ask s Holding.ofJson? (some stream.asset) ∧
        ∃ view, (Question.remoteCoin packet.srcChain text).Finds env ask s RemoteCoinView.ofJson? (some view)
  unheld : ∀ caller event config packet id stream text, Asks env s caller event config packet id →
    s.streams.get? id = some stream → TypeTag.parse text = .ok stream.assetType →
    ((Question.remoteCoin packet.srcChain text).Finds env ask s RemoteCoinView.ofJson? none →
      (deliver env caller event).commit s = .error (.noRemoteCoin stream.assetType packet.srcChain)) ∧
    ∀ view holding,
      (Question.remoteCoin packet.srcChain text).Finds env ask s RemoteCoinView.ofJson? (some view) →
      (Question.registeredAsset text).Finds env ask s Holding.ofJson? (some holding) → holding ≠ stream.asset →
      (deliver env caller event).commit s = .error (.wrongHolding stream.asset holding)
  named : ∀ chain text view,
    (Question.remoteCoin chain text).Finds env ask s RemoteCoinView.ofJson? (some view) →
    TypeTag.parse text = .ok view.assetType ∧
      (Question.localCoin view.assetType.key).Finds env ask s TypeTag.ofJson? (some view.assetType)

/-- **A message that puts a question is answered with the answer to it.** -/
theorem ask_toJson {w : Session.World} (h : w.get? env.self = some (.bridge s)) (q : Question) :
    w.ask env.now env.self q.toJson = (q.answer env w.querier s).mapError .bridgeView := by
  rw [Session.World.ask, h]
  simp only [Question.ofJson?_toJson]
  rfl

/-- **What a bridge answers is what its calls do**, in every storage that it comes to and at every time. -/
theorem answers_foretell (h : History self log s) (now : Seconds) (ask : Querier) :
    Foresight ⟨self, now⟩ ask s where
  asked w hw hask q := hask ▸ ask_toJson hw q
  reports := reports _ _ fun id stream hfound => (h.isSound hfound).normal
  withdrawal caller id config view configured unpaused found recipient := by
    rw [finds_stream_iff fun stream hfound => (h.isSound hfound).normal] at found
    obtain ⟨stream, hfound, rfl⟩ := Option.map_eq_some_iff.1 found
    exact withdraw_of_view configured unpaused found (h.isSound hfound).numbered recipient
  request caller value chain config view configured active unpaused trusted := by
    simp only [shows_withdrawPayload_iff, answer_withdrawPayload_eq_error_iff]
    exact request_of_view caller value configured active unpaused (finds_trustedRemote_iff.1 trusted)
  unreadable caller config event error heard := by
    rw [heard.refused_event_iff, answer_packetHash_eq_error_iff, packetView_eq_error_iff]
    simp
  recorded caller event r t hland := by
    simp only [shows_packetHash_iff, shows_packetProcessed_iff]
    exact recorded_of_deliver hland
  never_again hash more t processed hrun now ask' caller event view shown hhash r u := by
    rw [shows_packetProcessed_iff] at processed
    exact hrun.not_accepted_again (shows_packetHash_iff.1 shown) (hhash ▸ processed)
  target view shown caller event := target_of_configView (shows_config_iff.1 shown)
  source view shown endpoint endpoint' caller chain dst payload r sender hsend :=
    source_of_configView (shows_config_iff.1 shown) sender hsend
  opened event r t hopens hland := by
    simp only [finds_registeredAsset_iff]
    exact opened_of_view hopens hland
  refused event terms holding offers other := offers.refused fun hview => other (finds_registeredAsset_iff.2 hview)
  held caller event r t hland := by
    simp only [finds_registeredAsset_iff, finds_remoteCoin_iff]
    exact h.coherent.views_of_deliver hland
  unheld caller event config packet id stream text asks found named := by
    simp only [finds_registeredAsset_iff, finds_remoteCoin_iff]
    exact h.coherent.refused_of_views asks found named
  named chain text view shown := by
    rw [finds_localCoin_iff]
    exact h.coherent.named_of_view (finds_remoteCoin_iff.1 shown)

/-- After the requests of `respelled`, the stream shows a tenth of its deposit, which its recipient is paid. -/
theorem answers_foretell_respelled :
    ∃ log s view r t, History "bridge" log s ∧
      (Question.stream StreamId.zero).Finds ⟨"bridge", 180⟩ (fun address _ => .error (.noContract address)) s
        StreamView.ofJson? (some view) ∧
      view.withdrawable.val = 100 ∧ (withdraw ⟨"bridge", 180⟩ ⟨"bob", []⟩ StreamId.zero).commit s = .ok (r, t) ∧
      Pays r.messages ⟨view.stream.asset, "bob", view.withdrawable⟩ := by
  have hcheck : ((play "bridge" .empty respelled).map fun p => (p.2.config.map (·.paused),
      (p.2.streamView 180 StreamId.zero).map fun v => (v.stream.recipient, v.withdrawable.val))) =
      some (some false, some ("bob", 100)) := by
    decide +kernel
  obtain ⟨⟨log, s⟩, hplay, hcheck⟩ := Option.map_eq_some_iff.1 hcheck
  rw [Prod.mk.injEq] at hcheck
  obtain ⟨config, hconfig, hpaused⟩ := Option.map_eq_some_iff.1 hcheck.1
  obtain ⟨view, hview, hshown⟩ := Option.map_eq_some_iff.1 hcheck.2
  rw [Prod.mk.injEq] at hshown
  obtain ⟨hrecipient, hdue⟩ := hshown
  have h : History "bridge" log s := run_iff_play.2 ⟨respelled, hplay⟩
  have hforetold := answers_foretell h 180 fun address _ => .error (.noContract address)
  have hfinds : (Question.stream StreamId.zero).Finds ⟨"bridge", 180⟩ (fun address _ => .error (.noContract address)) s
      StreamView.ofJson? (some view) :=
    (finds_stream_iff fun stream hfound => (h.isSound hfound).normal).2 hview
  obtain ⟨r, t, hland, hpays⟩ :=
    (hforetold.withdrawal ⟨"bob", []⟩ StreamId.zero config view hconfig hpaused hfinds hrecipient.symm).1
      (by rw [hdue]; decide)
  rw [hrecipient] at hpays
  exact ⟨log, s, view, r, t, h, hfinds, hdue, hland, hpays⟩

end VestingBridge.Bridge
