import VestingBridge.Bridge.View
import VestingBridge.Proofs.Messages
import VestingBridge.Proofs.TypeTag
/-!
# Proofs.Bridge.Answers — questions and answers read back

A bridge reads every question as it was put.  Whoever puts it has a reader for the answer, one for each kind, which
takes an answer only if all of its members are there and agree with each other.  What is read back is what the bridge
has looked up.
-/
namespace VestingBridge

namespace Json

/-- A value that may be null. -/
def orNull? {α : Type} (j : Json) (read : Json → Option α) : Option (Option α) :=
  match j with
  | .null => some none
  | _ => (read j).map some

/-- A truth value. -/
def bool? : Json → Option Bool
  | .bool b => some b
  | _ => none

/-- An address in base 64. -/
def address? (j : Json) : Option WireAddress := do (WireAddress.ofOctets (← j.octets?)).toOption

/-- A hash in base 64. -/
def digest? (j : Json) : Option Digest := do
  let bs ← j.octets?
  if h : bs.length = 32 then some ⟨bs, h⟩ else none

/-- The type that a text names. -/
def typeName? (j : Json) : Option TypeTag := do (TypeTag.parse (← j.text?)).toOption

/-- A list of values of one kind. -/
def list? {α : Type} (j : Json) (read : Json → Option α) : Option (List α) := do (← j.items?).mapM read

variable {α : Type} {write : α → Json} {read : Json → Option α}

theorem orNull?_of_ne_null {j : Json} (h : j ≠ .null) : j.orNull? read = (read j).map some := by
  cases j with
  | null => exact absurd rfl h
  | bool | count | numeral | string | array | object => rfl

theorem orNull?_ofOption (a : Option α) (hread : ∀ b, a = some b → read (write b) = some b)
    (hwrite : ∀ b, write b ≠ .null) : (ofOption write a).orNull? read = some a := by
  cases a with
  | none => rfl
  | some b => rw [ofOption, orNull?_of_ne_null (hwrite b), hread b rfl, Option.map_some]

theorem list?_map (as : List α) (hread : ∀ a ∈ as, read (write a) = some a) :
    (array (as.map write)).list? read = some as := by
  rw [list?, items?, Option.bind_eq_bind, Option.bind_some]
  induction as with
  | nil => rfl
  | cons a as ih =>
    rw [List.map_cons, List.mapM_cons, hread a (List.mem_cons_self ..),
      ih fun b hb => hread b (List.mem_cons_of_mem a hb)]
    rfl

theorem address?_ofOctets (a : WireAddress) : (ofOctets a.octets).address? = some a := by
  rw [address?, octets?_ofOctets, Option.bind_eq_bind, Option.bind_some, WireAddress.ofOctets_octets]
  rfl

theorem digest?_ofOctets (d : Digest) : (ofOctets d.octets).digest? = some d := by
  rw [digest?, octets?_ofOctets, Option.bind_eq_bind, Option.bind_some, dif_pos d.length_eq]

theorem typeName?_name {t : TypeTag} (h : t.IsNormal) : (string t.name).typeName? = some t := by
  rw [typeName?, text?, Option.bind_eq_bind, Option.bind_some, h]
  rfl

end Json

namespace Record

variable {α : Type} {read : Json → Option α} {name other : String}

theorem optional?_cons_self (r : Record) (j : Json) : optional? ((name, j) :: r) name read = j.orNull? read := by
  rw [optional?, List.lookup_cons_self]
  cases j with
  | null => rfl
  | bool | count | numeral | string | array | object => rfl

theorem optional?_cons_of_ne (r : Record) (j : Json) (h : name ≠ other) :
    optional? ((other, j) :: r) name read = optional? r name read := by
  rw [optional?, List.lookup_cons, beq_false_of_ne h]
  rfl

end Record

namespace Holding

theorem ofJson?_toJson (h : Holding) : ofJson? h.toJson = some h := by
  cases h <;> rfl

theorem toJson_ne_null (h : Holding) : h.toJson ≠ .null := by
  cases h <;> exact nofun

end Holding

namespace Bridge

/-! ## Questions -/

theorem coinKey?_coinKeyToJson (k : ChainId × Octets) : Question.coinKey? (Question.coinKeyToJson k) = some k := by
  simp [Question.coinKey?, Question.coinKeyToJson, Json.items?, Json.word?_ofWord, Json.octets?_ofOctets]

/-- **A bridge reads a question as it was put.** -/
theorem Question.ofJson?_toJson (q : Question) : ofJson? q.toJson = some q := by
  cases q with
  | config | registration => rfl
  | trustedRemote | remoteCoin | localCoin | registeredAsset | stream | withdrawPayload | packetHash
  | packetProcessed =>
    simp [ofJson?, toJson, Json.variant, Json.variant?, Json.record?, Record.text?, Record.word?, Record.amount?,
      Record.octets?, Record.get?, List.lookup_cons, Json.text?, Json.word?_ofWord, Json.amount?_ofAmount,
      Json.octets?_ofOctets, DeliveryEvent.ofJson?_toJson]
  | trustedRemotes start limit =>
    have hstart := Json.orNull?_ofOption start (fun b _ => Json.word?_ofWord b) fun _ => nofun
    have hlimit := Json.orNull?_ofOption limit (fun b _ => Json.word?_ofWord b) fun _ => nofun
    simp [ofJson?, toJson, Json.variant, Json.variant?, Json.record?, Record.optional?_cons_self,
      Record.optional?_cons_of_ne, hstart, hlimit]
  | coinMappings start limit =>
    have hstart := Json.orNull?_ofOption start (fun b _ => coinKey?_coinKeyToJson b) fun _ => nofun
    have hlimit := Json.orNull?_ofOption limit (fun b _ => Json.word?_ofWord b) fun _ => nofun
    simp [ofJson?, toJson, Json.variant, Json.variant?, Json.record?, Record.optional?_cons_self,
      Record.optional?_cons_of_ne, hstart, hlimit]

/-! ## Answers -/

namespace Lifecycle

/-- The stage that a message stands for. -/
def ofJson? : Json → Option Lifecycle
  | .string "uninitialized" => some uninitialized
  | .string "initialized" => some initialized
  | .string "active" => some active
  | _ => none

theorem ofJson?_toJson (l : Lifecycle) : ofJson? l.toJson = some l := by
  cases l <;> rfl

end Lifecycle

namespace ConfigView

/-- What an answer says of the configuration. -/
def ofJson? (j : Json) : Option ConfigView := do
  let r ← j.record? ["owner", "endpoint", "local_chain_id", "admin", "authority", "lifecycle", "paused", "wire_address"]
  return ⟨⟨← r.text? "owner", ← r.text? "endpoint", ← r.word? "local_chain_id",
    ← r.get? "admin" (Json.orNull? · Json.text?), ← r.get? "authority" (Json.orNull? · Json.text?),
    ← r.get? "lifecycle" Lifecycle.ofJson?, ← r.get? "paused" Json.bool?⟩, ← r.get? "wire_address" Json.address?⟩

theorem ofJson?_toJson (v : ConfigView) : ofJson? v.toJson = some v := by
  obtain ⟨⟨owner, endpoint, localChain, admin, authority, lifecycle, paused⟩, wireAddress⟩ := v
  have hofficer (officer : Option Account) : (Json.ofOption .string officer).orNull? Json.text? = some officer :=
    Json.orNull?_ofOption officer (fun _ _ => rfl) fun _ => nofun
  simp [ofJson?, toJson, Config.members, Json.record?, Record.text?, Record.word?, Record.get?, List.lookup_cons,
    Json.text?, Json.bool?, Json.word?_ofWord, Lifecycle.ofJson?_toJson, Json.address?_ofOctets, hofficer]

end ConfigView

namespace RemoteView

/-- What an answer says of a trusted address. -/
def ofJson? (j : Json) : Option RemoteView := do
  let r ← j.record? ["chain_id", "address", "address_hex"]
  let v : RemoteView := ⟨← r.word? "chain_id", ← r.get? "address" Json.address?⟩
  if (← r.text? "address_hex") = v.address.toHex then some v else none

theorem ofJson?_toJson (v : RemoteView) : ofJson? v.toJson = some v := by
  simp [ofJson?, toJson, Json.record?, Record.text?, Record.word?, Record.get?, List.lookup_cons, Json.text?,
    Json.word?_ofWord, Json.address?_ofOctets]

/-- What an answer says of a page of trusted addresses. -/
def page? (j : Json) : Option (List RemoteView) := do
  (← j.record? ["remotes"]).get? "remotes" (Json.list? · ofJson?)

end RemoteView

namespace RemoteCoinView

/-- What an answer says of an asset of another chain. -/
def ofJson? (j : Json) : Option RemoteCoinView := do
  let r ← j.record? ["chain_id", "asset_type", "asset_type_bytes", "remote_asset", "remote_asset_evm"]
  let chain ← r.word? "chain_id"
  let assetType ← r.get? "asset_type" Json.typeName?
  let key ← r.octets? "asset_type_bytes"
  let remoteAsset ← r.get? "remote_asset" Json.address?
  let evm ← r.get? "remote_asset_evm" (Json.orNull? · Json.text?)
  if key = assetType.key ∧ evm = remoteAsset.toEvm? then some ⟨chain, assetType, remoteAsset⟩ else none

theorem ofJson?_toJson {v : RemoteCoinView} (h : v.assetType.IsNormal) : ofJson? v.toJson = some v := by
  obtain ⟨chain, assetType, remoteAsset⟩ := v
  have hevm : (Json.ofOption .string remoteAsset.toEvm?).orNull? Json.text? = some remoteAsset.toEvm? :=
    Json.orNull?_ofOption _ (fun _ _ => rfl) fun _ => nofun
  simp [ofJson?, toJson, Json.record?, Record.word?, Record.octets?, Record.get?, List.lookup_cons, Json.word?_ofWord,
    Json.typeName?_name h, Json.address?_ofOctets, Json.octets?_ofOctets, hevm]

end RemoteCoinView

namespace CoinMapping

/-- What an answer says of an entry of the mapping of assets. -/
def ofJson? (j : Json) : Option CoinMapping := do
  let r ← j.record? ["chain_id", "asset_type_bytes", "remote_asset"]
  return ⟨← r.word? "chain_id", ← r.octets? "asset_type_bytes", ← r.get? "remote_asset" Json.address?⟩

theorem ofJson?_toJson (v : CoinMapping) : ofJson? v.toJson = some v := by
  simp [ofJson?, toJson, Json.record?, Record.word?, Record.octets?, Record.get?, List.lookup_cons, Json.word?_ofWord,
    Json.octets?_ofOctets, Json.address?_ofOctets]

/-- What an answer says of a page of the mapping of assets. -/
def page? (j : Json) : Option (List CoinMapping) := do
  (← j.record? ["mappings"]).get? "mappings" (Json.list? · ofJson?)

end CoinMapping

namespace StreamView

/-- What an answer says of a stream. -/
def ofJson? (j : Json) : Option StreamView := do
  let r ← j.record? ["id", "sender", "recipient", "asset_type", "asset", "deposit", "withdrawn", "withdrawable",
    "start_time", "stop_time", "created_at"]
  return ⟨⟨← r.word? "id", ← r.text? "sender", ← r.text? "recipient", ← r.get? "asset_type" Json.typeName?,
    ← r.get? "asset" Holding.ofJson?, ← r.amount? "deposit", ← r.amount? "withdrawn", ← r.word? "start_time",
    ← r.word? "stop_time", ← r.word? "created_at"⟩, ← r.amount? "withdrawable"⟩

theorem ofJson?_toJson {v : StreamView} (h : v.stream.assetType.IsNormal) : ofJson? v.toJson = some v := by
  obtain ⟨⟨id, sender, recipient, assetType, asset, deposit, withdrawn, start, stop, created⟩, withdrawable⟩ := v
  simp [ofJson?, toJson, Json.record?, Record.text?, Record.word?, Record.amount?, Record.get?, List.lookup_cons,
    Json.text?, Json.word?_ofWord, Json.typeName?_name h, Holding.ofJson?_toJson, Json.amount?_ofAmount]

end StreamView

namespace PacketView

/-- What an answer says of a packet. -/
def ofJson? (j : Json) : Option PacketView := do
  let r ← j.record? ["packet", "hash"]
  return ⟨← r.octets? "packet", ← r.get? "hash" Json.digest?⟩

theorem ofJson?_toJson (v : PacketView) : ofJson? v.toJson = some v := by
  simp [ofJson?, toJson, Json.record?, Record.octets?, Record.get?, List.lookup_cons, Json.octets?_ofOctets,
    Json.digest?_ofOctets]

end PacketView

/-! ## What a question shows -/

/-- **A question shows something**: it is answered, and the answer is read as that. -/
def Question.Shows {α : Type} (q : Question) (env : Env) (ask : Querier) (s : Store) (read : Json → Option α) (a : α) :
    Prop :=
  ∃ answer, q.answer env ask s = .ok answer ∧ read answer = some a

/-- **A question finds something, or nothing**: it is answered, and the answer is read as that, or it is null. -/
def Question.Finds {α : Type} (q : Question) (env : Env) (ask : Querier) (s : Store) (read : Json → Option α)
    (a : Option α) : Prop :=
  q.Shows env ask s (Json.orNull? · read) a

section

variable {α : Type} {write : α → Json} {read : Json → Option α} {q : Question} {env : Env} {ask : Querier} {s : Store}
  {e : ViewError} {chain : ChainId} {text : String} {key hash payload : Octets} {id : StreamId} {value : Amount}
  {event : DeliveryEvent}

theorem shows_iff {v : Except ViewError α} {a : α} (hanswer : q.answer env ask s = v.map write)
    (hread : ∀ b, v = .ok b → read (write b) = some b) : q.Shows env ask s read a ↔ v = .ok a := by
  rw [Question.Shows, hanswer]
  cases v with
  | error e => simp [Except.map]
  | ok b => simp [Except.map, hread b rfl]

theorem finds_iff {v : Except ViewError (Option α)} {a : Option α}
    (hanswer : q.answer env ask s = v.map (Json.ofOption write))
    (hread : ∀ b, v = .ok (some b) → read (write b) = some b) (hwrite : ∀ b, write b ≠ .null) :
    q.Finds env ask s read a ↔ v = .ok a :=
  shows_iff hanswer fun b hv => Json.orNull?_ofOption b (fun c hb => hread c (hb ▸ hv)) hwrite

theorem answer_eq_error_iff {v : Except ViewError α} (hanswer : q.answer env ask s = v.map write) :
    q.answer env ask s = .error e ↔ v = .error e := by
  rw [hanswer]
  cases v <;> simp [Except.map]

theorem shows_config_iff {view : ConfigView} :
    Question.config.Shows env ask s ConfigView.ofJson? view ↔ s.configView env.self = .ok view :=
  shows_iff rfl fun b _ => b.ofJson?_toJson

theorem finds_trustedRemote_iff {view : Option RemoteView} :
    (Question.trustedRemote chain).Finds env ask s RemoteView.ofJson? view ↔ s.remoteView chain = view := by
  rw [finds_iff (v := .ok (s.remoteView chain)) rfl (fun b _ => b.ofJson?_toJson) fun _ => nofun, Except.ok.injEq]

theorem shows_trustedRemotes_iff {start : Option ChainId} {limit : Option PageSize} {views : List RemoteView} :
    (Question.trustedRemotes start limit).Shows env ask s RemoteView.page? views ↔
      s.remotePage start limit = views := by
  have hread (views : List RemoteView) :
      RemoteView.page? (.object [("remotes", .array (views.map RemoteView.toJson))]) = some views :=
    Json.list?_map views fun v _ => v.ofJson?_toJson
  rw [shows_iff (v := .ok (s.remotePage start limit)) rfl fun views _ => hread views, Except.ok.injEq]

theorem finds_remoteCoin_iff {view : Option RemoteCoinView} :
    (Question.remoteCoin chain text).Finds env ask s RemoteCoinView.ofJson? view ↔
      s.remoteCoinView chain text = .ok view := by
  refine finds_iff rfl (fun b hview => RemoteCoinView.ofJson?_toJson ?_) fun _ => nofun
  cases hparse : TypeTag.parse text with
  | error e =>
    rw [Store.remoteCoinView, hparse] at hview
    cases hview
  | ok tag =>
    rw [Store.remoteCoinView, hparse] at hview
    obtain ⟨address, -, rfl⟩ := Option.map_eq_some_iff.1 (Except.ok.inj hview)
    exact TypeTag.isNormal_of_parse hparse

theorem finds_localCoin_iff {tag : Option TypeTag} :
    (Question.localCoin key).Finds env ask s TypeTag.ofJson? tag ↔ s.localCoins.get? key = tag := by
  rw [finds_iff (v := .ok (s.localCoins.get? key)) rfl (fun b _ => b.ofJson?_toJson) fun _ => nofun,
    Except.ok.injEq]

theorem shows_coinMappings_iff {start : Option (ChainId × Octets)} {limit : Option PageSize}
    {views : List CoinMapping} :
    (Question.coinMappings start limit).Shows env ask s CoinMapping.page? views ↔ s.coinPage start limit = views := by
  have hread (views : List CoinMapping) :
      CoinMapping.page? (.object [("mappings", .array (views.map CoinMapping.toJson))]) = some views :=
    Json.list?_map views fun v _ => v.ofJson?_toJson
  rw [shows_iff (v := .ok (s.coinPage start limit)) rfl fun views _ => hread views, Except.ok.injEq]

theorem finds_registeredAsset_iff {holding : Option Holding} :
    (Question.registeredAsset text).Finds env ask s Holding.ofJson? holding ↔ s.assetView text = .ok holding :=
  finds_iff rfl (fun b _ => b.ofJson?_toJson) Holding.toJson_ne_null

theorem finds_stream_iff {view : Option StreamView}
    (hnormal : ∀ stream, s.streams.get? id = some stream → stream.assetType.IsNormal) :
    (Question.stream id).Finds env ask s StreamView.ofJson? view ↔ s.streamView env.now id = view := by
  have hread (b : StreamView) (hview : s.streamView env.now id = some b) : StreamView.ofJson? b.toJson = some b := by
    obtain ⟨stream, hfound, rfl⟩ := Option.map_eq_some_iff.1 hview
    exact StreamView.ofJson?_toJson (hnormal stream hfound)
  rw [finds_iff (v := .ok (s.streamView env.now id)) rfl (fun b h => hread b (Except.ok.inj h)) fun _ => nofun,
    Except.ok.injEq]

theorem shows_withdrawPayload_iff :
    (Question.withdrawPayload value).Shows env ask s Json.octets? payload ↔ withdrawPayload value = .ok payload :=
  shows_iff rfl fun b _ => Json.octets?_ofOctets b

theorem answer_withdrawPayload_eq_error_iff :
    (Question.withdrawPayload value).answer env ask s = .error e ↔ withdrawPayload value = .error e :=
  answer_eq_error_iff rfl

theorem shows_packetHash_iff {view : PacketView} :
    (Question.packetHash event).Shows env ask s PacketView.ofJson? view ↔ packetView event = .ok view :=
  shows_iff rfl fun b _ => b.ofJson?_toJson

theorem answer_packetHash_eq_error_iff :
    (Question.packetHash event).answer env ask s = .error e ↔ packetView event = .error e :=
  answer_eq_error_iff rfl

theorem shows_packetProcessed_iff {processed : Bool} :
    (Question.packetProcessed hash).Shows env ask s Json.bool? processed ↔ s.isProcessed hash = processed := by
  have hanswer : (Question.packetProcessed hash).answer env ask s = (Except.ok (s.isProcessed hash)).map .bool := rfl
  rw [shows_iff hanswer fun _ _ => rfl, Except.ok.injEq]

theorem isProcessed_eq_true_iff : s.isProcessed hash = true ↔ ∃ digest nonce, digest.octets = hash ∧
    s.processed.get? digest = some nonce := by
  unfold Store.isProcessed
  split
  · rename_i hlength
    rw [Table.contains, Option.isSome_iff_exists]
    constructor
    · rintro ⟨nonce, h⟩
      exact ⟨⟨hash, hlength⟩, nonce, rfl, h⟩
    · rintro ⟨digest, nonce, rfl, h⟩
      exact ⟨nonce, h⟩
  · rename_i hlength
    refine iff_of_false nofun ?_
    rintro ⟨digest, nonce, rfl, -⟩
    exact hlength digest.length_eq

theorem configView_eq_ok_iff {self : Account} {view : ConfigView} :
    s.configView self = .ok view ↔ s.config = some view.config ∧ self.wire = .ok view.wireAddress := by
  obtain ⟨config, wireAddress⟩ := view
  unfold Store.configView
  cases s.config with
  | none => simp
  | some stored =>
    cases self.wire with
    | error e => exact iff_of_false nofun fun h => nomatch h.2
    | ok here =>
      constructor
      · rintro ⟨⟩
        exact ⟨rfl, rfl⟩
      · rintro ⟨⟨⟩, ⟨⟩⟩
        rfl

/-- **The answers report the storage.**  Each is read as what is stored under its argument and is null where nothing is
stored; a question is refused only if its argument cannot be read, or if there is nothing to describe yet. -/
structure Reports (env : Env) (ask : Querier) (s : Store) : Prop where
  config : ∀ view, Question.config.Shows env ask s ConfigView.ofJson? view ↔
    s.config = some view.config ∧ env.self.wire = .ok view.wireAddress
  trustedRemote : ∀ chain, (Question.trustedRemote chain).Finds env ask s RemoteView.ofJson?
    ((s.remotes.get? chain).map (⟨chain, ·⟩))
  remoteCoin : ∀ chain text tag, TypeTag.parse text = .ok tag →
    (Question.remoteCoin chain text).Finds env ask s RemoteCoinView.ofJson?
      ((s.remoteCoins.get? (chain, tag.key)).map (⟨chain, tag, ·⟩))
  localCoin : ∀ key, (Question.localCoin key).Finds env ask s TypeTag.ofJson? (s.localCoins.get? key)
  registeredAsset : ∀ text tag, TypeTag.parse text = .ok tag →
    (Question.registeredAsset text).Finds env ask s Holding.ofJson? (s.assets.get? tag.key)
  untyped : ∀ text error, TypeTag.parse text = .error error →
    (Question.registeredAsset text).answer env ask s = .error (.typeTag error) ∧
    ∀ chain, (Question.remoteCoin chain text).answer env ask s = .error (.typeTag error)
  stream : ∀ id, (Question.stream id).Finds env ask s StreamView.ofJson?
    ((s.streams.get? id).map fun stream => ⟨stream, stream.withdrawable env.now⟩)
  withdrawPayload : ∀ value, value.val < 0x10000000000000000 ∧ (∃ id : StreamId, id.val = value.val ∧
      (Question.withdrawPayload value).Shows env ask s Json.octets? (WithdrawRequest.withdrawal id)) ∨
    0x10000000000000000 ≤ value.val ∧
      (Question.withdrawPayload value).answer env ask s = .error (.request (.outOfRange value.val))
  packetHash : ∀ event, (∃ packet, event.rebuild = .ok packet ∧
      (Question.packetHash event).Shows env ask s PacketView.ofJson? ⟨packet.encode, packet.hash⟩) ∨
    ∃ error, event.rebuild = .error error ∧ (Question.packetHash event).answer env ask s = .error (.event error)
  packetProcessed : ∀ hash, ∃ processed, (Question.packetProcessed hash).Shows env ask s Json.bool? processed ∧
    (processed = true ↔ ∃ digest nonce, digest.octets = hash ∧ s.processed.get? digest = some nonce)

theorem reports (env : Env) (ask : Querier)
    (hnormal : ∀ id stream, s.streams.get? id = some stream → stream.assetType.IsNormal) : Reports env ask s where
  config view := shows_config_iff.trans configView_eq_ok_iff
  trustedRemote chain := finds_trustedRemote_iff.2 rfl
  remoteCoin chain text tag typed := by
    rw [finds_remoteCoin_iff, Store.remoteCoinView, typed]
    rfl
  localCoin key := finds_localCoin_iff.2 rfl
  registeredAsset text tag typed := by
    rw [finds_registeredAsset_iff, Store.assetView, typed]
    rfl
  untyped text error none := by
    constructor
    · rw [Question.answer, Store.assetView, none]
      rfl
    · intro chain
      rw [Question.answer, Store.remoteCoinView, none]
      rfl
  stream id := (finds_stream_iff (hnormal id)).2 rfl
  withdrawPayload value := by
    cases hoperand : (Word.ofNat? value.val : Option StreamId) with
    | some id =>
      have hid : id.val = value.val := Word.ofNat?_eq_some_iff.1 hoperand
      have hlt := id.isLt
      refine .inl ⟨by omega, id, hid, ?_⟩
      rw [shows_withdrawPayload_iff, Bridge.withdrawPayload, WithdrawRequest.operand?, hoperand]
    | none =>
      refine .inr ⟨Word.ofNat?_eq_none_iff.1 hoperand, ?_⟩
      rw [answer_withdrawPayload_eq_error_iff, Bridge.withdrawPayload, WithdrawRequest.operand?, hoperand]
  packetHash event := by
    cases hrebuilt : event.rebuild with
    | ok packet =>
      refine .inl ⟨packet, rfl, ?_⟩
      rw [shows_packetHash_iff, packetView, hrebuilt]
    | error error =>
      refine .inr ⟨error, rfl, ?_⟩
      rw [answer_packetHash_eq_error_iff, packetView, hrebuilt]
  packetProcessed hash := ⟨_, shows_packetProcessed_iff.2 rfl, isProcessed_eq_true_iff⟩

end

end Bridge

end VestingBridge
