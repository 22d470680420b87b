import VestingBridge.Proofs.Bridge.Registries
import VestingBridge.Proofs.Bridge.Service
/-!
# Proofs.Bridge.Writes — the registries are what the authority wrote

A call that is accepted by one of the registries is a `Write`, whatever spelling its caller used.  The registries of a
bridge are the rows of its writes (`Entered`): under each key stands what the last write entered there.  So they are as
tidy as the writes are, nothing is ever taken out, and an address that was replaced is trusted again only if it is
written again.
-/
namespace VestingBridge

/-- **The holding is in its one form**, as it is registered. -/
def Holding.IsNormal : Holding → Prop
  | native denom => Text.trim denom = denom ∧ denom ≠ ""
  | token contract => Account.validate contract = .ok contract

/-- **What is registered for a holding**: a denomination without the blanks around it, if there is anything else to it,
or the token contract itself, if the host accepts its address. -/
inductive Holding.Registers : Holding → Holding → Prop
  | native (denom : String) (some : Text.trim denom ≠ "") : Registers (.native denom) (.native (Text.trim denom))
  | token (contract : Account) (valid : Account.validate contract = .ok contract) :
    Registers (.token contract) (.token contract)

/-- **Why nothing is registered for a holding.** -/
inductive Holding.NotRegistered : Holding → Bridge.Error → Prop
  | blank (denom : String) (blank : Text.trim denom = "") : NotRegistered (.native denom) .emptyDenom
  | invalid (contract : Account) (error : AccountError) (invalid : Account.validate contract = .error error) :
    NotRegistered (.token contract) (.account error)

/-- What is registered is in its one form. -/
theorem Holding.Registers.isNormal {holding registered : Holding} (h : holding.Registers registered) :
    registered.IsNormal := by
  cases h with
  | native denom hsome =>
    refine ⟨?_, hsome⟩
    rw [Text.trim, Text.toList_trim, Text.trimChars_trimChars, Text.trim]
  | token contract hvalid => exact hvalid

namespace Bridge

open Handler

/-- **What a registry is told**, in the form in which it is kept. -/
inductive Write where
  | trust (chain : ChainId) (address : WireAddress)
  | map (chain : ChainId) (tag : TypeTag) (address : WireAddress)
  | assign (tag : TypeTag) (holding : Holding)
deriving DecidableEq

namespace Write

def remote? : Write → Option (ChainId × WireAddress)
  | trust chain address => some (chain, address)
  | map .. | assign .. => none

def remoteCoin? : Write → Option ((ChainId × Octets) × WireAddress)
  | map chain tag address => some ((chain, tag.key), address)
  | trust .. | assign .. => none

def localCoin? : Write → Option (Octets × TypeTag)
  | map _ tag _ => some (tag.key, tag)
  | trust .. | assign .. => none

def asset? : Write → Option (Octets × Holding)
  | assign tag holding => some (tag.key, holding)
  | trust .. | map .. => none

/-- **What a write does to the registries.** -/
structure Enters (w : Write) (s t : Store) : Prop where
  remotes : t.remotes = s.remotes.enter w.remote?
  remoteCoins : t.remoteCoins = s.remoteCoins.enter w.remoteCoin?
  localCoins : t.localCoins = s.localCoins.enter w.localCoin?
  assets : t.assets = s.assets.enter w.asset?

/-- **What a registry accepts.** -/
def IsSound : Write → Prop
  | trust chain address => chain.val ≠ 0 ∧ address.isZero = false
  | map chain tag _ => chain.val ≠ 0 ∧ tag.IsNormal
  | assign tag holding => tag.IsNormal ∧ holding.IsNormal

end Write

/-- The call is for one of the registries. -/
def ExecuteCall.isWrite : ExecuteCall → Bool
  | setTrustedRemote .. | setCoinMap .. | registerAsset .. => true
  | _ => false

/-- **What a call tells a registry.** -/
def ExecuteCall.write? : ExecuteCall → Option Write
  | setTrustedRemote chain address => return .trust chain (← (WireAddress.ofHex address).toOption)
  | setCoinMap chain remoteAsset assetType =>
    return .map chain (← (TypeTag.parse assetType).toOption) (← (WireAddress.ofHex remoteAsset).toOption)
  | registerAsset assetType asset =>
    return .assign (← (TypeTag.parse assetType).toOption) (← (normalHolding asset).toOption)
  | _ => none

/-- **A call puts a write into words**, in any spelling of the address, the type and the holding. -/
inductive Spells : ExecuteCall → Write → Prop
  | trust (chain : ChainId) (text : String) (address : WireAddress) (read : WireAddress.ofHex text = .ok address) :
    Spells (.setTrustedRemote chain text) (.trust chain address)
  | map (chain : ChainId) (text assetType : String) (tag : TypeTag) (address : WireAddress)
      (typed : TypeTag.parse assetType = .ok tag) (read : WireAddress.ofHex text = .ok address) :
    Spells (.setCoinMap chain text assetType) (.map chain tag address)
  | assign (assetType : String) (holding registered : Holding) (tag : TypeTag)
      (typed : TypeTag.parse assetType = .ok tag) (registers : holding.Registers registered) :
    Spells (.registerAsset assetType holding) (.assign tag registered)

def Event.isWrite : Event → Bool
  | execute _ call => call.isWrite
  | create .. | reply _ | upgrade => false

def Event.write? : Event → Option Write
  | execute _ call => call.write?
  | create .. | reply _ | upgrade => none

/-- **The writes that were accepted**, in order. -/
def writes (log : List Landing) : List Write := log.filterMap (·.event.write?)

variable {self : Account} {env : Env} {s t : Store} {r : Response} {event : Event} {log more : List Landing}
  {ws : List Write} {w : Write}

theorem writes_append (log more : List Landing) : writes (log ++ more) = writes log ++ writes more :=
  List.filterMap_append

theorem Event.not_isWrite_of_opens (h : event.opens = true) : event.isWrite = false ∧ event.write? = none := by
  unfold opens at h
  split at h
  · exact ⟨rfl, rfl⟩
  · exact ⟨rfl, rfl⟩
  · cases h

theorem normalHolding_eq_ok_iff {holding normal : Holding} :
    normalHolding holding = .ok normal ↔ holding.Registers normal := by
  constructor
  · intro h
    cases holding with
    | native denom =>
      dsimp only [normalHolding] at h
      split at h
      · cases h
      · rename_i hsome
        cases h
        exact .native denom hsome
    | token contract =>
      dsimp only [normalHolding] at h
      split at h
      · rename_i accepted hvalid
        cases h
        cases Account.validate_ok hvalid
        exact .token contract hvalid
      · cases h
  · intro h
    cases h with
    | native denom hsome => exact if_neg hsome
    | token contract hvalid => rw [normalHolding, hvalid]

theorem normalHolding_eq_error_iff {holding : Holding} {e : Error} :
    normalHolding holding = .error e ↔ holding.NotRegistered e := by
  constructor
  · intro h
    cases holding with
    | native denom =>
      dsimp only [normalHolding] at h
      split at h
      · rename_i hblank
        cases h
        exact .blank denom hblank
      · cases h
    | token contract =>
      dsimp only [normalHolding] at h
      split at h
      · cases h
      · rename_i error hinvalid
        cases h
        exact .invalid contract error hinvalid
  · intro h
    cases h with
    | blank denom hblank => exact if_pos hblank
    | invalid contract error hinvalid => rw [normalHolding, hinvalid]

theorem write?_eq_some_iff {call : ExecuteCall} : call.write? = some w ↔ Spells call w := by
  constructor
  · intro h
    cases call with
    | setTrustedRemote chain text =>
      obtain ⟨address, hread, h⟩ := Option.bind_eq_some_iff.1 h
      cases h
      exact .trust chain text address (toOption_eq_some_iff.1 hread)
    | setCoinMap chain text assetType =>
      obtain ⟨tag, htyped, h⟩ := Option.bind_eq_some_iff.1 h
      obtain ⟨address, hread, h⟩ := Option.bind_eq_some_iff.1 h
      cases h
      exact .map chain text assetType tag address (toOption_eq_some_iff.1 htyped) (toOption_eq_some_iff.1 hread)
    | registerAsset assetType holding =>
      obtain ⟨tag, htyped, h⟩ := Option.bind_eq_some_iff.1 h
      obtain ⟨registered, hregistered, h⟩ := Option.bind_eq_some_iff.1 h
      cases h
      exact .assign assetType holding registered tag (toOption_eq_some_iff.1 htyped)
        (normalHolding_eq_ok_iff.1 (toOption_eq_some_iff.1 hregistered))
    | appoint | pause | unpause | createStream | receive | withdraw | deliver | requestRemoteWithdraw => cases h
  · intro h
    cases h with
    | trust chain text address read => simp [ExecuteCall.write?, toOption_eq_some_iff.2 read]
    | map chain text assetType tag address typed read =>
      simp [ExecuteCall.write?, toOption_eq_some_iff.2 read, toOption_eq_some_iff.2 typed]
    | assign assetType holding registered tag typed registers =>
      have hregistered := toOption_eq_some_iff.2 (normalHolding_eq_ok_iff.2 registers)
      simp [ExecuteCall.write?, toOption_eq_some_iff.2 typed, hregistered]

theorem verifyAuthority_eq_ok {config : Config} {sender : Account} (configured : s.config = some config)
    (authority : config.authority = some sender) : s.verifyAuthority sender = .ok sender := by
  rw [Store.verifyAuthority, loadConfig_eq_ok_iff.2 configured]
  simp [bind, Except.bind, authority]

/-- **The authority is told why a holding is not registered.** -/
theorem refused_registerAsset_iff {caller : Caller} {config : Config} {assetType : String} {holding : Holding}
    {tag : TypeTag} {e : Error} (configured : s.config = some config)
    (authority : config.authority = some caller.sender) (typed : TypeTag.parse assetType = .ok tag) :
    (registerAsset caller assetType holding).commit s = .error e ↔ holding.NotRegistered e := by
  simp only [registerAsset, refused_look_bind, refused_check_bind, refused_ofExcept_bind, refused_modify_bind,
    refused_pure, verifyAuthority_eq_ok configured authority, typed, normalHolding_eq_error_iff]
  simp

/-! ## What an event does to the registries -/

/-- **A landed event is no concern of the registries, or it is a write by the authority.** -/
inductive Writing (s : Store) (event : Event) (t : Store) : Prop
  | aside (call : event.isWrite = false) (silent : event.write? = none) (remotes : t.remotes = s.remotes)
      (remoteCoins : t.remoteCoins = s.remoteCoins) (localCoins : t.localCoins = s.localCoins)
      (assets : t.assets = s.assets)
  | wrote (caller : Caller) (call : ExecuteCall) (w : Write) (config : Config) (isCall : event = .execute caller call)
      (told : call.write? = some w) (configured : s.config = some config)
      (authority : config.authority = some caller.sender) (sound : w.IsSound) (enters : w.Enters s t)

theorem Change.writing (h : Change env s event t) : Writing s event t := by
  cases h with
  | created | upgraded | appointed | registered | stopped | resumed | withdrawn | delivered | requested =>
    exact .aside rfl rfl rfl rfl rfl rfl
  | opened event draft deposit next opens =>
    obtain ⟨hcall, hsilent⟩ := Event.not_isWrite_of_opens opens
    exact .aside hcall hsilent rfl rfl rfl rfl
  | trusted caller chain text config address configured authority nonzero read address_nonzero =>
    have htold := write?_eq_some_iff.2 (.trust chain text address read)
    exact .wrote caller _ _ config rfl htold configured authority ⟨nonzero, address_nonzero⟩ ⟨rfl, rfl, rfl, rfl⟩
  | mapped caller chain text assetType config address tag configured authority nonzero read typed =>
    have htold := write?_eq_some_iff.2 (.map chain text assetType tag address typed read)
    exact .wrote caller _ _ config rfl htold configured authority ⟨nonzero, TypeTag.isNormal_of_parse typed⟩
      ⟨rfl, rfl, rfl, rfl⟩
  | assigned caller assetType holding normal config tag configured authority typed read =>
    have hregisters := normalHolding_eq_ok_iff.1 read
    have htold := write?_eq_some_iff.2 (.assign assetType holding normal tag typed hregisters)
    exact .wrote caller _ _ config rfl htold configured authority
      ⟨TypeTag.isNormal_of_parse typed, hregisters.isNormal⟩ ⟨rfl, rfl, rfl, rfl⟩

/-! ## The registries as rows of writes -/

/-- **The registries are the rows of some writes.** -/
structure Entered (s : Store) (ws : List Write) : Prop where
  remotes : s.remotes = .ofWrites (ws.filterMap Write.remote?)
  remoteCoins : s.remoteCoins = .ofWrites (ws.filterMap Write.remoteCoin?)
  localCoins : s.localCoins = .ofWrites (ws.filterMap Write.localCoin?)
  assets : s.assets = .ofWrites (ws.filterMap Write.asset?)
  sound : ∀ w ∈ ws, w.IsSound

theorem Entered.empty : Entered .empty [] where
  remotes := rfl
  remoteCoins := rfl
  localCoins := rfl
  assets := rfl
  sound := nofun

/-- One more write is entered at the end of the row. -/
theorem Entered.enter (h : Entered s ws) (sound : w.IsSound) (enters : w.Enters s t) : Entered t (ws ++ [w]) where
  remotes := by rw [Table.ofWrites_filterMap_concat, ← h.remotes, enters.remotes]
  remoteCoins := by rw [Table.ofWrites_filterMap_concat, ← h.remoteCoins, enters.remoteCoins]
  localCoins := by rw [Table.ofWrites_filterMap_concat, ← h.localCoins, enters.localCoins]
  assets := by rw [Table.ofWrites_filterMap_concat, ← h.assets, enters.assets]
  sound w' hw' := by
    rcases List.mem_append.1 hw' with hw' | hw'
    · exact h.sound w' hw'
    · rwa [List.mem_singleton.1 hw']

/-- **Every landed event keeps the registries the rows of the writes.** -/
theorem Writing.entered (h : Writing s event t) (hs : Entered s (writes log)) (now : Seconds) (r : Response) :
    Entered t (writes (log ++ [⟨now, event, r⟩])) := by
  cases h with
  | aside call silent remotes remoteCoins localCoins assets =>
    have hsame : writes (log ++ [⟨now, event, r⟩]) = writes log := by
      rw [writes_append]
      simp [writes, silent]
    rw [hsame]
    exact ⟨remotes ▸ hs.remotes, remoteCoins ▸ hs.remoteCoins, localCoins ▸ hs.localCoins, assets ▸ hs.assets, hs.sound⟩
  | wrote caller call w config isCall told configured authority sound enters =>
    have hmore : writes (log ++ [⟨now, event, r⟩]) = writes log ++ [w] := by
      rw [writes_append]
      simp [writes, isCall, Event.write?, told]
    rw [hmore]
    exact hs.enter sound enters

/-- **The registries of every history are the rows of its writes.** -/
theorem History.entered (h : History self log s) : Entered s (writes log) := by
  induction h with
  | start => exact .empty
  | land _ hlands ih =>
    obtain ⟨_, hland⟩ := hlands
    exact (change_of_landed hland).writing.entered ih _ _
  | pass _ hrefuses ih =>
    cases hrefuses
    exact ih

/-- **The registries hold what was written last**: under each key what the last write entered there, and each type that
was ever mapped. -/
structure Written (s : Store) (ws : List Write) : Prop where
  remotes : ∀ chain, s.remotes.get? chain = Table.lastWrite chain (ws.filterMap Write.remote?)
  remoteCoins : ∀ chain key,
    s.remoteCoins.get? (chain, key) = Table.lastWrite (chain, key) (ws.filterMap Write.remoteCoin?)
  localCoins : ∀ key tag, s.localCoins.get? key = some tag ↔
    tag.key = key ∧ ∃ chain address, .map chain tag address ∈ ws
  assets : ∀ key, s.assets.get? key = Table.lastWrite key (ws.filterMap Write.asset?)

theorem Write.localCoin?_eq_some_iff {key : Octets} {tag : TypeTag} :
    w.localCoin? = some (key, tag) ↔ tag.key = key ∧ ∃ chain address, w = .map chain tag address := by
  cases w with
  | trust | assign => simp [localCoin?]
  | map chain tag' address =>
    simp only [localCoin?, Option.some.injEq, Prod.mk.injEq, Write.map.injEq]
    constructor
    · rintro ⟨rfl, rfl⟩
      exact ⟨rfl, chain, address, rfl, rfl, rfl⟩
    · rintro ⟨rfl, -, -, -, rfl, -⟩
      exact ⟨rfl, rfl⟩

theorem Entered.written (h : Entered s ws) : Written s ws where
  remotes chain := by rw [h.remotes, Table.get?_ofWrites]
  remoteCoins chain key := by rw [h.remoteCoins, Table.get?_ofWrites]
  localCoins key tag := by
    have hmem : ∀ {key tag}, (key, tag) ∈ ws.filterMap Write.localCoin? ↔
        tag.key = key ∧ ∃ chain address, .map chain tag address ∈ ws := by
      intro key tag
      simp only [List.mem_filterMap, Write.localCoin?_eq_some_iff]
      constructor
      · rintro ⟨w, hw, hkey, chain, address, rfl⟩
        exact ⟨hkey, chain, address, hw⟩
      · rintro ⟨hkey, chain, address, hw⟩
        exact ⟨_, hw, hkey, chain, address, rfl⟩
    rw [h.localCoins, Table.get?_ofWrites]
    constructor
    · exact fun hlast => hmem.1 (Table.mem_of_lastWrite hlast)
    · rintro ⟨rfl, chain, address, hmap⟩
      obtain ⟨tag', hlast⟩ := Table.exists_lastWrite (hmem.2 ⟨rfl, chain, address, hmap⟩)
      -- two types with one key are one, for both are in their one form
      obtain ⟨hkey, chain', address', hmap'⟩ := hmem.1 (Table.mem_of_lastWrite hlast)
      have hsame : tag' = tag := (h.sound _ hmap').2.eq_of_key (h.sound _ hmap).2 hkey
      rw [hlast, hsame]
  assets key := by rw [h.assets, Table.get?_ofWrites]

/-- **The registries are tidy**: no key has two entries, every key of a type is that of its one form, and what the calls
refuse is nowhere to be found. -/
structure Tidy (s : Store) : Prop where
  remotes : ∀ chain address, s.remotes.get? chain = some address → chain.val ≠ 0 ∧ address.isZero = false
  remoteCoins : ∀ chain key address, s.remoteCoins.get? (chain, key) = some address →
    chain.val ≠ 0 ∧ ∃ tag : TypeTag, tag.IsNormal ∧ tag.key = key
  localCoins : ∀ key tag, s.localCoins.get? key = some tag → tag.IsNormal ∧ tag.key = key
  assets : ∀ key holding, s.assets.get? key = some holding →
    holding.IsNormal ∧ ∃ tag : TypeTag, tag.IsNormal ∧ tag.key = key
  distinct : (s.remotes.entries.map (·.1)).Nodup ∧ (s.remoteCoins.entries.map (·.1)).Nodup ∧
    (s.localCoins.entries.map (·.1)).Nodup ∧ (s.assets.entries.map (·.1)).Nodup

theorem Entered.tidy (h : Entered s ws) : Tidy s where
  remotes chain address hget := by
    rw [h.written.remotes] at hget
    obtain ⟨w, hw, hremote⟩ := List.mem_filterMap.1 (Table.mem_of_lastWrite hget)
    have hsound := h.sound w hw
    cases w with
    | trust => cases hremote; exact hsound
    | map | assign => cases hremote
  remoteCoins chain key address hget := by
    rw [h.written.remoteCoins] at hget
    obtain ⟨w, hw, hcoin⟩ := List.mem_filterMap.1 (Table.mem_of_lastWrite hget)
    have hsound := h.sound w hw
    cases w with
    | map _ tag => cases hcoin; exact ⟨hsound.1, tag, hsound.2, rfl⟩
    | trust | assign => cases hcoin
  localCoins key tag hget := by
    obtain ⟨hkey, chain, address, hw⟩ := (h.written.localCoins key tag).1 hget
    exact ⟨(h.sound _ hw).2, hkey⟩
  assets key holding hget := by
    rw [h.written.assets] at hget
    obtain ⟨w, hw, hasset⟩ := List.mem_filterMap.1 (Table.mem_of_lastWrite hget)
    have hsound := h.sound w hw
    cases w with
    | assign tag => cases hasset; exact ⟨hsound.2, tag, hsound.1, rfl⟩
    | trust | map => cases hasset
  distinct := ⟨Table.nodup_keys _, Table.nodup_keys _, Table.nodup_keys _, Table.nodup_keys _⟩

/-! ## Whose writes they are -/

/-- The officer who may write, once appointed, stays. -/
theorem authority_of_landed {authority : Account} {now : Seconds} {config : Config} (h : History self log s)
    (honce : event.isCreate = true → s.config = none) (hland : (event.run ⟨self, now⟩).commit s = .ok (r, t))
    (hconfig : s.config = some config) (hauthority : config.authority = some authority) :
    ∃ after, t.config = some after ∧ after.authority = some authority := by
  have hstage : config.lifecycle ≠ .uninitialized := by
    intro hstage
    cases hauthority.symm.trans ((h.progress hconfig).staged.authority.2 hstage)
  obtain ⟨after, hafter, -, hofficers⟩ := (Run.of_landed honce hland).forward hconfig
  exact ⟨after, hafter, (hofficers hstage).2.trans hauthority⟩

/-- **Whoever wrote is the authority.** -/
theorem History.written_by (h : History self log s) : ∀ l ∈ log, l.event.isWrite = true →
    ∃ caller call w config, l.event = .execute caller call ∧ call.write? = some w ∧ s.config = some config ∧
      config.authority = some caller.sender := by
  induction h with
  | start => exact nofun
  | pass _ hrefuses ih =>
    cases hrefuses
    exact ih
  | @land log t _ _ hrun hlands ih =>
    obtain @⟨now, event, response, u, honce, hland⟩ := hlands
    intro l hl hwrite
    rcases List.mem_append.1 hl with hl | hl
    · obtain ⟨caller, call, w, config, hcall, htold, hconfig, hauthority⟩ := ih l hl hwrite
      obtain ⟨after, hafter, hauthority⟩ := authority_of_landed hrun honce hland hconfig hauthority
      exact ⟨caller, call, w, after, hcall, htold, hafter, hauthority⟩
    · cases List.mem_singleton.1 hl
      cases (change_of_landed hland).writing with
      | aside call => cases hwrite.symm.trans call
      | wrote caller call w config isCall told configured authority =>
        obtain ⟨after, hafter, hauthority⟩ := authority_of_landed hrun honce hland configured authority
        exact ⟨caller, call, w, after, isCall, told, hafter, hauthority⟩

/-! ## What stays -/

/-- **Nothing is taken out**: what has an entry keeps one, and the type of a key stays. -/
structure Retained (s t : Store) : Prop where
  remotes : ∀ chain, s.remotes.contains chain = true → t.remotes.contains chain = true
  remoteCoins : ∀ key, s.remoteCoins.contains key = true → t.remoteCoins.contains key = true
  localCoins : ∀ key tag, s.localCoins.get? key = some tag → t.localCoins.get? key = some tag
  assets : ∀ key, s.assets.contains key = true → t.assets.contains key = true

theorem Entered.retained {ws' : List Write} (h : Entered s ws) (h' : Entered t (ws ++ ws')) : Retained s t where
  remotes chain hs := by
    rw [h.remotes] at hs
    rw [h'.remotes, List.filterMap_append]
    exact Table.contains_ofWrites_append hs
  remoteCoins key hs := by
    rw [h.remoteCoins] at hs
    rw [h'.remoteCoins, List.filterMap_append]
    exact Table.contains_ofWrites_append hs
  localCoins key tag hs := by
    obtain ⟨hkey, chain, address, hw⟩ := (h.written.localCoins key tag).1 hs
    exact (h'.written.localCoins key tag).2 ⟨hkey, chain, address, List.mem_append_left _ hw⟩
  assets key hs := by
    rw [h.assets] at hs
    rw [h'.assets, List.filterMap_append]
    exact Table.contains_ofWrites_append hs

/-- An address that is not the last one written for its chain is trusted again only if it is written again. -/
theorem Entered.untrusted {ws' : List Write} {chain : ChainId} {old : WireAddress} (h : Entered t (ws ++ ws'))
    (hold : Table.lastWrite chain (ws.filterMap Write.remote?) ≠ some old) (hnever : .trust chain old ∉ ws') :
    t.isTrusted chain old = false := by
  have hmore : Table.lastWrite chain (ws'.filterMap Write.remote?) ≠ some old := by
    intro hlast
    obtain ⟨w, hw, hremote⟩ := List.mem_filterMap.1 (Table.mem_of_lastWrite hlast)
    cases w with
    | trust => cases hremote; exact hnever hw
    | map | assign => cases hremote
  unfold Store.isTrusted
  rw [h.written.remotes, List.filterMap_append, Table.lastWrite_append]
  cases hlast : Table.lastWrite chain (ws'.filterMap Write.remote?) with
  | none => simpa using hold
  | some address => simpa [hlast] using hmore

/-- No packet is applied that comes from an address which is not trusted. -/
theorem deliver_refused_of_untrusted {caller : Caller} {delivery : DeliveryEvent} {packet : Packet}
    (rebuilt : delivery.rebuild = .ok packet) (untrusted : s.isTrusted packet.srcChain packet.src = false) :
    ∃ e, (deliver env caller delivery).commit s = .error e := by
  cases hrun : (deliver env caller delivery).commit s with
  | error e => exact ⟨e, rfl⟩
  | ok result =>
    obtain ⟨_, packet', _, _, _, _, _, _, -, -, -, -, hrebuilt, -, -, htrusted, -⟩ := deliver_ok hrun
    cases rebuilt.symm.trans hrebuilt
    simp [Store.isTrusted, htrusted] at untrusted

/-- **The registries are exactly what the authority wrote.**  Under each key stands what the last accepted write
entered, in whatever spelling it came, and each type that was ever mapped leads back to its one form; all of it is tidy
and written by the one authority that the bridge has.  Nothing is ever taken out; an address is trusted exactly if the
last write for its chain denotes it, so that no packet from an address that was replaced is applied until it is written
again.  A write is what its call spells: a holding is registered without the blanks around its denomination, or with a
contract that the host accepts, and is refused to the authority exactly if it is neither. -/
theorem registries_written (h : History self log s) :
    Written s (writes log) ∧ Tidy s ∧
    (∀ l ∈ log, l.event.isWrite = true → ∃ caller call w config, l.event = .execute caller call ∧
      call.write? = some w ∧ s.config = some config ∧ config.authority = some caller.sender) ∧
    (∀ chain address, s.isTrusted chain address = true ↔
      Table.lastWrite chain ((writes log).filterMap Write.remote?) = some address) ∧
    (∀ more t, Run self s more t → Retained s t ∧
      ∀ chain old, Table.lastWrite chain ((writes log).filterMap Write.remote?) ≠ some old →
        .trust chain old ∉ writes more →
        ∀ now caller delivery packet, delivery.rebuild = .ok packet → packet.srcChain = chain → packet.src = old →
          ∃ e, (deliver ⟨self, now⟩ caller delivery).commit t = .error e) ∧
    (∀ call w, call.write? = some w ↔ Spells call w) ∧
    ∀ caller config assetType holding tag e, s.config = some config → config.authority = some caller.sender →
      TypeTag.parse assetType = .ok tag →
      ((registerAsset caller assetType holding).commit s = .error e ↔ holding.NotRegistered e) := by
  have hentered := h.entered
  refine ⟨hentered.written, hentered.tidy, h.written_by, fun chain address => ?_, fun more t hmore => ?_,
    fun _ _ => write?_eq_some_iff, fun _ _ _ _ _ _ => refused_registerAsset_iff⟩
  · rw [Store.isTrusted, hentered.written.remotes, beq_iff_eq]
  · have hafter : Entered t (writes log ++ writes more) := writes_append log more ▸ History.entered (Runs.trans h hmore)
    refine ⟨hentered.retained hafter, ?_⟩
    rintro _ _ hold hnever now caller delivery packet rebuilt rfl rfl
    exact deliver_refused_of_untrusted rebuilt (hafter.untrusted hold hnever)

/-- Each registry is written twice under one key, in two spellings, and once for a chain that there is not. -/
def rewritten : List (Seconds × Event) := [
  (10, .create ⟨"owner", []⟩ ⟨"endpoint", 108⟩),
  (10, .execute ⟨"owner", []⟩ (.appoint "admin" "authority")),
  (20, .execute ⟨"authority", []⟩ (.setTrustedRemote 5 "0xABC")),
  (20, .execute ⟨"authority", []⟩ (.setTrustedRemote 5 " 0Xdef")),
  (30, .execute ⟨"authority", []⟩ (.setCoinMap 5 "0x1" "0xA::Coins::MFL")),
  (30, .execute ⟨"authority", []⟩ (.setCoinMap 5 "0x2" " 0X0a::Coins::MFL ")),
  (30, .execute ⟨"authority", []⟩ (.setCoinMap 0 "0x3" "0xA::Coins::MFL")),
  (40, .execute ⟨"authority", []⟩ (.registerAsset "0xA::Coins::MFL" (.token "token"))),
  (40, .execute ⟨"authority", []⟩ (.registerAsset "0x0A::Coins::MFL" (.native " umfl ")))]

theorem registries_written_rewritten :
    ∃ log s packet, History "bridge" log s ∧ (writes log).length = 6 ∧
      [s.remotes.entries.length, s.remoteCoins.entries.length, s.localCoins.entries.length] = [1, 1, 1] ∧
      s.assets.entries.map (·.2) = [.native "umfl"] ∧ Written s (writes log) ∧
      followUp.rebuild = .ok packet ∧
      ∃ e, (deliver ⟨"bridge", 50⟩ ⟨"endpoint", []⟩ followUp).commit s = .error e := by
  have hcheck : ((play "bridge" .empty rewritten).map fun p =>
      ((writes p.1).length,
        [p.2.remotes.entries.length, p.2.remoteCoins.entries.length, p.2.localCoins.entries.length],
        p.2.assets.entries.map (·.2),
        followUp.rebuild.toOption.map fun packet => p.2.isTrusted packet.srcChain packet.src)) =
      some (6, [1, 1, 1], [.native "umfl"], some false) := by
    decide +kernel
  obtain ⟨⟨log, s⟩, hplay, hcheck⟩ := Option.map_eq_some_iff.1 hcheck
  simp only [Prod.mk.injEq] at hcheck
  obtain ⟨hwrites, hentries, hassets, huntrusted⟩ := hcheck
  have h : History "bridge" log s := run_iff_play.2 ⟨rewritten, hplay⟩
  obtain ⟨packet, hrebuilt, huntrusted⟩ := Option.map_eq_some_iff.1 huntrusted
  have hrebuilt : followUp.rebuild = .ok packet := toOption_eq_some_iff.1 hrebuilt
  obtain ⟨hwritten, -, -, htrusted, hlater, -⟩ := registries_written h
  have hold : Table.lastWrite packet.srcChain ((writes log).filterMap Write.remote?) ≠ some packet.src := by
    rw [ne_eq, ← htrusted, huntrusted]
    exact Bool.false_ne_true
  refine ⟨log, s, packet, h, hwrites, hentries, hassets, hwritten, hrebuilt, ?_⟩
  exact (hlater [] s .start).2 _ _ hold nofun _ _ _ packet hrebuilt rfl rfl

end Bridge

end VestingBridge
