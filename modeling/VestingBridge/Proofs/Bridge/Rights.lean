import VestingBridge.Proofs.Bridge.Change
import VestingBridge.Proofs.Bridge.Conservation
/-!
# Proofs.Bridge.Rights — who may change what

Each part of the storage changes only by the call that is for it, made by whoever holds the right to it at that time,
and no more of it than that call is about (`Rightful`).  Every other part stays as it was, whoever calls.
-/
namespace VestingBridge.Bridge

variable {self : Account} {env : Env} {s t : Store} {r : Response} {event : Event} {log : List Landing}
  {before : Config}

/-- **The storage after an event.**  One that is refused leaves it as it was. -/
def Event.after (env : Env) (event : Event) (s : Store) : Store :=
  match (event.run env).commit s with
  | .ok (_, t) => t
  | .error _ => s

/-- The owner appoints the officers of a bridge that has none. -/
def Event.Appoints (config : Config) (event : Event) : Prop :=
  ∃ caller admin authority, event = .execute caller (.appoint admin authority) ∧ caller.sender = config.owner ∧
    config.lifecycle = .uninitialized

/-- The endpoint hands an event over. -/
def Event.HandedOver (config : Config) (event : Event) : Prop :=
  ∃ caller delivery, event = .execute caller (.deliver delivery) ∧ caller.sender = config.endpoint

/-- **Each part of the storage changes only by the call that is for it**, made by whoever holds the right to it. -/
structure Rightful (s : Store) (before : Config) (event : Event) (t : Store) (after : Config) : Prop where
  remotes : t.remotes ≠ s.remotes → ∃ caller chain text, event = .execute caller (.setTrustedRemote chain text) ∧
    before.authority = some caller.sender ∧ Table.EqExcept chain t.remotes s.remotes
  coins : t.remoteCoins ≠ s.remoteCoins ∨ t.localCoins ≠ s.localCoins → ∃ caller chain text assetType tag,
    event = .execute caller (.setCoinMap chain text assetType) ∧ before.authority = some caller.sender ∧
    TypeTag.parse assetType = .ok tag ∧ Table.EqExcept (chain, tag.key) t.remoteCoins s.remoteCoins ∧
    Table.EqExcept tag.key t.localCoins s.localCoins
  assets : t.assets ≠ s.assets → ∃ caller assetType holding tag,
    event = .execute caller (.registerAsset assetType holding) ∧ before.authority = some caller.sender ∧
    TypeTag.parse assetType = .ok tag ∧ Table.EqExcept tag.key t.assets s.assets
  paused : after.paused ≠ before.paused → ∃ caller, before.admin = some caller.sender ∧
    (event = .execute caller .pause ∧ after.paused = true ∨ event = .execute caller .unpause ∧ after.paused = false)
  officers : after.admin ≠ before.admin ∨ after.authority ≠ before.authority → event.Appoints before
  lifecycle : after.lifecycle ≠ before.lifecycle →
    event.Appoints before ∨ event = .reply registrationReply ∧ before.lifecycle = .initialized
  streams : ∀ id stream, s.streams.get? id = some stream → t.streams.get? id ≠ some stream →
    ((∃ caller, event = .execute caller (.withdraw id) ∧ caller.sender = stream.recipient) ∨
      event.HandedOver before) ∧ Table.EqExcept id t.streams s.streams
  processed : t.processed ≠ s.processed → event.HandedOver before
  opened : (t.nextStream ≠ s.nextStream ∨ ∃ id, s.streams.get? id = none ∧ t.streams.get? id ≠ none) →
    event.opens = true
  founding : after.founding = before.founding
  version : t.version = s.version

theorem Rightful.refl (s : Store) (config : Config) (event : Event) : Rightful s config event s config where
  remotes h := absurd rfl h
  coins h := by rcases h with h | h <;> exact absurd rfl h
  assets h := absurd rfl h
  paused h := absurd rfl h
  officers h := by rcases h with h | h <;> exact absurd rfl h
  lifecycle h := absurd rfl h
  streams _ _ h hne := absurd h hne
  processed h := absurd rfl h
  opened h := by
    rcases h with h | ⟨id, hnone, hsome⟩
    · exact absurd rfl h
    · exact absurd hnone hsome
  founding := rfl
  version := rfl

theorem eq_of_drawn {id other : StreamId} {stream left found : Stream} (hstream : s.streams.get? id = some stream)
    (hget : s.streams.get? other = some found) (hne : (s.putStream id left).streams.get? other ≠ some found) :
    other = id ∧ found = stream := by
  by_cases hid : other = id
  · subst hid
    exact ⟨rfl, Option.some.inj (hget.symm.trans hstream)⟩
  · rw [Store.putStream, Table.get?_insert, if_neg hid] at hne
    exact absurd hget hne

theorem not_opened_of_drawn {id : StreamId} {stream left : Stream} (hstream : s.streams.get? id = some stream) :
    ¬∃ other, s.streams.get? other = none ∧ (s.putStream id left).streams.get? other ≠ none := by
  rintro ⟨other, hnone, hsome⟩
  by_cases hid : other = id
  · subst hid
    cases hstream.symm.trans hnone
  · rw [Store.putStream, Table.get?_insert, if_neg hid] at hsome
    exact hsome hnone

/-- **Every change that is no creation is made by right.** -/
theorem Change.rightful (h : Change env s event t) (hcreate : event.isCreate = false) (hbefore : s.config = some before)
    (hversion : s.version = some codeVersion) (hfresh : s.streams.get? s.nextStreamId = none) :
    ∃ after, t.config = some after ∧ Rightful s before event t after := by
  cases h with
  | created => cases hcreate
  | upgraded => exact ⟨before, hbefore, { Rightful.refl s before _ with version := hversion.symm }⟩
  | appointed caller admin authority config configured owner stage =>
    cases hbefore.symm.trans configured
    have happoints : (Event.execute caller (.appoint admin authority)).Appoints before :=
      ⟨caller, admin, authority, rfl, owner, stage⟩
    exact ⟨_, rfl, { Rightful.refl s before _ with
      officers := fun _ => happoints
      lifecycle := fun _ => .inl happoints }⟩
  | registered config configured stage =>
    cases hbefore.symm.trans configured
    exact ⟨_, rfl, { Rightful.refl s before _ with lifecycle := fun _ => .inr ⟨rfl, stage⟩ }⟩
  | stopped caller config configured admin =>
    cases hbefore.symm.trans configured
    exact ⟨_, rfl, { Rightful.refl s before _ with paused := fun _ => ⟨caller, admin, .inl ⟨rfl, rfl⟩⟩ }⟩
  | resumed caller config configured admin =>
    cases hbefore.symm.trans configured
    exact ⟨_, rfl, { Rightful.refl s before _ with paused := fun _ => ⟨caller, admin, .inr ⟨rfl, rfl⟩⟩ }⟩
  | trusted caller chain text config address configured authority =>
    cases hbefore.symm.trans configured
    exact ⟨before, hbefore, { Rightful.refl s before _ with
      remotes := fun _ => ⟨caller, chain, text, rfl, authority, Table.insert_eqExcept _ _ _⟩ }⟩
  | mapped caller chain text assetType config address tag configured authority nonzero read typed =>
    cases hbefore.symm.trans configured
    exact ⟨before, hbefore, { Rightful.refl s before _ with
      coins := fun _ => ⟨caller, chain, text, assetType, tag, rfl, authority, typed, Table.insert_eqExcept _ _ _,
        Table.insert_eqExcept _ _ _⟩ }⟩
  | assigned caller assetType holding normal config tag configured authority typed =>
    cases hbefore.symm.trans configured
    exact ⟨before, hbefore, { Rightful.refl s before _ with
      assets := fun _ => ⟨caller, assetType, holding, tag, rfl, authority, typed, Table.insert_eqExcept _ _ _⟩ }⟩
  | opened event draft deposit next opens =>
    -- the new stream takes a number that no stream has, so those that were there stay
    have hstreams : ∀ id stream, s.streams.get? id = some stream →
        (s.streams.insert s.nextStreamId (draft.toStream s.nextStreamId deposit env.now)).get? id = some stream := by
      intro id stream hget
      rw [Table.get?_insert, if_neg, hget]
      rintro rfl
      cases hfresh.symm.trans hget
    exact ⟨before, hbefore, { Rightful.refl s before _ with
      streams := fun id stream hget hne => absurd (hstreams id stream hget) hne
      opened := fun _ => opens }⟩
  | withdrawn caller id config stream left amount configured unpaused found recipient =>
    refine ⟨before, hbefore, { Rightful.refl s before _ with streams := ?_, opened := ?_ }⟩
    · intro other stream' hget hne
      obtain ⟨rfl, rfl⟩ := eq_of_drawn found hget hne
      exact ⟨.inl ⟨caller, rfl, recipient⟩, Table.insert_eqExcept _ _ _⟩
    · intro hopened
      exact absurd (hopened.resolve_left fun hne => hne rfl) (not_opened_of_drawn found)
  | delivered caller e packet id config stream left amount configured sender active unpaused rebuilt request found =>
    cases hbefore.symm.trans configured
    have hhanded : (Event.execute caller (.deliver e)).HandedOver before := ⟨caller, e, rfl, sender⟩
    refine ⟨before, hbefore, { Rightful.refl s before _ with
      streams := ?_, processed := fun _ => hhanded, opened := ?_ }⟩
    · intro other stream' hget hne
      obtain ⟨rfl, rfl⟩ := eq_of_drawn found hget hne
      exact ⟨.inr hhanded, Table.insert_eqExcept _ _ _⟩
    · intro hopened
      exact absurd (hopened.resolve_left fun hne => hne rfl) (not_opened_of_drawn found)
  | requested => exact ⟨before, hbefore, Rightful.refl s before _⟩

theorem History.version_eq (h : History self log s) (hconfig : s.config ≠ none) : s.version = some codeVersion := by
  induction h with
  | start => exact absurd rfl hconfig
  | @land log t _ _ _ hlands ih =>
    obtain @⟨now, event, response, u, honce, hland⟩ := hlands
    cases change_of_landed hland with
    | created | upgraded => rfl
    | appointed _ _ _ _ configured | registered _ configured | stopped _ _ configured | resumed _ _ configured =>
      exact ih (by rw [configured]; exact Option.some_ne_none _)
    | trusted | mapped | assigned | opened | withdrawn | delivered | requested => exact ih hconfig
  | pass _ hrefuses ih =>
    cases hrefuses
    exact ih hconfig

/-- **Only the right role changes each part of a bridge.** -/
theorem changed_by_right (h : History self log s) (hbefore : s.config = some before)
    (hcreate : event.isCreate = false) (now : Seconds) :
    ∃ after, (event.after ⟨self, now⟩ s).config = some after ∧
      Rightful s before event (event.after ⟨self, now⟩ s) after := by
  cases hrun : (event.run ⟨self, now⟩).commit s with
  | error e =>
    have hsame : event.after ⟨self, now⟩ s = s := by rw [Event.after, hrun]
    rw [hsame]
    exact ⟨before, hbefore, .refl s before event⟩
  | ok result =>
    obtain ⟨r, t⟩ := result
    have hafter : event.after ⟨self, now⟩ s = t := by rw [Event.after, hrun]
    have hfresh : s.streams.get? s.nextStreamId = none := by
      cases hget : s.streams.get? s.nextStreamId with
      | none => rfl
      | some stream => exact absurd (h.ledger.below _ _ hget) (Nat.lt_irrefl _)
    have hversion := h.version_eq (by rw [hbefore]; exact Option.some_ne_none _)
    rw [hafter]
    exact (change_of_landed hrun).rightful hcreate hbefore hversion hfresh

theorem changed_by_right_withdrawal :
    ∃ log s before after, History "bridge" log s ∧ s.config = some before ∧
      let withdrawal : Event := .execute ⟨"bob", []⟩ (.withdraw StreamId.zero)
      withdrawal.isCreate = false ∧ (withdrawal.after ⟨"bridge", 190⟩ s).streams ≠ s.streams ∧
      Rightful s before withdrawal (withdrawal.after ⟨"bridge", 190⟩ s) after := by
  have hcheck : ((play "bridge" .empty reregistered).map fun p => (p.2.config.isSome,
      decide ((Event.after ⟨"bridge", 190⟩ (.execute ⟨"bob", []⟩ (.withdraw StreamId.zero)) p.2).streams ≠
        p.2.streams))) = some (true, true) := by
    decide +kernel
  obtain ⟨⟨log, s⟩, hplay, hcheck⟩ := Option.map_eq_some_iff.1 hcheck
  obtain ⟨hconfig, hchanged⟩ := Prod.mk.inj hcheck
  obtain ⟨before, hbefore⟩ := Option.isSome_iff_exists.1 hconfig
  have h : History "bridge" log s := run_iff_play.2 ⟨reregistered, hplay⟩
  have hcreate : Event.isCreate (.execute ⟨"bob", []⟩ (.withdraw StreamId.zero)) = false := rfl
  obtain ⟨after, -, hrightful⟩ := changed_by_right h hbefore hcreate 190
  exact ⟨log, s, before, after, h, hbefore, rfl, of_decide_eq_true hchanged, hrightful⟩

end VestingBridge.Bridge
