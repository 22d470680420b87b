import VestingBridge.Proofs.Bridge.Opening
import VestingBridge.Proofs.Endpoint.Calls
/-!
# Proofs.Refusals — what a refused call leaves

A call that is refused undoes nothing of what it wrote.  Yet a bridge and an endpoint leave their storage as it was,
since they check everything before they write anything (`Handler.ChecksFirst`).  Two calls go on to a check after a
write, and may stop halfway (`Bridge.Halfway`, `Endpoint.Halfway`): the opening of a stream under the last number, and
the sending of a packet for an application whose name the host does not take.  Nothing is assumed of the storage.
-/
namespace VestingBridge

open Handler

namespace Bridge

variable {env : Env} {s t : Store} {caller : Caller} {event : Event} {draft : StreamDraft} {deposit : Amount}
  {terms : StreamTerms} {sender : Account} {e : Error}

/-- **A bridge stops halfway**: it takes a stream under the last number, and there is no number to go on to.  The stream
is kept. -/
inductive Halfway (env : Env) (s : Store) : Event → Error → Store → Prop
  | numberless {event : Event} {draft : StreamDraft} {deposit : Amount} (offered : Offered s event draft deposit)
      (acceptable : draft.IsAcceptable deposit env.now) (last : s.nextStreamId = StreamId.last) :
    Halfway env s event .streamIdsExhausted (s.putStream StreamId.last (draft.toStream StreamId.last deposit env.now))

/-! ## Calls that check first -/

theorem looks_requireActive (config : Config) : Looks (requireActive config) :=
  .bind (.require _ _) fun _ => .require _ _

theorem looks_inspect (event : DeliveryEvent) : Looks (inspect env caller event) := by
  unfold inspect
  refine .bind (.look _) fun _ => .bind (.require _ _) fun _ => .bind (looks_requireActive _) fun _ => ?_
  refine .bind (.check _ _) fun _ => .bind (.require _ _) fun _ => .bind (.check _ _) fun _ => ?_
  refine .bind (.require _ _) fun _ => .bind (.look _) fun _ => .bind .get fun _ => ?_
  exact .bind (.require _ _) fun _ => .bind (.check _ _) fun _ => .pure _

theorem applyWithdraw_checksFirst (packet : Packet) (id : StreamId) : ChecksFirst (applyWithdraw env packet id) := by
  unfold applyWithdraw
  refine .bind (.look _) fun _ => .bind (.look _) fun _ => .bind (.look _) fun _ => .bind (.look _) fun _ => ?_
  refine .bind (.require _ _) fun _ => .bind (.ofExcept _) fun _ => ?_
  exact .of_unrefused (.modify_bind fun _ => .pure _)

theorem deliver_checksFirst (event : DeliveryEvent) : ChecksFirst (deliver env caller event) := by
  rw [deliver_eq]
  -- the packet is recorded after the stream was written, but its record cannot be refused
  refine .bind (looks_inspect event) fun _ => (applyWithdraw_checksFirst _ _).then fun _ => ?_
  exact .modify_bind fun _ => .pure _

theorem registered_checksFirst (id : ReplyId) : ChecksFirst (registered id) := by
  unfold registered
  refine .bind (.require _ _) fun _ => .bind (.look _) fun _ => .bind (.require _ _) fun _ => ?_
  exact .of_unrefused (.modify_bind fun _ => .pure _)

theorem setPaused_checksFirst (paused : Bool) (action : String) : ChecksFirst (setPaused caller paused action) := by
  unfold setPaused
  refine .bind (.look _) fun _ => .bind (.require _ _) fun _ => ?_
  exact .of_unrefused (.modify_bind fun _ => .pure _)

/-- **Whatever opens no stream checks first.** -/
theorem ExecuteCall.checksFirst {call : ExecuteCall} (h : (Event.execute caller call).opens = false) :
    ChecksFirst (call.run env caller) := by
  cases call with
  | appoint admin authority =>
    refine .bind (.look _) fun _ => .bind (.require _ _) fun _ => .bind (.require _ _) fun _ => ?_
    refine .bind (.check _ _) fun _ => .bind (.check _ _) fun _ => .bind (.check _ _) fun _ => ?_
    exact .of_unrefused (.modify_bind fun _ => .pure _)
  | pause => exact setPaused_checksFirst true "pause"
  | unpause => exact setPaused_checksFirst false "unpause"
  | setTrustedRemote chain address =>
    refine .bind (.look _) fun _ => .bind (.check _ _) fun _ => .bind (.require _ _) fun _ => ?_
    exact .bind (.require _ _) fun _ => .of_unrefused (.modify_bind fun _ => .pure _)
  | setCoinMap chain remoteAsset assetType =>
    refine .bind (.look _) fun _ => .bind (.check _ _) fun _ => .bind (.check _ _) fun _ => ?_
    exact .bind (.require _ _) fun _ => .of_unrefused (.modify_bind fun _ => .modify_bind fun _ => .pure _)
  | registerAsset assetType asset =>
    refine .bind (.look _) fun _ => .bind (.check _ _) fun _ => .bind (.ofExcept _) fun _ => ?_
    exact .of_unrefused (.modify_bind fun _ => .pure _)
  | withdraw stream =>
    refine .bind (.look _) fun _ => .bind (.require _ _) fun _ => .bind (.look _) fun _ => ?_
    refine .bind (.require _ _) fun _ => .bind (.ofExcept _) fun _ => ?_
    exact .of_unrefused (.modify_bind fun _ => .pure _)
  | deliver event => exact deliver_checksFirst event
  | requestRemoteWithdraw dstChain stream =>
    refine .bind (.look _) fun _ => .bind (looks_requireActive _) fun _ => .bind (.check _ _) fun _ => ?_
    exact .bind (.look _) fun _ => .of_looks (.pure _)
  | createStream | receive => cases h

/-! ## The opening of a stream -/

theorem looks_draftOf (sender : Account) (terms : StreamTerms) : Looks (draftOf sender terms) :=
  .bind (.check _ _) fun _ => .bind (.check _ _) fun _ => .bind (.look _) fun _ => .pure _

theorem commit_draftOf_eq_ok_iff : (draftOf sender terms).commit s = .ok (draft, t) ↔
    t = s ∧ draft.IsFor s sender terms ∧ Account.validate terms.recipient = .ok draft.recipient := by
  simp only [draftOf, commit_check_bind, commit_look_bind, commit_pure_eq_ok_iff, asset_eq_ok_iff]
  constructor
  · rintro ⟨recipient, hrecipient, tag, htag, holding, hheld, rfl, rfl⟩
    exact ⟨rfl, ⟨rfl, Account.validate_ok hrecipient, htag, hheld, rfl, rfl⟩, hrecipient⟩
  · rintro ⟨rfl, ⟨rfl, -, htag, hheld, hstart, hstop⟩, hrecipient⟩
    refine ⟨_, hrecipient, _, htag, _, hheld, ?_, rfl⟩
    rw [← hstart, ← hstop]

theorem Offered.run_eq (h : Offered s event draft deposit) :
    (event.run env).run s = (openStream env draft deposit).run s := by
  cases h with
  | coin caller coin terms draft isFor recipient funds held =>
    have hdraft : (draftOf caller.sender terms).run s = .ok draft s :=
      commit_eq_ok_iff.1 (commit_draftOf_eq_ok_iff.2 ⟨rfl, isFor, recipient⟩)
    simp only [Event.run, ExecuteCall.run, createStream, EStateM.run_bind, hdraft, held, funds, run_require, if_pos]
  | tokens caller hook terms draft asks isFor sender recipient held =>
    have hdraft : (draftOf draft.sender terms).run s = .ok draft s :=
      commit_eq_ok_iff.1 (commit_draftOf_eq_ok_iff.2 ⟨rfl, ⟨rfl, isFor.2⟩, recipient⟩)
    have hasked : (ofExcept (HookCall.ofPayload hook.payload) : Step HookCall).run s = .ok (.createStream terms) s := by
      rw [asks]
      rfl
    simp only [Event.run, ExecuteCall.run, receive, EStateM.run_bind, run_check, sender, hasked, hdraft, run_require,
      if_pos held]

/-- **A call that opens a stream stops before it writes, or at the opening of what was offered.** -/
theorem stops_of_opens (hopens : event.opens = true) (h : (event.run env).run s = .error e t) :
    t = s ∨ ∃ draft deposit, Offered s event draft deposit ∧ (openStream env draft deposit).run s = .error e t := by
  unfold Event.opens at hopens
  split at hopens
  · rename_i caller terms
    rcases (looks_draftOf _ _).stopped_bind_iff.1 h with ⟨-, rfl⟩ | ⟨draft, hdraft, hfunded⟩
    · exact .inl rfl
    obtain ⟨-, hisFor, hrecipient⟩ := commit_draftOf_eq_ok_iff.1 hdraft
    split at hfunded
    · cases hfunded
      exact .inl rfl
    rename_i denom hdenom
    split at hfunded
    · rename_i coin hfunds
      rcases stopped_require_bind.1 hfunded with ⟨-, rfl⟩ | ⟨rfl, hopen⟩
      · exact .inl rfl
      · exact .inr ⟨draft, coin.amount, .coin caller coin terms draft hisFor hrecipient hfunds hdenom, hopen⟩
    · cases hfunded
      exact .inl rfl
  · rename_i caller hook
    rcases stopped_check_bind.1 h with ⟨-, rfl⟩ | ⟨sender, hsender, hasked⟩
    · exact .inl rfl
    rcases stopped_ofExcept_bind.1 hasked with ⟨-, rfl⟩ | ⟨⟨terms⟩, hasks, hdrafted⟩
    · exact .inl rfl
    rcases (looks_draftOf _ _).stopped_bind_iff.1 hdrafted with ⟨-, rfl⟩ | ⟨draft, hdraft, hheld⟩
    · exact .inl rfl
    rcases stopped_require_bind.1 hheld with ⟨-, rfl⟩ | ⟨hheld, hopen⟩
    · exact .inl rfl
    obtain ⟨-, hisFor, hrecipient⟩ := commit_draftOf_eq_ok_iff.1 hdraft
    obtain rfl := Account.validate_ok hsender
    have hsender : Account.validate hook.sender = .ok draft.sender := by rw [hisFor.1, hsender]
    exact .inr ⟨draft, hook.amount, .tokens caller hook terms draft hasks hisFor hsender hrecipient hheld, hopen⟩
  · cases hopens

theorem openStream_stops (h : (openStream env draft deposit).run s = .error e t) :
    t = s ∨ draft.IsAcceptable deposit env.now ∧ s.nextStreamId = StreamId.last ∧ e = .streamIdsExhausted ∧
      t = s.putStream StreamId.last (draft.toStream StreamId.last deposit env.now) := by
  simp only [openStream, stopped_require_bind, stopped_get_bind, stopped_modify_bind] at h
  obtain ⟨-, rfl⟩ | ⟨hfunded, ⟨-, rfl⟩ | ⟨hschedule, ⟨-, rfl⟩ | ⟨hunfinished, h⟩⟩⟩ := h
  · exact .inl rfl
  · exact .inl rfl
  · exact .inl rfl
  -- the record is written by now, and only the number after it is still looked for
  split at h
  · rename_i hnext
    obtain ⟨rfl, rfl⟩ := stopped_throw_bind.1 h
    have hlast := succ?_eq_none_iff_last.1 hnext
    rw [hlast]
    exact .inr ⟨⟨hfunded, hschedule, hunfinished⟩, rfl, rfl, rfl⟩
  · cases h

theorem Halfway.stops (h : Halfway env s event e t) : (event.run env).run s = .error e t := by
  obtain ⟨hoffered, ⟨hfunded, hschedule, hunfinished⟩, hlast⟩ := h
  rw [hoffered.run_eq]
  simp only [openStream, stopped_require_bind, stopped_get_bind, stopped_modify_bind]
  refine .inr ⟨hfunded, .inr ⟨hschedule, .inr ⟨hunfinished, ?_⟩⟩⟩
  rw [succ?_eq_none_iff_last.2 hlast, hlast]
  exact stopped_throw_bind.2 ⟨rfl, rfl⟩

/-- **What a refused call leaves at a bridge**, whatever its storage holds and whatever time it is.
* `called`, `replied`: the storage as it was, unless the bridge stopped halfway.
* `halfway`: where it is said to stop halfway, it does.
* `kept`: then there is a stream that was not there, as long as no stream had the next number.  None has it in any
  storage that a bridge comes to (`Filed.fresh`). -/
structure Refusals (env : Env) (s : Store) : Prop where
  called : ∀ (caller : Caller) (call : ExecuteCall) e t, (call.run env caller).run s = .error e t →
    t = s ∨ Halfway env s (.execute caller call) e t
  replied : ∀ id e t, ((Event.reply id).run env).run s = .error e t → t = s
  halfway : ∀ event e t, Halfway env s event e t → (event.run env).run s = .error e t
  kept : s.streams.get? s.nextStreamId = none → ∀ event e t, Halfway env s event e t → t ≠ s

theorem Halfway.ne (h : Halfway env s event e t) (hfresh : s.streams.get? s.nextStreamId = none) : t ≠ s := by
  obtain ⟨-, -, hlast⟩ := h
  intro heq
  have hsame := congrArg (·.streams.get? StreamId.last) heq
  simp only [Store.putStream, Table.get?_insert, if_pos, ← hlast, hfresh] at hsame
  cases hsame

theorem refusals (env : Env) (s : Store) : Refusals env s where
  called caller call e t h := by
    cases hopens : (Event.execute caller call).opens with
    | false => exact .inl (ExecuteCall.checksFirst hopens s e t h)
    | true =>
      rcases stops_of_opens hopens h with rfl | ⟨draft, deposit, hoffered, hopen⟩
      · exact .inl rfl
      rcases openStream_stops hopen with rfl | ⟨hacceptable, hlast, rfl, rfl⟩
      · exact .inl rfl
      · exact .inr (.numberless hoffered hacceptable hlast)
  replied id e t h := registered_checksFirst id s e t h
  halfway _ _ _ h := h.stops
  kept hfresh _ _ _ h := h.ne hfresh

end Bridge

namespace Endpoint

variable {s t : Store} {caller : Caller} {call : ExecuteCall} {e : Error}

/-- **An endpoint stops halfway**: a registered application sends, and the host does not take its name.  The number of
the packet is used up. -/
inductive Halfway (s : Store) (caller : Caller) : ExecuteCall → Error → Store → Prop
  | unnamed {config : Config} {dstChain : ChainId} {octets payload : Octets} {dst : WireAddress} {nonce : Nonce}
      {error : AccountError} (registered : s.applications.contains caller.sender = true)
      (configured : s.config = some config) (addressed : WireAddress.ofOctets octets = .ok dst)
      (next : nonce.val = (s.lastSent (dstChain, caller.sender, dst)).val + 1)
      (refused : caller.sender.canonical = .error error) :
    Halfway s caller (.send dstChain octets payload) (.account error)
      { s with outbound := s.outbound.insert (dstChain, caller.sender, dst) nonce }

theorem register_checksFirst (typeInfo : TypeTag) : ChecksFirst (register caller typeInfo) := by
  unfold register
  refine .bind .get fun _ => .bind (.require _ _) fun _ => ?_
  exact .of_unrefused (.modify_bind fun _ => .pure _)

theorem deliver_checksFirst (application : String) (event : DeliveryEvent) :
    ChecksFirst (deliver caller application event) := by
  unfold deliver
  refine .bind (.look _) fun _ => .bind (.require _ _) fun _ => .bind (.check _ _) fun _ => .bind (.look _) fun _ => ?_
  refine .bind (.check _ _) fun _ => .bind (.require _ _) fun _ => .bind (.look _) fun _ => ?_
  exact .bind (.require _ _) fun _ => .of_unrefused (.modify_bind fun _ => .pure _)

theorem send_stops {dstChain : ChainId} {octets payload : Octets}
    (h : (send caller dstChain octets payload).run s = .error e t) :
    t = s ∨ Halfway s caller (.send dstChain octets payload) e t := by
  simp only [send, stopped_look_bind, stopped_check_bind, stopped_modify_bind] at h
  obtain ⟨-, rfl⟩ | ⟨_, hregistered, ⟨-, rfl⟩ | ⟨config, hconfig, ⟨-, rfl⟩ | ⟨dst, hdst, ⟨-, rfl⟩ | ⟨nonce, hnonce,
    ⟨⟨error, hwire, rfl⟩, rfl⟩ | ⟨_, _, h⟩⟩⟩⟩⟩ := h
  · exact .inl rfl
  · exact .inl rfl
  · exact .inl rfl
  · exact .inl rfl
  · exact .inr (.unnamed (verifyRegistered_eq_ok_iff.1 hregistered) (loadConfig_eq_ok_iff.1 hconfig) hdst
      (nextNonce_eq_ok_iff.1 hnonce) (Account.wire_eq_error_iff.1 hwire))
  · cases h

theorem Halfway.stops (h : Halfway s caller call e t) : (call.run caller).run s = .error e t := by
  obtain ⟨hregistered, hconfig, hdst, hnext, hrefused⟩ := h
  simp only [ExecuteCall.run, send, stopped_look_bind, stopped_check_bind, stopped_modify_bind]
  exact .inr ⟨(), verifyRegistered_eq_ok_iff.2 hregistered, .inr ⟨_, loadConfig_eq_ok_iff.2 hconfig, .inr ⟨_, hdst,
    .inr ⟨_, nextNonce_eq_ok_iff.2 hnext, .inl ⟨⟨_, Account.wire_eq_error_iff.2 hrefused, rfl⟩, rfl⟩⟩⟩⟩⟩

theorem Halfway.ne (h : Halfway s caller call e t) : t ≠ s := by
  cases h with
  | @unnamed _ dstChain _ _ dst nonce _ _ _ _ next _ =>
    have hused : { s with outbound := s.outbound.insert (dstChain, caller.sender, dst) nonce : Store }.lastSent
        (dstChain, caller.sender, dst) = nonce := by
      rw [Store.lastSent, Table.get?_insert, if_pos rfl, Option.getD_some]
    intro heq
    rw [heq] at hused
    rw [hused] at next
    exact absurd next (Nat.ne_of_lt (Nat.lt_succ_self _))

/-- **What a refused call leaves at an endpoint**, whatever its storage holds: the storage as it was, unless the
endpoint stopped halfway; and where it is said to, it does, and a number is gone. -/
structure Refusals (s : Store) : Prop where
  called : ∀ (caller : Caller) (call : ExecuteCall) e t, (call.run caller).run s = .error e t →
    t = s ∨ Halfway s caller call e t
  halfway : ∀ caller call e t, Halfway s caller call e t → (call.run caller).run s = .error e t ∧ t ≠ s

theorem refusals (s : Store) : Refusals s where
  called caller call e t h := by
    cases call with
    | register typeInfo => exact .inl (register_checksFirst typeInfo s e t h)
    | send dstChain dst payload => exact send_stops h
    | deliver application event => exact .inl (deliver_checksFirst application event s e t h)
  halfway _ _ _ _ h := ⟨h.stops, h.ne⟩

end Endpoint

/-- **Checks come before writes**: whatever is asked of a bridge or of an endpoint, a refusal leaves the storage as it
was, with the two exceptions named. -/
theorem checks_before_writes (env : Env) (b : Bridge.Store) (s : Endpoint.Store) :
    Bridge.Refusals env b ∧ Endpoint.Refusals s :=
  ⟨Bridge.refusals env b, Endpoint.refusals s⟩

/-- Both exceptions occur: an application with a name of ninety-one octets, and a bridge that has come to the last
number. -/
theorem checks_before_writes_excepted :
    (∃ (s : Endpoint.Store) (caller : Caller) (call : Endpoint.ExecuteCall) (e : Endpoint.Error) (t : Endpoint.Store),
      (call.run caller).run s = .error e t ∧ t ≠ s) ∧
    ∃ (env : Env) (b : Bridge.Store) (event : Bridge.Event) (e : Bridge.Error) (t : Bridge.Store),
      (event.run env).run b = .error e t ∧ t ≠ b := by
  let env : Env := ⟨"bridge", 0⟩
  let tag : TypeTag := ⟨"owner", "Coins", "MFL"⟩
  let caller : Caller := ⟨String.ofList (List.replicate 91 'a'), [⟨"other", 1000⟩]⟩
  let s : Endpoint.Store := { Endpoint.Store.empty with
    config := some ⟨1, "relayer"⟩, applications := (∅ : Table Account TypeTag).insert caller.sender tag }
  let b : Bridge.Store := { Bridge.Store.empty with
    nextStream := some StreamId.last, assets := (∅ : Table Octets Holding).insert tag.key (.native "other") }
  let draft : Bridge.StreamDraft := ⟨caller.sender, "bob", tag, .native "other", 100, 2000⟩
  have hnone : caller.sender.canonical = .error .tooLong := by decide +kernel
  have hregistered : s.applications.contains caller.sender = true := by
    rw [Table.contains, Table.get?_insert, if_pos rfl]
    rfl
  have hsend : Endpoint.Halfway s caller (.send 2 (Account.wireOfOctets []).octets []) _ _ :=
    .unnamed hregistered rfl (WireAddress.ofOctets_octets _) (show (1 : Nonce).val = _ from rfl) hnone
  have htyped : TypeTag.parse "owner::Coins::MFL" = .ok tag := by decide +kernel
  have hheld : b.assets.get? tag.key = some (.native "other") := (Table.get?_insert ..).trans (if_pos rfl)
  let terms : Bridge.StreamTerms := ⟨"bob", "owner::Coins::MFL", 100, 2000⟩
  have hrecipient : Account.validate "bob" = .ok "bob" := rfl
  have hopen : Bridge.Halfway env b (.execute caller (.createStream terms)) _ _ :=
    .numberless (.coin caller ⟨"other", 1000⟩ terms draft ⟨rfl, rfl, htyped, hheld, rfl, rfl⟩ hrecipient rfl rfl)
      ⟨by decide, by decide, by decide⟩ rfl
  obtain ⟨hbridge, hendpoint⟩ := checks_before_writes env b s
  exact ⟨⟨s, caller, _, _, _, hendpoint.halfway _ _ _ _ hsend⟩,
    env, b, _, _, _, hbridge.halfway _ _ _ hopen, hbridge.kept rfl _ _ _ hopen⟩

end VestingBridge
