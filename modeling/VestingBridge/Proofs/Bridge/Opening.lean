import VestingBridge.Proofs.Bridge.Acceptance
import VestingBridge.Proofs.Bridge.Streams
import VestingBridge.Proofs.Json.Document
import VestingBridge.Proofs.Messages
/-!
# Proofs.Bridge.Opening — when a stream is opened, and what comes first when it is not

A stream is opened on terms that name a recipient and an asset type (`Named`), with a deposit and times that make sense
(`Timely`).  Between the two the deposit has to be in the holding that is registered for the type: in a coin that the
caller attaches, or in tokens of the very contract that calls.  What is wrong with the terms and with the deposit is the
same by either way, so it is said once (`Unnamed`, `Untimely`).  Nothing is assumed of the storage.
-/
namespace VestingBridge.Bridge

open Handler

variable {env : Env} {s t : Store} {caller : Caller} {hook : TokenHook} {terms : StreamTerms} {tag : TypeTag}
  {holding : Holding} {sender : Account} {deposit : Amount} {messages : List Outgoing} {e : Error}

/-! ## What is checked, in its order -/

/-- **The terms name a recipient, and a type that is held somewhere.** -/
structure Named (s : Store) (terms : StreamTerms) (tag : TypeTag) (holding : Holding) : Prop where
  recipient : Account.validate terms.recipient = .ok terms.recipient
  typed : TypeTag.parse terms.assetType = .ok tag
  held : s.assets.get? tag.key = some holding

/-- **There is a deposit, the times make sense, and the number is not the last.** -/
structure Timely (env : Env) (s : Store) (terms : StreamTerms) (deposit : Amount) : Prop where
  funded : 0 < deposit.val
  schedule : terms.start < terms.stop
  unfinished : env.now < terms.stop
  numbered : s.nextStreamId < StreamId.last

inductive Unnamed (s : Store) (terms : StreamTerms) : Error → Prop
  | recipient (error : AccountError) (none : Account.validate terms.recipient = .error error) :
    Unnamed s terms (.account error)
  | untyped (error : TagError) (recipient : Account.validate terms.recipient = .ok terms.recipient)
      (none : TypeTag.parse terms.assetType = .error error) : Unnamed s terms (.typeTag error)
  | unheld (tag : TypeTag) (recipient : Account.validate terms.recipient = .ok terms.recipient)
      (typed : TypeTag.parse terms.assetType = .ok tag) (none : s.assets.get? tag.key = none) :
    Unnamed s terms (.noAsset tag)

inductive Untimely (env : Env) (s : Store) (terms : StreamTerms) (deposit : Amount) : Error → Prop
  | unfunded (zero : deposit.val = 0) : Untimely env s terms deposit .zeroDeposit
  | reversed (funded : 0 < deposit.val) (order : terms.stop ≤ terms.start) :
    Untimely env s terms deposit .stopNotAfterStart
  | finished (funded : 0 < deposit.val) (schedule : terms.start < terms.stop) (late : terms.stop ≤ env.now) :
    Untimely env s terms deposit .alreadyFinished
  | exhausted (funded : 0 < deposit.val) (schedule : terms.start < terms.stop) (unfinished : env.now < terms.stop)
      (last : s.nextStreamId = StreamId.last) : Untimely env s terms deposit .streamIdsExhausted

/-- **Why no stream is opened for a caller who attaches coins.** -/
inductive CoinRefused (env : Env) (s : Store) (caller : Caller) (terms : StreamTerms) : Error → Prop
  | unnamed {error} (unnamed : Unnamed s terms error) : CoinRefused env s caller terms error
  | tokens (tag : TypeTag) (token : Account) (named : Named s terms tag (.token token)) :
    CoinRefused env s caller terms (.wrongFunding (.token token))
  | coinCount (tag : TypeTag) (denom : String) (named : Named s terms tag (.native denom))
      (count : caller.funds.length ≠ 1) : CoinRefused env s caller terms (.wrongCoinCount caller.funds.length)
  | otherCoin (tag : TypeTag) (denom : String) (coin : Coin) (named : Named s terms tag (.native denom))
      (funds : caller.funds = [coin]) (other : coin.denom ≠ denom) :
    CoinRefused env s caller terms (.wrongHolding (.native denom) (.native coin.denom))
  | untimely {error} (tag : TypeTag) (coin : Coin) (named : Named s terms tag (.native coin.denom))
      (funds : caller.funds = [coin]) (untimely : Untimely env s terms coin.amount error) :
    CoinRefused env s caller terms error

/-- **Why no stream is opened for a contract that reports tokens.** -/
inductive TokensRefused (env : Env) (s : Store) (caller : Caller) (hook : TokenHook) : Error → Prop
  | sender (error : AccountError) (none : Account.validate hook.sender = .error error) :
    TokensRefused env s caller hook (.account error)
  | unreadable (sender : Account.validate hook.sender = .ok hook.sender)
      (none : ∀ call, HookCall.ofPayload hook.payload ≠ .ok call) : TokensRefused env s caller hook .unreadable
  | unnamed {error} (terms : StreamTerms) (sender : Account.validate hook.sender = .ok hook.sender)
      (asks : HookCall.ofPayload hook.payload = .ok (.createStream terms)) (unnamed : Unnamed s terms error) :
    TokensRefused env s caller hook error
  | otherToken (terms : StreamTerms) (tag : TypeTag) (holding : Holding)
      (sender : Account.validate hook.sender = .ok hook.sender)
      (asks : HookCall.ofPayload hook.payload = .ok (.createStream terms)) (named : Named s terms tag holding)
      (other : holding ≠ .token caller.sender) :
    TokensRefused env s caller hook (.wrongHolding holding (.token caller.sender))
  | untimely {error} (terms : StreamTerms) (tag : TypeTag) (sender : Account.validate hook.sender = .ok hook.sender)
      (asks : HookCall.ofPayload hook.payload = .ok (.createStream terms))
      (named : Named s terms tag (.token caller.sender)) (untimely : Untimely env s terms hook.amount error) :
    TokensRefused env s caller hook error

/-! ## The terms -/

def StreamTerms.toDraft (terms : StreamTerms) (sender : Account) (tag : TypeTag) (holding : Holding) : StreamDraft :=
  { sender, recipient := terms.recipient, assetType := tag, asset := holding, start := terms.start, stop := terms.stop }

/-- **The stream that is opened on some terms**, with the whole deposit and nothing of it withdrawn. -/
def StreamTerms.opened (terms : StreamTerms) (id : StreamId) (funder : Account) (tag : TypeTag) (holding : Holding)
    (deposit : Amount) (now : Seconds) : Stream :=
  { id, sender := funder, recipient := terms.recipient, assetType := tag, asset := holding, deposit, withdrawn := 0,
    start := terms.start, stop := terms.stop, created := now }

theorem toStream_toDraft (terms : StreamTerms) (id : StreamId) (now : Seconds) :
    (terms.toDraft sender tag holding).toStream id deposit now = terms.opened id sender tag holding deposit now := rfl

/-- The storage that the opening of a stream leaves: the stream under the next number, and the number after it. -/
def Store.afterOpening (s : Store) (stream : Stream) (next : StreamId) : Store :=
  { s.putStream s.nextStreamId stream with nextStream := some next }

theorem commit_draftOf_bind_iff {f : StreamDraft → Step Response} {r : Response} :
    (draftOf sender terms >>= f).commit s = .ok (r, t) ↔
      ∃ tag holding, Named s terms tag holding ∧ (f (terms.toDraft sender tag holding)).commit s = .ok (r, t) := by
  simp only [draftOf, bind_assoc, pure_bind, commit_look_bind, commit_check_bind, asset_eq_ok_iff]
  constructor
  · rintro ⟨recipient, hrecipient, tag, htyped, holding, hheld, h⟩
    cases Account.validate_ok hrecipient
    exact ⟨tag, holding, ⟨hrecipient, htyped, hheld⟩, h⟩
  · rintro ⟨tag, holding, ⟨hrecipient, htyped, hheld⟩, h⟩
    exact ⟨terms.recipient, hrecipient, tag, htyped, holding, hheld, h⟩

theorem refused_draftOf_bind_iff {f : StreamDraft → Step Response} :
    (draftOf sender terms >>= f).commit s = .error e ↔ Unnamed s terms e ∨
      ∃ tag holding, Named s terms tag holding ∧ (f (terms.toDraft sender tag holding)).commit s = .error e := by
  simp only [draftOf, bind_assoc, pure_bind, refused_look_bind, refused_check_bind, asset_eq_ok_iff, asset_eq_error_iff]
  constructor
  · rintro (⟨error, hnone, rfl⟩ | ⟨recipient, hrecipient, h⟩)
    · exact .inl (.recipient error hnone)
    cases Account.validate_ok hrecipient
    rcases h with ⟨error, hnone, rfl⟩ | ⟨tag, htyped, ⟨hnone, rfl⟩ | ⟨holding, hheld, h⟩⟩
    · exact .inl (.untyped error hrecipient hnone)
    · exact .inl (.unheld tag hrecipient htyped hnone)
    · exact .inr ⟨tag, holding, ⟨hrecipient, htyped, hheld⟩, h⟩
  · rintro (h | ⟨tag, holding, ⟨hrecipient, htyped, hheld⟩, h⟩)
    · cases h with
      | recipient error hnone => exact .inl ⟨error, hnone, rfl⟩
      | untyped error hrecipient hnone => exact .inr ⟨_, hrecipient, .inl ⟨error, hnone, rfl⟩⟩
      | unheld tag hrecipient htyped hnone => exact .inr ⟨_, hrecipient, .inr ⟨tag, htyped, .inl ⟨hnone, rfl⟩⟩⟩
    · exact .inr ⟨_, hrecipient, .inr ⟨tag, htyped, .inr ⟨holding, hheld, h⟩⟩⟩

/-! ## The deposit and the times -/

theorem exists_succ_iff {id : StreamId} : (∃ next : StreamId, next.val = id.val + 1) ↔ id < StreamId.last := by
  rw [Fin.lt_def]
  constructor
  · rintro ⟨next, hnext⟩
    have hlt := next.isLt
    rw [hnext] at hlt
    exact Nat.lt_of_succ_lt_succ hlt
  · intro hlt
    exact ⟨⟨id.val + 1, Nat.succ_lt_succ hlt⟩, rfl⟩

/-- **A stream is opened exactly if the deposit and the times allow it.** -/
theorem openStream_iff :
    (∃ r, (openStream env (terms.toDraft sender tag holding) deposit).commit s = .ok (r, t) ∧ r.messages = messages) ↔
      Timely env s terms deposit ∧ messages = [] ∧ ∃ next : StreamId, next.val = s.nextStreamId.val + 1 ∧
        t = s.afterOpening (terms.opened s.nextStreamId sender tag holding deposit env.now) next := by
  rw [← toStream_toDraft]
  constructor
  · rintro ⟨r, h, rfl⟩
    obtain ⟨hsilent, hfunded, hschedule, hunfinished, next, hnext, rfl⟩ := openStream_ok h
    exact ⟨⟨Nat.pos_of_ne_zero hfunded, hschedule, hunfinished, exists_succ_iff.1 ⟨next, hnext⟩⟩, hsilent, next, hnext,
      rfl⟩
  · rintro ⟨⟨hfunded, hschedule, hunfinished, -⟩, rfl, next, hnext, rfl⟩
    simp only [openStream, commit_get_bind, commit_require_bind, commit_modify_bind, Word.succ?_eq_some_iff.2 hnext,
      commit_pure_eq_ok_iff]
    exact ⟨_, ⟨Nat.ne_of_gt hfunded, hschedule, hunfinished, rfl, rfl⟩, rfl⟩

theorem succ?_eq_none_iff_last {id : StreamId} : id.succ? = none ↔ id = StreamId.last := by
  rw [Word.succ?_eq_none_iff, Fin.ext_iff]
  exact Nat.succ_inj

/-- **A stream that is not opened is told the first thing that is wrong with the deposit or the times.** -/
theorem refused_openStream_iff :
    (openStream env (terms.toDraft sender tag holding) deposit).commit s = .error e ↔
      Untimely env s terms deposit e := by
  simp only [openStream, refused_get_bind, refused_require_bind, refused_modify_bind]
  constructor
  · rintro (⟨hzero, rfl⟩ | ⟨hfunded, ⟨horder, rfl⟩ | ⟨hschedule, ⟨hlate, rfl⟩ | ⟨hunfinished, h⟩⟩⟩)
    · exact .unfunded (not_not.1 hzero)
    · exact .reversed (Nat.pos_of_ne_zero hfunded) (Fin.not_lt.1 horder)
    · exact .finished (Nat.pos_of_ne_zero hfunded) hschedule (Fin.not_lt.1 hlate)
    · split at h
      · rename_i hnext
        cases refused_throw_bind.1 h
        exact .exhausted (Nat.pos_of_ne_zero hfunded) hschedule hunfinished (succ?_eq_none_iff_last.1 hnext)
      · simp only [refused_modify_bind, refused_pure] at h
  · intro h
    cases h with
    | unfunded hzero => exact .inl ⟨not_not.2 hzero, rfl⟩
    | reversed hfunded horder => exact .inr ⟨Nat.ne_of_gt hfunded, .inl ⟨Fin.not_lt.2 horder, rfl⟩⟩
    | finished hfunded hschedule hlate =>
      exact .inr ⟨Nat.ne_of_gt hfunded, .inr ⟨hschedule, .inl ⟨Fin.not_lt.2 hlate, rfl⟩⟩⟩
    | exhausted hfunded hschedule hunfinished hlast =>
      refine .inr ⟨Nat.ne_of_gt hfunded, .inr ⟨hschedule, .inr ⟨hunfinished, ?_⟩⟩⟩
      rw [succ?_eq_none_iff_last.2 hlast]
      exact refused_throw_bind.2 rfl

/-! ## The two ways -/

theorem createStream_iff :
    (∃ r, (createStream env caller terms).commit s = .ok (r, t) ∧ r.messages = messages) ↔
      ∃ tag coin, Named s terms tag (.native coin.denom) ∧ caller.funds = [coin] ∧ Timely env s terms coin.amount ∧
        messages = [] ∧ ∃ next : StreamId, next.val = s.nextStreamId.val + 1 ∧
        t = s.afterOpening
          (terms.opened s.nextStreamId caller.sender tag (.native coin.denom) coin.amount env.now) next := by
  constructor
  · rintro ⟨r, h, hmessages⟩
    obtain ⟨tag, holding, hnamed, h⟩ := commit_draftOf_bind_iff.1 h
    obtain ⟨coin, hfunds, rfl, h⟩ : ∃ coin, caller.funds = [coin] ∧ holding = .native coin.denom ∧
        (openStream env (terms.toDraft caller.sender tag holding) coin.amount).commit s = .ok (r, t) := by
      split at h
      · cases commit_throw_eq_ok_iff.1 h
      · rename_i denom hdenom
        split at h
        · rename_i coin hfunds
          obtain ⟨rfl, hopen⟩ := commit_require_bind.1 h
          exact ⟨coin, hfunds, hdenom, hopen⟩
        · cases commit_throw_eq_ok_iff.1 h
    obtain ⟨htimely, hsilent, hopened⟩ := openStream_iff.1 ⟨r, h, hmessages⟩
    exact ⟨tag, coin, hnamed, hfunds, htimely, hsilent, hopened⟩
  · rintro ⟨tag, coin, hnamed, hfunds, htimely, hsilent, hopened⟩
    obtain ⟨r, h, hmessages⟩ := openStream_iff.2 ⟨htimely, hsilent, hopened⟩
    refine ⟨r, commit_draftOf_bind_iff.2 ⟨tag, .native coin.denom, hnamed, ?_⟩, hmessages⟩
    simp only [StreamTerms.toDraft, hfunds, commit_require_bind]
    exact ⟨trivial, h⟩

theorem receive_iff :
    (∃ r, (receive env caller hook).commit s = .ok (r, t) ∧ r.messages = messages) ↔
      ∃ terms tag, Account.validate hook.sender = .ok hook.sender ∧
        HookCall.ofPayload hook.payload = .ok (.createStream terms) ∧ Named s terms tag (.token caller.sender) ∧
        Timely env s terms hook.amount ∧ messages = [] ∧ ∃ next : StreamId, next.val = s.nextStreamId.val + 1 ∧
        t = s.afterOpening
          (terms.opened s.nextStreamId hook.sender tag (.token caller.sender) hook.amount env.now) next := by
  constructor
  · rintro ⟨r, h, hmessages⟩
    simp only [receive, commit_check_bind, commit_ofExcept_bind, commit_draftOf_bind_iff, commit_require_bind] at h
    obtain ⟨sender, hsender, ⟨terms⟩, hasks, tag, holding, hnamed, rfl, h⟩ := h
    cases Account.validate_ok hsender
    obtain ⟨htimely, hsilent, hopened⟩ := openStream_iff.1 ⟨r, h, hmessages⟩
    exact ⟨terms, tag, hsender, hasks, hnamed, htimely, hsilent, hopened⟩
  · rintro ⟨terms, tag, hsender, hasks, hnamed, htimely, hsilent, hopened⟩
    obtain ⟨r, h, hmessages⟩ := openStream_iff.2 ⟨htimely, hsilent, hopened⟩
    refine ⟨r, ?_, hmessages⟩
    simp only [receive, commit_check_bind, commit_ofExcept_bind, commit_draftOf_bind_iff, commit_require_bind]
    exact ⟨hook.sender, hsender, _, hasks, tag, _, hnamed, rfl, h⟩

theorem refused_createStream_iff :
    (createStream env caller terms).commit s = .error e ↔ CoinRefused env s caller terms e := by
  rw [createStream, refused_draftOf_bind_iff]
  constructor
  · rintro (h | ⟨tag, holding, hnamed, h⟩)
    · exact .unnamed h
    cases holding with
    | token token =>
      cases refused_throw.1 h
      exact .tokens tag token hnamed
    | native denom =>
      simp only [StreamTerms.toDraft] at h
      split at h
      · rename_i coin hfunds
        rcases refused_require_bind.1 h with ⟨hother, rfl⟩ | ⟨rfl, hopen⟩
        · exact .otherCoin tag denom coin hnamed hfunds hother
        · exact .untimely tag coin hnamed hfunds (refused_openStream_iff.1 hopen)
      · rename_i hnone
        cases refused_throw.1 h
        refine .coinCount tag denom hnamed fun hcount => ?_
        obtain ⟨coin, hfunds⟩ := List.length_eq_one_iff.1 hcount
        exact hnone coin hfunds
  · intro h
    cases h with
    | unnamed h => exact .inl h
    | tokens tag token hnamed => exact .inr ⟨tag, _, hnamed, refused_throw.2 rfl⟩
    | coinCount tag denom hnamed hcount =>
      refine .inr ⟨tag, _, hnamed, ?_⟩
      simp only [StreamTerms.toDraft]
      split
      · rename_i coin hfunds
        rw [hfunds] at hcount
        exact absurd rfl hcount
      · exact refused_throw.2 rfl
    | otherCoin tag denom coin hnamed hfunds hother =>
      refine .inr ⟨tag, _, hnamed, ?_⟩
      simp only [StreamTerms.toDraft, hfunds]
      exact refused_require_bind.2 (.inl ⟨hother, rfl⟩)
    | untimely tag coin hnamed hfunds h =>
      refine .inr ⟨tag, _, hnamed, ?_⟩
      simp only [StreamTerms.toDraft, hfunds]
      exact refused_require_bind.2 (.inr ⟨rfl, refused_openStream_iff.2 h⟩)

theorem ofPayload_eq_error_iff {payload : Octets} :
    HookCall.ofPayload payload = .error e ↔ (∀ call, HookCall.ofPayload payload ≠ .ok call) ∧ e = .unreadable := by
  unfold HookCall.ofPayload
  split
  · simp
  · simp [eq_comm]

theorem refused_receive_iff : (receive env caller hook).commit s = .error e ↔ TokensRefused env s caller hook e := by
  simp only [receive, refused_check_bind, refused_ofExcept_bind, refused_draftOf_bind_iff, refused_require_bind,
    ofPayload_eq_error_iff, refused_openStream_iff]
  constructor
  · rintro (⟨error, hnone, rfl⟩ | ⟨sender, hsender, h⟩)
    · exact .sender error hnone
    cases Account.validate_ok hsender
    rcases h with ⟨hnone, rfl⟩ | ⟨⟨terms⟩, hasks, h | ⟨tag, holding, hnamed, ⟨hother, rfl⟩ | ⟨rfl, h⟩⟩⟩
    · exact .unreadable hsender hnone
    · exact .unnamed terms hsender hasks h
    · exact .otherToken terms tag holding hsender hasks hnamed hother
    · exact .untimely terms tag hsender hasks hnamed h
  · intro h
    cases h with
    | sender error hnone => exact .inl ⟨error, hnone, rfl⟩
    | unreadable hsender hnone => exact .inr ⟨_, hsender, .inl ⟨hnone, rfl⟩⟩
    | unnamed terms hsender hasks h => exact .inr ⟨_, hsender, .inr ⟨_, hasks, .inl h⟩⟩
    | otherToken terms tag holding hsender hasks hnamed hother =>
      exact .inr ⟨_, hsender, .inr ⟨_, hasks, .inr ⟨tag, holding, hnamed, .inl ⟨hother, rfl⟩⟩⟩⟩
    | untimely terms tag hsender hasks hnamed h =>
      exact .inr ⟨_, hsender, .inr ⟨_, hasks, .inr ⟨tag, _, hnamed, .inr ⟨rfl, h⟩⟩⟩⟩

/-! ## The call in a token transfer -/

theorem HookCall.ofJson?_toJson (call : HookCall) : ofJson? call.toJson = some call := by
  cases call with
  | createStream terms =>
    simp [ofJson?, toJson, StreamTerms.members, StreamTerms.ofJson?, Json.variant, Json.variant?, Json.record?,
      Record.text?, Record.word?, Record.get?, List.lookup_cons, Json.text?, Json.word?_ofWord]

theorem HookCall.isWritten_toJson (call : HookCall) : call.toJson.IsWritten := by
  cases call with
  | createStream terms =>
    refine .variant fun m hm => ?_
    simp only [StreamTerms.members, List.mem_cons, List.not_mem_nil, or_false] at hm
    rcases hm with rfl | rfl | rfl | rfl
    · exact .string _
    · exact .string _
    · exact .count _
    · exact .count _

/-- **A call that is sent along with tokens as a text is read as it was put.** -/
theorem ofPayload_encode_render (call : HookCall) :
    HookCall.ofPayload (Text.Utf8.encode call.toJson.render) = .ok call := by
  rw [HookCall.ofPayload, Json.ofOctets?_encode_render call.isWritten_toJson, Option.bind_some, call.ofJson?_toJson]

/-! ## The last number -/

/-- **A stream is offered to a bridge**: with one native coin, or with tokens that their contract reports, and either
way in the holding that is registered for its type. -/
inductive Offered (s : Store) : Event → StreamDraft → Amount → Prop
  | coin (caller : Caller) (coin : Coin) (terms : StreamTerms) (draft : StreamDraft)
      (isFor : draft.IsFor s caller.sender terms) (recipient : Account.validate terms.recipient = .ok draft.recipient)
      (funds : caller.funds = [coin]) (held : draft.asset = .native coin.denom) :
    Offered s (.execute caller (.createStream terms)) draft coin.amount
  | tokens (caller : Caller) (hook : TokenHook) (terms : StreamTerms) (draft : StreamDraft)
      (asks : HookCall.ofPayload hook.payload = .ok (.createStream terms))
      (isFor : draft.IsFor s hook.sender terms) (sender : Account.validate hook.sender = .ok draft.sender)
      (recipient : Account.validate terms.recipient = .ok draft.recipient)
      (held : draft.asset = .token caller.sender) :
    Offered s (.execute caller (.receive hook)) draft hook.amount

/-- There is a deposit, and the times make sense. -/
structure StreamDraft.IsAcceptable (draft : StreamDraft) (deposit : Amount) (now : Seconds) : Prop where
  funded : deposit.val ≠ 0
  schedule : draft.start < draft.stop
  unfinished : now < draft.stop

variable {draft : StreamDraft} {event : Event}

theorem Named.isFor (h : Named s terms tag holding) : (terms.toDraft sender tag holding).IsFor s sender terms :=
  ⟨rfl, rfl, h.typed, h.held, rfl, rfl⟩

theorem StreamDraft.IsFor.named (h : draft.IsFor s sender terms)
    (recipient : Account.validate terms.recipient = .ok draft.recipient) :
    Named s terms draft.assetType draft.asset := by
  obtain ⟨-, hrecipient, typed, held, -, -⟩ := h
  rw [hrecipient] at recipient
  exact ⟨recipient, typed, held⟩

theorem untimely_exhausted_iff (hlast : s.nextStreamId = StreamId.last) (start : draft.start = terms.start)
    (stop : draft.stop = terms.stop) :
    Untimely env s terms deposit .streamIdsExhausted ↔ draft.IsAcceptable deposit env.now := by
  constructor
  · intro h
    cases h with
    | exhausted funded schedule unfinished =>
      rw [← start, ← stop] at schedule
      rw [← stop] at unfinished
      exact ⟨Nat.ne_of_gt funded, schedule, unfinished⟩
  · rintro ⟨funded, schedule, unfinished⟩
    rw [start, stop] at schedule
    rw [stop] at unfinished
    exact .exhausted (Nat.pos_of_ne_zero funded) schedule unfinished hlast

/-- **A bridge that has no number left stops short exactly at a stream that it would take otherwise.** -/
theorem exhausted_iff (hopens : event.opens = true) (hfull : s.nextStreamId.val + 1 = 0x10000000000000000) :
    (event.run env).commit s = .error .streamIdsExhausted ↔
      ∃ draft deposit, Offered s event draft deposit ∧ draft.IsAcceptable deposit env.now := by
  have hlast : s.nextStreamId = StreamId.last := succ?_eq_none_iff_last.1 (Word.succ?_eq_none_iff.2 hfull)
  unfold Event.opens at hopens
  split at hopens
  · rename_i caller terms
    refine refused_createStream_iff.trans ⟨?_, ?_⟩
    · intro h
      cases h with
      | unnamed h => cases h
      | untimely tag coin named funds h =>
        exact ⟨_, coin.amount, .coin caller coin terms _ named.isFor named.recipient funds rfl,
          (untimely_exhausted_iff hlast rfl rfl).1 h⟩
    · rintro ⟨draft, deposit, hoffered, hacceptable⟩
      cases hoffered with
      | coin caller coin terms draft isFor recipient funds held =>
        have hnamed := isFor.named recipient
        rw [held] at hnamed
        obtain ⟨-, -, -, -, start, stop⟩ := isFor
        exact .untimely draft.assetType coin hnamed funds ((untimely_exhausted_iff hlast start stop).2 hacceptable)
  · rename_i caller hook
    refine refused_receive_iff.trans ⟨?_, ?_⟩
    · intro h
      cases h with
      | unnamed terms sender asks h => cases h
      | untimely terms tag sender asks named h =>
        exact ⟨_, hook.amount, .tokens caller hook terms _ asks named.isFor sender named.recipient rfl,
          (untimely_exhausted_iff hlast rfl rfl).1 h⟩
    · rintro ⟨draft, deposit, hoffered, hacceptable⟩
      cases hoffered with
      | tokens caller hook terms draft asks isFor sender recipient held =>
        have hnamed := isFor.named recipient
        rw [held] at hnamed
        obtain ⟨hsender, -, -, -, start, stop⟩ := isFor
        rw [hsender] at sender
        exact .untimely terms draft.assetType sender asks hnamed
          ((untimely_exhausted_iff hlast start stop).2 hacceptable)
  · cases hopens

theorem refused_of_full (hopens : event.opens = true) (hfull : s.nextStreamId.val + 1 = 0x10000000000000000) :
    ∃ e, (event.run env).commit s = .error e := by
  cases h : (event.run env).commit s with
  | error e => exact ⟨e, rfl⟩
  | ok p =>
    obtain ⟨r, t⟩ := p
    cases change_of_landed h with
    | opened _ _ _ next _ _ _ _ _ _ advanced =>
      have := next.isLt
      omega
    | created | upgraded | appointed | registered | stopped | resumed | trusted | mapped | assigned | withdrawn
    | delivered | requested => cases hopens

/-! ## The opening as a whole -/

/-- **How a stream is opened**, in a storage at a time and for a caller.
* `coin`, `tokens`: exactly if the checks of that way are passed.  Then the stream that the terms describe is kept
  under the next number, and the number after it comes next; nothing else changes, and nothing is sent.
* `coin_refused`, `tokens_refused`: otherwise the first check that is not passed is told, and there is no storage after
  it.
* `readable`: terms that are sent along with tokens as a text are read as they were put.
* `fresh`: in every storage that a bridge comes to, the next number is one that no stream has. -/
structure OpensExactly (env : Env) (s : Store) (caller : Caller) : Prop where
  coin : ∀ terms t messages,
    (∃ r, (createStream env caller terms).commit s = .ok (r, t) ∧ r.messages = messages) ↔
      ∃ tag coin, Named s terms tag (.native coin.denom) ∧ caller.funds = [coin] ∧ Timely env s terms coin.amount ∧
        messages = [] ∧ ∃ next : StreamId, next.val = s.nextStreamId.val + 1 ∧
        t = s.afterOpening
          (terms.opened s.nextStreamId caller.sender tag (.native coin.denom) coin.amount env.now) next
  coin_refused : ∀ terms e, (createStream env caller terms).commit s = .error e ↔ CoinRefused env s caller terms e
  tokens : ∀ hook t messages,
    (∃ r, (receive env caller hook).commit s = .ok (r, t) ∧ r.messages = messages) ↔
      ∃ terms tag, Account.validate hook.sender = .ok hook.sender ∧
        HookCall.ofPayload hook.payload = .ok (.createStream terms) ∧ Named s terms tag (.token caller.sender) ∧
        Timely env s terms hook.amount ∧ messages = [] ∧ ∃ next : StreamId, next.val = s.nextStreamId.val + 1 ∧
        t = s.afterOpening
          (terms.opened s.nextStreamId hook.sender tag (.token caller.sender) hook.amount env.now) next
  tokens_refused : ∀ hook e, (receive env caller hook).commit s = .error e ↔ TokensRefused env s caller hook e
  readable : ∀ terms, HookCall.ofPayload (Text.Utf8.encode (HookCall.createStream terms).toJson.render) =
    .ok (.createStream terms)
  fresh : ∀ log, History env.self log s → s.streams.get? s.nextStreamId = none

/-- **Exactly the streams that pass every check are opened**, by either way and whatever the storage holds. -/
theorem opening_exact (env : Env) (s : Store) (caller : Caller) : OpensExactly env s caller where
  coin _ _ _ := createStream_iff
  coin_refused _ _ := refused_createStream_iff
  tokens _ _ _ := receive_iff
  tokens_refused _ _ := refused_receive_iff
  readable terms := ofPayload_encode_render (.createStream terms)
  fresh _ h := h.filed.fresh

end VestingBridge.Bridge
