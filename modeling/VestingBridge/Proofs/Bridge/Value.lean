import VestingBridge.Proofs.Bridge.Run
import VestingBridge.Proofs.Stream
/-!
# Proofs.Bridge.Value — what a landed event does with value

Value comes in as the deposit of a stream and goes out as a payment from one.  Which deposit an event brings and which
stream it draws on is read off the event alone, and what it pays off the messages that were sent.  Every event that
lands leaves value alone, opens one stream, or draws on one (`dealing_of_landed`).
-/
namespace VestingBridge

/-- A payment: out of which holding, to whom, and how much. -/
structure Payment where
  holding : Holding
  recipient : Account
  amount : Amount
deriving DecidableEq

/-- **The payment that a message makes**, if it makes one. -/
def Message.payment? : Message → Option Payment
  | .pay recipient [coin] => some ⟨.native coin.denom, recipient, coin.amount⟩
  | .call contract (.transfer recipient amount) [] => some ⟨.token contract, recipient, amount⟩
  | _ => none

@[simp] theorem payment?_payment (h : Holding) (recipient : Account) (amount : Amount) :
    (h.payment recipient amount).payment? = some ⟨h, recipient, amount⟩ := by
  cases h <;> rfl

/-- A payment is made by one message only. -/
theorem payment?_eq_some_iff {m : Message} {p : Payment} :
    m.payment? = some p ↔ m = p.holding.payment p.recipient p.amount := by
  constructor
  · intro h
    unfold Message.payment? at h
    split at h
    · cases h
      rfl
    · cases h
      rfl
    · cases h
  · rintro rfl
    exact payment?_payment ..

/-- **The messages are one payment**, and nothing else is sent. -/
def Pays (messages : List Outgoing) (p : Payment) : Prop :=
  ∃ message, messages = [⟨message, none⟩] ∧ message.payment? = some p

theorem pays_iff {messages : List Outgoing} {p : Payment} :
    Pays messages p ↔ messages = [⟨p.holding.payment p.recipient p.amount, none⟩] := by
  simp only [Pays, payment?_eq_some_iff, exists_eq_right]

/-- A stream as it is when it has just been opened. -/
structure Stream.IsOpened (stream : Stream) (id : StreamId) (now : Seconds) : Prop where
  numbered : stream.id = id
  untouched : stream.withdrawn = Amount.zero
  funded : stream.deposit.val ≠ 0
  schedule : stream.start < stream.stop
  unfinished : now < stream.stop
  created : stream.created = now

namespace Bridge

/-- A deposit: in which holding, and how much. -/
structure Deposit where
  holding : Holding
  amount : Amount
deriving DecidableEq

/-- **The deposit that an event brings**: the one coin of a caller who opens a stream, or the tokens that a token
contract reports. -/
def Event.deposit? : Event → Option Deposit
  | .execute caller (.createStream _) =>
    match caller.funds with
    | [coin] => some ⟨.native coin.denom, coin.amount⟩
    | _ => none
  | .execute caller (.receive hook) => some ⟨.token caller.sender, hook.amount⟩
  | _ => none

/-- **The stream that an event draws on**: the one that the recipient names, or the one that the packet's request
names. -/
def Event.drawsOn? : Event → Option StreamId
  | .execute _ (.withdraw id) => some id
  | .execute _ (.deliver event) =>
    match event.rebuild with
    | .ok packet =>
      match WithdrawRequest.parse packet.payload with
      | .ok (.withdraw id) => some id
      | .error _ => none
    | .error _ => none
  | _ => none

def Landing.payments (l : Landing) : List Payment := l.response.messages.filterMap (·.message.payment?)

variable {self : Account} {env : Env} {s t u : Store} {r : Response} {event : Event} {log more : List Landing}

/-- **How a landed event deals with value.** -/
inductive Dealing (env : Env) (s : Store) (event : Event) (r : Response) (t : Store) : Prop
  | aside (deposit : event.deposit? = none) (draws : event.drawsOn? = none)
      (unpaid : r.messages.filterMap (·.message.payment?) = []) (streams : t.streams = s.streams)
      (next : t.nextStreamId = s.nextStreamId)
  | opened (stream : Stream) (deposit : event.deposit? = some ⟨stream.asset, stream.deposit⟩)
      (draws : event.drawsOn? = none) (silent : r.messages = []) (isOpened : stream.IsOpened s.nextStreamId env.now)
      (streams : t.streams = s.streams.insert s.nextStreamId stream)
      (next : t.nextStreamId.val = s.nextStreamId.val + 1)
  | drawn (id : StreamId) (stream : Stream) (amount withdrawn : Amount) (deposit : event.deposit? = none)
      (draws : event.drawsOn? = some id) (found : s.streams.get? id = some stream)
      (due : amount = stream.withdrawable env.now) (sum : withdrawn.val = stream.withdrawn.val + amount.val)
      (paid : r.messages = [⟨stream.payout amount, none⟩])
      (streams : t.streams = s.streams.insert id { stream with withdrawn })
      (next : t.nextStreamId = s.nextStreamId)

theorem aside_of_eq (deposit : event.deposit? = none) (draws : event.drawsOn? = none) (silent : r.messages = [])
    (streams : t.streams = s.streams) (next : t.nextStream = s.nextStream) : Dealing env s event r t :=
  .aside deposit draws (by rw [silent]; rfl) streams (by rw [Store.nextStreamId, next, Store.nextStreamId])

theorem opened_of_openStream {draft : StreamDraft} {deposit : Amount}
    (hdeposit : event.deposit? = some ⟨draft.asset, deposit⟩) (draws : event.drawsOn? = none)
    (h : (openStream env draft deposit).commit s = .ok (r, t)) : Dealing env s event r t := by
  obtain ⟨hr, hfunded, hstart, hnow, next, hnext, rfl⟩ := openStream_ok h
  exact .opened (draft.toStream s.nextStreamId deposit env.now) hdeposit draws hr
    ⟨rfl, rfl, hfunded, hstart, hnow, rfl⟩ rfl hnext

theorem drawn_of_released {id : StreamId} {stream left : Stream} {amount : Amount} (deposit : event.deposit? = none)
    (draws : event.drawsOn? = some id) (found : s.streams.get? id = some stream)
    (hleft : released stream env.now = .ok (amount, left)) (paid : r.messages = [⟨left.payout amount, none⟩])
    (streams : t.streams = s.streams.insert id left) (next : t.nextStream = s.nextStream) :
    Dealing env s event r t := by
  obtain ⟨due, -, withdrawn, sum, rfl⟩ := released_ok hleft
  exact .drawn id stream amount withdrawn deposit draws found due sum paid streams
    (by rw [Store.nextStreamId, next, Store.nextStreamId])

/-- **Every event that lands leaves value alone, opens one stream, or draws on one.** -/
theorem dealing_of_landed (hblank : event.isCreate = true → s.IsBlank)
    (h : (event.run env).commit s = .ok (r, t)) : Dealing env s event r t := by
  cases event with
  | create caller setup =>
    obtain ⟨-, hr, rfl⟩ := create_ok h
    refine .aside rfl rfl (by rw [hr]; rfl) rfl ?_
    rw [hblank rfl]
    rfl
  | reply id =>
    obtain ⟨-, hr, config, -, -, rfl⟩ := registered_ok h
    exact aside_of_eq rfl rfl hr rfl rfl
  | upgrade =>
    obtain ⟨hr, rfl⟩ := upgrade_ok h
    exact aside_of_eq rfl rfl hr rfl rfl
  | execute caller call =>
    cases call with
    | appoint admin authority =>
      obtain ⟨config, typeInfo, -, -, -, -, hr, rfl⟩ := appoint_ok h
      exact .aside rfl rfl (by rw [hr]; rfl) rfl rfl
    | pause | unpause =>
      obtain ⟨hr, config, -, -, rfl⟩ := setPaused_ok h
      exact aside_of_eq rfl rfl hr rfl rfl
    | setTrustedRemote chain text =>
      obtain ⟨hr, -, -, address, -, -, rfl⟩ := setTrustedRemote_ok h
      exact aside_of_eq rfl rfl hr rfl rfl
    | setCoinMap chain text assetType =>
      obtain ⟨hr, -, -, address, tag, -, -, rfl⟩ := setCoinMap_ok h
      exact aside_of_eq rfl rfl hr rfl rfl
    | registerAsset assetType holding =>
      obtain ⟨hr, -, tag, normal, -, -, rfl⟩ := registerAsset_ok h
      exact aside_of_eq rfl rfl hr rfl rfl
    | createStream terms =>
      obtain ⟨draft, coin, -, hfunds, hasset, h⟩ := createStream_ok h
      exact opened_of_openStream (by simp only [Event.deposit?, hfunds, hasset]) rfl h
    | receive hook =>
      obtain ⟨draft, terms, -, -, hasset, h⟩ := receive_ok h
      exact opened_of_openStream (by simp only [Event.deposit?, hasset]) rfl h
    | withdraw id =>
      obtain ⟨config, stream, amount, left, -, -, hfound, -, hleft, hr, rfl⟩ := withdraw_ok h
      exact drawn_of_released rfl rfl hfound hleft hr rfl rfl
    | deliver delivery =>
      obtain ⟨config, packet, id, stream, remoteAsset, tag, amount, left, -, -, -, -, hpacket, -, -, -, -, hrequest,
        hfound, -, -, -, hleft, hr, rfl⟩ := deliver_ok h
      exact drawn_of_released rfl (by simp only [Event.drawsOn?, hpacket, hrequest]) hfound hleft hr rfl rfl
    | requestRemoteWithdraw chain value =>
      obtain ⟨config, id, remote, -, -, -, -, -, hr, rfl⟩ := requestRemoteWithdraw_ok h
      exact .aside rfl rfl (by rw [hr]; rfl) rfl rfl

/-- **The messages that an event leads to**: a payment from the stream that it draws on, the caller's funds on their
way to the endpoint, the registration, which carries no funds, or none at all. -/
def Sends (endpoint : Account) (event : Event) (messages : List Outgoing) : Prop :=
  match event with
  | .execute _ (.withdraw _) | .execute _ (.deliver _) =>
    ∃ (id : StreamId) (p : Payment), event.drawsOn? = some id ∧ p.amount.val ≠ 0 ∧ Pays messages p
  | .execute caller (.requestRemoteWithdraw chain _) =>
    ∃ dst payload, messages = [⟨.call endpoint (.endpoint (.send chain dst payload)) caller.funds, none⟩]
  | .execute _ (.appoint ..) =>
    ∃ typeInfo, messages = [⟨.call endpoint (.endpoint (.register typeInfo)) [], some registrationReply⟩]
  | _ => messages = []

/-- The endpoint that a storage names, if it has a configuration. -/
def Store.endpoint (s : Store) : Account := (s.config.map (·.endpoint)).getD ""

theorem sends_of_landed (h : (event.run env).commit s = .ok (r, t)) : Sends t.endpoint event r.messages := by
  cases event with
  | create caller setup => exact (create_ok h).2.1
  | reply id => exact (registered_ok h).2.1
  | upgrade => exact (upgrade_ok h).1
  | execute caller call =>
    cases call with
    | appoint admin authority =>
      obtain ⟨before, typeInfo, -, -, -, -, hr, rfl⟩ := appoint_ok h
      exact ⟨typeInfo, hr⟩
    | pause | unpause => exact (setPaused_ok h).1
    | setTrustedRemote chain text => exact (setTrustedRemote_ok h).1
    | setCoinMap chain text assetType => exact (setCoinMap_ok h).1
    | registerAsset assetType holding => exact (registerAsset_ok h).1
    | createStream terms =>
      obtain ⟨draft, coin, -, -, -, h⟩ := createStream_ok h
      exact (openStream_ok h).1
    | receive hook =>
      obtain ⟨draft, terms, -, -, -, h⟩ := receive_ok h
      exact (openStream_ok h).1
    | withdraw id =>
      obtain ⟨_, stream, amount, left, -, -, -, -, hleft, hr, -⟩ := withdraw_ok h
      exact ⟨id, ⟨left.asset, left.recipient, amount⟩, rfl, (released_ok hleft).2.1, pays_iff.2 hr⟩
    | deliver delivery =>
      obtain ⟨_, packet, id, stream, _, _, amount, left, -, -, -, -, hpacket, -, -, -, -, hrequest, -, -, -, -, hleft,
        hr, -⟩ := deliver_ok h
      exact ⟨id, ⟨left.asset, left.recipient, amount⟩, by simp only [Event.drawsOn?, hpacket, hrequest],
        (released_ok hleft).2.1, pays_iff.2 hr⟩
    | requestRemoteWithdraw chain value =>
      obtain ⟨config, id, remote, hc, -, -, -, -, hr, rfl⟩ := requestRemoteWithdraw_ok h
      have hendpoint : t.endpoint = config.endpoint := by
        rw [Store.endpoint, hc]
        rfl
      exact ⟨_, _, hendpoint ▸ hr⟩

theorem hands_nothing (h : (event.run env).commit s = .ok (r, t)) :
    ∀ m ∈ r.messages, ∀ contract call funds, m.message ≠ .call contract (.receiver call) funds := by
  have hsends := sends_of_landed h
  have hpayment : ∀ (p : Payment) contract call funds,
      p.holding.payment p.recipient p.amount ≠ .call contract (.receiver call) funds := by
    intro p contract call funds heq
    unfold Holding.payment at heq
    split at heq <;> cases heq
  unfold Sends at hsends
  intro m hm contract call funds heq
  split at hsends
  · obtain ⟨id, p, -, -, hpays⟩ := hsends
    rw [pays_iff.1 hpays] at hm
    cases List.mem_singleton.1 hm
    exact hpayment p contract call funds heq
  · obtain ⟨id, p, -, -, hpays⟩ := hsends
    rw [pays_iff.1 hpays] at hm
    cases List.mem_singleton.1 hm
    exact hpayment p contract call funds heq
  · obtain ⟨dst, payload, hr⟩ := hsends
    rw [hr] at hm
    cases List.mem_singleton.1 hm
    cases heq
  · obtain ⟨typeInfo, hr⟩ := hsends
    rw [hr] at hm
    cases List.mem_singleton.1 hm
    cases heq
  · rw [hsends] at hm
    cases hm

/-- **In a history every message is one that its event leads to**, with the endpoint of the creation. -/
theorem History.sends (h : History self log s) {config : Config} (hconfig : s.config = some config) :
    ∀ l ∈ log, Sends config.endpoint l.event l.response.messages := by
  induction h generalizing config with
  | start => exact nofun
  | @land log t _ _ hrun hlands ih =>
    obtain @⟨now, event, response, u, honce, hland⟩ := hlands
    intro l hl
    rcases List.mem_append.1 hl with hl | hl
    · cases hbefore : t.config with
      | none =>
        obtain ⟨hevent, hsilent⟩ := (History.isBlank hrun hbefore).2 l hl
        rw [hevent]
        exact hsilent
      | some before =>
        have hfounding := (Run.of_landed honce hland).founding_eq (by rw [hbefore]; exact nofun)
        obtain ⟨_, hother, hendpoint⟩ := endpoint_of_founding hfounding hconfig
        cases hbefore.symm.trans hother
        rw [← hendpoint]
        exact ih hbefore l hl
    · cases List.mem_singleton.1 hl
      have hsends := sends_of_landed hland
      rw [Store.endpoint, hconfig] at hsends
      exact hsends
  | pass _ hrefuses ih =>
    cases hrefuses
    exact ih hconfig

end Bridge

end VestingBridge
