import VestingBridge.Bridge.Registry
import VestingBridge.Json.Document
/-!
# Bridge.Funding — how streams are opened

A stream is opened with a deposit in the holding that is registered for its asset type: by a caller who attaches one
native coin, or by a token contract that reports tokens sent to the bridge.  Streams are numbered from zero in the
order of their creation.
-/
namespace VestingBridge.Bridge

open Handler (look check require)

/-- What is known of a stream before its deposit is looked at. -/
structure StreamDraft where
  sender : Account
  recipient : Account
  assetType : TypeTag
  asset : Holding
  start : Seconds
  stop : Seconds

/-- The stream of a draft, at the moment it is opened. -/
def StreamDraft.toStream (d : StreamDraft) (id : StreamId) (deposit : Amount) (now : Seconds) : Stream :=
  { id, sender := d.sender, recipient := d.recipient, assetType := d.assetType, asset := d.asset, deposit,
    withdrawn := Amount.zero, start := d.start, stop := d.stop, created := now }

/-- The number of the next stream. -/
def Store.nextStreamId (s : Store) : StreamId := s.nextStream.getD StreamId.zero

/-- **A stream is opened** under the next number, and the number after it comes next. -/
def openStream (env : Env) (draft : StreamDraft) (deposit : Amount) : Step Response := do
  require (deposit.val ≠ 0) .zeroDeposit
  require (draft.start < draft.stop) .stopNotAfterStart
  require (env.now < draft.stop) .alreadyFinished
  let id := (← get).nextStreamId
  modify fun s => s.putStream id (draft.toStream id deposit env.now)
  match id.succ? with
  | none => throw .streamIdsExhausted
  | some next => modify fun s => { s with nextStream := some next }
  return .note [("action", "create_stream"), ("stream_id", Text.Decimal.encode id.val), ("sender", draft.sender),
    ("recipient", draft.recipient), ("asset_type", draft.assetType.name),
    ("deposit", Text.Decimal.encode deposit.val)]

/-- The draft of a stream on some terms: the recipient is looked at, then the type, then its holding. -/
def draftOf (sender : Account) (terms : StreamTerms) : Step StreamDraft := do
  let recipient ← check .account (Account.validate terms.recipient)
  let assetType ← check .typeTag (TypeTag.parse terms.assetType)
  let asset ← look (·.asset assetType)
  return { sender, recipient, assetType, asset, start := terms.start, stop := terms.stop }

/-- **A caller opens a stream** with the one coin that it attaches. -/
def createStream (env : Env) (caller : Caller) (terms : StreamTerms) : Step Response := do
  let draft ← draftOf caller.sender terms
  match draft.asset with
  | .token _ => throw (.wrongFunding draft.asset)
  | .native denom =>
    match caller.funds with
    | [coin] =>
      require (coin.denom = denom) (.wrongHolding draft.asset (.native coin.denom))
      openStream env draft coin.amount
    | funds => throw (.wrongCoinCount funds.length)

/-- The call that the payload of a hook asks for. -/
def HookCall.ofPayload (payload : Octets) : Except Error HookCall :=
  match (Json.ofOctets? payload).bind HookCall.ofJson? with
  | some call => .ok call
  | none => .error .unreadable

/-- **A token contract opens a stream** with the tokens that an account sent to the bridge. -/
def receive (env : Env) (caller : Caller) (hook : TokenHook) : Step Response := do
  let sender ← check .account (Account.validate hook.sender)
  let .createStream terms ← ofExcept (HookCall.ofPayload hook.payload)
  let draft ← draftOf sender terms
  require (draft.asset = .token caller.sender) (.wrongHolding draft.asset (.token caller.sender))
  openStream env draft hook.amount

end VestingBridge.Bridge
