import VestingBridge.Bridge.Funding
import VestingBridge.Bridge.Payout
import VestingBridge.Bridge.Service
/-!
# Bridge.Event — what can happen to a bridge

`ExecuteCall.run` carries out what a bridge may be called for.  `Event` gathers every way in which the storage of a
bridge can change, so that a history of a bridge is a list of events.
-/
namespace VestingBridge.Bridge

/-- **What a call does.** -/
def ExecuteCall.run (env : Env) (caller : Caller) : ExecuteCall → Step Response
  | appoint admin authority => Bridge.appoint env caller admin authority
  | pause => setPaused caller true "pause"
  | unpause => setPaused caller false "unpause"
  | setTrustedRemote chain address => Bridge.setTrustedRemote caller chain address
  | setCoinMap chain remoteAsset assetType => Bridge.setCoinMap caller chain remoteAsset assetType
  | registerAsset assetType asset => Bridge.registerAsset caller assetType asset
  | createStream terms => Bridge.createStream env caller terms
  | receive hook => Bridge.receive env caller hook
  | withdraw stream => Bridge.withdraw env caller stream
  | deliver event => Bridge.deliver env caller event
  | requestRemoteWithdraw dstChain stream => Bridge.requestRemoteWithdraw caller dstChain stream

/-- **What can happen to a bridge**: its creation, a call, word that a message of its own succeeded, or new code. -/
inductive Event where
  | create (caller : Caller) (setup : Setup)
  | execute (caller : Caller) (call : ExecuteCall)
  | reply (id : ReplyId)
  | upgrade

/-- What an event does. -/
def Event.run (env : Env) : Event → Step Response
  | create caller setup => Bridge.create caller setup
  | execute caller call => call.run env caller
  | reply id => registered id
  | upgrade => Bridge.upgrade

end VestingBridge.Bridge
