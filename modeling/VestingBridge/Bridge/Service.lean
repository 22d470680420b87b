import VestingBridge.Bridge.Registry
/-!
# Bridge.Service — how a bridge comes into service

A bridge is created for an endpoint and a chain.  Its owner then appoints an administrator and an authority, which asks
the endpoint to register the bridge; the endpoint's success makes the bridge active.  The administrator may pause it
and let it go on.
-/
namespace VestingBridge.Bridge

open Handler (look check require)

/-- The number under which the bridge hears that it was registered. -/
def registrationReply : ReplyId := ⟨1, by decide⟩

/-- **The creation of a bridge.**  It starts without an administrator, without an authority and without streams. -/
def create (caller : Caller) (setup : Setup) : Step Response := do
  modify fun s => { s with version := some codeVersion }
  let endpoint ← check .account (Account.validate setup.endpoint)
  require (setup.localChain.val ≠ 0) (.badChain setup.localChain)
  let config : Config := {
    owner := caller.sender, endpoint, localChain := setup.localChain, admin := none, authority := none,
    lifecycle := .uninitialized, paused := false }
  modify fun s => { s with config := some config }
  modify fun s => { s with nextStream := some StreamId.zero }
  return .note [("action", "instantiate"), ("owner", caller.sender), ("endpoint", endpoint),
    ("local_chain_id", Text.Decimal.encode setup.localChain.val)]

/-- **The owner appoints an administrator and an authority**, once, and has the bridge registered. -/
def appoint (env : Env) (caller : Caller) (admin authority : String) : Step Response := do
  let config ← look Store.loadConfig
  require (caller.sender = config.owner) .unauthorized
  require (config.lifecycle = .uninitialized) .alreadyInitialized
  let admin ← check .account (Account.validate admin)
  let authority ← check .account (Account.validate authority)
  let typeInfo ← check .typeTag (TypeTag.ofParts env.self "stream" "StreamBridge")
  let config := { config with admin := some admin, authority := some authority, lifecycle := .initialized }
  modify fun s => { s with config := some config }
  return {
    messages := [⟨.call config.endpoint (.endpoint (.register typeInfo)) [], some registrationReply⟩]
    attributes := [("action", "initialize"), ("admin", admin), ("authority", authority), ("type_info", typeInfo.name)] }

/-- **The bridge hears that it was registered** and becomes active. -/
def registered (id : ReplyId) : Step Response := do
  require (id = registrationReply) (.unexpectedReply id)
  let config ← look Store.loadConfig
  require (config.lifecycle = .initialized) .notInitialized
  modify fun s => { s with config := some { config with lifecycle := .active } }
  return .note [("action", "register_ua"), ("endpoint", config.endpoint)]

/-- The administrator stops the bridge, or lets it go on. -/
def setPaused (caller : Caller) (paused : Bool) (action : String) : Step Response := do
  let config ← look Store.loadConfig
  require (config.admin = some caller.sender) .unauthorized
  modify fun s => { s with config := some { config with paused } }
  return .note [("action", action)]

/-- New code takes over the storage, which stays as it is. -/
def upgrade : Step Response := do
  modify fun s => { s with version := some codeVersion }
  return .note [("action", "migrate"), ("version", codeVersion.version)]

end VestingBridge.Bridge
