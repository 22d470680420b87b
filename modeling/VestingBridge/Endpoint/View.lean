import VestingBridge.Endpoint.Channel
/-!
# Endpoint.View — what an endpoint answers when it is asked

Answers are read off the storage and change nothing.  A path that no packet has taken has the nonce zero.
-/
namespace VestingBridge.Endpoint

/-- Why a question is refused. -/
inductive ViewError where
  | account (error : AccountError)
  | address (error : AddressError)
  | noConfig
  | noApplication (application : Account)
deriving DecidableEq

/-- The text of the error. -/
def ViewError.message : ViewError → String
  | account error => error.message
  | address error => "Generic error: " ++ error.message
  | noConfig => Error.noConfig.message
  | noApplication application => "UA " ++ application ++ " not found"

namespace Store

/-- An account that is asked about. -/
def accountOf (text : String) : Except ViewError Account := (Account.validate text).mapError .account

/-- An address that is asked about. -/
def addressOf (bs : Octets) : Except ViewError WireAddress := (WireAddress.ofOctets bs).mapError .address

/-- **The type that an application is registered with.** -/
def registration (s : Store) (application : String) : Except ViewError Registration := do
  let application ← accountOf application
  match s.applications.get? application with
  | some typeInfo => return { application, typeInfo }
  | none => throw (.noApplication application)

/-- **The nonce of the last packet that an application sent on a path.** -/
def outboundNonce (s : Store) (dstChain : ChainId) (application : String) (dst : Octets) :
    Except ViewError Nonce := do
  let application ← accountOf application
  let dst ← addressOf dst
  return s.lastSent (dstChain, application, dst)

/-- **The nonce of the last packet that was delivered to an application on a path.** -/
def inboundNonce (s : Store) (srcChain : ChainId) (src : Octets) (application : String) :
    Except ViewError Nonce := do
  let application ← accountOf application
  let src ← addressOf src
  return s.lastDelivered (srcChain, src, application)

end Store

/-- **The answer to a question.** -/
def Question.answer (s : Store) : Question → Except ViewError Json
  | config =>
    match s.config with
    | some c => .ok c.toJson
    | none => .error .noConfig
  | registration application => (s.registration application).map Registration.toJson
  | outboundNonce dstChain application dst => (s.outboundNonce dstChain application dst).map Json.ofWord
  | inboundNonce srcChain src application => (s.inboundNonce srcChain src application).map Json.ofWord

end VestingBridge.Endpoint
