import VestingBridge.Bridge.Event
import VestingBridge.Bridge.View
import VestingBridge.Endpoint.View
/-!
# Session.World — contracts that call each other

A world is a host with bridges and endpoints on it, each at its own address with its own storage.  A call enters one
contract; the messages that it answers with are carried out in order, those to contracts of the world by entering them
in turn, and a message that asks for it is followed by a reply to its sender.  Payments and calls to addresses outside
are only reported.
-/
namespace VestingBridge.Session

/-- **A contract and its storage.** -/
inductive Contract where
  | bridge (store : Bridge.Store)
  | endpoint (store : Endpoint.Store)
deriving DecidableEq

instance : Inhabited Contract := ⟨.bridge .empty⟩

/-- The contracts of a host, by address. -/
abbrev World := Table Account Contract

/-- **How a contract is entered.**  Messages are read by the contract that they are for. -/
inductive Entry where
  | create (caller : Caller) (message : Json)
  | execute (caller : Caller) (message : Json)
  | reply (id : ReplyId)
  | upgrade (message : Json)

/-- Why a step comes to nothing.
* `unreadable`: the message is none of those that the contract takes;
* `noContract`: there is no contract at the address;
* `notTaken`: contracts of this kind are not entered so;
* `tooDeep`: calls are nested more deeply than messages of these contracts can make them. -/
inductive Failure where
  | bridge (error : Bridge.Error)
  | endpoint (error : Endpoint.Error)
  | bridgeView (error : Bridge.ViewError)
  | endpointView (error : Endpoint.ViewError)
  | unreadable
  | noContract (address : Account)
  | notTaken
  | tooDeep

/-- The text of the failure. -/
def Failure.message : Failure → String
  | bridge error => error.message
  | endpoint error => error.message
  | bridgeView error => error.message
  | endpointView error => error.message
  | unreadable => "ParseErr"
  | noContract address => "no contract at " ++ address
  | notTaken => "the contract is not entered in this way"
  | tooDeep => "calls are nested too deeply"

/-- A message that has to be readable. -/
def readable {α : Type} : Option α → Except Failure α
  | some a => .ok a
  | none => .error .unreadable

/-- **What an entry means to a bridge.** -/
def Entry.toBridge : Entry → Except Failure Bridge.Event
  | create caller message => (readable (Bridge.Setup.ofJson? message)).map (.create caller)
  | execute caller message => (readable (Bridge.ExecuteCall.ofJson? message)).map (.execute caller)
  | reply id => .ok (.reply id)
  | upgrade message => if Bridge.isUpgrade message then .ok .upgrade else .error .unreadable

/-- **What an entry means to an endpoint.** -/
def Entry.toEndpoint : Entry → Except Failure Endpoint.Event
  | create _ message => (readable (Endpoint.Setup.ofJson? message)).map .create
  | execute caller message => (readable (Endpoint.ExecuteCall.ofJson? message)).map (.execute caller)
  | reply _ | upgrade _ => .error .notTaken

/-- **A contract is entered**: its answer, and the contract after it. -/
def Contract.enter (env : Env) (entry : Entry) : Contract → Except Failure (Response × Contract)
  | bridge s => do
    let event ← entry.toBridge
    match (event.run env).commit s with
    | .ok (response, s) => return (response, .bridge s)
    | .error e => throw (.bridge e)
  | endpoint s => do
    let event ← entry.toEndpoint
    match event.run.commit s with
    | .ok (response, s) => return (response, .endpoint s)
    | .error e => throw (.endpoint e)

/-- One contract that was entered, and what it answered. -/
structure Visit where
  contract : Account
  entry : Entry
  response : Response

/-- What a call leads to: the world after it, and the contracts that were entered, in order. -/
abbrev Outcome := Except Failure (World × List Visit)

namespace World

/-- The contract at an address is entered. -/
def enter (w : World) (now : Seconds) (self : Account) (entry : Entry) : Except Failure (World × Response) :=
  match w.get? self with
  | none => .error (.noContract self)
  | some contract => (contract.enter ⟨self, now⟩ entry).map fun (response, contract) =>
      (w.insert self contract, response)

/-- A message is carried out, where `call` enters a contract with all that follows from it. -/
def forward (call : World → Account → Entry → Outcome) (self : Account) (w : World) (m : Outgoing) : Outcome :=
  match m.message with
  | .pay .. => .ok (w, [])
  | .call contract body funds =>
    if w.contains contract then do
      let (w, visits) ← call w contract (.execute ⟨self, funds⟩ body.toJson)
      match m.replyId with
      | none => return (w, visits)
      | some id =>
        let (w, more) ← call w self (.reply id)
        return (w, visits ++ more)
    else .ok (w, [])

/-- Messages are carried out in order. -/
def forwardAll (call : World → Account → Entry → Outcome) (self : Account) (w : World) : List Outgoing → Outcome
  | [] => .ok (w, [])
  | m :: ms => do
    let (w, visits) ← forward call self w m
    let (w, more) ← forwardAll call self w ms
    return (w, visits ++ more)

/-- A call with all that follows from it, nested at most `depth` deep. -/
def callWithin (now : Seconds) : (depth : Nat) → World → Account → Entry → Outcome
  | 0, _, _, _ => .error .tooDeep
  | depth + 1, w, self, entry => do
    let (w, response) ← w.enter now self entry
    let (w, visits) ← forwardAll (callWithin now depth) self w response.messages
    return (w, ⟨self, entry, response⟩ :: visits)

/-- How deep messages of these contracts nest calls: a delivery, the application that it is for, and a payment. -/
def nesting : Nat := 3

/-- **A call with all that follows from it.** -/
def call (w : World) (now : Seconds) (self : Account) (entry : Entry) : Outcome := callWithin now nesting w self entry

/-- **The endpoint at an address is asked.**  A bridge there takes no such question. -/
def querier (w : World) : Bridge.Querier := fun address question =>
  match w.get? address with
  | none => .error (.noContract address)
  | some (.bridge _) => .error (.failed Failure.unreadable.message)
  | some (.endpoint s) =>
    match Endpoint.Question.ofJson? question.toJson with
    | none => .error (.failed Failure.unreadable.message)
    | some question =>
      match question.answer s with
      | .error e => .error (.failed e.message)
      | .ok answer =>
        match Registration.ofJson? answer with
        | some registration => .ok registration
        | none => .error (.failed Failure.unreadable.message)

/-- **The contract at an address is asked.** -/
def ask (w : World) (now : Seconds) (self : Account) (message : Json) : Except Failure Json :=
  match w.get? self with
  | none => .error (.noContract self)
  | some (.bridge s) => do
    let question ← readable (Bridge.Question.ofJson? message)
    (question.answer ⟨self, now⟩ w.querier s).mapError .bridgeView
  | some (.endpoint s) => do
    let question ← readable (Endpoint.Question.ofJson? message)
    (question.answer s).mapError .endpointView

end World

end VestingBridge.Session
