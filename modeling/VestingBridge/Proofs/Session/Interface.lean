import VestingBridge.Proofs.Bridge.Calls
import VestingBridge.Proofs.Session.Delivery
/-!
# Proofs.Session.Interface — the two sides of the interface agree

A bridge and an endpoint have each a description of their own of what they say to each other.  What one of them writes
is what the other reads, and no one else reads it.  So the packet that an endpoint has checked is the packet that the
bridge applies.
-/
namespace VestingBridge

/-- What an application asks an endpoint about, as the endpoint has it. -/
def EndpointQuestion.toQuestion : EndpointQuestion → Endpoint.Question
  | registration application => .registration application

theorem Registration.ofJson?_toJson (a : Registration) : ofJson? a.toJson = some a := by
  change (do return Registration.mk a.application (← TypeTag.ofJson? a.typeInfo.toJson)) = _
  rw [TypeTag.ofJson?_toJson]
  rfl

theorem endpoint_reads_question (q : EndpointQuestion) : Endpoint.Question.ofJson? q.toJson = some q.toQuestion := by
  cases q
  rfl

theorem bridge_reads_no_question (q : EndpointQuestion) : Bridge.Question.ofJson? q.toJson = none := by
  cases q
  rfl

/-- No message between contracts has anything delivered. -/
theorem Call.not_deliver (body : Call) (application : Account) (e : DeliveryEvent) :
    Endpoint.ExecuteCall.ofJson? body.toJson ≠ some (.deliver application e) := by
  cases body with
  | transfer recipient amount => rw [(endpoint_reads_no (.encoded []) recipient amount).2]; exact nofun
  | receiver call => cases call with | receive e => rw [(endpoint_reads_no e "" Amount.zero).1]; exact nofun
  | endpoint call =>
    rw [endpoint_reads]
    cases call <;> exact nofun

namespace Session

open Bridge (deliver)

variable {w : World} {E : Account} {e : Endpoint.Store}

/-- **What an endpoint answers is what the bridge reads.** -/
theorem querier_eq (found : w.get? E = some (.endpoint e)) (application : Account) :
    w.querier E (.registration application) =
      (e.registration application).mapError fun error => .failed error.message := by
  unfold World.querier
  rw [found]
  dsimp only
  rw [endpoint_reads_question]
  dsimp only [EndpointQuestion.toQuestion, Endpoint.Question.answer]
  cases e.registration application with
  | error error => rfl
  | ok registration =>
    dsimp only [Except.map]
    rw [Registration.ofJson?_toJson]
    rfl

/-- **The two sides of the interface agree on every message.**  Whatever a bridge asks of an endpoint, or asks it about,
the endpoint reads as it was meant, and its answer is read back; the bridge reads every event that it is handed.  No
message between contracts has an endpoint deliver anything, none is read by the wrong kind of contract, and a transfer
of tokens is read by neither.  So the packet that an endpoint has checked is the one that the bridge applies. -/
theorem interface_agrees :
    (∀ call : EndpointCall, Endpoint.ExecuteCall.ofJson? call.toJson = some call.toExecute) ∧
    (∀ event, Bridge.ExecuteCall.ofJson? (ReceiverCall.receive event).toJson = some (.deliver event)) ∧
    (∀ q : EndpointQuestion, Endpoint.Question.ofJson? q.toJson = some q.toQuestion) ∧
    (∀ a : Registration, Registration.ofJson? a.toJson = some a) ∧
    (∀ (w : World) (E : Account) (e : Endpoint.Store), w.get? E = some (.endpoint e) → ∀ application,
      w.querier E (.registration application) =
        (e.registration application).mapError fun error => .failed error.message) ∧
    (∀ (body : Call) application event, Endpoint.ExecuteCall.ofJson? body.toJson ≠ some (.deliver application event)) ∧
    (∀ call : EndpointCall, Bridge.ExecuteCall.ofJson? call.toJson = none) ∧
    (∀ q : EndpointQuestion, Bridge.Question.ofJson? q.toJson = none) ∧
    (∀ call : ReceiverCall, Endpoint.ExecuteCall.ofJson? call.toJson = none) ∧
    (∀ recipient amount, Bridge.ExecuteCall.ofJson? (Call.transfer recipient amount).toJson = none ∧
      Endpoint.ExecuteCall.ofJson? (Call.transfer recipient amount).toJson = none) ∧
    ∀ caller application event e r e', (Endpoint.deliver caller application event).commit e = .ok (r, e') →
      ∃ config packet body received, e.config = some config ∧ event.rebuild = .ok packet ∧
        packet.dstChain = config.localChain ∧
        packet.nonce.val = (e.lastDelivered (packet.srcChain, packet.src, application)).val + 1 ∧
        r.messages = [⟨.call application body [], none⟩] ∧
        Bridge.ExecuteCall.ofJson? body.toJson = some (.deliver received) ∧ received.rebuild = .ok packet ∧
        ∀ env caller b r b', (deliver env caller received).commit b = .ok (r, b') →
          b'.processed.get? packet.hash = some packet.nonce := by
  refine ⟨endpoint_reads, bridge_reads, endpoint_reads_question, Registration.ofJson?_toJson,
    fun w E e found application => querier_eq found application, Call.not_deliver,
    fun call => (bridge_reads_no call "" Amount.zero).1, bridge_reads_no_question, ?_, ?_, ?_⟩
  · rintro ⟨event⟩
    exact (endpoint_reads_no event "" Amount.zero).1
  · intro recipient amount
    exact ⟨(bridge_reads_no (.send 0 [] []) recipient amount).2,
      (endpoint_reads_no (.encoded []) recipient amount).2⟩
  · intro caller application event e r e' hland
    obtain ⟨config, packet, hconfig, -, -, hrebuilt, hchain, hnext, hr, -⟩ := Endpoint.deliver_ok hland
    refine ⟨config, packet, _, event, hconfig, hrebuilt, hchain, hnext, hr, bridge_reads event, hrebuilt, ?_⟩
    intro env caller b r b' happlied
    obtain ⟨_, packet', _, _, _, _, _, _, -, -, -, -, hrebuilt', -, -, -, -, -, -, -, -, -, -, -, rfl⟩ :=
      Bridge.deliver_ok happlied
    cases hrebuilt.symm.trans hrebuilt'
    rw [Table.get?_insert, if_pos rfl]

/-- An endpoint with a bridge that is registered. -/
def serving : Endpoint.Store := { Endpoint.Store.empty with
  config := some ⟨108, "relayer"⟩
  applications := Table.insert ∅ "bridge" ⟨"bridge", "stream", "StreamBridge"⟩ }

theorem interface_agrees_serving :
    ∃ r e' packet body received,
      (Endpoint.deliver ⟨"relayer", []⟩ "bridge" (request 1)).commit serving = .ok (r, e') ∧
      (request 1).rebuild = .ok packet ∧ r.messages = [⟨.call "bridge" body [], none⟩] ∧
      Bridge.ExecuteCall.ofJson? body.toJson = some (.deliver received) ∧ received.rebuild = .ok packet := by
  have hcheck :
      ((Endpoint.deliver ⟨"relayer", []⟩ "bridge" (request 1)).commit serving).toOption.isSome = true := by
    decide +kernel
  obtain ⟨⟨r, e'⟩, hland⟩ := Option.isSome_iff_exists.1 hcheck
  have hland := Handler.toOption_eq_some_iff.1 hland
  obtain ⟨-, -, -, -, -, -, -, -, -, -, hdelivered⟩ := interface_agrees
  obtain ⟨_, packet, body, received, -, hrebuilt, -, -, hr, hread, hsame, -⟩ := hdelivered _ _ _ _ _ _ hland
  exact ⟨r, e', packet, body, received, hland, hrebuilt, hr, hread, hsame⟩

end Session

end VestingBridge
