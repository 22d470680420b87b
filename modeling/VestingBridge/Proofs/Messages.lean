import VestingBridge.Bridge.Message
import VestingBridge.Endpoint.Message
import VestingBridge.Proofs.Text
import VestingBridge.Response
/-!
# Proofs.Messages — messages that one contract writes and another reads

A bridge takes an event that an endpoint hands it as a call of its own, and an endpoint takes what a bridge asks of it.
No other message that a contract writes is one that a contract reads.
-/
namespace VestingBridge

theorem Json.word?_ofWord {size : Nat} (w : Word size) : (Json.ofWord w).word? = some w := Word.ofNat?_val w

theorem Json.amount?_ofAmount (a : Amount) : (Json.ofAmount a).amount? = some a := by
  change (do Word.ofNat? (← Text.Decimal.decode? (Text.Decimal.encode a.val))) = _
  rw [Text.Decimal.decode?_encode]
  exact Word.ofNat?_val a

theorem Json.octets?_ofOctets (bs : Octets) : (Json.ofOctets bs).octets? = some bs := Text.Base64.decode?_encode bs

/-! The names of the members are literals, so that a reader finds its fields by computation.  What is left is to read
the value of each. -/

/-- **An event is read back from its message.** -/
theorem DeliveryEvent.ofJson?_toJson (e : DeliveryEvent) : ofJson? e.toJson = some e := by
  cases e with
  | packet srcChain src dstChain dst nonce payload =>
    change (do
      return packet (← (Json.ofWord srcChain).word?) (← (Json.ofOctets src).octets?) (← (Json.ofWord dstChain).word?)
        (← (Json.ofOctets dst).octets?) (← (Json.ofWord nonce).word?) (← (Json.ofOctets payload).octets?)) = _
    simp only [Json.word?_ofWord, Json.octets?_ofOctets]
    rfl
  | raw srcChain src dstChain dst nonce payload =>
    change (do
      return raw (← (Json.ofWord srcChain).word?) src (← (Json.ofWord dstChain).word?) dst
        (← (Json.ofWord nonce).word?) (← (Json.ofOctets payload).octets?)) = _
    simp only [Json.word?_ofWord, Json.octets?_ofOctets]
    rfl
  | encoded data =>
    change (do return encoded (← (Json.ofOctets data).octets?)) = _
    rw [Json.octets?_ofOctets]
    rfl

theorem TypeTag.ofJson?_toJson (t : TypeTag) : ofJson? t.toJson = some t := rfl

/-- What a contract asks of an endpoint, as the endpoint has it. -/
def EndpointCall.toExecute : EndpointCall → Endpoint.ExecuteCall
  | register typeInfo => .register typeInfo
  | send dstChain dst payload => .send dstChain dst payload

/-- **An endpoint takes what is asked of it.** -/
theorem endpoint_reads (call : EndpointCall) :
    Endpoint.ExecuteCall.ofJson? (Call.endpoint call).toJson = some call.toExecute := by
  cases call with
  | register typeInfo =>
    change (do return Endpoint.ExecuteCall.register (← TypeTag.ofJson? typeInfo.toJson)) = _
    rw [TypeTag.ofJson?_toJson]
    rfl
  | send dstChain dst payload =>
    change (do
      return Endpoint.ExecuteCall.send (← (Json.ofWord dstChain).word?) (← (Json.ofOctets dst).octets?)
        (← (Json.ofOctets payload).octets?)) = _
    simp only [Json.word?_ofWord, Json.octets?_ofOctets]
    rfl

theorem endpoint_reads_delivery (application : Account) (e : DeliveryEvent) :
    Endpoint.ExecuteCall.ofJson? (Endpoint.ExecuteCall.deliver application e).toJson =
      some (.deliver application e) := by
  change (do return Endpoint.ExecuteCall.deliver application (← DeliveryEvent.ofJson? e.toJson)) = _
  rw [DeliveryEvent.ofJson?_toJson]
  rfl

/-- **A bridge takes the event that it is handed.** -/
theorem bridge_reads (e : DeliveryEvent) :
    Bridge.ExecuteCall.ofJson? (Call.receiver (.receive e)).toJson = some (.deliver e) := by
  change (do return Bridge.ExecuteCall.deliver (← DeliveryEvent.ofJson? e.toJson)) = _
  rw [DeliveryEvent.ofJson?_toJson]
  rfl

theorem bridge_reads_request (chain : ChainId) (stream : Amount) :
    Bridge.ExecuteCall.ofJson? (Bridge.ExecuteCall.requestRemoteWithdraw chain stream).toJson =
      some (.requestRemoteWithdraw chain stream) := by
  change (do
    return Bridge.ExecuteCall.requestRemoteWithdraw (← (Json.ofWord chain).word?)
      (← (Json.ofAmount stream).amount?)) = _
  rw [Json.word?_ofWord, Json.amount?_ofAmount]
  rfl

/-- An endpoint takes neither an event nor a transfer from another contract. -/
theorem endpoint_reads_no (e : DeliveryEvent) (recipient : Account) (amount : Amount) :
    Endpoint.ExecuteCall.ofJson? (Call.receiver (.receive e)).toJson = none ∧
      Endpoint.ExecuteCall.ofJson? (Call.transfer recipient amount).toJson = none :=
  ⟨rfl, rfl⟩

/-- A bridge takes neither a transfer nor what is for an endpoint. -/
theorem bridge_reads_no (call : EndpointCall) (recipient : Account) (amount : Amount) :
    Bridge.ExecuteCall.ofJson? (Call.endpoint call).toJson = none ∧
      Bridge.ExecuteCall.ofJson? (Call.transfer recipient amount).toJson = none := by
  refine ⟨?_, rfl⟩
  cases call <;> rfl

/-- A bridge takes no order to deliver. -/
theorem bridge_reads_no_delivery {j : Json} {application : Account} {e : DeliveryEvent}
    (h : Endpoint.ExecuteCall.ofJson? j = some (.deliver application e)) : Bridge.ExecuteCall.ofJson? j = none := by
  unfold Endpoint.ExecuteCall.ofJson? at h
  obtain ⟨⟨name, body⟩, hvariant, h⟩ := Option.bind_eq_some_iff.1 h
  have hname : name = "deliver" := by
    dsimp only at h
    split at h
    · obtain ⟨_, -, h⟩ := Option.bind_eq_some_iff.1 h
      obtain ⟨_, -, h⟩ := Option.bind_eq_some_iff.1 h
      cases h
    · obtain ⟨_, -, h⟩ := Option.bind_eq_some_iff.1 h
      obtain ⟨_, -, h⟩ := Option.bind_eq_some_iff.1 h
      obtain ⟨_, -, h⟩ := Option.bind_eq_some_iff.1 h
      obtain ⟨_, -, h⟩ := Option.bind_eq_some_iff.1 h
      cases h
    · rfl
    · cases h
  subst hname
  rw [Bridge.ExecuteCall.ofJson?, hvariant]
  rfl

end VestingBridge
