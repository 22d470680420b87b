import VestingBridge.Proofs.Session.Registration
/-!
# Proofs.Session.Dispatch — calls come to an end

Which contract calls which is said by addresses in the storages, so that nothing in these keeps calls from going round.
What ends them is which messages there are: a transfer is read by no contract, what is asked of an endpoint and a reply
lead to nothing more, and an event that is handed over leads to a payment at most.  So it does not matter what would
answer below the third call (`Closes`), and no contract is entered twice but for the reply that it asked for.
-/
namespace VestingBridge.Session

namespace World

/-- One contract is entered, and `call` carries out what it asks for. -/
def dispatch (now : Seconds) (call : World → Account → Entry → Outcome) (w : World) (self : Account) (entry : Entry) :
    Outcome := do
  let (w, response) ← w.enter now self entry
  let (w, visits) ← forwardAll call self w response.messages
  return (w, ⟨self, entry, response⟩ :: visits)

/-- **Calls nested up to a depth**, below which `base` answers. -/
def callAbove (now : Seconds) (base : World → Account → Entry → Outcome) : Nat → World → Account → Entry → Outcome
  | 0 => base
  | depth + 1 => dispatch now (callAbove now base depth)

end World

open World (dispatch callAbove)

variable {w w' : World} {now : Seconds} {self target : Account} {entry : Entry} {r : Response} {visits : List Visit}
  {base base' call call' : World → Account → Entry → Outcome} {depth : Nat} {caller : Caller}

theorem callWithin_eq : ∀ depth, World.callWithin now depth = callAbove now (fun _ _ _ => .error .tooDeep) depth
  | 0 => rfl
  | depth + 1 => by
    funext w self entry
    rw [World.callWithin, callWithin_eq depth]
    rfl

/-- What answers below may as well enter one contract more. -/
theorem callAbove_dispatch : ∀ depth, callAbove now (dispatch now base) depth = callAbove now base (depth + 1)
  | 0 => rfl
  | depth + 1 => by rw [callAbove, callAbove_dispatch depth]; rfl

/-! ## What messages lead to -/

/-- The ways in which contracts are entered for a message. -/
def entriesFor (self : Account) (m : Outgoing) : List Entry :=
  (match m.message with
    | .pay .. => []
    | .call _ body funds => [.execute ⟨self, funds⟩ body.toJson]) ++ (m.replyId.map Entry.reply).toList

theorem forward_congr {m : Outgoing}
    (h : ∀ entry ∈ entriesFor self m, ∀ w target, call w target entry = call' w target entry) (w : World) :
    World.forward call self w m = World.forward call' self w m := by
  obtain ⟨message, replyId⟩ := m
  cases message with
  | pay => rfl
  | call contract body funds =>
    have hbody := h (.execute ⟨self, funds⟩ body.toJson) (by simp [entriesFor])
    cases replyId with
    | none => simp only [World.forward, hbody]
    | some id =>
      have hreply := h (.reply id) (by simp [entriesFor])
      simp only [World.forward, hbody, hreply]

theorem forwardAll_congr {messages : List Outgoing}
    (h : ∀ m ∈ messages, ∀ entry ∈ entriesFor self m, ∀ w target, call w target entry = call' w target entry) :
    ∀ w, World.forwardAll call self w messages = World.forwardAll call' self w messages := by
  induction messages with
  | nil => exact fun _ => rfl
  | cons m ms ih =>
    intro w
    have hm := h m (List.mem_cons_self ..)
    have hms := ih fun m' hm' => h m' (List.mem_cons_of_mem _ hm')
    simp only [World.forwardAll, forward_congr hm, hms]

/-- **An entry needs no more than a depth of calls**, whatever answers below. -/
def Closes (now : Seconds) (depth : Nat) (entry : Entry) : Prop :=
  ∀ base base' w self, callAbove now base depth w self entry = callAbove now base' depth w self entry

theorem Closes.succ (h : Closes now depth entry) : Closes now (depth + 1) entry := by
  intro base base' w self
  rw [← callAbove_dispatch, ← callAbove_dispatch]
  exact h _ _ w self

/-- An entry needs one call more than what it leads to. -/
theorem closes_of_landed (h : ∀ w w' self r, Landed w now self entry r w' →
    ∀ m ∈ r.messages, ∀ next ∈ entriesFor self m, Closes now depth next) : Closes now (depth + 1) entry := by
  intro base base' w self
  rw [callAbove, callAbove, dispatch, dispatch]
  cases henter : w.enter now self entry with
  | error f => rfl
  | ok result =>
    obtain ⟨w1, r⟩ := result
    have hnext := forwardAll_congr fun m hm next hmem w' target =>
      h w w1 self r (landed_of_enter henter) m hm next hmem base base' w' target
    change (World.forwardAll _ self w1 r.messages >>= _) = World.forwardAll _ self w1 r.messages >>= _
    rw [hnext]

/-! ## What each entry leads to -/

/-- **A transfer lands nowhere.** -/
theorem not_landed_transfer {recipient : Account} {amount : Amount} :
    ¬Landed w now self (.execute caller (Call.transfer recipient amount).toJson) r w' := by
  intro h
  cases h with
  | bridge s t event found read =>
    rw [Entry.toBridge, (bridge_reads_no (.send 0 [] []) recipient amount).2] at read
    cases read
  | endpoint s t event found read =>
    rw [Entry.toEndpoint, (endpoint_reads_no (.encoded []) recipient amount).2] at read
    cases read

/-- **What is asked of an endpoint lands only there**, and leads to nothing more. -/
theorem silent_of_request {request : EndpointCall}
    (h : Landed w now self (.execute caller (Call.endpoint request).toJson) r w') :
    (∃ e, w.get? self = some (.endpoint e)) ∧ r.messages = [] := by
  cases h with
  | bridge s t event found read =>
    rw [Entry.toBridge, (bridge_reads_no request "" Amount.zero).1] at read
    cases read
  | endpoint e e' event found read landed =>
    refine ⟨⟨e, found⟩, ?_⟩
    rw [Entry.toEndpoint, endpoint_reads] at read
    cases read
    cases request with
    | register typeInfo => exact (Endpoint.register_ok landed).1
    | send dstChain dst payload =>
      obtain ⟨_, _, -, -, -, -, -, -, -, -, hr, -⟩ := Endpoint.send_ok landed
      exact hr

/-- **A reply lands only at a bridge**, and leads to nothing more. -/
theorem silent_of_reply {id : ReplyId} (h : Landed w now self (.reply id) r w') :
    (∃ b, w.get? self = some (.bridge b)) ∧ r.messages = [] := by
  cases h with
  | bridge b b' event found read landed =>
    cases read
    exact ⟨⟨b, found⟩, (Bridge.registered_ok landed).2.1⟩
  | endpoint e e' event found read => cases read

/-- **An event that is handed over lands only at a bridge**, and leads to a payment. -/
theorem payment_of_handover {event : DeliveryEvent}
    (h : Landed w now self (.execute caller (Call.receiver (.receive event)).toJson) r w') :
    (∃ b, w.get? self = some (.bridge b)) ∧
      ∃ p : Payment, Pays r.messages p := by
  cases h with
  | endpoint e e' event' found read =>
    rw [Entry.toEndpoint, (endpoint_reads_no event "" Amount.zero).1] at read
    cases read
  | bridge b b' event' found read landed =>
    rw [Entry.toBridge, bridge_reads] at read
    cases read
    obtain ⟨_, p, -, -, hpays⟩ := Bridge.sends_of_landed landed
    exact ⟨⟨b, found⟩, p, hpays⟩

theorem closes_transfer (caller : Caller) (recipient : Account) (amount : Amount) :
    Closes now 1 (.execute caller (Call.transfer recipient amount).toJson) :=
  closes_of_landed fun _ _ _ _ hland => absurd hland not_landed_transfer

theorem closes_request (caller : Caller) (request : EndpointCall) :
    Closes now 1 (.execute caller (Call.endpoint request).toJson) :=
  closes_of_landed fun _ _ _ _ hland m hm => by
    rw [(silent_of_request hland).2] at hm
    cases hm

theorem closes_reply (id : ReplyId) : Closes now 1 (.reply id) :=
  closes_of_landed fun _ _ _ _ hland m hm => by
    rw [(silent_of_reply hland).2] at hm
    cases hm

theorem closes_handover (caller : Caller) (event : DeliveryEvent) :
    Closes now 2 (.execute caller (Call.receiver (.receive event)).toJson) := by
  refine closes_of_landed fun w w' self r hland m hm next hnext => ?_
  obtain ⟨-, p, hpays⟩ := payment_of_handover hland
  rw [pays_iff.1 hpays] at hm
  cases List.mem_singleton.1 hm
  cases hholding : p.holding with
  | native denom => simp [entriesFor, hholding, Holding.payment] at hnext
  | token contract =>
    simp only [entriesFor, hholding, Holding.payment, Option.map_none, Option.toList_none, List.append_nil,
      List.mem_singleton] at hnext
    rw [hnext]
    exact closes_transfer _ _ _

/-- **Whatever a message leads to needs two calls.** -/
theorem closes_message {m : Outgoing} (h : entry ∈ entriesFor self m) : Closes now 2 entry := by
  unfold entriesFor at h
  rcases List.mem_append.1 h with h | h
  · split at h
    · cases h
    · rename_i contract body funds hmessage
      cases List.mem_singleton.1 h
      cases body with
      | transfer recipient amount => exact (closes_transfer _ _ _).succ
      | endpoint request => exact (closes_request _ _).succ
      | receiver handover => cases handover with | receive event => exact closes_handover _ _
  · obtain ⟨id, -, rfl⟩ := List.mem_map.1 (Option.toList_map .. ▸ h)
    exact (closes_reply id).succ

/-- **No entry needs more than three.** -/
theorem closes_entry (entry : Entry) : Closes now 3 entry :=
  closes_of_landed fun _ _ _ _ _ _ _ _ hnext => closes_message hnext

theorem callAbove_eq_call (base : World → Account → Entry → Outcome) :
    callAbove now base 3 w self entry = w.call now self entry := by
  rw [World.call, World.nesting, callWithin_eq]
  exact closes_entry entry _ _ w self

/-- **To carry out calls to the end is the one way to carry out what each asks for.** -/
theorem eq_dispatch_iff : (∀ w self entry, call w self entry = dispatch now call w self entry) ↔
    ∀ w self entry, call w self entry = w.call now self entry := by
  constructor
  · intro h w self entry
    have hfix : dispatch now call = call := by
      funext w self entry
      exact (h w self entry).symm
    have habove : ∀ depth, callAbove now call depth = call := by
      intro depth
      induction depth with
      | zero => rfl
      | succ depth ih => rw [callAbove, ih, hfix]
    rw [← callAbove_eq_call call, habove]
  · intro h w self entry
    have habove : callAbove now call 3 = call := by
      funext w self entry
      rw [callAbove_eq_call, h]
    have hnext : dispatch now (callAbove now call 3) = callAbove now (dispatch now call) 3 := by
      rw [callAbove_dispatch]
      rfl
    rw [habove] at hnext
    rw [hnext, callAbove_eq_call, h]

/-! ## No call is refused for its depth -/

theorem toBridge_ne_tooDeep : entry.toBridge ≠ .error .tooDeep := by
  intro h
  cases entry with
  | create caller message =>
    cases hread : Bridge.Setup.ofJson? message <;> simp [Entry.toBridge, hread, readable, Except.map] at h
  | execute caller message =>
    cases hread : Bridge.ExecuteCall.ofJson? message <;> simp [Entry.toBridge, hread, readable, Except.map] at h
  | reply id => cases h
  | upgrade message => by_cases hread : Bridge.isUpgrade message <;> simp [Entry.toBridge, hread] at h

theorem toEndpoint_ne_tooDeep : entry.toEndpoint ≠ .error .tooDeep := by
  intro h
  cases entry with
  | create caller message =>
    cases hread : Endpoint.Setup.ofJson? message <;> simp [Entry.toEndpoint, hread, readable, Except.map] at h
  | execute caller message =>
    cases hread : Endpoint.ExecuteCall.ofJson? message <;> simp [Entry.toEndpoint, hread, readable, Except.map] at h
  | reply | upgrade => cases h

theorem enter_ne_tooDeep : w.enter now self entry ≠ .error .tooDeep := by
  intro h
  cases found : w.get? self with
  | none => simp [World.enter, found] at h
  | some contract =>
    have hentered : contract.enter ⟨self, now⟩ entry = .error .tooDeep := by
      rw [enter_eq found] at h
      cases hcontract : contract.enter ⟨self, now⟩ entry <;> simp_all [Except.map]
    cases contract with
    | bridge s =>
      obtain h | ⟨event, -, h⟩ := bind_eq_error_iff.1 hentered
      · exact toBridge_ne_tooDeep h
      · split at h <;> cases h
    | endpoint s =>
      obtain h | ⟨event, -, h⟩ := bind_eq_error_iff.1 hentered
      · exact toEndpoint_ne_tooDeep h
      · split at h <;> cases h

theorem forwardAll_ne_tooDeep (hcall : ∀ w self entry, call w self entry ≠ .error .tooDeep) (messages : List Outgoing) :
    ∀ w, World.forwardAll call self w messages ≠ .error .tooDeep := by
  have hforward : ∀ m w, World.forward call self w m ≠ .error .tooDeep := by
    intro m w h
    unfold World.forward at h
    split at h
    · cases h
    · split at h
      · obtain h | ⟨⟨w1, first⟩, -, h⟩ := bind_eq_error_iff.1 h
        · exact hcall _ _ _ h
        · dsimp only at h
          split at h
          · cases h
          · obtain h | ⟨⟨w2, second⟩, -, h⟩ := bind_eq_error_iff.1 h
            · exact hcall _ _ _ h
            · cases h
      · cases h
  induction messages with
  | nil => nofun
  | cons m ms ih =>
    intro w h
    obtain h | ⟨⟨w1, first⟩, -, h⟩ := bind_eq_error_iff.1 h
    · exact hforward m w h
    · obtain h | ⟨⟨w2, rest⟩, -, h⟩ := bind_eq_error_iff.1 h
      · exact ih w1 h
      · cases h

theorem dispatch_ne_tooDeep (hcall : ∀ w self entry, call w self entry ≠ .error .tooDeep) :
    dispatch now call w self entry ≠ .error .tooDeep := by
  intro h
  obtain h | ⟨⟨w1, r⟩, -, h⟩ := bind_eq_error_iff.1 h
  · exact enter_ne_tooDeep h
  · obtain h | ⟨⟨w2, rest⟩, -, h⟩ := bind_eq_error_iff.1 h
    · exact forwardAll_ne_tooDeep hcall _ w1 h
    · cases h

/-- **No call is refused for its depth.** -/
theorem call_ne_tooDeep : w.call now self entry ≠ .error .tooDeep := by
  let quiet : World → Account → Entry → Outcome := fun w _ _ => .ok (w, [])
  have habove : ∀ depth w self entry, callAbove now quiet depth w self entry ≠ .error .tooDeep := by
    intro depth
    induction depth with
    | zero =>
      intro _ _ _ h
      cases h
    | succ depth ih => exact fun w self entry => dispatch_ne_tooDeep ih
  rw [← callAbove_eq_call quiet]
  exact habove 3 w self entry

/-! ## The contracts that a step enters -/

/-- **What a call that lands enters**: one contract, another one that it calls, or an endpoint for a registration, of
which the bridge hears. -/
inductive Trace (w : World) (self : Account) (entry : Entry) : List Visit → Prop
  | alone (r : Response) : Trace w self entry [⟨self, entry, r⟩]
  | other (r r' : Response) (contract : Account) (next : Entry) (ne : contract ≠ self) :
    Trace w self entry [⟨self, entry, r⟩, ⟨contract, next, r'⟩]
  | registration (r r' r'' : Response) (endpoint : Account) (typeInfo : TypeTag) (b : Bridge.Store)
      (ne : endpoint ≠ self) (found : w.get? self = some (.bridge b)) (appoints : entry.isAppointment = true) :
    Trace w self entry [⟨self, entry, r⟩, ⟨endpoint, registration self typeInfo, r'⟩,
      ⟨self, .reply Bridge.registrationReply, r''⟩]

theorem callWithin_landed (h : World.callWithin now depth w self entry = .ok (w', visits)) :
    ∃ depth r w1 rest, Landed w now self entry r w1 ∧
      World.forwardAll (World.callWithin now depth) self w1 r.messages = .ok (w', rest) ∧
      visits = ⟨self, entry, r⟩ :: rest := by
  cases depth with
  | zero => cases h
  | succ depth =>
    obtain ⟨r, w1, rest, henter, hrest, hvisits⟩ := callWithin_ok h
    exact ⟨depth, r, w1, rest, landed_of_enter henter, hrest, hvisits⟩

/-- A payment enters no contract. -/
theorem visits_of_payment {p : Payment}
    (h : World.forwardAll (World.callWithin now depth) self w [⟨p.holding.payment p.recipient p.amount, none⟩] =
      .ok (w', visits)) : visits = [] := by
  cases hholding : p.holding with
  | native denom =>
    rw [hholding] at h
    cases h
    rfl
  | token contract =>
    rw [hholding] at h
    obtain ⟨-, -, hnone⟩ | ⟨-, _, _, _, hcall, -⟩ := forwardAll_single_ok h
    · exact hnone
    · obtain ⟨_, _, _, _, hland, -⟩ := callWithin_landed hcall
      exact absurd hland not_landed_transfer

/-- What is asked of an endpoint enters it alone. -/
theorem visits_of_request {request : EndpointCall}
    (h : World.callWithin now depth w target (.execute caller (Call.endpoint request).toJson) = .ok (w', visits)) :
    ∃ e r, w.get? target = some (.endpoint e) ∧
      visits = [⟨target, .execute caller (Call.endpoint request).toJson, r⟩] := by
  obtain ⟨depth, r, w1, rest, hland, hrest, rfl⟩ := callWithin_landed h
  obtain ⟨⟨e, he⟩, hsilent⟩ := silent_of_request hland
  rw [hsilent] at hrest
  cases hrest
  exact ⟨e, r, he, rfl⟩

theorem visits_of_reply {id : ReplyId} (h : World.callWithin now depth w self (.reply id) = .ok (w', visits)) :
    ∃ r, visits = [⟨self, .reply id, r⟩] := by
  obtain ⟨depth, r, w1, rest, hland, hrest, rfl⟩ := callWithin_landed h
  rw [(silent_of_reply hland).2] at hrest
  cases hrest
  exact ⟨r, rfl⟩

/-- An event that is handed over enters the bridge alone. -/
theorem visits_of_handover {event : DeliveryEvent}
    (h : World.callWithin now depth w target (.execute caller (Call.receiver (.receive event)).toJson) =
      .ok (w', visits)) :
    ∃ b r, w.get? target = some (.bridge b) ∧
      visits = [⟨target, .execute caller (Call.receiver (.receive event)).toJson, r⟩] := by
  obtain ⟨depth, r, w1, rest, hland, hrest, rfl⟩ := callWithin_landed h
  obtain ⟨⟨b, hb⟩, p, hpays⟩ := payment_of_handover hland
  rw [pays_iff.1 hpays] at hrest
  rw [visits_of_payment hrest]
  exact ⟨b, r, hb, rfl⟩

/-- Where a bridge was entered, an endpoint that is entered next is another contract. -/
theorem ne_of_kinds {b : Bridge.Store} {e : Endpoint.Store} (hb : w.get? self = some (.bridge b))
    (he : w.get? target = some (.endpoint e)) : target ≠ self := by
  rintro rfl
  cases hb.symm.trans he

theorem trace_of_callWithin (h : World.callWithin now depth w self entry = .ok (w', visits)) :
    Trace w self entry visits := by
  obtain ⟨depth, r, w1, rest, hland, hrest, rfl⟩ := callWithin_landed h
  cases hland with
  | bridge b b' event found read landed after =>
    have hb : w1.get? self = some (.bridge b') := by rw [after, Table.get?_insert, if_pos rfl]
    have hsends := Bridge.sends_of_landed landed
    unfold Bridge.Sends at hsends
    split at hsends
    · obtain ⟨_, p, -, -, hpays⟩ := hsends
      rw [pays_iff.1 hpays] at hrest
      rw [visits_of_payment hrest]
      exact .alone r
    · obtain ⟨_, p, -, -, hpays⟩ := hsends
      rw [pays_iff.1 hpays] at hrest
      rw [visits_of_payment hrest]
      exact .alone r
    · obtain ⟨dst, payload, hr⟩ := hsends
      rw [hr] at hrest
      obtain ⟨-, -, rfl⟩ | ⟨-, _, first, _, hfirst, rfl, hlast, -⟩ := forwardAll_single_ok hrest
      · exact .alone r
      · obtain ⟨e, r', he, rfl⟩ := visits_of_request hfirst
        rw [(hlast rfl).2]
        exact .other r r' _ _ (ne_of_kinds hb he)
    · obtain ⟨typeInfo, hr⟩ := hsends
      rw [hr] at hrest
      obtain ⟨-, -, rfl⟩ | ⟨-, _, first, _, hfirst, rfl, -, hreply⟩ := forwardAll_single_ok hrest
      · exact .alone r
      · obtain ⟨e, r', he, rfl⟩ := visits_of_request hfirst
        obtain ⟨r'', rfl⟩ := visits_of_reply (hreply _ rfl)
        refine .registration r r' r'' _ typeInfo b (ne_of_kinds hb he) found ?_
        rw [Entry.isAppointment, read]
        rfl
    · rw [hsends] at hrest
      cases hrest
      exact .alone r
  | endpoint e e' event found read landed after =>
    have he : w1.get? self = some (.endpoint e') := by rw [after, Table.get?_insert, if_pos rfl]
    cases Endpoint.passing_of_landed landed with
    | aside _ silent =>
      rw [silent] at hrest
      cases hrest
      exact .alone r
    | sent _ _ _ _ _ _ _ _ _ _ silent =>
      rw [silent] at hrest
      cases hrest
      exact .alone r
    | delivered caller application event packet config _ _ _ _ _ handed =>
      rw [handed] at hrest
      obtain ⟨-, -, rfl⟩ | ⟨-, _, first, _, hfirst, rfl, hlast, -⟩ := forwardAll_single_ok hrest
      · exact .alone r
      · obtain ⟨b, r', hb, rfl⟩ := visits_of_handover hfirst
        rw [(hlast rfl).2]
        exact .other r r' _ _ (ne_of_kinds hb he).symm

def Entry.isExecute : Entry → Bool
  | execute .. => true
  | create .. | reply _ | upgrade _ => false

theorem Trace.length_le (h : Trace w self entry visits) : visits.length ≤ 3 := by
  cases h <;> simp

theorem Trace.executes_once (h : Trace w self entry visits) :
    ((visits.filter (·.entry.isExecute)).map (·.contract)).Nodup := by
  cases h with
  | alone r => cases h : entry.isExecute <;> simp [h]
  | other r r' contract next ne =>
    cases h : entry.isExecute <;> cases h' : next.isExecute <;> simp [h, h', ne.symm]
  | registration r r' r'' endpoint typeInfo b ne =>
    have hlast : (Entry.reply Bridge.registrationReply).isExecute = false := rfl
    have hnext : (Session.registration self typeInfo).isExecute = true := rfl
    cases h : entry.isExecute <;> simp [h, hnext, hlast, ne.symm]

theorem Trace.entered_again (h : Trace w self entry visits) : visits.Pairwise fun v v' => v.contract = v'.contract →
    v'.entry = .reply Bridge.registrationReply ∧ v.entry.isAppointment = true ∧
      ∃ b, w.get? v.contract = some (.bridge b) := by
  cases h with
  | alone r => exact List.pairwise_singleton _ _
  | other r r' contract next ne => simp [ne.symm]
  | registration r r' r'' endpoint typeInfo b ne found appoints => simp [ne, ne.symm, appoints, found]

/-- **Every call comes to its end, and nothing is entered again.**  Whatever the storages hold and whichever addresses
they name, calls are nested at most three deep, so that what would answer a fourth is never asked: there is one way to
carry out every call to its end, and it fails none for its depth.  A step that lands enters at most three contracts and
has none of them execute two messages; the only contract that is entered again is the bridge that appoints its officers,
by the reply to its registration. -/
theorem dispatch_ends (t : Session) (self : Account) (entry : Entry) :
    (∀ base, callAbove t.now base 3 t.world self entry = t.world.call t.now self entry) ∧
    (∀ call, (∀ w self entry, call w self entry = dispatch t.now call w self entry) ↔
      ∀ w self entry, call w self entry = World.call w t.now self entry) ∧
    t.world.call t.now self entry ≠ .error .tooDeep ∧
    ∀ visits u, t.step self entry = (.ok visits, u) →
      visits.length ≤ 3 ∧
      ((visits.filter (·.entry.isExecute)).map (·.contract)).Nodup ∧
      visits.Pairwise fun v v' => v.contract = v'.contract →
        v'.entry = .reply Bridge.registrationReply ∧ v.entry.isAppointment = true ∧
          ∃ b, t.world.get? v.contract = some (.bridge b) := by
  refine ⟨callAbove_eq_call, fun call => eq_dispatch_iff, call_ne_tooDeep, fun visits u hstep => ?_⟩
  have htrace := trace_of_callWithin (step_ok hstep).1
  exact ⟨htrace.length_le, htrace.executes_once, htrace.entered_again⟩

/-- The owner of the bridge appoints its officers. -/
def appointment : Entry := .execute ⟨"owner", []⟩ (Bridge.ExecuteCall.appoint "admin" "authority").toJson

theorem dispatch_ends_appointment :
    ∃ log t visits u, Run fresh log t ∧ t.step "bridge" appointment = (.ok visits, u) ∧
      visits.map (·.contract) = ["bridge", "endpoint", "bridge"] ∧
      visits.Pairwise fun v v' => v.contract = v'.contract →
        v'.entry = .reply Bridge.registrationReply ∧ v.entry.isAppointment = true ∧
          ∃ b, t.world.get? v.contract = some (.bridge b) := by
  have hcheck : ((play fresh (relayed.take 2)).map fun p =>
      (p.2.step "bridge" appointment).1.toOption.map fun visits => visits.map (·.contract)) =
      some (some ["bridge", "endpoint", "bridge"]) := by decide +kernel
  obtain ⟨⟨log, t⟩, hplay, hcheck⟩ := Option.map_eq_some_iff.1 hcheck
  obtain ⟨visits, hvisits, hcontracts⟩ := Option.map_eq_some_iff.1 hcheck
  have hstep : t.step "bridge" appointment = (.ok visits, (t.step "bridge" appointment).2) :=
    Prod.ext (Handler.toOption_eq_some_iff.1 hvisits) rfl
  obtain ⟨-, -, -, hlanded⟩ := dispatch_ends t "bridge" appointment
  exact ⟨log, t, visits, _, run_of_play hplay, hstep, hcontracts, (hlanded visits _ hstep).2.2⟩

end VestingBridge.Session
