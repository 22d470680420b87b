import VestingBridge.Proofs.Session.Delivery
/-!
# Proofs.Session.Causes — why a contract is entered

A call enters one contract on behalf of whoever makes it.  Every further contract is entered for a message of one that
was entered (`answers_of_callWithin`), and no such message has an endpoint deliver anything: deliveries come from
outside alone.
-/
namespace VestingBridge.Session

/-- **A visit answers to a contract's messages**: one of them calls the contract that is entered, or has its author
called back. -/
inductive Visit.Answers (author : Account) (messages : List Outgoing) : Visit → Prop
  | call (contract : Account) (body : Call) (funds : List Coin) (replyId : Option ReplyId) (response : Response)
      (asked : ⟨.call contract body funds, replyId⟩ ∈ messages) :
    Answers author messages ⟨contract, .execute ⟨author, funds⟩ body.toJson, response⟩
  | reply (message : Message) (id : ReplyId) (response : Response) (asked : ⟨message, some id⟩ ∈ messages) :
    Answers author messages ⟨author, .reply id, response⟩

/-- The visit answers to the messages of one of these visits. -/
def Visit.IsCausedBy (v : Visit) (visits : List Visit) : Prop :=
  ∃ cause ∈ visits, v.Answers cause.contract cause.response.messages

variable {w w' : World} {now : Seconds} {self author here : Account} {entry : Entry} {visits more : List Visit}
  {v : Visit} {messages : List Outgoing} {m : Outgoing}

theorem Visit.Answers.mono (h : v.Answers author messages) {more : List Outgoing} (hsub : ∀ m ∈ messages, m ∈ more) :
    v.Answers author more := by
  cases h with
  | call contract body funds replyId response asked => exact .call contract body funds replyId response (hsub _ asked)
  | reply message id response asked => exact .reply message id response (hsub _ asked)

theorem Visit.IsCausedBy.mono (h : v.IsCausedBy visits) (hsub : ∀ v ∈ visits, v ∈ more) : v.IsCausedBy more := by
  obtain ⟨cause, hcause, hanswers⟩ := h
  exact ⟨cause, hsub cause hcause, hanswers⟩

section
variable {call : World → Account → Entry → Outcome}
  (hcall : ∀ {w w' self entry visits}, call w self entry = .ok (w', visits) →
    ∃ r rest, visits = ⟨self, entry, r⟩ :: rest ∧ ∀ v ∈ rest, v.IsCausedBy visits)
include hcall

theorem answers_of_forward (h : World.forward call self w m = .ok (w', visits)) :
    ∀ v ∈ visits, v.Answers self [m] ∨ v.IsCausedBy visits := by
  unfold World.forward at h
  split at h
  · cases h
    exact nofun
  · rename_i contract body funds hmessage
    obtain ⟨message, replyId⟩ := m
    cases hmessage
    split at h
    · obtain ⟨⟨w1, first⟩, hfirst, h⟩ := bind_eq_ok_iff.1 h
      obtain ⟨r, rest, rfl, hrest⟩ := hcall hfirst
      have hasked : Visit.Answers self [⟨.call contract body funds, replyId⟩]
          ⟨contract, .execute ⟨self, funds⟩ body.toJson, r⟩ :=
        .call contract body funds replyId r (List.mem_singleton.2 rfl)
      dsimp only at h
      split at h
      · cases h
        intro v hv
        rcases List.mem_cons.1 hv with rfl | hv
        · exact .inl hasked
        · exact .inr (hrest v hv)
      · obtain ⟨⟨w2, second⟩, hsecond, h⟩ := bind_eq_ok_iff.1 h
        obtain ⟨r', rest', rfl, hrest'⟩ := hcall hsecond
        cases h
        intro v hv
        rcases List.mem_append.1 hv with hv | hv
        · rcases List.mem_cons.1 hv with rfl | hv
          · exact .inl hasked
          · exact .inr ((hrest v hv).mono fun v => List.mem_append_left _)
        · rcases List.mem_cons.1 hv with rfl | hv
          · exact .inl (.reply _ _ r' (List.mem_singleton.2 rfl))
          · exact .inr ((hrest' v hv).mono fun v => List.mem_append_right _)
    · cases h
      exact nofun

theorem answers_of_forwardAll : ∀ {w visits}, World.forwardAll call self w messages = .ok (w', visits) →
    ∀ v ∈ visits, v.Answers self messages ∨ v.IsCausedBy visits := by
  induction messages with
  | nil =>
    intro w visits h
    cases h
    exact nofun
  | cons m ms ih =>
    intro w visits h v hv
    obtain ⟨⟨w1, first⟩, hfirst, h⟩ := bind_eq_ok_iff.1 h
    obtain ⟨⟨w2, rest⟩, hrest, h⟩ := bind_eq_ok_iff.1 h
    cases h
    rcases List.mem_append.1 hv with hv | hv
    · rcases answers_of_forward hcall hfirst v hv with hanswers | hcaused
      · exact .inl (hanswers.mono fun m' hm' => List.mem_singleton.1 hm' ▸ List.mem_cons_self ..)
      · exact .inr (hcaused.mono fun v => List.mem_append_left _)
    · rcases ih hrest v hv with hanswers | hcaused
      · exact .inl (hanswers.mono fun m' => List.mem_cons_of_mem _)
      · exact .inr (hcaused.mono fun v => List.mem_append_right _)

end

/-- **Every contract that a call enters after the first is entered for a message of one of them.** -/
theorem answers_of_callWithin {depth : Nat} : ∀ {w w' self entry visits},
    World.callWithin now depth w self entry = .ok (w', visits) →
    ∃ r rest, visits = ⟨self, entry, r⟩ :: rest ∧ ∀ v ∈ rest, v.IsCausedBy visits := by
  induction depth with
  | zero =>
    intro w w' self entry visits h
    cases h
  | succ depth ih =>
    intro w w' self entry visits h
    obtain ⟨r, w1, rest, henter, hrest, rfl⟩ := callWithin_ok h
    refine ⟨r, rest, rfl, fun v hv => ?_⟩
    rcases answers_of_forwardAll ih hrest v hv with hanswers | hcaused
    · exact ⟨_, List.mem_cons_self .., hanswers⟩
    · exact hcaused.mono fun v => List.mem_cons_of_mem _

/-! ## What messages do not ask for -/

theorem deliveryTo?_of_message (application : Account) (caller : Caller) (body : Call) :
    (Entry.execute caller body.toJson).deliveryTo? application = none := by
  cases body with
  | transfer recipient amount =>
    rw [Entry.deliveryTo?, Entry.toEndpoint, (endpoint_reads_no (.encoded []) recipient amount).2]
    rfl
  | receiver call =>
    obtain ⟨event⟩ := call
    rw [Entry.deliveryTo?, Entry.toEndpoint, (endpoint_reads_no event "" Amount.zero).1]
    rfl
  | endpoint call =>
    rw [Entry.deliveryTo?, Entry.toEndpoint, endpoint_reads]
    cases call <;> rfl

/-- **No message has an endpoint deliver anything.** -/
theorem Visit.Answers.deliveryTo? (h : v.Answers author messages) (application : Account) :
    v.entry.deliveryTo? application = none := by
  cases h with
  | call contract body funds => exact deliveryTo?_of_message application _ body
  | reply => rfl

/-- What an endpoint hands over in a call is what it was called for from outside. -/
theorem handed_of_callWithin {depth : Nat} {application : Account} {event : DeliveryEvent}
    (h : World.callWithin now depth w self entry = .ok (w', visits)) (hv : v ∈ visits)
    (hhanded : v.handed? here application = some event) : self = here ∧ entry.deliveryTo? application = some event := by
  obtain ⟨r, rest, rfl, hrest⟩ := answers_of_callWithin h
  rw [Visit.handed?] at hhanded
  split at hhanded
  · rename_i hhere
    rcases List.mem_cons.1 hv with rfl | hv
    · exact ⟨hhere, hhanded⟩
    · obtain ⟨_, _, hanswers⟩ := hrest v hv
      rw [hanswers.deliveryTo?] at hhanded
      cases hhanded
  · cases hhanded

end VestingBridge.Session
