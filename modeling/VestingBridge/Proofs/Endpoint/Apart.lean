import VestingBridge.Proofs.Endpoint.Calls
import VestingBridge.Proofs.Table
/-!
# Proofs.Endpoint.Apart — what one application is to another at an endpoint

An endpoint keeps its entries by application.  What concerns one of them reads the entries of that one alone, and leaves
those of all others as they are (`alike_of_concerns`, `agreeOn_of_landed`).
-/
namespace VestingBridge.Endpoint

open Handler

/-- **The storages agree on some applications**, and on what belongs to none. -/
structure Store.AgreeOn (P : Account → Prop) (s t : Store) : Prop where
  config : s.config = t.config
  version : s.version = t.version
  applications : ∀ a, P a → s.applications.get? a = t.applications.get? a
  inbound : ∀ chain src a, P a → s.inbound.get? (chain, src, a) = t.inbound.get? (chain, src, a)
  outbound : ∀ chain a dst, P a → s.outbound.get? (chain, a, dst) = t.outbound.get? (chain, a, dst)

/-- **The event concerns an application**: it is called for by it, or delivers to it. -/
def Event.Concerns (application : Account) : Event → Prop
  | .execute caller (.register _) | .execute caller (.send ..) => caller.sender = application
  | .execute _ (.deliver target _) => target = application
  | .create _ => False

variable {P Q : Account → Prop} {s t u : Store} {r : Response} {event : Event} {application : Account}

theorem Store.AgreeOn.refl (P : Account → Prop) (s : Store) : s.AgreeOn P s :=
  ⟨rfl, rfl, fun _ _ => rfl, fun _ _ _ _ => rfl, fun _ _ _ _ => rfl⟩

theorem Store.AgreeOn.symm (h : s.AgreeOn P t) : t.AgreeOn P s :=
  ⟨h.config.symm, h.version.symm, fun a ha => (h.applications a ha).symm,
    fun chain src a ha => (h.inbound chain src a ha).symm, fun chain a dst ha => (h.outbound chain a dst ha).symm⟩

theorem Store.AgreeOn.trans (h : s.AgreeOn P t) (h' : t.AgreeOn P u) : s.AgreeOn P u :=
  ⟨h.config.trans h'.config, h.version.trans h'.version, fun a ha => (h.applications a ha).trans (h'.applications a ha),
    fun chain src a ha => (h.inbound chain src a ha).trans (h'.inbound chain src a ha),
    fun chain a dst ha => (h.outbound chain a dst ha).trans (h'.outbound chain a dst ha)⟩

theorem Store.AgreeOn.mono (h : s.AgreeOn Q t) (hsub : ∀ a, P a → Q a) : s.AgreeOn P t :=
  ⟨h.config, h.version, fun a ha => h.applications a (hsub a ha),
    fun chain src a ha => h.inbound chain src a (hsub a ha), fun chain a dst ha => h.outbound chain a dst (hsub a ha)⟩

/-- **Storages that agree on each application are the same.** -/
theorem Store.eq_of_agreeOn (h : ∀ a, s.AgreeOn (· = a) t) : s = t := by
  obtain ⟨config, applications, outbound, inbound, version⟩ := s
  obtain ⟨config', applications', outbound', inbound', version'⟩ := t
  cases (h "").config
  cases (h "").version
  have happlications : applications = applications' := Table.ext_get? fun a => (h a).applications a rfl
  have hinbound : inbound = inbound' := Table.ext_get? fun ⟨chain, src, a⟩ => (h a).inbound chain src a rfl
  have houtbound : outbound = outbound' := Table.ext_get? fun ⟨chain, a, dst⟩ => (h a).outbound chain a dst rfl
  rw [happlications, hinbound, houtbound]

/-! ## What is written -/

theorem Store.AgreeOn.register (h : s.AgreeOn P t) (a : Account) (typeInfo : TypeTag) :
    { s with applications := s.applications.insert a typeInfo : Store }.AgreeOn P
      { t with applications := t.applications.insert a typeInfo } :=
  ⟨h.config, h.version, fun b hb => Table.get?_insert_congr a typeInfo (h.applications b hb), h.inbound, h.outbound⟩

theorem Store.AgreeOn.send (h : s.AgreeOn P t) (path : OutboundPath) (nonce : Nonce) :
    { s with outbound := s.outbound.insert path nonce : Store }.AgreeOn P
      { t with outbound := t.outbound.insert path nonce } :=
  ⟨h.config, h.version, h.applications, h.inbound,
    fun chain a dst ha => Table.get?_insert_congr path nonce (h.outbound chain a dst ha)⟩

theorem Store.AgreeOn.deliver (h : s.AgreeOn P t) (path : InboundPath) (nonce : Nonce) :
    { s with inbound := s.inbound.insert path nonce : Store }.AgreeOn P
      { t with inbound := t.inbound.insert path nonce } :=
  ⟨h.config, h.version, h.applications,
    fun chain src a ha => Table.get?_insert_congr path nonce (h.inbound chain src a ha), h.outbound⟩

/-! ## What is read -/

theorem Store.AgreeOn.contains_eq (h : s.AgreeOn P t) (ha : P application) :
    s.applications.contains application = t.applications.contains application := by
  rw [Table.contains, Table.contains, h.applications application ha]

theorem Store.AgreeOn.verifyRegistered_eq (h : s.AgreeOn P t) (ha : P application) :
    s.verifyRegistered application = t.verifyRegistered application := by
  rw [Store.verifyRegistered, Store.verifyRegistered, h.contains_eq ha]

theorem Store.AgreeOn.loadConfig_eq (h : s.AgreeOn P t) : s.loadConfig = t.loadConfig := by
  rw [Store.loadConfig, Store.loadConfig, h.config]

/-- **What concerns an application does not tell storages apart that agree on it.** -/
theorem alike_of_concerns (ha : P application) (h : event.Concerns application) :
    Alike (Store.AgreeOn P) event.run := by
  cases event with
  | create setup => cases h
  | execute caller call =>
    cases call with
    | register typeInfo =>
      cases (h : caller.sender = application)
      refine .get_bind (fun s => .bind (.require _ _) fun _ => .bind (.modify ?_) fun _ => .pure _) fun s t hst => ?_
      · exact fun s t hst => hst.register _ typeInfo
      · rw [hst.contains_eq ha]
    | send dstChain dst payload =>
      cases (h : caller.sender = application)
      refine .bind (.look fun s t hst => hst.verifyRegistered_eq ha) fun _ => ?_
      refine .bind (.look fun s t hst => hst.loadConfig_eq) fun config => .bind (.check _ _) fun address => ?_
      refine .bind (.look fun s t hst => ?_) fun nonce => .bind (.modify fun s t hst => hst.send _ nonce) fun _ => ?_
      · rw [Store.lastSent, Store.lastSent, hst.outbound _ _ _ ha]
      · exact .bind (.check _ _) fun _ => .pure _
    | deliver target delivery =>
      cases (h : target = application)
      refine .bind (.look fun s t hst => hst.loadConfig_eq) fun config => .bind (.require _ _) fun _ => ?_
      refine .check_bind fun account haccount => ?_
      cases Account.validate_ok haccount
      refine .bind (.look fun s t hst => hst.verifyRegistered_eq ha) fun _ => .bind (.check _ _) fun packet => ?_
      refine .bind (.require _ _) fun _ => .bind (.look fun s t hst => ?_) fun expected => ?_
      · rw [Store.lastDelivered, Store.lastDelivered, hst.inbound _ _ _ ha]
      · exact .bind (.require _ _) fun _ => .bind (.modify fun s t hst => hst.deliver _ _) fun _ => .pure _

/-- **What concerns an application leaves the entries of every other.** -/
theorem agreeOn_of_landed (h : event.Concerns application) (hland : event.run.commit s = .ok (r, t)) :
    s.AgreeOn (· ≠ application) t := by
  cases event with
  | create setup => cases h
  | execute caller call =>
    cases call with
    | register typeInfo =>
      cases (h : caller.sender = application)
      obtain ⟨-, -, -, rfl⟩ := register_ok hland
      refine ⟨rfl, rfl, fun a hne => ?_, fun _ _ _ _ => rfl, fun _ _ _ _ => rfl⟩
      rw [Table.get?_insert, if_neg hne]
    | send dstChain dst payload =>
      cases (h : caller.sender = application)
      obtain ⟨_, _, -, -, -, -, -, -, -, -, -, -, rfl⟩ := send_ok hland
      refine ⟨rfl, rfl, fun _ _ => rfl, fun _ _ _ _ => rfl, fun chain a dst hne => ?_⟩
      rw [Table.get?_insert, if_neg fun heq => hne (congrArg (·.2.1) heq)]
    | deliver target delivery =>
      cases (h : target = application)
      obtain ⟨_, _, -, -, -, -, -, -, -, -, rfl⟩ := deliver_ok hland
      refine ⟨rfl, rfl, fun _ _ => rfl, fun chain src a hne => ?_, fun _ _ _ _ => rfl⟩
      rw [Table.get?_insert, if_neg fun heq => hne (congrArg (·.2.2) heq)]

end VestingBridge.Endpoint
