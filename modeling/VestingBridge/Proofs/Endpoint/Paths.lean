import VestingBridge.Proofs.Endpoint.Calls
import VestingBridge.Proofs.Runs
import VestingBridge.Proofs.Table
/-!
# Proofs.Endpoint.Paths — the packets that take a path

On each path out of an endpoint the packets are numbered from one as they are sent, and on each path into it as they are
delivered; the storage keeps the last number.  This holds of every run, and needs nothing of the applications.
-/
namespace VestingBridge

/-! ## Packets in order -/

def Packet.isFrom (chain : ChainId) (src : WireAddress) (p : Packet) : Bool := p.srcChain = chain ∧ p.src = src

def Packet.isTo (chain : ChainId) (dst : WireAddress) (p : Packet) : Bool := p.dstChain = chain ∧ p.dst = dst

theorem Packet.isFrom_iff {chain : ChainId} {src : WireAddress} {p : Packet} :
    p.isFrom chain src = true ↔ p.srcChain = chain ∧ p.src = src := decide_eq_true_iff

theorem Packet.isTo_iff {chain : ChainId} {dst : WireAddress} {p : Packet} :
    p.isTo chain dst = true ↔ p.dstChain = chain ∧ p.dst = dst := decide_eq_true_iff

/-- **Packets that bear the numbers from one to the last, in this order.** -/
def Numbered (packets : List Packet) (last : Nonce) : Prop :=
  packets.map (·.nonce.val) = List.range' 1 last.val

variable {packets shorter : List Packet} {packet : Packet} {last end_ : Nonce}

theorem Numbered.length (h : Numbered packets last) : packets.length = last.val := by
  rw [← List.length_map, h, List.length_range']

theorem Numbered.concat (h : Numbered packets last) (hnext : packet.nonce.val = last.val + 1) :
    Numbered (packets ++ [packet]) packet.nonce := by
  rw [Numbered, List.map_append, h, hnext, List.range'_1_concat, Nat.add_comm 1, ← hnext]
  rfl

/-- A packet that takes the next number of a path is one more on this path, and none on another. -/
theorem Numbered.insert {κ : Type} [Ord κ] [Std.TransOrd κ] [Std.LawfulEqOrd κ] [DecidableEq κ] {kept : Table κ Nonce}
    {path taken : κ} {on : Packet → Bool} (h : Numbered (packets.filter on) ((kept.get? path).getD Nonce.zero))
    (hon : on packet = true ↔ path = taken)
    (hnext : packet.nonce.val = ((kept.get? taken).getD Nonce.zero).val + 1) :
    Numbered ((packets ++ [packet]).filter on) (((kept.insert taken packet.nonce).get? path).getD Nonce.zero) := by
  rw [List.filter_append, Table.get?_insert]
  by_cases hpath : path = taken
  · subst hpath
    rw [if_pos rfl, Option.getD_some, List.filter_cons_of_pos (hon.2 rfl), List.filter_nil]
    exact h.concat hnext
  · rw [if_neg hpath, List.filter_cons_of_neg fun h => hpath (hon.1 h), List.filter_nil, List.append_nil]
    exact h

theorem Numbered.getElem (h : Numbered packets last) {i : Nat} (hi : i < packets.length) :
    packets[i].nonce.val = i + 1 := by
  have hget : (packets.map (·.nonce.val))[i]? = some (packets[i].nonce.val) := by
    rw [List.getElem?_map, List.getElem?_eq_getElem hi, Option.map_some]
  rw [h, List.getElem?_range' (h.length ▸ hi)] at hget
  have := Option.some.inj hget
  omega

/-- **Of two numbered lists, one within the other is a beginning of it.** -/
theorem Numbered.prefix_of_subset (hshort : Numbered shorter end_) (h : Numbered packets last)
    (hsub : ∀ p ∈ shorter, p ∈ packets) : shorter <+: packets := by
  rw [List.prefix_iff_getElem?]
  intro i hi
  obtain ⟨k, hk, heq⟩ := List.getElem_of_mem (hsub _ (List.getElem_mem hi))
  have hsame : k = i := by
    have hnonce := congrArg (·.nonce.val) heq
    rw [h.getElem hk, hshort.getElem hi] at hnonce
    omega
  subst hsame
  rw [List.getElem?_eq_getElem hk, heq]

namespace Endpoint

open Handler

/-! ## The runs of an endpoint -/

/-- An event that landed, and what the endpoint answered. -/
structure Landing where
  event : Event
  response : Response

def Event.isCreate : Event → Bool
  | create _ => true
  | execute .. => false

/-- **An event lands**: the storage is changed and the endpoint answers.  Only a storage without a configuration is
created. -/
inductive Lands (s : Store) : Landing → Store → Prop
  | intro {event : Event} {response t} (once : event.isCreate = true → s.config = none)
      (landed : event.run.commit s = .ok (response, t)) : Lands s ⟨event, response⟩ t

/-- An event is refused, which leaves the storage as it is. -/
inductive Refuses (s : Store) : Store → Prop
  | intro {event : Event} {error} (refused : event.run.commit s = .error error) : Refuses s s

/-- **The runs of an endpoint**, from one storage to another, with the events that landed in order. -/
abbrev Run : Store → List Landing → Store → Prop := Runs Lands Refuses

abbrev History (log : List Landing) (s : Store) : Prop := Run .empty log s

variable {s t u : Store} {r : Response} {event : Event} {log more : List Landing} {application sender : Account}

/-- An event that lands is a run. -/
theorem Run.of_landed (once : event.isCreate = true → s.config = none)
    (landed : event.run.commit s = .ok (r, t)) : Run s [⟨event, r⟩] t :=
  .land .start ⟨once, landed⟩

def Event.sender? : Event → Option Account
  | execute caller _ => some caller.sender
  | create _ => none

/-- The event that is to be handed to an application, if the endpoint is called for that. -/
def Event.deliveryTo? (application : Account) : Event → Option DeliveryEvent
  | execute _ (.deliver target event) => if target = application then some event else none
  | _ => none

/-- **The packets that were delivered to an application**, in order. -/
def arrived (application : Account) (log : List Landing) : List Packet :=
  log.filterMap fun l => (l.event.deliveryTo? application).bind (·.rebuild.toOption)

/-- **The packets that were sent**, in order, as the answers show them. -/
def emitted (log : List Landing) : List Packet := log.filterMap (·.response.packet?)

/-- **The packets that an application sent**, in order. -/
def emittedBy (sender : Account) (log : List Landing) : List Packet :=
  emitted (log.filter (·.event.sender? = some sender))

/-! ## One more entry in the log -/

theorem arrived_append (application : Account) (log : List Landing) (l : Landing) :
    arrived application (log ++ [l]) =
      arrived application log ++ ((l.event.deliveryTo? application).bind (·.rebuild.toOption)).toList := by
  rw [arrived, List.filterMap_append, arrived]
  cases h : (l.event.deliveryTo? application).bind (·.rebuild.toOption) <;> simp [h]

theorem emitted_append (log more : List Landing) : emitted (log ++ more) = emitted log ++ emitted more :=
  List.filterMap_append

theorem emittedBy_append (sender : Account) (log : List Landing) (l : Landing) :
    emittedBy sender (log ++ [l]) =
      emittedBy sender log ++ if l.event.sender? = some sender then l.response.packet?.toList else [] := by
  rw [emittedBy, List.filter_append, emitted_append, emittedBy]
  by_cases h : l.event.sender? = some sender
  · cases hp : l.response.packet? <;> simp [h, hp, emitted]
  · simp [h, emitted]

/-- **What a landed event does to the paths**: a packet goes out, a packet comes in, or the paths stay. -/
inductive Passing (s : Store) (event : Event) (r : Response) (t : Store) : Prop
  | aside (delivery : ∀ application, event.deliveryTo? application = none) (silent : r.messages = [])
      (unseen : r.packet? = none) (outbound : t.outbound = s.outbound) (inbound : t.inbound = s.inbound)
      (applications : ∀ a, s.applications.contains a = true → t.applications.contains a = true)
      (config : event.isCreate = true ∨ t.config = s.config)
  | sent (caller : Caller) (packet : Packet) (config : Config)
      (delivery : ∀ application, event.deliveryTo? application = none) (sender : event.sender? = some caller.sender)
      (registered : s.applications.contains caller.sender = true) (configured : s.config = some config)
      (srcChain : packet.srcChain = config.localChain) (src : caller.sender.wire = .ok packet.src)
      (next : packet.nonce.val = (s.lastSent (packet.dstChain, caller.sender, packet.dst)).val + 1)
      (silent : r.messages = []) (shown : r.packet? = some packet)
      (after : t = { s with outbound := s.outbound.insert (packet.dstChain, caller.sender, packet.dst) packet.nonce })
  | delivered (caller : Caller) (application : Account) (e : DeliveryEvent) (packet : Packet) (config : Config)
      (isDelivery : event = .execute caller (.deliver application e)) (rebuilt : e.rebuild = .ok packet)
      (configured : s.config = some config) (dstChain : packet.dstChain = config.localChain)
      (next : packet.nonce.val = (s.lastDelivered (packet.srcChain, packet.src, application)).val + 1)
      (handed : r.messages = [⟨.call application (.receiver (.receive e)) [], none⟩]) (unseen : r.packet? = none)
      (after : t = { s with inbound := s.inbound.insert (packet.srcChain, packet.src, application) packet.nonce })

theorem passing_of_landed (h : event.run.commit s = .ok (r, t)) : Passing s event r t := by
  cases event with
  | create setup =>
    obtain ⟨hr, hunseen, rfl⟩ := create_ok h
    exact .aside (fun _ => rfl) hr hunseen rfl rfl (fun _ ha => ha) (.inl rfl)
  | execute caller call =>
    cases call with
    | register typeInfo =>
      obtain ⟨hr, hunseen, -, rfl⟩ := register_ok h
      refine .aside (fun _ => rfl) hr hunseen rfl rfl (fun a ha => ?_) (.inr rfl)
      rw [Table.contains, Table.get?_insert]
      split
      · rfl
      · exact ha
    | send dstChain dst payload =>
      obtain ⟨config, packet, hregistered, hc, hsrcChain, hsrc, rfl, -, -, hnext, hr, hshown, rfl⟩ := send_ok h
      exact .sent caller packet config (fun _ => rfl) rfl hregistered hc hsrcChain hsrc hnext hr hshown rfl
    | deliver application e =>
      obtain ⟨config, packet, hc, -, -, hpacket, hchain, hnext, hr, hunseen, rfl⟩ := deliver_ok h
      exact .delivered caller application e packet config rfl hpacket hc hchain hnext hr hunseen rfl

/-- **A delivery that lands hands over the next packet of its path.** -/
theorem delivered_of_landed {delivery : DeliveryEvent} (hto : event.deliveryTo? application = some delivery)
    (h : event.run.commit s = .ok (r, t)) :
    ∃ packet, delivery.rebuild = .ok packet ∧
      packet.nonce.val = (s.lastDelivered (packet.srcChain, packet.src, application)).val + 1 ∧
      r.messages = [⟨.call application (.receiver (.receive delivery)) [], none⟩] := by
  cases passing_of_landed h with
  | aside none _ _ _ _ _ _ | sent _ _ _ none _ _ _ _ _ _ _ _ _ => cases (none application).symm.trans hto
  | delivered caller target e packet _ isDelivery rebuilt _ _ next handed _ _ =>
    rw [isDelivery, Event.deliveryTo?] at hto
    split at hto
    · rename_i htarget
      subst htarget
      cases hto
      exact ⟨packet, rebuilt, next, handed⟩
    · cases hto

/-! ## The numbers on the paths -/

/-- The figure of the packets that were delivered to an application on one path. -/
def arrivals (application : Account) (path : InboundPath) (last : Nonce) : Nat :=
  if path.2.2 = application then last.val else 0

theorem total_arrivals_insert {kept : Table InboundPath Nonce} {path : InboundPath} {nonce : Nonce}
    (hnext : nonce.val = ((kept.get? path).getD Nonce.zero).val + 1) :
    (kept.insert path nonce).total (arrivals application) =
      kept.total (arrivals application) + if path.2.2 = application then 1 else 0 := by
  have htotal := Table.total_insert (arrivals application) kept path nonce
  by_cases hpath : path.2.2 = application
  · have hfigure : ∀ last, arrivals application path last = last.val := fun last => if_pos hpath
    rw [hfigure nonce, hnext] at htotal
    rw [if_pos hpath]
    cases hget : kept.get? path with
    | none =>
      rw [hget, Option.elim_none, Option.getD_none] at htotal
      exact htotal
    | some last =>
      rw [hget, Option.elim_some, Option.getD_some, hfigure last] at htotal
      omega
  · have hfigure : ∀ last, arrivals application path last = 0 := fun last => if_neg hpath
    rw [hfigure nonce] at htotal
    rw [if_neg hpath]
    cases hget : kept.get? path with
    | none =>
      rw [hget, Option.elim_none] at htotal
      exact htotal
    | some last =>
      rw [hget, Option.elim_some, hfigure last] at htotal
      exact htotal

/-- **The storage keeps the numbers of the packets in the log.** -/
structure Numbering (s : Store) (log : List Landing) : Prop where
  inbound : ∀ chain src application,
    Numbered ((arrived application log).filter (·.isFrom chain src)) (s.lastDelivered (chain, src, application))
  counted : ∀ application, (arrived application log).length = s.inbound.total (arrivals application)
  outbound : ∀ chain sender dst,
    Numbered ((emittedBy sender log).filter (·.isTo chain dst)) (s.lastSent (chain, sender, dst))
  here : ∀ application, ∀ p ∈ arrived application log, s.config.map (·.localChain) = some p.dstChain
  signed : ∀ sender, ∀ p ∈ emittedBy sender log, s.applications.contains sender = true ∧
    sender.wire = .ok p.src ∧ s.config.map (·.localChain) = some p.srcChain
  attributed : ∀ p ∈ emitted log, ∃ sender, p ∈ emittedBy sender log

theorem Numbering.empty : Numbering .empty [] where
  inbound _ _ _ := rfl
  counted _ := rfl
  outbound _ _ _ := rfl
  here _ := nofun
  signed _ := nofun
  attributed := nofun

theorem Numbering.aside (h : Numbering s log) {l : Landing}
    (delivery : ∀ application, l.event.deliveryTo? application = none) (unseen : l.response.packet? = none)
    (outbound : t.outbound = s.outbound) (inbound : t.inbound = s.inbound)
    (applications : ∀ a, s.applications.contains a = true → t.applications.contains a = true)
    (chain : ∀ c, s.config.map (·.localChain) = some c → t.config.map (·.localChain) = some c) :
    Numbering t (log ++ [l]) := by
  have harrived : ∀ application, arrived application (log ++ [l]) = arrived application log := fun application => by
    rw [arrived_append, delivery]
    exact List.append_nil _
  have hemittedBy : ∀ sender, emittedBy sender (log ++ [l]) = emittedBy sender log := fun sender => by
    rw [emittedBy_append, unseen, Option.toList_none, ite_self, List.append_nil]
  have hemitted : emitted (log ++ [l]) = emitted log := by
    rw [emitted_append]
    simp [emitted, unseen]
  constructor
  · intro c src application
    rw [harrived, Store.lastDelivered, inbound]
    exact h.inbound c src application
  · intro application
    rw [harrived, inbound]
    exact h.counted application
  · intro c sender dst
    rw [hemittedBy, Store.lastSent, outbound]
    exact h.outbound c sender dst
  · intro application p hp
    rw [harrived] at hp
    exact chain _ (h.here application p hp)
  · intro sender p hp
    rw [hemittedBy] at hp
    obtain ⟨hregistered, hwire, hchain⟩ := h.signed sender p hp
    exact ⟨applications _ hregistered, hwire, chain _ hchain⟩
  · intro p hp
    rw [hemitted] at hp
    obtain ⟨sender, hsender⟩ := h.attributed p hp
    exact ⟨sender, (hemittedBy sender).symm ▸ hsender⟩

theorem Numbering.sent (h : Numbering s log) {l : Landing} {packet : Packet} {config : Config}
    (delivery : ∀ application, l.event.deliveryTo? application = none) (hsender : l.event.sender? = some sender)
    (registered : s.applications.contains sender = true) (configured : s.config = some config)
    (srcChain : packet.srcChain = config.localChain) (src : sender.wire = .ok packet.src)
    (next : packet.nonce.val = (s.lastSent (packet.dstChain, sender, packet.dst)).val + 1)
    (shown : l.response.packet? = some packet) :
    Numbering { s with outbound := s.outbound.insert (packet.dstChain, sender, packet.dst) packet.nonce }
      (log ++ [l]) := by
  have harrived : ∀ application, arrived application (log ++ [l]) = arrived application log := fun application => by
    rw [arrived_append, delivery]
    exact List.append_nil _
  have hown : emittedBy sender (log ++ [l]) = emittedBy sender log ++ [packet] := by
    rw [emittedBy_append, if_pos hsender, shown, Option.toList_some]
  have helse : ∀ other, other ≠ sender → emittedBy other (log ++ [l]) = emittedBy other log := fun other hne => by
    rw [emittedBy_append, hsender, if_neg fun heq => hne (Option.some.inj heq).symm, List.append_nil]
  constructor
  · intro c src application
    rw [harrived]
    exact h.inbound c src application
  · intro application
    rw [harrived]
    exact h.counted application
  · intro c other dst
    by_cases hother : other = sender
    · subst hother
      rw [hown]
      refine Numbered.insert (h.outbound c other dst) ?_ next
      rw [Packet.isTo_iff, Prod.mk.injEq, Prod.mk.injEq, eq_comm, @eq_comm _ packet.dst]
      simp
    · have hpath : (c, other, dst) ≠ (packet.dstChain, sender, packet.dst) := fun heq => hother (congrArg (·.2.1) heq)
      rw [helse other hother, Store.lastSent, Table.get?_insert, if_neg hpath]
      exact h.outbound c other dst
  · intro application p hp
    rw [harrived] at hp
    exact h.here application p hp
  · intro other p hp
    by_cases hother : other = sender
    · subst hother
      rw [hown] at hp
      rcases List.mem_append.1 hp with hp | hp
      · exact h.signed other p hp
      · cases List.mem_singleton.1 hp
        refine ⟨registered, src, ?_⟩
        rw [configured, srcChain]
        rfl
    · rw [helse other hother] at hp
      exact h.signed other p hp
  · intro p hp
    rw [emitted_append] at hp
    rcases List.mem_append.1 hp with hp | hp
    · obtain ⟨other, hmem⟩ := h.attributed p hp
      refine ⟨other, ?_⟩
      rw [emittedBy_append]
      exact List.mem_append_left _ hmem
    · refine ⟨sender, ?_⟩
      rw [hown]
      refine List.mem_append_right _ ?_
      simpa [emitted, shown] using hp

theorem Numbering.delivered (h : Numbering s log) {caller : Caller} {e : DeliveryEvent} {packet : Packet}
    {config : Config} (rebuilt : e.rebuild = .ok packet) (configured : s.config = some config)
    (dstChain : packet.dstChain = config.localChain)
    (next : packet.nonce.val = (s.lastDelivered (packet.srcChain, packet.src, application)).val + 1)
    (unseen : r.packet? = none) :
    Numbering { s with inbound := s.inbound.insert (packet.srcChain, packet.src, application) packet.nonce }
      (log ++ [⟨.execute caller (.deliver application e), r⟩]) := by
  have hto : ∀ other, (Event.execute caller (.deliver application e)).deliveryTo? other =
      if application = other then some e else none := fun _ => rfl
  have hown : arrived application (log ++ [⟨.execute caller (.deliver application e), r⟩]) =
      arrived application log ++ [packet] := by
    rw [arrived_append, hto, if_pos rfl, Option.bind_some, rebuilt]
    rfl
  have helse : ∀ other, other ≠ application →
      arrived other (log ++ [⟨.execute caller (.deliver application e), r⟩]) = arrived other log := fun other hne => by
    rw [arrived_append, hto, if_neg hne.symm]
    exact List.append_nil _
  have hemittedBy : ∀ sender, emittedBy sender (log ++ [⟨.execute caller (.deliver application e), r⟩]) =
      emittedBy sender log := fun sender => by
    rw [emittedBy_append, unseen, Option.toList_none, ite_self, List.append_nil]
  have hemitted : emitted (log ++ [⟨.execute caller (.deliver application e), r⟩]) = emitted log := by
    rw [emitted_append]
    simp [emitted, unseen]
  constructor
  · intro c src other
    by_cases hother : other = application
    · subst hother
      rw [hown]
      refine Numbered.insert (h.inbound c src other) ?_ next
      rw [Packet.isFrom_iff, Prod.mk.injEq, Prod.mk.injEq, eq_comm, @eq_comm _ packet.src]
      simp
    · have hpath : (c, src, other) ≠ (packet.srcChain, packet.src, application) := fun heq =>
        hother (congrArg (·.2.2) heq)
      rw [helse other hother, Store.lastDelivered, Table.get?_insert, if_neg hpath]
      exact h.inbound c src other
  · intro other
    refine Eq.trans ?_ (total_arrivals_insert next).symm
    by_cases hother : other = application
    · subst hother
      rw [hown, List.length_append, List.length_singleton, h.counted, if_pos rfl]
    · rw [helse other hother, h.counted, if_neg (Ne.symm hother), Nat.add_zero]
  · intro c sender dst
    rw [hemittedBy]
    exact h.outbound c sender dst
  · intro other p hp
    by_cases hother : other = application
    · subst hother
      rw [hown] at hp
      rcases List.mem_append.1 hp with hp | hp
      · exact h.here other p hp
      · cases List.mem_singleton.1 hp
        rw [configured, dstChain]
        rfl
    · rw [helse other hother] at hp
      exact h.here other p hp
  · intro sender p hp
    rw [hemittedBy] at hp
    exact h.signed sender p hp
  · intro p hp
    rw [hemitted] at hp
    obtain ⟨sender, hsender⟩ := h.attributed p hp
    exact ⟨sender, (hemittedBy sender).symm ▸ hsender⟩

/-- **Every event that lands keeps the numbers.** -/
theorem Numbering.step (h : Numbering s log) (honce : event.isCreate = true → s.config = none)
    (hland : event.run.commit s = .ok (r, t)) : Numbering t (log ++ [⟨event, r⟩]) := by
  cases passing_of_landed hland with
  | aside delivery silent unseen outbound inbound applications config =>
    refine h.aside delivery unseen outbound inbound applications fun c hc => ?_
    rcases config with hcreate | hsame
    · rw [honce hcreate] at hc
      cases hc
    · rwa [hsame]
  | sent caller packet config delivery sender registered configured srcChain src next silent shown after =>
    rw [after]
    exact h.sent delivery sender registered configured srcChain src next shown
  | delivered caller application e packet config isDelivery rebuilt configured dstChain next handed unseen after =>
    subst isDelivery
    rw [after]
    exact h.delivered rebuilt configured dstChain next unseen

/-- **In every history of an endpoint the packets on each path are numbered from one.** -/
theorem History.numbering (h : History log s) : Numbering s log := by
  induction h with
  | start => exact .empty
  | land _ hlands ih =>
    obtain ⟨honce, hland⟩ := hlands
    exact ih.step honce hland
  | pass _ hrefuses ih =>
    cases hrefuses
    exact ih

/-! ## The paths of one application -/

/-- **The counter of a path into this chain changes only for a packet that takes it.** -/
theorem Run.inbound_eq (h : Run s log t) {chain : ChainId} {src : WireAddress}
    (hnone : ∀ p ∈ arrived application log, p.isFrom chain src = false) :
    t.inbound.get? (chain, src, application) = s.inbound.get? (chain, src, application) := by
  induction h with
  | start => rfl
  | @land log t _ _ _ hlands ih =>
    obtain @⟨event, response, u, -, hland⟩ := hlands
    rw [arrived_append] at hnone
    have hbefore := ih fun p hp => hnone p (List.mem_append_left _ hp)
    cases passing_of_landed hland with
    | aside _ _ _ _ inbound _ _ => rw [inbound, hbefore]
    | sent _ _ _ _ _ _ _ _ _ _ _ _ after => rw [after, hbefore]
    | delivered caller target e packet _ isDelivery rebuilt _ _ _ _ _ after =>
      have hpath : (chain, src, application) ≠ (packet.srcChain, packet.src, target) := by
        rintro ⟨⟩
        have hfrom := hnone packet (List.mem_append_right _ (by
          rw [isDelivery, Event.deliveryTo?, if_pos rfl, Option.bind_some, rebuilt]
          exact List.mem_singleton.2 rfl))
        rw [Packet.isFrom_iff.2 ⟨rfl, rfl⟩] at hfrom
        cases hfrom
      rw [after, Table.get?_insert, if_neg hpath, hbefore]
  | pass _ hrefuses ih =>
    cases hrefuses
    exact ih hnone

/-- **The counter of a path out of this chain changes only if its application sends.** -/
theorem Run.outbound_eq (h : Run s log t) (hnone : ∀ l ∈ log, l.event.sender? ≠ some application) (chain : ChainId)
    (dst : WireAddress) :
    t.outbound.get? (chain, application, dst) = s.outbound.get? (chain, application, dst) := by
  induction h with
  | start => rfl
  | @land log t _ _ _ hlands ih =>
    obtain @⟨event, response, u, -, hland⟩ := hlands
    have hbefore := ih fun l hl => hnone l (List.mem_append_left _ hl)
    cases passing_of_landed hland with
    | aside _ _ _ outbound _ _ _ => rw [outbound, hbefore]
    | sent caller packet _ _ sender _ _ _ _ _ _ _ after =>
      have hpath : (chain, application, dst) ≠ (packet.dstChain, caller.sender, packet.dst) := by
        rintro ⟨⟩
        exact hnone ⟨event, response⟩ (List.mem_append_right _ (List.mem_singleton.2 rfl)) sender
      rw [after, Table.get?_insert, if_neg hpath, hbefore]
    | delivered _ _ _ _ _ _ _ _ _ _ _ _ after => rw [after, hbefore]
  | pass _ hrefuses ih =>
    cases hrefuses
    exact ih hnone

/-! ## The entries of applications -/

/-- **An application has an entry only if it asked for it**, and no other event changes the entry. -/
theorem application_of_landed
    (hother : ∀ caller typeInfo, event = .execute caller (.register typeInfo) → caller.sender ≠ application)
    (h : event.run.commit s = .ok (r, t)) : t.applications.get? application = s.applications.get? application := by
  cases event with
  | create setup =>
    obtain ⟨-, -, rfl⟩ := create_ok h
    rfl
  | execute caller call =>
    cases call with
    | register typeInfo =>
      obtain ⟨-, -, -, rfl⟩ := register_ok h
      rw [Table.get?_insert, if_neg fun heq => hother caller typeInfo rfl heq.symm]
    | send dstChain dst payload =>
      obtain ⟨_, _, -, -, -, -, -, -, -, -, -, -, rfl⟩ := send_ok h
      rfl
    | deliver target e =>
      obtain ⟨_, _, -, -, -, -, -, -, -, -, rfl⟩ := deliver_ok h
      rfl

/-- **An entry never changes.** -/
theorem Run.application_eq (h : Run s log t) {typeInfo : TypeTag}
    (hentry : s.applications.get? application = some typeInfo) : t.applications.get? application = some typeInfo := by
  induction h with
  | start => exact hentry
  | @land log t _ _ _ hlands ih =>
    obtain @⟨event, response, u, -, hland⟩ := hlands
    rw [application_of_landed ?_ hland]
    · exact ih
    · rintro caller typeInfo' rfl rfl
      obtain ⟨-, -, hnew, -⟩ := register_ok hland
      rw [Table.contains, ih] at hnew
      cases hnew
  | pass _ hrefuses ih =>
    cases hrefuses
    exact ih

end Endpoint

end VestingBridge
