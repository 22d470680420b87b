import VestingBridge.Proofs.Bridge.Change
import VestingBridge.Proofs.Bridge.Value
/-!
# Proofs.Bridge.Service — how a bridge comes into service

A bridge goes from one stage to the next and never back.  The first step is the appointment of its officers, who stay;
the second is the word that it was registered.  Each lands once, and the stage says which of them did
(`History.counted`).
-/
namespace VestingBridge.Bridge

variable {self : Account} {env : Env} {s t : Store} {r : Response} {event : Event} {log more : List Landing}
  {before after : Config}

/-- The number of stages that the bridge has left behind. -/
def Lifecycle.rank : Lifecycle → Nat
  | uninitialized => 0
  | initialized => 1
  | active => 2

theorem Lifecycle.rank_pos_iff {stage : Lifecycle} : 0 < stage.rank ↔ stage ≠ .uninitialized := by
  cases stage <;> simp [rank]

def Event.isAppointment : Event → Bool
  | execute _ (.appoint ..) => true
  | _ => false

/-- The event is word that a message succeeded. -/
def Event.isReply : Event → Bool
  | reply _ => true
  | _ => false

/-- **The officers and the pause fit the stage**, and the chain is one. -/
structure Config.Staged (c : Config) : Prop where
  admin : c.admin = none ↔ c.lifecycle = .uninitialized
  authority : c.authority = none ↔ c.lifecycle = .uninitialized
  chain : c.localChain.val ≠ 0
  paused : c.paused = true → c.lifecycle ≠ .uninitialized

/-- **What an event makes of a configuration.** -/
inductive Config.Becomes (event : Event) (before : Config) : Config → Prop
  | appointed (admin authority : Account) (isAppointment : event.isAppointment = true) (isReply : event.isReply = false)
      (stage : before.lifecycle = .uninitialized) :
    Becomes event before
      { before with admin := some admin, authority := some authority, lifecycle := .initialized }
  | registered (isAppointment : event.isAppointment = false) (isReply : event.isReply = true)
      (stage : before.lifecycle = .initialized) : Becomes event before { before with lifecycle := .active }
  | kept (paused : Bool) (isAppointment : event.isAppointment = false) (isReply : event.isReply = false)
      (stage : paused = before.paused ∨ before.admin ≠ none) : Becomes event before { before with paused }

theorem Config.Becomes.refl (isAppointment : event.isAppointment = false) (isReply : event.isReply = false) :
    Config.Becomes event before before :=
  .kept before.paused isAppointment isReply (.inl rfl)

theorem Event.opens_only (h : event.opens = true) : event.isAppointment = false ∧ event.isReply = false := by
  unfold opens at h
  split at h
  · exact ⟨rfl, rfl⟩
  · exact ⟨rfl, rfl⟩
  · cases h

/-- **What every event that is no creation makes of the configuration.** -/
theorem Change.becomes (h : Change env s event t) (hcreate : event.isCreate = false)
    (hbefore : s.config = some before) :
    ∃ after, t.config = some after ∧ Config.Becomes event before after := by
  cases h with
  | created => cases hcreate
  | appointed caller admin authority config configured owner stage =>
    cases hbefore.symm.trans configured
    exact ⟨_, rfl, .appointed admin authority rfl rfl stage⟩
  | registered config configured stage =>
    cases hbefore.symm.trans configured
    exact ⟨_, rfl, .registered rfl rfl stage⟩
  | stopped caller config configured admin | resumed caller config configured admin =>
    cases hbefore.symm.trans configured
    refine ⟨_, rfl, .kept _ rfl rfl (.inr ?_)⟩
    rw [admin]
    exact Option.some_ne_none _
  | opened event draft deposit next opens =>
    obtain ⟨isAppointment, isReply⟩ := Event.opens_only opens
    exact ⟨before, hbefore, .refl isAppointment isReply⟩
  | upgraded | trusted | mapped | assigned | withdrawn | delivered | requested =>
    exact ⟨before, hbefore, .refl rfl rfl⟩

/-- Only an appointment, a reply and a creation change the stage. -/
theorem lifecycle_of_landed (hcreate : event.isCreate = false) (happointment : event.isAppointment = false)
    (hreply : event.isReply = false) (h : (event.run env).commit s = .ok (r, t)) :
    t.config.map (·.lifecycle) = s.config.map (·.lifecycle) := by
  cases hbefore : s.config with
  | none =>
    have hfounding := founding_of_landed hcreate h
    rw [hbefore] at hfounding
    rw [Option.map_eq_none_iff.1 hfounding]
  | some before =>
    obtain ⟨after, hafter, hbecomes⟩ := (change_of_landed h).becomes hcreate hbefore
    rw [hafter]
    cases hbecomes with
    | appointed _ _ isAppointment => cases happointment.symm.trans isAppointment
    | registered _ isReply => cases hreply.symm.trans isReply
    | kept => rfl

/-- A message that asks for no registration and for no reply. -/
def IsPlain (m : Outgoing) : Prop :=
  m.replyId = none ∧ ∀ contract typeInfo funds, m.message ≠ .call contract (.endpoint (.register typeInfo)) funds

/-- **Only an appointment asks for a registration.** -/
theorem plain_of_landed (happointment : event.isAppointment = false) (h : (event.run env).commit s = .ok (r, t)) :
    ∀ m ∈ r.messages, IsPlain m := by
  have hpayment : ∀ p : Payment, IsPlain ⟨p.holding.payment p.recipient p.amount, none⟩ := by
    refine fun p => ⟨rfl, fun contract typeInfo funds heq => ?_⟩
    unfold Holding.payment at heq
    split at heq <;> cases heq
  have hsends := sends_of_landed h
  unfold Sends at hsends
  intro m hm
  split at hsends
  · obtain ⟨id, p, -, -, hpays⟩ := hsends
    rw [pays_iff.1 hpays] at hm
    cases List.mem_singleton.1 hm
    exact hpayment p
  · obtain ⟨id, p, -, -, hpays⟩ := hsends
    rw [pays_iff.1 hpays] at hm
    cases List.mem_singleton.1 hm
    exact hpayment p
  · obtain ⟨dst, payload, hr⟩ := hsends
    rw [hr] at hm
    cases List.mem_singleton.1 hm
    exact ⟨rfl, fun _ _ _ heq => by cases heq⟩
  · cases happointment
  · rw [hsends] at hm
    cases hm

/-! ## The stages in order -/

theorem Config.Becomes.staged (h : Config.Becomes event before after) (hbefore : before.Staged) : after.Staged := by
  cases h with
  | appointed admin authority _ _ _ =>
    exact ⟨⟨nofun, nofun⟩, ⟨nofun, nofun⟩, hbefore.chain, nofun⟩
  | registered _ _ stage =>
    have hne : before.lifecycle ≠ .uninitialized := by rw [stage]; exact nofun
    refine ⟨⟨fun h => absurd (hbefore.admin.1 h) hne, nofun⟩, ⟨fun h => absurd (hbefore.authority.1 h) hne, nofun⟩,
      hbefore.chain, nofun⟩
  | kept paused _ _ stage =>
    refine ⟨hbefore.admin, hbefore.authority, hbefore.chain, fun hpaused => ?_⟩
    rcases stage with rfl | hadmin
    · exact hbefore.paused hpaused
    · exact fun h => hadmin (hbefore.admin.2 h)

/-- **The stage stays or is the next one**: the first is left by an appointment, the second by a reply. -/
theorem Config.Becomes.rank_eq (h : Config.Becomes event before after) :
    after.lifecycle.rank =
      before.lifecycle.rank + (if event.isAppointment then 1 else 0) + if event.isReply then 1 else 0 := by
  cases h with
  | appointed _ _ isAppointment isReply stage => simp [isAppointment, isReply, stage, Lifecycle.rank]
  | registered isAppointment isReply stage => simp [isAppointment, isReply, stage, Lifecycle.rank]
  | kept _ isAppointment isReply => simp [isAppointment, isReply]

theorem Config.Becomes.officers (h : Config.Becomes event before after) (hstage : before.lifecycle ≠ .uninitialized) :
    after.admin = before.admin ∧ after.authority = before.authority := by
  cases h with
  | appointed _ _ _ _ stage => exact absurd stage hstage
  | registered | kept => exact ⟨rfl, rfl⟩

/-- **What a history has brought about**: the officers, the pause and the chain fit the stage, and the stage tells how
often the officers were appointed and the bridge heard that it was registered. -/
structure Config.Progress (c : Config) (log : List Landing) : Prop where
  staged : c.Staged
  appointments : log.countP (·.event.isAppointment) = if c.lifecycle = .uninitialized then 0 else 1
  replies : log.countP (·.event.isReply) = if c.lifecycle = .active then 1 else 0

theorem Config.Progress.step (h : before.Progress log) {l : Landing} (hbecomes : Config.Becomes l.event before after) :
    after.Progress (log ++ [l]) := by
  have happointments := h.appointments
  have hreplies := h.replies
  refine ⟨hbecomes.staged h.staged, ?_, ?_⟩
  · rw [List.countP_append, happointments, List.countP_singleton]
    cases hbecomes with
    | appointed _ _ isAppointment _ stage => simp [isAppointment, stage]
    | registered isAppointment _ stage => simp [isAppointment, stage]
    | kept _ isAppointment => simp [isAppointment]
  · rw [List.countP_append, hreplies, List.countP_singleton]
    cases hbecomes with
    | appointed _ _ _ isReply stage => simp [isReply, stage]
    | registered _ isReply stage => simp [isReply, stage]
    | kept _ _ isReply => simp [isReply]

/-- The creation is the start, and nothing but new code came before it. -/
theorem progress_of_create {caller : Caller} {setup : Setup} {now : Seconds} {config : Config}
    (hlog : ∀ l ∈ log, l.event = .upgrade) (h : (create caller setup).commit s = .ok (r, t))
    (hconfig : t.config = some config) : config.Progress (log ++ [⟨now, .create caller setup, r⟩]) := by
  obtain ⟨chain, -, rfl⟩ := create_ok h
  cases hconfig
  have hnone : ∀ f : Event → Bool, f .upgrade = false → f (.create caller setup) = false →
      (log ++ [(⟨now, .create caller setup, r⟩ : Landing)]).countP (fun l => f l.event) = 0 := by
    intro f hupgrade hcreate
    rw [List.countP_eq_zero]
    intro l hl
    rcases List.mem_append.1 hl with hl | hl
    · rw [hlog l hl, hupgrade]
      exact Bool.false_ne_true
    · rw [List.mem_singleton.1 hl, hcreate]
      exact Bool.false_ne_true
  exact ⟨⟨⟨fun _ => rfl, fun _ => rfl⟩, ⟨fun _ => rfl, fun _ => rfl⟩, chain, nofun⟩,
    hnone Event.isAppointment rfl rfl, hnone Event.isReply rfl rfl⟩

/-- **Every history brings the bridge forward in order.** -/
theorem History.progress (h : History self log s) {config : Config} (hconfig : s.config = some config) :
    config.Progress log := by
  induction h generalizing config with
  | start => cases hconfig
  | @land log t _ _ hrun hlands ih =>
    obtain @⟨now, event, response, u, honce, hland⟩ := hlands
    cases hcreate : event.isCreate with
    | true =>
      cases event with
      | create caller setup =>
        exact progress_of_create (fun l hl => ((History.isBlank hrun (honce rfl)).2 l hl).1) hland hconfig
      | execute | reply | upgrade => cases hcreate
    | false =>
      cases hbefore : t.config with
      | none =>
        have hfounding := founding_of_landed hcreate hland
        rw [hbefore, hconfig] at hfounding
        cases hfounding
      | some before =>
        obtain ⟨after, hafter, hbecomes⟩ := (change_of_landed hland).becomes hcreate hbefore
        cases hconfig.symm.trans hafter
        exact (ih hbefore).step hbecomes
  | pass _ hrefuses ih =>
    cases hrefuses
    exact ih hconfig

/-- **From its creation on a bridge never goes back, and its officers stay once they are appointed.** -/
theorem Run.forward (h : Run self s log t) (hbefore : s.config = some before) :
    ∃ after, t.config = some after ∧ before.lifecycle.rank ≤ after.lifecycle.rank ∧
      (before.lifecycle ≠ .uninitialized → after.admin = before.admin ∧ after.authority = before.authority) := by
  induction h with
  | start => exact ⟨before, hbefore, Nat.le_refl _, fun _ => ⟨rfl, rfl⟩⟩
  | @land log t _ _ _ hlands ih =>
    obtain @⟨now, event, response, u, honce, hland⟩ := hlands
    obtain ⟨middle, hmiddle, hrank, hofficers⟩ := ih
    -- a bridge with a configuration is not created again
    have hcreate : event.isCreate = false := by
      cases hcreate : event.isCreate with
      | false => rfl
      | true => cases (honce hcreate).symm.trans hmiddle
    obtain ⟨after, hafter, hbecomes⟩ := (change_of_landed hland).becomes hcreate hmiddle
    have hstep := hbecomes.rank_eq
    refine ⟨after, hafter, by omega, fun hstage => ?_⟩
    have hstage' : middle.lifecycle ≠ .uninitialized := by
      rw [← Lifecycle.rank_pos_iff] at hstage ⊢
      exact Nat.lt_of_lt_of_le hstage hrank
    obtain ⟨hadmin, hauthority⟩ := hofficers hstage
    obtain ⟨hadmin', hauthority'⟩ := hbecomes.officers hstage'
    exact ⟨hadmin'.trans hadmin, hauthority'.trans hauthority⟩
  | pass _ hrefuses ih =>
    cases hrefuses
    exact ih

end VestingBridge.Bridge
