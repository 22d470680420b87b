import VestingBridge.Proofs.Bridge.Service
import VestingBridge.Proofs.Bridge.Streams
/-!
# Proofs.Bridge.Pause — what a pause stops, and what it leaves

A bridge that is paused sends no message, pays nothing out and applies no packet until it goes on (`Run.stopped`).  The
authority still enters what it enters, and streams are still opened: to these calls a paused bridge is as one that is
not (`commit_withPaused`).
-/
namespace VestingBridge.Bridge

open Handler

/-- The event lets the bridge go on. -/
def Event.isResumption : Event → Bool
  | .execute _ .unpause => true
  | _ => false

/-- The event has messages sent if it lands. -/
def Event.isSending : Event → Bool
  | .execute _ (.withdraw _) | .execute _ (.deliver _) | .execute _ (.requestRemoteWithdraw ..)
  | .execute _ (.appoint ..) => true
  | _ => false

/-- The event is an entry of the authority, or asks for a new stream. -/
def Event.isSpared : Event → Bool
  | .execute _ (.setTrustedRemote ..) | .execute _ (.setCoinMap ..) | .execute _ (.registerAsset ..)
  | .execute _ (.createStream _) | .execute _ (.receive _) => true
  | _ => false

/-- **The bridge is paused**, having been set up. -/
structure Store.IsStopped (s : Store) (config : Config) : Prop where
  configured : s.config = some config
  paused : config.paused = true
  staged : config.lifecycle ≠ .uninitialized

/-- **No stream was drawn on**: each stays as it was, and what was added is untouched. -/
def Store.Unspent (later earlier : Store) : Prop :=
  ∀ id, later.streams.get? id = earlier.streams.get? id ∨
    earlier.streams.get? id = none ∧ ∃ stream, later.streams.get? id = some stream ∧ stream.withdrawn = Amount.zero

variable {self : Account} {env : Env} {s t u : Store} {r : Response} {event : Event} {history log : List Landing}
  {config : Config}

theorem Store.Unspent.of_eq (h : t.streams = s.streams) : t.Unspent s := fun id => .inl (by rw [h])

theorem Store.Unspent.trans (h : t.Unspent s) (h' : u.Unspent t) : u.Unspent s := by
  intro id
  rcases h id with heq | ⟨hnone, stream, hstream, hzero⟩
  · rw [← heq]
    exact h' id
  · rcases h' id with heq' | ⟨hnone', -⟩
    · exact .inr ⟨hnone, stream, heq'.trans hstream, hzero⟩
    · cases hstream.symm.trans hnone'

/-! ## What does not happen -/

theorem silent_of_landed (hnot : event.isSending = false) (h : (event.run env).commit s = .ok (r, t)) :
    r.messages = [] := by
  have hsends := sends_of_landed h
  unfold Sends at hsends
  split at hsends
  · cases hnot
  · cases hnot
  · cases hnot
  · cases hnot
  · exact hsends

/-- **A paused bridge refuses whatever would have a message sent.** -/
theorem Store.IsStopped.not_sending (hs : s.IsStopped config) (h : (event.run env).commit s = .ok (r, t)) :
    event.isSending = false := by
  have hpaused : ∀ other, s.config = some other → other.paused ≠ false := by
    intro other hother hfalse
    cases hs.configured.symm.trans hother
    cases hs.paused.symm.trans hfalse
  unfold Event.isSending
  split
  · obtain ⟨_, _, _, _, hother, hfalse, -⟩ := withdraw_ok h
    exact absurd hfalse (hpaused _ hother)
  · obtain ⟨_, _, _, _, _, _, _, _, hother, -, -, hfalse, -⟩ := deliver_ok h
    exact absurd hfalse (hpaused _ hother)
  · obtain ⟨_, _, _, hother, -, hfalse, -⟩ := requestRemoteWithdraw_ok h
    exact absurd hfalse (hpaused _ hother)
  · obtain ⟨_, _, hother, -, hstage, -⟩ := appoint_ok h
    cases hs.configured.symm.trans hother
    exact absurd hstage hs.staged
  · rfl

/-- **What lands while the bridge is paused** leaves it paused, and leaves the streams and the packets alone. -/
theorem Store.IsStopped.step (hs : s.IsStopped config) (hfresh : s.streams.get? s.nextStreamId = none)
    (hcreate : event.isCreate = false) (hnot : event.isResumption = false)
    (h : (event.run env).commit s = .ok (r, t)) :
    (∃ config, t.IsStopped config) ∧ t.Unspent s ∧ t.processed = s.processed := by
  have hsilent := hs.not_sending h
  obtain ⟨hconfigured, hpaused, hstaged⟩ := hs
  cases change_of_landed h with
  | created => cases hcreate
  | resumed => cases hnot
  | appointed | withdrawn | delivered | requested => cases hsilent
  | registered other configured =>
    cases hconfigured.symm.trans configured
    exact ⟨⟨_, rfl, hpaused, nofun⟩, .of_eq rfl, rfl⟩
  | stopped caller other configured =>
    cases hconfigured.symm.trans configured
    exact ⟨⟨_, rfl, rfl, hstaged⟩, .of_eq rfl, rfl⟩
  | upgraded | trusted | mapped | assigned => exact ⟨⟨config, hconfigured, hpaused, hstaged⟩, .of_eq rfl, rfl⟩
  | opened event draft deposit =>
    refine ⟨⟨config, hconfigured, hpaused, hstaged⟩, fun id => ?_, rfl⟩
    have hget : (s.streams.insert s.nextStreamId (draft.toStream s.nextStreamId deposit env.now)).get? id =
        if id = s.nextStreamId then some (draft.toStream s.nextStreamId deposit env.now) else s.streams.get? id :=
      Table.get?_insert ..
    by_cases hid : id = s.nextStreamId
    · subst hid
      rw [if_pos rfl] at hget
      exact .inr ⟨hfresh, _, hget, rfl⟩
    · rw [if_neg hid] at hget
      exact .inl hget

/-- **Until it goes on, a paused bridge sends no message, draws on no stream and applies no packet.** -/
theorem Run.stopped (h : Run self s log t) (hhistory : History self history s) (hs : s.IsStopped config)
    (hnot : ∀ l ∈ log, l.event.isResumption = false) :
    (∀ l ∈ log, l.response.messages = []) ∧ (∃ config, t.IsStopped config) ∧ t.Unspent s ∧
      t.processed = s.processed := by
  induction h with
  | start => exact ⟨nofun, ⟨config, hs⟩, .of_eq rfl, rfl⟩
  | @land log t _ _ hrun hlands ih =>
    obtain @⟨now, event, response, u, honce, hland⟩ := hlands
    obtain ⟨hsilent, ⟨config', ht⟩, hunspent, hprocessed⟩ := ih fun l hl => hnot l (List.mem_append_left _ hl)
    have hcreate : event.isCreate = false := by
      cases hcreate : event.isCreate with
      | false => rfl
      | true => cases (honce hcreate).symm.trans ht.configured
    have hfresh := (History.filed (Runs.trans hhistory hrun)).fresh
    have hevent := hnot ⟨now, event, response⟩ (List.mem_append_right _ (List.mem_singleton.2 rfl))
    obtain ⟨hu, hunspent', hprocessed'⟩ := ht.step hfresh hcreate hevent hland
    refine ⟨fun l hl => ?_, hu, hunspent.trans hunspent', hprocessed'.trans hprocessed⟩
    rcases List.mem_append.1 hl with hl | hl
    · exact hsilent l hl
    · cases List.mem_singleton.1 hl
      exact silent_of_landed (ht.not_sending hland) hland
  | pass _ hrefuses ih =>
    cases hrefuses
    exact ih hnot

/-! ## What goes on as before -/

/-- The storage with the pause set as it is wanted. -/
def Store.withPaused (s : Store) (paused : Bool) : Store := { s with config := s.config.map ({ · with paused }) }

/-- The storages differ in the pause alone. -/
def SameButPaused (paused : Bool) (s t : Store) : Prop := t = s.withPaused paused

variable {paused : Bool}

theorem alike_verifyAuthority (sender : Account) :
    Alike (SameButPaused paused) (look (·.verifyAuthority sender) : Step Account) := by
  refine .look fun s t hst => ?_
  rw [hst, Store.verifyAuthority, Store.verifyAuthority, Store.loadConfig, Store.loadConfig, Store.withPaused]
  cases s.config <;> rfl

/-- A write that has nothing to do with the pause. -/
theorem alike_write {write : Store → Store} (h : ∀ s, write (s.withPaused paused) = (write s).withPaused paused) :
    Alike (SameButPaused paused) (modify write : Step PUnit) := by
  refine .modify ?_
  rintro s t rfl
  exact h s

theorem alike_openStream (draft : StreamDraft) (deposit : Amount) :
    Alike (SameButPaused paused) (openStream env draft deposit) := by
  refine .bind (.require _ _) fun _ => .bind (.require _ _) fun _ => .bind (.require _ _) fun _ => ?_
  refine .get_bind (fun s => .bind (alike_write fun _ => rfl) fun _ => ?_) ?_
  · split
    · exact .bind (.throw _) fun _ => .pure _
    · exact .bind (alike_write fun _ => rfl) fun _ => .pure _
  · rintro s t rfl
    rfl

theorem alike_draftOf (sender : Account) (terms : StreamTerms) :
    Alike (SameButPaused paused) (draftOf sender terms) := by
  refine .bind (.check _ _) fun _ => .bind (.check _ _) fun tag => .bind (.look ?_) fun _ => .pure _
  rintro s t rfl
  rfl

/-- **What is spared does not tell a paused bridge from one that is not.** -/
theorem alike_of_spared (h : event.isSpared = true) : Alike (SameButPaused paused) (event.run env) := by
  unfold Event.isSpared at h
  split at h
  · refine .bind (alike_verifyAuthority _) fun _ => .bind (.check _ _) fun _ => .bind (.require _ _) fun _ => ?_
    exact .bind (.require _ _) fun _ => .bind (alike_write fun _ => rfl) fun _ => .pure _
  · refine .bind (alike_verifyAuthority _) fun _ => .bind (.check _ _) fun _ => .bind (.check _ _) fun _ => ?_
    refine .bind (.require _ _) fun _ => .bind (alike_write fun _ => rfl) fun _ => ?_
    exact .bind (alike_write fun _ => rfl) fun _ => .pure _
  · refine .bind (alike_verifyAuthority _) fun _ => .bind (.check _ _) fun _ => .bind (.ofExcept _) fun _ => ?_
    exact .bind (alike_write fun _ => rfl) fun _ => .pure _
  · refine .bind (alike_draftOf _ _) fun draft => ?_
    split
    · exact .throw _
    · split
      · exact .bind (.require _ _) fun _ => alike_openStream _ _
      · exact .throw _
  · refine .bind (.check _ _) fun _ => .bind (.ofExcept _) fun call => .bind (alike_draftOf _ _) fun _ => ?_
    exact .bind (.require _ _) fun _ => alike_openStream _ _
  · cases h

/-- **A paused bridge takes what is spared under the same conditions and with the same effect**, and so does one that is
not. -/
theorem commit_withPaused (h : event.isSpared = true) (s : Store) (paused : Bool) :
    (event.run env).commit (s.withPaused paused) =
      ((event.run env).commit s).map fun answer => (answer.1, answer.2.withPaused paused) := by
  have halike : SameOutcome (SameButPaused paused) ((event.run env).commit s)
      ((event.run env).commit (s.withPaused paused)) := alike_of_spared h s _ rfl
  rcases halike.elim with ⟨e, hs, ht⟩ | ⟨r, t, u, hs, ht, rfl⟩
  · rw [hs, ht]
    rfl
  · rw [hs, ht]
    rfl

/-! ## The pause itself -/

theorem withPaused_withPaused (s : Store) (p q : Bool) : (s.withPaused p).withPaused q = s.withPaused q := by
  rw [Store.withPaused, Store.withPaused, Store.withPaused]
  cases s.config <;> rfl

theorem withPaused_self (hconfig : s.config = some config) : s.withPaused config.paused = s := by
  rw [Store.withPaused, hconfig]
  exact congrArg (fun c => { s with config := c }) hconfig.symm

/-- **The administrator sets the pause**, and changes nothing else. -/
theorem setPaused_lands {caller : Caller} (action : String) (hconfig : s.config = some config)
    (hadmin : config.admin = some caller.sender) (paused : Bool) :
    ∃ r, (setPaused caller paused action).commit s = .ok (r, s.withPaused paused) ∧ r.messages = [] := by
  refine ⟨.note [("action", action)], ?_, rfl⟩
  simp only [setPaused, commit_look_bind, commit_require_bind, commit_modify_bind, commit_pure_eq_ok_iff]
  refine ⟨config, loadConfig_eq_ok_iff.2 hconfig, hadmin, trivial, ?_⟩
  rw [Store.withPaused, hconfig]
  rfl

end VestingBridge.Bridge
