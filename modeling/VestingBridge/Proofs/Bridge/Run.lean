import VestingBridge.Proofs.Bridge.Calls
import VestingBridge.Proofs.Runs
/-!
# Proofs.Bridge.Run — a bridge over time

A run is any sequence of events at any times, which need not go forward.  An event that lands changes the storage and
enters the log; one that is refused does neither.  Only a storage without a configuration is created, so that a bridge
is created once.  A history is a run from the storage of a bridge that was never called.
-/
namespace VestingBridge

namespace Bridge

open Handler

/-- An event that landed: when, what it was, and what the bridge answered. -/
structure Landing where
  now : Seconds
  event : Event
  response : Response

def Event.isCreate : Event → Bool
  | create .. => true
  | execute .. | reply _ | upgrade => false

/-- **An event lands**: the storage is changed and the bridge answers.  Only a storage without a configuration is
created. -/
inductive Lands (self : Account) (s : Store) : Landing → Store → Prop
  | intro {now} {event : Event} {response t} (once : event.isCreate = true → s.config = none)
      (landed : (event.run ⟨self, now⟩).commit s = .ok (response, t)) : Lands self s ⟨now, event, response⟩ t

/-- An event is refused, which leaves the storage as it is. -/
inductive Refuses (self : Account) (s : Store) : Store → Prop
  | intro {now} {event : Event} {error} (refused : (event.run ⟨self, now⟩).commit s = .error error) : Refuses self s s

/-- **The runs of a bridge at an address**, from one storage to another, with the events that landed in order. -/
abbrev Run (self : Account) : Store → List Landing → Store → Prop := Runs (Lands self) (Refuses self)

abbrev History (self : Account) (log : List Landing) (s : Store) : Prop := Run self .empty log s

variable {self : Account} {env : Env} {s t u : Store} {r : Response} {event : Event} {log more : List Landing}

/-- An event that lands is a run. -/
theorem Run.of_landed {now : Seconds} (once : event.isCreate = true → s.config = none)
    (landed : (event.run ⟨self, now⟩).commit s = .ok (r, t)) : Run self s [⟨now, event, r⟩] t :=
  .land .start ⟨once, landed⟩

/-- What comes of an event at a time.  A second creation has no outcome. -/
def outcome (self : Account) (s : Store) : Seconds × Event → Option (Option Landing × Store)
  | (now, event) =>
    match (event.run ⟨self, now⟩).commit s with
    | .ok (response, t) =>
      if event.isCreate = true ∧ s.config ≠ none then none else some (some ⟨now, event, response⟩, t)
    | .error _ => some (none, s)

/-- **A bridge driven through events at their times**: what lands, and the storage at the end. -/
def play (self : Account) (s : Store) (occasions : List (Seconds × Event)) : Option (List Landing × Store) :=
  drive (outcome self) s occasions

theorem outcome_eq_land_iff {l : Landing} :
    (∃ occasion, outcome self s occasion = some (some l, t)) ↔ Lands self s l t := by
  constructor
  · rintro ⟨⟨now, event⟩, h⟩
    rw [outcome] at h
    split at h
    · rename_i response u hland
      split at h
      · cases h
      · rename_i honce
        cases h
        exact ⟨fun hcreate => Classical.byContradiction fun hne => honce ⟨hcreate, hne⟩, hland⟩
    · cases h
  · rintro @⟨now, event, response, _, honce, hland⟩
    have hnot : ¬(event.isCreate = true ∧ s.config ≠ none) := fun ⟨hcreate, hne⟩ => hne (honce hcreate)
    exact ⟨(now, event), by simp [outcome, hland, hnot]⟩

theorem outcome_eq_refuse_iff : (∃ occasion, outcome self s occasion = some (none, t)) ↔ Refuses self s t := by
  constructor
  · rintro ⟨⟨now, event⟩, h⟩
    rw [outcome] at h
    split at h
    · split at h <;> cases h
    · rename_i hrefused
      cases h
      exact ⟨hrefused⟩
  · rintro @⟨now, event, error, hrefused⟩
    exact ⟨(now, event), by rw [outcome, hrefused]⟩

/-- **The runs are what a bridge can be driven through.** -/
theorem run_iff_play : Run self s log t ↔ ∃ occasions, play self s occasions = some (log, t) :=
  ⟨Runs.exists_drive outcome_eq_land_iff.2 outcome_eq_refuse_iff.2, fun ⟨_, hplay⟩ =>
    runs_of_drive hplay (fun h => outcome_eq_land_iff.1 ⟨_, h⟩) fun h => outcome_eq_refuse_iff.1 ⟨_, h⟩⟩

/-! ## Before the creation -/

/-- Nothing was kept but the version of the code. -/
def Store.IsBlank (s : Store) : Prop := s = { Store.empty with version := s.version }

/-- **A blank storage without a configuration lands nothing but its creation and new code.** -/
theorem blank_of_landed (hs : s.IsBlank) (hconfig : t.config = none)
    (h : (event.run env).commit s = .ok (r, t)) : t.IsBlank ∧ event = .upgrade ∧ r.messages = [] := by
  have hnone : s.config = none := by rw [hs]; rfl
  have hasset : ∀ key, s.assets.get? key = none := by rw [hs]; exact fun _ => rfl
  cases event with
  | create caller setup =>
    obtain ⟨-, -, rfl⟩ := create_ok h
    cases hconfig
  | reply id =>
    obtain ⟨-, -, config, hc, -⟩ := registered_ok h
    cases hnone.symm.trans hc
  | upgrade =>
    obtain ⟨hr, rfl⟩ := upgrade_ok h
    refine ⟨?_, rfl, hr⟩
    rw [hs]
    rfl
  | execute caller call =>
    exfalso
    cases call with
    | appoint admin authority =>
      obtain ⟨config, _, hc, -⟩ := appoint_ok h
      cases hnone.symm.trans hc
    | pause | unpause =>
      obtain ⟨-, config, hc, -⟩ := setPaused_ok h
      cases hnone.symm.trans hc
    | setTrustedRemote chain text =>
      obtain ⟨-, ⟨config, hc, -⟩, -⟩ := setTrustedRemote_ok h
      cases hnone.symm.trans hc
    | setCoinMap chain text assetType =>
      obtain ⟨-, ⟨config, hc, -⟩, -⟩ := setCoinMap_ok h
      cases hnone.symm.trans hc
    | registerAsset assetType holding =>
      obtain ⟨-, ⟨config, hc, -⟩, -⟩ := registerAsset_ok h
      cases hnone.symm.trans hc
    | createStream terms =>
      obtain ⟨draft, _, ⟨-, -, -, ha, -⟩, -⟩ := createStream_ok h
      cases (hasset _).symm.trans ha
    | receive hook =>
      obtain ⟨draft, _, -, ⟨-, -, -, ha, -⟩, -⟩ := receive_ok h
      cases (hasset _).symm.trans ha
    | withdraw id =>
      obtain ⟨config, _, _, _, hc, -⟩ := withdraw_ok h
      cases hnone.symm.trans hc
    | deliver delivery =>
      obtain ⟨config, _, _, _, _, _, _, _, hc, -⟩ := deliver_ok h
      cases hnone.symm.trans hc
    | requestRemoteWithdraw chain value =>
      obtain ⟨config, _, _, hc, -⟩ := requestRemoteWithdraw_ok h
      cases hnone.symm.trans hc

/-! ## What stays as it was set at the creation -/

/-- The owner, the endpoint and the chain of a configuration. -/
def Config.founding (c : Config) : Account × Account × ChainId := (c.owner, c.endpoint, c.localChain)

theorem endpoint_of_founding {config : Config} (h : s.config.map Config.founding = t.config.map Config.founding)
    (hconfig : s.config = some config) : ∃ other, t.config = some other ∧ other.endpoint = config.endpoint := by
  rw [hconfig] at h
  obtain ⟨other, hother, hsame⟩ := Option.map_eq_some_iff.1 h.symm
  exact ⟨other, hother, congrArg (·.2.1) hsame⟩

theorem founding_of_landed (hcreate : event.isCreate = false) (h : (event.run env).commit s = .ok (r, t)) :
    t.config.map Config.founding = s.config.map Config.founding := by
  cases event with
  | create caller setup => cases hcreate
  | reply id =>
    obtain ⟨-, -, config, hc, -, rfl⟩ := registered_ok h
    rw [hc]
    rfl
  | upgrade =>
    obtain ⟨-, rfl⟩ := upgrade_ok h
    rfl
  | execute caller call =>
    cases call with
    | appoint admin authority =>
      obtain ⟨config, _, hc, -, -, -, -, rfl⟩ := appoint_ok h
      rw [hc]
      rfl
    | pause | unpause =>
      obtain ⟨-, config, hc, -, rfl⟩ := setPaused_ok h
      rw [hc]
      rfl
    | setTrustedRemote chain text =>
      obtain ⟨-, -, -, address, -, -, rfl⟩ := setTrustedRemote_ok h
      rfl
    | setCoinMap chain text assetType =>
      obtain ⟨-, -, -, address, tag, -, -, rfl⟩ := setCoinMap_ok h
      rfl
    | registerAsset assetType holding =>
      obtain ⟨-, -, tag, normal, -, -, rfl⟩ := registerAsset_ok h
      rfl
    | createStream terms =>
      obtain ⟨draft, coin, -, -, -, h⟩ := createStream_ok h
      obtain ⟨-, -, -, -, next, -, rfl⟩ := openStream_ok h
      rfl
    | receive hook =>
      obtain ⟨draft, _, -, -, -, h⟩ := receive_ok h
      obtain ⟨-, -, -, -, next, -, rfl⟩ := openStream_ok h
      rfl
    | withdraw id =>
      obtain ⟨_, _, _, _, -, -, -, -, -, -, rfl⟩ := withdraw_ok h
      rfl
    | deliver delivery =>
      obtain ⟨_, _, _, _, _, _, _, _, -, -, -, -, -, -, -, -, -, -, -, -, -, -, -, -, rfl⟩ := deliver_ok h
      rfl
    | requestRemoteWithdraw chain value =>
      obtain ⟨_, _, _, -, -, -, -, -, -, rfl⟩ := requestRemoteWithdraw_ok h
      rfl

/-- **Once a bridge is created, its owner, its endpoint and its chain stay.** -/
theorem Run.founding_eq (h : Run self s log t) (hs : s.config ≠ none) :
    t.config.map Config.founding = s.config.map Config.founding := by
  induction h with
  | start => rfl
  | @land log t _ _ _ hlands ih =>
    obtain @⟨now, event, response, u, honce, hland⟩ := hlands
    cases hcreate : event.isCreate with
    | false => rw [founding_of_landed hcreate hland, ih]
    | true =>
      rw [honce hcreate] at ih
      cases hconfig : s.config with
      | none => exact absurd hconfig hs
      | some config =>
        rw [hconfig] at ih
        cases ih
  | pass _ hrefuses ih =>
    cases hrefuses
    exact ih

theorem History.isBlank (h : History self log s) (hs : s.config = none) :
    s.IsBlank ∧ ∀ l ∈ log, l.event = .upgrade ∧ l.response.messages = [] := by
  induction h with
  | start => exact ⟨rfl, nofun⟩
  | @land log t _ _ _ hlands ih =>
    obtain @⟨now, event, response, u, honce, hland⟩ := hlands
    have hnone : t.config = none := by
      cases hcreate : event.isCreate with
      | true => exact honce hcreate
      | false =>
        have hmap := founding_of_landed hcreate hland
        rw [hs] at hmap
        exact Option.map_eq_none_iff.1 hmap.symm
    obtain ⟨hblank, hlog⟩ := ih hnone
    obtain ⟨hblank, hevent, hsilent⟩ := blank_of_landed hblank hs hland
    refine ⟨hblank, fun l hl => ?_⟩
    rcases List.mem_append.1 hl with hl | hl
    · exact hlog l hl
    · cases List.mem_singleton.1 hl
      exact ⟨hevent, hsilent⟩
  | pass _ hrefuses ih =>
    cases hrefuses
    exact ih hs

end Bridge

end VestingBridge
