import VestingBridge.Proofs.Bridge.Conservation
import VestingBridge.Proofs.Bridge.Opening
import VestingBridge.Proofs.Session.Run
/-!
# Proofs.Session.Streams — the streams of a bridge among other contracts

A bridge keeps its streams in order (`Bridge.Filed`), also where it has come to the last number: a caller who offers a
stream to it then brings the whole step to nothing.
-/
namespace VestingBridge.Session

variable {t u : Session} {B self : Account} {entry : Entry} {event : Bridge.Event} {b : Bridge.Store}
  {log : List Bridge.Landing}

theorem step_of_refused {f : Failure} (h : t.world.enter t.now self entry = .error f) :
    t.step self entry = (.error f, t) := by
  have hcall : t.world.call t.now self entry = .error f := by
    rw [World.call, World.nesting, World.callWithin, h]
    rfl
  rw [step, hcall]

theorem step_of_bridge_refused {e : Bridge.Error} (found : t.world.get? B = some (.bridge b))
    (read : entry.toBridge = .ok event) (refused : (event.run ⟨B, t.now⟩).commit b = .error e) :
    t.step B entry = (.error (.bridge e), t) :=
  step_of_refused (enter_of_bridge_refused found read refused)

/-- **The streams of a bridge stay in order, whatever happens to it.**  The numbers that are taken are those below the
next one, each stream is sound under its own number, and none is ever removed or replaced: later on it is the same
stream, with no less of it withdrawn.  The next number stays below the end of its range, for a bridge that has come to
the last one opens no further stream: a step that asks for one leaves every storage as it was, and stops short for want
of a number exactly if the bridge would take the stream otherwise. -/
theorem streams_intact (h : Bridge.History B log b) :
    (∀ id, (∃ stream, b.streams.get? id = some stream) ↔ id.val < b.nextStreamId.val) ∧
    b.nextStreamId.val ≤ 0xFFFFFFFFFFFFFFFF ∧
    (∀ id stream, b.streams.get? id = some stream → stream.IsSound id) ∧
    (∀ more b', Bridge.Run B b more b' → ∀ id stream, b.streams.get? id = some stream →
      ∃ later, b'.streams.get? id = some later ∧ later.Follows stream) ∧
    ∀ (t : Session) (full : Bridge.Store) (entry : Entry) (event : Bridge.Event),
      t.world.get? B = some (.bridge full) → full.nextStreamId.val = 0xFFFFFFFFFFFFFFFF →
      entry.toBridge = .ok event → event.opens = true →
        (∃ f, t.step B entry = (.error f, t)) ∧
        (t.step B entry = (.error (.bridge .streamIdsExhausted), t) ↔
          ∃ draft deposit, Bridge.Offered full event draft deposit ∧ draft.IsAcceptable deposit t.now) := by
  refine ⟨h.filed.numbered, Nat.le_of_lt_succ b.nextStreamId.isLt, fun id stream => h.isSound,
    fun more b' hrun id stream => h.follows hrun, fun t full entry event found hlast read hopens => ?_⟩
  have hfull : full.nextStreamId.val + 1 = 0x10000000000000000 := by rw [hlast]
  have hrefused : ∃ e, (event.run ⟨B, t.now⟩).commit full = .error e := Bridge.refused_of_full hopens hfull
  have hexhausted : (event.run ⟨B, t.now⟩).commit full = .error .streamIdsExhausted ↔
      ∃ draft deposit, Bridge.Offered full event draft deposit ∧ draft.IsAcceptable deposit t.now :=
    Bridge.exhausted_iff hopens hfull
  obtain ⟨e, hrefused⟩ := hrefused
  have hstep := step_of_bridge_refused found read hrefused
  refine ⟨⟨_, hstep⟩, ?_⟩
  rw [← hexhausted, hrefused, hstep]
  simp

/-- A bridge that has come to the last number. -/
def atLastNumber (b : Bridge.Store) : Bridge.Store := { b with nextStream := some StreamId.last }

def offer (assetType : String) : Bridge.ExecuteCall :=
  .createStream ⟨"bob", assetType, 100, 2000000000⟩

theorem streams_intact_reregistered :
    ∃ log b, Bridge.History "bridge" log b ∧ (∀ id, (∃ stream, b.streams.get? id = some stream) ↔ id.val < 1) ∧
      (start [("bridge", .bridge (atLastNumber b))]).step "bridge"
          (.execute ⟨"alice", [⟨"other", 1000⟩]⟩ (offer "owner::Coins::MFL").toJson) =
        (.error (.bridge .streamIdsExhausted), start [("bridge", .bridge (atLastNumber b))]) := by
  have hcheck : ((Bridge.play "bridge" .empty Bridge.reregistered).map fun p =>
      (p.2.nextStreamId.val, (TypeTag.parse "owner::Coins::MFL").toOption.bind fun tag => p.2.assets.get? tag.key)) =
      some (1, some (.native "other")) := by decide +kernel
  obtain ⟨⟨log, b⟩, hplay, hcheck⟩ := Option.map_eq_some_iff.1 hcheck
  obtain ⟨hnext, hasset⟩ := Prod.mk.inj hcheck
  obtain ⟨tag, htag, hasset⟩ := Option.bind_eq_some_iff.1 hasset
  have htyped : TypeTag.parse "owner::Coins::MFL" = .ok tag := by
    cases hparse : TypeTag.parse "owner::Coins::MFL" with
    | error e =>
      rw [hparse] at htag
      cases htag
    | ok other =>
      rw [hparse] at htag
      cases htag
      rfl
  have h : Bridge.History "bridge" log b := Bridge.run_iff_play.2 ⟨_, hplay⟩
  obtain ⟨hnumbered, -, -, -, hlast⟩ := streams_intact h
  refine ⟨log, b, h, fun id => ?_, ?_⟩
  · rw [hnumbered, hnext]
  · have hfound : (start [("bridge", .bridge (atLastNumber b))]).world.get? "bridge" =
        some (.bridge (atLastNumber b)) := (Table.get?_insert ..).trans (if_pos rfl)
    have hrecipient : Account.validate "bob" = .ok "bob" := rfl
    have hschedule : (100 : Seconds) < (2000000000 : Seconds) := by decide
    have hunfinished : epoch < (2000000000 : Seconds) := by decide
    refine (hlast _ (atLastNumber b) _ (.execute ⟨"alice", [⟨"other", 1000⟩]⟩ (offer "owner::Coins::MFL")) hfound rfl
      rfl rfl).2.2 ⟨⟨"alice", "bob", tag, .native "other", 100, 2000000000⟩, 1000, ?_, ?_⟩
    · exact .coin _ ⟨"other", 1000⟩ _ _ ⟨rfl, rfl, htyped, hasset, rfl, rfl⟩ hrecipient rfl rfl
    · exact ⟨by decide, hschedule, hunfinished⟩

end VestingBridge.Session
