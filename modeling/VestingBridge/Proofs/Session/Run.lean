import VestingBridge.Proofs.Session.Visits
/-!
# Proofs.Session.Run — a world of contracts over time

A run of a session is any sequence of steps from outside, at any times.  Outside is where no contract is: no step is
taken in the name of a contract, and none writes to a storage directly.  A step that lands is a turn of the log; one
that fails leaves only its time behind.
-/
namespace VestingBridge.Session

def Entry.sender? : Entry → Option Account
  | execute caller _ => some caller.sender
  | create .. | reply _ | upgrade _ => none

/-- The entry is not made in the name of a contract. -/
def Entry.IsOutside (entry : Entry) (w : World) : Prop := entry.sender?.any w.contains = false

instance {entry : Entry} {w : World} : Decidable (entry.IsOutside w) := inferInstanceAs (Decidable (_ = _))

/-- A step that landed: when, and which contracts were entered. -/
structure Turn where
  now : Seconds
  visits : List Visit

/-- **A step from outside is a turn**: it lands, with all that follows from it. -/
inductive Turns (s : Session) : Turn → Session → Prop
  | intro {now self} {entry : Entry} {visits t} (outside : entry.IsOutside s.world) (once : entry.IsOnce s.world self)
      (landed : (s.setClock now).step self entry = (.ok visits, t)) : Turns s ⟨t.now, visits⟩ t

/-- A step fails, which leaves only its time behind. -/
inductive Fails (s : Session) : Session → Prop
  | intro {now self entry f t} (failed : (s.setClock now).step self entry = (.error f, t)) : Fails s t

/-- **The runs of a session**, with the steps that landed in order. -/
abbrev Run : Session → List Turn → Session → Prop := Runs Turns Fails

variable {s t u : Session} {self here : Account} {entry : Entry} {visits : List Visit} {log : List Turn}

theorem step_ok (h : s.step self entry = (.ok visits, u)) :
    s.world.call s.now self entry = .ok (u.world, visits) ∧ u.now = s.now := by
  unfold step at h
  split at h
  · rename_i world visits' hcall
    cases h
    exact ⟨hcall, rfl⟩
  · cases h

theorem step_of_call {w : World} (h : s.world.call s.now self entry = .ok (w, visits)) :
    s.step self entry = (.ok visits, { s with world := w }) := by
  rw [step, h]

theorem step_refused {f : Failure} (h : s.step self entry = (.error f, u)) :
    s.world.call s.now self entry = .error f ∧ u = s := by
  unfold step at h
  split at h
  · cases h
  · rename_i hcall
    cases h
    exact ⟨hcall, rfl⟩

/-- A step that fails leaves the session as it was. -/
theorem step_error {f : Failure} (h : s.step self entry = (.error f, u)) : u = s := (step_refused h).2

theorem walk_of_step (honce : entry.IsOnce s.world self) (h : s.step self entry = (.ok visits, u)) :
    Walk u.now s.world visits u.world := by
  obtain ⟨hcall, hnow⟩ := step_ok h
  rw [hnow]
  exact walk_of_callWithin honce hcall

/-! ## A run seen from one address -/

/-- What landed at the bridge at an address. -/
def bridgeLog (here : Account) (log : List Turn) : List Bridge.Landing :=
  log.flatMap fun turn => turn.visits.filterMap (·.atBridge? here turn.now)

def endpointLog (here : Account) (log : List Turn) : List Endpoint.Landing :=
  log.flatMap fun turn => turn.visits.filterMap (·.atEndpoint? here)

theorem bridgeLog_append (log : List Turn) (turn : Turn) :
    bridgeLog here (log ++ [turn]) = bridgeLog here log ++ turn.visits.filterMap (·.atBridge? here turn.now) := by
  rw [bridgeLog, List.flatMap_append, List.flatMap_singleton, bridgeLog]

theorem endpointLog_append (log : List Turn) (turn : Turn) :
    endpointLog here (log ++ [turn]) = endpointLog here log ++ turn.visits.filterMap (·.atEndpoint? here) := by
  rw [endpointLog, List.flatMap_append, List.flatMap_singleton, endpointLog]

/-- **A run is a run of each bridge in it.** -/
theorem Run.bridge (h : Run s log t) {b : Bridge.Store} (hb : s.world.get? here = some (.bridge b)) :
    ∃ b', t.world.get? here = some (.bridge b') ∧ Bridge.Run here b (bridgeLog here log) b' := by
  induction h with
  | start => exact ⟨b, hb, .start⟩
  | @land log t _ _ _ hturns ih =>
    obtain @⟨now, self, entry, visits, u, _, honce, hstep⟩ := hturns
    obtain ⟨b₁, hb₁, hrun⟩ := ih
    obtain ⟨b₂, hb₂, hmore⟩ := (walk_of_step (s := t.setClock now) honce hstep).bridge hb₁
    refine ⟨b₂, hb₂, ?_⟩
    rw [bridgeLog_append]
    exact hrun.trans hmore
  | pass _ hfails ih =>
    obtain ⟨hstep⟩ := hfails
    cases step_error hstep
    exact ih

theorem Run.endpoint (h : Run s log t) {e : Endpoint.Store} (he : s.world.get? here = some (.endpoint e)) :
    ∃ e', t.world.get? here = some (.endpoint e') ∧ Endpoint.Run e (endpointLog here log) e' := by
  induction h with
  | start => exact ⟨e, he, .start⟩
  | @land log t _ _ _ hturns ih =>
    obtain @⟨now, self, entry, visits, u, _, honce, hstep⟩ := hturns
    obtain ⟨e₁, he₁, hrun⟩ := ih
    obtain ⟨e₂, he₂, hmore⟩ := (walk_of_step (s := t.setClock now) honce hstep).endpoint he₁
    refine ⟨e₂, he₂, ?_⟩
    rw [endpointLog_append]
    exact hrun.trans hmore
  | pass _ hfails ih =>
    obtain ⟨hstep⟩ := hfails
    cases step_error hstep
    exact ih

/-! ## Driving a session -/

/-- A step that is tried: at what time, if the clock is set, where, and how. -/
structure Occasion where
  now : Option Seconds
  self : Account
  entry : Entry

/-- What comes of an occasion.  What is not from outside has no outcome, nor has a second creation. -/
def outcome (s : Session) : Occasion → Option (Option Turn × Session)
  | ⟨now, self, entry⟩ =>
    if entry.IsOutside s.world ∧ entry.IsOnce s.world self then
      match (s.setClock now).step self entry with
      | (.ok visits, t) => some (some ⟨t.now, visits⟩, t)
      | (.error _, t) => some (none, t)
    else none

/-- **A session driven through occasions**: its turns, and the session at the end. -/
def play (s : Session) (occasions : List Occasion) : Option (List Turn × Session) := drive outcome s occasions

theorem turns_of_outcome {occasion : Occasion} {turn : Turn} (h : outcome s occasion = some (some turn, t)) :
    Turns s turn t := by
  obtain ⟨now, self, entry⟩ := occasion
  rw [outcome] at h
  split at h
  · rename_i hmay
    split at h
    · rename_i visits u hstep
      cases h
      exact ⟨hmay.1, hmay.2, hstep⟩
    · cases h
  · cases h

theorem fails_of_outcome {occasion : Occasion} (h : outcome s occasion = some (none, t)) : Fails s t := by
  obtain ⟨now, self, entry⟩ := occasion
  rw [outcome] at h
  split at h
  · split at h
    · cases h
    · rename_i hstep
      cases h
      exact ⟨hstep⟩
  · cases h

theorem run_of_play {occasions : List Occasion} (h : play s occasions = some (log, t)) : Run s log t :=
  runs_of_drive h turns_of_outcome fails_of_outcome

/-- The storage of the bridge at an address. -/
def bridgeAt? (here : Account) (t : Session) : Option Bridge.Store :=
  match t.world.get? here with
  | some (.bridge b) => some b
  | some (.endpoint _) | none => none

theorem get?_of_bridgeAt? {b : Bridge.Store} (h : bridgeAt? here t = some b) :
    t.world.get? here = some (.bridge b) := by
  unfold bridgeAt? at h
  split at h
  · cases h
    assumption
  · cases h
  · cases h

def endpointAt? (here : Account) (t : Session) : Option Endpoint.Store :=
  match t.world.get? here with
  | some (.endpoint e) => some e
  | some (.bridge _) | none => none

theorem get?_of_endpointAt? {e : Endpoint.Store} (h : endpointAt? here t = some e) :
    t.world.get? here = some (.endpoint e) := by
  unfold endpointAt? at h
  split at h
  · cases h
    assumption
  · cases h
  · cases h

/-- A bridge is called, at the time that it is. -/
def bridgeCall (here sender : Account) (funds : List Coin) (call : Bridge.ExecuteCall) : Occasion :=
  ⟨none, here, .execute ⟨sender, funds⟩ call.toJson⟩

end VestingBridge.Session
