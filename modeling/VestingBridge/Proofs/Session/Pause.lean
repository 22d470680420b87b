import VestingBridge.Proofs.Bridge.Pause
import VestingBridge.Proofs.Session.Blocking
import VestingBridge.Proofs.Session.Streams
/-!
# Proofs.Session.Pause — a paused bridge among other contracts

While a bridge is paused nothing of it gets to an endpoint and nothing from an endpoint gets to it (`Run.still`), so
that its paths stay where they are.  What the pause spares lands as if there were none, and a pause that is taken back
leaves no trace.
-/
namespace VestingBridge.Session

open Bridge (Event)

variable {s t u : Session} {E B self here : Account} {entry : Entry} {visits : List Visit} {log more : List Turn}
  {b b' : Bridge.Store} {e : Endpoint.Store} {config : Bridge.Config} {w w' : World} {now : Seconds} {v : Visit}

/-! ## What a paused bridge does not lead to -/

/-- A visit to a bridge is one of what landed there. -/
theorem Walk.atBridge?_of_mem (h : Walk now w visits w') : ∀ {b : Bridge.Store}, w.get? B = some (.bridge b) →
    v ∈ visits → v.contract = B → ∃ event, v.atBridge? B now = some ⟨now, event, v.response⟩ := by
  induction h with
  | done => exact fun _ hv => nomatch hv
  | @visit w w1 w' first rest honce hland _ ih =>
    intro b hb hv hB
    rcases List.mem_cons.1 hv with rfl | hv
    · subst hB
      obtain ⟨event, _, read, -, -⟩ := hland.of_bridge hb
      exact ⟨event, by rw [Visit.atBridge?, if_pos rfl, read]⟩
    · have hwalk : Walk now w [first] w1 := .visit honce hland .done
      obtain ⟨b₁, hb₁, -⟩ := hwalk.bridge hb
      exact ih hb₁ hv hB

theorem sender?_of_toEndpoint {event : Endpoint.Event} (read : entry.toEndpoint = .ok event) :
    event.sender? = entry.sender? := by
  cases entry with
  | create caller message | execute caller message =>
    obtain ⟨_, -, rfl⟩ := readable_map_eq_ok_iff.1 read
    rfl
  | reply id => cases read
  | upgrade message => cases read

theorem entry_of_atEndpoint? {l : Endpoint.Landing} (h : v.atEndpoint? E = some l) :
    v.entry.toEndpoint = .ok l.event := by
  unfold Visit.atEndpoint? at h
  split at h
  · split at h
    · rename_i event read
      cases h
      exact read
    · cases h
  · cases h

/-- **A bridge that sends no message calls no endpoint.** -/
theorem not_sender_of_step (hB : s.world.get? B = some (.bridge b)) (houtside : entry.IsOutside s.world)
    (honce : entry.IsOnce s.world self) (h : s.step self entry = (.ok visits, u))
    (hsilent : ∀ l ∈ visits.filterMap (·.atBridge? B u.now), l.response.messages = []) :
    ∀ l ∈ visits.filterMap (·.atEndpoint? E), l.event.sender? ≠ some B := by
  intro l hl hsender
  have hwalk := walk_of_step honce h
  obtain ⟨v, hv, hvisit⟩ := List.mem_filterMap.1 hl
  rw [sender?_of_toEndpoint (entry_of_atEndpoint? hvisit)] at hsender
  obtain ⟨r, rest, hvisits, hrest⟩ := answers_of_callWithin (step_ok h).1
  rw [hvisits] at hv
  rcases List.mem_cons.1 hv with rfl | hv
  · -- who enters from outside is no contract
    have hin : s.world.contains B = true := Table.contains_of_get? hB
    rw [Entry.IsOutside, hsender, Option.any_some, hin] at houtside
    cases houtside
  · obtain ⟨cause, hcause, hanswers⟩ := hrest v hv
    cases hanswers with
    | reply => cases hsender
    | call contract body funds replyId response asked =>
      have hcontract : cause.contract = B := Option.some.inj hsender
      obtain ⟨event, hlanding⟩ := hwalk.atBridge?_of_mem hB hcause hcontract
      have hnone := hsilent _ (List.mem_filterMap.2 ⟨cause, hcause, hlanding⟩)
      dsimp only at hnone
      rw [hnone] at asked
      cases asked

/-- **Nothing is delivered to a paused bridge.** -/
theorem arrivedAt_of_paused (hE : s.world.get? E = some (.endpoint e)) (hB : s.world.get? B = some (.bridge b))
    (hstopped : b.IsStopped config) (h : s.step self entry = (.ok visits, u)) : arrivedAt E B visits = [] := by
  refine List.eq_nil_iff_forall_not_mem.2 fun p hp => ?_
  obtain ⟨-, event, _, _, -, -, -, landed⟩ := taken_of_arrivedAt hE hB h hp
  cases hstopped.not_sending landed

/-- **Over a run in which a paused bridge does not go on, nothing of it gets to an endpoint and nothing from an endpoint
gets to it.** -/
theorem Run.still (h : Run t more u) {history : List Bridge.Landing} (hB : t.world.get? B = some (.bridge b))
    (hhistory : Bridge.History B history b) (hstopped : b.IsStopped config)
    (hnot : ∀ l ∈ bridgeLog B more, l.event.isResumption = false) (hE : t.world.get? E = some (.endpoint e)) :
    (∀ l ∈ endpointLog E more, l.event.sender? ≠ some B) ∧ Endpoint.arrived B (endpointLog E more) = [] := by
  induction h with
  | start => exact ⟨nofun, rfl⟩
  | @land more t₁ _ _ hrun hturns ih =>
    obtain @⟨now, self, entry, visits, u, houtside, honce, hstep⟩ := hturns
    rw [bridgeLog_append] at hnot
    obtain ⟨hsenders, harrived⟩ := ih fun l hl => hnot l (List.mem_append_left _ hl)
    obtain ⟨b₁, hB₁, hbridge⟩ := Run.bridge hrun hB
    obtain ⟨e₁, hE₁, -⟩ := Run.endpoint hrun hE
    obtain ⟨-, ⟨config₁, hstopped₁⟩, -⟩ :=
      hbridge.stopped hhistory hstopped fun l hl => hnot l (List.mem_append_left _ hl)
    obtain ⟨_, -, hturn⟩ := (walk_of_step (s := t₁.setClock now) honce hstep).bridge hB₁
    obtain ⟨hsilent, -⟩ := hturn.stopped (hhistory.trans hbridge) hstopped₁
      fun l hl => hnot l (List.mem_append_right _ hl)
    rw [endpointLog_append]
    constructor
    · intro l hl
      rcases List.mem_append.1 hl with hl | hl
      · exact hsenders l hl
      · exact not_sender_of_step (s := t₁.setClock now) hB₁ houtside honce hstep hsilent l hl
    · rw [Endpoint.arrived, List.filterMap_append]
      have hturn := arrivedAt_of_paused (s := t₁.setClock now) hE₁ hB₁ hstopped₁ hstep
      rw [arrivedAt, Endpoint.arrived] at hturn
      rw [Endpoint.arrived] at harrived
      rw [harrived, hturn]
      rfl
  | pass _ hfails ih =>
    obtain ⟨hstep⟩ := hfails
    cases step_error hstep
    exact ih hnot

/-! ## What goes on as before -/

/-- The contract with its pause set, if it has one. -/
def Contract.withPaused (paused : Bool) : Contract → Contract
  | bridge s => .bridge (s.withPaused paused)
  | endpoint s => .endpoint s

theorem overwrite_withPaused (hB : t.world.get? B = some (.bridge b)) (paused : Bool) :
    t.overwrite B (·.withPaused paused) = { t with world := t.world.insert B (.bridge (b.withPaused paused)) } := by
  rw [overwrite, hB]
  rfl

/-- An event that lands and sends no message is a step of its own. -/
theorem step_of_silent {event : Event} {r : Response} (hB : t.world.get? B = some (.bridge b))
    (read : entry.toBridge = .ok event) (landed : (event.run ⟨B, t.now⟩).commit b = .ok (r, b'))
    (hsilent : r.messages = []) :
    t.step B entry = (.ok [⟨B, entry, r⟩], { t with world := t.world.insert B (.bridge b') }) := by
  have hland : Landed t.world t.now B entry r (t.world.insert B (.bridge b')) := .bridge b b' event hB read landed rfl
  exact step_of_call (callWithin_of_silent hland hsilent)

theorem not_sending_of_spared {event : Event} (h : event.isSpared = true) : event.isSending = false := by
  unfold Event.isSpared at h
  split at h
  · rfl
  · rfl
  · rfl
  · rfl
  · rfl
  · cases h

/-- **What is spared is taken as if the bridge were not paused**, or as if it were. -/
theorem step_withPaused {event : Event} (hB : t.world.get? B = some (.bridge b)) (read : entry.toBridge = .ok event)
    (hspared : event.isSpared = true) (paused : Bool) :
    (t.overwrite B (·.withPaused paused)).step B entry =
      ((t.step B entry).1, (t.step B entry).2.overwrite B (·.withPaused paused)) := by
  rw [overwrite_withPaused hB]
  have hB' : (t.world.insert B (.bridge (b.withPaused paused))).get? B = some (.bridge (b.withPaused paused)) := by
    rw [Table.get?_insert, if_pos rfl]
  have hpaused : (event.run ⟨B, t.now⟩).commit (b.withPaused paused) =
      ((event.run ⟨B, t.now⟩).commit b).map fun answer => (answer.1, answer.2.withPaused paused) :=
    Bridge.commit_withPaused hspared b paused
  cases hland : (event.run ⟨B, t.now⟩).commit b with
  | error e =>
    rw [hland] at hpaused
    rw [step_of_bridge_refused (t := { t with world := t.world.insert B _ }) hB' read hpaused,
      step_of_bridge_refused hB read hland]
    exact Prod.ext rfl (overwrite_withPaused hB paused).symm
  | ok answer =>
    obtain ⟨r, b'⟩ := answer
    have hsilent := Bridge.silent_of_landed (not_sending_of_spared hspared) hland
    rw [hland] at hpaused
    rw [step_of_silent (t := { t with world := t.world.insert B _ }) hB' read hpaused hsilent,
      step_of_silent hB read hland hsilent]
    have hafter : (t.world.insert B (.bridge b')).get? B = some (.bridge b') := by rw [Table.get?_insert, if_pos rfl]
    rw [overwrite_withPaused (t := { t with world := t.world.insert B (.bridge b') }) hafter, Table.insert_insert,
      Table.insert_insert]

/-- **A pause that is taken back leaves no trace.** -/
theorem paused_and_resumed {stop go : Entry} {c₁ c₂ : Caller} (hB : t.world.get? B = some (.bridge b))
    (hconfig : b.config = some config) (hrunning : config.paused = false)
    (hstop : stop.toBridge = .ok (.execute c₁ .pause)) (hgo : go.toBridge = .ok (.execute c₂ .unpause))
    (hfirst : config.admin = some c₁.sender) (hsecond : config.admin = some c₂.sender) (n₁ n₂ : Option Seconds) :
    ∃ v₁ u₁ v₂ u₂, (t.setClock n₁).step B stop = (.ok v₁, u₁) ∧
      u₁ = (t.setClock n₁).overwrite B (·.withPaused true) ∧ (u₁.setClock n₂).step B go = (.ok v₂, u₂) ∧
      u₂.world = t.world := by
  obtain ⟨r₁, hland₁, hsilent₁⟩ := Bridge.setPaused_lands "pause" hconfig hfirst true
  have hpaused : (b.withPaused true).config = some { config with paused := true } := by
    rw [Bridge.Store.withPaused, hconfig]
    rfl
  obtain ⟨r₂, hland₂, hsilent₂⟩ : ∃ r, (Bridge.setPaused c₂ false "unpause").commit (b.withPaused true) =
      .ok (r, (b.withPaused true).withPaused false) ∧ r.messages = [] :=
    Bridge.setPaused_lands "unpause" hpaused hsecond false
  have hfound : (t.world.insert B (.bridge (b.withPaused true))).get? B = some (.bridge (b.withPaused true)) := by
    rw [Table.get?_insert, if_pos rfl]
  have hstep₁ := step_of_silent (t := t.setClock n₁) hB hstop hland₁ hsilent₁
  have hstep₂ := step_of_silent (t := setClock { t.setClock n₁ with world := t.world.insert B _ } n₂) hfound hgo hland₂
    hsilent₂
  refine ⟨_, _, _, _, hstep₁, (overwrite_withPaused (t := t.setClock n₁) hB true).symm, hstep₂, ?_⟩
  have hback : (b.withPaused true).withPaused false = b := by
    rw [Bridge.withPaused_withPaused, ← hrunning, Bridge.withPaused_self hconfig]
  rw [hback]
  exact (Table.insert_insert ..).trans (Table.insert_of_get? hB)

/-- **Pause is a complete stop on value and messages, and only that.**  As long as a paused bridge is not let go on, it
sends no message, no stream is drawn on, no packet is recorded, and no counter of a path from it or to it changes at any
endpoint.  The entries of the authority and new streams are taken or refused as if the bridge were not paused, and to
the same effect.  A pause that the administrator takes back, at whatever time, leaves every storage as it was. -/
theorem pause_stops {first : Session} (created : first.world.get? B = some (.bridge .empty)) (reached : Run first log t)
    (hB : t.world.get? B = some (.bridge b)) (hconfig : b.config = some config) :
    (config.paused = true → ∀ more u, Run t more u → (∀ l ∈ bridgeLog B more, l.event.isResumption = false) →
      ∃ b', u.world.get? B = some (.bridge b') ∧ (∃ config', b'.config = some config' ∧ config'.paused = true) ∧
        (∀ l ∈ bridgeLog B more, l.response.messages = []) ∧ b'.Unspent b ∧ b'.processed = b.processed ∧
        ∀ E e, t.world.get? E = some (.endpoint e) → ∃ e', u.world.get? E = some (.endpoint e') ∧
          (∀ chain src, e'.inbound.get? (chain, src, B) = e.inbound.get? (chain, src, B)) ∧
          ∀ chain dst, e'.outbound.get? (chain, B, dst) = e.outbound.get? (chain, B, dst)) ∧
    (∀ now entry event paused, entry.toBridge = .ok event → event.isSpared = true →
      ((t.setClock now).overwrite B (·.withPaused paused)).step B entry =
        (((t.setClock now).step B entry).1, ((t.setClock now).step B entry).2.overwrite B (·.withPaused paused))) ∧
    (config.paused = false → ∀ stop go c₁ c₂ n₁ n₂, stop.toBridge = .ok (.execute c₁ .pause) →
      go.toBridge = .ok (.execute c₂ .unpause) → config.admin = some c₁.sender → config.admin = some c₂.sender →
      ∃ v₁ u₁ v₂ u₂, (t.setClock n₁).step B stop = (.ok v₁, u₁) ∧
        u₁ = (t.setClock n₁).overwrite B (·.withPaused true) ∧ (u₁.setClock n₂).step B go = (.ok v₂, u₂) ∧
        u₂.world = t.world) := by
  obtain ⟨_, hsame, hhistory⟩ := reached.bridge created
  cases hB.symm.trans hsame
  refine ⟨fun hpaused more u hrun hnot => ?_, fun now entry event paused read hspared => ?_,
    fun hrunning stop go c₁ c₂ n₁ n₂ hstop hgo hfirst hsecond => ?_⟩
  · have hstopped : b.IsStopped config :=
      ⟨hconfig, hpaused, (Bridge.History.progress hhistory hconfig).staged.paused hpaused⟩
    obtain ⟨b', hB', hbridge⟩ := Run.bridge hrun hB
    obtain ⟨hsilent, ⟨config', hstopped'⟩, hunspent, hprocessed⟩ := hbridge.stopped hhistory hstopped hnot
    refine ⟨b', hB', ⟨config', hstopped'.configured, hstopped'.paused⟩, hsilent, hunspent, hprocessed,
      fun E e hE => ?_⟩
    obtain ⟨e', hE', hendpoint⟩ := Run.endpoint hrun hE
    obtain ⟨hsenders, harrived⟩ := hrun.still hB hhistory hstopped hnot hE
    refine ⟨e', hE', fun chain src => hendpoint.inbound_eq ?_,
      fun chain dst => hendpoint.outbound_eq hsenders chain dst⟩
    rw [harrived]
    exact nofun
  · exact step_withPaused (t := t.setClock now) hB read hspared paused
  · exact paused_and_resumed hB hconfig hrunning hstop hgo hfirst hsecond n₁ n₂

/-- What is tried while the bridge is paused: two ways to draw on a stream, then a new stream and an entry. -/
def whilePaused : List Occasion := [
  ⟨some 150, "endpoint", relay ⟨"relayer", []⟩ "bridge" (request 1)⟩,
  bridgeCall "bridge" "bob" [] (.withdraw StreamId.zero),
  bridgeCall "bridge" "alice" [⟨"umfl", 500⟩] (.createStream ⟨"bob", "owner::Coins::MFL", 100, 900⟩),
  bridgeCall "bridge" "authority" [] (.setTrustedRemote 7 "abc")]

theorem pause_stops_tried :
    (∃ log t more u b b', Run fresh log t ∧ Run t more u ∧ t.world.get? "bridge" = some (.bridge b) ∧
      u.world.get? "bridge" = some (.bridge b') ∧ b'.nextStreamId.val = 2 ∧ b'.Unspent b) ∧
    ∃ log t v₁ u₁ v₂ u₂, Run fresh log t ∧
      (t.setClock (some 150)).step "bridge" (.execute ⟨"admin", []⟩ Bridge.ExecuteCall.pause.toJson) = (.ok v₁, u₁) ∧
      (u₁.setClock (some 300)).step "bridge" (.execute ⟨"admin", []⟩ Bridge.ExecuteCall.unpause.toJson) =
        (.ok v₂, u₂) ∧ u₂.world = t.world := by
  constructor
  · have hcheck : ((play fresh (relayed.take 7 ++ [bridgeCall "bridge" "admin" [] .pause])).bind fun p =>
        (bridgeAt? "bridge" p.2).bind fun b => b.config.bind fun c => (play p.2 whilePaused).bind fun q =>
          (bridgeAt? "bridge" q.2).map fun b' =>
            (c.paused, (bridgeLog "bridge" q.1).all (!·.event.isResumption), b'.nextStreamId.val)) =
        some (true, true, 2) := by
      decide +kernel
    obtain ⟨⟨log, t⟩, hplay, hcheck⟩ := Option.bind_eq_some_iff.1 hcheck
    obtain ⟨b, hb, hcheck⟩ := Option.bind_eq_some_iff.1 hcheck
    obtain ⟨config, hconfig, hcheck⟩ := Option.bind_eq_some_iff.1 hcheck
    obtain ⟨⟨more, u⟩, hmore, hcheck⟩ := Option.bind_eq_some_iff.1 hcheck
    obtain ⟨b'', hb'', hcheck⟩ := Option.map_eq_some_iff.1 hcheck
    simp only [Prod.mk.injEq, List.all_eq_true, Bool.not_eq_true'] at hcheck
    obtain ⟨hpaused, hnot, hnext⟩ := hcheck
    have h : Run fresh log t := run_of_play hplay
    have hrun : Run t more u := run_of_play hmore
    obtain ⟨b', hb', -, -, hunspent, -⟩ :=
      (pause_stops rfl h (get?_of_bridgeAt? hb) hconfig).1 hpaused more u hrun hnot
    cases (get?_of_bridgeAt? hb'').symm.trans hb'
    exact ⟨log, t, more, u, b, b'', h, hrun, get?_of_bridgeAt? hb, hb', hnext, hunspent⟩
  · have hcheck : ((play fresh (relayed.take 7)).bind fun p => (bridgeAt? "bridge" p.2).bind fun b =>
        b.config.map fun c => (c.paused, c.admin)) = some (false, some "admin") := by
      decide +kernel
    obtain ⟨⟨log, t⟩, hplay, hcheck⟩ := Option.bind_eq_some_iff.1 hcheck
    obtain ⟨b, hb, hcheck⟩ := Option.bind_eq_some_iff.1 hcheck
    obtain ⟨config, hconfig, hcheck⟩ := Option.map_eq_some_iff.1 hcheck
    obtain ⟨hrunning, hadmin⟩ := Prod.mk.inj hcheck
    have h : Run fresh log t := run_of_play hplay
    obtain ⟨v₁, u₁, v₂, u₂, hstop, -, hgo, hsame⟩ := (pause_stops rfl h (get?_of_bridgeAt? hb) hconfig).2.2 hrunning
      (.execute ⟨"admin", []⟩ Bridge.ExecuteCall.pause.toJson)
      (.execute ⟨"admin", []⟩ Bridge.ExecuteCall.unpause.toJson) ⟨"admin", []⟩ ⟨"admin", []⟩ (some 150)
      (some 300) rfl rfl hadmin hadmin
    exact ⟨log, t, v₁, u₁, v₂, u₂, h, hstop, hgo, hsame⟩

end VestingBridge.Session
