import VestingBridge.Proofs.Bridge.Service
import VestingBridge.Proofs.Session.Delivery
/-!
# Proofs.Session.Registration — a bridge and its entry at the endpoint

A bridge asks its endpoint to register it when its officers are appointed, and becomes active on word that this
succeeded.  Both happen within one step or neither does.  So after every step a bridge is active exactly if its endpoint
has an entry for it (`Enrolled`), as long as no one outside speaks for a contract or brings word of a success.
-/
namespace VestingBridge.Session

variable {E B : Account} {w w' : World} {now : Seconds} {self : Account} {entry : Entry} {r : Response}
  {visits : List Visit} {s t u : Session} {log : List Turn} {b b' : Bridge.Store} {e e' : Endpoint.Store}

/-- **A bridge is in step with its entry at the endpoint**: it has none and is not active, or it is active and has the
entry that it asked for. -/
inductive Enrolled (B : Account) (b : Bridge.Store) (e : Endpoint.Store) : Prop
  | before (stage : ∀ config, b.config = some config → config.lifecycle = .uninitialized)
      (absent : e.applications.get? B = none)
  | after (config : Bridge.Config) (typeInfo : TypeTag) (configured : b.config = some config)
      (stage : config.lifecycle = .active) (named : TypeTag.ofParts B "stream" "StreamBridge" = .ok typeInfo)
      (entered : e.applications.get? B = some typeInfo)

theorem Enrolled.of_same (h : Enrolled B b e) (hstage : b'.config.map (·.lifecycle) = b.config.map (·.lifecycle))
    (hentry : e'.applications.get? B = e.applications.get? B) : Enrolled B b' e' := by
  cases h with
  | before stage absent =>
    refine .before (fun config hconfig => ?_) (hentry.trans absent)
    rw [hconfig] at hstage
    obtain ⟨before, hbefore, hsame⟩ := Option.map_eq_some_iff.1 hstage.symm
    exact hsame.symm.trans (stage before hbefore)
  | after config typeInfo configured stage named entered =>
    rw [configured] at hstage
    obtain ⟨config', hconfig', hsame⟩ := Option.map_eq_some_iff.1 hstage
    exact .after config' typeInfo hconfig' (hsame.trans stage) named (hentry.trans entered)

/-- **A bridge and its endpoint in one world, in step.** -/
structure InStep (E B : Account) (w : World) : Prop where
  paired : Paired E B w
  enrolled : ∀ b e, w.get? B = some (.bridge b) → w.get? E = some (.endpoint e) → Enrolled B b e

/-- An entry that is not word to the bridge of a success, nor a registration in its name. -/
structure Entry.IsProper (E B target : Account) (entry : Entry) : Prop where
  notCreate : entry.isCreate = false
  notReply : target = B → ∀ id, entry ≠ .reply id
  notRegister : target = E → ∀ caller typeInfo, entry.toEndpoint = .ok (.execute caller (.register typeInfo)) →
    caller.sender ≠ B

def Entry.isAppointment (entry : Entry) : Bool :=
  match entry.toBridge with
  | .ok event => event.isAppointment
  | .error _ => false

theorem Entry.isReply_of_toBridge {event : Bridge.Event} (h : entry.toBridge = .ok event)
    (hnot : ∀ id, entry ≠ .reply id) : event.isReply = false := by
  cases entry with
  | create caller message | execute caller message =>
    obtain ⟨_, -, rfl⟩ := readable_map_eq_ok_iff.1 h
    rfl
  | reply id => exact absurd rfl (hnot id)
  | upgrade message =>
    rw [toBridge] at h
    split at h
    · cases h
      rfl
    · cases h

theorem InStep.ne (h : InStep E B w) : E ≠ B := by
  obtain ⟨e, he⟩ := h.paired.endpoint
  obtain ⟨b, hb, -⟩ := h.paired.bridge
  rintro rfl
  cases he.symm.trans hb

/-- What an entry does to bridge and endpoint, according to which of the two it is for. -/
theorem Landed.inStep_of (h : Landed w now self entry r w') (hstep : InStep E B w) (hpaired : Paired E B w')
    (hbridge : ∀ b b' e event, self = B → w.get? B = some (.bridge b) → entry.toBridge = .ok event →
      (event.run ⟨B, now⟩).commit b = .ok (r, b') → Enrolled B b e → Enrolled B b' e)
    (hendpoint : ∀ b e e' event, self = E → entry.toEndpoint = .ok event → event.run.commit e = .ok (r, e') →
      Enrolled B b e → Enrolled B b e') : InStep E B w' := by
  refine ⟨hpaired, fun b' e' hb' he' => ?_⟩
  obtain ⟨b, hb, -⟩ := hstep.paired.bridge
  obtain ⟨e, he⟩ := hstep.paired.endpoint
  have henrolled := hstep.enrolled b e hb he
  by_cases hB : B = self
  · subst hB
    rw [h.get?_of_ne hstep.ne, he] at he'
    cases he'
    obtain ⟨event, t, read, landed, after⟩ := h.of_bridge hb
    rw [after, Table.get?_insert, if_pos rfl] at hb'
    cases hb'
    exact hbridge _ _ _ event rfl hb read landed henrolled
  · rw [h.get?_of_ne hB, hb] at hb'
    cases hb'
    by_cases hE : E = self
    · subst hE
      obtain ⟨event, t, read, landed, after⟩ := h.of_endpoint he
      rw [after, Table.get?_insert, if_pos rfl] at he'
      cases he'
      exact hendpoint _ _ _ event rfl read landed henrolled
    · rw [h.get?_of_ne hE, he] at he'
      cases he'
      exact henrolled

/-- **Entering a contract properly, but for an appointment, keeps bridge and endpoint in step.** -/
theorem Landed.inStep (h : Landed w now self entry r w') (hstep : InStep E B w) (hproper : entry.IsProper E B self)
    (happointment : self = B → entry.isAppointment = false) : InStep E B w' := by
  refine h.inStep_of hstep (h.paired hproper.notCreate hstep.paired) ?_ ?_
  · intro b b' e event hself _ read landed henrolled
    have hcreate := (Entry.isCreate_of_toBridge read).trans hproper.notCreate
    have hreply := Entry.isReply_of_toBridge read (hproper.notReply hself)
    have hnot := happointment hself
    rw [Entry.isAppointment, read] at hnot
    exact henrolled.of_same (Bridge.lifecycle_of_landed hcreate hnot hreply landed) rfl
  · intro b e e' event hself read landed henrolled
    refine henrolled.of_same rfl (Endpoint.application_of_landed (fun caller typeInfo heq => ?_) landed)
    subst heq
    exact hproper.notRegister hself caller typeInfo read

theorem Landed.inStep_of_create (h : Landed w now self entry r w') (hstep : InStep E B w)
    (hcreate : entry.isCreate = true) (honce : entry.IsOnce w self) (hpaired : Paired E B w') : InStep E B w' := by
  refine h.inStep_of hstep hpaired ?_ ?_
  · intro b b' e event hself hb read landed henrolled
    have hevent := (Entry.isCreate_of_toBridge read).trans hcreate
    have hnone := honce hcreate
    rw [hself, hb] at hnone
    cases henrolled with
    | after config _ configured =>
      rw [Option.any_some, Contract.isCreated, configured] at hnone
      cases hnone
    | before _ absent =>
      cases event with
      | create caller setup =>
        obtain ⟨-, -, rfl⟩ := Bridge.create_ok landed
        refine .before (fun config hconfig => ?_) absent
        cases hconfig
        rfl
      | execute | reply | upgrade => cases hevent
  · intro b e e' event _ read landed henrolled
    refine henrolled.of_same rfl (Endpoint.application_of_landed (fun caller typeInfo heq => ?_) landed)
    rw [← Entry.isCreate_of_toEndpoint read, heq] at hcreate
    cases hcreate

/-! ## What follows from an entry -/

/-- What a contract asks for is a proper entry, unless it is the bridge and asks to be registered. -/
theorem isProper_of_message {contract : Account} {body : Call} {funds : List Coin}
    (hplain : self = B → ∀ typeInfo, body ≠ .endpoint (.register typeInfo)) :
    (Entry.execute ⟨self, funds⟩ body.toJson).IsProper E B contract := by
  refine ⟨rfl, fun _ _ => nofun, fun _ caller typeInfo hread => ?_⟩
  obtain ⟨call, hcall, hevent⟩ := readable_map_eq_ok_iff.1 hread
  cases hevent
  rintro rfl
  cases body with
  | transfer recipient amount =>
    rw [(endpoint_reads_no (.encoded []) recipient amount).2] at hcall
    cases hcall
  | receiver c =>
    obtain ⟨delivery⟩ := c
    rw [(endpoint_reads_no delivery "" Amount.zero).1] at hcall
    cases hcall
  | endpoint c =>
    rw [endpoint_reads] at hcall
    cases c with
    | register typeInfo' => exact hplain rfl typeInfo' rfl
    | send dstChain dst payload => cases hcall

theorem isProper_of_reply {id : ReplyId} (hne : self ≠ B) : (Entry.reply id).IsProper E B self := by
  refine ⟨rfl, fun hself => absurd hself hne, ?_⟩
  intro _ _ _ hread
  cases hread

section
variable {depth : Nat}
  (hcall : ∀ {w w' self entry visits}, InStep E B w → entry.IsProper E B self →
    World.callWithin now depth w self entry = .ok (w', visits) → InStep E B w')
include hcall

theorem inStep_of_forward (hstep : InStep E B w) {m : Outgoing} (hplain : self = B → Bridge.IsPlain m)
    (h : World.forward (World.callWithin now depth) self w m = .ok (w', visits)) : InStep E B w' := by
  unfold World.forward at h
  split at h
  · cases h
    exact hstep
  · rename_i contract body funds hmessage
    have hproper : (Entry.execute ⟨self, funds⟩ body.toJson).IsProper E B contract := by
      refine isProper_of_message fun hself typeInfo hbody => ?_
      rw [hbody] at hmessage
      exact (hplain hself).2 contract typeInfo funds hmessage
    split at h
    · obtain ⟨⟨w1, first⟩, hfirst, h⟩ := bind_eq_ok_iff.1 h
      have hstep1 := hcall hstep hproper hfirst
      dsimp only at h
      split at h
      · cases h
        exact hstep1
      · rename_i id hid
        obtain ⟨⟨w2, second⟩, hsecond, h⟩ := bind_eq_ok_iff.1 h
        cases h
        refine hcall hstep1 (isProper_of_reply fun hself => ?_) hsecond
        cases hid.symm.trans (hplain hself).1
    · cases h
      exact hstep

theorem inStep_of_forwardAll {messages : List Outgoing} (hplain : self = B → ∀ m ∈ messages, Bridge.IsPlain m) :
    ∀ {w visits}, InStep E B w → World.forwardAll (World.callWithin now depth) self w messages = .ok (w', visits) →
      InStep E B w' := by
  induction messages with
  | nil =>
    intro w visits hstep h
    cases h
    exact hstep
  | cons m ms ih =>
    intro w visits hstep h
    obtain ⟨⟨w1, first⟩, hfirst, h⟩ := bind_eq_ok_iff.1 h
    obtain ⟨⟨w2, rest⟩, hrest, h⟩ := bind_eq_ok_iff.1 h
    cases h
    have hstep1 := inStep_of_forward hcall hstep (fun hself => hplain hself m (List.mem_cons_self ..)) hfirst
    exact ih (fun hself m' hm' => hplain hself m' (List.mem_cons_of_mem _ hm')) hstep1 hrest

end

/-! ## The appointment -/

/-- The entry by which a bridge asks its endpoint to register it. -/
def registration (B : Account) (typeInfo : TypeTag) : Entry :=
  .execute ⟨B, []⟩ (Call.endpoint (.register typeInfo)).toJson

theorem toEndpoint_registration (B : Account) (typeInfo : TypeTag) :
    (registration B typeInfo).toEndpoint = .ok (.execute ⟨B, []⟩ (.register typeInfo)) := by
  rw [registration, Entry.toEndpoint, endpoint_reads]
  rfl

theorem callWithin_registration (now : Seconds) (depth : Nat) (typeInfo : TypeTag) (he : w.get? E = some (.endpoint e))
    (habsent : e.applications.get? B = none) :
    ∃ visits, World.callWithin now (depth + 1) w E (registration B typeInfo) =
      .ok (w.insert E (.endpoint { e with applications := e.applications.insert B typeInfo }), visits) := by
  have hnew : (!e.applications.contains B) = true := by rw [Table.contains, habsent]; rfl
  obtain ⟨r, hland, hsilent⟩ : ∃ r, (Endpoint.Event.run (.execute ⟨B, []⟩ (.register typeInfo))).commit e =
      .ok (r, { e with applications := e.applications.insert B typeInfo }) ∧ r.messages = [] :=
    ⟨_, Handler.commit_get_bind.2 (Handler.commit_require_bind.2 ⟨hnew, Handler.commit_modify_bind.2 rfl⟩), rfl⟩
  exact ⟨_, callWithin_of_silent (.endpoint e _ _ he (toEndpoint_registration B typeInfo) hland rfl) hsilent⟩

theorem callWithin_reply (now : Seconds) (depth : Nat) {config : Bridge.Config} (hb : w.get? B = some (.bridge b))
    (hconfig : b.config = some config) (hstage : config.lifecycle = .initialized) :
    ∃ visits, World.callWithin now (depth + 1) w B (.reply Bridge.registrationReply) =
      .ok (w.insert B (.bridge { b with config := some { config with lifecycle := .active } }), visits) := by
  obtain ⟨r, hland, hsilent⟩ : ∃ r, ((Bridge.Event.reply Bridge.registrationReply).run ⟨B, now⟩).commit b =
      .ok (r, { b with config := some { config with lifecycle := .active } }) ∧ r.messages = [] :=
    ⟨_, Handler.commit_require_bind.2 ⟨rfl, Handler.commit_look_bind.2 ⟨config,
      Bridge.loadConfig_eq_ok_iff.2 hconfig, Handler.commit_require_bind.2 ⟨hstage,
        Handler.commit_modify_bind.2 rfl⟩⟩⟩, rfl⟩
  exact ⟨_, callWithin_of_silent (.bridge b _ _ hb rfl hland rfl) hsilent⟩

/-- A bridge that appoints its officers has no entry yet, and asks for one. -/
theorem appointment_ok {event : Bridge.Event} (hstep : InStep E B w) (found : w.get? B = some (.bridge b))
    (landed : (event.run ⟨B, now⟩).commit b = .ok (r, b')) (happointment : event.isAppointment = true) :
    ∃ e config typeInfo, w.get? E = some (.endpoint e) ∧ e.applications.get? B = none ∧
      b'.config = some config ∧ config.lifecycle = .initialized ∧ config.endpoint = E ∧
      TypeTag.ofParts B "stream" "StreamBridge" = .ok typeInfo ∧
      r.messages = [⟨.call E (.endpoint (.register typeInfo)) [], some Bridge.registrationReply⟩] := by
  unfold Bridge.Event.isAppointment at happointment
  split at happointment
  · rename_i caller admin authority
    obtain ⟨config, typeInfo, hconfig, -, hstage, hnamed, hmessages, rfl⟩ := Bridge.appoint_ok landed
    obtain ⟨e, he⟩ := hstep.paired.endpoint
    obtain ⟨b₀, hb₀, htrust⟩ := hstep.paired.bridge
    cases found.symm.trans hb₀
    have hendpoint := htrust config hconfig
    have habsent : e.applications.get? B = none := by
      cases hstep.enrolled b e found he with
      | before _ absent => exact absent
      | after config' _ configured stage =>
        cases hconfig.symm.trans configured
        cases hstage.symm.trans stage
    rw [hendpoint] at hmessages
    exact ⟨e, _, typeInfo, he, habsent, rfl, rfl, hendpoint, hnamed, hmessages⟩
  · cases happointment

/-- **An appointment that the bridge itself accepts lands**, and the bridge is active in the end and has its entry. -/
theorem forwardAll_appointment (depth : Nat) {event : Bridge.Event} (hstep : InStep E B w)
    (found : w.get? B = some (.bridge b)) (landed : (event.run ⟨B, now⟩).commit b = .ok (r, b'))
    (happointment : event.isAppointment = true) :
    ∃ w' visits, World.forwardAll (World.callWithin now (depth + 1)) B (w.insert B (.bridge b')) r.messages =
      .ok (w', visits) ∧ InStep E B w' := by
  obtain ⟨e, config, typeInfo, he, habsent, hconfig, hstage, hendpoint, hnamed, hmessages⟩ :=
    appointment_ok hstep found landed happointment
  rw [hmessages]
  have hne := hstep.ne
  -- the world after the bridge has asked, after it has its entry, and after it has word of this
  let e' : Endpoint.Store := { e with applications := e.applications.insert B typeInfo }
  let b'' : Bridge.Store := { b' with config := some { config with lifecycle := .active } }
  let w1 := w.insert B (.bridge b')
  let w2 := w1.insert E (.endpoint e')
  let w3 := w2.insert B (.bridge b'')
  have he1 : w1.get? E = some (.endpoint e) := by rw [Table.get?_insert, if_neg hne, he]
  have hin := Table.contains_of_get? he1
  have hb2 : w2.get? B = some (.bridge b') := by
    rw [Table.get?_insert, if_neg hne.symm, Table.get?_insert, if_pos rfl]
  have he3 : w3.get? E = some (.endpoint e') := by
    rw [Table.get?_insert, if_neg hne, Table.get?_insert, if_pos rfl]
  have hb3 : w3.get? B = some (.bridge b'') := by rw [Table.get?_insert, if_pos rfl]
  obtain ⟨first, hfirst⟩ := callWithin_registration now depth typeInfo he1 habsent
  obtain ⟨second, hsecond⟩ := callWithin_reply now depth hb2 hconfig hstage
  have hforward : World.forward (World.callWithin now (depth + 1)) B w1
      ⟨.call E (.endpoint (.register typeInfo)) [], some Bridge.registrationReply⟩ = .ok (w3, first ++ second) := by
    unfold World.forward
    dsimp only
    rw [if_pos hin]
    change (World.callWithin now (depth + 1) w1 E (registration B typeInfo) >>= _) = _
    rw [hfirst]
    change (World.callWithin now (depth + 1) w2 B (.reply Bridge.registrationReply) >>= _) = _
    rw [hsecond]
    rfl
  refine ⟨w3, first ++ second ++ [], ?_, ⟨⟨e', he3⟩, b'', hb3, ?_⟩, ?_⟩
  · rw [World.forwardAll, hforward]
    rfl
  · intro config' hconfig'
    cases hconfig'
    exact hendpoint
  · intro b₃ e₃ hb₃ he₃
    cases hb3.symm.trans hb₃
    cases he3.symm.trans he₃
    exact .after _ typeInfo rfl rfl hnamed (by rw [Table.get?_insert, if_pos rfl])

theorem inStep_of_appointment {depth : Nat} {event : Bridge.Event} (hstep : InStep E B w)
    (found : w.get? B = some (.bridge b)) (landed : (event.run ⟨B, now⟩).commit b = .ok (r, b'))
    (happointment : event.isAppointment = true)
    (h : World.forwardAll (World.callWithin now depth) B (w.insert B (.bridge b')) r.messages = .ok (w', visits)) :
    InStep E B w' := by
  cases depth with
  | zero =>
    obtain ⟨e, _, typeInfo, he, -, -, -, -, -, hmessages⟩ := appointment_ok hstep found landed happointment
    have he1 : (w.insert B (.bridge b')).get? E = some (.endpoint e) := by
      rw [Table.get?_insert, if_neg hstep.ne, he]
    have hin := Table.contains_of_get? he1
    rw [hmessages] at h
    obtain ⟨_, hforward, -⟩ := bind_eq_ok_iff.1 h
    unfold World.forward at hforward
    dsimp only at hforward
    rw [if_pos hin] at hforward
    cases hforward
  | succ depth =>
    obtain ⟨w'', visits', hforward, hstep'⟩ := forwardAll_appointment depth hstep found landed happointment
    cases h.symm.trans hforward
    exact hstep'

/-- **A call that enters contracts properly keeps bridge and endpoint in step.** -/
theorem inStep_of_callWithin {depth : Nat} : ∀ {w w' self entry visits}, InStep E B w → entry.IsProper E B self →
    World.callWithin now depth w self entry = .ok (w', visits) → InStep E B w' := by
  induction depth with
  | zero =>
    intro w w' self entry visits hstep hproper h
    cases h
  | succ depth ih =>
    intro w w' self entry visits hstep hproper h
    obtain ⟨r, w1, rest, henter, hrest, rfl⟩ := callWithin_ok h
    have hland := landed_of_enter henter
    -- an appointment is followed to its end, since bridge and endpoint are out of step in between
    by_cases happointment : self = B ∧ entry.isAppointment = true
    · obtain ⟨rfl, happointment⟩ := happointment
      obtain ⟨b, hb, -⟩ := hstep.paired.bridge
      obtain ⟨event, b', read, landed, after⟩ := hland.of_bridge hb
      rw [Entry.isAppointment, read] at happointment
      rw [after] at hrest
      exact inStep_of_appointment hstep hb landed happointment hrest
    · have hnot : self = B → entry.isAppointment = false := fun hself =>
        Bool.eq_false_iff.2 fun happoints => happointment ⟨hself, happoints⟩
      have hstep1 := hland.inStep hstep hproper hnot
      refine inStep_of_forwardAll ih (fun hself => ?_) hstep1 hrest
      subst hself
      obtain ⟨b, hb, -⟩ := hstep.paired.bridge
      obtain ⟨event, b', read, landed, -⟩ := hland.of_bridge hb
      have hplain := hnot rfl
      rw [Entry.isAppointment, read] at hplain
      exact Bridge.plain_of_landed hplain landed

/-! ## Runs of a session -/

/-- The turn starts with word of a success, which no contract asked for. -/
def Turn.isReply (turn : Turn) : Bool :=
  turn.visits.head?.any fun v => match v.entry with
    | .reply _ => true
    | _ => false

/-- What comes from outside is proper, if it is no creation and no word of a success. -/
theorem isProper_of_outside (hstep : InStep E B w) (houtside : entry.IsOutside w) (hcreate : entry.isCreate = false)
    (hreply : ∀ id, entry ≠ .reply id) : entry.IsProper E B self := by
  refine ⟨hcreate, fun _ => hreply, ?_⟩
  intro _ caller typeInfo hread hsender
  cases entry with
  | execute caller' message =>
    obtain ⟨call, -, hevent⟩ := readable_map_eq_ok_iff.1 hread
    cases hevent
    have hnot : w.contains caller.sender = false := houtside
    rw [hsender, hstep.paired.contains_bridge] at hnot
    cases hnot
  | create caller' message =>
    obtain ⟨_, -, hevent⟩ := readable_map_eq_ok_iff.1 hread
    cases hevent
  | reply id => cases hread
  | upgrade message => cases hread

/-- **A step from outside keeps bridge and endpoint in step.** -/
theorem inStep_of_step (hstep : InStep E B s.world) (houtside : entry.IsOutside s.world)
    (honce : entry.IsOnce s.world self) (hpaired : Paired E B u.world) (h : s.step self entry = (.ok visits, u))
    (hreply : (⟨u.now, visits⟩ : Turn).isReply = false) : InStep E B u.world := by
  have hcall := (step_ok h).1
  obtain ⟨r, w1, rest, henter, hrest, rfl⟩ := callWithin_ok hcall
  cases hcreate : entry.isCreate with
  | true =>
    have hland := landed_of_enter henter
    rw [silent_of_create hcreate hland] at hrest
    cases hrest
    exact hland.inStep_of_create hstep hcreate honce hpaired
  | false =>
    refine inStep_of_callWithin hstep (isProper_of_outside hstep houtside hcreate ?_) hcall
    rintro id rfl
    cases hreply

/-- **Over a run, a bridge stays in step with its entry at the endpoint.** -/
theorem Run.inStep (h : Run s log t) (hB : s.world.get? B = some (.bridge .empty))
    (hE : s.world.get? E = some (.endpoint e)) (habsent : e.applications.get? B = none)
    (hreply : ∀ turn ∈ log, turn.isReply = false) (hpaired : Paired E B t.world) : InStep E B t.world := by
  induction h with
  | start =>
    refine ⟨hpaired, fun b' e' hb' he' => ?_⟩
    cases hB.symm.trans hb'
    cases hE.symm.trans he'
    exact .before nofun habsent
  | @land log t _ _ hrun hturns ih =>
    obtain @⟨now, self, entry, visits, u, houtside, honce, hstep⟩ := hturns
    obtain ⟨e', he', -⟩ := Run.endpoint hrun hE
    obtain ⟨b', hb', -⟩ := Run.bridge hrun hB
    -- the bridge trusts the endpoint at the end of the run, and has never trusted another
    have hbefore : Paired E B t.world :=
      paired_of_walk (walk_of_step (s := t.setClock now) honce hstep) he' hb' hpaired
    have hin := ih (fun turn hturn => hreply turn (List.mem_append_left _ hturn)) hbefore
    exact inStep_of_step (s := t.setClock now) hin houtside honce hpaired hstep
      (hreply _ (List.mem_append_right _ (List.mem_singleton.2 rfl)))
  | pass _ hfails ih =>
    obtain ⟨hstep⟩ := hfails
    cases step_error hstep
    exact ih hreply hpaired

/-- **Only the bridge itself refuses to appoint its officers.** -/
theorem refused_of_appointment (hstep : InStep E B s.world) (happointment : entry.isAppointment = true) {f : Failure}
    (h : s.step B entry = (.error f, u)) : ∃ error, f = .bridge error := by
  obtain ⟨b, hb, -⟩ := hstep.paired.bridge
  have hcall := (step_refused h).1
  cases hread : entry.toBridge with
  | error _ =>
    rw [Entry.isAppointment, hread] at happointment
    cases happointment
  | ok event =>
    rw [Entry.isAppointment, hread] at happointment
    cases hrun : (event.run ⟨B, s.now⟩).commit b with
    | error error =>
      have hrefused : s.world.call s.now B entry = .error (.bridge error) := by
        change (s.world.enter s.now B entry >>= _) = _
        rw [enter_of_bridge_refused hb hread hrun]
        rfl
      cases hrefused.symm.trans hcall
      exact ⟨error, rfl⟩
    | ok result =>
      obtain ⟨r, b'⟩ := result
      have hland : Landed s.world s.now B entry r (s.world.insert B (.bridge b')) :=
        .bridge b b' event hb hread hrun rfl
      obtain ⟨w', visits, hforward, -⟩ := forwardAll_appointment 1 hstep hb hrun happointment
      have hok : s.world.call s.now B entry = .ok (w', ⟨B, entry, r⟩ :: visits) := by
        refine (callWithin_of_landed 2 hland).trans ?_
        rw [hforward]
        rfl
      cases hok.symm.trans hcall

/-- **Service and registration stay in step.**  A bridge goes through its stages in order and each of them once; its
officers are appointed together, when it leaves the first stage, and stay; its chain is never zero, and it is not paused
before it has officers.  Where nothing from outside speaks for a contract or reports a success, after every step the
bridge is at the first stage or at the last, and it is at the last exactly if its endpoint has an entry for it.  That
entry is the one that the bridge asked for and never changes, so that an appointment is refused by the bridge alone. -/
theorem registration_in_step :
    (∀ (self : Account) (history : List Bridge.Landing) (b : Bridge.Store) (config : Bridge.Config),
      Bridge.History self history b → b.config = some config →
      config.Progress history ∧
      (∀ now event r b', event.isCreate = false → (event.run ⟨self, now⟩).commit b = .ok (r, b') →
        ∃ after, b'.config = some after ∧ Bridge.Config.Becomes event config after) ∧
      ∀ more b', Bridge.Run self b more b' → ∃ after, b'.config = some after ∧
        config.lifecycle.rank ≤ after.lifecycle.rank ∧
        (config.lifecycle ≠ .uninitialized → after.admin = config.admin ∧ after.authority = config.authority)) ∧
    ∀ (E B : Account) (s t : Session) (log : List Turn) (b : Bridge.Store) (e₀ e : Endpoint.Store), Run s log t →
      s.world.get? B = some (.bridge .empty) → s.world.get? E = some (.endpoint e₀) → e₀.applications.get? B = none →
      (∀ turn ∈ log, turn.isReply = false) →
      t.world.get? B = some (.bridge b) → t.world.get? E = some (.endpoint e) →
      (∀ config, b.config = some config → config.endpoint = E) →
      (∀ config, b.config = some config → config.lifecycle = .uninitialized ∨ config.lifecycle = .active) ∧
      ((∃ config, b.config = some config ∧ config.lifecycle = .active) ↔
        ∃ typeInfo, e.applications.get? B = some typeInfo) ∧
      (∀ typeInfo, e.applications.get? B = some typeInfo →
        TypeTag.ofParts B "stream" "StreamBridge" = .ok typeInfo ∧
        ∀ more u e', Run t more u → u.world.get? E = some (.endpoint e') →
          e'.applications.get? B = some typeInfo) ∧
      ∀ now entry f u, entry.isAppointment = true → (t.setClock now).step B entry = (.error f, u) →
        ∃ error, f = .bridge error := by
  constructor
  · intro self history b config h hconfig
    refine ⟨h.progress hconfig, ?_, fun more b' hmore => hmore.forward hconfig⟩
    exact fun now event r b' hcreate hland => (Bridge.change_of_landed hland).becomes hcreate hconfig
  · intro E B s t log b e₀ e h hB hE habsent hreply hb he htrust
    have hstep : InStep E B t.world := h.inStep hB hE habsent hreply ⟨⟨e, he⟩, b, hb, htrust⟩
    have hlater : ∀ typeInfo, e.applications.get? B = some typeInfo → ∀ more u e', Run t more u →
        u.world.get? E = some (.endpoint e') → e'.applications.get? B = some typeInfo := by
      intro typeInfo hentry more u e' hmore he'
      obtain ⟨e'', he'', hrun⟩ := hmore.endpoint he
      cases he'.symm.trans he''
      exact hrun.application_eq hentry
    have hrefused : ∀ now entry f u, entry.isAppointment = true → (t.setClock now).step B entry = (.error f, u) →
        ∃ error, f = .bridge error :=
      fun now entry f u happointment hfail => refused_of_appointment (s := t.setClock now) hstep happointment hfail
    cases hstep.enrolled b e hb he with
    | before stage absent =>
      refine ⟨fun config hconfig => .inl (stage config hconfig), ⟨?_, ?_⟩, ?_, hrefused⟩
      · rintro ⟨config, hconfig, hactive⟩
        cases (stage config hconfig).symm.trans hactive
      · rintro ⟨typeInfo, hentry⟩
        cases absent.symm.trans hentry
      · intro typeInfo hentry
        cases absent.symm.trans hentry
    | after config typeInfo configured stage named entered =>
      refine ⟨?_, ⟨fun _ => ⟨typeInfo, entered⟩, fun _ => ⟨config, configured, stage⟩⟩, ?_, hrefused⟩
      · intro config' hconfig'
        cases configured.symm.trans hconfig'
        exact .inr stage
      · intro typeInfo' hentry
        cases entered.symm.trans hentry
        exact ⟨named, hlater typeInfo entered⟩

theorem registration_in_step_relayed :
    ∃ log t b e config typeInfo, Run fresh log t ∧ t.world.get? "bridge" = some (.bridge b) ∧
      t.world.get? "endpoint" = some (.endpoint e) ∧ b.config = some config ∧ config.lifecycle = .active ∧
      config.Progress (bridgeLog "bridge" log) ∧ e.applications.get? "bridge" = some typeInfo ∧
      TypeTag.ofParts "bridge" "stream" "StreamBridge" = .ok typeInfo := by
  have hcheck : ((play fresh relayed).map fun p => (p.1.all fun turn => !turn.isReply,
      (bridgeAt? "bridge" p.2).bind fun b => b.config.map fun config => (config.endpoint, config.lifecycle))) =
      some (true, some ("endpoint", .active)) := by
    decide +kernel
  obtain ⟨⟨log, t⟩, hplay, hcheck⟩ := Option.map_eq_some_iff.1 hcheck
  obtain ⟨hreply, hbridge⟩ := Prod.mk.inj hcheck
  obtain ⟨b, hb, hconfig⟩ := Option.bind_eq_some_iff.1 hbridge
  obtain ⟨config, hconfig, hstage⟩ := Option.map_eq_some_iff.1 hconfig
  obtain ⟨hendpoint, hactive⟩ := Prod.mk.inj hstage
  have hb := get?_of_bridgeAt? hb
  have h : Run fresh log t := run_of_play hplay
  obtain ⟨e, he, -⟩ := h.endpoint (show fresh.world.get? "endpoint" = some (.endpoint .empty) from rfl)
  obtain ⟨b', hb', hhistory⟩ := h.bridge (show fresh.world.get? "bridge" = some (.bridge .empty) from rfl)
  cases hb.symm.trans hb'
  obtain ⟨-, hiff, hentry, -⟩ := registration_in_step.2 "endpoint" "bridge" fresh t log b .empty e h rfl rfl rfl
    (fun turn hturn => by simpa using List.all_eq_true.1 hreply turn hturn) hb he
    (fun config' hconfig' => by cases hconfig.symm.trans hconfig'; exact hendpoint)
  obtain ⟨typeInfo, hentered⟩ := hiff.1 ⟨config, hconfig, hactive⟩
  exact ⟨log, t, b, e, config, typeInfo, h, hb, he, hconfig, hactive,
    (registration_in_step.1 _ _ _ _ hhistory hconfig).1, hentered, (hentry typeInfo hentered).1⟩

end VestingBridge.Session
