import VestingBridge.Proofs.Bridge.Acceptance
import VestingBridge.Proofs.Bridge.Processed
import VestingBridge.Proofs.Bridge.Streams
import VestingBridge.Proofs.Vesting
/-!
# Proofs.Bridge.Drawing — a stream that is drawn on in many parts

A call comes to the release of a stream once it has passed every check that stands before it, be it the recipient's
withdrawal or a delivery (`Reaches`).  From there both do the same: they take the withdrawn part up to what has vested,
or there is nothing to withdraw.  So it does not matter in how many parts a stream is drawn on, by which way, nor in
which order the clock shows the times: what was paid in all is what has vested at the latest of them.
-/
namespace VestingBridge.Bridge

open Handler

variable {self : Account} {env : Env} {s t u : Store} {caller : Caller} {r : Response} {event : Event}
  {id : StreamId} {stream : Stream} {log : List Landing}

/-! ## What comes to the release -/

/-- **A call comes to the release of a stream.** -/
inductive Reaches (env : Env) (s : Store) (id : StreamId) (stream : Stream) : Event → Prop
  | here (caller : Caller) (config : Config) (configured : s.config = some config) (unpaused : config.paused = false)
      (found : s.streams.get? id = some stream) (recipient : caller.sender = stream.recipient) :
    Reaches env s id stream (.execute caller (.withdraw id))
  | remote (caller : Caller) (event : DeliveryEvent) (config : Config) (packet : Packet)
      (asks : Asks env s caller event config packet id) (found : s.streams.get? id = some stream)
      (mapped : ∃ address, s.remoteCoins.get? (packet.srcChain, stream.assetType.key) = some address)
      (held : ∃ tag, s.localCoins.get? stream.assetType.key = some tag ∧ s.assets.get? tag.key = some stream.asset) :
    Reaches env s id stream (.execute caller (.deliver event))

theorem Reaches.found (h : Reaches env s id stream event) : s.streams.get? id = some stream := by
  cases h with
  | here _ _ _ _ found => exact found
  | remote _ _ _ _ _ found => exact found

theorem Asks.drawsOn? {event : DeliveryEvent} {config : Config} {packet : Packet}
    (h : Asks env s caller event config packet id) :
    Event.drawsOn? (.execute caller (.deliver event)) = some id := by
  simp only [Event.drawsOn?, h.rebuilt, h.admitted.request]

theorem Reaches.drawsOn? (h : Reaches env s id stream event) : event.drawsOn? = some id := by
  cases h with
  | here => rfl
  | remote _ _ _ _ asks => exact asks.drawsOn?

/-- **What has vested is paid**, by either way alike. -/
theorem Reaches.lands (h : Reaches env s id stream event) (due : stream.withdrawn < stream.vested env.now) :
    ∃ r t, (event.run env).commit s = .ok (r, t) ∧
      r.messages = [⟨stream.asset.payment stream.recipient (stream.withdrawable env.now), none⟩] ∧
      t.streams = s.streams.insert id { stream with withdrawn := stream.vested env.now } := by
  cases h with
  | here caller config configured unpaused found recipient =>
    obtain ⟨r, hland, hmessages⟩ := withdraw_lands configured unpaused found recipient due
    exact ⟨r, _, hland, hmessages, rfl⟩
  | remote caller event config packet asks found mapped held =>
    obtain ⟨r, hland, hmessages⟩ := asks.lands ⟨found, mapped, held, due⟩
    exact ⟨r, _, hland, hmessages, rfl⟩

theorem Reaches.refused (h : Reaches env s id stream event) (nothing : stream.vested env.now ≤ stream.withdrawn) :
    (event.run env).commit s = .error (.nothingToWithdraw stream.id) := by
  cases h with
  | here caller config configured unpaused found recipient =>
    exact refused_withdraw configured unpaused found recipient nothing
  | remote caller event config packet asks found mapped held =>
    obtain ⟨address, hmapped⟩ := mapped
    obtain ⟨tag, hnamed, hassigned⟩ := held
    exact refused_deliver_iff.2 (.inr ⟨config, packet, id, asks,
      .nothingDue stream address tag found hmapped hnamed hassigned nothing⟩)

theorem Reaches.due_of_landed (h : Reaches env s id stream event) (hland : (event.run env).commit s = .ok (r, t)) :
    stream.withdrawn < stream.vested env.now := by
  by_contra hnot
  cases hland.symm.trans (h.refused (not_lt.1 hnot))

theorem Reaches.nothing_of_refused (h : Reaches env s id stream event) {e : Error}
    (hrefused : (event.run env).commit s = .error e) : stream.vested env.now ≤ stream.withdrawn := by
  by_contra hnot
  obtain ⟨r, t, hland, -⟩ := h.lands (not_le.1 hnot)
  cases hrefused.symm.trans hland

theorem reaches_of_landed (hdraws : event.drawsOn? = some id) (hland : (event.run env).commit s = .ok (r, t)) :
    ∃ stream, Reaches env s id stream event := by
  unfold Event.drawsOn? at hdraws
  split at hdraws
  · rename_i caller other
    cases hdraws
    obtain ⟨config, stream, _, _, hconfig, hpaused, hfound, hrecipient, -⟩ := withdraw_ok hland
    exact ⟨stream, .here caller config hconfig hpaused hfound hrecipient⟩
  · rename_i caller event
    obtain ⟨config, packet, other, stream, hasks, hpayable, -⟩ := accepted_of_deliver hland
    have hsame : some other = some id := hasks.drawsOn?.symm.trans hdraws
    cases hsame
    exact ⟨stream, .remote caller event config packet hasks hpayable.found hpayable.mapped hpayable.held⟩
  · cases hdraws

theorem reaches_of_nothing {n : StreamId} (hdraws : event.drawsOn? = some id)
    (hrefused : (event.run env).commit s = .error (.nothingToWithdraw n)) :
    ∃ stream, Reaches env s id stream event := by
  unfold Event.drawsOn? at hdraws
  split at hdraws
  · rename_i caller other
    cases hdraws
    simp only [Event.run, ExecuteCall.run, withdraw, refused_look_bind, refused_ofExcept_bind, refused_require_bind,
      refused_modify_bind, refused_pure, loadConfig_eq_error_iff, stream_eq_error_iff, loadConfig_eq_ok_iff,
      stream_eq_ok_iff, reduceCtorEq, and_false, false_or] at hrefused
    obtain ⟨config, hconfig, hpaused, stream, hfound, hrecipient, -⟩ := hrefused
    exact ⟨stream, .here caller config hconfig (by simpa using hpaused) hfound hrecipient⟩
  · rename_i caller event
    rcases refused_deliver_iff.1 hrefused with h | ⟨config, packet, other, hasks, h⟩
    · cases h
    · have hsame : some other = some id := hasks.drawsOn?.symm.trans hdraws
      cases hsame
      cases h with
      | nothingDue stream address tag found mapped named assigned =>
        exact ⟨stream, .remote caller event config packet hasks found ⟨address, mapped⟩ ⟨tag, named, assigned⟩⟩
  · cases hdraws

/-! ## Attempts over time -/

/-- **An attempt to draw on a stream**: when, by which call, and the answer if it was not refused. -/
structure Attempt where
  now : Seconds
  event : Event
  response : Option Response

def Attempt.payments (a : Attempt) : List Payment := (a.response.elim [] (·.messages)).filterMap (·.message.payment?)

/-- **What the attempts have paid in all.** -/
def paidBy (attempts : List Attempt) : Nat := ((attempts.flatMap Attempt.payments).map (·.amount.val)).sum

/-- **The latest time of an attempt**, in whatever order the times came. -/
def latest (attempts : List Attempt) : Seconds := attempts.foldl (fun time a => max time a.now) 0

/-- **A bridge over time, and the attempts on one of its streams.**  Every call that comes to the release is an attempt,
whether it is paid or there is nothing to withdraw.  Whatever else lands in between is none. -/
inductive Course (self : Account) (id : StreamId) (s : Store) : List Attempt → Store → Prop
  | start : Course self id s [] s
  | paid {attempts t u now stream} {event : Event} {response} : Course self id s attempts t →
      Reaches ⟨self, now⟩ t id stream event → (event.run ⟨self, now⟩).commit t = .ok (response, u) →
      Course self id s (attempts ++ [⟨now, event, some response⟩]) u
  | unpaid {attempts t now stream} {event : Event} {error} : Course self id s attempts t →
      Reaches ⟨self, now⟩ t id stream event → (event.run ⟨self, now⟩).commit t = .error error →
      Course self id s (attempts ++ [⟨now, event, none⟩]) t
  | aside {attempts t u now} {event : Event} {response} : Course self id s attempts t →
      (event.isCreate = true → t.config = none) → (∀ stream, ¬Reaches ⟨self, now⟩ t id stream event) →
      (event.run ⟨self, now⟩).commit t = .ok (response, u) → Course self id s attempts u

variable {attempts : List Attempt} {a : Attempt} {time : Seconds}

theorem latest_concat (attempts : List Attempt) (a : Attempt) :
    latest (attempts ++ [a]) = max (latest attempts) a.now := by
  rw [latest, List.foldl_append]
  rfl

theorem latest_le_iff : latest attempts ≤ time ↔ ∀ a ∈ attempts, a.now ≤ time := by
  induction attempts using List.reverseRecOn with
  | nil =>
    have hzero : latest [] ≤ time := Nat.zero_le _
    simp [hzero]
  | append_singleton attempts a ih => simp [latest_concat, ih, or_imp, forall_and]

theorem paidBy_concat (attempts : List Attempt) (a : Attempt) :
    paidBy (attempts ++ [a]) = paidBy attempts + (a.payments.map (·.amount.val)).sum := by
  simp [paidBy]

theorem Course.run (h : Course self id s attempts t) : ∃ log, Run self s log t := by
  induction h with
  | start => exact ⟨[], .start⟩
  | paid _ hreaches hland ih =>
    obtain ⟨log, hrun⟩ := ih
    refine ⟨_, .land hrun ⟨fun hcreate => ?_, hland⟩⟩
    cases hreaches <;> cases hcreate
  | unpaid _ _ _ ih => exact ih
  | aside _ honce _ hland ih =>
    obtain ⟨log, hrun⟩ := ih
    exact ⟨_, .land hrun ⟨honce, hland⟩⟩

/-- One more attempt on a stream, of a call that asks for it and comes to its release. -/
def attempt (self : Account) (id : StreamId) (p : List Attempt × Store) (occasion : Seconds × Event) :
    Option (List Attempt × Store) :=
  if occasion.2.drawsOn? = some id then
    match (occasion.2.run ⟨self, occasion.1⟩).commit p.2 with
    | .ok (response, u) => some (p.1 ++ [⟨occasion.1, occasion.2, some response⟩], u)
    | .error (.nothingToWithdraw _) => some (p.1 ++ [⟨occasion.1, occasion.2, none⟩], p.2)
    | .error _ => none
  else none

theorem course_of_attempts {more : List Attempt} {occasions : List (Seconds × Event)} (h : Course self id s attempts t)
    (hplay : occasions.foldlM (attempt self id) (attempts, t) = some (more, u)) : Course self id s more u := by
  induction occasions generalizing attempts t with
  | nil =>
    cases hplay
    exact h
  | cons occasion rest ih =>
    obtain ⟨now, event⟩ := occasion
    rw [List.foldlM_cons, attempt] at hplay
    split at hplay
    · rename_i hdraws
      split at hplay
      · rename_i response v hland
        obtain ⟨stream, hreaches⟩ := reaches_of_landed hdraws hland
        exact ih (.paid h hreaches hland) hplay
      · rename_i n hrefused
        obtain ⟨stream, hreaches⟩ := reaches_of_nothing hdraws hrefused
        exact ih (.unpaid h hreaches hrefused) hplay
      · cases hplay
    · cases hplay

/-- **Every run is a course**, whose attempts are among what landed. -/
theorem Run.course (h : Run self s log t) (id : StreamId) :
    ∃ attempts, Course self id s attempts t ∧
      ∀ a ∈ attempts, ∃ l ∈ log, l.event.drawsOn? = some id ∧ a.now = l.now := by
  induction h with
  | start => exact ⟨[], .start, nofun⟩
  | @land log t _ _ _ hlands ih =>
    obtain @⟨now, event, response, u, honce, hland⟩ := hlands
    obtain ⟨attempts, hcourse, hfrom⟩ := ih
    have hbefore : ∀ a ∈ attempts, ∃ l ∈ log ++ [⟨now, event, response⟩],
        l.event.drawsOn? = some id ∧ a.now = l.now := by
      intro a ha
      obtain ⟨l, hl, hsame⟩ := hfrom a ha
      exact ⟨l, List.mem_append_left _ hl, hsame⟩
    by_cases hreaches : ∃ stream, Reaches ⟨self, now⟩ t id stream event
    · obtain ⟨stream, hreaches⟩ := hreaches
      refine ⟨_, .paid hcourse hreaches hland, fun a ha => ?_⟩
      rcases List.mem_append.1 ha with ha | ha
      · exact hbefore a ha
      · cases List.mem_singleton.1 ha
        exact ⟨_, List.mem_append_right _ (List.mem_singleton.2 rfl), hreaches.drawsOn?, rfl⟩
    · exact ⟨attempts, .aside hcourse honce (not_exists.1 hreaches) hland, hbefore⟩
  | pass _ hrefuses ih =>
    cases hrefuses
    exact ih

/-! ## What the attempts come to -/

/-- **The attempts and the stream agree**: what was withdrawn and what was paid is what has vested at the latest time,
and before the stream is there nothing was tried. -/
structure Tally (id : StreamId) (attempts : List Attempt) (t : Store) : Prop where
  absent : t.streams.get? id = none → attempts = []
  withdrawn : ∀ stream, t.streams.get? id = some stream → stream.withdrawn = stream.vested (latest attempts)
  paid : ∀ stream, t.streams.get? id = some stream → paidBy attempts = stream.withdrawn.val

theorem Tally.start (h : ∀ stream, s.streams.get? id = some stream → stream.withdrawn = Amount.zero) :
    Tally id [] s where
  absent _ := rfl
  withdrawn stream found := (h stream found).trans (stream.vested_of_zero rfl).symm
  paid stream found := by
    rw [h stream found]
    rfl

theorem Tally.paid_on (h : Tally id attempts t) {now : Seconds} {response : Response}
    (hreaches : Reaches ⟨self, now⟩ t id stream event) (hland : (event.run ⟨self, now⟩).commit t = .ok (response, u)) :
    Tally id (attempts ++ [⟨now, event, some response⟩]) u := by
  have hdue : stream.withdrawn < stream.vested now := hreaches.due_of_landed hland
  obtain ⟨r, u', hland', hmessages, hstreams⟩ := hreaches.lands hdue
  cases hland.symm.trans hland'
  have hget : u.streams.get? id = some { stream with withdrawn := stream.vested now } := by
    rw [hstreams, Table.get?_insert, if_pos rfl]
  constructor
  · intro hnone
    cases hnone.symm.trans hget
  · intro later hlater
    cases hget.symm.trans hlater
    change stream.vested now = stream.vested (latest (attempts ++ _))
    rw [latest_concat, Stream.vested_max, ← h.withdrawn stream hreaches.found, max_eq_right hdue.le]
  · intro later hlater
    cases hget.symm.trans hlater
    have hsum := Stream.withdrawn_add_withdrawable hdue.le
    rw [paidBy_concat, h.paid stream hreaches.found, ← hsum]
    simp [Attempt.payments, hmessages]

theorem Tally.unpaid_on (h : Tally id attempts t) {now : Seconds} {e : Error}
    (hreaches : Reaches ⟨self, now⟩ t id stream event) (hrefused : (event.run ⟨self, now⟩).commit t = .error e) :
    Tally id (attempts ++ [⟨now, event, none⟩]) t := by
  have hfound := hreaches.found
  have hnothing : stream.vested now ≤ stream.withdrawn := hreaches.nothing_of_refused hrefused
  constructor
  · intro hnone
    cases hnone.symm.trans hfound
  · intro later hlater
    cases hfound.symm.trans hlater
    rw [latest_concat, Stream.vested_max, ← h.withdrawn stream hfound, max_eq_left hnothing]
  · intro later hlater
    rw [paidBy_concat, h.paid later hlater]
    rfl

/-- What lands without being an attempt leaves the stream as it is, unless it opens it. -/
theorem Tally.aside_of (h : Tally id attempts t) (hfiled : Filed t) (hblank : event.isCreate = true → t.IsBlank)
    (hnot : ∀ stream, ¬Reaches env t id stream event) (hland : (event.run env).commit t = .ok (r, u)) :
    Tally id attempts u := by
  have hsame : ∀ v : Store, v.streams.get? id = t.streams.get? id → Tally id attempts v := by
    intro v hv
    obtain ⟨absent, withdrawn, paid⟩ := h
    exact ⟨by rwa [hv], by rwa [hv], by rwa [hv]⟩
  cases dealing_of_landed hblank hland with
  | aside _ _ _ streams _ => exact hsame u (by rw [streams])
  | opened opened _ _ _ isOpened streams _ =>
    by_cases hid : id = t.nextStreamId
    · have hnone : attempts = [] := h.absent (hid ▸ hfiled.fresh)
      rw [hnone]
      refine .start fun stream hget => ?_
      rw [streams, Table.get?_insert, if_pos hid] at hget
      cases hget
      exact isOpened.untouched
    · exact hsame u (by rw [streams, Table.get?_insert, if_neg hid])
  | drawn drawn _ _ _ _ draws _ _ _ _ streams _ =>
    by_cases hid : id = drawn
    · obtain ⟨stream, hreaches⟩ := reaches_of_landed (hid ▸ draws) hland
      exact absurd hreaches (hnot stream)
    · exact hsame u (by rw [streams, Table.get?_insert, if_neg hid])

/-- **The attempts and the stream agree after every course** that starts before the stream was drawn on. -/
theorem Course.tally (h : Course self id s attempts t) (hhistory : History self log s)
    (hfresh : ∀ stream, s.streams.get? id = some stream → stream.withdrawn = Amount.zero) : Tally id attempts t := by
  induction h with
  | start => exact .start hfresh
  | paid _ hreaches hland ih => exact ih.paid_on hreaches hland
  | unpaid _ hreaches hrefused ih => exact ih.unpaid_on hreaches hrefused
  | aside hcourse honce hnot hland ih =>
    obtain ⟨more, hrun⟩ := hcourse.run
    have hbefore := Runs.trans hhistory hrun
    exact ih.aside_of (History.filed hbefore) (fun hcreate => (History.isBlank hbefore (honce hcreate)).1) hnot hland

theorem vested_of_finished (h : History self log s) (found : s.streams.get? id = some stream) {now : Seconds}
    (finished : stream.stop ≤ now) : stream.vested now = stream.deposit :=
  Stream.vested_of_stop_le (lt_of_lt_of_le (h.isSound found).schedule finished) finished

/-- **Of a stream the same is paid in however many parts.**
* `comes`, `outcome`: the recipient's withdrawal comes to the release unless the bridge is paused; what comes to it is
  what lands or is told that there is nothing to withdraw.
* `total`: after any attempts on a stream of which nothing was withdrawn, what was withdrawn and what was paid is what
  has vested at the latest of their times.
* `never_ahead`: at every moment no more was withdrawn than has vested at the latest time at which it was drawn on.
* `drained`: once the stream has stopped, its recipient is paid the rest of the deposit.
* `alike`: where a delivery is accepted the recipient's withdrawal would be too, with the same payment and the same
  streams after it. -/
structure PathIndependent (address : Account) (log : List Landing) (s : Store) : Prop where
  comes : ∀ now caller id stream config, s.config = some config → s.streams.get? id = some stream →
    caller.sender = stream.recipient →
    (Reaches ⟨address, now⟩ s id stream (.execute caller (.withdraw id)) ↔ config.paused = false)
  outcome : ∀ now id (event : Event), event.drawsOn? = some id →
    ((∃ stream, Reaches ⟨address, now⟩ s id stream event) ↔
      (∃ r t, (event.run ⟨address, now⟩).commit s = .ok (r, t)) ∨
      (event.run ⟨address, now⟩).commit s = .error (.nothingToWithdraw id))
  total : ∀ id stream attempts t, s.streams.get? id = some stream → stream.withdrawn = Amount.zero →
    Course address id s attempts t →
    t.streams.get? id = some { stream with withdrawn := stream.vested (latest attempts) } ∧
      paidBy attempts = (stream.vested (latest attempts)).val
  never_ahead : ∀ id stream time, s.streams.get? id = some stream →
    (∀ l ∈ log, l.event.drawsOn? = some id → l.now ≤ time) → stream.withdrawn ≤ stream.vested time
  drained : ∀ now caller id stream config, s.config = some config → config.paused = false →
    s.streams.get? id = some stream → caller.sender = stream.recipient → stream.stop ≤ now →
    stream.withdrawn < stream.deposit →
    ∃ r, (withdraw ⟨address, now⟩ caller id).commit s =
        .ok (r, s.putStream id { stream with withdrawn := stream.deposit }) ∧
      ∃ amount : Amount, amount.val = stream.deposit.val - stream.withdrawn.val ∧
        Pays r.messages ⟨stream.asset, stream.recipient, amount⟩
  alike : ∀ now caller caller' id stream event r t, s.streams.get? id = some stream →
    Event.drawsOn? (.execute caller (.deliver event)) = some id → caller'.sender = stream.recipient →
    (deliver ⟨address, now⟩ caller event).commit s = .ok (r, t) →
    ∃ r' t', (withdraw ⟨address, now⟩ caller' id).commit s = .ok (r', t') ∧ r'.messages = r.messages ∧
      t'.streams = t.streams

theorem History.total (h : History self log s) (found : s.streams.get? id = some stream)
    (untouched : stream.withdrawn = Amount.zero) (hcourse : Course self id s attempts t) :
    t.streams.get? id = some { stream with withdrawn := stream.vested (latest attempts) } ∧
      paidBy attempts = (stream.vested (latest attempts)).val := by
  have htally : Tally id attempts t := hcourse.tally h fun other hother => by
    cases found.symm.trans hother
    exact untouched
  obtain ⟨more, hrun⟩ := hcourse.run
  obtain ⟨later, hlater, withdrawn, -, rfl⟩ := h.follows hrun found
  have hwithdrawn : withdrawn = stream.vested (latest attempts) := htally.withdrawn _ hlater
  subst hwithdrawn
  exact ⟨hlater, htally.paid _ hlater⟩

theorem History.never_ahead (h : History self log s) (found : s.streams.get? id = some stream)
    (hlatest : ∀ l ∈ log, l.event.drawsOn? = some id → l.now ≤ time) : stream.withdrawn ≤ stream.vested time := by
  obtain ⟨attempts, hcourse, hfrom⟩ := Run.course h id
  have htally : Tally id attempts s := hcourse.tally .start nofun
  rw [htally.withdrawn stream found]
  refine stream.vested_mono (latest_le_iff.2 fun a ha => ?_)
  obtain ⟨l, hl, hdraws, hsame⟩ := hfrom a ha
  rw [hsame]
  exact hlatest l hl hdraws

/-- **What a stream pays does not depend on the way to it**, in every storage that a bridge comes to. -/
theorem draws_path_independent (h : History self log s) : PathIndependent self log s where
  comes now caller id stream config configured found recipient := by
    constructor
    · rintro (⟨_, config', configured', unpaused⟩)
      cases configured.symm.trans configured'
      exact unpaused
    · intro unpaused
      exact .here caller config configured unpaused found recipient
  outcome now id event hdraws := by
    constructor
    · rintro ⟨stream, hreaches⟩
      by_cases hdue : stream.withdrawn < stream.vested now
      · obtain ⟨r, t, hland, -⟩ := hreaches.lands hdue
        exact .inl ⟨r, t, hland⟩
      · have hrefused := hreaches.refused (not_lt.1 hdue)
        rw [(h.isSound hreaches.found).numbered] at hrefused
        exact .inr hrefused
    · rintro (⟨r, t, hland⟩ | hrefused)
      · exact reaches_of_landed hdraws hland
      · exact reaches_of_nothing hdraws hrefused
  total id stream attempts t found untouched hcourse := h.total found untouched hcourse
  never_ahead id stream time found hlatest := h.never_ahead found hlatest
  drained now caller id stream config configured unpaused found recipient finished more := by
    have hvested : stream.vested now = stream.deposit := vested_of_finished h found finished
    have hdue : stream.withdrawn < stream.vested (Env.mk self now).now := hvested.symm ▸ more
    obtain ⟨r, hland, hmessages⟩ := withdraw_lands configured unpaused found recipient hdue
    rw [hvested] at hland
    refine ⟨r, hland, stream.withdrawable now, ?_, pays_iff.2 hmessages⟩
    rw [Stream.withdrawable, Word.val_monus, hvested]
  alike now caller caller' id stream event r t found hdraws recipient hland := by
    obtain ⟨stream', hreaches⟩ := reaches_of_landed hdraws hland
    cases found.symm.trans hreaches.found
    have hdue := hreaches.due_of_landed hland
    obtain ⟨r₁, t₁, hland₁, hmessages, hstreams⟩ := hreaches.lands hdue
    cases hland.symm.trans hland₁
    obtain ⟨config, _, _, _, _, _, _, _, configured, -, -, unpaused, -⟩ := deliver_ok hland
    have hhere : Reaches ⟨self, now⟩ s id stream (.execute caller' (.withdraw id)) :=
      .here caller' config configured unpaused found recipient
    obtain ⟨r', t', hland', hmessages', hstreams'⟩ := hhere.lands hdue
    exact ⟨r', t', hland', hmessages'.trans hmessages.symm, hstreams'.trans hstreams.symm⟩

/-- The same request to draw, from the chain that the bridge trusts. -/
def remoteDraw (nonce : Nonce) : Event :=
  .execute ⟨"endpoint", []⟩ (.deliver
    (.packet 5 [0x0a, 0xbc] 108 bareBridge nonce (WithdrawRequest.withdraw StreamId.zero).encode))

/-- Half of the time, then back, then on by a quarter, and back again: by the recipient and from afar in turn. -/
def backAndForth : List (Seconds × Event) := [
  (150, .execute ⟨"bob", []⟩ (.withdraw StreamId.zero)), (130, remoteDraw 1),
  (175, remoteDraw 1), (160, .execute ⟨"bob", []⟩ (.withdraw StreamId.zero))]

theorem draws_path_independent_backAndForth :
    ∃ log s attempts t stream, History "bridge" log s ∧ s.streams.get? StreamId.zero = some stream ∧
      Course "bridge" StreamId.zero s attempts t ∧ attempts.map (·.response.isSome) = [true, false, true, false] ∧
      (latest attempts).val = 175 ∧ paidBy attempts = 750 ∧
      paidBy attempts = (stream.vested (latest attempts)).val := by
  have hplay : ((play "bridge" .empty (respelled.take 7)).bind fun p =>
      (p.2.streams.get? StreamId.zero).bind fun stream =>
        (backAndForth.foldlM (attempt "bridge" StreamId.zero) ([], p.2)).map fun q =>
          (stream.withdrawn, q.1.map (·.response.isSome), (latest q.1).val, paidBy q.1)) =
      some (Amount.zero, [true, false, true, false], 175, 750) := by
    decide +kernel
  obtain ⟨⟨log, s⟩, hsetup, hplay⟩ := Option.bind_eq_some_iff.1 hplay
  obtain ⟨stream, hfound, hplay⟩ := Option.bind_eq_some_iff.1 hplay
  obtain ⟨⟨attempts, t⟩, hattempts, hcounts⟩ := Option.map_eq_some_iff.1 hplay
  obtain ⟨huntouched, hanswers, hlatest, hpaid⟩ : stream.withdrawn = Amount.zero ∧
      attempts.map (·.response.isSome) = [true, false, true, false] ∧ (latest attempts).val = 175 ∧
      paidBy attempts = 750 := by
    simpa using hcounts
  have h : History "bridge" log s := run_iff_play.2 ⟨respelled.take 7, hsetup⟩
  have hcourse : Course "bridge" StreamId.zero s attempts t := course_of_attempts .start hattempts
  exact ⟨log, s, attempts, t, stream, h, hfound, hcourse, hanswers, hlatest, hpaid,
    ((draws_path_independent h).total StreamId.zero stream attempts t hfound huntouched hcourse).2⟩

end VestingBridge.Bridge
