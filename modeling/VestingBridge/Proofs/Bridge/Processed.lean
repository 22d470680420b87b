import VestingBridge.Proofs.Bridge.Run
import VestingBridge.Proofs.Table
/-!
# Proofs.Bridge.Processed — the packets that a bridge applied

A delivery is known by the packet that its event describes, in whatever shape and spelling.  The storage keeps the hash
of each packet that was applied, with its nonce, and a delivery lands only where the hash of its packet is new.  So the
hashes in the storage are those of the deliveries in the log, and no two of these are the same.  Nothing is assumed of
the hash: two packets with one hash would not both be applied either.
-/
namespace VestingBridge.Bridge

/-- The event that is handed over, if the bridge is called for that. -/
def Event.delivery? : Event → Option DeliveryEvent
  | .execute _ (.deliver event) => some event
  | _ => none

def Event.packet? (event : Event) : Option Packet := event.delivery?.bind (·.rebuild.toOption)

/-- **The packets that were applied**, in order. -/
def applied (log : List Landing) : List Packet := log.filterMap (·.event.packet?)

variable {self other : Account} {env : Env} {s s' t u : Store} {r : Response} {event : Event}
  {log log' more : List Landing}

theorem packet?_deliver (caller : Caller) {e : DeliveryEvent} {p : Packet} (h : e.rebuild = .ok p) :
    (Event.execute caller (.deliver e)).packet? = some p := by
  rw [Event.packet?, Event.delivery?, Option.bind_some, h]
  rfl

theorem applied_append (log : List Landing) (l : Landing) :
    applied (log ++ [l]) = applied log ++ l.event.packet?.toList := by
  rw [applied, List.filterMap_append, applied]
  cases h : l.event.packet? <;> simp [h]

/-- What a landed event does to the hashes: a delivery enters the hash of its packet, which is new and addressed to this
bridge on its chain, and any other event leaves them. -/
inductive Recording (env : Env) (s : Store) (event : Event) (t : Store) : Prop
  | aside (delivery : event.delivery? = none) (processed : t.processed = s.processed)
  | applied (caller : Caller) (e : DeliveryEvent) (packet : Packet) (config : Config)
      (isDelivery : event = .execute caller (.deliver e)) (rebuilt : e.rebuild = .ok packet)
      (configured : s.config = some config) (sender : caller.sender = config.endpoint)
      (chain : packet.dstChain = config.localChain) (addressed : env.self.wire = .ok packet.dst)
      (new : s.processed.get? packet.hash = none)
      (processed : t.processed = s.processed.insert packet.hash packet.nonce)

theorem recording_of_landed (h : (event.run env).commit s = .ok (r, t)) : Recording env s event t := by
  cases event with
  | create caller setup =>
    obtain ⟨-, -, rfl⟩ := create_ok h
    exact .aside rfl rfl
  | reply id =>
    obtain ⟨-, -, config, -, -, rfl⟩ := registered_ok h
    exact .aside rfl rfl
  | upgrade =>
    obtain ⟨-, rfl⟩ := upgrade_ok h
    exact .aside rfl rfl
  | execute caller call =>
    cases call with
    | appoint admin authority =>
      obtain ⟨config, _, -, -, -, -, -, rfl⟩ := appoint_ok h
      exact .aside rfl rfl
    | pause | unpause =>
      obtain ⟨-, config, -, -, rfl⟩ := setPaused_ok h
      exact .aside rfl rfl
    | setTrustedRemote chain text =>
      obtain ⟨-, -, -, address, -, -, rfl⟩ := setTrustedRemote_ok h
      exact .aside rfl rfl
    | setCoinMap chain text assetType =>
      obtain ⟨-, -, -, address, tag, -, -, rfl⟩ := setCoinMap_ok h
      exact .aside rfl rfl
    | registerAsset assetType holding =>
      obtain ⟨-, -, tag, normal, -, -, rfl⟩ := registerAsset_ok h
      exact .aside rfl rfl
    | createStream terms =>
      obtain ⟨draft, coin, -, -, -, h⟩ := createStream_ok h
      obtain ⟨-, -, -, -, next, -, rfl⟩ := openStream_ok h
      exact .aside rfl rfl
    | receive hook =>
      obtain ⟨draft, _, -, -, -, h⟩ := receive_ok h
      obtain ⟨-, -, -, -, next, -, rfl⟩ := openStream_ok h
      exact .aside rfl rfl
    | withdraw id =>
      obtain ⟨_, _, _, _, -, -, -, -, -, -, rfl⟩ := withdraw_ok h
      exact .aside rfl rfl
    | deliver e =>
      obtain ⟨config, packet, _, _, _, _, _, _, hc, hsender, -, -, hpacket, hchain, hdst, -, hnew, -, -, -, -, -, -, -,
        rfl⟩ := deliver_ok h
      exact .applied caller e packet config rfl hpacket hc hsender hchain hdst hnew rfl
    | requestRemoteWithdraw chain value =>
      obtain ⟨_, _, _, -, -, -, -, -, -, rfl⟩ := requestRemoteWithdraw_ok h
      exact .aside rfl rfl

/-- **The hashes in the storage are those of the packets that were applied**, each of them once. -/
structure Record (address : Account) (s : Store) (log : List Landing) : Prop where
  recorded : ∀ hash nonce, s.processed.get? hash = some nonce ↔
    ∃ p ∈ applied log, p.hash = hash ∧ p.nonce = nonce
  counted : s.processed.entries.length = (applied log).length
  distinct : (applied log).Pairwise fun p q => p.hash ≠ q.hash
  addressed : ∀ p ∈ applied log, address.wire = .ok p.dst ∧ s.config.map (·.localChain) = some p.dstChain
  delivered : ∀ l ∈ log, ∀ e, l.event.delivery? = some e → ∃ p, e.rebuild = .ok p ∧ l.event.packet? = some p

theorem Record.empty : Record self .empty [] where
  recorded _ _ := ⟨nofun, nofun⟩
  counted := rfl
  distinct := .nil
  addressed := nofun
  delivered := nofun

theorem Record.ne_of_new (h : Record self s log) {packet : Packet} (new : s.processed.get? packet.hash = none) :
    ∀ p ∈ applied log, p.hash ≠ packet.hash := by
  intro p hp heq
  have hget := (h.recorded p.hash p.nonce).2 ⟨p, hp, rfl, rfl⟩
  rw [heq, new] at hget
  cases hget

theorem Record.step (h : Record self s log) {now : Seconds}
    (hchain : ∀ c, s.config.map (·.localChain) = some c → t.config.map (·.localChain) = some c)
    (hland : (event.run ⟨self, now⟩).commit s = .ok (r, t)) : Record self t (log ++ [⟨now, event, r⟩]) := by
  cases recording_of_landed hland with
  | aside delivery processed =>
    have hsame : applied (log ++ [⟨now, event, r⟩]) = applied log := by
      rw [applied_append, Event.packet?, delivery]
      exact List.append_nil _
    constructor
    · rw [hsame, processed]
      exact h.recorded
    · rw [hsame, processed]
      exact h.counted
    · rw [hsame]
      exact h.distinct
    · intro p hp
      rw [hsame] at hp
      obtain ⟨hdst, hc⟩ := h.addressed p hp
      exact ⟨hdst, hchain _ hc⟩
    · intro l hl e he
      rcases List.mem_append.1 hl with hl | hl
      · exact h.delivered l hl e he
      · cases List.mem_singleton.1 hl
        cases delivery.symm.trans he
  | applied caller e packet config isDelivery rebuilt configured sender chain addressed new processed =>
    subst isDelivery
    have hpacket := packet?_deliver caller rebuilt
    have hmore : applied (log ++ [⟨now, .execute caller (.deliver e), r⟩]) = applied log ++ [packet] := by
      rw [applied_append, hpacket, Option.toList_some]
    constructor
    · intro hash nonce
      rw [hmore, processed, Table.get?_insert]
      constructor
      · intro hget
        split at hget
        · rename_i heq
          cases hget
          exact ⟨packet, List.mem_append_right _ (List.mem_singleton.2 rfl), heq.symm, rfl⟩
        · obtain ⟨p, hp, hsame⟩ := (h.recorded hash nonce).1 hget
          exact ⟨p, List.mem_append_left _ hp, hsame⟩
      · rintro ⟨p, hp, rfl, rfl⟩
        rcases List.mem_append.1 hp with hp | hp
        · rw [if_neg (h.ne_of_new new p hp)]
          exact (h.recorded _ _).2 ⟨p, hp, rfl, rfl⟩
        · cases List.mem_singleton.1 hp
          rw [if_pos rfl]
    · rw [hmore, processed, Table.length_insert_of_new new, h.counted, List.length_append, List.length_singleton]
    · rw [hmore, List.pairwise_append]
      refine ⟨h.distinct, List.pairwise_singleton _ _, fun p hp q hq => ?_⟩
      cases List.mem_singleton.1 hq
      exact h.ne_of_new new p hp
    · intro p hp
      rw [hmore] at hp
      rcases List.mem_append.1 hp with hp | hp
      · obtain ⟨hdst, hc⟩ := h.addressed p hp
        exact ⟨hdst, hchain _ hc⟩
      · cases List.mem_singleton.1 hp
        refine ⟨addressed, hchain _ ?_⟩
        rw [configured, chain]
        rfl
    · intro l hl e' he
      rcases List.mem_append.1 hl with hl | hl
      · exact h.delivered l hl e' he
      · cases List.mem_singleton.1 hl
        cases he
        exact ⟨packet, rebuilt, hpacket⟩

theorem chain_of_landed (honce : event.isCreate = true → s.config = none)
    (h : (event.run env).commit s = .ok (r, t)) :
    ∀ c, s.config.map (·.localChain) = some c → t.config.map (·.localChain) = some c := by
  intro c hc
  cases hcreate : event.isCreate with
  | true =>
    rw [honce hcreate] at hc
    cases hc
  | false =>
    have hsame := congrArg (Option.map fun f : Account × Account × ChainId => f.2.2) (founding_of_landed hcreate h)
    rw [Option.map_map, Option.map_map] at hsame
    exact hsame.trans hc

/-- **The storage of every history records the packets that were applied.** -/
theorem History.record (h : History self log s) : Record self s log := by
  induction h with
  | start => exact .empty
  | land _ hlands ih =>
    obtain ⟨honce, hland⟩ := hlands
    exact ih.step (chain_of_landed honce hland) hland
  | pass _ hrefuses ih =>
    cases hrefuses
    exact ih

/-- What is recorded stays, and what is applied later was not recorded. -/
theorem Run.recorded (h : Run self s more t) :
    (∀ hash nonce, s.processed.get? hash = some nonce → t.processed.get? hash = some nonce) ∧
    ∀ p ∈ applied more, s.processed.get? p.hash = none := by
  induction h with
  | start => exact ⟨fun _ _ h => h, nofun⟩
  | @land log u _ _ _ hlands ih =>
    obtain @⟨now, event, response, v, _, hland⟩ := hlands
    obtain ⟨hkept, hnew⟩ := ih
    cases recording_of_landed hland with
    | aside delivery processed =>
      rw [processed, applied_append, Event.packet?, delivery]
      refine ⟨hkept, fun p hp => hnew p ?_⟩
      rwa [Option.bind_none, Option.toList_none, List.append_nil] at hp
    | applied caller e packet config isDelivery rebuilt configured sender chain addressed new processed =>
      subst isDelivery
      rw [processed, applied_append, packet?_deliver caller rebuilt]
      have hfresh : s.processed.get? packet.hash = none := by
        cases hget : s.processed.get? packet.hash with
        | none => rfl
        | some nonce => cases (hkept _ _ hget).symm.trans new
      constructor
      · intro hash nonce hget
        have hne : hash ≠ packet.hash := by
          rintro rfl
          cases hget.symm.trans hfresh
        rw [Table.get?_insert, if_neg hne]
        exact hkept hash nonce hget
      · intro p hp
        rcases List.mem_append.1 hp with hp | hp
        · exact hnew p hp
        · cases List.mem_singleton.1 hp
          exact hfresh
  | pass _ hrefuses ih =>
    cases hrefuses
    exact ih

/-- **Every packet takes effect at most once.**  The storage records the packets that were applied and no others; two
deliveries that landed describe different packets, however they are put; what is recorded is never overwritten or
removed; and bridges at different addresses or on different chains have no packet in common. -/
theorem packets_applied_once (h : History self log s) :
    (∀ hash nonce, s.processed.get? hash = some nonce ↔ ∃ p ∈ applied log, p.hash = hash ∧ p.nonce = nonce) ∧
    (log.Pairwise fun l m => ∀ e e', l.event.delivery? = some e → m.event.delivery? = some e' →
      ∃ p p', e.rebuild = .ok p ∧ e'.rebuild = .ok p' ∧ p ≠ p' ∧ p.hash ≠ p'.hash) ∧
    (∀ more t, Run self s more t →
      (∀ hash nonce, s.processed.get? hash = some nonce → t.processed.get? hash = some nonce) ∧
      ∀ p ∈ applied more, s.processed.get? p.hash = none) ∧
    ∀ other log' s', History other log' s' →
      self.wire ≠ other.wire ∨ s.config.map (·.localChain) ≠ s'.config.map (·.localChain) →
      ∀ p ∈ applied log, p ∉ applied log' := by
  have hrecord := h.record
  refine ⟨hrecord.recorded, ?_, fun more t hmore => hmore.recorded, ?_⟩
  · refine (List.pairwise_filterMap.1 hrecord.distinct).imp_of_mem fun {l m} hl hm hdistinct e e' he he' => ?_
    obtain ⟨p, hp, hpacket⟩ := hrecord.delivered l hl e he
    obtain ⟨p', hp', hpacket'⟩ := hrecord.delivered m hm e' he'
    have hne := hdistinct p hpacket p' hpacket'
    exact ⟨p, p', hp, hp', fun heq => hne (congrArg Packet.hash heq), hne⟩
  · intro other log' s' h' hdiffer p hp hp'
    obtain ⟨hdst, hchain⟩ := hrecord.addressed p hp
    obtain ⟨hdst', hchain'⟩ := h'.record.addressed p hp'
    rcases hdiffer with hne | hne
    · exact hne (hdst.trans hdst'.symm)
    · exact hne (hchain.trans hchain'.symm)

/-- The octets of an address as a caller may write them, without the zeros in front. -/
def bareBridge : Octets := [0x62, 0x72, 0x69, 0x64, 0x67, 0x65]

/-- A request that is delivered with bare octets, then again in hexadecimal digits, and after that the next one. -/
def respelled : List (Seconds × Event) := [
  (10, .create ⟨"owner", []⟩ ⟨"endpoint", 108⟩),
  (10, .execute ⟨"owner", []⟩ (.appoint "admin" "authority")),
  (10, .reply registrationReply),
  (10, .execute ⟨"authority", []⟩ (.registerAsset "owner::Coins::MFL" (.native "umfl"))),
  (10, .execute ⟨"authority", []⟩ (.setTrustedRemote 5 "0xABC")),
  (10, .execute ⟨"authority", []⟩ (.setCoinMap 5 "0xdef" "owner::Coins::MFL")),
  (10, .execute ⟨"alice", [⟨"umfl", 1000⟩]⟩ (.createStream ⟨"bob", "owner::Coins::MFL", 100, 200⟩)),
  (150, .execute ⟨"endpoint", []⟩ (.deliver
    (.packet 5 [0x0a, 0xbc] 108 bareBridge 1 (WithdrawRequest.withdraw StreamId.zero).encode))),
  (160, .execute ⟨"endpoint", []⟩ (.deliver
    (.raw 5 " 0Xabc" 108 "0x627269646765" 1 (WithdrawRequest.withdraw StreamId.zero).encode))),
  (170, .execute ⟨"endpoint", []⟩ (.deliver
    (.raw 5 "abc" 108 "627269646765" 2 (WithdrawRequest.withdraw StreamId.zero).encode)))]

theorem packets_applied_once_respelled :
    ∃ log s, History "bridge" log s ∧ (applied log).map (·.nonce) = [1, 2] ∧
      ∀ hash nonce, s.processed.get? hash = some nonce ↔ ∃ p ∈ applied log, p.hash = hash ∧ p.nonce = nonce := by
  have hnonces : ((play "bridge" .empty respelled).map fun p => (applied p.1).map (·.nonce)) = some [1, 2] := by
    decide +kernel
  obtain ⟨⟨log, s⟩, hplay, hnonces⟩ := Option.map_eq_some_iff.1 hnonces
  have h : History "bridge" log s := run_iff_play.2 ⟨respelled, hplay⟩
  exact ⟨log, s, h, hnonces, (packets_applied_once h).1⟩

end VestingBridge.Bridge
