import VestingBridge.Proofs.Endpoint.Paths
/-!
# Proofs.Endpoint.Sends — the calls that send

A call that sends takes the next number of its path, which is the same path in every spelling of the destination.  Its
answer shows the packet, with the hash and the number.  So the calls on one path are numbered in order (`Outbound`), and
no packet is sent twice.
-/
namespace VestingBridge

/-- **The answer shows a packet**: its octets, which decode to it, its hash, and its number. -/
structure Response.Shows (r : Response) (packet : Packet) : Prop where
  decoded : r.packet? = some packet
  octets : r.attributes.lookup "packet" = some (Text.Hex.encode packet.encode)
  hash : r.attributes.lookup "packet_hash" = some packet.hash.toHex
  nonce : r.attributes.lookup "nonce" = some (Text.Decimal.encode packet.nonce.val)

namespace Endpoint

open Handler

/-- **The path that a call sends on.** -/
def Event.path? : Event → Option OutboundPath
  | .execute caller (.send dstChain dst _) =>
    (WireAddress.ofOctets dst).toOption.map fun dst => (dstChain, caller.sender, dst)
  | _ => none

/-- **The calls that sent on a path**, in order. -/
def sentOn (path : OutboundPath) (log : List Landing) : List Landing := log.filter (·.event.path? = some path)

/-- **A call sent a packet on a path**, from the application and to the address that the path names. -/
structure Sent (config : Config) (path : OutboundPath) (l : Landing) (packet : Packet) : Prop where
  called : ∃ funds dst, l.event = .execute ⟨path.2.1, funds⟩ (.send path.1 dst packet.payload) ∧
    WireAddress.ofOctets dst = .ok path.2.2
  srcChain : packet.srcChain = config.localChain
  src : path.2.1.wire = .ok packet.src
  dstChain : packet.dstChain = path.1
  dst : packet.dst = path.2.2
  shown : l.response.Shows packet

variable {s t full : Store} {r : Response} {event : Event} {log more : List Landing} {path : OutboundPath}
  {l : Landing} {packet : Packet} {config : Config} {caller : Caller} {dst payload : Octets}

theorem Sent.path?_eq (h : Sent config path l packet) : l.event.path? = some path := by
  obtain ⟨funds, dst, hevent, hdst⟩ := h.called
  simp [hevent, Event.path?, toOption_eq_some_iff.2 hdst]

theorem sentOn_concat_of_ne (hne : event.path? ≠ some path) :
    sentOn path (log ++ [⟨event, r⟩]) = sentOn path log := by
  simp [sentOn, hne]

theorem sentOn_concat_of_eq (heq : event.path? = some path) :
    sentOn path (log ++ [⟨event, r⟩]) = sentOn path log ++ [⟨event, r⟩] := by
  simp [sentOn, heq]

/-- **What a landed event sends**: nothing, or the next packet of one path. -/
inductive Sending (s : Store) (event : Event) (r : Response) (t : Store) : Prop
  | aside (pathless : event.path? = none) (outbound : t.outbound = s.outbound)
  | sent (path : OutboundPath) (packet : Packet) (config : Config) (configured : s.config = some config)
      (isSent : Sent config path ⟨event, r⟩ packet) (next : packet.nonce.val = (s.lastSent path).val + 1)
      (after : t = { s with outbound := s.outbound.insert path packet.nonce })

theorem send_shows {dstChain : ChainId} (h : (send caller dstChain dst payload).commit s = .ok (r, t))
    (hshown : r.packet? = some packet) : r.Shows packet := by
  simp only [send, commit_look_bind, commit_check_bind, commit_modify_bind, commit_pure_eq_ok_iff] at h
  obtain ⟨_, -, config, -, address, -, nonce, -, src, -, rfl, -⟩ := h
  -- the texts are variables here, so that no hash is computed
  have hlookup : ∀ ua chain dst nonce octets hash : String, let attributes := (Response.note [("action", "send"),
      ("ua", ua), ("dst_chain_id", chain), ("dst_address", dst), ("nonce", nonce), ("packet", octets),
      ("packet_hash", hash)]).attributes
      attributes.lookup "packet" = some octets ∧ attributes.lookup "packet_hash" = some hash ∧
        attributes.lookup "nonce" = some nonce := fun _ _ _ _ _ _ => ⟨rfl, rfl, rfl⟩
  obtain ⟨sent, hsent⟩ : ∃ sent : Packet, sent = ⟨config.localChain, src, dstChain, address, nonce, payload⟩ :=
    ⟨_, rfl⟩
  rw [← hsent] at hshown ⊢
  obtain ⟨hoctets, hhash, hnonce⟩ := hlookup caller.sender (Text.Decimal.encode dstChain.val) address.toHex
    (Text.Decimal.encode nonce.val) (Text.Hex.encode sent.encode) sent.hash.toHex
  have hdecoded := Response.packet?_of_lookup hoctets
  obtain rfl : packet = sent := Option.some.inj (hshown.symm.trans hdecoded)
  exact ⟨hdecoded, hoctets, hhash, by rw [hnonce, hsent]⟩

theorem sending_of_landed (h : event.run.commit s = .ok (r, t)) : Sending s event r t := by
  cases event with
  | create setup =>
    obtain ⟨-, -, rfl⟩ := create_ok h
    exact .aside rfl rfl
  | execute caller call =>
    cases call with
    | register typeInfo =>
      obtain ⟨-, -, -, rfl⟩ := register_ok h
      exact .aside rfl rfl
    | send dstChain dst payload =>
      obtain ⟨config, packet, -, hconfig, hsrcChain, hsrc, rfl, hdst, rfl, hnext, -, hshown, rfl⟩ := send_ok h
      have hsent : Sent config (packet.dstChain, caller.sender, packet.dst)
          ⟨.execute caller (.send packet.dstChain dst packet.payload), r⟩ packet :=
        ⟨⟨caller.funds, dst, rfl, hdst⟩, hsrcChain, hsrc, rfl, rfl, send_shows h hshown⟩
      exact .sent _ packet config hconfig hsent hnext rfl
    | deliver application e =>
      obtain ⟨_, packet, -, -, -, -, -, -, -, -, rfl⟩ := deliver_ok h
      exact .aside rfl rfl

theorem config_of_landed (hcreate : event.isCreate = false) (h : event.run.commit s = .ok (r, t)) :
    t.config = s.config := by
  cases passing_of_landed h with
  | aside _ _ _ _ _ _ config => exact config.resolve_left (by rw [hcreate]; exact Bool.false_ne_true)
  | sent _ _ _ _ _ _ _ _ _ _ _ _ after | delivered _ _ _ _ _ _ _ _ _ _ _ _ after => rw [after]

/-! ## The calls on one path -/

/-- **The calls on each path are numbered from one**, and the storage keeps how many there were. -/
structure Outbound (s : Store) (log : List Landing) : Prop where
  counted : ∀ path, (s.lastSent path).val = (sentOn path log).length
  numbered : ∀ path i l, (sentOn path log)[i]? = some l → ∃ config packet, s.config = some config ∧
    Sent config path l packet ∧ packet.nonce.val = i + 1

theorem Outbound.empty : Outbound .empty [] where
  counted _ := rfl
  numbered _ _ _ := nofun

theorem Outbound.step (h : Outbound s log) (honce : event.isCreate = true → s.config = none)
    (hland : event.run.commit s = .ok (r, t)) : Outbound t (log ++ [⟨event, r⟩]) := by
  have hconfig : ∀ {config}, s.config = some config → t.config = some config := by
    intro config hconfig
    cases hcreate : event.isCreate with
    | true => cases (honce hcreate).symm.trans hconfig
    | false => rw [config_of_landed hcreate hland, hconfig]
  cases sending_of_landed hland with
  | aside pathless outbound =>
    have hsame : ∀ path, sentOn path (log ++ [⟨event, r⟩]) = sentOn path log := fun path =>
      sentOn_concat_of_ne (by rw [pathless]; exact nofun)
    constructor
    · intro path
      rw [hsame, Store.lastSent, outbound, ← h.counted, Store.lastSent]
    · intro path i l hl
      rw [hsame] at hl
      obtain ⟨config, packet, hbefore, hsent, hnonce⟩ := h.numbered path i l hl
      exact ⟨config, packet, hconfig hbefore, hsent, hnonce⟩
  | sent taken packet config configured isSent next after =>
    constructor
    · intro path
      rw [after, Store.lastSent, Table.get?_insert]
      by_cases hpath : path = taken
      · rw [if_pos hpath, Option.getD_some, next, hpath, sentOn_concat_of_eq isSent.path?_eq, h.counted]
        simp
      · have hne : event.path? ≠ some path := fun heq => hpath (Option.some.inj (heq.symm.trans isSent.path?_eq))
        rw [if_neg hpath, sentOn_concat_of_ne hne, ← h.counted, Store.lastSent]
    · intro path i l hl
      by_cases hpath : path = taken
      · subst hpath
        rw [sentOn_concat_of_eq isSent.path?_eq, List.getElem?_append] at hl
        split at hl
        · obtain ⟨config', packet', hbefore, hsent, hnonce⟩ := h.numbered path i l hl
          exact ⟨config', packet', hconfig hbefore, hsent, hnonce⟩
        · rename_i hlast
          -- the call that is new stands after all that were there
          have hi : i = (sentOn path log).length := by
            have := (List.getElem?_eq_some_iff.1 hl).1
            simp at this
            omega
          subst hi
          simp at hl
          subst hl
          exact ⟨config, packet, hconfig configured, isSent, by rw [next, h.counted]⟩
      · have hne : event.path? ≠ some path := fun heq => hpath (Option.some.inj (heq.symm.trans isSent.path?_eq))
        rw [sentOn_concat_of_ne hne] at hl
        obtain ⟨config', packet', hbefore, hsent, hnonce⟩ := h.numbered path i l hl
        exact ⟨config', packet', hconfig hbefore, hsent, hnonce⟩

theorem History.sends (h : History log s) : Outbound s log := by
  induction h with
  | start => exact .empty
  | land _ hlands ih =>
    obtain ⟨honce, hland⟩ := hlands
    exact ih.step honce hland
  | pass _ hrefuses ih =>
    cases hrefuses
    exact ih

/-! ## No packet is sent twice -/

/-- A send on a path that has come to the last number stops short for want of a number exactly if it would land
otherwise. -/
theorem send_exhausted_iff {dstChain : ChainId} {address : WireAddress} (hdst : WireAddress.ofOctets dst = .ok address)
    (hlast : (full.lastSent (dstChain, caller.sender, address)).val = 0xFFFFFFFFFFFFFFFF) :
    (send caller dstChain dst payload).commit full = .error .noncesExhausted ↔
      full.applications.contains caller.sender = true ∧ ∃ config, full.config = some config := by
  have hnone : Store.nextNonce (full.lastSent (dstChain, caller.sender, address)) = .error .noncesExhausted := by
    rw [Store.nextNonce, Word.succ?_eq_none_iff.2 (by rw [hlast])]
  simp only [send, refused_look_bind, refused_check_bind, hdst, Except.ok.injEq, exists_eq_left', hnone, true_or]
  constructor
  · rintro (hunregistered | ⟨_, hregistered, hunconfigured | ⟨config, hconfig, -⟩⟩)
    · unfold Store.verifyRegistered at hunregistered
      split at hunregistered <;> cases hunregistered
    · unfold Store.loadConfig at hunconfigured
      split at hunconfigured <;> cases hunconfigured
    · exact ⟨verifyRegistered_eq_ok_iff.1 hregistered, config, loadConfig_eq_ok_iff.1 hconfig⟩
  · rintro ⟨hregistered, config, hconfig⟩
    have hconfig := loadConfig_eq_ok_iff.2 hconfig
    exact .inr ⟨(), verifyRegistered_eq_ok_iff.2 hregistered, .inr ⟨config, hconfig, .inr trivial⟩⟩

theorem exhausted_iff (hpath : event.path? = some path) (hlast : (full.lastSent path).val = 0xFFFFFFFFFFFFFFFF) :
    event.run.commit full = .error .noncesExhausted ↔
      full.applications.contains path.2.1 = true ∧ ∃ config, full.config = some config := by
  unfold Event.path? at hpath
  split at hpath
  · rename_i caller dstChain dst payload
    obtain ⟨address, haddress, rfl⟩ := Option.map_eq_some_iff.1 hpath
    exact send_exhausted_iff (toOption_eq_some_iff.1 haddress) hlast
  · cases hpath

end Endpoint

end VestingBridge
