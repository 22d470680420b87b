import VestingBridge.Endpoint.Channel
import VestingBridge.Proofs.Account
import VestingBridge.Proofs.Handler
import VestingBridge.Proofs.Packet
/-!
# Proofs.Endpoint.Calls — what a call to an endpoint that landed did

One theorem for each call: the conditions that it checked, the storage after it in terms of the storage before it, the
messages that it sent, and the packet that its answer shows, if it shows one.
-/
namespace VestingBridge

/-- **The packet that an answer shows.** -/
def Response.packet? (r : Response) : Option Packet := (r.attributes.lookup "packet").bind Packet.ofDigits?

theorem Response.packet?_of_lookup {r : Response} {packet : Packet}
    (h : r.attributes.lookup "packet" = some (Text.Hex.encode packet.encode)) : r.packet? = some packet := by
  rw [Response.packet?, h, Option.bind_some, Packet.ofDigits?_encode]

namespace Endpoint

open Handler

variable {caller : Caller} {s t : Store} {r : Response}

theorem loadConfig_eq_ok_iff {config : Config} : s.loadConfig = .ok config ↔ s.config = some config := by
  unfold Store.loadConfig
  cases s.config <;> simp

theorem verifyRegistered_eq_ok_iff {application : Account} {u : Unit} :
    s.verifyRegistered application = .ok u ↔ s.applications.contains application = true := by
  unfold Store.verifyRegistered
  split <;> simp_all

theorem nextNonce_eq_ok_iff {n next : Nonce} : Store.nextNonce n = .ok next ↔ next.val = n.val + 1 := by
  rw [← Word.succ?_eq_some_iff, Store.nextNonce]
  cases n.succ? <;> simp

theorem create_ok {setup : Setup} (h : (create setup).commit s = .ok (r, t)) :
    r.messages = [] ∧ r.packet? = none ∧
      t = { s with version := some codeVersion, config := some ⟨setup.localChain, setup.relayer⟩ } := by
  simp only [create, commit_modify_bind, commit_check_bind, commit_pure_eq_ok_iff] at h
  obtain ⟨relayer, hrelayer, rfl, rfl⟩ := h
  cases Account.validate_ok hrelayer
  exact ⟨rfl, rfl, rfl⟩

theorem register_ok {typeInfo : TypeTag} (h : (register caller typeInfo).commit s = .ok (r, t)) :
    r.messages = [] ∧ r.packet? = none ∧ s.applications.contains caller.sender = false ∧
      t = { s with applications := s.applications.insert caller.sender typeInfo } := by
  simp only [register, commit_get_bind, commit_require_bind, commit_modify_bind, commit_pure_eq_ok_iff] at h
  obtain ⟨hnew, rfl, rfl⟩ := h
  exact ⟨rfl, rfl, by simpa using hnew, rfl⟩

theorem send_ok {dstChain : ChainId} {dst payload : Octets}
    (h : (send caller dstChain dst payload).commit s = .ok (r, t)) :
    ∃ config packet, s.applications.contains caller.sender = true ∧ s.config = some config ∧
      packet.srcChain = config.localChain ∧ caller.sender.wire = .ok packet.src ∧ packet.dstChain = dstChain ∧
      WireAddress.ofOctets dst = .ok packet.dst ∧ packet.payload = payload ∧
      packet.nonce.val = (s.lastSent (dstChain, caller.sender, packet.dst)).val + 1 ∧
      r.messages = [] ∧ r.packet? = some packet ∧
      t = { s with outbound := s.outbound.insert (dstChain, caller.sender, packet.dst) packet.nonce } := by
  simp only [send, commit_look_bind, commit_check_bind, commit_modify_bind, commit_pure_eq_ok_iff] at h
  obtain ⟨_, hregistered, config, hconfig, address, haddress, nonce, hnonce, src, hsrc, rfl, rfl⟩ := h
  let packet : Packet := ⟨config.localChain, src, dstChain, address, nonce, payload⟩
  refine ⟨config, packet, verifyRegistered_eq_ok_iff.1 hregistered, loadConfig_eq_ok_iff.1 hconfig, rfl, hsrc, rfl,
    haddress, rfl, nextNonce_eq_ok_iff.1 hnonce, rfl, Response.packet?_of_lookup ?_, rfl⟩
  rfl

theorem deliver_ok {application : String} {event : DeliveryEvent}
    (h : (deliver caller application event).commit s = .ok (r, t)) :
    ∃ config packet, s.config = some config ∧ caller.sender = config.relayer ∧
      s.applications.contains application = true ∧ event.rebuild = .ok packet ∧ packet.dstChain = config.localChain ∧
      packet.nonce.val = (s.lastDelivered (packet.srcChain, packet.src, application)).val + 1 ∧
      r.messages = [⟨.call application (.receiver (.receive event)) [], none⟩] ∧ r.packet? = none ∧
      t = { s with inbound := s.inbound.insert (packet.srcChain, packet.src, application) packet.nonce } := by
  simp only [deliver, commit_look_bind, commit_check_bind, commit_require_bind, commit_modify_bind,
    commit_pure_eq_ok_iff] at h
  obtain ⟨config, hconfig, hsender, account, haccount, _, hregistered, packet, hpacket, hchain, expected, hexpected,
    hnonce, rfl, rfl⟩ := h
  cases Account.validate_ok haccount
  exact ⟨config, packet, loadConfig_eq_ok_iff.1 hconfig, hsender, verifyRegistered_eq_ok_iff.1 hregistered, hpacket,
    hchain, hnonce ▸ nextNonce_eq_ok_iff.1 hexpected, rfl, rfl, rfl⟩

/-! ## Calls that land -/

/-- **A registered application sends, as long as its path has a number left.** -/
theorem send_lands (caller : Caller) (payload : Octets) {config : Config} {dstChain : ChainId} {dst src : WireAddress}
    {next : Nonce} (registered : s.applications.contains caller.sender = true) (configured : s.config = some config)
    (source : caller.sender.wire = .ok src)
    (numbered : next.val = (s.lastSent (dstChain, caller.sender, dst)).val + 1) :
    ∃ r, (send caller dstChain dst.octets payload).commit s =
        .ok (r, { s with outbound := s.outbound.insert (dstChain, caller.sender, dst) next }) ∧
      r.messages = [] ∧ r.packet? = some ⟨config.localChain, src, dstChain, dst, next, payload⟩ := by
  obtain ⟨r, t, hland⟩ : ∃ r t, (send caller dstChain dst.octets payload).commit s = .ok (r, t) := by
    simp only [send, commit_look_bind, commit_check_bind, commit_modify_bind, commit_pure_eq_ok_iff]
    exact ⟨_, _, (), verifyRegistered_eq_ok_iff.2 registered, config, loadConfig_eq_ok_iff.2 configured, dst,
      WireAddress.ofOctets_octets dst, next, nextNonce_eq_ok_iff.2 numbered, src, source, rfl, rfl⟩
  obtain ⟨config', ⟨_, src', _, dst', next', _⟩, -, hconfig, rfl, hsrc, rfl, hdst, rfl, hnext, hsilent, hshown, rfl⟩ :=
    send_ok hland
  cases configured.symm.trans hconfig
  cases source.symm.trans hsrc
  cases (WireAddress.ofOctets_octets dst).symm.trans hdst
  cases Fin.ext (hnext.trans numbered.symm)
  exact ⟨r, hland, hsilent, hshown⟩

/-- **The relayer delivers the next packet of a path to a registered application.** -/
theorem deliver_lands (caller : Caller) {config : Config} {application : Account} {event : DeliveryEvent}
    {packet : Packet} (configured : s.config = some config) (sender : caller.sender = config.relayer)
    (accepted : Account.validate application = .ok application)
    (registered : s.applications.contains application = true) (rebuilt : event.rebuild = .ok packet)
    (chain : packet.dstChain = config.localChain)
    (numbered : packet.nonce.val = (s.lastDelivered (packet.srcChain, packet.src, application)).val + 1) :
    ∃ r t, (deliver caller application event).commit s = .ok (r, t) := by
  simp only [deliver, commit_look_bind, commit_check_bind, commit_require_bind, commit_modify_bind,
    commit_pure_eq_ok_iff]
  exact ⟨_, _, config, loadConfig_eq_ok_iff.2 configured, sender, application, accepted, (),
    verifyRegistered_eq_ok_iff.2 registered, packet, rebuilt, chain, packet.nonce, nextNonce_eq_ok_iff.2 numbered, rfl,
    rfl, rfl⟩

end Endpoint

end VestingBridge
