import VestingBridge.Proofs.Bridge.Conservation
import VestingBridge.Proofs.Bridge.Registries
/-!
# Proofs.Bridge.Streams — the streams that a bridge keeps

Streams are numbered from zero without a gap, each is kept under its own number, and the number of the next is one that
no stream has (`Filed`).  So nothing is ever written over a stream but the stream itself with more of it withdrawn
(`Stream.Follows`).
-/
namespace VestingBridge

/-- The last number that a stream could have. -/
def StreamId.last : StreamId := ⟨0xFFFFFFFFFFFFFFFF, by decide⟩

namespace Stream

/-- **The later record is of the same stream**: nothing but the withdrawn part has changed, and that has not gone
down. -/
def Follows (later earlier : Stream) : Prop :=
  ∃ withdrawn : Amount, earlier.withdrawn.val ≤ withdrawn.val ∧ later = { earlier with withdrawn }

theorem Follows.refl (s : Stream) : s.Follows s := ⟨s.withdrawn, Nat.le_refl _, rfl⟩

theorem Follows.trans {a b c : Stream} (h : b.Follows a) (h' : c.Follows b) : c.Follows a := by
  obtain ⟨w, hw, rfl⟩ := h
  obtain ⟨w', hw', rfl⟩ := h'
  exact ⟨w', Nat.le_trans hw hw', rfl⟩

/-- **A stream as a bridge keeps it** under a number. -/
structure IsSound (stream : Stream) (id : StreamId) : Prop where
  numbered : stream.id = id
  funded : stream.deposit.val ≠ 0
  schedule : stream.start < stream.stop
  unfinished : stream.created < stream.stop
  within : stream.withdrawn.val ≤ stream.deposit.val
  normal : stream.assetType.IsNormal

end Stream

namespace Bridge

open Handler

variable {self : Account} {env : Env} {s t : Store} {r : Response} {event : Event} {log more : List Landing}
  {id : StreamId} {stream : Stream}

/-- **The streams are numbered from zero without a gap**, and each has its own number, a deposit and a schedule. -/
structure Filed (s : Store) : Prop where
  numbered : ∀ id, (∃ stream, s.streams.get? id = some stream) ↔ id.val < s.nextStreamId.val
  terms : ∀ id stream, s.streams.get? id = some stream →
    stream.id = id ∧ stream.deposit.val ≠ 0 ∧ stream.start < stream.stop ∧ stream.created < stream.stop

theorem Filed.empty : Filed .empty where
  numbered _ := by
    constructor
    · rintro ⟨_, h⟩
      cases h
    · exact fun h => absurd h (Nat.not_lt_zero _)
  terms := nofun

theorem Filed.of_same (h : Filed s) (streams : t.streams = s.streams) (next : t.nextStreamId = s.nextStreamId) :
    Filed t where
  numbered := by
    rw [streams, next]
    exact h.numbered
  terms := by
    rw [streams]
    exact h.terms

theorem Filed.fresh (h : Filed s) : s.streams.get? s.nextStreamId = none := by
  cases hget : s.streams.get? s.nextStreamId with
  | none => rfl
  | some stream => exact absurd ((h.numbered _).1 ⟨stream, hget⟩) (Nat.lt_irrefl _)

theorem Filed.opened (h : Filed s) {now : Seconds} (isOpened : stream.IsOpened s.nextStreamId now)
    (streams : t.streams = s.streams.insert s.nextStreamId stream)
    (next : t.nextStreamId.val = s.nextStreamId.val + 1) : Filed t where
  numbered id := by
    rw [streams, next, Table.get?_insert]
    by_cases hid : id = s.nextStreamId
    · rw [if_pos hid, hid]
      exact ⟨fun _ => Nat.lt_succ_self _, fun _ => ⟨stream, rfl⟩⟩
    · have hne : id.val ≠ s.nextStreamId.val := fun heq => hid (Fin.ext heq)
      rw [if_neg hid, h.numbered]
      omega
  terms id found hget := by
    rw [streams, Table.get?_insert] at hget
    split at hget
    · rename_i hid
      cases hget
      refine ⟨isOpened.numbered.trans hid.symm, isOpened.funded, isOpened.schedule, ?_⟩
      rw [isOpened.created]
      exact isOpened.unfinished
    · exact h.terms id found hget

theorem Filed.drawn (h : Filed s) {withdrawn : Amount} (found : s.streams.get? id = some stream)
    (streams : t.streams = s.streams.insert id { stream with withdrawn }) (next : t.nextStreamId = s.nextStreamId) :
    Filed t where
  numbered other := by
    rw [streams, next, ← h.numbered, Table.get?_insert]
    by_cases hid : other = id
    · rw [if_pos hid, hid]
      exact ⟨fun _ => ⟨stream, found⟩, fun _ => ⟨_, rfl⟩⟩
    · rw [if_neg hid]
  terms other later hget := by
    rw [streams, Table.get?_insert] at hget
    split at hget
    · rename_i hid
      cases hget
      exact hid ▸ h.terms id stream found
    · exact h.terms other later hget

theorem Filed.step (h : Filed s) (hblank : event.isCreate = true → s.IsBlank)
    (hland : (event.run env).commit s = .ok (r, t)) : Filed t := by
  cases dealing_of_landed hblank hland with
  | aside _ _ _ streams next => exact h.of_same streams next
  | opened stream _ _ _ isOpened streams next => exact h.opened isOpened streams next
  | drawn id stream amount withdrawn _ _ found _ _ _ streams next => exact h.drawn found streams next

theorem History.filed (h : History self log s) : Filed s := by
  induction h with
  | start => exact .empty
  | land hrun hlands ih =>
    obtain ⟨honce, hland⟩ := hlands
    exact ih.step (fun hcreate => (History.isBlank hrun (honce hcreate)).1) hland
  | pass _ hrefuses ih =>
    cases hrefuses
    exact ih

/-- **Every stream of every history is sound.** -/
theorem History.isSound (h : History self log s) (hget : s.streams.get? id = some stream) : stream.IsSound id := by
  obtain ⟨numbered, funded, schedule, unfinished⟩ := h.filed.terms id stream hget
  exact ⟨numbered, funded, schedule, unfinished, h.ledger.within id stream hget, (h.coherent.typed id stream hget).1⟩

/-- **No stream ever has the last number there is.** -/
theorem History.below_last (h : History self log s) (hget : s.streams.get? id = some stream) :
    id.val + 1 < 0x10000000000000000 := by
  have hlt := (h.filed.numbered id).1 ⟨stream, hget⟩
  have := s.nextStreamId.isLt
  omega

/-! ## What becomes of a stream -/

theorem Filed.follows (h : Filed s) (hblank : event.isCreate = true → s.IsBlank)
    (hland : (event.run env).commit s = .ok (r, t)) (hget : s.streams.get? id = some stream) :
    ∃ later, t.streams.get? id = some later ∧ later.Follows stream := by
  cases dealing_of_landed hblank hland with
  | aside _ _ _ streams _ =>
    rw [streams]
    exact ⟨stream, hget, .refl stream⟩
  | opened opened _ _ _ _ streams _ =>
    have hne : id ≠ s.nextStreamId := by
      rintro rfl
      cases h.fresh.symm.trans hget
    rw [streams, Table.get?_insert, if_neg hne]
    exact ⟨stream, hget, .refl stream⟩
  | drawn drawn found _ withdrawn _ _ hfound _ sum _ streams _ =>
    rw [streams, Table.get?_insert]
    by_cases hid : id = drawn
    · subst hid
      cases hget.symm.trans hfound
      exact ⟨_, if_pos rfl, withdrawn, by omega, rfl⟩
    · rw [if_neg hid]
      exact ⟨stream, hget, .refl stream⟩

/-- **Whatever happens after, every stream stays under its number** with nothing changed but more of it withdrawn. -/
theorem History.follows (h : History self log s) (hrun : Run self s more t) (hget : s.streams.get? id = some stream) :
    ∃ later, t.streams.get? id = some later ∧ later.Follows stream := by
  induction hrun with
  | start => exact ⟨stream, hget, .refl stream⟩
  | land hrun hlands ih =>
    obtain ⟨honce, hland⟩ := hlands
    obtain ⟨middle, hmiddle, hfollows⟩ := ih
    have hbefore := Runs.trans h hrun
    obtain ⟨later, hlater, hnext⟩ :=
      (History.filed hbefore).follows (fun hcreate => (History.isBlank hbefore (honce hcreate)).1) hland hmiddle
    exact ⟨later, hlater, hfollows.trans hnext⟩
  | pass _ hrefuses ih =>
    cases hrefuses
    exact ih

/-- **A stream that is there stays**, from whatever storage the run starts. -/
theorem Run.stream_stays (h : Run self s log t) (hget : ∃ stream, s.streams.get? id = some stream) :
    ∃ stream, t.streams.get? id = some stream := by
  induction h with
  | start => exact hget
  | land _ hlands ih =>
    obtain ⟨_, hland⟩ := hlands
    cases change_of_landed hland with
    | created | upgraded | appointed | registered | stopped | resumed | trusted | mapped | assigned | requested =>
      exact ih
    | opened | withdrawn | delivered => exact Table.exists_get?_insert _ _ ih
  | pass _ hrefuses ih =>
    cases hrefuses
    exact ih

theorem Run.absent_before (h : Run self s log t) (habsent : t.streams.get? id = none) : s.streams.get? id = none := by
  refine Option.eq_none_iff_forall_ne_some.2 fun stream hfound => ?_
  obtain ⟨later, hlater⟩ := h.stream_stays ⟨stream, hfound⟩
  cases habsent.symm.trans hlater

end Bridge

end VestingBridge
