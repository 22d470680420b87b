import VestingBridge.Proofs.Bridge.Value
import VestingBridge.Proofs.Table
/-!
# Proofs.Bridge.Conservation — what a bridge holds is what it was given and has not paid

The ledger of a history is read off its log: the deposits in the order in which they came, and the payments from each
stream.  `Ledger` ties it to the streams in the storage; every event that lands keeps it (`Ledger.step`), whatever the
clock says and whatever holding a type is registered for by then.
-/
namespace VestingBridge.Bridge

open Handler

variable {self : Account} {env : Env} {s t : Store} {r : Response} {event : Event} {log : List Landing}

/-- **The deposits of a log**, in order. -/
def deposits (log : List Landing) : List Deposit := log.filterMap (·.event.deposit?)

/-- **The payments from a stream**, in order. -/
def paymentsFrom (id : StreamId) (log : List Landing) : List Payment :=
  (log.filter (·.event.drawsOn? = some id)).flatMap Landing.payments

/-- What was deposited in a holding. -/
def deposited (holding : Holding) (log : List Landing) : Nat :=
  (((deposits log).filter (·.holding = holding)).map (·.amount.val)).sum

/-- What was paid out of a holding, from whatever stream. -/
def paid (holding : Holding) (log : List Landing) : Nat :=
  (((log.flatMap Landing.payments).filter (·.holding = holding)).map (·.amount.val)).sum

/-- What the streams in a holding still hold. -/
def Store.held (s : Store) (holding : Holding) : Nat :=
  s.streams.total fun _ stream => if stream.asset = holding then stream.deposit.val - stream.withdrawn.val else 0

/-! ## One more entry in the log -/

theorem deposits_append (log : List Landing) (l : Landing) :
    deposits (log ++ [l]) = deposits log ++ l.event.deposit?.toList := by
  rw [deposits, List.filterMap_append, deposits]
  cases h : l.event.deposit? <;> simp [h]

theorem paymentsFrom_append (id : StreamId) (log : List Landing) (l : Landing) :
    paymentsFrom id (log ++ [l]) = paymentsFrom id log ++ if l.event.drawsOn? = some id then l.payments else [] := by
  rw [paymentsFrom, List.filter_append, List.flatMap_append, paymentsFrom]
  by_cases h : l.event.drawsOn? = some id <;> simp [h]

theorem deposited_append (holding : Holding) (log : List Landing) (l : Landing) :
    deposited holding (log ++ [l]) = deposited holding log +
      l.event.deposit?.elim 0 fun d => if d.holding = holding then d.amount.val else 0 := by
  rw [deposited, deposits_append, List.filter_append, List.map_append, List.sum_append, deposited]
  cases h : l.event.deposit? with
  | none => simp
  | some d => by_cases hd : d.holding = holding <;> simp [hd]

theorem paid_append (holding : Holding) (log : List Landing) (l : Landing) :
    paid holding (log ++ [l]) = paid holding log +
      ((l.payments.filter (·.holding = holding)).map (·.amount.val)).sum := by
  simp [paid]

/-- **The ledger of a log agrees with the streams.** -/
structure Ledger (s : Store) (log : List Landing) : Prop where
  numbered : (deposits log).length = s.nextStreamId.val
  below : ∀ id stream, s.streams.get? id = some stream → id.val < s.nextStreamId.val
  funded : ∀ id stream, s.streams.get? id = some stream →
    (deposits log)[id.val]? = some ⟨stream.asset, stream.deposit⟩
  within : ∀ id stream, s.streams.get? id = some stream → stream.withdrawn.val ≤ stream.deposit.val
  drawn : ∀ id stream, s.streams.get? id = some stream →
    ((paymentsFrom id log).map (·.amount.val)).sum = stream.withdrawn.val
  addressed : ∀ id stream, s.streams.get? id = some stream → ∀ p ∈ paymentsFrom id log,
    p.recipient = stream.recipient ∧ p.holding = stream.asset
  undrawn : ∀ id, s.streams.get? id = none → paymentsFrom id log = []
  balanced : ∀ holding, deposited holding log = paid holding log + s.held holding

theorem Ledger.empty : Ledger .empty [] where
  numbered := rfl
  below := nofun
  funded := nofun
  within := nofun
  drawn := nofun
  addressed := nofun
  undrawn _ _ := rfl
  balanced _ := rfl

theorem Ledger.aside (h : Ledger s log) {l : Landing} (deposit : l.event.deposit? = none)
    (draws : l.event.drawsOn? = none) (unpaid : l.payments = []) (streams : t.streams = s.streams)
    (next : t.nextStreamId = s.nextStreamId) : Ledger t (log ++ [l]) := by
  have hdeposits : deposits (log ++ [l]) = deposits log := by
    rw [deposits_append, deposit, Option.toList_none, List.append_nil]
  have hpayments : ∀ id, paymentsFrom id (log ++ [l]) = paymentsFrom id log := fun id => by
    rw [paymentsFrom_append, draws, if_neg nofun, List.append_nil]
  constructor
  · rw [hdeposits, next]; exact h.numbered
  · rw [streams, next]; exact h.below
  · rw [streams, hdeposits]; exact h.funded
  · rw [streams]; exact h.within
  · intro id
    rw [streams, hpayments]
    exact h.drawn id
  · intro id
    rw [streams, hpayments]
    exact h.addressed id
  · intro id
    rw [streams, hpayments]
    exact h.undrawn id
  · intro holding
    rw [deposited_append, deposit, paid_append, unpaid, Store.held, streams]
    exact h.balanced holding

theorem Ledger.fresh (h : Ledger s log) : s.streams.get? s.nextStreamId = none := by
  cases hget : s.streams.get? s.nextStreamId with
  | none => rfl
  | some other => exact absurd (h.below _ _ hget) (Nat.lt_irrefl _)

/-- What a stream still holds in a holding. -/
def leftIn (holding : Holding) (stream : Stream) : Nat :=
  if stream.asset = holding then stream.deposit.val - stream.withdrawn.val else 0

theorem held_insert {id : StreamId} {stream : Stream} (streams : t.streams = s.streams.insert id stream)
    (holding : Holding) :
    t.held holding + (s.streams.get? id).elim 0 (leftIn holding) = s.held holding + leftIn holding stream := by
  rw [Store.held, streams]
  exact Table.total_insert (fun _ => leftIn holding) s.streams id stream

/-! ## A stream is opened -/

section Opening

variable {l : Landing} {stream other : Stream} {id : StreamId}

/-- **What opens a stream** brings its deposit, pays nothing and keeps it under the next number. -/
structure Landing.Opens (l : Landing) (stream : Stream) (s t : Store) : Prop where
  deposit : l.event.deposit? = some ⟨stream.asset, stream.deposit⟩
  draws : l.event.drawsOn? = none
  unpaid : l.payments = []
  untouched : stream.withdrawn.val = 0
  streams : t.streams = s.streams.insert s.nextStreamId stream
  next : t.nextStreamId.val = s.nextStreamId.val + 1

theorem Landing.Opens.deposits_eq (ho : l.Opens stream s t) :
    deposits (log ++ [l]) = deposits log ++ [⟨stream.asset, stream.deposit⟩] := by
  rw [deposits_append, ho.deposit, Option.toList_some]

theorem Landing.Opens.paymentsFrom_eq (ho : l.Opens stream s t) :
    paymentsFrom id (log ++ [l]) = paymentsFrom id log := by
  rw [paymentsFrom_append, ho.draws, if_neg nofun, List.append_nil]

/-- What is under a number now is the new stream, or it was there before. -/
theorem Landing.Opens.cases (ho : l.Opens stream s t) (hget : t.streams.get? id = some other) :
    id = s.nextStreamId ∧ other = stream ∨ s.streams.get? id = some other := by
  rw [ho.streams, Table.get?_insert] at hget
  split at hget
  · rename_i hid
    exact .inl ⟨hid, (Option.some.inj hget).symm⟩
  · exact .inr hget

theorem Ledger.numbered_opened (h : Ledger s log) (ho : l.Opens stream s t) :
    (deposits (log ++ [l])).length = t.nextStreamId.val := by
  rw [ho.deposits_eq, ho.next, List.length_append, h.numbered]
  rfl

theorem Ledger.below_opened (h : Ledger s log) (ho : l.Opens stream s t) (hget : t.streams.get? id = some other) :
    id.val < t.nextStreamId.val := by
  rw [ho.next]
  rcases ho.cases hget with ⟨rfl, -⟩ | hold
  · exact Nat.lt_succ_self _
  · exact Nat.lt_succ_of_lt (h.below id other hold)

theorem Ledger.funded_opened (h : Ledger s log) (ho : l.Opens stream s t) (hget : t.streams.get? id = some other) :
    (deposits (log ++ [l]))[id.val]? = some ⟨other.asset, other.deposit⟩ := by
  rw [ho.deposits_eq]
  rcases ho.cases hget with ⟨rfl, rfl⟩ | hold
  · rw [← h.numbered, List.getElem?_concat_length]
  · rw [List.getElem?_append_left (by rw [h.numbered]; exact h.below id other hold)]
    exact h.funded id other hold

theorem Ledger.within_opened (h : Ledger s log) (ho : l.Opens stream s t) (hget : t.streams.get? id = some other) :
    other.withdrawn.val ≤ other.deposit.val := by
  rcases ho.cases hget with ⟨-, rfl⟩ | hold
  · rw [ho.untouched]
    exact Nat.zero_le _
  · exact h.within id other hold

theorem Ledger.drawn_opened (h : Ledger s log) (ho : l.Opens stream s t) (hget : t.streams.get? id = some other) :
    ((paymentsFrom id (log ++ [l])).map (·.amount.val)).sum = other.withdrawn.val := by
  rw [ho.paymentsFrom_eq]
  rcases ho.cases hget with ⟨rfl, rfl⟩ | hold
  · rw [h.undrawn _ h.fresh, ho.untouched]
    rfl
  · exact h.drawn id other hold

theorem Ledger.addressed_opened (h : Ledger s log) (ho : l.Opens stream s t) (hget : t.streams.get? id = some other) :
    ∀ p ∈ paymentsFrom id (log ++ [l]), p.recipient = other.recipient ∧ p.holding = other.asset := by
  rw [ho.paymentsFrom_eq]
  rcases ho.cases hget with ⟨rfl, -⟩ | hold
  · rw [h.undrawn _ h.fresh]
    exact nofun
  · exact h.addressed id other hold

theorem Ledger.undrawn_opened (h : Ledger s log) (ho : l.Opens stream s t) (hget : t.streams.get? id = none) :
    paymentsFrom id (log ++ [l]) = [] := by
  rw [ho.streams, Table.get?_insert] at hget
  split at hget
  · cases hget
  · rw [ho.paymentsFrom_eq]
    exact h.undrawn id hget

theorem Ledger.balanced_opened (h : Ledger s log) (ho : l.Opens stream s t) (holding : Holding) :
    deposited holding (log ++ [l]) = paid holding (log ++ [l]) + t.held holding := by
  have hheld := held_insert ho.streams holding
  have hbalanced := h.balanced holding
  rw [h.fresh, Option.elim_none, leftIn, ho.untouched, Nat.sub_zero] at hheld
  rw [deposited_append, ho.deposit, Option.elim_some, paid_append, ho.unpaid]
  simp only [List.filter_nil, List.map_nil, List.sum_nil]
  omega

/-- **A stream that is opened keeps the ledger.** -/
theorem Ledger.opened (h : Ledger s log) (ho : l.Opens stream s t) : Ledger t (log ++ [l]) where
  numbered := h.numbered_opened ho
  below _ _ := h.below_opened ho
  funded _ _ := h.funded_opened ho
  within _ _ := h.within_opened ho
  drawn _ _ := h.drawn_opened ho
  addressed _ _ := h.addressed_opened ho
  undrawn _ := h.undrawn_opened ho
  balanced := h.balanced_opened ho

end Opening

/-! ## A stream is drawn on -/

section Drawing

variable {l : Landing} {id other : StreamId} {stream found : Stream} {amount withdrawn : Amount} {now : Seconds}

/-- **What draws on a stream** pays its recipient what is due, and counts it as withdrawn. -/
structure Landing.Draws (l : Landing) (id : StreamId) (stream : Stream) (amount withdrawn : Amount) (now : Seconds)
    (s t : Store) : Prop where
  deposit : l.event.deposit? = none
  draws : l.event.drawsOn? = some id
  found : s.streams.get? id = some stream
  due : amount = stream.withdrawable now
  sum : withdrawn.val = stream.withdrawn.val + amount.val
  paid : l.payments = [⟨stream.asset, stream.recipient, amount⟩]
  streams : t.streams = s.streams.insert id { stream with withdrawn }
  next : t.nextStreamId = s.nextStreamId

theorem Landing.Draws.deposits_eq (hd : l.Draws id stream amount withdrawn now s t) :
    deposits (log ++ [l]) = deposits log := by
  rw [deposits_append, hd.deposit, Option.toList_none, List.append_nil]

theorem Landing.Draws.paymentsFrom_self (hd : l.Draws id stream amount withdrawn now s t) :
    paymentsFrom id (log ++ [l]) = paymentsFrom id log ++ [⟨stream.asset, stream.recipient, amount⟩] := by
  rw [paymentsFrom_append, if_pos hd.draws, hd.paid]

theorem Landing.Draws.paymentsFrom_of_ne (hd : l.Draws id stream amount withdrawn now s t) (hne : other ≠ id) :
    paymentsFrom other (log ++ [l]) = paymentsFrom other log := by
  rw [paymentsFrom_append, hd.draws, if_neg fun heq => hne (Option.some.inj heq).symm, List.append_nil]

/-- What is under a number now is the stream that was drawn on, or it was there before. -/
theorem Landing.Draws.cases (hd : l.Draws id stream amount withdrawn now s t)
    (hget : t.streams.get? other = some found) :
    other = id ∧ found = { stream with withdrawn } ∨ other ≠ id ∧ s.streams.get? other = some found := by
  rw [hd.streams, Table.get?_insert] at hget
  split at hget
  · rename_i heq
    exact .inl ⟨heq, (Option.some.inj hget).symm⟩
  · rename_i hne
    exact .inr ⟨hne, hget⟩

theorem Ledger.below_drawn (h : Ledger s log) (hd : l.Draws id stream amount withdrawn now s t)
    (hget : t.streams.get? other = some found) : other.val < t.nextStreamId.val := by
  rw [hd.next]
  rcases hd.cases hget with ⟨rfl, -⟩ | ⟨-, hold⟩
  · exact h.below other stream hd.found
  · exact h.below other found hold

theorem Ledger.funded_drawn (h : Ledger s log) (hd : l.Draws id stream amount withdrawn now s t)
    (hget : t.streams.get? other = some found) :
    (deposits (log ++ [l]))[other.val]? = some ⟨found.asset, found.deposit⟩ := by
  rw [hd.deposits_eq]
  rcases hd.cases hget with ⟨rfl, rfl⟩ | ⟨-, hold⟩
  · exact h.funded other stream hd.found
  · exact h.funded other found hold

/-- No more is withdrawn than the deposit. -/
theorem Ledger.withdrawn_le (h : Ledger s log) (hd : l.Draws id stream amount withdrawn now s t) :
    withdrawn.val ≤ stream.deposit.val := by
  rw [hd.sum, hd.due]
  exact Stream.withdrawn_add_withdrawable_le (h.within id stream hd.found) now

theorem Ledger.within_drawn (h : Ledger s log) (hd : l.Draws id stream amount withdrawn now s t)
    (hget : t.streams.get? other = some found) : found.withdrawn.val ≤ found.deposit.val := by
  have hwithin := h.withdrawn_le hd
  rcases hd.cases hget with ⟨-, rfl⟩ | ⟨-, hold⟩
  · exact hwithin
  · exact h.within other found hold

theorem Ledger.drawn_drawn (h : Ledger s log) (hd : l.Draws id stream amount withdrawn now s t)
    (hget : t.streams.get? other = some found) :
    ((paymentsFrom other (log ++ [l])).map (·.amount.val)).sum = found.withdrawn.val := by
  rcases hd.cases hget with ⟨rfl, rfl⟩ | ⟨hne, hold⟩
  · rw [hd.paymentsFrom_self, List.map_append, List.sum_append, h.drawn other stream hd.found, hd.sum]
    rfl
  · rw [hd.paymentsFrom_of_ne hne]
    exact h.drawn other found hold

theorem Ledger.addressed_drawn (h : Ledger s log) (hd : l.Draws id stream amount withdrawn now s t)
    (hget : t.streams.get? other = some found) :
    ∀ p ∈ paymentsFrom other (log ++ [l]), p.recipient = found.recipient ∧ p.holding = found.asset := by
  intro p hp
  rcases hd.cases hget with ⟨rfl, rfl⟩ | ⟨hne, hold⟩
  · rw [hd.paymentsFrom_self] at hp
    rcases List.mem_append.1 hp with hp | hp
    · exact h.addressed other stream hd.found p hp
    · cases List.mem_singleton.1 hp
      exact ⟨rfl, rfl⟩
  · rw [hd.paymentsFrom_of_ne hne] at hp
    exact h.addressed other found hold p hp

theorem Ledger.undrawn_drawn (h : Ledger s log) (hd : l.Draws id stream amount withdrawn now s t)
    (hget : t.streams.get? other = none) : paymentsFrom other (log ++ [l]) = [] := by
  rw [hd.streams, Table.get?_insert] at hget
  split at hget
  · cases hget
  · rename_i hne
    rw [hd.paymentsFrom_of_ne hne]
    exact h.undrawn other hget

theorem Ledger.balanced_drawn (h : Ledger s log) (hd : l.Draws id stream amount withdrawn now s t)
    (holding : Holding) : deposited holding (log ++ [l]) = paid holding (log ++ [l]) + t.held holding := by
  have hwithin := h.withdrawn_le hd
  have hsum := hd.sum
  have hheld := held_insert hd.streams holding
  have hbalanced := h.balanced holding
  rw [hd.found, Option.elim_some] at hheld
  rw [deposited_append, hd.deposit, Option.elim_none, paid_append, hd.paid]
  by_cases ha : stream.asset = holding
  · simp only [leftIn, ha, if_true, decide_true, List.filter_cons_of_pos, List.filter_nil, List.map_cons,
      List.map_nil, List.sum_cons, List.sum_nil] at hheld ⊢
    omega
  · simp only [leftIn, ha, if_false, decide_false, Bool.false_eq_true, not_false_eq_true,
      List.filter_cons_of_neg, List.filter_nil, List.map_nil, List.sum_nil] at hheld ⊢
    omega

/-- **A stream that is drawn on keeps the ledger.** -/
theorem Ledger.drawn_on (h : Ledger s log) (hd : l.Draws id stream amount withdrawn now s t) :
    Ledger t (log ++ [l]) where
  numbered := by rw [hd.deposits_eq, hd.next, h.numbered]
  below _ _ := h.below_drawn hd
  funded _ _ := h.funded_drawn hd
  within _ _ := h.within_drawn hd
  drawn _ _ := h.drawn_drawn hd
  addressed _ _ := h.addressed_drawn hd
  undrawn _ := h.undrawn_drawn hd
  balanced := h.balanced_drawn hd

end Drawing

/-- **Every event that lands keeps the ledger.** -/
theorem Ledger.step (h : Ledger s log) {now : Seconds} (hblank : event.isCreate = true → s.IsBlank)
    (hland : (event.run ⟨self, now⟩).commit s = .ok (r, t)) : Ledger t (log ++ [⟨now, event, r⟩]) := by
  cases dealing_of_landed hblank hland with
  | aside deposit draws unpaid streams next => exact h.aside deposit draws unpaid streams next
  | opened stream deposit draws silent isOpened streams next =>
    have unpaid : (⟨now, event, r⟩ : Landing).payments = [] := by
      rw [Landing.payments, silent]
      rfl
    have untouched : stream.withdrawn.val = 0 := by
      rw [isOpened.untouched]
      rfl
    exact h.opened ⟨deposit, draws, unpaid, untouched, streams, next⟩
  | drawn id stream amount withdrawn deposit draws found due sum paid streams next =>
    have paid : (⟨now, event, r⟩ : Landing).payments = [⟨stream.asset, stream.recipient, amount⟩] := by
      rw [Landing.payments, paid]
      simp [Stream.payout]
    exact h.drawn_on ⟨deposit, draws, found, due, sum, paid, streams, next⟩

/-- **The ledger of every history agrees with the streams in its storage.** -/
theorem History.ledger (h : History self log s) : Ledger s log := by
  induction h with
  | start => exact .empty
  | land hrun hlands ih =>
    obtain ⟨honce, hland⟩ := hlands
    exact ih.step (fun hcreate => (History.isBlank hrun (honce hcreate)).1) hland
  | pass _ hrefuses ih =>
    cases hrefuses
    exact ih

/-- **Funds are conserved.**  What was paid from a stream is what was withdrawn of it, never more than its deposit, and
went to its recipient out of the holding in which the deposit came; in each holding, the deposits are the payments and
what the streams still hold; and no other value leaves than the funds of a caller that are on their way to the
endpoint. -/
theorem funds_conserved (h : History self log s) :
    (∀ id stream, s.streams.get? id = some stream →
      ((paymentsFrom id log).map (·.amount.val)).sum = stream.withdrawn.val ∧
      stream.withdrawn.val ≤ stream.deposit.val ∧
      (deposits log)[id.val]? = some ⟨stream.asset, stream.deposit⟩ ∧
      ∀ p ∈ paymentsFrom id log, p.recipient = stream.recipient ∧ p.holding = stream.asset) ∧
    (∀ id, s.streams.get? id = none → paymentsFrom id log = []) ∧
    (∀ holding, deposited holding log = paid holding log + s.held holding) ∧
    ∀ config, s.config = some config → ∀ l ∈ log, Sends config.endpoint l.event l.response.messages := by
  have hledger := h.ledger
  refine ⟨fun id stream hget => ?_, hledger.undrawn, hledger.balanced, fun config hconfig => h.sends hconfig⟩
  exact ⟨hledger.drawn id stream hget, hledger.within id stream hget, hledger.funded id stream hget,
    hledger.addressed id stream hget⟩

/-- A stream that is drawn on at two times, after its type was registered for another holding.  In between the clock
goes back and nothing is released. -/
def reregistered : List (Seconds × Event) := [
  (10, .create ⟨"owner", []⟩ ⟨"endpoint", 108⟩),
  (10, .execute ⟨"owner", []⟩ (.appoint "admin" "authority")),
  (10, .execute ⟨"authority", []⟩ (.registerAsset "owner::Coins::MFL" (.native "umfl"))),
  (10, .execute ⟨"alice", [⟨"umfl", 1000⟩]⟩ (.createStream ⟨"bob", "owner::Coins::MFL", 100, 200⟩)),
  (10, .execute ⟨"authority", []⟩ (.registerAsset "owner::Coins::MFL" (.native "other"))),
  (150, .execute ⟨"bob", []⟩ (.withdraw StreamId.zero)),
  (120, .execute ⟨"bob", []⟩ (.withdraw StreamId.zero)),
  (175, .execute ⟨"bob", []⟩ (.withdraw StreamId.zero))]

theorem funds_conserved_reregistered :
    ∃ log s, History "bridge" log s ∧ paid (.native "umfl") log = 750 ∧
      deposited (.native "umfl") log = paid (.native "umfl") log + s.held (.native "umfl") := by
  have hpaid : ((play "bridge" .empty reregistered).map fun p => paid (.native "umfl") p.1) = some 750 := by
    decide +kernel
  obtain ⟨⟨log, s⟩, hplay, hpaid⟩ := Option.map_eq_some_iff.1 hpaid
  have h : History "bridge" log s := run_iff_play.2 ⟨reregistered, hplay⟩
  exact ⟨log, s, h, hpaid, (funds_conserved h).2.2.1 _⟩

end VestingBridge.Bridge
