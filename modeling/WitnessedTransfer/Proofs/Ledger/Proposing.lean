import WitnessedTransfer.Proofs.Ledger.Balancing
import WitnessedTransfer.Proofs.Step.Undoing
import WitnessedTransfer.Proofs.Wallet.Covering

/-! What a giver proposes, its witness takes. As long as nothing is rounded and no name is drawn twice, the
acceptance that a giver makes of a request is balanced, whatever its wallet is like and however much of it is
reserved. So a witness that has taken down the same transfer and has the notes free in its ledger notarizes it,
if the getter can be reached. -/
namespace WitnessedTransfer

/-- The sums that paying an amount takes are held by some decimal: those of selecting, of what
is free, and of what is left over. -/
structure Holding.PaysExactly (h : Holding) (amount : Decimal) (tx : TransferId) : Prop where
  selects : h.SelectsExactly amount tx
  available : Note.Exact h.free
  inputs : ∀ inputs h', h.Selects amount tx inputs h' → Note.Exact inputs
  change : ∀ inputs h', h.Selects amount tx inputs h' → Decimal.Held (Note.worth inputs - amount.value)

/-- A request is open and in time, its parties are known, and the free notes are worth its amount. -/
structure Record.Payable (r : Record) (wallet : Holding) (now : Instant) : Prop where
  isOpen : Step.isRequested r = true
  getter : ∃ getter, r.transfer.getter = some getter
  witness : ∃ witness, r.transfer.witness = some witness
  inTime : r.transfer.timeouts.giverExpired now = false
  enough : r.transfer.amount.value ≤ Note.worth wallet.free

structure Acceptance.Proposes (acceptance : Acceptance) (r : Record) (giver : Did) (wallet : Holding) : Prop where
  toGetter : r.transfer.getter = some acceptance.request.getter
  named : acceptance.request.giver = some giver
  amount : acceptance.request.amount = r.transfer.amount
  selected : ∃ wallet', wallet.Selects r.transfer.amount r.id acceptance.inputs wallet'
  pays : Pays r.transfer.amount acceptance.request.getter giver acceptance.inputs acceptance.outputs
  distinct : (acceptance.outputs.map Note.id).Nodup

/-- A witness is ready for what a giver proposes: the same transfer waits and is in time, the
inputs are free notes of the giver, the outputs are new. -/
structure Agent.ReadyFor (w : Agent) (acceptance : Acceptance) (giver : Did) (r r' : Record) (now : Instant) :
    Prop where
  stored : w.records.get? r.id = some r'
  waiting : r'.Waiting
  amount : r.transfer.amount ≈ r'.transfer.amount
  toGetter : r'.transfer.getter = r.transfer.getter
  fromGiver : Expects r'.transfer.giver giver
  inTime : r'.transfer.timeouts.giverExpired now = false
  held : ∀ note ∈ acceptance.inputs, ∃ e ∈ w.ledger.entries, e.id = note.id ∧ e.value = note.value.value ∧
    e.owner = giver ∧ e.reservedBy = none
  unknown : ∀ note ∈ acceptance.outputs, note.id ∉ w.ledger.ids

/-! ### What is made of the notes -/

/-- The payment and the change are worth what they are made of. -/
theorem Pays.balanced {amount : Decimal} {getter giver : Did} {inputs outputs : List Note}
    (pays : Pays amount getter giver inputs outputs) (some_amount : 0 < amount) (other : getter ≠ giver)
    (exact : Note.Exact inputs) (change : Decimal.Held (Note.worth inputs - amount.value))
    (enough : amount.value ≤ Note.worth inputs) :
    (∀ note ∈ outputs, 0 < note.value.value) ∧
    (∃ valueIn valueOut, Note.total inputs = .ok valueIn ∧ Note.total outputs = .ok valueOut ∧
      valueIn ≈ valueOut) ∧
    (∀ note ∈ outputs, note.owner = getter ∨ note.owner = giver) ∧
    Note.total (Note.ownedBy getter outputs) = .ok amount := by
  have positive : 0 < amount.value := Decimal.value_zero.symm.trans_lt (Decimal.lt_iff_value.mp some_amount)
  obtain ⟨value, left, sum, rest, payment, kept, rfl, made⟩ := pays
  have whole : value.value = Note.worth inputs := by
    obtain ⟨value', sum', same⟩ := Note.total_of_exact exact
    cases sum.symm.trans sum'
    exact same
  have remains : left.value = Note.worth inputs - amount.value := by
    obtain ⟨d, worth⟩ := change
    rw [← whole] at worth ⊢
    obtain ⟨left', rest', same⟩ := Decimal.sub_of_value worth
    cases rest.symm.trans rest'
    exact same.trans worth
  rcases made with ⟨none_left, rfl⟩ | ⟨some_left, name, rfl⟩
  · rw [Decimal.le_iff_value, Decimal.value_zero, remains] at none_left
    have same : value.value = amount.value := by linarith
    refine ⟨by simpa using positive, ⟨value, amount, sum, Note.total_singleton _, ?_⟩, by simp, ?_⟩
    · exact Decimal.equiv_iff_value.mpr same
    · simpa [Note.ownedBy] using Note.total_singleton _
  · rw [Decimal.le_iff_value, Decimal.value_zero, not_le] at some_left
    obtain ⟨both, added, same⟩ := Decimal.add_of_value (a := amount) (b := left) (c := value)
      (by rw [whole, remains]; ring)
    refine ⟨by simp [positive, some_left], ⟨value, both, sum, (Note.total_pair _ _).trans added, ?_⟩, by simp, ?_⟩
    · exact Decimal.equiv_iff_value.mpr same.symm
    · simpa [Note.ownedBy, other.symm] using Note.total_singleton _

namespace Holding

variable {h h' : Holding} {amount : Decimal} {tx : TransferId} {inputs : List Note}

theorem Selects.sublist (selects : h.Selects amount tx inputs h') : inputs.Sublist h.notes := by
  rw [selects.all, ← selects.notes]
  exact List.filter_sublist.map _

end Holding

namespace Step

open Holding Change

variable {around : Surroundings} {s : Scene} {r : Record} {acceptance : Acceptance} {giver : Did}

/-- What a giver proposes passes the checks of a witness. -/
theorem checkConservation_proposed {wallet : Holding} (proposes : acceptance.Proposes r giver wallet)
    (distinct : wallet.ids.Nodup) (positive : ∀ note ∈ wallet.notes, 0 < note.value)
    (some_amount : 0 < r.transfer.amount) (other : acceptance.request.getter ≠ giver)
    (exact : wallet.PaysExactly r.transfer.amount r.id) :
    checkConservation r.id r.transfer.amount acceptance.request.getter giver acceptance.inputs
      acceptance.outputs = .ok () := by
  obtain ⟨wallet', selects⟩ := proposes.selected
  obtain ⟨worthy, balanced, owned, paid⟩ := proposes.pays.balanced some_amount other (exact.inputs _ _ selects)
    (exact.change _ _ selects) selects.enough
  refine checkConservation_iff.mpr ⟨⟨Note.check_iff.mpr ⟨fun note input => ?_, ?_⟩,
    Note.check_iff.mpr ⟨worthy, proposes.distinct⟩⟩, ⟨balanced, owned⟩, _, paid, Decimal.equiv_refl _⟩
  · rw [← Decimal.value_zero, ← Decimal.lt_iff_value]
    exact positive note (selects.sublist.subset input)
  · refine (selects.sublist.map Note.id).nodup ?_
    rwa [notes, List.map_map]

/-! ### Proposing -/

theorem verifyRequest_payable {β : Type} {f : Unit → Step β} {post : Except Fault β → Scene → Prop}
    (exact : Note.Exact s.agent.wallet.free)
    (go : r.Payable s.agent.wallet (around.instant s.looked) → (f ()).Ensures around s.look post)
    (stop : ∀ fault s', s'.sent = s.sent → ¬r.Payable s.agent.wallet (around.instant s.looked) →
      post (.error fault) s') :
    (verifyRequest r >>= f).Ensures around s post := by
  obtain ⟨available, sum, worth⟩ := Note.total_of_exact exact
  refine ensures_bind.mpr (guard_then (fun closed => ?_) fun isOpen => ?_)
  · exact stop _ _ rfl fun payable => by simp [payable.isOpen] at closed
  refine require_or_missing (fun getter toGetter => ?_) fun missing => stop _ _ rfl fun payable => ?noGetter
  case noGetter =>
    obtain ⟨getter, toGetter⟩ := payable.getter
    exact nomatch missing.symm.trans toGetter
  refine require_or_missing (fun witness byWitness => ?_) fun missing => stop _ _ rfl fun payable => ?noWitness
  case noWitness =>
    obtain ⟨witness, byWitness⟩ := payable.witness
    exact nomatch missing.symm.trans byWitness
  refine now_then (guard_then (fun late => ?_) fun inTime => agent_then (orOverflow_passed sum ?_))
  · exact stop _ _ rfl fun payable => nomatch late.symm.trans payable.inTime
  split
  next less =>
    rw [Decimal.lt_iff_value, worth] at less
    exact stop _ _ rfl fun payable => absurd payable.enough (not_le.mpr less)
  next enough =>
    rw [Decimal.lt_iff_value, worth, not_lt] at enough
    exact go ⟨by simpa using isOpen, ⟨getter, toGetter⟩, ⟨witness, byWitness⟩, by simpa using inTime, enough⟩

/-- Where the sums are known the notes are made, and bear different names if no name is drawn twice. -/
theorem outputsFor_made {amount value change : Decimal} {getter : Did} {inputs : List Note}
    (sum : Note.total inputs = .ok value) (rest : value.sub amount = .ok change)
    (fresh : Function.Injective around.fresh) :
    (outputsFor amount getter giver inputs).Ensures around s fun result s' => s.Still s' ∧ ∃ outputs,
      result = .ok outputs ∧ Pays amount getter giver inputs outputs ∧ (outputs.map Note.id).Nodup := by
  refine total_passed sum (orOverflow_passed rest (newNoteId_then ?_))
  split
  next none_left =>
    refine ensures_pure _ ⟨Scene.still_draw s, _, rfl, ?_, List.nodup_singleton _⟩
    exact ⟨value, change, sum, rest, _, _, rfl, .inl ⟨none_left, rfl⟩⟩
  next left =>
    refine newNoteId_then (ensures_pure _ ⟨(Scene.still_draw s).trans (Scene.still_draw _), _, rfl, ?_, ?_⟩)
    · exact ⟨value, change, sum, rest, _, _, rfl, .inr ⟨left, _, rfl⟩⟩
    · simp [Scene.draw, fresh.eq_iff]

variable {timeouts : Option Timeouts}

/-- As long as the sums can be held, just the requests that can be paid are, and what is sent is a proposal. -/
theorem commitNotes_proposes (distinct : s.agent.wallet.ids.Nodup)
    (positive : ∀ note ∈ s.agent.wallet.notes, 0 < note.value) (some_amount : 0 < r.transfer.amount)
    (exact : s.agent.wallet.PaysExactly r.transfer.amount r.id) (fresh : Function.Injective around.fresh) :
    (commitNotes r timeouts).Ensures around s fun _ s' =>
      ¬r.Payable s.agent.wallet (around.instant s.looked) ∧ s'.sent = s.sent ∨
      r.Payable s.agent.wallet (around.instant s.looked) ∧ ∃ witness acceptance,
        r.transfer.witness = some witness ∧ acceptance.Proposes r s.agent.did s.agent.wallet ∧
        s'.sent = s.sent ++ [s.agent.dispatch around witness ⟨r.id, .requestAccepted acceptance⟩ none] := by
  unfold commitNotes
  refine verifyRequest_payable exact.available (fun payable => me_then ?_) fun _ _ unsent unpayable =>
    .inl ⟨unpayable, unsent⟩
  obtain ⟨getter, toGetter⟩ := payable.getter
  obtain ⟨witness, byWitness⟩ := payable.witness
  refine require_passed toGetter (require_passed byWitness ?_)
  obtain ⟨inputs, wallet, makes, selects⟩ : ∃ inputs wallet,
      (select r.transfer.amount r.id).Makes s.agent.wallet inputs wallet ∧
        s.agent.wallet.Selects r.transfer.amount r.id inputs wallet := by
    rcases select_settled distinct positive some_amount exact.selects with ⟨-, inputs, made, selects⟩ | ⟨short, -⟩
    · exact ⟨inputs, _, Prod.ext made rfl, selects⟩
    · have reserved : 0 ≤ Note.worth (s.agent.wallet.reservedFor r.id) := Note.worth_nonneg fun note mem =>
        positive note ((List.filter_sublist.map _).subset mem)
      rw [worth_usable] at short
      linarith [payable.enough]
  obtain ⟨value, sum, worth⟩ := Note.total_of_exact (exact.inputs _ _ selects)
  obtain ⟨d, left⟩ := exact.change _ _ selects
  rw [← worth] at left
  obtain ⟨change, rest, -⟩ := Decimal.sub_of_value left
  refine changeWallet_passed (attempt_iff.mpr ⟨_, makes, rfl⟩) ((outputsFor_made sum rest fresh).andThen ?_ ?_)
  · rintro outputs s₁ ⟨still, _, ⟨⟩, pays, different⟩
    obtain ⟨_, drawn, looked, _⟩ := s₁
    obtain ⟨rfl, rfl, -, -⟩ := still
    have sends {s' : Scene} (deadlines : Timeouts)
        (sent : s'.sent = s.sent ++ [] ++ [s.agent.dispatch around witness ⟨r.id, .requestAccepted
          (r.acceptance s.agent.did getter witness deadlines inputs outputs)⟩ none]) : ∃ witness acceptance,
        r.transfer.witness = some witness ∧ acceptance.Proposes r s.agent.did s.agent.wallet ∧
          s'.sent = s.sent ++ [s.agent.dispatch around witness ⟨r.id, .requestAccepted acceptance⟩ none] :=
      ⟨witness, _, byWitness, ⟨toGetter, rfl, rfl, ⟨_, selects⟩, pays, different⟩, by simpa using sent⟩
    apply post_then
    cases around.obstacle witness with
    | some missed => exact releaseWallet_then (ensures_refuse _ (.inr ⟨payable, sends _ rfl⟩))
    | none => exact transition_silent.mono fun _ _ ⟨unsent, _⟩ => .inr ⟨payable, sends _ unsent⟩
  · rintro fault s₁ ⟨-, _, ⟨⟩, -⟩

end Step

/-! ### Taking what is proposed -/

/-- What a witness is ready for is valid, if it passes the checks. -/
theorem Agent.ReadyFor.valid {w : Agent} {acceptance : Acceptance} {giver : Did} {r r' : Record} {now : Instant}
    {wallet : Holding} (ready : w.ReadyFor acceptance giver r r' now) (proposes : acceptance.Proposes r giver wallet)
    (conserved : Step.checkConservation r.id r.transfer.amount acceptance.request.getter giver acceptance.inputs
      acceptance.outputs = .ok ()) : acceptance.Valid giver r' w.ledger now := by
  obtain ⟨⟨inputs, outputs⟩, ⟨totals, owned⟩, paid, share, enough⟩ := Step.checkConservation_iff.mp conserved
  exact {
    fromGiver := ready.fromGiver
    named := proposes.named ▸ expects_some.mpr rfl
    getter := ready.toGetter.trans proposes.toGetter
    amount := proposes.amount ▸ ready.amount
    inTime := ready.inTime
    inputs := Note.check_iff.mp inputs
    outputs := Note.check_iff.mp outputs
    totals
    owned
    paid := ⟨paid, share, Decimal.equiv_trans enough ready.amount⟩
    unknown := ready.unknown
    held := fun note input => by
      obtain ⟨e, mem, named, value, owner, free⟩ := ready.held note input
      exact ⟨e, mem, named, value, owner, .inl free⟩ }

/-- What is valid is passed on; where the message is lost nothing is reserved for the transfer any more. -/
theorem Step.passesOn_outcome {around : Surroundings} {s s' : Scene} {r : Record} {sender : Did}
    {acceptance : Acceptance} {result : Except Fault Record} (distinct : s.agent.ledger.ids.Nodup)
    (valid : acceptance.Valid sender r s.agent.ledger (around.instant s.looked))
    (passed : Step.PassesOn around s r sender acceptance result s') :
    (around.obstacle acceptance.request.getter = none → ∃ now, result = .ok (r.notarized sender acceptance now) ∧
      s'.agent = { s.agent.wrote (r.notarized sender acceptance now) with
        ledger := s.agent.ledger.promised r.id acceptance.inputs }) ∧
    (∀ failure, around.obstacle acceptance.request.getter = some failure →
      result = .error (.failure (.delivery failure)) ∧ s'.agent = { s.agent with ledger := s'.agent.ledger } ∧
      s'.agent.ledger.held = (s.agent.ledger.release r.id).held) := by
  obtain ⟨-, passed⟩ := passed
  refine ⟨fun reached => ?_, fun failure blocked => ?_⟩
  · rwa [reached] at passed
  · rw [blocked] at passed
    obtain ⟨lost, left⟩ := passed
    refine ⟨lost, by rw [left], ?_⟩
    have marked := Step.promiseNotes_marked distinct (Step.promiseNotes_of_valid distinct valid)
    rw [left]
    show (Holding.release _ _).held = _
    rw [Holding.release_held, Holding.release_held, Holding.released_of_marked marked]

/-- Just the requests that can be paid are accepted, in one message to the witness. A witness
that is ready passes it on, and if that arrives notarizes it. -/
theorem proposal_notarized (around : Surroundings) (a : Agent) (drawn looked : Nat) (r : Record)
    (timeouts : Option Timeouts) (getter : Did) (distinct : a.wallet.ids.Nodup)
    (positive : ∀ note ∈ a.wallet.notes, 0 < note.value) (some_amount : 0 < r.transfer.amount)
    (toGetter : r.transfer.getter = some getter) (other : getter ≠ a.did)
    (exact : a.wallet.PaysExactly r.transfer.amount r.id) (fresh : Function.Injective around.fresh) :
    let sent := ((Step.commitNotes r timeouts).perform around ⟨a, drawn, looked, []⟩).2.sent
    (r.Payable a.wallet (around.instant looked) ↔ ∃ witness acceptance, r.transfer.witness = some witness ∧
      sent = [a.dispatch around witness ⟨r.id, .requestAccepted acceptance⟩ none]) ∧
    ∀ d ∈ sent, ∀ acceptance, d.message.body = .requestAccepted acceptance →
      Step.checkConservation r.id r.transfer.amount getter a.did acceptance.inputs acceptance.outputs = .ok () ∧
      ∀ (config : Config) (notes : List Note) (acts : List Act) (there : Surroundings) (drawn' looked' : Nat)
        (r' : Record),
        let w := (Agent.new config notes).doesAll acts
        let taken := (Step.receiveAcceptance a.did r.id acceptance).perform there ⟨w, drawn', looked', []⟩
        w.ReadyFor acceptance a.did r r' (there.instant looked') →
        taken.2.sent = [w.dispatch there getter ⟨r.id, .requestAcceptedWitnessed
          ⟨r'.transfer.amount, a.did, w.did, acceptance.outputs⟩⟩ none] ∧
        (there.obstacle getter = none → ∃ now, taken.1 = .ok (r'.notarized a.did acceptance now) ∧
          taken.2.agent = { w.wrote (r'.notarized a.did acceptance now) with
            ledger := w.ledger.promised r.id acceptance.inputs }) ∧
        (∀ failure, there.obstacle getter = some failure → taken.1 = .error (.failure (.delivery failure)) ∧
          taken.2.agent = { w with ledger := taken.2.agent.ledger } ∧
          taken.2.agent.ledger.held = (w.ledger.release r.id).held) ∧
        ((∀ id, .purge id ∉ acts) → w.ledger.release r.id = w.ledger) := by
  intro sent
  have proposed : ¬r.Payable a.wallet (around.instant looked) ∧ sent = [] ∨
      r.Payable a.wallet (around.instant looked) ∧ ∃ witness acceptance, r.transfer.witness = some witness ∧
        acceptance.Proposes r a.did a.wallet ∧
        sent = [a.dispatch around witness ⟨r.id, .requestAccepted acceptance⟩ none] :=
    Step.ensures_perform (Step.commitNotes_proposes (s := ⟨a, drawn, looked, []⟩) distinct positive some_amount
      exact fresh)
  refine ⟨⟨fun payable => ?_, ?_⟩, fun d mem acceptance body => ?_⟩
  · rcases proposed with ⟨unpayable, -⟩ | ⟨-, witness, acceptance, byWitness, -, all⟩
    · exact absurd payable unpayable
    · exact ⟨witness, acceptance, byWitness, all⟩
  · rintro ⟨witness, acceptance, -, all⟩
    rcases proposed with ⟨-, none_sent⟩ | ⟨payable, -⟩
    · cases none_sent.symm.trans all
    · exact payable
  have proposes : acceptance.Proposes r a.did a.wallet := by
    rcases proposed with ⟨-, none_sent⟩ | ⟨-, witness, acceptance', -, proposes, all⟩
    · rw [none_sent] at mem
      cases mem
    · rw [all, List.mem_singleton] at mem
      subst mem
      cases body
      exact proposes
  obtain rfl : acceptance.request.getter = getter := Option.some.inj (proposes.toGetter.symm.trans toGetter)
  have conserved := Step.checkConservation_proposed proposes distinct positive some_amount other exact
  refine ⟨conserved, ?_⟩
  intro config notes acts there drawn' looked' r' w taken ready
  have named : r'.id = r.id := RecordStore.get?_id ready.stored
  have secured : w.ledger.ids.Nodup := by
    rw [Holding.ids_eq]
    exact (Agent.doesAll_secures config notes acts).distinct
  have valid := ready.valid proposes conserved
  have passed := Step.ensures_perform (Step.receiveAcceptance_passesOn (s := ⟨w, drawn', looked', []⟩)
    (named ▸ ready.stored) ready.waiting secured valid)
  have told := passed.1
  obtain ⟨reached, lost⟩ := Step.passesOn_outcome secured valid passed
  rw [named] at told reached lost
  refine ⟨told, reached, lost, fun unpurged => Holding.release_of_unreserved ?_⟩
  rw [← named]
  exact (Agent.Reachable.start.doesAll unpurged).unreserved (named ▸ ready.stored)
    (Record.not_notarized (by simp [ready.waiting.2]))

/-- Nothing is rounded in paying a whole number of steps of one scale from values of that scale. -/
theorem Holding.paysExactly_of_stepped {h : Holding} {amount : Decimal} {scale steps : Nat} (tx : TransferId)
    (fine : scale ≤ 28) (stepped : Note.Stepped scale (h.usable tx))
    (few : Note.worth (h.usable tx) < pow2 96 / pow10 scale) (whole : amount.value = steps / pow10 scale) :
    h.PaysExactly amount tx := by
  have reserved := stepped_reserved stepped
  have free := stepped_free stepped
  have parts := worth_usable h tx
  have selected (inputs : List Note) (h' : Holding) (selects : h.Selects amount tx inputs h') :
      Note.Stepped scale inputs ∧ Note.worth inputs ≤ Note.worth (h.usable tx) := by
    obtain ⟨taken, fewest, among, -⟩ := selects.added
    rw [List.prefix_iff_eq_take.mp fewest.first] at among
    refine ⟨fun note mem => ?_, ?_⟩
    · exact (List.mem_append.mp (among.subset mem)).elim (reserved note) (free.take _ note)
    · rw [Note.worth_perm among, Note.worth_append, parts]
      exact add_le_add_right (free.worth_take_le _) _
  refine ⟨selectsExactly_of_stepped amount tx fine stepped few, ?_, fun inputs h' selects => ?_,
    fun inputs h' selects => ?_⟩
  · exact free.exact fine ((parts ▸ le_add_of_nonneg_left reserved.worth_nonneg).trans_lt few)
  · obtain ⟨stepped, le⟩ := selected inputs h' selects
    exact stepped.exact fine (le.trans_lt few)
  · obtain ⟨stepped, le⟩ := selected inputs h' selects
    obtain ⟨all, worth⟩ := stepped.worth
    have enough := selects.enough
    have fits := le.trans_lt few
    rw [worth, div_lt_div_iff_of_pos_right (Decimal.pow10_cast_pos scale), Nat.cast_lt] at fits
    rw [worth, whole, div_le_div_iff_of_pos_right (Decimal.pow10_cast_pos scale), Nat.cast_le] at enough
    rw [worth, whole, ← sub_div, ← Nat.cast_sub enough]
    exact Decimal.held_of_steps fine ((Nat.sub_le _ _).trans_lt fits)

namespace Market

/-- Names are tallies, so that none is drawn twice. -/
def tallying : Surroundings := { Surroundings.calm with fresh := fun n => String.ofList (List.replicate (n + 1) 'i') }

theorem tallying_fresh : Function.Injective tallying.fresh := fun m n same => by
  have lengths := congrArg List.length (String.ofList_injective same)
  simpa using lengths

/-- Nobody can reach the getter. -/
def getterGone : Surroundings :=
  { Surroundings.calm with obstacle := fun did => if did = getter then some (.noRoute getter) else none }

/-- The coin of five is minted, and the getter asks for one. -/
def askedForOne : List Act := [
  told giver "mint" (.mint ⟨five, "credit", giver, [coin]⟩),
  told getter "sale" (.request { request with amount := one })]

def expected : Record :=
  .new .witness { Transfer.new ⟨"sale"⟩ .requestReceived one "credit" with
    getter := some getter
    giver := some giver
    witness := some witness
    expectedSender := some giver } witness .epoch

/-- The giver pays one with its coin and keeps the rest. -/
def proposal : Acceptance :=
  sought.acceptance giver getter witness .unset [coin] [⟨⟨"i"⟩, one, getter⟩, ⟨⟨"ii"⟩, rest, giver⟩]

theorem purse_pays : purse.wallet.PaysExactly one ⟨"sale"⟩ := by
  have only : purse.wallet.usable ⟨"sale"⟩ = [coin] := by decide
  have whole : Note.Stepped 0 (purse.wallet.usable ⟨"sale"⟩) := by
    rw [only, Note.Stepped, List.forall_mem_singleton]
    exact ⟨5, by decide +kernel⟩
  have step : one.value = (1 : Nat) / pow10 0 := by decide +kernel
  exact Holding.paysExactly_of_stepped _ (Nat.zero_le 28) whole (by decide +kernel) step

theorem proposal_sent : ∃ d ∈ ((Step.commitNotes sought none).perform tallying ⟨purse, 0, 0, []⟩).2.sent,
    ∃ acceptance, d.message.body = .requestAccepted acceptance ∧ acceptance = proposal :=
  Dispatch.exists_acceptance (by decide +kernel)

theorem ready_for_proposal : (start.doesAll askedForOne).ReadyFor proposal giver sought expected .epoch where
  stored := by decide +kernel
  waiting := ⟨rfl, rfl⟩
  amount := by decide
  toGetter := rfl
  fromGiver := expects_some.mpr rfl
  inTime := by decide
  held := by decide +kernel
  unknown := by decide +kernel

end Market

theorem proposal_notarized_sale :
    Step.checkConservation ⟨"sale"⟩ Market.one Market.getter Market.giver Market.proposal.inputs
      Market.proposal.outputs = .ok () ∧
    ∃ now, ((Step.receiveAcceptance Market.giver ⟨"sale"⟩ Market.proposal).perform .calm
      ⟨Market.start.doesAll Market.askedForOne, 0, 0, []⟩).1 =
        .ok (Market.expected.notarized Market.giver Market.proposal now) := by
  obtain ⟨-, taken⟩ := proposal_notarized Market.tallying Market.purse 0 0 Market.sought none
    Market.getter (by decide) (by decide) (by decide) rfl (by decide) Market.purse_pays
    Market.tallying_fresh
  obtain ⟨d, mem, _, body, rfl⟩ := Market.proposal_sent
  obtain ⟨conserved, taken⟩ := taken d mem _ body
  obtain ⟨-, reached, -⟩ := taken (Config.new Market.witness).asWitness [] Market.askedForOne .calm 0 0 Market.expected
    Market.ready_for_proposal
  obtain ⟨now, notarized, -⟩ := reached rfl
  exact ⟨conserved, now, notarized⟩

/-- A giver pays one from its coin. Its proposal reaches a witness that is ready, but the getter
cannot be told: the transfer waits as before. -/
theorem proposal_undelivered :
    Market.purse.wallet.ids.Nodup ∧ (∀ note ∈ Market.purse.wallet.notes, 0 < note.value) ∧
    Market.purse.wallet.PaysExactly Market.one ⟨"sale"⟩ ∧ Function.Injective Market.tallying.fresh ∧
    (∃ d ∈ ((Step.commitNotes Market.sought none).perform Market.tallying ⟨Market.purse, 0, 0, []⟩).2.sent,
      d.message.body = .requestAccepted Market.proposal) ∧
    (Market.start.doesAll Market.askedForOne).ReadyFor Market.proposal Market.giver Market.sought Market.expected
      .epoch ∧
    let taken := (Step.receiveAcceptance Market.giver ⟨"sale"⟩ Market.proposal).perform Market.getterGone
      ⟨Market.start.doesAll Market.askedForOne, 0, 0, []⟩
    taken.1 = .error (.failure (.delivery (.noRoute Market.getter))) ∧
    taken.2.agent.records.get? ⟨"sale"⟩ = some Market.expected ∧
    taken.2.agent.ledger.held = [⟨Market.coin, none⟩] := by
  obtain ⟨d, mem, _, body, rfl⟩ := Market.proposal_sent
  exact ⟨by decide, by decide, Market.purse_pays, Market.tallying_fresh, ⟨d, mem, body⟩, Market.ready_for_proposal,
    by decide +kernel⟩

end WitnessedTransfer
