import WitnessedTransfer.Proofs.Holding.Sums
import WitnessedTransfer.Proofs.Step.Unrefused
import WitnessedTransfer.Proofs.Wallet.Settling

/-! The end of a transfer at the giver. Its witness tells it in three messages, and two of them can change the
wallet; in whatever order they come and however often, the wallet changes once, and in the same way. -/
namespace WitnessedTransfer

/-- Of notes that are not known by name, what is known does not tell which are new. -/
theorem Note.newTo_of_unknown {known : List NoteId} {notes : List Note}
    (unknown : ∀ note ∈ notes, note.id ∉ known) : newTo known notes = newTo [] notes := by
  have beside (seen : List NoteId) (notes : List Note) (unknown : ∀ note ∈ notes, note.id ∉ known) :
      newTo (seen ++ known) notes = newTo seen notes := by
    induction notes generalizing seen with
    | nil => rfl
    | cons first rest ih =>
      obtain ⟨other, others⟩ := List.forall_mem_cons.mp unknown
      simp only [newTo, List.mem_append, or_false, other, ← List.cons_append, ih _ others]
  exact beside [] notes unknown

theorem Note.ownedBy_ownedBy (owner : Did) (notes : List Note) :
    ownedBy owner (ownedBy owner notes) = ownedBy owner notes := by
  simp [ownedBy]

namespace Holding

/-- What is not refused is done, where no sum is too large. -/
theorem Change.Unrefused.attempt_ok {α : Type} {change : Change α} (unrefused : change.Unrefused) {h : Holding}
    (countable : ¬change.Overflows h) : ∃ x h', change.attempt h = .ok (x, h') := by
  obtain ⟨x, h₁, makes⟩ := not_not.mp (unrefused.overflows_iff.not.mp countable)
  exact ⟨x, _, Change.attempt_iff.mpr ⟨h₁, makes, rfl⟩⟩

/-- The change of a transfer's notes is made as it stands when what is put in is not held by
name. -/
theorem exchange_held {h h' : Holding} {names : List NoteId} {notes : List Note}
    (unknown : ∀ note ∈ notes, note.id ∉ h.ids)
    (exchanged : (exchange names notes).attempt h = .ok ((), h')) :
    h'.held = h.held.filter (·.note.id ∉ names) ++ (Note.newTo [] notes).map (⟨·, none⟩) := by
  obtain ⟨h₁, makes, rfl⟩ := Change.attempt_iff.mp exchanged
  have apart : ∀ note ∈ notes, note.id ∉ h.ids.filter (· ∉ names) := fun note mem held =>
    unknown note mem (List.mem_of_mem_filter held)
  have held := exchange_makes makes
  rw [Note.newTo_of_unknown apart] at held
  split
  next same =>
    simp only [Holding.same, Bool.and_eq_true] at same
    have ids : h₁.ids = h.ids := by
      rw [ids_eq, ids_eq]
      exact congrArg (List.map Entry.id) (sameHeld_iff.mp same.2)
    have none_new : Note.newTo [] notes = [] := by
      refine List.eq_nil_iff_forall_not_mem.mpr fun note new => unknown note (Note.mem_newTo new).1 ?_
      rw [← ids, Holding.ids, held]
      simp only [List.map_append, List.map_map, List.mem_append, List.mem_map]
      exact .inr ⟨note, new, rfl⟩
    have length : h₁.held.length = h.held.length := by simpa [Holding.ids] using congrArg List.length ids
    rw [held, none_new] at length
    rw [none_new, List.map_nil, List.append_nil] at *
    exact (List.filter_eq_self.mpr (List.length_filter_eq_length_iff.mp length)).symm
  next => exact held

end Holding

/-! ### What the giver is told -/

/-- The receipt is about this transfer, as its giver has agreed to it. -/
structure Receipt.Closes (receipt : Receipt) (agreed : Record) (giver : Did) : Prop where
  amount : receipt.amount ≈ agreed.transfer.amount
  giver : receipt.giver = giver
  inputs : receipt.inputs = agreed.transfer.inputs
  outputs : receipt.outputs = agreed.transfer.outputs

inductive Closing where
  | nothing
  | removal
  | receipt

namespace Closing

def hear : Closing → Body → Closing
  | _, .giverReceipt _ => receipt
  | nothing, .cashRemoved _ => removal
  | known, _ => known

/-- The wallet changes with the first that tells that the notes have moved. -/
def wallet (before after : Holding) : Closing → Holding
  | nothing => before
  | removal | receipt => after

def Shown (given : Receipt) (r : Record) : Closing → Prop
  | nothing =>
    (r.state = .requestAcceptedSent ∨ r.state = .cashAcceptedReceived) ∧ r.transfer.cashSettled = false
  | removal => r.state = .cashRemoved ∧ r.transfer.cashSettled = true
  | receipt =>
    r.state = .completed ∧ r.transfer.cashSettled = true ∧ r.transfer.receipt = some given

theorem foldl_hear_receipt (bodies : List Body) : bodies.foldl hear receipt = receipt := by
  induction bodies with
  | nil => rfl
  | cons body rest ih => cases body <;> exact ih

/-- With the receipt among the messages nothing else makes a difference. -/
theorem foldl_hear_of_mem {bodies : List Body} {given : Receipt} (mem : .giverReceipt given ∈ bodies)
    (known : Closing) : bodies.foldl hear known = receipt := by
  obtain ⟨before, after, rfl⟩ := List.append_of_mem mem
  rw [List.foldl_append, List.foldl_cons]
  exact foldl_hear_receipt after

end Closing

/-- The record keeps what has been agreed, and shows how much its giver knows. -/
structure Record.Closes (agreed : Record) (given : Receipt) (known : Closing) (r : Record) : Prop where
  role : r.role = .giver
  witness : r.transfer.witness = agreed.transfer.witness
  amount : r.transfer.amount = agreed.transfer.amount
  inputs : r.transfer.inputs = agreed.transfer.inputs
  shown : known.Shown given r

theorem Record.Closes.fromWitness {agreed r : Record} {given : Receipt} {known : Closing} {witness : Did}
    (closes : agreed.Closes given known r) (named : agreed.transfer.witness = some witness) :
    Expects r.transfer.witness witness := by
  rw [closes.witness, named, expects_some]

structure Agent.Closes (agreed : Record) (given : Receipt) (before after : Holding) (known : Closing)
    (a : Agent) : Prop where
  record : ∃ r, a.records.get? agreed.id = some r ∧ agreed.Closes given known r
  wallet : a.wallet = known.wallet before after

/-! ### One message -/

namespace Step

variable {β : Type} {around : Surroundings} {s : Scene} {r : Record}

theorem settleGiver_passed {given : Receipt} {wallet : Holding} {f : Unit → Step β}
    {post : Except Fault β → Scene → Prop} (role : r.role = .giver)
    (exchanged : (Holding.exchange (given.inputs.map Note.id) (given.notesFor s.agent.did)).attempt
      s.agent.wallet = .ok ((), wallet))
    (go : (f ()).Ensures around (s.become { s.agent with wallet }) post) :
    (settleWallet r given >>= f).Ensures around s post := by
  refine ensures_bind.mpr (me_then ?_)
  simp only [role]
  exact ensures_bind.mp (changeWallet_passed exchanged go)

/-- A step for a transfer that goes through leaves nothing to settle. -/
theorem settle_passed {told : Option Did} {step : Step Record} {P : Scene → Prop}
    (h : step.Ensures around s fun result s' => (∃ r', result = .ok r') ∧ P s') :
    (settle r told step).Ensures around s fun _ s' => P s' := by
  refine ensures_tryCatch h (fun _ _ done => done.2) fun fault _ ⟨⟨_, same⟩, _⟩ => ?_
  cases same

variable {agreed : Record} {given : Receipt} {before after : Holding} {known : Closing}

/-- The record moves on, and with it the wallet as it has been changed by then. -/
theorem transition_closes (told : Closing) {next : TransferState} {change : Transfer → Transfer}
    (stored : s.agent.records.get? agreed.id = some r) (closes : agreed.Closes given known r)
    (can : r.state.canMoveTo next = true)
    (kept : ∀ t, (change t).witness = t.witness ∧ (change t).amount = t.amount ∧ (change t).inputs = t.inputs)
    (wallet : s.agent.wallet = told.wallet before after)
    (shown : ∀ now, told.Shown given (r.moved next change now)) :
    (transition r next change).Ensures around s fun result s' =>
      (∃ r', result = .ok r') ∧ s'.agent.Closes agreed given before after told := by
  have named := RecordStore.get?_id stored
  have known : s.agent.records.get? r.id = some r := named ▸ stored
  let moved := r.moved next change (around.instant s.looked)
  have stored' : (s.agent.wrote moved).records.get? agreed.id = some moved := by
    rw [← named]
    exact Agent.wrote_stored (r := moved) known
  refine ensures_transition known can ⟨⟨_, rfl⟩, ⟨moved, stored', closes.role, ?_, ?_, ?_, shown _⟩, wallet⟩
  · exact (kept _).1.trans closes.witness
  · exact (kept _).2.1.trans closes.amount
  · exact (kept _).2.2.trans closes.inputs

end Step

section
variable {around : Surroundings} {s : Scene} {agreed : Record} {given : Receipt} {before after : Holding}
  {known : Closing} {witness : Did} (h : s.agent.Closes agreed given before after known)
include h

/-- A getter's receipt says nothing to a giver, who may be the same party. -/
theorem Agent.Closes.otherReceipt {sender : Did} {receipt : Receipt} :
    (Step.receiveReceipt .getter sender agreed.id receipt).Ensures around s fun _ s' =>
      s'.agent.Closes agreed given before after known := by
  obtain ⟨r, stored, closes⟩ := h.record
  refine Step.load_passed stored ?_
  rw [if_pos (by simp [closes.role])]
  exact h

variable (named : agreed.transfer.witness = some witness)
include named

theorem Agent.Closes.cashWitnessed {cash : WitnessedCash} (amount : cash.amount ≈ agreed.transfer.amount) :
    (Step.receiveWitnessedCash witness agreed.id cash).Ensures around s fun _ s' =>
      s'.agent.Closes agreed given before after (known.hear (.cashAcceptedWitnessed cash)) := by
  obtain ⟨r, stored, closes⟩ := h.record
  refine Step.load_passed stored ?_
  have idle : (pure r : Step Record).Ensures around s fun _ s' =>
      s'.agent.Closes agreed given before after (known.hear (.cashAcceptedWitnessed cash)) := by
    cases known <;> exact h
  split
  next => exact idle
  next fits =>
    have state : r.state = .requestAcceptedSent := by simpa using fun other => fits (.inr other)
    cases known with
    | nothing =>
      refine Step.settle_passed (Step.expectParty_passed (closes.fromWitness named) ?_)
      refine Step.expectAmount_passed (closes.amount ▸ amount) ?_
      exact Step.transition_closes .nothing stored closes (by rw [state]; rfl) (fun _ => ⟨rfl, rfl, rfl⟩) h.wallet
        fun _ => ⟨.inr rfl, closes.shown.2⟩
    | removal | receipt => cases state.symm.trans closes.shown.1

variable (about : given.Closes agreed s.agent.did)
  (exchanged : (Holding.exchange (agreed.transfer.inputs.map Note.id)
    (Note.ownedBy s.agent.did agreed.transfer.outputs)).attempt before = .ok ((), after))
include about exchanged

theorem Agent.Closes.cashRemoved :
    (Step.receiveCashRemoval witness agreed.id
        ⟨given.inputs.map Note.id, given.notesFor given.giver⟩).Ensures around s fun _ s' =>
      s'.agent.Closes agreed given before after
        (known.hear (.cashRemoved ⟨given.inputs.map Note.id, given.notesFor given.giver⟩)) := by
  obtain ⟨r, stored, closes⟩ := h.record
  refine Step.load_passed stored ?_
  cases known with
  | nothing =>
    obtain ⟨state, unsettled⟩ := closes.shown
    have fits : ¬(r.role ≠ .giver ∨ r.state ≠ .requestAcceptedSent ∧ r.state ≠ .cashAcceptedReceived) := by
      rw [not_or, not_and_or]
      exact ⟨not_not.mpr closes.role, state.imp not_not.mpr not_not.mpr⟩
    have can : r.state.canMoveTo .cashRemoved = true := by
      rcases state with state | state <;> rw [state] <;> rfl
    rw [if_neg fits]
    refine Step.settle_passed (Step.expectParty_passed (closes.fromWitness named) ?_)
    dsimp only
    rw [about.inputs, closes.inputs]
    refine Step.expectNotes_passed ?_
    simp only [unsettled, Bool.not_false, if_true]
    have wallet : s.agent.wallet = before := h.wallet
    rw [← wallet] at exchanged
    rw [Receipt.notesFor, about.giver, about.outputs]
    refine Step.me_then (Step.changeWallet_passed (Note.ownedBy_ownedBy _ _ ▸ exchanged) ?_)
    refine Step.transition_closes .removal ?_ closes can (fun _ => ⟨rfl, rfl, rfl⟩) rfl fun _ => ⟨rfl, rfl⟩
    exact stored
  | removal | receipt =>
    have late : r.role ≠ .giver ∨ r.state ≠ .requestAcceptedSent ∧ r.state ≠ .cashAcceptedReceived := by
      simp [closes.shown.1]
    rw [if_pos late]
    exact h

theorem Agent.Closes.receiptGiven :
    (Step.receiveReceipt .giver witness agreed.id given).Ensures around s fun _ s' =>
      s'.agent.Closes agreed given before after .receipt := by
  obtain ⟨r, stored, closes⟩ := h.record
  have fromWitness := closes.fromWitness named
  refine Step.load_passed stored ?_
  cases known with
  | nothing =>
    obtain ⟨state, unsettled⟩ := closes.shown
    have can : r.state.canMoveTo .completed = true := by
      rcases state with state | state <;> rw [state] <;> rfl
    rw [if_neg (by simp [closes.role, can])]
    refine Step.settle_passed (Step.expectParty_passed fromWitness ?_)
    refine Step.expectAmount_passed (closes.amount ▸ about.amount) ?_
    simp only [unsettled, Bool.not_false, if_true]
    have wallet : s.agent.wallet = before := h.wallet
    rw [← wallet, ← about.inputs, ← about.outputs] at exchanged
    refine Step.settleGiver_passed closes.role exchanged ?_
    refine Step.transition_closes .receipt ?_ closes can (fun _ => ⟨rfl, rfl, rfl⟩) rfl fun _ => ⟨rfl, rfl, rfl⟩
    exact stored
  | removal =>
    obtain ⟨state, settled⟩ := closes.shown
    have can : r.state.canMoveTo .completed = true := by rw [state]; rfl
    rw [if_neg (by simp [closes.role, can])]
    refine Step.settle_passed (Step.expectParty_passed fromWitness ?_)
    refine Step.expectAmount_passed (closes.amount ▸ about.amount) ?_
    simp only [settled, Bool.not_true, Bool.false_eq_true, if_false]
    exact Step.transition_closes .receipt stored closes can (fun _ => ⟨rfl, rfl, rfl⟩) h.wallet
      fun _ => ⟨rfl, rfl, rfl⟩
  | receipt =>
    have ended : r.state.canMoveTo .completed = false := by rw [closes.shown.1]; rfl
    rw [if_pos (by simp [ended])]
    exact h

end

/-! ### Whole sequences -/

/-- The witness tells the giver of a transfer what it tells when it closes one with this receipt. -/
structure Arrival.Closes (x : Arrival) (given : Receipt) (witness giver : Did) (id : TransferId) : Prop where
  sender : x.sender = witness
  thread : x.message.thread = id
  told : (giver, x.message.body) ∈ Step.closingMessages given

section
variable {a : Agent} {agreed : Record} {given : Receipt} {before after : Holding} {known : Closing} {witness : Did}
  (named : agreed.transfer.witness = some witness)
include named

theorem Agent.Closes.take {x : Arrival} (h : a.Closes agreed given before after known)
    (about : given.Closes agreed a.did)
    (exchanged : (Holding.exchange (agreed.transfer.inputs.map Note.id)
      (Note.ownedBy a.did agreed.transfer.outputs)).attempt before = .ok ((), after))
    (closes : x.Closes given witness a.did agreed.id) :
    (a.take x).Closes agreed given before after (known.hear x.message.body) := by
  obtain ⟨rfl, thread, told⟩ := closes
  have received : (Step.receive x.sender x.message).Ensures x.around ⟨a, x.drawn, x.looked, []⟩ fun _ s' =>
      s'.agent.Closes agreed given before after (known.hear x.message.body) := by
    simp only [Step.closingMessages, List.mem_cons, Prod.mk.injEq, List.not_mem_nil, or_false] at told
    refine Step.config_then ?_
    rw [thread]
    rcases told with ⟨-, body⟩ | ⟨-, body⟩ | ⟨-, body⟩ | ⟨-, body⟩ <;> rw [body]
    · exact Step.ensures_map (h.cashWitnessed named about.amount)
    · exact Step.ensures_map (h.cashRemoved named about exchanged)
    · exact Step.ensures_map (h.receiptGiven named about exchanged)
    · exact Step.ensures_map h.otherReceipt
  exact Step.ensures_perform (Step.ensures_map received)

theorem Agent.Closes.takeAll {xs : List Arrival} (h : a.Closes agreed given before after known)
    (about : given.Closes agreed a.did)
    (exchanged : (Holding.exchange (agreed.transfer.inputs.map Note.id)
      (Note.ownedBy a.did agreed.transfer.outputs)).attempt before = .ok ((), after))
    (each : ∀ x ∈ xs, x.Closes given witness a.did agreed.id) :
    (a.takeAll xs).Closes agreed given before after
      ((xs.map (·.message.body)).foldl Closing.hear known) := by
  induction xs generalizing a known with
  | nil => exact h
  | cons x rest ih =>
    obtain ⟨first, others⟩ := List.forall_mem_cons.mp each
    have same : (a.take x).did = a.did := congrArg Config.did (a.perform_config _ _ _ _)
    refine ih (h.take named about exchanged first) ?_ ?_ ?_ <;> rw [same]
    · exact about
    · exact exchanged
    · exact others

end

/-- The cash of a transfer whose giver has sent its acceptance is not settled, in whatever run it has. -/
theorem Agent.unsettled_of_sent {config : Config} {notes : List Note} {acts : List Act} {id : TransferId} {r : Record}
    (stored : ((Agent.new config notes).doesAll acts).records.get? id = some r)
    (state : r.state = .requestAcceptedSent) : r.transfer.cashSettled = false := by
  have settles := (doesAll_accurate config notes acts id).stored_settles stored
  by_contra settled
  rcases settles.settled (Bool.of_not_eq_false settled) with paid | failed
  · simp [Record.isPaid, state] at paid
  · cases state.symm.trans failed

/-- The messages with which a witness closes a transfer commute at the giver: every sequence
that has the receipt in it ends with the same wallet. -/
theorem closing_messages_commute {a : Agent} {agreed : Record} {witness : Did} {given : Receipt}
    (stored : a.records.get? agreed.id = some agreed) (role : agreed.role = .giver)
    (state : agreed.state = .requestAcceptedSent) (named : agreed.transfer.witness = some witness)
    (unsettled : agreed.transfer.cashSettled = false ∨
      ∃ config notes acts, a.records = ((Agent.new config notes).doesAll acts).records)
    (about : given.Closes agreed a.did)
    (new : ∀ note ∈ Note.ownedBy a.did agreed.transfer.outputs, note.id ∉ a.wallet.ids)
    (countable : ¬(Holding.exchange (agreed.transfer.inputs.map Note.id)
      (Note.ownedBy a.did agreed.transfer.outputs)).Overflows a.wallet) :
    ∃ after : Holding,
      after.held = a.wallet.held.filter (·.note.id ∉ agreed.transfer.inputs.map Note.id) ++
        (Note.newTo [] (Note.ownedBy a.did agreed.transfer.outputs)).map (⟨·, none⟩) ∧
      ∀ xs : List Arrival, (∀ x ∈ xs, x.Closes given witness a.did agreed.id) →
        (∃ x ∈ xs, x.message.body = .giverReceipt given) →
        (a.takeAll xs).wallet = after ∧
        ∃ r, (a.takeAll xs).records.get? agreed.id = some r ∧ r.state = .completed ∧
          r.transfer.receipt = some given ∧ r.transfer.cashSettled = true := by
  have unsettled : agreed.transfer.cashSettled = false := by
    rcases unsettled with unsettled | ⟨config, notes, acts, same⟩
    · exact unsettled
    · exact Agent.unsettled_of_sent (same ▸ stored) state
  obtain ⟨⟨⟩, after, exchanged⟩ := (Holding.exchange_unrefused _ _).attempt_ok countable
  have start : a.Closes agreed given a.wallet after .nothing :=
    ⟨⟨agreed, stored, role, rfl, rfl, rfl, .inl state, unsettled⟩, rfl⟩
  refine ⟨after, Holding.exchange_held new exchanged, fun xs each ⟨x, mem, receipt⟩ => ?_⟩
  have heard : .giverReceipt given ∈ xs.map (·.message.body) := receipt ▸ List.mem_map_of_mem mem
  obtain ⟨⟨r, stored', closes⟩, wallet⟩ := start.takeAll named about exchanged each
  rw [Closing.foldl_hear_of_mem heard] at closes wallet
  obtain ⟨completed, settled, receipted⟩ := closes.shown
  exact ⟨wallet, r, stored', completed, receipted, settled⟩

namespace Market

def payer : Agent :=
  ((Agent.new (Config.new giver) [coin]).take
    (arrival getter "sale" (.request { request with amount := one }))).perform
      (.acceptRequest ⟨"sale"⟩ none) { Surroundings.calm with fresh := toString } 0 0

def four : Note := ⟨⟨"1"⟩, (Decimal.ofUnits? 4 0).getD .zero, giver⟩

def slip : Receipt :=
  ⟨⟨"sale"⟩, one, "credit", getter, giver, witness, [coin], [⟨⟨"0"⟩, one, getter⟩, four], .epoch⟩

end Market

/-- However the witness's messages come, the giver of the coin is left with a note of four. -/
theorem closing_messages_commute_payer : ∃ after : Holding, after.held = [⟨Market.four, none⟩] ∧
    ∀ xs : List Arrival, (∀ x ∈ xs, x.Closes Market.slip Market.witness Market.giver ⟨"sale"⟩) →
      (∃ x ∈ xs, x.message.body = .giverReceipt Market.slip) → (Market.payer.takeAll xs).wallet = after := by
  have found : (Market.payer.records.get? ⟨"sale"⟩).any (fun r =>
      (r.role = .giver ∧ r.state = .requestAcceptedSent) ∧ r.transfer.witness = some Market.witness ∧
        r.transfer.cashSettled = false ∧ r.transfer.amount = Market.one ∧ r.transfer.inputs = [Market.coin] ∧
          r.transfer.outputs = Market.slip.outputs) = true := by decide +kernel
  simp only [Option.any_eq_true, decide_eq_true_eq] at found
  obtain ⟨r, stored, ⟨role, state⟩, named, unsettled, amount, inputs, outputs⟩ := found
  have thread := RecordStore.get?_id stored
  have about : Market.slip.Closes r Market.payer.did :=
    ⟨by rw [amount]; decide +kernel, by decide +kernel, inputs.symm, outputs.symm⟩
  have countable : ¬(Holding.exchange (r.transfer.inputs.map Note.id)
      (Note.ownedBy Market.payer.did r.transfer.outputs)).Overflows Market.payer.wallet := by
    rw [inputs, outputs]
    rintro ⟨cause, tooLarge⟩
    have made : ((Holding.exchange ([Market.coin].map Note.id)
        (Note.ownedBy Market.payer.did Market.slip.outputs)).run.run Market.payer.wallet).1.isOk = true := by
      decide +kernel
    rw [tooLarge] at made
    cases made
  obtain ⟨after, held, commutes⟩ := closing_messages_commute (thread ▸ stored) role state named (.inl unsettled)
    about (by rw [outputs]; decide +kernel) countable
  rw [inputs, outputs] at held
  refine ⟨after, held.trans (by decide +kernel), fun xs each receipt => ?_⟩
  have did : Market.payer.did = Market.giver := by decide +kernel
  exact (commutes xs (by rwa [thread, did]) receipt).1

end WitnessedTransfer
