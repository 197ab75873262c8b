import WitnessedTransfer.Proofs.Holding.Sums
import WitnessedTransfer.Proofs.Ledger.Registering
import WitnessedTransfer.Proofs.Ledger.Securing

/-! What comes of a notarized transfer whose getter accepts the cash in time. The witness finds what its
inputs are worth from two sums over all that it holds, for whomever, and puts the outputs beside all that
it holds by name. So it commits just when these sums say what the inputs' own sum says, and no note of
anybody bears the name of an output; the inputs themselves are there in any case. -/
namespace WitnessedTransfer

/-- The sum of the notes can be held, and is not rounded. -/
def Note.Countable (notes : List Note) : Prop := ∃ d, Note.total notes = .ok d ∧ d.value = Note.worth notes

namespace Holding

open Change

variable {h h' : Holding} {names : List NoteId}

/-- What a transfer takes out is found to be worth what it commits. -/
def Weighs (h : Holding) (inputs : List Note) : Prop :=
  ∃ committed removed, Note.total inputs = .ok committed ∧ h.weigh (inputs.map Note.id) = .ok removed ∧
    removed ≈ committed

/-- Sums that can be held and are not rounded find what the notes are worth. -/
theorem weighs_of_countable {inputs : List Note} (distinct : h.ids.Nodup)
    (named : (inputs.map Note.id).Nodup)
    (held : ∀ note ∈ inputs, ∃ e ∈ h.entries, e.id = note.id ∧ e.value = note.value.value)
    (all : Note.Countable h.notes) (rest : Note.Countable (h.notes.filter (·.id ∉ inputs.map Note.id)))
    (own : Note.Countable inputs) : h.Weighs inputs := by
  obtain ⟨before, balance, worth⟩ := all
  obtain ⟨after, balance', worth'⟩ := rest
  obtain ⟨committed, sum, worth''⟩ := own
  have parted := Note.worth_filter_add (·.id ∈ inputs.map Note.id) h.notes
  have taken : Note.worth (h.notes.filter (·.id ∈ inputs.map Note.id)) = Note.worth inputs := by
    rw [ids_eq] at distinct
    rw [← worth_named distinct named held, entries, List.filter_map, List.map_map, notes, List.filter_map,
      Note.worth, List.map_map]
    rfl
  have difference : committed.value = before.value - after.value := by
    simp only [← decide_not] at parted
    rw [worth, worth', worth'', ← parted, taken]
    ring
  obtain ⟨removed, found, value⟩ := Decimal.sub_of_value difference
  refine ⟨committed, removed, sum, ?_, Decimal.equiv_iff_value.mpr value⟩
  exact weigh_ok_iff.mpr ⟨before, after, balance, (balance_without h _).trans balance', found⟩

end Holding

namespace Step

open Holding Change

variable {h h' : Holding} {id : TransferId} {committed removed value : Decimal} {inputs outputs : List Note}

/-- Notes are moved only if they are found to be worth what was committed. -/
theorem moveNotes_weighed (moved : (moveNotes id committed inputs outputs).attempt h = .ok ((), h')) :
    ∃ removed, h.weigh (inputs.map Note.id) = .ok removed ∧ removed ≈ committed := by
  obtain ⟨h₂, makes, -⟩ := attempt_iff.mp moved
  unfold moveNotes at makes
  obtain ⟨removed, h₁, consumed, makes⟩ := makes_bind.mp makes
  refine ⟨removed, consume_weighed consumed, ?_⟩
  split at makes
  next => simp at makes
  next same => simpa using same

theorem moveNotes_of_weigh (weighed : h.weigh (inputs.map Note.id) = .ok removed)
    (same : removed ≈ committed) (sum : Note.total outputs = .ok value) (balanced : committed ≈ value)
    (distinct : (outputs.map Note.id).Nodup) (unknown : ∀ note ∈ outputs, note.id ∉ h.ids) :
    ∃ h', (moveNotes id committed inputs outputs).attempt h = .ok ((), h') := by
  obtain ⟨h₁, consumed, held⟩ := consume_of_weigh weighed
  have unknown' : ∀ note ∈ outputs, note.id ∉ h₁.ids := by
    intro note mem known
    rw [ids, held] at known
    exact unknown note mem ((List.filter_sublist.map _).subset known)
  obtain ⟨h₂, received⟩ := receive_of_unknown sum distinct unknown'
  refine ⟨_, attempt_iff.mpr ⟨h₂, ?_, rfl⟩⟩
  unfold moveNotes
  refine makes_bind.mpr ⟨removed, h₁, consumed, ?_⟩
  rw [if_neg (by simpa using same)]
  refine makes_bind.mpr ⟨value, h₁, makes_orOverflow.mpr ⟨sum, rfl⟩, ?_⟩
  rw [if_neg (by simpa using balanced)]
  exact makes_bind.mpr ⟨_, h₂, received, makes_pure.mpr ⟨rfl, rfl⟩⟩

/-- Notes that are to be moved are refused for their worth, if at all. -/
theorem moveNotes_failsWith (id : TransferId) (committed : Decimal) (inputs outputs : List Note) :
    (moveNotes id committed inputs outputs).FailsWith fun cause => cause.isValidation = true := by
  unfold moveNotes
  refine (consume_unrefused _).failsWith.bind fun removed => ?_
  split
  next => exact failsWith_refuse rfl
  next =>
    refine (unrefused_orOverflow _).failsWith.bind fun value => ?_
    split
    next => exact failsWith_refuse rfl
    next => exact (receive_unrefused _).failsWith.bind fun _ => (unrefused_pure ()).failsWith

end Step

/-! ### What the witness makes of it -/

inductive Ends (a : Agent) (r : Record) (committed : Decimal) (a' : Agent) : Prop where
  | moved {r' : Record}
    (moved : (Step.moveNotes r.id committed r.transfer.inputs r.transfer.outputs).attempt a.ledger =
      .ok ((), a'.ledger))
    (stored : a'.records.get? r.id = some r') (completed : r'.state = .completed)
  | refused {cause : Failure} {now : Instant}
    (refused : (Step.moveNotes r.id committed r.transfer.inputs r.transfer.outputs).attempt a.ledger =
      .error (.failure cause)) (failed : a' = a.failed r cause.problem now)
  | overflowed {cause : Overflow}
    (overflowed : (Step.moveNotes r.id committed r.transfer.inputs r.transfer.outputs).attempt a.ledger =
      .error (.overflow cause)) (same : a' = a)

namespace Step

variable {around : Surroundings} {s : Scene} {r : Record} {sender getter giver : Did}
  {acceptance : CashAcceptance} {committed : Decimal}

/-- Up to the move nothing is done; from then on it stands, and the transfer is completed. -/
theorem commitTransfer_moves (stored : s.agent.records.get? r.id = some r)
    (state : r.state = .requestAcceptedWitnessed) (toGetter : r.transfer.getter = some sender)
    (byGiver : r.transfer.giver = some giver) (amount : acceptance.amount ≈ r.transfer.amount)
    (inTime : r.transfer.timeouts.witnessExpired (around.instant s.looked) = false)
    (sum : Note.total r.transfer.inputs = .ok committed) :
    (commitTransfer r sender acceptance).Ensures around s fun result s' =>
      Ends s.agent r committed s'.agent ∧
          (∀ cause, result = .error (.failure cause) → cause.isValidation = false) ∨
        s'.agent = s.agent ∧ ∃ fault, result = .error fault ∧
          (moveNotes r.id committed r.transfer.inputs r.transfer.outputs).attempt s.agent.ledger =
            .error fault := by
  unfold commitTransfer
  refine expectParty_passed (by rw [toGetter]; exact expects_some.mpr rfl) (expectAmount_passed amount ?_)
  refine now_then ?_
  rw [if_neg (by simp [inTime])]
  refine require_passed toGetter (require_passed byGiver (total_passed sum ?_))
  refine changeLedger_then (fun _ ledger moved => me_then ?_) fun fault refused =>
    .inr ⟨rfl, fault, rfl, refused⟩
  refine transition_then stored (by rw [state]; rfl) ?_
  generalize e₁ : r.moved _ _ _ = first
  have known₁ : s.agent.records.get? first.id = some r := by rw [← e₁]; exact stored
  apply transition_then (Agent.wrote_stored known₁) (by rw [← e₁]; rfl)
  generalize e₂ : first.moved _ _ _ = second
  have known₂ : (s.agent.wrote first).records.get? second.id = some first := by
    rw [← e₂]
    exact Agent.wrote_stored known₁
  apply transition_then (Agent.wrote_stored known₂) (by rw [← e₂]; rfl)
  generalize e₃ : second.moved _ _ _ = third
  have known₃ : ((s.agent.wrote first).wrote second).records.get? third.id = some second := by
    rw [← e₃]
    exact Agent.wrote_stored known₂
  have same : third.id = r.id := by rw [← e₃, ← e₂, ← e₁]; rfl
  have ended {s' : Scene} (after : s'.agent =
      ((({ s.agent with ledger }.wrote first).wrote second).wrote third)) :
      Ends s.agent r committed s'.agent := by
    rw [after]
    exact .moved moved (same ▸ Agent.wrote_stored known₃) (by rw [← e₃]; rfl)
  refine ensures_bind.mpr (ensures_postAll fun failure => ?_)
  simp only [andThen]
  refine orUndelivered_then (fun _ => ?_) fun missed _ => ?_
  · refine .inl ⟨ended rfl, ?_⟩
    rintro cause ⟨⟩
  · refine .inl ⟨ended rfl, ?_⟩
    rintro cause ⟨⟩
    rfl

/-- The transfer ends as its notes are moved or not. -/
theorem receive_ends {id : TransferId} (witness : s.agent.config.isWitness = true)
    (stored : s.agent.records.get? id = some r) (notarized : r.Notarized)
    (toGetter : r.transfer.getter = some sender) (byGiver : r.transfer.giver = some giver)
    (amount : acceptance.amount ≈ r.transfer.amount)
    (inTime : r.transfer.timeouts.witnessExpired (around.instant s.looked) = false)
    (sum : Note.total r.transfer.inputs = .ok committed) :
    (receive sender ⟨id, .cashAccepted acceptance⟩).Ensures around s fun _ s' =>
      Ends s.agent r committed s'.agent := by
  obtain rfl := RecordStore.get?_id stored
  obtain ⟨role, state⟩ := notarized
  have live : r.isTerminal = false := by rw [Record.isTerminal, state]; rfl
  apply config_then
  rw [if_neg (by simp [witness])]
  apply ensures_map
  apply load_passed stored
  rw [if_neg (by simp [role, state])]
  refine ensures_tryCatch (commitTransfer_moves stored state toGetter byGiver amount inTime sum) ?_ ?_
  · rintro r' s' (⟨ended, -⟩ | ⟨-, fault, same, -⟩)
    · exact ended
    · cases same
  · rintro fault s' (⟨ended, unchecked⟩ | ⟨same, _, ⟨⟩, refused⟩)
    · cases fault with
      | overflow cause => exact ended
      | failure cause =>
        simp only [unchecked cause rfl]
        exact ensures_refuse cause ended
    · cases fault with
      | overflow cause => exact .overflowed refused same
      | failure cause =>
        have check : cause.isValidation = true := (moveNotes_failsWith _ _ _ _).attempt refused
        simp only [check, if_true]
        refine (fail_leaves live (same ▸ stored)).mono ?_
        rintro _ s'' ⟨now, -, failed⟩
        exact .refused refused (same ▸ failed)

end Step

/-! ### The outcome -/

/-- The transfer is completed, and in the ledger its outputs have come in the place of its inputs. -/
def Agent.Replaces (a a' : Agent) (r : Record) : Prop :=
  (∃ r', a'.records.get? r.id = some r' ∧ r'.state = .completed) ∧
    a'.ledger.entries = a.ledger.entries.filter (·.id ∉ r.inputNames) ++ r.transfer.outputs.map Note.entry

section
variable {a a' : Agent} {r : Record} {committed : Decimal}

theorem Agent.failed_stored (stored : a.records.get? r.id = some r) (problem : Problem) (now : Instant) :
    (a.failed r problem now).records.get? r.id = some (r.failed problem now) :=
  Agent.wrote_stored (r := r.failed problem now) stored

theorem Ends.replaces_iff (ends : Ends a r committed a') (stored : a.records.get? r.id = some r)
    (notarized : r.Notarized) (promised : r.Promised) (sum : Note.total r.transfer.inputs = .ok committed) :
    a.Replaces a' r ↔
      a.ledger.Weighs r.transfer.inputs ∧ ∀ note ∈ r.transfer.outputs, note.id ∉ a.ledger.ids := by
  have distinct := promised.checked.outputs
  constructor
  · rintro ⟨⟨r', stored', completed⟩, entries⟩
    cases ends with
    | moved moved =>
      obtain ⟨removed, weighed, same⟩ := Step.moveNotes_weighed moved
      refine ⟨⟨committed, removed, sum, weighed, same⟩, fun note output => ?_⟩
      obtain ⟨-, entries'⟩ := Step.moveNotes_entries moved
      have all_new := congrArg List.length (List.append_cancel_left (entries'.symm.trans entries))
      rw [Note.newTo_of_nodup distinct, List.length_map, List.length_map, List.length_filter_eq_length_iff]
        at all_new
      have new := of_decide_eq_true (all_new note output)
      exact fun known => new (List.mem_filter.mpr ⟨known, decide_eq_true (promised.checked.apart note output)⟩)
    | refused _ failed =>
      rw [failed] at stored'
      cases stored'.symm.trans (Agent.failed_stored stored _ _)
      cases completed
    | overflowed _ same =>
      rw [same, stored] at stored'
      cases stored'
      rw [notarized.2] at completed
      cases completed
  · rintro ⟨⟨committed', removed, sum', weighed, same⟩, unknown⟩
    obtain rfl := Except.ok.inj (sum.symm.trans sum')
    obtain ⟨_, value, sum'', total, balanced⟩ := promised.balanced
    obtain rfl := Except.ok.inj (sum.symm.trans sum'')
    obtain ⟨ledger, moved⟩ : ∃ ledger,
        (Step.moveNotes r.id committed r.transfer.inputs r.transfer.outputs).attempt a.ledger =
          .ok ((), ledger) :=
      Step.moveNotes_of_weigh weighed same total balanced distinct unknown
    cases ends with
    | moved moved' stored' completed =>
      refine ⟨⟨_, stored', completed⟩, ?_⟩
      have all_new : Note.newTo (a.ledger.ids.filter (· ∉ r.inputNames)) r.transfer.outputs =
          r.transfer.outputs := by
        rw [Note.newTo_of_nodup distinct]
        refine List.filter_eq_self.mpr fun note output => decide_eq_true fun known => ?_
        exact unknown note output (List.mem_filter.mp known).1
      have entries := (Step.moveNotes_entries moved').2
      exact entries.trans (congrArg (_ ++ List.map Note.entry ·) all_new)
    | refused refused => cases moved.symm.trans refused
    | overflowed overflowed => cases moved.symm.trans overflowed

/-- If the inputs are not found to be worth what is committed, no note moves. -/
theorem Ends.unweighed (ends : Ends a r committed a') (stored : a.records.get? r.id = some r)
    (sum : Note.total r.transfer.inputs = .ok committed) (unweighed : ¬a.ledger.Weighs r.transfer.inputs) :
    a'.ledger.notes = a.ledger.notes ∧
      ∃ r', a'.records.get? r.id = some r' ∧ (r'.state = .failed ∨ r' = r) := by
  cases ends with
  | moved moved =>
    obtain ⟨removed, weighed, same⟩ := Step.moveNotes_weighed moved
    exact absurd ⟨committed, removed, sum, weighed, same⟩ unweighed
  | refused _ failed =>
    rw [failed]
    exact ⟨Holding.release_notes _ _, _, Agent.failed_stored stored _ _, .inl rfl⟩
  | overflowed _ same =>
    rw [same]
    exact ⟨rfl, r, stored, .inr rfl⟩

end

theorem Agent.doesAll_config (a : Agent) (acts : List Act) : (a.doesAll acts).config = a.config := by
  refine doesAll_preserve (P := fun b => b.config = a.config) (fun b act same => ?_) rfl acts
  cases act with
  | perform op around drawn looked => exact (b.perform_config op around drawn looked).trans same
  | purge id => exact same

/-- The outputs of a notarized transfer take the place of its inputs just when these are found
to be worth what is committed and the outputs' names are free. -/
theorem notarized_replaced_iff (config : Config) (notes : List Note) (acts : List Act)
    (isWitness : config.isWitness = true) {x : Arrival} {r : Record} {acceptance : CashAcceptance}
    (stored : ((Agent.new config notes).doesAll acts).records.get? x.message.thread = some r)
    (notarized : r.Notarized) (cash : x.message.body = .cashAccepted acceptance)
    (fromGetter : r.transfer.getter = some x.sender) (amount : acceptance.amount ≈ r.transfer.amount)
    (inTime : r.transfer.timeouts.witnessExpired (x.around.instant x.looked) = false) :
    let a := (Agent.new config notes).doesAll acts
    (∀ note ∈ r.transfer.inputs, ∃ h ∈ a.ledger.held, h.note.id = note.id ∧ h.note.value ≈ note.value ∧
      r.transfer.giver = some h.note.owner ∧ h.reservedBy = some r.id) ∧
    (a.Replaces (a.take x) r ↔
      a.ledger.Weighs r.transfer.inputs ∧ ∀ note ∈ r.transfer.outputs, note.id ∉ a.ledger.ids) ∧
    (Note.Countable a.ledger.notes → Note.Countable (a.ledger.notes.filter (·.id ∉ r.inputNames)) →
      Note.Countable r.transfer.inputs → a.ledger.Weighs r.transfer.inputs) ∧
    (¬a.ledger.Weighs r.transfer.inputs → (a.take x).ledger.notes = a.ledger.notes ∧
      ∃ r', (a.take x).records.get? r.id = some r' ∧ (r'.state = .failed ∨ r' = r)) := by
  intro a
  have secures : a.Secures := Agent.doesAll_secures config notes acts
  have promised := secures.promised _ r stored notarized
  have held := secures.held _ r stored notarized
  obtain ⟨giver, byGiver⟩ := promised.giver
  obtain ⟨committed, _, sum, -⟩ := promised.balanced
  have same : r.id = x.message.thread := RecordStore.get?_id stored
  have ends : Ends a r committed (a.take x) := by
    have witness : a.config.isWitness = true := by rw [Agent.doesAll_config]; exact isWitness
    have message : x.message = ⟨x.message.thread, .cashAccepted acceptance⟩ := by rw [← cash]
    have handled : (Operation.receive x.sender x.message).step.Ensures x.around ⟨a, x.drawn, x.looked, []⟩
        fun _ s' => Ends a r committed s'.agent := by
      apply Step.ensures_map
      rw [message]
      exact Step.receive_ends witness stored notarized fromGetter byGiver amount inTime sum
    exact Step.ensures_perform handled
  rw [← same] at stored
  refine ⟨fun note input => ?_, ends.replaces_iff stored notarized promised sum, fun all rest own => ?_,
    ends.unweighed stored sum⟩
  · obtain ⟨e, mem, named, value, owner, reserved⟩ := held note input
    obtain ⟨h, held, rfl⟩ := List.mem_map.mp mem
    exact ⟨h, held, named, Decimal.equiv_iff_value.mpr value, owner, same ▸ reserved⟩
  · refine Holding.weighs_of_countable ?_ promised.checked.inputs (fun note input => ?_) all rest own
    · rw [Holding.ids_eq]
      exact secures.distinct
    · obtain ⟨e, mem, named, value, -⟩ := held note input
      exact ⟨e, mem, named, value⟩

namespace Market

def hoard : Decimal := (Decimal.ofUnits? 79228162514264337593543950335 1).getD .zero

/-- Somebody mints a note of a very large value, while a sale waits for the getter. -/
def hoarding : List Act :=
  selling "sale" coin ++
    [told mallory "hoard" (.mint ⟨hoard, "credit", mallory, [⟨⟨"hoard"⟩, hoard, mallory⟩]⟩)]

end Market

theorem notarized_replaced_sale :
    ∃ r, (Market.start.doesAll (Market.selling "sale" Market.coin)).records.get? ⟨"sale"⟩ = some r ∧
      (Market.start.doesAll (Market.selling "sale" Market.coin)).Replaces
        ((Market.start.doesAll (Market.selling "sale" Market.coin)).take Market.closing) r := by
  have found : ((Market.start.doesAll (Market.selling "sale" Market.coin)).records.get? ⟨"sale"⟩).any
      (fun r => (r.role = .witness ∧ r.state = .requestAcceptedWitnessed) ∧
        r.transfer.getter = some Market.getter ∧ r.transfer.amount = Market.five ∧
        r.transfer.timeouts = .unset ∧ r.transfer.inputs = [Market.coin] ∧
        r.transfer.outputs = [Market.payment]) = true := by decide +kernel
  simp only [Option.any_eq_true, decide_eq_true_eq] at found
  obtain ⟨r, stored, notarized, getter, amount, timeouts, inputs, outputs⟩ := found
  refine ⟨r, stored, ?_⟩
  obtain ⟨-, replaced, -, -⟩ := notarized_replaced_iff (Config.new Market.witness).asWitness []
    (Market.selling "sale" Market.coin) rfl (x := Market.closing) stored notarized rfl getter
    (amount ▸ Decimal.equiv_refl _) (by rw [timeouts]; rfl)
  apply replaced.mpr
  rw [inputs, outputs]
  exact ⟨⟨Market.five, Market.five, by decide +kernel, by decide +kernel, by decide⟩, by decide +kernel⟩

/-- Beside the large note the payment of five is found to be of four and a half, and the sale fails. -/
theorem notarized_failed_by_rounding :
    (∃ r, (Market.start.doesAll Market.hoarding).records.get? ⟨"sale"⟩ = some r ∧ r.Notarized ∧
      r.transfer.getter = some Market.getter ∧ r.transfer.amount = Market.five ∧
      r.transfer.timeouts = .unset) ∧
    ∃ r, ((Market.start.doesAll Market.hoarding).take Market.closing).records.get? ⟨"sale"⟩ = some r ∧
      r.state = .failed := by
  have waiting : ((Market.start.doesAll Market.hoarding).records.get? ⟨"sale"⟩).any (fun r =>
      (r.role = .witness ∧ r.state = .requestAcceptedWitnessed) ∧ r.transfer.getter = some Market.getter ∧
        r.transfer.amount = Market.five ∧ r.transfer.timeouts = .unset) = true := by decide +kernel
  have failed : (((Market.start.doesAll Market.hoarding).take Market.closing).records.get? ⟨"sale"⟩).any
      (fun r => r.state = .failed) = true := by decide +kernel
  simp only [Option.any_eq_true, decide_eq_true_eq] at waiting failed
  exact ⟨waiting, failed⟩

end WitnessedTransfer
