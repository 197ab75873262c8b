import WitnessedTransfer.Proofs.Decimal.Rounding
import WitnessedTransfer.Proofs.Market
import WitnessedTransfer.Proofs.Step.Frames
import WitnessedTransfer.Proofs.Wallet.Selecting

/-! Conservation and rounding. What a witness compares, and what a giver makes its change from, are sums of
decimals: what comes out is worth what goes in just when the sums are not rounded or are rounded alike, and
it is never further off than so many roundings can bring it. -/
namespace WitnessedTransfer

namespace Note

variable {notes : List Note} {sum : Decimal}

/-- By how much the sum that is made of the notes is off. -/
def drift (notes : List Note) : ℚ :=
  match total notes with
  | .ok sum => sum.value - worth notes
  | .error _ => 0

theorem drift_of_total (total : total notes = .ok sum) : drift notes = sum.value - worth notes := by
  rw [drift, total]

theorem worth_eq_of_total (total : total notes = .ok sum) : sum.value = worth notes + drift notes := by
  rw [drift_of_total total]
  ring

theorem total_near (total : total notes = .ok sum) (nonneg : ∀ note ∈ notes, 0 ≤ note.value.value) :
    |sum.value - worth notes| ≤ Decimal.blur notes.length * worth notes := by
  have start : |(0 : Decimal).value - 0| ≤ Decimal.blur 0 * 0 := by simp
  have near := Decimal.foldlM_blurred total start (le_refl 0) (by simpa using nonneg)
  simpa [worth, Function.comp_def] using near

/-- Notes with the same sum are worth the same just when their sums are off by the same. -/
theorem worth_eq_iff {others : List Note} {sum' : Decimal} (total : total notes = .ok sum)
    (total' : Note.total others = .ok sum') (same : sum ≈ sum') :
    worth notes = worth others ↔ drift notes = drift others := by
  have values := Decimal.equiv_iff_value.mp same
  rw [worth_eq_of_total total, worth_eq_of_total total'] at values
  constructor <;> intro equal <;> linarith

/-- Where no sum on the way needs more digits than a decimal has, nothing is rounded. -/
theorem drift_eq_zero (each : ∀ k, ∃ d : Decimal, d.value = worth (notes.take k)) : drift notes = 0 := by
  have held (k : Nat) : ∃ d : Decimal,
      d.value = (0 : Decimal).value + (((notes.map Note.value).take k).map Decimal.value).sum := by
    obtain ⟨d, same⟩ := each k
    exact ⟨d, by rw [same, Decimal.value_zero, zero_add, worth, ← List.map_take, List.map_map]; rfl⟩
  obtain ⟨sum, whole, same⟩ := Decimal.foldlM_exact held
  rw [drift_of_total whole, same, Decimal.value_zero, zero_add, worth, List.map_map]
  exact sub_self _

/-- The change of an amount is off by no more than the sum of the notes and the difference can be. -/
theorem remainder_near {amount change : Decimal} (rest : remainder notes amount = .ok change)
    (nonneg : ∀ note ∈ notes, 0 ≤ note.value.value) :
    |change.value - (worth notes - amount.value)| ≤
      Decimal.blur (notes.length + 1) * (worth notes + |amount.value|) := by
  unfold remainder at rest
  cases summed : total notes with
  | error cause => rw [summed] at rest; cases rest
  | ok value =>
    rw [summed] at rest
    have worthy : 0 ≤ worth notes := List.sum_nonneg (by simpa [worth] using nonneg)
    have off := total_near summed nonneg
    have near := Decimal.sub_near rest
    have blurred := Decimal.blur_nonneg notes.length
    have large := mul_nonneg blurred (abs_nonneg amount.value)
    have size : |value.value - amount.value| ≤
        (1 + Decimal.blur notes.length) * (worth notes + |amount.value|) := by
      have apart := abs_sub (value.value) (amount.value)
      have positive : |value.value| ≤ (1 + Decimal.blur notes.length) * worth notes := by
        rw [abs_le] at off ⊢
        constructor <;> nlinarith
      linarith
    have rounded := near.trans (mul_le_mul_of_nonneg_left size Decimal.grain_pos.le)
    rw [Decimal.blur_succ]
    rw [abs_le] at near off rounded ⊢
    constructor <;> linarith

end Note

/-- What a giver makes of the notes it commits is worth the amount and the change, if there is any. -/
theorem Pays.worth {amount : Decimal} {getter giver : Did} {inputs outputs : List Note}
    (pays : Pays amount getter giver inputs outputs) : ∃ change, Note.remainder inputs amount = .ok change ∧
      Note.worth outputs = amount.value + max 0 change.value := by
  obtain ⟨value, change, sum, left, payment, rest, rfl, made⟩ := pays
  refine ⟨change, by rw [Note.remainder, sum]; exact left, ?_⟩
  rcases made with ⟨none_left, rfl⟩ | ⟨some_left, kept, rfl⟩
  · rw [Decimal.le_iff_value, Decimal.value_zero] at none_left
    simp [Note.worth, max_eq_left none_left]
  · rw [Decimal.le_iff_value, Decimal.value_zero, not_le] at some_left
    simp [Note.worth, max_eq_right some_left.le]

namespace Step

/-- What a giver commits are the notes that it has selected, and what it has made of them. -/
theorem commitNotes_sends {around : Surroundings} {s : Scene} {r : Record} {timeouts : Option Timeouts} :
    (commitNotes r timeouts).Ensures around s fun _ s' => s.Sends (fun d => ∀ acceptance,
      d.message.body = .requestAccepted acceptance → ∃ getter wallet,
        (Holding.select r.transfer.amount r.id).attempt s.agent.wallet = .ok (acceptance.inputs, wallet) ∧
          Pays r.transfer.amount getter s.agent.did acceptance.inputs acceptance.outputs) s' := by
  let Committed (d : Dispatch) := ∀ acceptance, d.message.body = .requestAccepted acceptance →
    ∃ getter wallet,
      (Holding.select r.transfer.amount r.id).attempt s.agent.wallet = .ok (acceptance.inputs, wallet) ∧
        Pays r.transfer.amount getter s.agent.did acceptance.inputs acceptance.outputs
  have frame : Scene.Frame (Scene.Sends Committed) := Scene.frame_sends fun d isPlain acceptance body => by
    rw [body] at isPlain
    cases isPlain
  have quiet {s' : Scene} (still : s.Still s') : s.Sends Committed s' :=
    Scene.Frame.silent (by simpa using still.sent) still.drawn
  have still := Scene.still_look s
  unfold commitNotes
  refine verifyRequest_then (fun isOpen inTime => me_then ?_) fun _ _ still => quiet still
  refine require_then (fun getter toGetter => ?_) (quiet still)
  refine require_then (fun witness byWitness => ?_) (quiet still)
  refine changeWallet_then (fun inputs wallet selected => ?_) fun _ _ => quiet still
  refine outputsFor_then (fun outputs s₁ same pays => post_then ?_) fun _ _ =>
    Scene.Frame.silent rfl (Nat.le_refl _)
  have told {d : Dispatch} (committed : Committed d) {step : Step Record}
      [rest : Within (Scene.Sends Committed) around step] :
      step.Ensures around (s₁.emit [d]) fun _ s' => s.Sends Committed s' := by
    refine Scene.Frame.trans ⟨[d], congrArg (· ++ [d]) (by simpa using same.sent), ?_⟩ (rest.holds _)
    rintro d' mem
    exact List.mem_singleton.mp mem ▸ committed
  split <;> refine told ?_ <;> rintro _ ⟨⟩ <;> exact ⟨getter, wallet, selected, pays⟩

end Step

/-- What passes a witness or is proposed by a giver balances just when the sums on both sides
are off by the same, which is bounded by their roundings. -/
theorem conservation_up_to_rounding (id : TransferId) (amount : Decimal) (getter giver : Did)
    (inputs outputs : List Note) (around : Surroundings) (a : Agent) (drawn looked : Nat) (r : Record)
    (timeouts : Option Timeouts) :
    (Step.checkConservation id amount getter giver inputs outputs = .ok () →
      (Note.worth inputs = Note.worth outputs ↔ Note.drift inputs = Note.drift outputs) ∧
      |Note.worth inputs - Note.worth outputs| ≤
        Decimal.blur inputs.length * Note.worth inputs + Decimal.blur outputs.length * Note.worth outputs ∧
      (Note.worth (Note.ownedBy getter outputs) = amount.value ↔ Note.drift (Note.ownedBy getter outputs) = 0) ∧
      |Note.worth (Note.ownedBy getter outputs) - amount.value| ≤
        Decimal.blur (Note.ownedBy getter outputs).length * Note.worth (Note.ownedBy getter outputs)) ∧
    ((∀ note ∈ a.wallet.notes, 0 < note.value.value) →
      ∀ d ∈ ((Step.commitNotes r timeouts).perform around ⟨a, drawn, looked, []⟩).2.sent, ∀ acceptance,
        d.message.body = .requestAccepted acceptance →
        ∃ change, Note.remainder acceptance.inputs r.transfer.amount = .ok change ∧
          (Note.worth acceptance.outputs = Note.worth acceptance.inputs ↔
            max 0 change.value = Note.worth acceptance.inputs - r.transfer.amount.value) ∧
          |change.value - (Note.worth acceptance.inputs - r.transfer.amount.value)| ≤
            Decimal.blur (acceptance.inputs.length + 1) *
              (Note.worth acceptance.inputs + |r.transfer.amount.value|)) ∧
    ∀ notes, (∀ k, ∃ d : Decimal, d.value = Note.worth (notes.take k)) → Note.drift notes = 0 := by
  refine ⟨fun passed => ?_, fun positive d mem acceptance body => ?_, fun notes => Note.drift_eq_zero⟩
  · obtain ⟨checkedIn, checkedOut⟩ := Step.checkConservation_ok passed
    obtain ⟨⟨valueIn, valueOut, totalIn, totalOut, same⟩, -⟩ := Step.checkConservation_balanced passed
    obtain ⟨paid, totalPaid, enough⟩ := Step.checkConservation_paid passed
    have nonneg {notes : List Note} (checked : Note.check id notes = .ok ()) :
        ∀ note ∈ notes, 0 ≤ note.value.value := fun note mem => ((Note.check_ok checked).1 note mem).le
    have nearIn := Note.total_near totalIn (nonneg checkedIn)
    have nearOut := Note.total_near totalOut (nonneg checkedOut)
    have nearPaid := Note.total_near totalPaid fun note mem =>
      nonneg checkedOut note (List.mem_of_mem_filter mem)
    have values := Decimal.equiv_iff_value.mp same
    rw [Decimal.equiv_iff_value] at enough
    refine ⟨Note.worth_eq_iff totalIn totalOut same, ?_, ?_, ?_⟩
    · rw [abs_le] at *
      constructor <;> linarith
    · rw [← enough, Note.drift_of_total totalPaid, sub_eq_zero, eq_comm]
    · rw [← enough, abs_sub_comm]
      exact nearPaid
  · have built := Step.ensures_perform
      (Step.commitNotes_sends : (Step.commitNotes r timeouts).Ensures around ⟨a, drawn, looked, []⟩ _)
    obtain ⟨sent, all, each⟩ := built
    rw [List.nil_append] at all
    obtain ⟨getter, wallet, selected, pays⟩ := each d (all ▸ mem) acceptance body
    obtain ⟨change, rest, worth⟩ := pays.worth
    have nonneg : ∀ note ∈ acceptance.inputs, 0 ≤ note.value.value := by
      intro note mem
      obtain ⟨held, mem', same⟩ := Holding.mem_stock_iff.mp
        (Holding.select_held selected (List.mem_map_of_mem mem))
      have value : held.value.value = note.value.value := congrArg Entry.value same
      exact value ▸ (positive held mem').le
    refine ⟨change, rest, ?_, Note.remainder_near rest nonneg⟩
    rw [worth]
    constructor <;> intro equal <;> linarith

def Body.acceptance? : Body → Option Acceptance
  | .requestAccepted acceptance => some acceptance
  | _ => none

theorem Dispatch.exists_acceptance {sent : List Dispatch} {P : Acceptance → Prop} [DecidablePred P]
    (found : (sent.filterMap (·.message.body.acceptance?)).any (P ·) = true) :
    ∃ d ∈ sent, ∃ acceptance, d.message.body = .requestAccepted acceptance ∧ P acceptance := by
  obtain ⟨acceptance, told, holds⟩ := List.any_eq_true.mp found
  obtain ⟨d, mem, same⟩ := List.mem_filterMap.mp told
  refine ⟨d, mem, acceptance, ?_, of_decide_eq_true holds⟩
  cases body : d.message.body <;> simp_all [Body.acceptance?]

namespace Market

def half : Decimal := (Decimal.ofUnits? 5 1).getD .zero

/-- The largest decimal is worth one more. -/
def pile : Decimal := (Decimal.ofUnits? 79228162514264337593543950334 0).getD .zero

def hoarded : List Note :=
  [⟨⟨"pile"⟩, pile, giver⟩, ⟨⟨"half"⟩, half, giver⟩, ⟨⟨"other half"⟩, half, giver⟩]

def purse : Agent := .new (Config.new giver) [coin]

def sought : Record :=
  .new .giver { Transfer.new ⟨"sale"⟩ .requestReceived one "credit" with
    getter := some getter
    giver := some giver
    witness := some witness } giver .epoch

def rest : Decimal := (Decimal.ofUnits? 4 0).getD .zero

def largest : Decimal := (Decimal.ofUnits? 79228162514264337593543950335 0).getD .zero

/-- The giver has one note of the largest decimal, and is asked for a half. -/
def asked : Agent :=
  (Agent.new (Config.new giver) [⟨⟨"vault"⟩, largest, giver⟩]).take
    (arrival getter "sale" (.request { request with amount := half }))

end Market

/-- A coin for a payment of its value: both sums are exact. And so is the change of a giver that pays one
with it. -/
theorem conservation_coin :
    (Step.checkConservation ⟨"sale"⟩ Market.five Market.getter Market.giver [Market.coin]
        [Market.payment] = .ok () ∧
      Note.worth [Market.coin] = Note.worth [Market.payment]) ∧
    ∃ d ∈ ((Step.commitNotes Market.sought none).perform .calm ⟨Market.purse, 0, 0, []⟩).2.sent,
      ∃ acceptance, d.message.body = .requestAccepted acceptance ∧
        Note.worth acceptance.outputs = Note.worth acceptance.inputs := by
  have passed : Step.checkConservation ⟨"sale"⟩ Market.five Market.getter Market.giver [Market.coin]
      [Market.payment] = .ok () := by decide +kernel
  obtain ⟨checks, commits, exact⟩ := conservation_up_to_rounding ⟨"sale"⟩ Market.five Market.getter
    Market.giver [Market.coin] [Market.payment] .calm Market.purse 0 0 Market.sought none
  have single (note : Note) : Note.drift [note] = 0 := by
    refine exact [note] fun k => ?_
    cases k with
    | zero => exact ⟨0, by simp [Note.worth]⟩
    | succ k => exact ⟨note.value, by simp [Note.worth]⟩
  refine ⟨⟨passed, (checks passed).1.mpr ((single _).trans (single _).symm)⟩, ?_⟩
  obtain ⟨d, mem, acceptance, body, inputs⟩ :
      ∃ d ∈ ((Step.commitNotes Market.sought none).perform .calm ⟨Market.purse, 0, 0, []⟩).2.sent,
        ∃ acceptance, d.message.body = .requestAccepted acceptance ∧ acceptance.inputs = [Market.coin] :=
    Dispatch.exists_acceptance (by decide +kernel)
  obtain ⟨change, left, worth, -⟩ := commits (by decide +kernel) d mem acceptance body
  have rest : Note.remainder [Market.coin] Market.one = .ok Market.rest := by decide +kernel
  rw [inputs] at left worth
  obtain rfl : Market.rest = change := Except.ok.inj (rest.symm.trans left)
  exact ⟨d, mem, acceptance, body, inputs ▸ worth.mpr (by decide +kernel)⟩

/-- Two halves are lost in a sum with a large note, one after the other, at a witness and in a
giver's change. -/
theorem conservation_rounded_away :
    (Step.checkConservation ⟨"sale"⟩ Market.pile Market.getter Market.giver Market.hoarded
        [⟨⟨"payment"⟩, Market.pile, Market.getter⟩] = .ok () ∧
      Note.worth Market.hoarded = Note.worth [⟨⟨"payment"⟩, Market.pile, Market.getter⟩] + 1) ∧
    ∃ d ∈ Market.asked.emits (.perform (.acceptRequest ⟨"sale"⟩ none) .calm 0 0), ∃ acceptance,
      d.message.body = .requestAccepted acceptance ∧
        Note.worth acceptance.inputs = Note.worth acceptance.outputs + 1 / 2 := by
  refine ⟨⟨by decide +kernel, by decide +kernel⟩, ?_⟩
  exact Dispatch.exists_acceptance (by decide +kernel)

end WitnessedTransfer
