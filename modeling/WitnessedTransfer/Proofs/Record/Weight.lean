import Mathlib.Algebra.BigOperators.Group.Finset.Basic
import Mathlib.Algebra.BigOperators.Group.Finset.Piecewise
import Mathlib.Data.Finset.Lattice.Basic
import WitnessedTransfer.Proofs.Record.Replay

/-! How much an agent has before it. What is kept by names is weighed as it is looked up, so that a
second entry of a name does not count; and a transfer weighs the stages that are still ahead of it. -/
namespace WitnessedTransfer

section
variable {κ α : Type} [DecidableEq κ] (key : α → κ) (weight : α → ℕ)

def tally (entries : List α) : ℕ :=
  ∑ k ∈ (entries.map key).toFinset, (entries.find? (key · = k)).elim 0 weight

variable {entries entries' : List α}

/-- Names of nothing make no difference to the sum. -/
theorem tally_eq_sum {names : Finset κ} (covers : (entries.map key).toFinset ⊆ names) :
    tally key weight entries = ∑ k ∈ names, (entries.find? (key · = k)).elim 0 weight := by
  apply Finset.sum_subset covers
  intro k _ unknown
  have missing : entries.find? (key · = k) = none := by
    simpa using unknown
  rw [missing]
  rfl

/-- A change of what one name stands for changes the sum by as much. -/
theorem tally_change {name : κ} {entry : Option α}
    (look : ∀ k, entries'.find? (key · = k) = if k = name then entry else entries.find? (key · = k)) :
    tally key weight entries' + (entries.find? (key · = name)).elim 0 weight =
      tally key weight entries + entry.elim 0 weight := by
  let names := insert name ((entries.map key).toFinset ∪ (entries'.map key).toFinset)
  have covers : (entries.map key).toFinset ⊆ names :=
    fun k mem => Finset.mem_insert_of_mem (Finset.mem_union_left _ mem)
  have covers' : (entries'.map key).toFinset ⊆ names :=
    fun k mem => Finset.mem_insert_of_mem (Finset.mem_union_right _ mem)
  have mem : name ∈ names := Finset.mem_insert_self _ _
  have others : ∑ k ∈ names.erase name, (entries'.find? (key · = k)).elim 0 weight =
      ∑ k ∈ names.erase name, (entries.find? (key · = k)).elim 0 weight := by
    refine Finset.sum_congr rfl fun k mem => ?_
    rw [look, if_neg (Finset.ne_of_mem_erase mem)]
  rw [tally_eq_sum key weight covers, tally_eq_sum key weight covers', ← Finset.sum_erase_add _ _ mem,
    ← Finset.sum_erase_add _ _ mem, others, look, if_pos rfl]
  omega

end

def Agent.ahead (a : Agent) : ℕ := tally Record.id (fun r => 5 - r.state.stage) a.records.records

/-- How much a message of this kind can set going: offers are answered, requests and mints open
transfers, and all others only move on what is known. -/
def Body.tier : Body → ℕ
  | .offer _ => 2
  | .request _ | .mint _ | .witnessTableQuery => 1
  | _ => 0

/-- What is sent on a message is of a lower tier, or of the lowest; on a message of that,
nothing arrives unless the transfer goes on. -/
structure Scene.Eases (tier : ℕ) (s s' : Scene) (sent : List Dispatch) : Prop where
  adds : s'.sent = s.sent ++ sent
  lower : ∀ d ∈ sent, d.failure = none → d.message.body.tier < tier ∨ d.message.body.tier = 0
  spends : tier = 0 → s'.agent.ahead < s.agent.ahead ∨
    s'.agent.ahead = s.agent.ahead ∧ ∀ d ∈ sent, d.failure.isSome

section
variable {tier : ℕ} {s s₁ s' : Scene} {sent sent' : List Dispatch}

/-- Nothing arrives, and the records are what they were. -/
theorem Scene.Eases.idle (sends : s'.sent = s.sent ++ sent) (same : s'.agent.records = s.agent.records)
    (lost : ∀ d ∈ sent, d.failure.isSome) : s.Eases tier s' sent where
  adds := sends
  lower d mem clear := by
    have failed := lost d mem
    simp [clear] at failed
  spends _ := .inr ⟨by rw [Agent.ahead, same, Agent.ahead], lost⟩

theorem Scene.Eases.trans (first : s.Eases tier s₁ sent) (rest : s₁.Eases tier s' sent') :
    s.Eases tier s' (sent ++ sent') where
  adds := by rw [rest.adds, first.adds, List.append_assoc]
  lower d mem clear := (List.mem_append.mp mem).elim (first.lower d · clear) (rest.lower d · clear)
  spends lowest := by
    rcases first.spends lowest with less | ⟨same, lost⟩
    · rcases rest.spends lowest with less' | ⟨same', -⟩
      · exact .inl (less'.trans less)
      · exact .inl (same' ▸ less)
    · rcases rest.spends lowest with less' | ⟨same', lost'⟩
      · exact .inl (same ▸ less')
      · exact .inr ⟨same'.trans same, fun d mem => (List.mem_append.mp mem).elim (lost d) (lost' d)⟩

end

section
variable {around : Surroundings} {sender : Did} {message : Message} {a : Agent} {r : Record}

/-- What an agent says of itself on a message is of a lower tier. -/
theorem Asks.lower {m : Message} (asks : Asks (.receive sender message) a m) :
    m.body.tier < message.body.tier := by
  cases asks with
  | request same | offer same | mint same | spread same | query same => cases same
  | accept _ _ accepts =>
    obtain ⟨offer, same⟩ := accepts.of_receive
    rw [same]
    exact Nat.one_lt_two
  | answer asked =>
    rcases asked with same | ⟨id, takes⟩
    · cases same
    · rw [takes.body_eq]
      exact Nat.zero_lt_one

/-- Transfers are opened on messages of a higher tier only. -/
theorem Opens.tier_pos (opens : Opens (.receive sender message) a r) : 0 < message.body.tier := by
  cases opens with
  | request same | offer same | mint same => cases same
  | offered takes | requested takes | registered takes | minted takes =>
    rw [takes.body_eq]
    exact Nat.succ_pos _

variable {versions : List Record} {wallet ledger : Holding} {sent : List Dispatch}

/-- What goes with a move is of the lowest tier, unless an offer is answered. -/
theorem Move.lower (move : Move around (.receive sender message) a r versions wallet ledger sent)
    (d : Dispatch) (mem : d ∈ sent) :
    d.message.body.tier < message.body.tier ∨ d.message.body.tier = 0 := by
  cases move with
  | countered | vouched | answered | witnessed | removed | paid | settled | credited => cases mem
  | requested _ _ _ _ _ accepts =>
    obtain ⟨offer, same⟩ := accepts.of_receive
    obtain ⟨party, -, rfl⟩ := List.mem_map.mp mem
    exact .inl (same ▸ Nat.one_lt_two)
  | cashAccepted | committed | notarized | minted =>
    obtain rfl := List.mem_singleton.mp mem
    exact .inr rfl
  | transferred =>
    obtain ⟨⟨party, body⟩, closing, rfl⟩ := List.mem_map.mp mem
    refine .inr ?_
    simp only [Step.closingMessages, List.mem_cons, Prod.mk.injEq, List.not_mem_nil, or_false] at closing
    rcases closing with ⟨-, rfl⟩ | ⟨-, rfl⟩ | ⟨-, rfl⟩ | ⟨-, rfl⟩ <;> rfl
  | failed =>
    obtain ⟨party, -, rfl⟩ := List.mem_map.mp mem
    exact .inr rfl

/-- On a message of the lowest tier every move is to a later stage. -/
theorem Move.forward (move : Move around (.receive sender message) a r versions wallet ledger sent)
    (lowest : message.body.tier = 0) : r.state.stage < (versions.getLastD r).state.stage := by
  cases move with
  | countered takes => simp [takes.body_eq, Body.tier] at lowest
  | requested _ _ _ _ _ accepts =>
    obtain ⟨offer, same⟩ := accepts.of_receive
    simp [same, Body.tier] at lowest
  | vouched _ _ state | answered _ _ state | witnessed _ _ state | cashAccepted state
  | credited _ state | notarized _ _ state | minted _ _ state => simp [state, TransferState.stage]
  | committed isOpen =>
    rcases Step.isRequested_iff.mp isOpen with state | state <;> simp [state, TransferState.stage]
  | removed _ _ state => rcases state with state | state <;> simp [state, TransferState.stage]
  | paid _ _ can | settled _ _ can => exact TransferState.stage_lt_of_canMoveTo can
  | transferred _ _ state _ _ _ _ _ _ _ first second third =>
    subst first second third
    simp [state, TransferState.stage]
  | failed live => exact TransferState.stage_lt_of_live live

theorem Move.ahead (move : Move around (.receive sender message) a r versions wallet ledger sent)
    (stored : a.records.get? r.id = some r) (lowest : message.body.tier = 0) :
    (versions.foldl Agent.wrote a).ahead < a.ahead := by
  have change := tally_change Record.id (fun r => 5 - r.state.stage) (move.look stored)
  have found : a.records.records.find? (·.id = r.id) = some r := stored
  have later := move.forward lowest
  have bound := TransferState.stage_lt_of_live move.live
  rw [found, Option.elim_some, Option.elim_some] at change
  unfold Agent.ahead
  omega

variable {s s' : Scene}

theorem Deed.eases (deed : Deed around (.receive sender message) s s') :
    ∃ sent, s.Eases message.body.tier s' sent := by
  cases deed with
  | opened r unknown opens leads =>
    exact ⟨[], leads.sent, by simp, fun lowest => absurd lowest opens.tier_pos.ne'⟩
  | moved r about versions wallet ledger sent stored move leads =>
    refine ⟨sent, leads.sent, fun d mem _ => move.lower d mem, fun lowest => .inl ?_⟩
    rw [leads.agent]
    exact move.ahead stored lowest
  | told sent loose asked leads =>
    refine ⟨sent, leads.sent, fun d mem clear => .inl (asked d mem clear).lower, fun lowest => .inr ⟨?_, ?_⟩⟩
    · rw [leads.agent]
    · intro d mem
      cases failure : d.failure with
      | some _ => rfl
      | none =>
        have lower := (asked d mem failure).lower
        omega
  | stranded r about inputs wallet stored isOpen selected leads =>
    exact ⟨[], .idle leads.sent (by rw [leads.agent]) (by simp)⟩
  | unpaid r about inputs wallet missed stored isOpen selected lost leads =>
    exact ⟨[missed], .idle leads.sent (by rw [leads.agent]) (by simpa using lost.missed)⟩
  | unvouched r about giver acceptance ledger missed stored role state promised lost leads =>
    exact ⟨[missed], .idle leads.sent (by rw [leads.agent]) (by simpa using lost.missed)⟩
  | learned directory leads => exact ⟨[], .idle leads.sent (by rw [leads.agent]) (by simp)⟩
  | announced event due leads => exact ⟨[], .idle leads.sent (by rw [leads.agent]) (by simp)⟩

theorem Deeds.eases (deeds : Deeds around (.receive sender message) s s') :
    ∃ sent, s.Eases message.body.tier s' sent := by
  induction deeds with
  | still still => exact ⟨[], .idle still.sent (by rw [still.agent]) (by simp)⟩
  | step deed _ ih =>
    obtain ⟨first, eases⟩ := deed.eases
    obtain ⟨rest, eases'⟩ := ih
    exact ⟨first ++ rest, eases.trans eases'⟩

end
end WitnessedTransfer
