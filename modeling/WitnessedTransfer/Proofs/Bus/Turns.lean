import WitnessedTransfer.Proofs.Bus.Mirroring
import WitnessedTransfer.Proofs.Bus.Vigil

/-! What an agent does, as those see it who wait on its bus: each record is stored and then told of, and when
a mint is put into the wallet, that is told of last. An operation takes no record back from its end. -/
namespace WitnessedTransfer

namespace WaitKind

def Final {α : Type} (kind : WaitKind α) : Prop := ∀ r, kind.done r = true → r.isTerminal = true

theorem terminal_final : terminal.Final := fun _ final => final

theorem mint_final : mint.Final := by
  intro r completed
  have state : r.state = .completed := of_decide_eq_true completed
  rw [Record.isTerminal, state]
  rfl

end WaitKind

namespace Exchange

def undergoAll (x : Exchange) (turns : List WaitTurn) : Exchange := turns.foldl undergo x

variable {x : Exchange} {id : TransferId} {α : Type} {kind : WaitKind α}

theorem undergoAll_done {turns : List WaitTurn} (keeps : ∀ turn ∈ turns, turn.Keeps kind id)
    (done : kind.DoneIn x.records id) : kind.DoneIn (x.undergoAll turns).records id := by
  induction turns generalizing x with
  | nil => exact done
  | cons turn rest ih =>
    obtain ⟨first, others⟩ := List.forall_mem_cons.mp keeps
    exact ih others (undergo_done first done)

theorem undergoAll_append (x : Exchange) (turns turns' : List WaitTurn) :
    x.undergoAll (turns ++ turns') = (x.undergoAll turns).undergoAll turns' := List.foldl_append ..

end Exchange

namespace Agent

/-- What those have to do with who wait on the bus of an agent. -/
def exchange (a : Agent) (clock : Nat) : Exchange := ⟨a.bus, a.records, clock, [], []⟩

variable {a b : Agent} {r old : Record} {id : TransferId} {α : Type} {kind : WaitKind α}

theorem exchange_congr (bus : b.bus = a.bus) (records : b.records = a.records) (clock : Nat) :
    b.exchange clock = a.exchange clock := by
  rw [exchange, exchange, bus, records]

theorem exchange_opened (unknown : a.records.get? r.id = none) (clock : Nat) :
    (a.exchange clock).undergoAll [.create r, .emit r.id] = (a.opened r).exchange clock := by
  have created : (a.exchange clock).undergo (.create r) = { a.exchange clock with records := a.records.added r } := by
    simp only [Exchange.undergo, exchange, RecordStore.create_of_unknown unknown, Except.toOption, Option.getD_some]
  have stored : ({ a.exchange clock with records := a.records.added r }).records.get? r.id = some r :=
    opened_stored unknown
  rw [Exchange.undergoAll, List.foldl_cons, created, List.foldl_cons, Exchange.emit_of_stored stored]
  rfl

theorem exchange_wrote (stored : a.records.get? r.id = some old) (clock : Nat) :
    (a.exchange clock).undergoAll [.update r, .emit r.id] = (a.wrote r).exchange clock := by
  have updated : (a.exchange clock).undergo (.update r) =
      { a.exchange clock with records := a.records.rewritten r } := by
    simp only [Exchange.undergo, exchange, RecordStore.update_of_known stored, Except.toOption, Option.getD_some]
  have stored' : ({ a.exchange clock with records := a.records.rewritten r }).records.get? r.id = some r :=
    wrote_stored stored
  rw [Exchange.undergoAll, List.foldl_cons, updated, List.foldl_cons, Exchange.emit_of_stored stored']
  rfl

/-- Versions of a record are stored and told of one after another. -/
theorem exchange_foldl_wrote {versions : List Record} (stored : a.records.get? r.id = some old)
    (same : ∀ v ∈ versions, v.id = r.id) (clock : Nat) :
    (a.exchange clock).undergoAll (versions.flatMap fun v => [.update v, .emit v.id]) =
      (versions.foldl wrote a).exchange clock := by
  induction versions generalizing a old with
  | nil => rfl
  | cons v rest ih =>
    obtain ⟨named, others⟩ := List.forall_mem_cons.mp same
    rw [← named] at stored
    have stored' : (a.wrote v).records.get? r.id = some v := named ▸ wrote_stored stored
    rw [List.flatMap_cons, Exchange.undergoAll_append, exchange_wrote stored, ih stored' others, List.foldl_cons]

/-- From one agent to a later one by turns of its bus and its store that keep what a wait waits for. -/
def Turns (kind : WaitKind α) (id : TransferId) (a b : Agent) : Prop :=
  ∃ turns, (∀ clock, (a.exchange clock).undergoAll turns = b.exchange clock) ∧
    (kind.DoneIn a.records id → ∀ turn ∈ turns, turn.Keeps kind id)

theorem Turns.aside (bus : b.bus = a.bus) (records : b.records = a.records) : Turns kind id a b :=
  ⟨[], fun clock => (exchange_congr bus records clock).symm, fun _ _ mem => nomatch mem⟩

theorem Turns.trans {c : Agent} (first : Turns kind id a b) (rest : Turns kind id b c) : Turns kind id a c := by
  obtain ⟨turns, leads, keeps⟩ := first
  obtain ⟨turns', leads', keeps'⟩ := rest
  refine ⟨turns ++ turns', fun clock => ?_, fun done turn mem => ?_⟩
  · rw [Exchange.undergoAll_append, leads, leads']
  · have done' : kind.DoneIn b.records id := by
      have kept := Exchange.undergoAll_done (x := a.exchange 0) (keeps done) done
      rwa [leads] at kept
    exact (List.mem_append.mp mem).elim (keeps done turn) (keeps' done' turn)

end Agent

section
variable {around : Surroundings} {op : Operation} {s s' : Scene}

/-- A transfer that moves has not been at its end, so one that is moves no more. -/
theorem Deed.turns (deed : Deed around op s s') {α : Type} {kind : WaitKind α} (ends : kind.Final) (id : TransferId) :
    Agent.Turns kind id s.agent s'.agent := by
  cases deed with
  | opened r unknown opens leads =>
    rw [leads.agent]
    refine ⟨[.create r, .emit r.id], Agent.exchange_opened unknown, fun _ => ?_⟩
    simp [WaitTurn.Keeps]
  | moved r about versions wallet ledger sent stored move leads =>
    rw [leads.agent]
    have named : ∀ v ∈ versions, v.id = r.id := fun v mem => (move.versions_same v mem).1
    refine ⟨_, Agent.exchange_foldl_wrote stored named, fun done turn mem => ?_⟩
    have other : r.id ≠ id := by
      rintro rfl
      obtain ⟨r', stored', done⟩ := done
      cases stored.symm.trans stored'
      cases move.live.symm.trans (ends r done)
    obtain ⟨v, member, mem⟩ := List.mem_flatMap.mp mem
    rcases List.mem_cons.mp mem with rfl | mem
    · exact fun same => absurd ((named v member).symm.trans same) other
    · obtain rfl := List.mem_singleton.mp mem
      trivial
  | announced event due leads =>
    rw [leads.agent]
    refine ⟨[.publish event], fun _ => rfl, fun _ => ?_⟩
    simp [WaitTurn.Keeps]
  | told sent loose asked leads => rw [leads.agent]; exact .aside rfl rfl
  | stranded r about inputs wallet stored isOpen selected leads => rw [leads.agent]; exact .aside rfl rfl
  | unpaid r about inputs wallet missed stored isOpen selected lost leads => rw [leads.agent]; exact .aside rfl rfl
  | unvouched r about sender acceptance ledger missed stored role state promised lost leads =>
    rw [leads.agent]; exact .aside rfl rfl
  | learned directory leads => rw [leads.agent]; exact .aside rfl rfl

end

/-- Whatever an agent is asked or told, its bus and its store take such turns. -/
theorem Agent.perform_turns {α : Type} {kind : WaitKind α} (ends : kind.Final) (a : Agent) (op : Operation)
    (around : Surroundings) (drawn looked : Nat) (id : TransferId) :
    Turns kind id a (a.perform op around drawn looked) :=
  Deeds.preserve (s := ⟨a, drawn, looked, []⟩) (op.step_deeds around _) (P := Turns kind id a)
    (fun _ _ before deed => before.trans (deed.turns ends id)) (.aside rfl rfl)

/-! ### The confirmation of a mint -/

theorem Wait.isCompleted_iff {store : RecordStore} {id : TransferId} :
    isCompleted store id = true ↔ ∃ r, store.get? id = some r ∧ r.state = .completed := by
  rw [isCompleted, Option.any_eq_true]
  simp only [decide_eq_true_eq]

theorem WaitKind.mint_doneIn_iff {store : RecordStore} {id : TransferId} :
    mint.DoneIn store id ↔ Wait.isCompleted store id = true := by
  simp only [DoneIn, mint, Wait.isCompleted_iff, decide_eq_true_eq]

inductive Agent.Credits (a : Agent) (r : Record) : Agent → Prop where
  | credited {added : Decimal} {wallet : Holding} {now : Instant}
    (received : (Holding.receive r.transfer.outputs).attempt a.wallet = .ok (added, wallet)) :
    Credits a r (a.credited r wallet now)

/-- Its record is stored at its end and told of, and then the mint is told of. -/
theorem Agent.Credits.turns {a b : Agent} {r : Record} (credits : a.Credits r b)
    (stored : a.records.get? r.id = some r) : ∃ now, ∀ clock,
      Wait.isCompleted ((a.exchange clock).undergoAll [.update (r.credited now), .emit r.id]).records r.id = true ∧
      (a.exchange clock).undergoAll [.update (r.credited now), .emit r.id, .publish (.cashMinted r.id)] =
        b.exchange clock := by
  cases credits with
  | @credited added wallet now received =>
    refine ⟨now, fun clock => ?_⟩
    have wrote : (a.exchange clock).undergoAll [.update (r.credited now), .emit r.id] =
        (a.wrote (r.credited now)).exchange clock := exchange_wrote (r := r.credited now) stored clock
    constructor
    · rw [wrote]
      exact Wait.isCompleted_iff.mpr ⟨_, wrote_stored (r := r.credited now) stored, rfl⟩
    · have last := Exchange.undergoAll_append (a.exchange clock) [.update (r.credited now), .emit r.id]
        [.publish (.cashMinted r.id)]
      rw [wrote] at last
      exact last

inductive Agent.Confirms (a : Agent) (r : Record) : Agent → Prop where
  | credits {b : Agent} (credits : a.Credits r b) : Confirms a r b
  | fails (problem : Problem) (now : Instant) : Confirms a r (a.failed r problem now)
  | nothing : Confirms a r a

namespace Step

variable {around : Surroundings} {s : Scene} {sender : Did} {id : TransferId} {response : MintResponse}

theorem confirmMint_confirms {r : Record} (stored : s.agent.records.get? r.id = some r)
    (state : r.state = .requestSent) :
    (confirmMint r sender response).Ensures around s fun result s' =>
      s.agent.Confirms r s'.agent ∧ ∀ fault, result = .error fault → s'.agent = s.agent := by
  have idle : s.agent.Confirms r s.agent := .nothing
  refine expectParty_then (fun _ => ?_) fun _ => ⟨idle, fun _ _ => rfl⟩
  refine expectNotes_then (fun _ => ?_) fun _ => ⟨idle, fun _ _ => rfl⟩
  refine ensures_credit stored state (fun added wallet received => ?_) fun _ _ => ⟨idle, fun _ _ => rfl⟩
  exact ⟨.credits (.credited received), nofun⟩

/-- Only for a mint that waits for it a confirmation does something. -/
theorem receiveMintResponse_confirms :
    (receiveMintResponse sender id response).Ensures around s fun _ s' => s'.agent = s.agent ∨
      ∃ r, s.agent.records.get? id = some r ∧ r.role = .issuer ∧ r.state = .requestSent ∧
        s.agent.Confirms r s'.agent := by
  refine load_then (fun r stored => ?_) fun _ => .inl rfl
  obtain rfl := RecordStore.get?_id stored
  split
  next => exact ensures_pure r (.inl rfl)
  next fits =>
    obtain ⟨role, state⟩ := by simpa only [not_or, Decidable.not_not] using fits
    have live : r.isTerminal = false := by rw [Record.isTerminal, state]; rfl
    refine Ensures.mono (settle_keeps (P := s.agent.Confirms r) stored live
      (confirmMint_confirms stored state) fun problem now => .fails problem now) fun _ s' confirms => ?_
    exact .inr ⟨r, stored, role, state, confirms⟩

end Step

section
variable {a : Agent}

theorem Agent.perform_mintResponse (a : Agent) (sender : Did) (thread : TransferId) (response : MintResponse)
    (around : Surroundings) (drawn looked : Nat) :
    a.perform (.receive sender ⟨thread, .mintResponse response⟩) around drawn looked = a ∨
      ∃ r, a.records.get? thread = some r ∧ r.role = .issuer ∧ r.state = .requestSent ∧
        a.Confirms r (a.perform (.receive sender ⟨thread, .mintResponse response⟩) around drawn looked) := by
  have confirms : (Operation.receive sender ⟨thread, .mintResponse response⟩).step.Ensures around
      ⟨a, drawn, looked, []⟩ fun _ s' => s'.agent = a ∨ ∃ r, a.records.get? thread = some r ∧ r.role = .issuer ∧
        r.state = .requestSent ∧ a.Confirms r s'.agent := by
    refine Step.ensures_map (Step.config_then ?_)
    exact Step.ensures_map Step.receiveMintResponse_confirms
  exact Step.ensures_perform confirms

/-- A message that brings a mint to its end does so by putting it into the wallet. -/
theorem Agent.take_credits {x : Arrival} {response : MintResponse}
    (body : x.message.body = .mintResponse response)
    (before : Wait.isCompleted a.records x.message.thread = false)
    (after : Wait.isCompleted (a.take x).records x.message.thread = true) :
    ∃ r, a.records.get? x.message.thread = some r ∧ a.Credits r (a.take x) := by
  obtain ⟨sender, ⟨thread, _⟩, around, drawn, looked⟩ := x
  cases body
  rw [take] at after ⊢
  have answered := a.perform_mintResponse sender thread response around drawn looked
  generalize a.perform _ around drawn looked = b at after answered ⊢
  have changed : b ≠ a := by
    rintro rfl
    cases before.symm.trans after
  obtain ⟨r, stored, -, -, confirms⟩ := answered.resolve_left changed
  cases confirms with
  | credits credits => exact ⟨r, stored, credits⟩
  | fails problem now =>
    obtain rfl := RecordStore.get?_id stored
    obtain ⟨last, stored', state⟩ := Wait.isCompleted_iff.mp after
    cases (wrote_stored (r := r.failed problem now) stored).symm.trans stored'
    cases state
  | nothing => exact absurd rfl changed

end

end WitnessedTransfer
