import WitnessedTransfer.Proofs.Bus.Confirming
import WitnessedTransfer.Proofs.Market
import WitnessedTransfer.Proofs.Record.Roles

/-! What an issuer learns of its mint. When the wait for the confirmation ends well, the record is read again;
when it does not, the record from before the wait is returned, although the mint may have been confirmed, or
have failed, in the meantime. -/
namespace WitnessedTransfer

inductive Agent.Begins (a : Agent) (tell confirm : Bool) : Minted → Agent → Prop where
  | credited {r : Record} {message : Message} {added : Decimal} {wallet : Holding} {now : Instant}
    (unconfirmed : confirm = false) (unknown : a.records.get? r.id = none)
    (received : (Holding.receive r.transfer.outputs).attempt a.wallet = .ok (added, wallet)) :
    Begins a tell confirm (.done ⟨r.credited now, message⟩) ((a.opened r).credited r wallet now)
  | untold {r : Record} {message : Message} (confirmed : confirm = true) (silent : tell = false)
    (unknown : a.records.get? r.id = none) (state : r.state = .requestSent) :
    Begins a tell confirm (.done ⟨r, message⟩) (a.opened r)
  | waits {r : Record} {message : Message} {milliseconds : Nat} (confirmed : confirm = true)
    (told : tell = true) (unknown : a.records.get? r.id = none) (role : r.role = .issuer)
    (state : r.state = .requestSent) :
    Begins a tell confirm (.waiting ⟨⟨r, message⟩, a.bus.subscribe, milliseconds⟩) (a.opened r)

/-- What is known to an agent is known to a later one as it was. -/
def Agent.Keeps (a b : Agent) : Prop :=
  ∀ id r, a.records.get? id = some r → b.records.get? id = some r

theorem Agent.keeps_of_elsewhere {a b : Agent} {name : TransferId} (unknown : a.records.get? name = none)
    (elsewhere : ∀ id, id ≠ name → b.records.get? id = a.records.get? id) : a.Keeps b := by
  intro id r stored
  refine (elsewhere id ?_).trans stored
  rintro rfl
  cases unknown.symm.trans stored

theorem Agent.keeps_opened {a : Agent} {r : Record} (unknown : a.records.get? r.id = none) : a.Keeps (a.opened r) :=
  keeps_of_elsewhere unknown fun id other => (opened_get? unknown id).trans (if_neg other)

theorem Agent.keeps_credited {a : Agent} {r : Record} (unknown : a.records.get? r.id = none) (wallet : Holding)
    (now : Instant) : a.Keeps ((a.opened r).credited r wallet now) := by
  refine keeps_of_elsewhere unknown fun id other => ?_
  have stored : (a.opened r).records.get? r.id = some r := opened_stored unknown
  have credited := wrote_get? (r := r.credited now) stored id
  exact (credited.trans (if_neg other)).trans ((opened_get? unknown id).trans (if_neg other))

namespace Step

variable {around : Surroundings} {s s' : Scene} {tell confirm : Bool}

def Minting (s : Scene) (tell confirm : Bool) (result : Except Fault Minted) (s' : Scene) : Prop :=
  (∀ minted, result = .ok minted → s.agent.Begins tell confirm minted s'.agent) ∧ s.agent.Keeps s'.agent

theorem Minting.begun {minted : Minted} (begins : s.agent.Begins tell confirm minted s'.agent)
    (keeps : s.agent.Keeps s'.agent) : Minting s tell confirm (.ok minted) s' := by
  refine ⟨fun other same => ?_, keeps⟩
  cases same
  exact begins

theorem Minting.stopped {fault : Fault} (keeps : s.agent.Keeps s'.agent) :
    Minting s tell confirm (.error fault) s' := by
  refine ⟨fun minted same => ?_, keeps⟩
  cases same

theorem mintCash_begins {amount : Decimal} {witness : Option Did} {milliseconds : Option Nat} :
    (mintCash amount witness tell confirm milliseconds).Ensures around s (Minting s tell confirm) := by
  have same : s.agent.Keeps s.agent := fun _ _ stored => stored
  refine expectPositive_then (fun _ => config_then (me_then (newTransferId_then ?_))) (.stopped same)
  refine require_then (fun witness _ => newNoteId_then (agent_then ?_)) (.stopped same)
  refine sendAny_then (fun sent _ _ => newRecord_then ?_) fun _ _ _ => .stopped same
  refine create_then (fun unknown => ?_) fun _ _ => .stopped same
  split
  next unconfirmed =>
    obtain rfl : confirm = false := by simpa using unconfirmed
    refine ensures_bind.mpr (ensures_credit (Agent.opened_stored unknown) rfl (fun added wallet received => ?_) ?_)
    · exact ensures_pure _ (Minting.begun (.credited rfl unknown received) (Agent.keeps_credited unknown _ _))
    · exact fun fault _ => Minting.stopped (Agent.keeps_opened unknown)
  next confirmed =>
    obtain rfl : confirm = true := by simpa using confirmed
    split
    next untold =>
      obtain rfl : tell = false := by simpa using untold
      exact ensures_pure _ (.begun (.untold rfl rfl unknown rfl) (Agent.keeps_opened unknown))
    next told =>
      obtain rfl : tell = true := by simpa using told
      exact ensures_pure _ (.begun (.waits rfl rfl unknown rfl rfl) (Agent.keeps_opened unknown))

end Step

theorem Agent.mint_keeps (a : Agent) (amount : Decimal) (witness : Option Did) (tell confirm : Bool)
    (milliseconds : Option Nat) (around : Surroundings) (drawn looked : Nat) :
    a.Keeps (a.perform (.mintCash amount witness tell confirm milliseconds) around drawn looked) := by
  have keeps : (Step.mintCash amount witness tell confirm milliseconds).Ensures around ⟨a, drawn, looked, []⟩
      fun _ s' => a.Keeps s'.agent := Step.mintCash_begins.mono fun _ _ minting => minting.2
  exact Step.ensures_perform (Step.ensures_map keeps)

/-! ### One act -/

section
variable {around : Surroundings} {op : Operation} {a : Agent} {r : Record} {versions : List Record}
  {wallet ledger : Holding} {sent : List Dispatch} {act : Act} {acts : List Act}

/-- A mint that waits to be confirmed either is put into the wallet or fails. -/
theorem Move.fails_mint (move : Move around op a r versions wallet ledger sent) (role : r.role = .issuer)
    (state : r.state = .requestSent) (quiet : ¬op.Credits r.id) :
    ∃ problem now, versions.getLastD r = r.failed problem now := by
  cases move with
  | credited _ _ _ credits => exact absurd credits quiet
  | failed => exact ⟨_, _, rfl⟩
  | countered _ other | vouched _ other | answered _ other | witnessed _ other | removed _ other
  | paid _ other | settled _ other | notarized _ other | transferred _ other | minted _ other =>
    cases role.symm.trans other
  | requested other | cashAccepted other => cases state.symm.trans other
  | committed isOpen =>
    rw [Step.isRequested, state] at isOpen
    cases isOpen

inductive Agent.Answers (a : Agent) (r : Record) (b : Agent) : Prop where
  | waits (stored : b.records.get? r.id = some r)
  | credits (credits : a.Credits r b)
  | fails {problem : Problem} {now : Instant} (stored : b.records.get? r.id = some (r.failed problem now))

/-- Nothing moves a record that is at its end. -/
theorem Agent.does_final (stored : a.records.get? r.id = some r) (final : r.isTerminal = true)
    (kept : act ≠ .purge r.id) : (a.does act).records.get? r.id = some r := by
  cases act with
  | perform op around drawn looked =>
    obtain ⟨last, stored', onward⟩ := (Becomes.next .refl op around drawn looked).onward stored
    rw [onward.final final] at stored'
    exact stored'
  | purge id =>
    have other : r.id ≠ id := fun same => kept (same ▸ rfl)
    rw [does, purge, RecordStore.get?_purge, if_neg other, stored]

/-- What neither mints nor confirms fails the mint or leaves it alone. -/
theorem Agent.perform_quiet (stored : a.records.get? r.id = some r) (role : r.role = .issuer)
    (state : r.state = .requestSent) (quiet : ¬op.Credits r.id) (around : Surroundings) (drawn looked : Nat) :
    a.Answers r (a.perform op around drawn looked) := by
  have answered : (a.perform op around drawn looked).records.get? r.id = some r ∨ ∃ problem now,
      (a.perform op around drawn looked).records.get? r.id = some (r.failed problem now) := by
    refine Deeds.preserve (op.step_deeds around ⟨a, drawn, looked, []⟩) (P := fun b =>
      b.records.get? r.id = some r ∨ ∃ problem now, b.records.get? r.id = some (r.failed problem now)) ?_ (.inl stored)
    rintro s₁ s₂ (waits | ⟨problem, now, failed⟩) deed
    · rcases deed.writes.stored waits with same | ⟨versions, wallet, ledger, sent, move, moved⟩
      · exact .inl same
      · obtain ⟨problem, now, last⟩ := move.fails_mint role state quiet
        exact .inr ⟨problem, now, last ▸ moved⟩
    · rcases deed.writes.stored failed with same | ⟨versions, wallet, ledger, sent, move, -⟩
      · exact .inr ⟨problem, now, same⟩
      · cases move.live
  rcases answered with waits | ⟨problem, now, failed⟩
  · exact .waits waits
  · exact .fails failed

theorem Agent.does_answers (stored : a.records.get? r.id = some r) (role : r.role = .issuer)
    (state : r.state = .requestSent) (kept : act ≠ .purge r.id) : a.Answers r (a.does act) := by
  cases act with
  | purge id =>
    have other : r.id ≠ id := fun same => kept (same ▸ rfl)
    exact .waits (by rw [does, purge, RecordStore.get?_purge, if_neg other, stored])
  | perform op around drawn looked =>
    by_cases quiet : op.Credits r.id
    · cases quiet with
      | minted same =>
        subst same
        exact .waits (a.mint_keeps _ _ _ _ _ around drawn looked r.id r stored)
      | @confirmed sender response takes =>
        cases takes
        rw [does]
        have answered := a.perform_mintResponse sender r.id response around drawn looked
        generalize a.perform _ around drawn looked = b at answered ⊢
        rcases answered with rfl | ⟨r', stored', -, -, confirms⟩
        · exact .waits stored
        · cases stored.symm.trans stored'
          cases confirms with
          | credits credits => exact .credits credits
          | fails problem now => exact .fails (wrote_stored (r := r.failed problem now) stored)
          | nothing => exact .waits stored
    · exact perform_quiet stored role state quiet around drawn looked

/-! ### Runs -/

/-- Somewhere in a run an act leads from one agent to another in this way. -/
def Agent.Somewhere (a : Agent) (acts : List Act) (P : Agent → Agent → Prop) : Prop :=
  ∃ before act after, acts = before ++ act :: after ∧ P (a.doesAll before) ((a.doesAll before).does act)

/-- An act puts a mint into the wallet that has waited to be confirmed. -/
def Record.CreditedBy (r : Record) (a b : Agent) : Prop :=
  a.records.get? r.id = some r ∧ a.Credits r b

/-- An act fails a mint that has waited to be confirmed. -/
def Record.FailedBy (r : Record) (a b : Agent) : Prop :=
  a.records.get? r.id = some r ∧ ∃ problem now, b.records.get? r.id = some (r.failed problem now)

theorem Agent.Somewhere.here {P : Agent → Agent → Prop} (h : P a (a.does act)) : a.Somewhere (act :: acts) P :=
  ⟨[], act, acts, rfl, h⟩

theorem Agent.Somewhere.later {P : Agent → Agent → Prop} (h : (a.does act).Somewhere acts P) :
    a.Somewhere (act :: acts) P := by
  obtain ⟨before, next, after, rfl, holds⟩ := h
  exact ⟨act :: before, next, after, rfl, holds⟩

theorem Agent.doesAll_final (stored : a.records.get? r.id = some r) (final : r.isTerminal = true)
    (kept : .purge r.id ∉ acts) : (a.doesAll acts).records.get? r.id = some r := by
  induction acts generalizing a with
  | nil => exact stored
  | cons act rest ih =>
    obtain ⟨first, others⟩ := not_or.mp (mt List.mem_cons.mpr kept)
    exact ih (does_final stored final (Ne.symm first)) others

/-- What an act has brought to its end is so after the run. -/
theorem Agent.Somewhere.final {P : Agent → Agent → Prop} (h : a.Somewhere acts P) {Q : Record → Prop}
    (ends : ∀ b c, P b c → ∃ last, c.records.get? r.id = some last ∧ last.isTerminal = true ∧ Q last)
    (kept : .purge r.id ∉ acts) : ∃ last, (a.doesAll acts).records.get? r.id = some last ∧ Q last := by
  obtain ⟨before, act, after, rfl, holds⟩ := h
  obtain ⟨last, stored, final, holds⟩ := ends _ _ holds
  have named := RecordStore.get?_id stored
  have rest : .purge last.id ∉ after := fun mem => kept (by simp [← named, mem])
  have stays := doesAll_final (named.symm ▸ stored) final rest
  refine ⟨last, ?_, holds⟩
  rw [doesAll, List.foldl_append, List.foldl_cons, ← named]
  exact stays

theorem Agent.doesAll_answers (stored : a.records.get? r.id = some r) (role : r.role = .issuer)
    (state : r.state = .requestSent) (kept : .purge r.id ∉ acts) :
    (a.doesAll acts).records.get? r.id = some r ∨ a.Somewhere acts r.CreditedBy ∨ a.Somewhere acts r.FailedBy := by
  induction acts generalizing a with
  | nil => exact .inl stored
  | cons act rest ih =>
    obtain ⟨first, others⟩ := not_or.mp (mt List.mem_cons.mpr kept)
    cases does_answers stored role state (Ne.symm first) with
    | waits same => exact (ih same others).imp_right (Or.imp .later .later)
    | credits credits => exact .inr (.inl (.here ⟨stored, credits⟩))
    | fails failed => exact .inr (.inr (.here ⟨stored, _, _, failed⟩))

theorem Agent.Somewhere.completed (h : a.Somewhere acts r.CreditedBy) (kept : .purge r.id ∉ acts) :
    ∃ last, (a.doesAll acts).records.get? r.id = some last ∧ last.state = .completed := by
  refine h.final (fun b c ⟨before, credits⟩ => ?_) kept
  cases credits with
  | @credited _ _ now => exact ⟨r.credited now, wrote_stored (r := r.credited now) before, rfl, rfl⟩

theorem Agent.Somewhere.failed (h : a.Somewhere acts r.FailedBy) (kept : .purge r.id ∉ acts) :
    ∃ last, (a.doesAll acts).records.get? r.id = some last ∧ last.state = .failed :=
  h.final (fun _ _ ⟨_, _, _, after⟩ => ⟨_, after, rfl, rfl⟩) kept

/-- The record of a mint is completed if the notes have been put into the wallet, failed if it
has been failed, and else as it was. -/
theorem Agent.doesAll_mint (stored : a.records.get? r.id = some r) (role : r.role = .issuer)
    (state : r.state = .requestSent) (kept : .purge r.id ∉ acts) :
    ∃ last, (a.doesAll acts).records.get? r.id = some last ∧
      (last.state = .completed ↔ a.Somewhere acts r.CreditedBy) ∧
      (last.state = .failed ↔ a.Somewhere acts r.FailedBy) ∧
      (last = r ↔ ¬a.Somewhere acts r.CreditedBy ∧ ¬a.Somewhere acts r.FailedBy) := by
  have answers := doesAll_answers stored role state kept
  obtain ⟨last, found⟩ : ∃ last, (a.doesAll acts).records.get? r.id = some last := by
    rcases answers with same | credits | fails
    · exact ⟨r, same⟩
    · exact (credits.completed kept).imp fun _ found => found.1
    · exact (fails.failed kept).imp fun _ found => found.1
  have completed (h : a.Somewhere acts r.CreditedBy) : last.state = .completed := by
    obtain ⟨other, found', completed⟩ := h.completed kept
    cases found.symm.trans found'
    exact completed
  have ended (h : a.Somewhere acts r.FailedBy) : last.state = .failed := by
    obtain ⟨other, found', ended⟩ := h.failed kept
    cases found.symm.trans found'
    exact ended
  rw [found, Option.some.injEq] at answers
  refine ⟨last, found, ⟨fun now => ?_, completed⟩, ⟨fun now => ?_, ended⟩, fun same => ⟨fun h => ?_, fun h => ?_⟩,
    fun ⟨uncredited, unfailed⟩ => (answers.resolve_right (not_or.mpr ⟨uncredited, unfailed⟩))⟩
  · rcases answers with rfl | credits | fails
    · cases state.symm.trans now
    · exact credits
    · cases now.symm.trans (ended fails)
  · rcases answers with rfl | credits | fails
    · cases state.symm.trans now
    · cases now.symm.trans (completed credits)
    · exact fails
  · cases (same ▸ state).symm.trans (completed h)
  · cases (same ▸ state).symm.trans (ended h)

end

/-! ### The wait -/

inductive MintTurn where
  | does (act : Act)
  | advance (milliseconds : Nat)
  | look

def MintTurn.act? : MintTurn → Option Act
  | .does act => some act
  | _ => none

structure MintWatch where
  agent : Agent
  clock : Nat
  waiter : Waiter .mint

namespace MintWatch

def begin (a : Agent) (clock : Nat) (p : PendingMint) : MintWatch :=
  ⟨a, clock, .listening (.start p.opening.record.id p.subscription clock p.milliseconds) 0⟩

def take (v : MintWatch) : MintTurn → MintWatch
  | .does act => { v with agent := v.agent.does act }
  | .advance milliseconds => { v with clock := v.clock + milliseconds }
  | .look => { v with waiter := v.waiter.look v.agent.bus v.agent.records v.clock }

def play (v : MintWatch) (course : List MintTurn) : MintWatch := course.foldl take v

/-- What minting comes to, once the wait has ended. -/
def report? (v : MintWatch) (p : PendingMint) : Option (Except Failure Opening) :=
  match v.waiter with
  | .ended outcome => some (p.conclude v.agent.records outcome)
  | _ => none

variable {v : MintWatch} {p : PendingMint} {opening : Opening}

theorem play_agent (v : MintWatch) (course : List MintTurn) :
    (v.play course).agent = v.agent.doesAll (course.filterMap MintTurn.act?) := by
  induction course generalizing v with
  | nil => rfl
  | cons turn rest ih =>
    rw [play, List.foldl_cons, ← play, ih]
    cases turn <;> rfl

/-- The record that is returned is found again after a wait that has ended well, and else is the one from
before it. -/
theorem report?_eq_ok (reports : v.report? p = some (.ok opening)) :
    v.waiter = .ended (.ok ()) ∧ v.agent.records.get? p.opening.record.id = some opening.record ∨
      (∃ cause, v.waiter = .ended (.error cause)) ∧ opening = p.opening := by
  unfold report? at reports
  split at reports
  next outcome waiter =>
    cases outcome with
    | error cause =>
      cases reports
      exact .inr ⟨⟨cause, waiter⟩, rfl⟩
    | ok _ =>
      simp only [PendingMint.conclude, Option.some.injEq] at reports
      split at reports
      next record found =>
        cases reports
        exact .inl ⟨waiter, found⟩
      next => cases reports
  next => cases reports

/-- Minting fails after its wait only if the record is gone. -/
theorem unknown_of_report? {cause : Failure} (reports : v.report? p = some (.error cause)) :
    v.agent.records.get? p.opening.record.id = none := by
  unfold report? at reports
  split at reports
  next outcome waiter =>
    cases outcome with
    | error cause => cases reports
    | ok _ =>
      simp only [PendingMint.conclude, Option.some.injEq] at reports
      split at reports
      next => cases reports
      next unknown => exact unknown
  next => cases reports

/-- So it is the one that is stored then, unless the wait has not ended well and the stored one is another. -/
theorem report?_stored_iff (reports : v.report? p = some (.ok opening)) :
    v.agent.records.get? p.opening.record.id = some opening.record ↔
      v.waiter = .ended (.ok ()) ∨ v.agent.records.get? p.opening.record.id = some p.opening.record := by
  rcases report?_eq_ok reports with ⟨well, found⟩ | ⟨⟨cause, badly⟩, rfl⟩
  · exact iff_of_true found (.inl well)
  · rw [badly]
    simp

end MintWatch

/-- Minting returns the record that is stored, unless the wait has given up on a mint that has
been decided. A credit is made just where it is completed. -/
theorem mint_reported_iff (a : Agent) (amount : Decimal) (witness : Option Did) (tell confirm : Bool)
    (milliseconds : Option Nat) (around : Surroundings) (drawn looked : Nat) :
    let minted := (Step.mintCash amount witness tell confirm milliseconds).perform around ⟨a, drawn, looked, []⟩
    let b := minted.2.agent
    (∀ opening, minted.1 = .ok (.done opening) → b.records.get? opening.record.id = some opening.record ∧
      (confirm = false ∧ opening.record.state = .completed ∧ (∃ added,
          (Holding.receive opening.record.transfer.outputs).attempt a.wallet = .ok (added, b.wallet)) ∨
        confirm = true ∧ opening.record.state = .requestSent ∧ b.wallet = a.wallet)) ∧
    ∀ pending, minted.1 = .ok (.waiting pending) → ∀ clock course,
      let v := (MintWatch.begin b clock pending).play course
      let r := pending.opening.record
      let acts := course.filterMap MintTurn.act?
      (∀ opening, v.report? pending = some (.ok opening) →
        (v.agent.records.get? r.id = some opening.record ↔
          v.waiter = .ended (.ok ()) ∨ v.agent.records.get? r.id = some r)) ∧
      (.purge r.id ∉ acts → (∀ cause, v.report? pending ≠ some (.error cause)) ∧
        ∃ last, v.agent.records.get? r.id = some last ∧
          (last.state = .completed ↔ b.Somewhere acts r.CreditedBy) ∧
          (last.state = .failed ↔ b.Somewhere acts r.FailedBy) ∧
          ∀ opening, v.report? pending = some (.ok opening) → (opening.record = last ↔
            v.waiter = .ended (.ok ()) ∨ ¬b.Somewhere acts r.CreditedBy ∧ ¬b.Somewhere acts r.FailedBy)) := by
  intro minted b
  obtain ⟨begins, -⟩ : Step.Minting ⟨a, drawn, looked, []⟩ tell confirm minted.1 minted.2 :=
    Step.ensures_perform Step.mintCash_begins
  refine ⟨fun opening done => ?_, fun pending waiting clock course => ?_⟩
  · have begun := begins _ done
    change a.Begins tell confirm (.done opening) b at begun
    generalize b = b at begun ⊢
    cases begun with
    | @credited r message added wallet now unconfirmed unknown received =>
      have before : (a.opened r).records.get? r.id = some r := Agent.opened_stored unknown
      exact ⟨Agent.wrote_stored (r := r.credited now) before, .inl ⟨unconfirmed, rfl, added, received⟩⟩
    | untold confirmed _ unknown state => exact ⟨Agent.opened_stored unknown, .inr ⟨confirmed, state, rfl⟩⟩
  · have begun := begins _ waiting
    change a.Begins tell confirm (.waiting pending) b at begun
    intro v r acts
    have stored : b.records.get? r.id = some r ∧ r.role = .issuer ∧ r.state = .requestSent := by
      generalize b = b at begun
      cases begun with
      | waits _ _ unknown role state => exact ⟨Agent.opened_stored unknown, role, state⟩
    obtain ⟨stored, role, state⟩ := stored
    have agent : v.agent = b.doesAll acts := MintWatch.play_agent _ course
    refine ⟨fun opening reports => MintWatch.report?_stored_iff reports, fun kept => ?_⟩
    obtain ⟨last, found, completed, failed, same⟩ := Agent.doesAll_mint stored role state kept
    rw [← agent] at found
    refine ⟨fun cause reports => ?_, last, found, completed, failed, fun opening reports => ?_⟩
    · cases found.symm.trans (MintWatch.unknown_of_report? reports)
    · have iff := MintWatch.report?_stored_iff reports
      rw [found, Option.some.injEq, Option.some.injEq, same] at iff
      rw [eq_comm, iff]

namespace Market

/-- A party mints five for itself, and waits for the word of its witness. -/
def minting : Except Fault Minted × Scene :=
  (Step.mintCash five (some witness) true true (some 100)).perform .calm ⟨.new (.new getter) [], 0, 0, []⟩

def minted : List Note := [⟨⟨""⟩, five, getter⟩]

def pending : PendingMint where
  opening :=
    { record := Record.new .issuer { Transfer.new ⟨""⟩ .requestSent five "credit" with
        getter := some getter
        witness := some witness
        outputs := minted
        secondParty := some witness
        expectedSender := some witness } getter .epoch
      message := ⟨⟨""⟩, .mint ⟨five, "credit", getter, minted⟩⟩ }
  subscription := ⟨0, false⟩
  milliseconds := 100

def heard (body : Body) : List MintTurn :=
  .does (.perform (.receive witness ⟨⟨""⟩, body⟩) .calm 0 0) :: .advance 100 :: List.replicate 3 .look

def waited (body : Body) : MintWatch := (MintWatch.begin minting.2.agent 0 pending).play (heard body)

end Market

/-- A mint that is confirmed while the wait goes on is returned as it is stored, with its notes in the wallet. -/
theorem mint_reported_market :
    let v := Market.waited (.mintResponse ⟨[⟨""⟩]⟩)
    ∃ opening, v.report? Market.pending = some (.ok opening) ∧ opening.record.state = .completed ∧
      v.agent.records.get? ⟨""⟩ = some opening.record ∧
      Market.minting.2.agent.Somewhere [.perform (.receive Market.witness ⟨⟨""⟩, .mintResponse ⟨[⟨""⟩]⟩⟩) .calm 0 0]
        Market.pending.opening.record.CreditedBy := by
  intro v
  obtain ⟨-, waits⟩ := mint_reported_iff (.new (.new Market.getter) []) Market.five (some Market.witness) true true
    (some 100) .calm 0 0
  obtain ⟨stored, unpurged⟩ := waits Market.pending rfl 0 (Market.heard (.mintResponse ⟨[⟨""⟩]⟩))
  obtain ⟨-, last, found, credited, -, -⟩ := unpurged (by simp [Market.heard, MintTurn.act?])
  have reports : v.report? Market.pending =
      some (.ok { Market.pending.opening with record := Market.pending.opening.record.credited .epoch }) := by
    decide +kernel
  have well : v.waiter = .ended (.ok ()) := by
    rcases MintWatch.report?_eq_ok reports with ⟨well, -⟩ | ⟨-, same⟩
    · exact well
    · exact absurd (congrArg (·.record.state) same) (by decide)
  have returned := (stored _ reports).mpr (.inl well)
  cases found.symm.trans returned
  exact ⟨_, reports, rfl, returned, credited.mp rfl⟩

/-- A mint that the witness has reported to have failed is returned as if it were open. -/
theorem failed_mint_reported_open :
    let v := Market.waited (.problemReport ⟨"e.p.x", "no"⟩)
    Market.minting.1 = .ok (.waiting Market.pending) ∧
      v.report? Market.pending = some (.ok Market.pending.opening) ∧
      Market.pending.opening.record.state = .requestSent ∧
      (v.agent.records.get? Market.pending.opening.record.id).map Record.state = some .failed :=
  ⟨rfl, by decide +kernel, rfl, by decide +kernel⟩

end WitnessedTransfer
