import WitnessedTransfer.Proofs.Record.History
import WitnessedTransfer.Proofs.Wallet.Keeping

/-! A transfer that fails leaves nothing behind but its record and the reports of it. Whatever an
operation has done before, both holdings have the notes that they had, only free of the transfer, and
from then on nothing that is done for it changes them again. -/
namespace WitnessedTransfer

variable {around : Surroundings} {op : Operation} {id : TransferId}

/-! ### What can fail a transfer -/

theorem Operation.AcceptsOffer.subject (accepts : op.AcceptsOffer id) : op.subject? = some id := by
  cases accepts with
  | called same => rw [same]; rfl
  | offered takes => exact takes.subject

theorem Operation.AcceptsCash.subject (accepts : op.AcceptsCash id) : op.subject? = some id := by
  cases accepts with
  | called same => rw [same]; rfl
  | vouched takes => exact takes.subject

theorem Operation.AcceptsRequest.subject {r : Record} (accepts : op.AcceptsRequest r) :
    op.subject? = some r.id := by
  cases accepts with
  | called calls => cases calls <;> rfl
  | requested takes => exact takes.subject

theorem Tries.subject {r : Record} {step : Step Record} {sender : Option Did}
    (tries : Tries op r step sender) : op.subject? = some r.id := by
  cases tries with
  | requested accepts | cashAccepted accepts | committed accepts => exact accepts.subject
  | registered takes | countered takes | vouched takes | answered takes | witnessed takes
  | removed takes | paid takes | settled takes | credited takes | notarized takes
  | transferred takes | minted takes => exact takes.subject

/-- Only what is about a transfer fails it. -/
theorem Fails.subject {a : Agent} {r : Record} {problem : Problem} {recipients : List Did}
    (fails : Fails around op a r problem recipients) : op.subject? = some r.id := by
  cases fails with
  | refused tries => exact tries.subject
  | reported takes => exact takes.subject
  | aborted same => rw [same]; rfl

theorem Move.fails {a : Agent} {r : Record} {versions : List Record} {wallet ledger : Holding}
    {sent : List Dispatch} (move : Move around op a r versions wallet ledger sent)
    (failed : (versions.getLastD r).state = .failed) :
    ∃ problem recipients, Fails around op a r problem recipients ∧
      (versions.getLastD r).transfer.error = some problem ∧ wallet = a.wallet.release r.id ∧
      ledger = a.ledger.release r.id ∧ ∀ d ∈ sent, d.message.body = .problemReport problem := by
  cases move with
  | @failed problem recipients _ live fails =>
    refine ⟨problem, recipients, fails, rfl, rfl, rfl, fun d mem => ?_⟩
    obtain ⟨_, -, rfl⟩ := List.mem_map.mp mem
    rfl
  | transferred _ _ _ _ _ _ _ _ _ _ first second third =>
    subst first second third
    cases failed
  | _ => cases failed

/-! ### One deed -/

/-- No other problem of the transfer is reported. -/
def ReportsOnly (id : TransferId) (problem : Problem) (sent : List Dispatch) : Prop :=
  ∀ d ∈ sent, d.message.thread = id → ∀ reported, d.message.body = .problemReport reported →
    reported = problem

theorem ReportsOnly.append {problem : Problem} {sent sent' : List Dispatch}
    (first : ReportsOnly id problem sent) (rest : ReportsOnly id problem sent') :
    ReportsOnly id problem (sent ++ sent') := fun d mem =>
  (List.mem_append.mp mem).elim (first d) (rest d)

/-- Nothing that is sent reports a problem. -/
def Silent (sent : List Dispatch) : Prop := ∀ d ∈ sent, d.message.body.problem? = none

theorem silent_nil : Silent [] := by simp [Silent]

theorem Silent.append {sent sent' : List Dispatch} (first : Silent sent) (rest : Silent sent') :
    Silent (sent ++ sent') := fun d mem => (List.mem_append.mp mem).elim (first d) (rest d)

theorem Silent.reportsOnly {sent : List Dispatch} (silent : Silent sent) (problem : Problem) :
    ReportsOnly id problem sent := by
  intro d mem _ reported body
  have plain := silent d mem
  rw [body] at plain
  cases plain

theorem Dispatch.Loose.silent {d : Dispatch} {me : Did} (loose : d.Loose me) :
    d.message.body.problem? = none := by
  rcases loose with lost | asks
  · exact lost.plain
  · cases body : d.message.body <;> rw [body] at asks <;> trivial

structure Scene.Failed (id : TransferId) (r : Record) (s s' : Scene) : Prop where
  wallet : s.agent.wallet.Marked id s'.agent.wallet
  ledger : s.agent.ledger.Marked id s'.agent.ledger
  walletFree : ∀ n ∈ s'.agent.wallet.held, n.reservedBy ≠ some id
  ledgerFree : ∀ n ∈ s'.agent.ledger.held, n.reservedBy ≠ some id
  reported : ∃ problem sent, r.transfer.error = some problem ∧ s'.sent = s.sent ++ sent ∧
    ReportsOnly id problem sent

structure Scene.Running (id : TransferId) (s s' : Scene) : Prop where
  wallet : s.agent.wallet.Marked id s'.agent.wallet
  ledger : s.agent.ledger.Marked id s'.agent.ledger
  silent : ∃ sent, s'.sent = s.sent ++ sent ∧ Silent sent

structure Scene.Spared (s s' : Scene) : Prop where
  records : s'.agent.records = s.agent.records
  wallet : s'.agent.wallet = s.agent.wallet
  ledger : s'.agent.ledger = s.agent.ledger
  silent : ∃ sent, s'.sent = s.sent ++ sent ∧ Silent sent

def Agent.Unfailed (a : Agent) (id : TransferId) : Prop :=
  ∀ r, a.records.get? id = some r → r.state ≠ .failed

namespace Scene

variable {s s₁ s' : Scene} {a : Agent} {sent : List Dispatch} {r : Record}

theorem Leads.running (leads : s.Leads s' a sent) (wallet : s.agent.wallet.Marked id a.wallet)
    (ledger : s.agent.ledger.Marked id a.ledger) (silent : Silent sent) : s.Running id s' :=
  ⟨leads.agent ▸ wallet, leads.agent ▸ ledger, sent, leads.sent, silent⟩

theorem Leads.failed {problem : Problem} (leads : s.Leads s' a sent)
    (wallet : a.wallet = s.agent.wallet.release id) (ledger : a.ledger = s.agent.ledger.release id)
    (error : r.transfer.error = some problem)
    (reports : ∀ d ∈ sent, d.message.body = .problemReport problem) : s.Failed id r s' := by
  obtain rfl := leads.agent
  refine ⟨wallet ▸ Holding.release_marked _ id, ledger ▸ Holding.release_marked _ id,
    wallet ▸ Holding.release_free _ id, ledger ▸ Holding.release_free _ id, problem, sent, error,
    leads.sent, fun d mem _ reported body => ?_⟩
  cases body.symm.trans (reports d mem)
  rfl

theorem Leads.spared (leads : s.Leads s' a sent) (records : a.records = s.agent.records)
    (wallet : a.wallet = s.agent.wallet) (ledger : a.ledger = s.agent.ledger) (silent : Silent sent) :
    s.Spared s' :=
  ⟨leads.agent ▸ records, leads.agent ▸ wallet, leads.agent ▸ ledger, sent, leads.sent, silent⟩

theorem Running.refl (id : TransferId) (s : Scene) : s.Running id s :=
  ⟨.refl id _, .refl id _, [], by simp, silent_nil⟩

theorem Running.trans (first : s.Running id s₁) (rest : s₁.Running id s') : s.Running id s' := by
  obtain ⟨sent, same, silent⟩ := first.silent
  obtain ⟨sent', same', silent'⟩ := rest.silent
  refine ⟨first.wallet.trans rest.wallet, first.ledger.trans rest.ledger, sent ++ sent', ?_,
    silent.append silent'⟩
  rw [same', same, List.append_assoc]

theorem Running.failed (first : s.Running id s₁) (failed : s₁.Failed id r s') : s.Failed id r s' := by
  obtain ⟨sent, same, silent⟩ := first.silent
  obtain ⟨problem, sent', error, same', reports⟩ := failed.reported
  refine ⟨first.wallet.trans failed.wallet, first.ledger.trans failed.ledger, failed.walletFree,
    failed.ledgerFree, problem, sent ++ sent', error, ?_, (silent.reportsOnly problem).append reports⟩
  rw [same', same, List.append_assoc]

theorem Failed.spared (failed : s.Failed id r s₁) (spared : s₁.Spared s') : s.Failed id r s' := by
  obtain ⟨problem, sent, error, same, reports⟩ := failed.reported
  obtain ⟨sent', same', silent⟩ := spared.silent
  refine ⟨spared.wallet ▸ failed.wallet, spared.ledger ▸ failed.ledger,
    spared.wallet ▸ failed.walletFree, spared.ledger ▸ failed.ledgerFree, problem, sent ++ sent',
    error, ?_, reports.append (silent.reportsOnly problem)⟩
  rw [same', same, List.append_assoc]

theorem Spared.trans (first : s.Spared s₁) (rest : s₁.Spared s') : s.Spared s' := by
  obtain ⟨sent, same, silent⟩ := first.silent
  obtain ⟨sent', same', silent'⟩ := rest.silent
  refine ⟨rest.records.trans first.records, rest.wallet.trans first.wallet,
    rest.ledger.trans first.ledger, sent ++ sent', ?_, silent.append silent'⟩
  rw [same', same, List.append_assoc]

theorem Still.spared (still : s.Still s') : s.Spared s' :=
  Leads.spared still rfl rfl rfl silent_nil

theorem Spared.running (spared : s.Spared s') : s.Running id s' :=
  ⟨spared.wallet ▸ .refl id _, spared.ledger ▸ .refl id _, spared.silent⟩

end Scene

section
variable {s s' : Scene} {r : Record}

/-- The deed that fails a transfer frees what is reserved for it, and reports why. -/
theorem Deed.fails (deed : Deed around op s s') (before : s.agent.Unfailed id)
    (stored : s'.agent.records.get? id = some r) (failed : r.state = .failed) :
    op.subject? = some id ∧ s.Failed id r s' := by
  have known {a : Agent} (agent : s'.agent = a) (records : a.records = s.agent.records) : False := by
    rw [agent, records] at stored
    exact before r stored failed
  cases deed with
  | opened new unknown opens leads =>
    rw [leads.agent] at stored
    rcases stored_cases (Agent.opened_get? unknown) stored with ⟨-, rfl⟩ | ⟨-, old⟩
    · have live := opens.live
      rw [Record.isTerminal, failed] at live
      cases live
    · exact absurd failed (before r old)
  | moved old about versions wallet ledger sent known move leads =>
    rw [leads.agent] at stored
    rcases stored_cases (move.look known) stored with ⟨rfl, rfl⟩ | ⟨-, unmoved⟩
    · obtain ⟨problem, recipients, fails, error, rfl, rfl, reports⟩ := move.fails failed
      exact ⟨fails.subject, leads.failed rfl rfl error reports⟩
    · exact absurd failed (before r unmoved)
  | told sent loose asked leads => exact (known leads.agent rfl).elim
  | stranded old about inputs wallet found isOpen selected leads => exact (known leads.agent rfl).elim
  | unpaid old about inputs wallet missed found isOpen selected lost leads =>
    exact (known leads.agent rfl).elim
  | unvouched old about sender acceptance ledger missed found role state promised lost leads =>
    exact (known leads.agent rfl).elim
  | learned directory leads => exact (known leads.agent rfl).elim
  | announced event due leads => exact (known leads.agent rfl).elim

/-- A deed of an operation that goes on by itself, up to the end of the transfer, reserves notes
for the transfer or releases them, and no more. -/
theorem Deed.runs (deed : Deed around op s s') (subject : op.subject? = some id)
    (several : op.isSingle = false) (after : s'.agent.Unfailed id) :
    s.Running id s' ∨ ∃ r, s'.agent.records.get? id = some r ∧ r.isTerminal = true := by
  have named {r : Record} (about : op.Concerns r.id) : id = r.id := about id subject
  have other {sender : Did} {body : Body} {id : TransferId} (takes : op.Takes sender id body)
      (single : body.isSingle = true) : False := by
    rw [takes.isSingle, single] at several
    cases several
  cases deed with
  | opened r unknown opens leads => exact .inl (leads.running (.refl id _) (.refl id _) silent_nil)
  | moved r about versions wallet ledger sent stored move leads =>
    obtain rfl := named about
    have stored' : s'.agent.records.get? r.id = some (versions.getLastD r) := by
      rw [leads.agent]
      exact (move.look stored r.id).trans (if_pos rfl)
    cases move with
    | countered | requested | vouched | cashAccepted | answered =>
      refine .inl (leads.running (.refl r.id _) (.refl r.id _) ?_)
      simp [Silent, Agent.dispatch, Body.problem?]
    | committed isOpen toGetter byWitness inTime selected =>
      refine .inl (leads.running (Holding.select_marked selected) (.refl r.id _) ?_)
      simp [Silent, Agent.dispatch, Body.problem?]
    | credited | minted => exact .inr ⟨_, stored', rfl⟩
    | witnessed takes | removed takes | paid takes | settled takes | notarized takes
    | transferred takes => exact (other takes rfl).elim
    | failed => exact absurd rfl (after _ stored')
  | told sent loose asked leads =>
    exact .inl (leads.running (.refl id _) (.refl id _) fun d mem => (loose d mem).silent)
  | stranded r about inputs wallet stored isOpen selected leads =>
    obtain rfl := named about
    exact .inl (leads.running (Holding.select_marked selected) (.refl r.id _) silent_nil)
  | unpaid r about inputs wallet missed stored isOpen selected lost leads =>
    obtain rfl := named about
    have undone := (Holding.select_marked selected).trans (Holding.release_marked wallet r.id)
    exact .inl (leads.running undone (.refl r.id _) (by simpa [Silent] using lost.plain))
  | unvouched r about sender acceptance ledger missed stored role state promised lost leads takes =>
    exact (other takes rfl).elim
  | learned directory leads => exact .inl (leads.running (.refl id _) (.refl id _) silent_nil)
  | announced event due leads => exact .inl (leads.running (.refl id _) (.refl id _) silent_nil)

/-- What is about a transfer that is at its end does nothing. -/
theorem Deed.spares (deed : Deed around op s s') (subject : op.subject? = some id)
    (stored : s.agent.records.get? id = some r) (final : r.isTerminal = true) : s.Spared s' := by
  have live {old : Record} (about : op.Concerns old.id) (known : s.agent.records.get? old.id = some old)
      (running : old.isTerminal = false) : False := by
    obtain rfl := about id subject
    cases stored.symm.trans known
    cases final.symm.trans running
  cases deed with
  | opened new unknown opens leads =>
    obtain rfl : id = new.id := opens.concerns id subject
    cases stored.symm.trans unknown
  | moved old about versions wallet ledger sent known move leads => exact (live about known move.live).elim
  | told sent loose asked leads => exact leads.spared rfl rfl rfl fun d mem => (loose d mem).silent
  | stranded old about inputs wallet known isOpen selected leads =>
    exact (live about known (TransferState.live_of_canMoveTo (Step.canMoveTo_of_isRequested isOpen))).elim
  | unpaid old about inputs wallet missed known isOpen selected lost leads =>
    exact (live about known (TransferState.live_of_canMoveTo (Step.canMoveTo_of_isRequested isOpen))).elim
  | unvouched old about sender acceptance ledger missed known role state promised lost leads =>
    exact (live about known (by rw [Record.isTerminal, state]; rfl)).elim
  | learned directory leads => exact leads.spared rfl rfl rfl silent_nil
  | announced event due leads => exact leads.spared rfl rfl rfl silent_nil

end

/-! ### A whole operation -/

inductive Scene.Course (id : TransferId) (s s' : Scene) : Prop where
  | running (running : s.Running id s') (unfailed : s'.agent.Unfailed id)
  | failed (r : Record) (stored : s'.agent.records.get? id = some r) (state : r.state = .failed)
    (failed : s.Failed id r s')
  | ended (r : Record) (stored : s'.agent.records.get? id = some r) (final : r.isTerminal = true)
    (unfailed : r.state ≠ .failed)

section
variable {s s₁ s' : Scene} {r : Record}

theorem Scene.Course.spared (course : s.Course id s₁) (spared : s₁.Spared s') : s.Course id s' := by
  cases course with
  | running running unfailed =>
    refine .running (running.trans spared.running) ?_
    unfold Agent.Unfailed
    rw [spared.records]
    exact unfailed
  | failed r stored state failed => exact .failed r (spared.records ▸ stored) state (failed.spared spared)
  | ended r stored final unfailed => exact .ended r (spared.records ▸ stored) final unfailed

theorem Scene.Course.deed (course : s.Course id s₁) (deed : Deed around op s₁ s')
    (subject : op.subject? = some id) (several : op.isSingle = false) : s.Course id s' := by
  cases course with
  | running running unfailed =>
    by_cases after : s'.agent.Unfailed id
    · rcases deed.runs subject several after with next | ⟨r, stored, final⟩
      · exact .running (running.trans next) after
      · exact .ended r stored final (after r stored)
    · obtain ⟨r, stored, failed⟩ := by simpa only [Agent.Unfailed, not_forall, not_not] using after
      exact .failed r stored failed (running.failed (deed.fails unfailed stored failed).2)
  | failed r stored state failed =>
    exact Scene.Course.spared (.failed r stored state failed)
      (deed.spares subject stored (by rw [Record.isTerminal, state]; rfl))
  | ended r stored final unfailed =>
    exact Scene.Course.spared (.ended r stored final unfailed) (deed.spares subject stored final)

/-- An operation fails no transfer that it is not about. -/
theorem Deeds.unfailed (deeds : Deeds around op s s') (other : op.subject? ≠ some id)
    (before : s.agent.Unfailed id) : s'.agent.Unfailed id :=
  deeds.preserve (P := (Agent.Unfailed · id)) (fun _ _ unfailed deed _ stored failed =>
    other (deed.fails unfailed stored failed).1) before

/-- Whatever an operation has done before it fails a transfer is undone. -/
theorem Operation.step_fails (op : Operation) (around : Surroundings) (s : Scene)
    (before : s.agent.Unfailed id) :
    op.step.Ensures around s fun _ s' =>
      ∀ r, s'.agent.records.get? id = some r → r.state = .failed → s.Failed id r s' := by
  by_cases subject : op.subject? = some id
  · cases single : op.isSingle with
    | true =>
      refine (op.once_of_single single around s).mono fun _ s' once r stored failed => ?_
      rcases once with still | deed
      · exact absurd failed (before r (still.agent ▸ stored))
      · exact (deed.fails before stored failed).2
    | false =>
      refine (op.step_deeds around s).mono fun _ s' deeds r stored state => ?_
      have course : s.Course id s' := deeds.along (P := s.Course id)
        (fun _ _ course still => course.spared still.spared)
        (fun _ _ course deed => course.deed deed subject single) (.running (.refl id s) before)
      cases course with
      | running running unfailed => exact absurd state (unfailed r stored)
      | failed r' stored' _ failed =>
        cases stored.symm.trans stored'
        exact failed
      | ended r' stored' _ unfailed =>
        cases stored.symm.trans stored'
        exact absurd state unfailed
  · exact (op.step_deeds around s).mono fun _ s' deeds r stored failed =>
      absurd failed (deeds.unfailed subject before r stored)

/-- An operation about a transfer that is at its end changes no record and no holding. -/
theorem Operation.step_spares (op : Operation) (around : Surroundings) (s : Scene)
    (subject : op.subject? = some id) (stored : s.agent.records.get? id = some r)
    (final : r.isTerminal = true) : op.step.Ensures around s fun _ s' => s.Spared s' :=
  (op.step_deeds around s).mono fun _ _ deeds => deeds.along (P := s.Spared)
    (fun _ _ spared still => spared.trans still.spared)
    (fun _ _ spared deed => spared.trans (deed.spares subject (spared.records ▸ stored) final))
    (Scene.Still.spared (Scene.still_refl s))

end

/-- If a transfer fails, each holding has the same notes in the same order, with none reserved
for the transfer and the others reserved as before. -/
theorem failing_is_clean {a : Agent} {op : Operation} {around : Surroundings} {drawn looked : Nat}
    {id : TransferId} {r : Record} (before : ∀ old, a.records.get? id = some old → old.state ≠ .failed)
    (stored : (a.perform op around drawn looked).records.get? id = some r) (failed : r.state = .failed) :
    let b := a.perform op around drawn looked
    (a.wallet.Marked id b.wallet ∧ ∀ n ∈ b.wallet.held, n.reservedBy ≠ some id) ∧
    (a.ledger.Marked id b.ledger ∧ ∀ n ∈ b.ledger.held, n.reservedBy ≠ some id) ∧
    (∃ problem, r.transfer.error = some problem ∧
      ReportsOnly id problem (a.emits (.perform op around drawn looked))) ∧
    ∀ c, b.Becomes c → ∀ op' : Operation, op'.subject? = some id → ∀ around drawn looked,
      (c.perform op' around drawn looked).wallet = c.wallet ∧
      (c.perform op' around drawn looked).ledger = c.ledger := by
  have clean : Scene.Failed id r ⟨a, drawn, looked, []⟩ (op.step.perform around ⟨a, drawn, looked, []⟩).2 :=
    Step.ensures_perform (op.step_fails around ⟨a, drawn, looked, []⟩ before) r stored failed
  have final : r.isTerminal = true := by rw [Record.isTerminal, failed]; rfl
  refine ⟨⟨clean.wallet, clean.walletFree⟩, ⟨clean.ledger, clean.ledgerFree⟩, ?_, ?_⟩
  · obtain ⟨problem, sent, error, same, reports⟩ := clean.reported
    have emitted : a.emits (.perform op around drawn looked) = sent := same
    exact ⟨problem, error, emitted ▸ reports⟩
  · intro c later op' subject around' drawn' looked'
    obtain ⟨last, stored', onward⟩ := later.onward stored
    obtain rfl := onward.final final
    have spared := Step.ensures_perform
      (op'.step_spares around' ⟨c, drawn', looked', []⟩ subject stored' final)
    exact ⟨spared.wallet, spared.ledger⟩

namespace Market

def reporting : Arrival := arrival witness "sale" (.problemReport ⟨Failure.abortedCode, "given up"⟩)

end Market

/-- The coin is reserved for the sale, and free again when it has failed. -/
theorem failing_is_clean_sale :
    Market.seller.wallet.held = [⟨Market.coin, some ⟨"sale"⟩⟩] ∧
    (Market.seller.take Market.reporting).wallet.held = [⟨Market.coin, none⟩] ∧
    ∀ c, (Market.seller.take Market.reporting).Becomes c → ∀ op : Operation,
      op.subject? = some ⟨"sale"⟩ → ∀ around drawn looked,
        (c.perform op around drawn looked).wallet = c.wallet := by
  have before : ∀ old, Market.seller.records.get? ⟨"sale"⟩ = some old → old.state ≠ .failed := by
    have open_yet : (Market.seller.records.get? ⟨"sale"⟩).all (·.state ≠ .failed) = true := by
      decide +kernel
    simpa [Option.all_eq_true] using open_yet
  have after : ((Market.seller.take Market.reporting).records.get? ⟨"sale"⟩).any (·.state = .failed) =
      true := by decide +kernel
  simp only [Option.any_eq_true, decide_eq_true_eq] at after
  obtain ⟨r, stored, failed⟩ := after
  obtain ⟨-, -, -, later⟩ := failing_is_clean before stored failed
  exact ⟨by decide +kernel, by decide +kernel,
    fun c becomes op subject around drawn looked => (later c becomes op subject around drawn looked).1⟩

end WitnessedTransfer
