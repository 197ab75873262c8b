import WitnessedTransfer.Proofs.Ledger.DoubleSpending
import WitnessedTransfer.Proofs.Record.Binding
import WitnessedTransfer.Proofs.Step.Frames
import WitnessedTransfer.Proofs.Step.Unrefused

/-! What a message makes of the transfers that a witness keeps: which request leaves one waiting for
its giver, and which acceptance notarizes it. A mint waits for nobody; it is recorded or fails,
unless a sum in it is too large. -/
namespace WitnessedTransfer

/-- The witness has taken the request down and waits for the giver. -/
def Record.Waiting (r : Record) : Prop := r.role = .witness ∧ r.state = .requestReceived

structure Balanced (amount : Decimal) (getter giver : Did) (inputs outputs : List Note) : Prop where
  positive : ∀ note ∈ inputs ++ outputs, 0 < note.value
  distinct : ((inputs ++ outputs).map Note.id).Nodup
  totals : ∃ valueIn valueOut, Note.total inputs = .ok valueIn ∧ Note.total outputs = .ok valueOut ∧
    valueIn ≈ valueOut
  owners : ∀ note ∈ outputs, note.owner = getter ∨ note.owner = giver
  paid : ∃ value, Note.total (Note.ownedBy getter outputs) = .ok value ∧ value ≈ amount

structure Notarizes (r : Record) (sender : Did) (acceptance : Acceptance) (last : Record) : Prop where
  waiting : r.Waiting
  getter : last.transfer.getter = r.transfer.getter
  giver : last.transfer.giver = some sender
  amount : last.transfer.amount = r.transfer.amount
  inputs : last.transfer.inputs = acceptance.inputs
  outputs : last.transfer.outputs = acceptance.outputs
  balanced : ∀ getter ∈ r.transfer.getter,
    Balanced r.transfer.amount getter sender acceptance.inputs acceptance.outputs

section
variable {around : Surroundings} {op : Operation} {a : Agent} {r : Record} {versions : List Record}
  {wallet ledger : Holding} {sent : List Dispatch}

theorem Move.not_waiting (move : Move around op a r versions wallet ledger sent) :
    ¬(versions.getLastD r).Waiting :=
  fun waiting => move.not_requested waiting.2

theorem Move.notarizes (move : Move around op a r versions wallet ledger sent)
    (notarized : (versions.getLastD r).Notarized) : ∃ sender acceptance,
      op.Takes sender r.id (.requestAccepted acceptance) ∧
        Notarizes r sender acceptance (versions.getLastD r) := by
  obtain ⟨-, state⟩ := notarized
  cases move with
  | @notarized sender getter acceptance _ _ _ takes role waiting _ _ toGetter _ _ _ conserved promised =>
    refine ⟨sender, acceptance, takes, ⟨role, waiting⟩, rfl, rfl, rfl, rfl, rfl, fun getter' known => ?_⟩
    cases toGetter.symm.trans known
    obtain ⟨inputs, outputs⟩ := Step.checkConservation_ok conserved
    obtain ⟨totals, owners⟩ := Step.checkConservation_balanced conserved
    have positive {notes : List Note} (checked : ∀ note ∈ notes, 0 < note.value.value) :
        ∀ note ∈ notes, 0 < note.value := fun note mem => by
      rw [Decimal.lt_iff_value, Decimal.value_zero]
      exact checked note mem
    refine ⟨fun note mem => ?_, ?_, totals, owners, Step.checkConservation_paid conserved⟩
    · exact (List.mem_append.mp mem).elim (positive (Note.check_ok inputs).1 note)
        (positive (Note.check_ok outputs).1 note)
    · rw [List.map_append]
      refine List.Nodup.append (Note.check_ok inputs).2 (Note.check_ok outputs).2 ?_
      intro name input output
      obtain ⟨note, mem, rfl⟩ := List.mem_map.mp output
      exact Step.promiseNotes_apart promised note mem input
  | transferred _ _ _ _ _ _ _ _ _ _ first second third =>
    subst first second third
    cases state
  | _ => cases state

end

/-! ### One message -/

section
variable {around : Surroundings} {sender : Did} {message : Message} {s s' : Scene} {a : Agent}
  {x : Arrival} {r : Record} {id : TransferId}

theorem Opens.thread (opens : Opens (.receive sender message) a r) : r.id = message.thread :=
  (opens.concerns.thread_eq rfl).symm

/-- A message leaves alone what it is not about. -/
theorem Deed.elsewhere (deed : Deed around (.receive sender message) s s') (other : id ≠ message.thread) :
    s'.agent.records.get? id = s.agent.records.get? id := by
  have writes := deed.writes
  generalize s'.agent.records = records at writes
  cases writes with
  | opened r unknown opens =>
    rw [RecordStore.get?_added unknown, opens.thread, if_neg other]
  | moved r about stored move =>
    rw [move.look stored, ← about.thread_eq rfl, if_neg other]
  | nothing => rfl

theorem Agent.take_elsewhere (other : id ≠ x.message.thread) :
    (a.take x).records.get? id = a.records.get? id := by
  obtain ⟨s', same, deeds⟩ := a.take_deeds x
  rw [← same]
  exact deeds.preserve (P := fun b => b.records.get? id = a.records.get? id)
    (fun _ _ kept deed => (deed.elsewhere other).trans kept) rfl

def Arrival.Registers (x : Arrival) (r : Record) : Prop :=
  (∃ request, x.message.body = .request request ∧ request.getter = x.sender ∧
    r.transfer.getter = some request.getter ∧ r.transfer.amount = request.amount) ∨
  ∃ mint, x.message.body = .mint mint

theorem Opens.registers (opens : Opens (.receive x.sender x.message) a r) (waiting : r.Waiting) :
    x.Registers r := by
  obtain ⟨role, state⟩ := waiting
  cases opens with
  | request same | offer same | mint same => cases same
  | offered | requested => cases role
  | registered takes fromGetter =>
    obtain ⟨rfl, message⟩ := takes.eq_of_receive
    exact .inl ⟨_, takes.body_eq, fromGetter, rfl, rfl⟩
  | minted takes => exact .inr ⟨_, takes.body_eq⟩

/-- What waits at a witness after a message has waited before, or has been opened by it. -/
theorem Agent.take_waiting_cases (stored : (a.take x).records.get? x.message.thread = some r)
    (waiting : r.Waiting) : a.records.get? x.message.thread = some r ∨
      a.records.get? x.message.thread = none ∧ x.Registers r := by
  obtain ⟨s', same, deeds⟩ := a.take_deeds x
  rw [← same] at stored
  refine (deeds.preserve (P := fun b =>
    (b.records.get? x.message.thread = none → a.records.get? x.message.thread = none) ∧
    ∀ r, b.records.get? x.message.thread = some r → r.Waiting →
      a.records.get? x.message.thread = some r ∨
        a.records.get? x.message.thread = none ∧ x.Registers r) ?_ ?_).2 r stored waiting
  · rintro s₁ s₂ ⟨unknown, before⟩ deed
    have writes := deed.writes
    generalize s₂.agent.records = records at writes
    refine ⟨fun none_after => unknown ?_, fun r stored waiting => ?_⟩
    · cases known : s₁.agent.records.get? x.message.thread with
      | none => rfl
      | some r =>
        rcases writes.stored known with same | ⟨_, _, _, _, _, moved⟩
        · rw [none_after] at same; cases same
        · rw [none_after] at moved; cases moved
    · cases writes with
      | opened new unknown' opens =>
        rcases stored_cases (RecordStore.get?_added unknown') stored with ⟨named, rfl⟩ | ⟨-, old⟩
        · exact .inr ⟨unknown (named ▸ unknown'), opens.registers waiting⟩
        · exact before r old waiting
      | moved old about known move =>
        rcases stored_cases (move.look known) stored with ⟨-, rfl⟩ | ⟨-, old⟩
        · exact absurd waiting move.not_waiting
        · exact before r old waiting
      | nothing => exact before r stored waiting
  · exact ⟨id, fun r stored _ => .inl stored⟩

/-- What is notarized after a deed has been so before, or the deed has notarized it. -/
theorem Deed.notarizes {op : Operation} (deed : Deed around op s s')
    (stored : s'.agent.records.get? id = some r) (notarized : r.Notarized) :
    s.agent.records.get? id = some r ∨ ∃ sender acceptance r₀,
      op.Takes sender id (.requestAccepted acceptance) ∧ s.agent.records.get? id = some r₀ ∧
        Notarizes r₀ sender acceptance r := by
  have writes := deed.writes
  generalize s'.agent.records = records at writes stored
  cases writes with
  | opened new unknown opens =>
    rcases stored_cases (RecordStore.get?_added unknown) stored with ⟨-, rfl⟩ | ⟨-, old⟩
    · exact absurd notarized opens.not_notarized
    · exact .inl old
  | moved old about known move =>
    rcases stored_cases (move.look known) stored with ⟨rfl, rfl⟩ | ⟨-, same⟩
    · obtain ⟨sender, acceptance, takes, notarizes⟩ := move.notarizes notarized
      exact .inr ⟨sender, acceptance, old, takes, known, notarizes⟩
    · exact .inl same
  | nothing => exact .inl stored

/-- What is notarized after a message has been so before, or the message is the giver's acceptance. -/
theorem Agent.take_notarized (stored : (a.take x).records.get? x.message.thread = some r)
    (notarized : r.Notarized) : a.records.get? x.message.thread = some r ∨ ∃ acceptance r₀,
      x.message.body = .requestAccepted acceptance ∧
        a.records.get? x.message.thread = some r₀ ∧ Notarizes r₀ x.sender acceptance r := by
  cases body : x.message.body with
  | requestAccepted acceptance =>
    obtain ⟨s', same, once⟩ := a.take_once x (by rw [body]; rfl)
    rw [← same] at stored
    rcases once with still | deed
    · rw [still.agent] at stored
      exact .inl stored
    · rcases deed.notarizes stored notarized with old | ⟨sender, acceptance', r₀, takes, known, notarizes⟩
      · exact .inl old
      · obtain ⟨rfl, -⟩ := takes.eq_of_receive
        cases body.symm.trans takes.body_eq
        exact .inr ⟨acceptance, r₀, rfl, known, notarizes⟩
  | _ =>
    obtain ⟨s', same, deeds⟩ := a.take_deeds x
    rw [← same] at stored
    refine .inl (deeds.preserve (P := fun b => ∀ r, b.records.get? x.message.thread = some r →
      r.Notarized → a.records.get? x.message.thread = some r) ?_ (fun _ old _ => old) r stored notarized)
    intro s₁ s₂ before deed r stored notarized
    rcases deed.notarizes stored notarized with old | ⟨_, _, _, takes, -⟩
    · exact before r old notarized
    · cases body.symm.trans takes.body_eq

end
/-! ### Requests and mints that do not wait -/

theorem Note.checkAfter_error {id : TransferId} {seen : List NoteId} {notes : List Note}
    {cause : Failure} (refused : Note.checkAfter id seen notes = .error cause) :
    cause.isValidation = true := by
  induction notes generalizing seen with
  | nil => cases refused
  | cons note rest ih =>
    simp only [Note.checkAfter] at refused
    split at refused
    next => cases refused; rfl
    next =>
      split at refused
      next => cases refused; rfl
      next => exact ih refused

namespace Holding.Change

variable {α β : Type} {P : Failure → Prop}

def FailsWith (P : Failure → Prop) (change : Change α) : Prop :=
  ∀ h cause, (change.run.run h).1 = .error (.failure cause) → P cause

theorem Unrefused.failsWith {change : Change α} (unrefused : change.Unrefused) : change.FailsWith P :=
  fun h cause same => absurd same (unrefused h cause)

theorem failsWith_refuse {cause : Failure} (holds : P cause) : (refuse cause : Change α).FailsWith P := by
  rintro h cause' ⟨⟩
  exact holds

theorem FailsWith.bind {x : Change α} {f : α → Change β} (first : x.FailsWith P)
    (rest : ∀ a, (f a).FailsWith P) : (x >>= f).FailsWith P := by
  intro h cause
  have before := first h
  rw [ExceptT.run_bind, StateT.run_bind]
  cases ran : x.run.run h with
  | mk result h₁ =>
    cases result with
    | ok a => exact rest a h₁ cause
    | error fault =>
      rw [ran] at before
      intro same
      cases (show (Except.error fault : Except Fault β) = .error (.failure cause) from same)
      exact before cause rfl

theorem FailsWith.attempt {change : Change α} (fails : change.FailsWith P) {h : Holding} {cause : Failure}
    (refused : change.attempt h = .error (.failure cause)) : P cause := by
  unfold Change.attempt at refused
  split at refused
  next => cases refused
  next same =>
    cases refused
    exact fails h cause (congrArg Prod.fst same)

end Holding.Change

namespace Step

open Holding Holding.Change

variable {around : Surroundings} {s : Scene} {r : Record} {sender : Did} {id : TransferId}

/-- Notes that are in the ledger already fail a check. -/
theorem expectUnknown_failsWith (notes : List Note) :
    (expectUnknown notes).FailsWith fun cause => cause.isValidation = true := by
  refine unrefused_get.failsWith.bind fun ledger => ?_
  split
  next => exact failsWith_refuse rfl
  next => exact (unrefused_pure ()).failsWith

/-- New notes are refused for their names, if at all. -/
theorem issueNotes_failsWith (notes : List Note) :
    (issueNotes notes).FailsWith fun cause => cause.isValidation = true :=
  (expectUnknown_failsWith notes).bind fun _ => (receive_unrefused notes).failsWith.bind fun _ =>
    (unrefused_pure ()).failsWith

def Decided {α : Type} (id : TransferId) (result : Except Fault α) (s : Scene) : Prop :=
  (∃ cause, result = .error (.overflow cause)) ∨
    ∀ r, s.agent.records.get? id = some r → r.state ≠ .requestReceived

theorem decided_of_unknown {α : Type} {result : Except Fault α} {s' : Scene}
    (unknown : s.agent.records.get? id = none) (same : s'.agent = s.agent) : Decided id result s' := by
  refine .inr fun r stored => ?_
  rw [same, unknown] at stored
  cases stored

theorem decided_map {α β : Type} {x : Step α} {f : α → β} (decides : x.Ensures around s (Decided id)) :
    (x >>= fun a => pure (f a)).Ensures around s (Decided id) :=
  decides.andThen
    (fun _ _ decided => ensures_pure _ (decided.imp (fun ⟨_, same⟩ => nomatch same) fun after => after))
    fun _ _ decided => decided.imp (fun ⟨cause, same⟩ => ⟨cause, by cases same; rfl⟩) fun after => after

theorem decided_of_failed {a : Agent} {problem : Problem} {now : Instant} {s' : Scene}
    {result : Except Fault Record} (stored : a.records.get? r.id = some r)
    (failed : s'.agent = a.failed r problem now) : Decided r.id result s' := by
  refine .inr fun r' stored' state => ?_
  have look := Agent.wrote_stored (r := r.failed problem now) stored
  rw [failed] at stored'
  cases look.symm.trans stored'
  cases state

/-- A step that decides a transfer or is refused by a check has decided it once it is settled. -/
theorem settle_decides {step : Step Record} {told : Option Did} (live : r.isTerminal = false)
    (stored : s.agent.records.get? r.id = some r)
    (decides : step.Ensures around s fun result s' =>
      Decided r.id result s' ∧ (∀ cause, result = .error (.failure cause) → cause.isValidation = false) ∨
      s'.agent = s.agent ∧ ∃ cause, result = .error (.failure cause) ∧ cause.isValidation = true) :
    (settle r told step).Ensures around s (Decided r.id) := by
  refine ensures_tryCatch decides (fun r' s' first => ?_) fun fault s' first => ?_
  · rcases first with ⟨decided, -⟩ | ⟨-, _, same, -⟩
    · exact decided
    · cases same
  · rcases first with ⟨decided, unchecked⟩ | ⟨agent, cause, same, check⟩
    · cases fault with
      | overflow cause => exact .inl ⟨cause, rfl⟩
      | failure cause =>
        simp only [unchecked cause rfl]
        exact ensures_refuse cause (decided.imp (fun ⟨_, same⟩ => nomatch same) fun after => after)
    · cases same
      simp only [check, if_true]
      exact (fail_leaves live (agent ▸ stored)).mono fun _ _ ⟨now, _, failed⟩ =>
        decided_of_failed stored (agent ▸ failed)

theorem recordMint_decides {mint : MintRequest} (stored : s.agent.records.get? r.id = some r)
    (state : r.state = .requestReceived) :
    (settle r (some sender) (recordMint r mint)).Ensures around s (Decided r.id) := by
  apply settle_decides (by rw [Record.isTerminal, state]; rfl) stored
  unfold recordMint
  have overflow {s' : Scene} (cause : Overflow) :
      Decided r.id (.error (.overflow cause) : Except Fault Record) s' ∧ ∀ cause', (.error
        (.overflow cause) : Except Fault Record) = .error (.failure cause') → cause'.isValidation = false := by
    refine ⟨.inl ⟨cause, rfl⟩, ?_⟩
    rintro cause' ⟨⟩
  refine orRefuse_then (fun _ _ => ?_) fun cause refused => .inr ⟨rfl, cause, rfl, Note.checkAfter_error refused⟩
  refine total_then (fun value _ => ?_) fun cause => .inl (overflow cause)
  apply guard_then (fun _ => .inr ⟨rfl, _, rfl, rfl⟩)
  intro _
  split
  next => exact refused_then (.inr ⟨rfl, _, rfl, rfl⟩)
  next =>
    refine changeLedger_then (fun _ ledger _ => ?_) fun fault refused => ?_
    · refine transition_then stored (by rw [state]; rfl) ?_
      generalize moved : r.moved _ _ _ = last
      have known : s.agent.records.get? last.id = some r := by rw [← moved]; exact stored
      have completed {sent : List Dispatch} {result : Except Fault Record} :
          Decided r.id result (((s.become { s.agent with ledger }).look.become
            ({ s.agent with ledger }.wrote last)).emit sent) := by
        refine .inr fun r' stored' state' => ?_
        have look := (Agent.wrote_get? (a := { s.agent with ledger }) known r.id).trans
          (if_pos (by rw [← moved]; rfl))
        cases look.symm.trans stored'
        rw [← moved] at state'
        cases state'
      refine send_then (fun _ => ensures_pure _ (.inl ⟨completed, ?_⟩))
        fun failure _ => .inl ⟨completed, ?_⟩
      · rintro cause ⟨⟩
      · rintro cause ⟨⟩
        rfl
    · cases fault with
      | failure cause => exact .inr ⟨rfl, cause, rfl, (issueNotes_failsWith _).attempt refused⟩
      | overflow cause => exact .inl (overflow cause)

theorem receiveMint_decides {mint : MintRequest} (unknown : s.agent.records.get? id = none) :
    (receiveMint sender id mint).Ensures around s (Decided id) := by
  refine guard_then (fun _ => decided_of_unknown unknown rfl) fun _ => find_then ?_
  rw [unknown]
  refine me_then (newRecord_then (create_then (fun fresh => ?_) fun _ known => ?_))
  · exact recordMint_decides (Agent.opened_stored fresh) rfl
  · exact absurd known (by rw [Scene.look_agent]; simp [Record.new, Transfer.new, unknown])

theorem registerWitnessed_leaves {request : PaymentRequest} :
    (registerWitnessed id request).Ensures around s fun result s' =>
      (∃ r, result = .ok r ∧ s'.agent.records.get? id = some r ∧ r.state = .requestReceived) ∨
        s'.agent = s.agent ∧ ∃ fault, result = .error fault :=
  me_then (newRecord_then (ensures_create
    (fun unknown => .inl ⟨_, rfl, Agent.opened_stored unknown, rfl⟩)
    fun _ _ => .inr ⟨rfl, _, rfl⟩))

/-- A request for nothing leaves no transfer waiting. -/
theorem receiveBody_request_decides {request : PaymentRequest} (unknown : s.agent.records.get? id = none)
    (nothing : ¬0 < request.amount) :
    (receiveBody sender id (.request request)).Ensures around s (Decided id) := by
  have idle {s' : Scene} (same : s'.agent = s.agent) {result : Except Fault Record} :
      Decided id result s' := decided_of_unknown unknown same
  apply config_then
  split
  next =>
    apply decided_map
    unfold witnessRequest
    apply guard_then (fun _ => idle rfl)
    intro _
    refine expectNamed_then (fun _ => find_then ?_) fun _ => idle rfl
    rw [unknown]
    refine registerWitnessed_leaves.andThen ?_ ?_
    · rintro r s' (⟨r', same, stored, state⟩ | ⟨-, _, same⟩)
      · cases same
        rw [if_neg nothing]
        obtain rfl := RecordStore.get?_id stored
        exact settle_decides (by rw [Record.isTerminal, state]; rfl) stored
          (ensures_refuse _ (.inr ⟨rfl, _, rfl, rfl⟩))
      · cases same
    · rintro fault s' (⟨_, same, -⟩ | ⟨agent, -⟩)
      · cases same
      · exact idle agent
  next =>
    apply decided_map
    refine config_then (me_then (guard_then (fun _ => idle rfl) fun _ => ?_))
    cases request.giver.filter (· ≠ s.agent.did) with
    | some _ =>
      apply refused_then
      exact idle rfl
    | none =>
      apply find_then
      rw [unknown]
      refine ensures_bind.mpr (expectPositive_then (fun positive => ?_) (idle rfl))
      rw [Decimal.le_iff_value, Decimal.value_zero, not_le] at positive
      rw [Decimal.lt_iff_value, Decimal.value_zero] at nothing
      exact absurd positive nothing

end Step

/-! ### Runs -/

namespace Agent

/-- What comes of a message: the result, and the scene after it. -/
def taking (a : Agent) (x : Arrival) : Except Fault Outcome × Scene :=
  (Operation.receive x.sender x.message).step.perform x.around ⟨a, x.drawn, x.looked, []⟩

def sends (a : Agent) (x : Arrival) : List Dispatch := (a.taking x).2.sent

/-- The message does not end in a sum that no amount can hold. -/
def Withstands (a : Agent) (x : Arrival) : Prop := ∀ cause, (a.taking x).1 ≠ .error (.overflow cause)

instance (a : Agent) (x : Arrival) : Decidable (a.Withstands x) :=
  match h : (a.taking x).1 with
  | .error (.overflow cause) => isFalse fun withstands => withstands cause h
  | .error (.failure _) | .ok _ => isTrue fun _ panics => nomatch h.symm.trans panics

def WithstandsAll (a : Agent) : List Arrival → Prop
  | [] => True
  | x :: rest => a.Withstands x ∧ (a.take x).WithstandsAll rest

instance (a : Agent) (xs : List Arrival) : Decidable (a.WithstandsAll xs) :=
  match xs with
  | [] => isTrue trivial
  | x :: rest =>
    have := instDecidableWithstandsAll (a.take x) rest
    inferInstanceAs (Decidable (a.Withstands x ∧ (a.take x).WithstandsAll rest))

theorem withstandsAll_snoc {a : Agent} {xs : List Arrival} {x : Arrival} :
    a.WithstandsAll (xs ++ [x]) ↔ a.WithstandsAll xs ∧ (a.takeAll xs).Withstands x := by
  induction xs generalizing a with
  | nil => simp [WithstandsAll, takeAll]
  | cons y rest ih => simp only [List.cons_append, WithstandsAll, ih, and_assoc]; rfl

theorem takeAll_snoc (a : Agent) (xs : List Arrival) (x : Arrival) :
    a.takeAll (xs ++ [x]) = (a.takeAll xs).take x := by
  simp [takeAll]

variable {a : Agent} {x : Arrival} {r : Record}

theorem taking_decided {body : Body} (same : x.message.body = body) (withstands : a.Withstands x)
    (decides : ∀ s : Scene, s.agent = a → (Step.receiveBody x.sender x.message.thread body).Ensures
      x.around s (Step.Decided x.message.thread)) (unknown : a.records.get? x.message.thread = none)
    (stored : (a.take x).records.get? x.message.thread = some r) : r.state ≠ .requestReceived := by
  have received : (Step.receive x.sender x.message).Ensures x.around ⟨a, x.drawn, x.looked, []⟩
      (Step.Decided x.message.thread) := by
    apply Step.config_then
    split
    next => exact Step.ensures_pure _ (Step.decided_of_unknown (s := ⟨a, x.drawn, x.looked, []⟩) unknown rfl)
    next => exact same ▸ decides _ rfl
  rcases Step.ensures_perform (Step.decided_map (f := Outcome.record) received) with ⟨cause, panics⟩ | after
  · exact absurd panics (withstands cause)
  · exact after r stored

/-- What waits at a witness after a message has waited before, or the message is a request for
something by its getter. -/
theorem take_waiting (withstands : a.Withstands x)
    (stored : (a.take x).records.get? x.message.thread = some r) (waiting : r.Waiting) :
    a.records.get? x.message.thread = some r ∨ a.records.get? x.message.thread = none ∧
      ∃ request, x.message.body = .request request ∧ request.getter = x.sender ∧
        r.transfer.getter = some request.getter ∧ r.transfer.amount = request.amount ∧
        0 < request.amount := by
  rcases take_waiting_cases stored waiting with
    old | ⟨unknown, ⟨request, body, fromGetter, getter, amount⟩ | ⟨mint, body⟩⟩
  · exact .inl old
  · refine .inr ⟨unknown, request, body, fromGetter, getter, amount, ?_⟩
    by_contra nothing
    exact taking_decided body withstands
      (fun s same => Step.receiveBody_request_decides (same ▸ unknown) nothing) unknown stored waiting.2
  · exact absurd waiting.2 (taking_decided body withstands
      (fun s same => Step.decided_map (Step.receiveMint_decides (same ▸ unknown))) unknown stored)

end Agent

end WitnessedTransfer
