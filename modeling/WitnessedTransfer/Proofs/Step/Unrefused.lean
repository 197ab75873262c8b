import WitnessedTransfer.Agent.Closing
import WitnessedTransfer.Proofs.Step.Records

/-! Steps that nothing refuses. A getter or giver that takes its witness's word goes on when the word
fits what it has: then there is nothing in the way but a sum that is too large. -/
namespace WitnessedTransfer

namespace Holding

variable {α β : Type}

def Change.Unrefused (change : Change α) : Prop :=
  ∀ h cause, (change.run.run h).1 ≠ .error (.failure cause)

theorem Change.unrefused_pure (a : α) : (pure a : Change α).Unrefused := nofun

theorem Change.unrefused_get : (get : Change Holding).Unrefused := nofun

theorem Change.unrefused_modify (f : Holding → Holding) : (modify f : Change Unit).Unrefused := nofun

theorem Change.unrefused_orOverflow (x : Except Overflow α) : (orOverflow x : Change α).Unrefused := by
  cases x <;> nofun

theorem Change.Unrefused.bind {x : Change α} {f : α → Change β} (first : x.Unrefused)
    (rest : ∀ a, (f a).Unrefused) : (x >>= f).Unrefused := by
  intro h cause
  have before := first h
  rw [ExceptT.run_bind, StateT.run_bind]
  cases ran : x.run.run h with
  | mk result h₁ =>
    cases result with
    | ok a => exact rest a h₁ cause
    | error fault =>
      rw [ran] at before
      intro same
      cases (show (Except.error fault : Except Fault β) = .error (.failure cause) from same)
      exact before cause rfl

theorem Change.Unrefused.attempt {change : Change α} (unrefused : change.Unrefused) {h : Holding}
    {cause : Failure} : change.attempt h ≠ .error (.failure cause) := by
  have ran := unrefused h cause
  unfold Change.attempt
  split
  next => simp
  next same =>
    rw [same] at ran
    simpa using ran

theorem bump_unrefused : Change.bump.Unrefused := Change.unrefused_modify _

theorem consume_unrefused (names : List NoteId) : (consume names).Unrefused := by
  refine Change.unrefused_get.bind fun h => (Change.unrefused_orOverflow _).bind fun before => ?_
  refine (Change.unrefused_modify _).bind fun _ => Change.unrefused_get.bind fun h' => ?_
  refine (Change.unrefused_orOverflow _).bind fun after => (Change.unrefused_orOverflow _).bind fun removed => ?_
  split
  · exact bump_unrefused.bind fun _ => Change.unrefused_pure _
  · exact Change.unrefused_pure _

theorem addNew_unrefused (notes : List Note) (added : Decimal) : (addNew added notes).Unrefused := by
  induction notes generalizing added with
  | nil => exact Change.unrefused_pure _
  | cons note rest ih =>
    refine Change.unrefused_get.bind fun h => ?_
    split
    · exact ih added
    · exact (Change.unrefused_modify _).bind fun _ => (Change.unrefused_orOverflow _).bind fun sum => ih sum

theorem receive_unrefused (notes : List Note) : (receive notes).Unrefused := by
  refine (addNew_unrefused notes 0).bind fun added => ?_
  split
  · exact bump_unrefused.bind fun _ => Change.unrefused_pure _
  · exact Change.unrefused_pure _

theorem exchange_unrefused (names : List NoteId) (notes : List Note) :
    (exchange names notes).Unrefused :=
  (consume_unrefused names).bind fun _ => (receive_unrefused notes).bind fun _ => Change.unrefused_pure _

end Holding

namespace Step

variable {β : Type} {around : Surroundings} {s : Scene} {r : Record}

def Unrefused (step : Step β) (around : Surroundings) (s : Scene) : Prop :=
  step.Ensures around s fun result _ => ∀ cause, result ≠ .error (.failure cause)

theorem unrefused_ok (b : β) (cause : Failure) :
    (.ok b : Except Fault β) ≠ .error (.failure cause) := nofun

theorem unrefused_overflow (cause : Overflow) (other : Failure) :
    (.error (.overflow cause) : Except Fault β) ≠ .error (.failure other) := nofun

/-! ### Actions that are known to pass -/

section
variable {α : Type} {post : Except Fault β → Scene → Prop}

theorem require_passed {id : TransferId} {party : String} {did : Option Did} {d : Did} {f : Did → Step β}
    (known : did = some d) (go : (f d).Ensures around s post) :
    (require id party did >>= f).Ensures around s post := by
  rw [known]
  exact ensures_bind.mpr go

theorem expectParty_passed {expected : Option Did} {actual : Did} {f : Unit → Step β}
    (same : Expects expected actual) (go : (f ()).Ensures around s post) :
    (expectParty r expected actual >>= f).Ensures around s post := by
  apply ensures_bind.mpr
  cases expected with
  | none => exact go
  | some d =>
    simp only [expectParty, expects_some.mp same, if_true]
    exact go

theorem expectAmount_passed {actual : Decimal} {f : Unit → Step β} (same : actual ≈ r.transfer.amount)
    (go : (f ()).Ensures around s post) : (expectAmount r actual >>= f).Ensures around s post := by
  apply ensures_bind.mpr
  rw [expectAmount, if_pos same]
  exact go

theorem expectNotes_passed {notes : List Note} {f : Unit → Step β} (go : (f ()).Ensures around s post) :
    (expectNotes notes (notes.map Note.id) >>= f).Ensures around s post := by
  have all_named : ((notes.map Note.id).find? (· ∉ notes.map Note.id)) = none := by
    rw [List.find?_eq_none]
    intro note mem
    simpa using mem
  apply ensures_bind.mpr
  simp only [expectNotes, all_named, Option.or_none]
  exact go

theorem orOverflow_passed {x : Except Overflow α} {a : α} {f : α → Step β} (known : x = .ok a)
    (go : (f a).Ensures around s post) : (orOverflow x >>= f).Ensures around s post := by
  rw [known]
  exact ensures_bind.mpr go

theorem total_passed {notes : List Note} {d : Decimal} {f : Decimal → Step β} (sum : Note.total notes = .ok d)
    (go : (f d).Ensures around s post) : (total notes >>= f).Ensures around s post := orOverflow_passed sum go

theorem changeWallet_passed {change : Holding.Change α} {a : α} {wallet : Holding} {f : α → Step β}
    (made : change.attempt s.agent.wallet = .ok (a, wallet))
    (go : (f a).Ensures around (s.become { s.agent with wallet }) post) :
    (changeWallet change >>= f).Ensures around s post := by
  refine changeWallet_then (fun a' wallet' made' => ?_) fun fault broken => nomatch made.symm.trans broken
  cases made.symm.trans made'
  exact go

theorem changeLedger_passed {change : Holding.Change α} {a : α} {ledger : Holding} {f : α → Step β}
    (made : change.attempt s.agent.ledger = .ok (a, ledger))
    (go : (f a).Ensures around (s.become { s.agent with ledger }) post) :
    (changeLedger change >>= f).Ensures around s post := by
  refine changeLedger_then (fun a' ledger' made' => ?_) fun fault broken => nomatch made.symm.trans broken
  cases made.symm.trans made'
  exact go

end

/-! ### Parts of the protocol -/

theorem noteCashWitnessed_unrefused {sender : Did} {cash : WitnessedCash}
    (stored : s.agent.records.get? r.id = some r) (state : r.state = .requestAcceptedSent)
    (fromWitness : Expects r.transfer.witness sender) (amount : cash.amount ≈ r.transfer.amount) :
    (noteCashWitnessed r sender cash).Unrefused around s := by
  refine expectParty_passed fromWitness (expectAmount_passed amount ?_)
  exact ensures_transition stored (by rw [state]; rfl) (unrefused_ok _)

theorem removeCash_unrefused {sender : Did} {removal : CashRemoval}
    (stored : s.agent.records.get? r.id = some r) (can : r.state.canMoveTo .cashRemoved = true)
    (fromWitness : Expects r.transfer.witness sender)
    (named : removal.removed = r.transfer.inputs.map Note.id) :
    (removeCash r sender removal).Unrefused around s := by
  refine expectParty_passed fromWitness ?_
  rw [named]
  apply expectNotes_passed
  split
  next =>
    refine me_then (changeWallet_then (fun _ wallet _ => ?_) fun fault faulty cause same => ?_)
    · exact ensures_transition stored can (unrefused_ok _)
    · cases same
      exact (Holding.exchange_unrefused _ _).attempt faulty
  next => exact ensures_transition stored can (unrefused_ok _)

theorem settleWallet_unrefused {receipt : Receipt}
    (enough : r.role = .getter → ∃ paid, Note.total (receipt.notesFor s.agent.did) = .ok paid ∧
      paid ≈ r.transfer.amount) :
    (settleWallet r receipt).Ensures around s fun result s' =>
      s'.agent.records = s.agent.records ∧ ∀ cause, result ≠ .error (.failure cause) := by
  apply me_then
  cases role : r.role with
  | getter =>
    obtain ⟨paid, sum, worth⟩ := enough role
    refine total_then (fun value sum' => ?_) fun cause => ⟨rfl, unrefused_overflow cause⟩
    cases sum.symm.trans sum'
    refine expectAmount_passed worth ?_
    refine changeWallet_then (fun _ wallet _ => ⟨rfl, nofun⟩) fun fault faulty => ⟨rfl, ?_⟩
    rintro cause ⟨⟩
    exact (Holding.receive_unrefused _).attempt faulty
  | giver =>
    dsimp only
    rw [← bind_pure (changeWallet _)]
    refine changeWallet_then (fun _ wallet _ => ⟨rfl, nofun⟩) fun fault faulty => ⟨rfl, ?_⟩
    rintro cause ⟨⟩
    exact (Holding.exchange_unrefused _ _).attempt faulty
  | witness | issuer => exact ⟨rfl, unrefused_ok ()⟩

theorem complete_unrefused {sender : Did} {receipt : Receipt}
    (stored : s.agent.records.get? r.id = some r) (can : r.state.canMoveTo .completed = true)
    (fromWitness : Expects r.transfer.witness sender) (amount : receipt.amount ≈ r.transfer.amount)
    (enough : r.role = .getter → ∃ paid, Note.total (receipt.notesFor s.agent.did) = .ok paid ∧
      paid ≈ r.transfer.amount) :
    (complete r sender receipt).Unrefused around s := by
  refine expectParty_passed fromWitness (expectAmount_passed amount ?_)
  split
  next =>
    refine (settleWallet_unrefused enough).andThen (fun _ s' ⟨records, _⟩ => ?_)
      fun fault _ ⟨_, unrefused⟩ cause same => ?_
    · exact ensures_transition (records ▸ stored) can (unrefused_ok _)
    · cases same
      exact unrefused cause rfl
  next => exact ensures_transition stored can (unrefused_ok _)

end Step
end WitnessedTransfer
