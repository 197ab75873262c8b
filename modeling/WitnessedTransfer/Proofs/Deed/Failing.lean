import WitnessedTransfer.Proofs.Deed.Versions

/-! Failing a transfer is one deed, and what a step for a transfer comes to with its failure
counted in. -/
namespace WitnessedTransfer.Step

variable {around : Surroundings} {op : Operation} {s : Scene} {r : Record}

theorem report_then {β : Type} {id : TransferId} {problem : Problem} {recipients : List Did}
    {f : Unit → Step β} {post : Except Fault β → Scene → Prop}
    (go : (f ()).Ensures around (s.emit (recipients.map fun did =>
      s.agent.dispatch around did ⟨id, .problemReport problem⟩ none)) post) :
    (report id problem recipients >>= f).Ensures around s post := by
  apply ensures_bind.mpr
  induction recipients generalizing s with
  | nil => simpa [report, Scene.emit, andThen, Ensures] using go
  | cons first rest ih =>
    refine post_then (ih ?_)
    simpa [Scene.emit] using go

theorem fail_handled {problem : Problem} {recipients : List Did} (about : op.Concerns r.id)
    (stored : s.agent.records.get? r.id = some r)
    (fails : Fails around op s.agent r problem recipients) :
    (fail r problem recipients).Ensures around s (Handled around op s r.id) := by
  unfold fail
  split
  next => exact ensures_pure r (.idle stored)
  next live =>
    have live : r.isTerminal = false := by simpa using live
    have can : r.state.canMoveTo .failed = true := by
      simpa [Record.isTerminal] using live
    refine releaseWallet_then (releaseLedger_then ?_)
    refine transition_then stored can (me_then (report_then (ensures_pure _ ?_)))
    refine .record (.inr (.moved r about [_] _ _ _ stored (.failed live fails) ⟨rfl, rfl, ?_, ?_⟩)) ?_
    · exact Nat.le_refl _
    · exact Nat.le_succ _
    · exact Agent.wrote_stored (r := r.moved _ _ _) stored

/-- A check that does not hold fails the transfer; any other end of a step stays as it is. -/
theorem settle_then {step : Step Record} {sender : Option Did} {done : Record → Scene → Prop}
    {post : Except Fault Record → Scene → Prop} (about : op.Concerns r.id)
    (stored : s.agent.records.get? r.id = some r) (tries : Tries op r step sender)
    (h : step.Ensures around s (Ended around op s done))
    (ok : ∀ r' s', done r' s' → post (.ok r') s')
    (handled : ∀ result s', Handled around op s r.id result s' → post result s') :
    (settle r sender step).Ensures around s post := by
  have performed : step.Ensures around s fun result s' =>
      (step.perform around s).1 = result ∧ Ended around op s done result s' := ⟨rfl, h⟩
  refine ensures_tryCatch performed ?_ ?_
  · rintro r' s' ⟨-, ended⟩
    cases ended with
    | done reached => exact ok r' s' reached
  · rintro fault s' ⟨result, ended⟩
    cases ended with
    | @refused cause s' still =>
      dsimp only
      split
      next check =>
        have stored' : s'.agent.records.get? r.id = some r := by rw [still.agent]; exact stored
        have fails := Fails.refused tries still.agent.symm result check
        exact (fail_handled about stored' fails).mono fun result s'' ⟨once, kept⟩ =>
          handled result s'' ⟨once.after still, kept⟩
      next => exact ensures_refuse cause (handled _ _ (.fault (.inl still)))
    | broken unchecked once =>
      cases fault with
      | failure cause =>
        simp only [unchecked cause rfl]
        exact ensures_refuse cause (handled _ _ (.fault once))
      | overflow cause => exact handled _ _ (.fault once)

theorem settle_handled {step : Step Record} {sender : Option Did} (about : op.Concerns r.id)
    (stored : s.agent.records.get? r.id = some r) (tries : Tries op r step sender)
    (h : step.Ensures around s (Ended around op s (Reached around op s r.id))) :
    (settle r sender step).Ensures around s (Handled around op s r.id) :=
  settle_then about stored tries h (fun _ _ reached => .record (.inr reached.2) reached.1) fun _ _ h => h

theorem abort_handled {id : TransferId} {code : Option String} {comment : String}
    (same : op = .abort id code comment) :
    (abort id code comment).Ensures around s (Handled around op s id) := by
  have about : op.Concerns id := op.concerns_of_subject (by rw [same]; rfl)
  unfold abort
  refine load_then (fun r stored => ?_) fun _ => .fault (.inl (Scene.still_refl s))
  obtain rfl := RecordStore.get?_id stored
  exact guard_then (fun _ => .fault (.inl (Scene.still_refl s))) fun _ =>
    fail_handled about stored (.aborted same)

theorem receiveProblemReport_handled {sender : Did} {id : TransferId} {problem : Problem}
    (takes : op.Takes sender id (.problemReport problem)) :
    (receiveProblemReport sender id problem).Ensures around s (Handled around op s id) := by
  unfold receiveProblemReport
  refine load_then (fun r stored => ?_) fun _ => .fault (.inl (Scene.still_refl s))
  obtain rfl := RecordStore.get?_id stored
  split
  next => exact ensures_pure r (.idle stored)
  next counts =>
    obtain ⟨-, participant⟩ : r.isTerminal = false ∧ r.transfer.isParticipant sender = true := by
      simpa using counts
    exact fail_handled takes.concerns stored (.reported takes participant)

end WitnessedTransfer.Step
