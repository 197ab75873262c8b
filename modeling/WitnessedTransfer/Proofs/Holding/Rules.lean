import WitnessedTransfer.Proofs.Holding.Changes

/-! Rules for reasoning about changes of a holding, for changes that break off as well. `Ensures` says what
holds of the result of a change and of the holding it leaves; each rule takes one action off the front of a
change. -/
namespace WitnessedTransfer.Holding.Change

variable {α β : Type} {h h' : Holding} {post : Except Fault β → Holding → Prop}

def Ensures (change : Change α) (h : Holding) (post : Except Fault α → Holding → Prop) : Prop :=
  post (change.run.run h).1 (change.run.run h).2

/-- The change is refused, and nothing has been done by then. -/
def Refuses (change : Change α) (h : Holding) (cause : Failure) : Prop :=
  change.run.run h = (.error (.failure cause), h)

theorem Ensures.mono {change : Change β} {weaker : Except Fault β → Holding → Prop}
    (ensured : change.Ensures h post) (imp : ∀ result h', post result h' → weaker result h') :
    change.Ensures h weaker := imp _ _ ensured

theorem Ensures.of_makes {change : Change β} {b : β} (ensured : change.Ensures h post)
    (makes : change.Makes h b h') : post (.ok b) h' := by
  unfold Ensures at ensured
  rwa [makes] at ensured

theorem makes_of_ensures {change : Change β} {b : β}
    (ensured : change.Ensures h fun result left => result = .ok b ∧ left = h') : change.Makes h b h' :=
  Prod.ext ensured.1 ensured.2

theorem refuses_of_ensures {change : Change β} {cause : Failure}
    (ensured : change.Ensures h fun result left => result = .error (.failure cause) ∧ left = h) :
    change.Refuses h cause := Prod.ext ensured.1 ensured.2

def andThen (f : α → Change β) (post : Except Fault β → Holding → Prop) : Except Fault α → Holding → Prop
  | .ok a, h => (f a).Ensures h post
  | .error fault, h => post (.error fault) h

theorem ensures_bind {x : Change α} {f : α → Change β} :
    (x >>= f).Ensures h post ↔ x.Ensures h (andThen f post) := by
  unfold Ensures
  rw [ExceptT.run_bind, StateT.run_bind]
  cases x.run.run h with
  | mk result h₁ => cases result <;> rfl

theorem ensures_pure {b : β} (holds : post (.ok b) h) : (pure b : Change β).Ensures h post := holds

theorem ensures_refuse {cause : Failure} (holds : post (.error (.failure cause)) h) :
    (refuse cause : Change β).Ensures h post := holds

/-- Uses what is known of the first part of a change. -/
theorem Ensures.andThen {x : Change α} {f : α → Change β} {first : Except Fault α → Holding → Prop}
    (ensured : x.Ensures h first) (go : ∀ a h₁, first (.ok a) h₁ → (f a).Ensures h₁ post)
    (stop : ∀ fault h₁, first (.error fault) h₁ → post (.error fault) h₁) : (x >>= f).Ensures h post := by
  refine ensures_bind.mpr (ensured.mono fun result h₁ holds => ?_)
  cases result with
  | ok a => exact go a h₁ holds
  | error fault => exact stop fault h₁ holds

theorem get_then {f : Holding → Change β} (go : (f h).Ensures h post) : (get >>= f).Ensures h post :=
  ensures_bind.mpr go

theorem modify_then {f : Unit → Change β} {change : Holding → Holding}
    (go : (f ()).Ensures (change h) post) : (modify change >>= f).Ensures h post := ensures_bind.mpr go

theorem bump_then {f : Unit → Change β}
    (go : (f ()).Ensures { h with sequence := h.sequence + 1 } post) : (bump >>= f).Ensures h post :=
  modify_then go

theorem orOverflow_then {x : Except Overflow α} {f : α → Change β}
    (go : ∀ a, x = .ok a → (f a).Ensures h post)
    (stop : ∀ cause, x = .error cause → post (.error (.overflow cause)) h) :
    (orOverflow x >>= f).Ensures h post := by
  refine ensures_bind.mpr ?_
  cases x with
  | ok a => exact go a rfl
  | error cause => exact stop cause rfl

/-- A sum that is known to fit stops nothing. -/
theorem orOverflow_passed {x : Except Overflow α} {f : α → Change β} {a : α} (known : x = .ok a)
    (go : (f a).Ensures h post) : (orOverflow x >>= f).Ensures h post := by
  subst known
  exact ensures_bind.mpr go

end WitnessedTransfer.Holding.Change
