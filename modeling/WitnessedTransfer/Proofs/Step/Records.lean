import WitnessedTransfer.Proofs.Step.Rules

/-! What an agent's records hold after one of them has been created or moved on, and the rules for
the two steps that do so. -/
namespace WitnessedTransfer

namespace RecordStore

theorem get?_id {store : RecordStore} {id : TransferId} {r : Record} (h : store.get? id = some r) :
    r.id = id := by
  simpa using List.find?_some h

def added (store : RecordStore) (r : Record) : RecordStore where
  records := store.records ++ [r]
  threads := index r.thread r.id store.threads
  journal := store.journal ++ [r]

def rewritten (store : RecordStore) (r : Record) : RecordStore :=
  { store with records := replace r store.records, journal := store.journal ++ [r] }

theorem create_of_unknown {store : RecordStore} {r : Record} (unknown : store.get? r.id = none) :
    store.create r = .ok (store.added r) := by
  simp [create, unknown, added]

theorem create_of_known {store : RecordStore} {r old : Record} (known : store.get? r.id = some old) :
    store.create r = .error (.duplicateTransfer r.id) := by
  simp [create, known]

theorem update_of_known {store : RecordStore} {r old : Record} (known : store.get? r.id = some old) :
    store.update r = .ok (store.rewritten r) := by
  simp [update, known, rewritten]

theorem get?_added {store : RecordStore} {r : Record} (unknown : store.get? r.id = none)
    (id : TransferId) :
    (store.added r).get? id = if id = r.id then some r else store.get? id := by
  simp only [get?, added, List.find?_append] at unknown ⊢
  split
  next same => subst same; simp [unknown]
  next other =>
    have : ¬r.id = id := fun h => other h.symm
    simp [this]

/-- What is put in place of a record bears its name. -/
theorem find?_replace (r : Record) (id : TransferId) (records : List Record) :
    (replace r records).find? (·.id = id) =
      (records.find? (·.id = id)).map fun old => if old.id = r.id then r else old := by
  have named (old : Record) : (if old.id = r.id then r else old).id = old.id := by
    split
    next same => exact same.symm
    next => rfl
  rw [replace, List.find?_map]
  simp only [Function.comp_def, named]

theorem get?_rewritten {store : RecordStore} {r old : Record} (known : store.get? r.id = some old)
    (id : TransferId) :
    (store.rewritten r).get? id = if id = r.id then some r else store.get? id := by
  have look : (store.rewritten r).get? id =
      (store.get? id).map fun old => if old.id = r.id then r else old := find?_replace r id _
  rw [look]
  by_cases same : id = r.id
  · rw [same, known, Option.map_some, if_pos (get?_id known), if_pos rfl]
  · rw [if_neg same]
    cases found : store.get? id with
    | none => rfl
    | some other =>
      have apart : ¬other.id = r.id := get?_id found ▸ same
      rw [Option.map_some, if_neg apart]

theorem get?_purge (store : RecordStore) (purged id : TransferId) :
    (store.purge purged).get? id = if id = purged then none else store.get? id := by
  unfold purge
  split
  next unknown =>
    split
    next same => rw [same, unknown]
    next => rfl
  next =>
    simp only [get?, List.find?_filter]
    split
    next same =>
      rw [List.find?_eq_none]
      rintro r -
      simp [same]
    next other =>
      congr 1
      funext r
      by_cases named : r.id = id <;> simp [named, other]

end RecordStore

/-- What is stored after one record has been put in is that record, or was stored before. -/
theorem stored_cases {get? get?' : TransferId → Option Record} {tx id : TransferId} {r r' : Record}
    (look : ∀ id, get?' id = if id = tx then some r else get? id) (stored : get?' id = some r') :
    id = tx ∧ r' = r ∨ id ≠ tx ∧ get? id = some r' := by
  rw [look] at stored
  by_cases same : id = tx
  · rw [if_pos same] at stored
    exact .inl ⟨same, (Option.some.inj stored).symm⟩
  · rw [if_neg same] at stored
    exact .inr ⟨same, stored⟩

def Record.moved (r : Record) (next : TransferState) (change : Transfer → Transfer)
    (now : Instant) : Record :=
  { r with transfer := { change r.transfer with state := next }, updatedAt := now }

section
variable (r : Record) (next : TransferState) (change : Transfer → Transfer) (now : Instant)

@[simp] theorem Record.moved_id : (r.moved next change now).id = r.id := rfl
@[simp] theorem Record.moved_role : (r.moved next change now).role = r.role := rfl
@[simp] theorem Record.moved_state : (r.moved next change now).state = next := rfl
@[simp] theorem Record.moved_transfer :
    (r.moved next change now).transfer = { change r.transfer with state := next } := rfl

end

namespace Agent

/-- The agent with a new record, of which it has told. -/
def opened (a : Agent) (r : Record) : Agent :=
  { a with records := a.records.added r, bus := a.bus.publish (.stateChanged r) }

/-- The agent with a record in place of the one of that name, of which it has told. -/
def wrote (a : Agent) (r : Record) : Agent :=
  { a with records := a.records.rewritten r, bus := a.bus.publish (.stateChanged r) }

theorem opened_get? {a : Agent} {r : Record} (unknown : a.records.get? r.id = none)
    (id : TransferId) :
    (a.opened r).records.get? id = if id = r.id then some r else a.records.get? id :=
  RecordStore.get?_added unknown id

theorem wrote_get? {a : Agent} {r old : Record} (known : a.records.get? r.id = some old)
    (id : TransferId) :
    (a.wrote r).records.get? id = if id = r.id then some r else a.records.get? id :=
  RecordStore.get?_rewritten known id

theorem opened_stored {a : Agent} {r : Record} (unknown : a.records.get? r.id = none) :
    (a.opened r).records.get? r.id = some r :=
  (opened_get? unknown r.id).trans (if_pos rfl)

theorem wrote_stored {a : Agent} {r old : Record} (known : a.records.get? r.id = some old) :
    (a.wrote r).records.get? r.id = some r :=
  (wrote_get? known r.id).trans (if_pos rfl)

end Agent

namespace Step

variable {β : Type} {around : Surroundings} {s : Scene}

/-- What is told of is what is stored. -/
theorem announce_then {id : TransferId} {r : Record} {f : Unit → Step β}
    {post : Except Fault β → Scene → Prop} (stored : s.agent.records.get? id = some r)
    (go : (f ()).Ensures around
      (s.become { s.agent with bus := s.agent.bus.publish (.stateChanged r) }) post) :
    (announce id >>= f).Ensures around s post :=
  ensures_bind.mpr (load_passed stored go)

theorem ensures_create {r : Record} {post : Except Fault Record → Scene → Prop}
    (go : s.agent.records.get? r.id = none → post (.ok r) (s.become (s.agent.opened r)))
    (stop : ∀ old, s.agent.records.get? r.id = some old →
      post (.error (.failure (.duplicateTransfer r.id))) s) :
    (create r).Ensures around s post := by
  apply agent_then
  cases known : s.agent.records.get? r.id with
  | none =>
    rw [RecordStore.create_of_unknown known]
    exact ensures_bind.mpr (announce_then (Agent.opened_stored known) (go known))
  | some old =>
    rw [RecordStore.create_of_known known]
    exact stop old known

theorem create_then {r : Record} {f : Record → Step β} {post : Except Fault β → Scene → Prop}
    (go : s.agent.records.get? r.id = none →
      (f r).Ensures around (s.become (s.agent.opened r)) post)
    (stop : ∀ old, s.agent.records.get? r.id = some old →
      post (.error (.failure (.duplicateTransfer r.id))) s) :
    (create r >>= f).Ensures around s post := ensures_bind.mpr (ensures_create go stop)

/-- A record that is stored can be moved on wherever its state allows it. -/
theorem ensures_transition {r old : Record} {next : TransferState} {change : Transfer → Transfer}
    {post : Except Fault Record → Scene → Prop}
    (stored : s.agent.records.get? r.id = some old) (can : r.state.canMoveTo next = true)
    (go : post (.ok (r.moved next change (around.instant s.looked)))
      (s.look.become (s.agent.wrote (r.moved next change (around.instant s.looked))))) :
    (transition r next change).Ensures around s post := by
  unfold transition
  simp only [can, Bool.not_true, Bool.false_eq_true, if_false]
  refine now_then (agent_then ?_)
  have known : s.look.agent.records.get? (r.moved next change (around.instant s.looked)).id
      = some old := stored
  rw [← Record.moved, RecordStore.update_of_known known]
  exact ensures_bind.mpr (announce_then (Agent.wrote_stored known) go)

theorem transition_then {r old : Record} {next : TransferState} {change : Transfer → Transfer}
    {f : Record → Step β} {post : Except Fault β → Scene → Prop}
    (stored : s.agent.records.get? r.id = some old) (can : r.state.canMoveTo next = true)
    (go : (f (r.moved next change (around.instant s.looked))).Ensures around
      (s.look.become (s.agent.wrote (r.moved next change (around.instant s.looked)))) post) :
    (transition r next change >>= f).Ensures around s post :=
  ensures_bind.mpr (ensures_transition stored can go)

/-- Whatever comes of moving a record on, its name stays and nothing is sent. -/
theorem transition_silent {r : Record} {next : TransferState} {change : Transfer → Transfer} :
    (transition r next change).Ensures around s fun result s' =>
      s'.sent = s.sent ∧ ∀ r', result = .ok r' → r'.id = r.id := by
  unfold transition
  have refused (cause : Failure) (r' : Record) :
      (.error (.failure cause) : Except Fault Record) = .ok r' → r'.id = r.id := nofun
  refine guard_then (fun _ => ⟨rfl, refused _⟩) fun _ => now_then (agent_then ?_)
  refine orRefuse_then (fun records _ => changeAgent_then ?_) fun cause _ => ⟨rfl, refused cause⟩
  refine ensures_bind.mpr (load_then (fun _ _ => ⟨rfl, fun r' same => ?_⟩) fun cause => ⟨rfl, refused cause⟩)
  cases same
  rfl

theorem transition_silent_then {r : Record} {next : TransferState} {change : Transfer → Transfer}
    {f : Record → Step β} {post : Except Fault β → Scene → Prop}
    (go : ∀ r' s', r'.id = r.id → s'.sent = s.sent → (f r').Ensures around s' post)
    (stop : ∀ fault s', s'.sent = s.sent → post (.error fault) s') :
    (transition r next change >>= f).Ensures around s post :=
  transition_silent.andThen (fun r' s' ⟨sent, named⟩ => go r' s' (named r' rfl) sent)
    fun fault s' ⟨sent, _⟩ => stop fault s' sent

end Step
end WitnessedTransfer
