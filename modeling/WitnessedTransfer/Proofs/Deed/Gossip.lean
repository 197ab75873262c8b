import WitnessedTransfer.Agent.Gossip
import WitnessedTransfer.Proofs.Deed.Basic

/-! What agents tell each other of witnesses comes to. -/
namespace WitnessedTransfer.Step

variable {around : Surroundings} {op : Operation} {s : Scene}

theorem changeDirectory_deeds {change : Directory → Directory} (due : op.Gossips) :
    (changeDirectory change).Ensures around s fun _ s' => Deeds around op s s' :=
  (Deed.learned _ (Scene.leads_become s _) due).deeds

theorem receiveTable_deeds {table : WitnessTable} (due : op.Gossips) :
    (receiveTable table).Ensures around s fun _ s' => Deeds around op s s' := by
  apply deeds_then (changeDirectory_deeds due)
  intro _ s₁
  exact (Deed.announced _ (.table table) (Scene.leads_become s₁ _)).deeds

/-- What is sent under a new name. -/
theorem leads_named (s : Scene) (sent : List Dispatch) :
    s.Leads (s.draw.emit sent) s.agent sent := ⟨rfl, rfl, Nat.le_succ _, Nat.le_refl _⟩

theorem table_loose {a : Agent} {recipient : Did} {id : TransferId} {table : WitnessTable}
    {hint : Option TransportHint} :
    (a.dispatch around recipient ⟨id, .witnessTable table⟩ hint).Loose a.did := by
  simp [Dispatch.Loose, Agent.dispatch]

theorem answerQuery_deeds {sender : Did}
    (asks : op = .answerQuery sender ∨ ∃ asked, op.Takes sender asked .witnessTableQuery) :
    (answerQuery sender).Ensures around s fun _ s' => Deeds around op s s' := by
  have told (id : TransferId) : Deed around op s (s.draw.emit
      [s.agent.dispatch around sender ⟨id, .witnessTable s.agent.directory.table⟩ none]) :=
    .told _ (by simpa using table_loose) (by simpa [Agent.dispatch] using fun _ => .answer asks)
      (leads_named s _)
  refine agent_then (newTransferId_then (send_then (fun _ => ?_) fun _ _ => (told _).deeds))
  refine Ensures.mono ?_ fun _ _ => Deeds.step (told ⟨around.fresh s.drawn⟩)
  have due : op.Gossips := asks.elim .answers fun ⟨_, takes⟩ => .asked takes
  exact deeds_then (changeDirectory_deeds due) fun _ s' => ensures_pure _ (.still (Scene.still_refl s'))

theorem requestTable_deeds {witness : Did} (same : op = .requestTable witness) :
    (requestTable witness).Ensures around s fun _ s' => Deeds around op s s' := by
  have told (id : TransferId) : Deed around op s
      (s.draw.emit [s.agent.dispatch around witness ⟨id, .witnessTableQuery⟩ none]) :=
    .told _ (by simp [Dispatch.Loose, Agent.dispatch])
      (by simpa [Agent.dispatch] using fun _ => .query same) (leads_named s _)
  exact newTransferId_then (ensures_send (fun _ => (told _).deeds) fun _ _ => (told _).deeds)

theorem ensures_spread {table : WitnessTable} {parties : List Did}
    {post : Except Fault (List Did) → Scene → Prop}
    (go : ∀ missed sent s', (∀ d ∈ sent, Dispatch.Loose d s.agent.did) →
      (∀ d ∈ sent, ∃ id, Dispatch.message d = ⟨id, .witnessTable table⟩) →
      s.Leads s' s.agent sent → post (.ok missed) s') :
    (spread table parties).Ensures around s post := by
  induction parties generalizing s post with
  | nil => exact go [] [] s (by simp) (by simp) (Scene.still_refl s)
  | cons first rest ih =>
    refine newTransferId_then (post_then (ensures_bind.mpr
      (ih fun missed sent s' loose tables leads => ?_)))
    refine ensures_pure _ (go _ _ s' ?_ ?_ ((leads_named s [_]).trans leads))
    · exact List.forall_mem_cons.mpr ⟨table_loose, loose⟩
    · exact List.forall_mem_cons.mpr ⟨⟨_, rfl⟩, tables⟩

theorem propagate_deeds (same : op = .propagate) :
    propagate.Ensures around s fun _ s' => Deeds around op s s' := by
  refine agent_then (ensures_bind.mpr (ensures_spread fun missed sent s₁ loose tables leads => ?_))
  have asked : ∀ d ∈ sent, d.failure = none → Asks op s.agent d.message := by
    intro d mem _
    obtain ⟨id, message⟩ := tables d mem
    exact message ▸ .spread same
  refine Ensures.mono (deeds_then (changeDirectory_deeds (.propagates same)) fun _ s' => ensures_pure _ ?_)
    fun _ _ => Deeds.step (.told sent loose asked leads)
  exact .still (Scene.still_refl s')

end WitnessedTransfer.Step
