import WitnessedTransfer.Proofs.Ledger.Issuing

/-! Which messages open a transfer. A message for a thread without a record is of one of three kinds, which
open one if their content allows it, or it is turned away before anything is done. A giver's acceptance
counts as opening a transfer too, but it is turned away like those that go on with one. -/
namespace WitnessedTransfer

namespace Body

/-- The step that looks up the transfer with which a message goes on. -/
def continues? : Body → Option String
  | .requestAccepted _ => some "process_request_accepted"
  | .requestAcceptedWitnessed _ => some "process_request_acceptance_witnessed"
  | .cashAccepted _ => some "process_cash_accepted"
  | .cashAcceptedWitnessed _ => some "process_cash_acceptance_witnessed"
  | .cashRemoved _ => some "process_cash_removed"
  | .getterReceipt _ | .giverReceipt _ => some "process_receipt"
  | .mintResponse _ => some "process_cash_mint_response"
  | .problemReport _ => some "process_problem_report"
  | .request _ | .offer _ | .mint _ | .witnessTable _ | .witnessTableQuery => none

/-- What is said of witnesses and not of a transfer. -/
def isGossip : Body → Bool
  | .witnessTable _ | .witnessTableQuery => true
  | _ => false

/-- A message about a transfer opens it or goes on with it; only a giver's acceptance is said to do the one
and does the other. -/
theorem continues?_eq_none_iff {body : Body} (about : body.isGossip = false) :
    body.continues? = none ↔ body.isInitiating = true ∧ body.kind ≠ "request-accepted" := by
  cases body with
  | witnessTable | witnessTableQuery => cases about
  | requestAccepted => simp [continues?, kind]
  | request | offer | mint => simp [continues?, isInitiating, kind]
  | _ => simp [continues?, isInitiating]

/-- Which messages are said to open a transfer is told by their kind. -/
theorem isInitiating_iff {body : Body} :
    body.isInitiating = true ↔ body.kind ∈ ["request", "offer", "request-accepted", "mint"] := by
  cases body <;> simp [isInitiating, kind]

end Body

namespace Step

variable {around : Surroundings} {s : Scene} {sender : Did} {id : TransferId} {operation : String}

theorem ensures_not_found {f : Record → Step Record} {g : Record → Option Record}
    (unknown : s.agent.records.get? id = none) :
    ((load id operation >>= f) >>= fun r => pure (g r)).Ensures around s fun result s' =>
      (result, s') = (.error (.failure (.notFound id operation)), s) := by
  apply ensures_bind.mpr
  exact load_or_not_found (fun r stored => nomatch unknown.symm.trans stored) rfl

/-- Each of these parts looks its transfer up first. -/
theorem receiveBody_unknown {body : Body} (continues : body.continues? = some operation)
    (unknown : s.agent.records.get? id = none) :
    (receiveBody sender id body).Ensures around s fun result s' =>
      (result, s') = (.error (.failure (.notFound id operation)), s) := by
  cases body with
  | request | offer | mint | witnessTable | witnessTableQuery => cases continues
  | _ =>
    cases continues
    exact ensures_not_found unknown

/-- The witness's kinds do not come that far at an agent that is no witness. -/
theorem receive_unknown {message : Message} (continues : message.body.continues? = some operation)
    (unknown : s.agent.records.get? message.thread = none) :
    (receive sender message).perform around s =
      (if message.body.needsWitness && !s.agent.config.isWitness then .ok none
        else .error (.failure (.notFound message.thread operation)), s) := by
  have turned : (receive sender message).Ensures around s fun result s' => (result, s') =
      (if message.body.needsWitness && !s.agent.config.isWitness then .ok none
        else .error (.failure (.notFound message.thread operation)), s) := by
    apply config_then
    split
    next => exact ensures_pure _ rfl
    next => exact receiveBody_unknown continues unknown
  exact ensures_perform turned

end Step

section
variable {around : Surroundings} {sender : Did} {message : Message} {a : Agent} {r : Record} {s s' : Scene}

/-- A record is opened by a message of one of three kinds. -/
theorem Opens.continues?_eq_none (opens : Opens (.receive sender message) a r) :
    message.body.continues? = none ∧ message.body.isGossip = false := by
  cases opens with
  | request same | offer same | mint same => cases same
  | offered takes | requested takes | registered takes | minted takes =>
    rw [takes.body_eq]
    exact ⟨rfl, rfl⟩

theorem Deed.opens_of_unknown (deed : Deed around (.receive sender message) s s')
    (unknown : s.agent.records.get? message.thread = none)
    (known : s'.agent.records.get? message.thread ≠ none) :
    message.body.continues? = none ∧ message.body.isGossip = false := by
  have writes := deed.writes
  generalize s'.agent.records = records at writes known
  cases writes with
  | opened r _ opens => exact opens.continues?_eq_none
  | moved r about stored => exact nomatch (about.thread_eq rfl ▸ stored).symm.trans unknown
  | nothing => exact absurd unknown known

/-- Whatever an agent is like: only these messages give it a record for a thread that it does not know. -/
theorem Agent.take_opens {a : Agent} {x : Arrival} (unknown : a.records.get? x.message.thread = none)
    (known : (a.take x).records.get? x.message.thread ≠ none) :
    x.message.body.continues? = none ∧ x.message.body.isGossip = false := by
  obtain ⟨s', same, deeds⟩ := a.take_deeds x
  rw [← same] at known
  have opened : s'.agent.records.get? x.message.thread = none ∨
      x.message.body.continues? = none ∧ x.message.body.isGossip = false := by
    refine deeds.preserve (P := fun b => b.records.get? x.message.thread = none ∨ _) ?_ (.inl unknown)
    intro s₁ s₂ before deed
    by_cases later : s₂.agent.records.get? x.message.thread = none
    · exact .inl later
    · exact .inr (before.elim (fun unknown => deed.opens_of_unknown unknown later) id)
  exact opened.resolve_left known

end

namespace Market

def offering : PaymentOffer := ⟨five, "credit", giver, some getter, some witness, .unset⟩

end Market

/-- A request, an offer and a mint are each taken down by some agent at its start. -/
theorem opened_of_initiating {body : Body} (initiating : body.isInitiating = true)
    (other : body.kind ≠ "request-accepted") : ∃ config x, Config.validate config = .ok () ∧
      x.message.body.kind = body.kind ∧ ((Agent.new config []).take x).records.get? x.message.thread ≠ none := by
  have asked : ((Agent.new (Config.new Market.giver) []).take
      (Market.arrival Market.getter "sale" (.request Market.request))).records.get? ⟨"sale"⟩ ≠ none := by
    decide +kernel
  have offered : ((Agent.new (Config.new Market.getter) []).take
      (Market.arrival Market.giver "sale" (.offer Market.offering))).records.get? ⟨"sale"⟩ ≠ none := by
    decide +kernel
  have minted : ((Agent.new (Config.new Market.witness).asWitness []).take
      (Market.arrival Market.giver "sale" (.mint Market.coining))).records.get? ⟨"sale"⟩ ≠ none := by
    decide +kernel
  cases body with
  | request => exact ⟨_, _, by decide, rfl, asked⟩
  | offer => exact ⟨_, _, by decide, rfl, offered⟩
  | mint => exact ⟨_, _, by decide, rfl, minted⟩
  | requestAccepted => exact absurd rfl other
  | _ => cases initiating

/-- A message for an unknown thread gives a record for it only if it is a request, an offer or a
mint, and each of these can. -/
theorem opened_iff_initiating (body : Body) :
    (∀ (a : Agent) (x : Arrival), x.message.body = body → a.records.get? x.message.thread = none →
      (a.take x).records.get? x.message.thread ≠ none →
      body.isInitiating = true ∧ body.kind ≠ "request-accepted") ∧
    (body.isGossip = false → ¬(body.isInitiating = true ∧ body.kind ≠ "request-accepted") →
      ∃ operation, body.continues? = some operation ∧
        ∀ (around : Surroundings) (s : Scene) (sender : Did) (thread : TransferId),
          s.agent.records.get? thread = none → (Step.receive sender ⟨thread, body⟩).perform around s =
            (if body.needsWitness && !s.agent.config.isWitness then .ok none
              else .error (.failure (.notFound thread operation)), s)) ∧
    ((∃ config x, Config.validate config = .ok () ∧ x.message.body.kind = body.kind ∧
        ((Agent.new config []).take x).records.get? x.message.thread ≠ none) ↔
      body.isInitiating = true ∧ body.kind ≠ "request-accepted") := by
  have opening (a : Agent) (x : Arrival) (unknown : a.records.get? x.message.thread = none)
      (known : (a.take x).records.get? x.message.thread ≠ none) :
      x.message.body.isInitiating = true ∧ x.message.body.kind ≠ "request-accepted" := by
    obtain ⟨opens, about⟩ := Agent.take_opens unknown known
    exact (Body.continues?_eq_none_iff about).mp opens
  refine ⟨fun a x same unknown known => same ▸ opening a x unknown known, fun about continues => ?_, ?_⟩
  · rw [← Body.continues?_eq_none_iff about] at continues
    obtain ⟨operation, same⟩ := Option.ne_none_iff_exists'.mp continues
    exact ⟨operation, same, fun _ _ _ _ unknown => Step.receive_unknown same unknown⟩
  · constructor
    · rintro ⟨config, x, -, same, known⟩
      have opens := opening _ x rfl known
      rwa [Body.isInitiating_iff, same, ← Body.isInitiating_iff] at opens
    · rintro ⟨initiating, other⟩
      exact opened_of_initiating initiating other

/-- A giver's acceptance may open a transfer, it is said; it never does. -/
theorem acceptance_opens_nothing : ∃ body : Body, body.isInitiating = true ∧
    ∀ (a : Agent) (x : Arrival), x.message.body.kind = body.kind → a.records.get? x.message.thread = none →
      (a.take x).records.get? x.message.thread = none := by
  refine ⟨.requestAccepted ⟨Market.request, [Market.coin], [Market.payment]⟩, rfl, fun a x same unknown => ?_⟩
  apply Classical.byContradiction
  intro known
  obtain ⟨opens, -⟩ := Agent.take_opens unknown known
  obtain ⟨sender, ⟨thread, body⟩, around, drawn, looked⟩ := x
  cases body with
  | requestAccepted => cases opens
  | _ => simp [Body.kind] at same

end WitnessedTransfer
