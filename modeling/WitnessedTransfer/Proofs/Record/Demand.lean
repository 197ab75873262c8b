import WitnessedTransfer.Proofs.Deed.Operation

/-! What is asked for in a transfer. A getter that waits for an answer to its request has kept what it has
asked for last, in whatever order offers come in. A party that has taken a request down keeps what it has
heard first: a later one on the thread finds the transfer known, and changes nothing. -/
namespace WitnessedTransfer

/-- How much is to be paid, in which unit, and by when. -/
structure Demand where
  amount : Decimal
  unit : String
  timeouts : Timeouts
deriving DecidableEq

/-- The same is asked for, however the amount is written. -/
def Demand.Same (d d' : Demand) : Prop :=
  d.amount ≈ d'.amount ∧ d.unit = d'.unit ∧ d.timeouts = d'.timeouts

def PaymentRequest.demand (request : PaymentRequest) : Demand :=
  ⟨request.amount, request.unit, request.timeouts⟩

def MintRequest.demand (mint : MintRequest) : Demand := ⟨mint.amount, mint.unit, .unset⟩

def Record.demand (r : Record) : Demand := ⟨r.transfer.amount, r.transfer.unit, r.transfer.timeouts⟩

def Body.demand? : Body → Option Demand
  | .request asked => some asked.demand
  | .mint asked => some asked.demand
  | _ => none

def Operation.demand? (id : TransferId) : Operation → Option Demand
  | .receive _ message => if message.thread = id then message.body.demand? else none
  | .witnessRequest _ thread request => if thread = id then some request.demand else none
  | _ => none

theorem Operation.Takes.demand? {op : Operation} {sender : Did} {id : TransferId} {body : Body}
    (takes : op.Takes sender id body) : op.demand? id = body.demand? := by
  cases takes <;> simp [Operation.demand?, Body.demand?]

def Operation.Creates (op : Operation) : Prop :=
  ∃ amount witness giver timeouts hint, op = .createRequest amount witness giver timeouts hint

def Dispatch.demand? (id : TransferId) (d : Dispatch) : Option Demand :=
  match d.failure, d.message.body with
  | none, .request request => if d.message.thread = id then some request.demand else none
  | _, _ => none

/-- What is asked for last in a transfer by what was sent. -/
def lastDemand (id : TransferId) (sent : List Dispatch) : Option Demand :=
  (sent.filterMap (Dispatch.demand? id)).getLast?

def Record.Asking (r : Record) : Prop := r.role = .getter ∧ r.state = .requestSent

section
variable {around : Surroundings} {a : Agent} {id : TransferId} {sent sent' : List Dispatch}
  {d : Dispatch} {request : PaymentRequest} {hint : Option TransportHint}

@[simp] theorem lastDemand_nil : lastDemand id [] = none := rfl

theorem lastDemand_append :
    lastDemand id (sent ++ sent') = (lastDemand id sent').or (lastDemand id sent) := by
  simp [lastDemand, List.filterMap_append, List.getLast?_append]

theorem lastDemand_of_silent (silent : ∀ d ∈ sent, d.demand? id = none) : lastDemand id sent = none := by
  rw [lastDemand, List.filterMap_eq_nil_iff.mpr silent]
  rfl

theorem Dispatch.demand?_of_thread (other : d.message.thread ≠ id) : d.demand? id = none := by
  unfold demand?
  split <;> simp [other]

theorem Dispatch.demand?_of_lost (lost : d.failure.isSome) : d.demand? id = none := by
  unfold demand?
  split
  next clear _ => simp [clear] at lost
  next => rfl

theorem lastDemand_of_threads {tx : TransferId} (threads : ∀ d ∈ sent, d.message.thread = tx) (apart : id ≠ tx) :
    lastDemand id sent = none :=
  lastDemand_of_silent fun d mem => Dispatch.demand?_of_thread (threads d mem ▸ apart.symm)

/-- Whoever is asked, and whoever is asked last, it is for the same. -/
theorem lastDemand_request {parties : List Did} (clear : ∀ did ∈ parties, around.obstacle did = none)
    (some_party : parties ≠ []) :
    lastDemand id (parties.map (a.dispatch around · ⟨id, .request request⟩ hint)) = some request.demand := by
  obtain ⟨before, last, rfl⟩ := (List.eq_nil_or_concat parties).resolve_left some_party
  have reached : around.obstacle last = none := clear last (by simp)
  rw [List.concat_eq_append, List.map_append, lastDemand_append]
  simp [lastDemand, Dispatch.demand?, Agent.dispatch, reached]

end

/-! ### What a move asks for -/

section
variable {around : Surroundings} {op : Operation} {a : Agent} {r : Record} {versions : List Record}
  {wallet ledger : Holding} {sent : List Dispatch}

/-- A move after which the getter waits has asked for what the record says. -/
theorem Move.asking (move : Move around op a r versions wallet ledger sent)
    (asking : (versions.getLastD r).Asking) :
    lastDemand r.id sent = some (versions.getLastD r).demand := by
  obtain ⟨-, state⟩ := asking
  cases move with
  | requested _ _ _ clear clear' => exact lastDemand_request (by simp [clear, clear']) (by simp)
  | transferred _ _ _ _ _ _ _ _ _ _ first second third =>
    subst first second third
    cases state
  | _ => cases state

theorem Opens.creates (opens : Opens op a r) (asking : r.Asking) : op.Creates := by
  obtain ⟨role, state⟩ := asking
  cases opens with
  | request same => exact ⟨_, _, _, _, _, same⟩
  | mint | offer | requested | registered | minted => cases role
  | offered => cases state

theorem Opens.heard (opens : Opens op a r) (state : r.state = .requestReceived) :
    op.demand? r.id = some r.demand := by
  cases opens with
  | requested takes | registered takes | minted takes => exact takes.demand?
  | request | offer | mint | offered => cases state

end

/-! ### Who waits for an answer -/

def Scene.Awaits (s s' : Scene) : Prop :=
  ∃ sent, s'.sent = s.sent ++ sent ∧ ∀ id r, s'.agent.records.get? id = some r → r.Asking →
    lastDemand id sent = some r.demand ∨
      lastDemand id sent = none ∧ s.agent.records.get? id = some r

section
variable {around : Surroundings} {op : Operation} {s s₁ s' : Scene}

/-- Nothing is asked for in a transfer that waits, and no transfer comes to wait. -/
theorem Scene.awaits_of_silent {sent : List Dispatch} (sends : s'.sent = s.sent ++ sent)
    (old : ∀ id r, s'.agent.records.get? id = some r → r.Asking → s.agent.records.get? id = some r)
    (silent : ∀ id r, s.agent.records.get? id = some r → r.Asking → lastDemand id sent = none) :
    s.Awaits s' := by
  refine ⟨sent, sends, fun id r stored asking => .inr ?_⟩
  have stored := old id r stored asking
  exact ⟨silent id r stored asking, stored⟩

/-- The records stay as they are, and what is sent does not arrive. -/
theorem Scene.Leads.awaits {a : Agent} {sent : List Dispatch} (leads : s.Leads s' a sent)
    (same : a.records = s.agent.records) (lost : ∀ d ∈ sent, d.failure.isSome) : s.Awaits s' := by
  refine awaits_of_silent leads.sent (fun id r stored _ => ?_) fun id _ _ _ =>
    lastDemand_of_silent fun d mem => Dispatch.demand?_of_lost (lost d mem)
  rwa [leads.agent, same] at stored

theorem Scene.Awaits.trans (first : s.Awaits s₁) (second : s₁.Awaits s') : s.Awaits s' := by
  obtain ⟨sent, sends, waits⟩ := first
  obtain ⟨sent', sends', waits'⟩ := second
  refine ⟨sent ++ sent', by rw [sends', sends, List.append_assoc], fun id r stored asking => ?_⟩
  rw [lastDemand_append]
  rcases waits' id r stored asking with asked | ⟨silent, stored⟩
  · exact .inl (by rw [asked, Option.some_or])
  · rw [silent, Option.none_or]
    exact waits id r stored asking

theorem Scene.Still.awaits (still : s.Still s') : s.Awaits s' := Leads.awaits still rfl (by simp)

theorem Deed.awaits (deed : Deed around op s s') (other : ¬op.Creates) : s.Awaits s' := by
  cases deed with
  | opened r unknown opens leads =>
    refine Scene.awaits_of_silent leads.sent (fun id r' stored asking => ?_) (by simp)
    rw [leads.agent] at stored
    rcases stored_cases (Agent.opened_get? unknown) stored with ⟨-, rfl⟩ | ⟨-, old⟩
    · exact absurd (opens.creates asking) other
    · exact old
  | moved r about versions wallet ledger sent stored move leads =>
    refine ⟨sent, leads.sent, fun id r' stored' asking => ?_⟩
    rw [leads.agent] at stored'
    rcases stored_cases (move.look stored) stored' with ⟨rfl, rfl⟩ | ⟨apart, old⟩
    · exact .inl (move.asking asking)
    · exact .inr ⟨lastDemand_of_threads move.threads apart, old⟩
  | told sent loose asked leads =>
    refine Scene.awaits_of_silent leads.sent (fun _ _ stored _ => leads.agent ▸ stored) ?_
    intro id r stored asking
    refine lastDemand_of_silent fun d mem => ?_
    unfold Dispatch.demand?
    split
    next request clear body =>
      refine if_neg fun thread => ?_
      have asks := asked d mem clear
      rw [show d.message = ⟨id, .request request⟩ by rw [← thread, ← body]] at asks
      cases asks with
      | request same => exact other ⟨_, _, _, _, _, same⟩
      | accept known offered =>
        cases known.symm.trans stored
        cases offered.symm.trans asking.2
    next => rfl
  | stranded r about inputs wallet stored isOpen selected leads => exact leads.awaits rfl (by simp)
  | unpaid r about inputs wallet missed stored isOpen selected lost leads =>
    exact leads.awaits rfl (by simpa using lost.missed)
  | unvouched r about sender acceptance ledger missed stored role state promised lost leads =>
    exact leads.awaits rfl (by simpa using lost.missed)
  | learned directory leads => exact leads.awaits rfl (by simp)
  | announced event due leads => exact leads.awaits rfl (by simp)

theorem Deeds.awaits (deeds : Deeds around op s s') (other : ¬op.Creates) : s.Awaits s' := by
  induction deeds with
  | still still => exact still.awaits
  | step deed _ ih => exact (deed.awaits other).trans ih

/-- A request that a getter makes is the last one under its name, if nothing bears the name yet. -/
theorem Step.createRequest_awaits {amount : Decimal} {witness giver : Option Did} {timeouts : Option Timeouts}
    {hint : Option TransportHint} (unknown : s.agent.records.get? ⟨around.fresh s.drawn⟩ = none) :
    (createRequest amount witness giver timeouts hint).Ensures around s fun _ s' => s.Awaits s' := by
  have told {sent : List Dispatch} {s₁ : Scene} (same : s₁.agent = s.agent) (sends : s₁.sent = s.sent ++ sent)
      (threads : ∀ d ∈ sent, d.message.thread = ⟨around.fresh s.drawn⟩) : s.Awaits s₁ := by
    refine Scene.awaits_of_silent sends (fun _ _ stored _ => same ▸ stored) fun id r stored _ => ?_
    apply lastDemand_of_threads threads
    rintro rfl
    cases unknown.symm.trans stored
  unfold createRequest
  refine expectPositive_then (fun _ => ?_) (Scene.still_refl s).awaits
  refine config_then (me_then (newTransferId_then ?_))
  refine require_then (fun witness _ => ?_) (Scene.still_draw s).awaits
  refine sendRequest_then (fun sent clear clear' all => ?_)
    fun sent failure all => told rfl rfl fun d mem => congrArg Message.thread (all d mem)
  have threads : ∀ d ∈ sent, d.message.thread = ⟨around.fresh s.drawn⟩ := by simp [all, Agent.dispatch]
  refine newRecord_then (create_then (fun unknown => ensures_pure _ ?_) fun _ _ => told rfl rfl threads)
  refine ⟨sent, rfl, fun id r stored asking => ?_⟩
  rcases stored_cases (Agent.opened_get? unknown) stored with ⟨rfl, rfl⟩ | ⟨apart, old⟩
  · left
    rw [all]
    exact lastDemand_request (by simpa [clear] using clear') (by simp)
  · exact .inr ⟨lastDemand_of_threads threads apart, old⟩

/-- Whatever an agent does, it waits for what it has asked for last. -/
theorem Operation.step_awaits (op : Operation) (around : Surroundings) (s : Scene)
    (unknown : op.Creates → s.agent.records.get? ⟨around.fresh s.drawn⟩ = none) :
    op.step.Ensures around s fun _ s' => s.Awaits s' := by
  by_cases creates : op.Creates
  · have anew := unknown creates
    obtain ⟨amount, witness, giver, timeouts, hint, rfl⟩ := creates
    exact Step.ensures_map (Step.createRequest_awaits anew)
  · exact (op.step_deeds around s).mono fun _ s' deeds => deeds.awaits creates

end

/-! ### Who has taken a request down -/

structure Scene.Hears (op : Operation) (s s' : Scene) : Prop where
  unknown : ∀ id, s'.agent.records.get? id = none → s.agent.records.get? id = none
  heard : ∀ id r, s'.agent.records.get? id = some r → r.state = .requestReceived →
    s.agent.records.get? id = some r ∨ s.agent.records.get? id = none ∧ op.demand? id = some r.demand

section
variable {around : Surroundings} {op : Operation} {s s₁ s' : Scene}

theorem Scene.Still.hears (still : s.Still s') : s.Hears op s' where
  unknown id unknown := by rwa [still.agent] at unknown
  heard id r stored _ := .inl (by rwa [still.agent] at stored)

theorem Scene.Hears.trans (first : s.Hears op s₁) (second : s₁.Hears op s') : s.Hears op s' where
  unknown id unknown := first.unknown id (second.unknown id unknown)
  heard id r stored state := by
    rcases second.heard id r stored state with stored | ⟨unknown, asked⟩
    · exact first.heard id r stored state
    · exact .inr ⟨first.unknown id unknown, asked⟩

theorem Deed.hears (deed : Deed around op s s') : s.Hears op s' where
  unknown id unknown := by
    cases known : s.agent.records.get? id with
    | none => rfl
    | some r =>
      rcases deed.writes.stored known with stored | ⟨_, _, _, _, _, stored⟩ <;>
        cases unknown.symm.trans stored
  heard id r stored state := by
    have writes := deed.writes
    generalize s'.agent.records = records at writes stored
    cases writes with
    | opened new unknown opens =>
      rcases stored_cases (RecordStore.get?_added unknown) stored with ⟨rfl, rfl⟩ | ⟨-, old⟩
      · exact .inr ⟨unknown, opens.heard state⟩
      · exact .inl old
    | moved old about known move =>
      rcases stored_cases (move.look known) stored with ⟨rfl, rfl⟩ | ⟨-, old⟩
      · exact absurd state move.not_requested
      · exact .inl old
    | nothing => exact .inl stored

theorem Operation.step_hears (op : Operation) (around : Surroundings) (s : Scene) :
    op.step.Ensures around s fun _ s' => s.Hears op s' := by
  refine (op.step_deeds around s).mono fun _ s' deeds => ?_
  induction deeds with
  | still still => exact still.hears
  | step deed _ ih => exact deed.hears.trans ih

end

end WitnessedTransfer
