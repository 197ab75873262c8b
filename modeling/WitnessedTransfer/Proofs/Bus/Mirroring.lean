import WitnessedTransfer.Proofs.Record.Binding

/-! What an agent publishes is what it writes. Each operation tells of the records that it writes, one
for one and as they are written, and of none besides. A mint is told of once more, right after the
record with which it ends, and never without it. -/
namespace WitnessedTransfer

/-- The record that an event tells of, if it tells of one. -/
def Event.record? : Event → Option Record
  | .stateChanged record => some record
  | _ => none

/-- The end of a mint, as its issuer keeps it. -/
structure Record.IsMinted (r : Record) : Prop where
  role : r.role = .issuer
  state : r.state = .completed

theorem Record.IsMinted.final {r : Record} (minted : r.IsMinted) : r.isTerminal = true := by
  rw [Record.isTerminal, minted.state]
  rfl

theorem Record.not_minted_of_live {r : Record} (live : r.isTerminal = false) : ¬r.IsMinted := by
  intro minted
  cases minted.final.symm.trans live

namespace Bus

/-- The records that have been told of, the oldest first. -/
def told (b : Bus) : List Record := b.log.filterMap Event.record?

/-- The mint is told of right after its record, and nowhere else. -/
def Confirms (b : Bus) (r : Record) : Prop :=
  ∃ before after, b.log = before ++ .stateChanged r :: .cashMinted r.id :: after ∧
    .cashMinted r.id ∉ before ∧ .cashMinted r.id ∉ after

theorem Confirms.append {b b' : Bus} {r : Record} {events : List Event} (confirms : b.Confirms r)
    (log : b'.log = b.log ++ events) (silent : .cashMinted r.id ∉ events) : b'.Confirms r := by
  obtain ⟨before, after, split, first, last⟩ := confirms
  refine ⟨before, after ++ events, by rw [log, split]; simp, first, ?_⟩
  rw [List.mem_append]
  exact not_or.mpr ⟨last, silent⟩

end Bus

/-! ### One for one -/

namespace Agent

/-- From one agent to a later one: what has been published between tells of what has been written. -/
def Tells (a b : Agent) : Prop :=
  ∃ events, b.bus.log = a.bus.log ++ events ∧
    b.records.journal = a.records.journal ++ events.filterMap Event.record?

theorem Tells.refl (a : Agent) : a.Tells a := ⟨[], by simp, by simp⟩

theorem Tells.trans {a b c : Agent} (first : a.Tells b) (rest : b.Tells c) : a.Tells c := by
  obtain ⟨events, log, journal⟩ := first
  obtain ⟨events', log', journal'⟩ := rest
  exact ⟨events ++ events', by rw [log', log, List.append_assoc],
    by rw [journal', journal, List.filterMap_append, List.append_assoc]⟩

theorem Tells.told {a b : Agent} (tells : a.Tells b) (mirrored : a.bus.told = a.records.journal) :
    b.bus.told = b.records.journal := by
  obtain ⟨events, log, journal⟩ := tells
  rw [Bus.told, log, List.filterMap_append, ← Bus.told, mirrored, journal]

theorem foldl_wrote_log (a : Agent) (versions : List Record) :
    (versions.foldl wrote a).bus.log = a.bus.log ++ versions.map .stateChanged := by
  induction versions generalizing a with
  | nil => simp
  | cons v rest ih =>
    rw [List.foldl_cons, ih]
    simp [wrote, Bus.publish]

end Agent

section
variable {around : Surroundings} {op : Operation} {s s' : Scene}

theorem Deed.tells (deed : Deed around op s s') : s.agent.Tells s'.agent := by
  cases deed with
  | opened r unknown opens leads => rw [leads.agent]; exact ⟨[.stateChanged r], rfl, rfl⟩
  | moved r about versions wallet ledger sent stored move leads =>
    rw [leads.agent]
    refine ⟨versions.map .stateChanged, Agent.foldl_wrote_log _ _, ?_⟩
    have all : (versions.map Event.stateChanged).filterMap Event.record? = versions := by
      rw [List.filterMap_map]
      exact List.filterMap_some
    rw [all]
    exact Agent.foldl_wrote_journal
  | told sent loose asked leads => rw [leads.agent]; exact .refl _
  | stranded r about inputs wallet stored isOpen selected leads => rw [leads.agent]; exact .refl _
  | unpaid r about inputs wallet missed stored isOpen selected lost leads =>
    rw [leads.agent]; exact .refl _
  | unvouched r about sender acceptance ledger missed stored role state promised lost leads =>
    rw [leads.agent]; exact .refl _
  | learned directory leads => rw [leads.agent]; exact .refl _
  | announced event due leads =>
    rw [leads.agent]
    refine ⟨[event], rfl, ?_⟩
    cases due <;> simp [Event.record?]

theorem Deeds.tells (deeds : Deeds around op s s') : s.agent.Tells s'.agent :=
  deeds.preserve (P := s.agent.Tells) (fun _ _ before deed => before.trans deed.tells) (.refl _)

end

theorem Agent.perform_tells (a : Agent) (op : Operation) (around : Surroundings) (drawn looked : Nat) :
    a.Tells (a.perform op around drawn looked) :=
  Deeds.tells (op.step_deeds around ⟨a, drawn, looked, []⟩)

theorem Agent.Reachable.told {config : Config} {notes : List Note} {a : Agent}
    (reachable : Agent.Reachable config notes a) : a.bus.told = a.records.journal := by
  induction reachable with
  | start => rfl
  | next _ op around drawn looked ih => exact (Agent.perform_tells _ op around drawn looked).told ih

/-! ### Mints -/

/-- Every mint that has ended is told of once, right after its record; of none besides is told. -/
structure Agent.Announced (a : Agent) : Prop where
  confirmed : ∀ r, a.records.get? r.id = some r → r.IsMinted → a.bus.Confirms r
  only : ∀ id, .cashMinted id ∈ a.bus.log → ∃ r, a.records.get? id = some r ∧ r.IsMinted

namespace Agent.Announced

variable {a b : Agent} {r : Record}

/-- No mint ends, and none is told of. -/
theorem next {events : List Event} (h : a.Announced) (log : b.bus.log = a.bus.log ++ events)
    (silent : ∀ id, .cashMinted id ∉ events)
    (same : ∀ r, r.IsMinted → (b.records.get? r.id = some r ↔ a.records.get? r.id = some r)) :
    b.Announced where
  confirmed r stored minted :=
    (h.confirmed r ((same r minted).mp stored) minted).append log (silent r.id)
  only id mem := by
    rw [log, List.mem_append] at mem
    obtain ⟨r, stored, minted⟩ := h.only id (mem.resolve_right (silent id))
    obtain rfl := RecordStore.get?_id stored
    exact ⟨r, (same r minted).mpr stored, minted⟩

/-- A record is written that is no mint's end, in place of none that is. -/
theorem wrote {id : TransferId} {last : Record} {versions : List Record} (h : a.Announced)
    (log : b.bus.log = a.bus.log ++ versions.map .stateChanged)
    (look : ∀ id', b.records.get? id' = if id' = id then some last else a.records.get? id')
    (before : ∀ old, a.records.get? id = some old → ¬old.IsMinted) (after : ¬last.IsMinted) :
    b.Announced := by
  refine h.next log (by simp) fun r minted => ?_
  rw [look]
  split
  next same =>
    refine ⟨fun now => ?_, fun old => absurd minted (before r (same ▸ old))⟩
    cases now
    exact absurd minted after
  next => rfl

theorem opened (h : a.Announced) (unknown : a.records.get? r.id = none) (running : ¬r.IsMinted) :
    (a.opened r).Announced := by
  have log : (a.opened r).bus.log = a.bus.log ++ [r].map .stateChanged := rfl
  refine h.wrote log (Agent.opened_get? unknown) (fun old known => ?_) running
  cases unknown.symm.trans known

theorem failed (h : a.Announced) (stored : a.records.get? r.id = some r) (live : r.isTerminal = false)
    (problem : Problem) (now : Instant) : (a.failed r problem now).Announced := by
  have log : (a.failed r problem now).bus.log = a.bus.log ++ [r.failed problem now].map .stateChanged := rfl
  refine h.wrote log (Agent.wrote_get? (r := r.failed problem now) stored) (fun old known => ?_)
    fun minted => nomatch minted.state
  cases stored.symm.trans known
  exact Record.not_minted_of_live live

/-- A mint is told of when it ends. -/
theorem credited (h : a.Announced) (stored : a.records.get? r.id = some r) (role : r.role = .issuer)
    (state : r.state = .requestSent) (wallet : Holding) (now : Instant) :
    (a.credited r wallet now).Announced := by
  have log : (a.credited r wallet now).bus.log =
      a.bus.log ++ [.stateChanged (r.credited now), .cashMinted r.id] := by
    simp [Agent.credited, Agent.wrote, Bus.publish]
  have look : ∀ id, (a.credited r wallet now).records.get? id =
      if id = r.id then some (r.credited now) else a.records.get? id :=
    Agent.wrote_get? (r := r.credited now) stored
  have minted : (r.credited now).IsMinted := ⟨role, rfl⟩
  have untold : .cashMinted r.id ∉ a.bus.log := by
    intro mem
    obtain ⟨old, known, ended⟩ := h.only _ mem
    cases stored.symm.trans known
    cases state.symm.trans ended.state
  constructor
  · intro r' stored' minted'
    rcases stored_cases look stored' with ⟨-, rfl⟩ | ⟨other, old⟩
    · exact ⟨_, [], log, untold, List.not_mem_nil⟩
    · refine (h.confirmed r' old minted').append log ?_
      simpa using other
  · intro id mem
    rw [log, List.mem_append] at mem
    rw [look]
    split
    next => exact ⟨_, rfl, minted⟩
    next other => exact h.only id (mem.resolve_right (by simpa using other))

end Agent.Announced

section
variable {around : Surroundings} {op : Operation} {s s' : Scene} {a : Agent}

/-- Only what credits a mint brings one to its end. -/
theorem Move.not_minted {r : Record} {versions : List Record} {wallet ledger : Holding}
    {sent : List Dispatch} (move : Move around op a r versions wallet ledger sent)
    (quiet : ∀ id, ¬op.Credits id) : ¬(versions.getLastD r).IsMinted := by
  rintro ⟨role, state⟩
  rw [move.last_role] at role
  cases move with
  | credited _ _ _ credits => exact quiet _ credits
  | paid _ kept | settled _ kept | transferred _ kept | minted _ kept => cases kept.symm.trans role
  | _ => cases state

theorem Deed.keeps_announced (deed : Deed around op s s') (quiet : ∀ id, ¬op.Credits id)
    (h : s.agent.Announced) : s'.agent.Announced := by
  have aside {b : Agent} (agent : s'.agent = b) (records : b.records = s.agent.records)
      (bus : b.bus = s.agent.bus) : s'.agent.Announced := by
    subst agent
    have log : s'.agent.bus.log = s.agent.bus.log ++ ([] : List Event) := by rw [bus, List.append_nil]
    exact h.next log (by simp) fun _ _ => by rw [records]
  cases deed with
  | opened r unknown opens leads =>
    rw [leads.agent]
    exact h.opened unknown (Record.not_minted_of_live opens.live)
  | moved r about versions wallet ledger sent stored move leads =>
    rw [leads.agent]
    refine h.wrote (Agent.foldl_wrote_log _ versions) (move.look stored) (fun old known => ?_)
      (move.not_minted quiet)
    cases stored.symm.trans known
    exact Record.not_minted_of_live move.live
  | told sent loose asked leads => exact aside leads.agent rfl rfl
  | stranded r about inputs wallet stored isOpen selected leads => exact aside leads.agent rfl rfl
  | unpaid r about inputs wallet missed stored isOpen selected lost leads =>
    exact aside leads.agent rfl rfl
  | unvouched r about sender acceptance ledger missed stored role state promised lost leads =>
    exact aside leads.agent rfl rfl
  | learned directory leads => exact aside leads.agent rfl rfl
  | announced event due leads =>
    rw [leads.agent]
    cases due with
    | table table =>
      have log : (s.agent.bus.publish (.tableReceived table)).log =
        s.agent.bus.log ++ [.tableReceived table] := rfl
      exact h.next log (by simp) fun _ _ => Iff.rfl
    | minted credits => exact absurd credits (quiet _)

end

namespace Step

variable {around : Surroundings} {s : Scene} {r : Record}

/-- A step for a transfer that either is done or does nothing: what holds before it and holds of the
failed transfer holds afterwards. -/
theorem settle_keeps {P : Agent → Prop} {step : Step Record} {sender : Option Did}
    (stored : s.agent.records.get? r.id = some r) (live : r.isTerminal = false)
    (done : step.Ensures around s fun result s' =>
      P s'.agent ∧ ∀ fault, result = .error fault → s'.agent = s.agent)
    (failed : ∀ problem now, P (s.agent.failed r problem now)) :
    (settle r sender step).Ensures around s fun _ s' => P s'.agent := by
  refine ensures_tryCatch done (fun _ _ ⟨kept, _⟩ => kept) fun fault s' ⟨kept, undone⟩ => ?_
  have same : s'.agent = s.agent := undone fault rfl
  cases fault with
  | failure cause =>
    dsimp only
    split
    next =>
      refine (fail_leaves live (same ▸ stored)).mono fun _ s'' ⟨now, _, agent⟩ => ?_
      rw [agent, same]
      exact failed _ now
    next => exact ensures_refuse cause kept
  | overflow cause => exact kept

theorem credit_announced (h : s.agent.Announced) (stored : s.agent.records.get? r.id = some r)
    (role : r.role = .issuer) (state : r.state = .requestSent) :
    (credit r).Ensures around s fun result s' =>
      s'.agent.Announced ∧ ∀ fault, result = .error fault → s'.agent = s.agent :=
  ensures_credit stored state (fun _ _ _ => ⟨h.credited stored role state _ _, nofun⟩)
    fun _ _ => ⟨h, fun _ _ => rfl⟩

theorem mintCash_announced {amount : Decimal} {witness : Option Did} {tell confirm : Bool}
    {milliseconds : Option Nat} (h : s.agent.Announced) :
    (mintCash amount witness tell confirm milliseconds).Ensures around s
      fun _ s' => s'.agent.Announced := by
  refine expectPositive_then (fun _ => config_then (me_then (newTransferId_then ?_))) h
  refine require_then (fun witness _ => newNoteId_then (agent_then ?_)) h
  refine sendAny_then (fun sent _ _ => newRecord_then ?_) fun _ _ _ => h
  refine create_then (fun unknown => ?_) fun _ _ => h
  have opened := h.opened unknown fun minted => nomatch minted.state
  split
  next =>
    exact (credit_announced opened (Agent.opened_stored unknown) rfl rfl).andThen
      (fun _ _ ⟨told, _⟩ => ensures_pure _ told) fun _ _ ⟨told, _⟩ => told
  next => split <;> exact ensures_pure _ opened

theorem receiveMintResponse_announced {sender : Did} {id : TransferId} {response : MintResponse}
    (h : s.agent.Announced) :
    (receiveMintResponse sender id response).Ensures around s fun _ s' => s'.agent.Announced := by
  refine load_then (fun r stored => ?_) fun _ => h
  obtain rfl := RecordStore.get?_id stored
  split
  next => exact ensures_pure r h
  next fits =>
    obtain ⟨role, state⟩ := by simpa only [not_or, Decidable.not_not] using fits
    have live : r.isTerminal = false := by rw [Record.isTerminal, state]; rfl
    refine settle_keeps stored live ?_ (h.failed stored live)
    refine expectParty_then (fun _ => ?_) fun _ => ⟨h, fun _ _ => rfl⟩
    exact expectNotes_then (fun _ => credit_announced h stored role state) fun _ => ⟨h, fun _ _ => rfl⟩

end Step

theorem Agent.perform_announced {a : Agent} (h : a.Announced) (op : Operation) (around : Surroundings)
    (drawn looked : Nat) : (a.perform op around drawn looked).Announced := by
  by_cases quiet : ∀ id, ¬op.Credits id
  · exact Deeds.preserve (op.step_deeds around _) (fun _ _ h deed => deed.keeps_announced quiet h) h
  · obtain ⟨id, credits⟩ := by simpa using quiet
    cases credits with
    | minted same =>
      subst same
      exact Step.ensures_perform (Step.ensures_map (P := fun s' => s'.agent.Announced)
        (Step.mintCash_announced (s := ⟨a, drawn, looked, []⟩) h))
    | confirmed takes =>
      cases takes with
      | receive =>
        have received {sender : Did} {response : MintResponse} :
            (Operation.receive sender ⟨id, .mintResponse response⟩).step.Ensures around
              ⟨a, drawn, looked, []⟩ fun _ s' => s'.agent.Announced := by
          refine Step.ensures_map (Step.config_then ?_)
          exact Step.ensures_map (Step.receiveMintResponse_announced h)
        exact Step.ensures_perform received

theorem Agent.Reachable.announced {config : Config} {notes : List Note} {a : Agent}
    (reachable : Agent.Reachable config notes a) : a.Announced := by
  induction reachable with
  | start =>
    constructor
    · intro r stored
      cases stored
    · intro id mem
      cases mem
  | next _ op around drawn looked ih => exact Agent.perform_announced ih op around drawn looked

/-! ### What an observer sees -/

/-- The records that an agent tells of are those it has written, in the same order. A mint is
told of just when its issuer has written its end. -/
theorem events_mirror_records {config : Config} {notes : List Note} {a : Agent}
    (reachable : Agent.Reachable config notes a) :
    a.bus.told = a.records.journal ∧
    (∀ op around drawn looked, ∃ events,
      (a.perform op around drawn looked).bus.log = a.bus.log ++ events ∧
      (a.perform op around drawn looked).records.journal =
        a.records.journal ++ events.filterMap Event.record? ∧
      ((a.perform op around drawn looked).records.journal = a.records.journal →
        ∀ r, .stateChanged r ∉ events)) ∧
    (∀ x r, a.records.get? x.message.thread = some r → ¬x.message.body.Moves r →
      (a.take x).bus = a.bus) ∧
    (∀ id, .cashMinted id ∈ a.bus.log ↔ ∃ r ∈ a.records.journal, r.id = id ∧ r.IsMinted) ∧
    ∀ r ∈ a.records.journal, r.IsMinted → a.bus.Confirms r := by
  have announced := reachable.announced
  have final {r : Record} (written : r ∈ a.records.journal) (minted : r.IsMinted) :
      a.records.get? r.id = some r := by
    have historic := reachable.historic r.id
    rw [historic.stored]
    exact historic.getLast?_of_final (List.mem_filter.mpr ⟨written, by simp⟩) minted.final
  refine ⟨reachable.told, fun op around drawn looked => ?_,
    fun x r stored spent => by rw [Agent.take_of_spent stored spent], fun id => ⟨fun told => ?_, ?_⟩,
    fun r written minted => announced.confirmed r (final written minted) minted⟩
  · obtain ⟨events, log, journal⟩ := a.perform_tells op around drawn looked
    refine ⟨events, log, journal, fun same r mem => ?_⟩
    rw [same, List.self_eq_append_right, List.filterMap_eq_nil_iff] at journal
    cases journal _ mem
  · obtain ⟨r, stored, minted⟩ := announced.only id told
    have historic := reachable.historic id
    rw [historic.stored] at stored
    obtain ⟨written, named⟩ := List.mem_filter.mp (List.mem_of_getLast? stored)
    exact ⟨r, written, by simpa using named, minted⟩
  · rintro ⟨r, written, rfl, minted⟩
    obtain ⟨before, after, log, -, -⟩ := announced.confirmed r (final written minted) minted
    simp [log]

namespace Market

def mint : Agent :=
  (Agent.new (Config.new getter) []).perform (.mintCash five (some witness) true false none) .calm 0 0

end Market

theorem events_mirror_records_mint :
    Market.mint.bus.told = Market.mint.records.journal ∧
    Market.mint.bus.told.map Record.state = [.requestSent, .completed] ∧
    .cashMinted ⟨""⟩ ∈ Market.mint.bus.log := by
  have reachable : Agent.Reachable (Config.new Market.getter) [] Market.mint :=
    .next .start _ _ _ _
  obtain ⟨mirrored, -⟩ := events_mirror_records reachable
  exact ⟨mirrored, by decide +kernel, by decide +kernel⟩

end WitnessedTransfer
