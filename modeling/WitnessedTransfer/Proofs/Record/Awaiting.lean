import WitnessedTransfer.Proofs.Record.Binding
import WitnessedTransfer.Proofs.Record.Roles
import WitnessedTransfer.Proofs.Step.Unrefused

/-! Whose message is awaited. Wherever a record names the party that must speak next, it is the one
whose message moves the transfer on at that stage; anybody else leaves the records as they are, or does
no more than fail the transfer. The one exception is the getter's: while it waits for the witness, the
giver can still make it another offer. -/
namespace WitnessedTransfer

namespace Record

def speaker (r : Record) : Option Did :=
  match r.role, r.state with
  | .giver, .offerSent | .witness, .requestAcceptedWitnessed => r.transfer.getter
  | .getter, .offerReceived | .witness, .requestReceived => r.transfer.giver
  | _, _ => r.transfer.witness

def Awaits (r : Record) : Prop := ∀ d, r.transfer.expectedSender = some d → r.speaker = some d

/-- The giver makes another offer to a getter that waits for the witness. Where the getter does not know
the giver yet, anybody can. -/
structure CounteredBy (r : Record) (sender : Did) (body : Body) : Prop where
  role : r.role = .getter
  state : r.state = .requestSent
  giver : Expects r.transfer.giver sender
  offered : ∃ offer, body = .offer offer ∧ offer.giver = sender

variable {r : Record}

theorem awaits_of_none (none : r.transfer.expectedSender = none) : r.Awaits := by
  intro d some
  cases none.symm.trans some

theorem awaits_of_speaker (same : r.transfer.expectedSender = r.speaker) : r.Awaits :=
  fun _ some => same.symm.trans some

end Record

/-! ### What every deed preserves -/

section
variable {around : Surroundings} {op : Operation} {a : Agent} {r : Record} {versions : List Record}
  {wallet ledger : Holding} {sent : List Dispatch}

theorem Opens.awaits (opens : Opens op a r) : r.Awaits := by
  cases opens with
  | request | offer | mint | offered | registered => exact Record.awaits_of_speaker rfl
  | requested | minted => exact Record.awaits_of_none rfl

theorem Move.awaits (move : Move around op a r versions wallet ledger sent) (h : r.Awaits) :
    (versions.getLastD r).Awaits := by
  cases move with
  | countered takes role => exact Record.awaits_of_speaker (by simp [Record.speaker, role])
  | vouched takes role => exact Record.awaits_of_speaker (by simp [Record.speaker, role])
  | requested => exact Record.awaits_of_speaker (by cases role : r.role <;> simp [Record.speaker, role])
  | committed _ _ known =>
    exact Record.awaits_of_speaker (by cases role : r.role <;> simp [Record.speaker, role, known])
  | notarized _ role _ _ _ known => exact Record.awaits_of_speaker (by simp [Record.speaker, role, known])
  | cashAccepted state =>
    intro d expects
    have spoken := h d expects
    revert spoken
    cases role : r.role <;> simp [Record.speaker, role, state]
  | witnessed _ role state =>
    intro d expects
    simpa [Record.speaker, role, state] using h d expects
  | removed _ role state =>
    intro d expects
    rcases state with state | state <;> simpa [Record.speaker, role, state] using h d expects
  | minted _ role state _ _ _ _ _ _ _ _ unknown =>
    intro d expects
    have spoken := h d expects
    simp [Record.speaker, role, state, unknown] at spoken
  | answered | paid | settled | credited | failed => exact Record.awaits_of_none rfl
  | transferred _ _ _ _ _ _ _ _ _ _ first second third =>
    subst first second third
    exact Record.awaits_of_none rfl

end

def Agent.Awaiting (a : Agent) : Prop := ∀ id r, a.records.get? id = some r → r.Awaits

theorem Agent.does_awaiting {a : Agent} (h : a.Awaiting) (act : Act) : (a.does act).Awaiting := by
  refine does_preserve (P := Awaiting) ?_ (fun _ _ h id r stored => h id r (stored_of_purge stored)) h act
  intro around op s s' h deed id r stored
  rcases deed.writes.stores stored with old | stores
  · exact h id r old
  · cases stores with
    | opened opens => exact opens.awaits
    | moved known move => exact move.awaits (h _ _ known)

theorem Agent.doesAll_awaiting (config : Config) (notes : List Note) (acts : List Act) :
    ((Agent.new config notes).doesAll acts).Awaiting :=
  doesAll_preserve (P := Awaiting) (fun _ act h => does_awaiting h act)
    (fun _ _ stored => by cases stored) acts

/-! ### What moves a record -/

/-- A message that is no offer and no report moves a transfer only if it is expected from the party that
must speak. -/
theorem Body.counterparts_of_moves {body : Body} {r : Record} (moves : body.Moves r)
    (unoffered : ∀ offer, body ≠ .offer offer) (plain : ∀ problem, body ≠ .problemReport problem)
    (about : ∀ table, body ≠ .witnessTable table) (asked : body ≠ .witnessTableQuery) :
    body.counterparts r.transfer = r.speaker.toList := by
  have receipt (role : r.role = .getter ∨ r.role = .giver) (can : r.state.canMoveTo .completed = true) :
      r.speaker = r.transfer.witness := by
    unfold Record.speaker
    revert can
    rcases role with role | role <;> rw [role] <;> cases r.state <;> simp [TransferState.canMoveTo,
      TransferState.successors]
  cases body with
  | request | requestAccepted | requestAcceptedWitnessed | cashAccepted | cashAcceptedWitnessed
  | mintResponse => simp [Body.counterparts, Record.speaker, moves.1, moves.2]
  | cashRemoved => rcases moves.2 with state | state <;> simp [Body.counterparts, Record.speaker, moves.1, state]
  | getterReceipt => rw [receipt (.inl moves.1) moves.2]; rfl
  | giverReceipt => rw [receipt (.inr moves.1) moves.2]; rfl
  | offer offer => exact absurd rfl (unoffered offer)
  | problemReport problem => exact absurd rfl (plain problem)
  | witnessTable table => exact absurd rfl (about table)
  | witnessTableQuery => exact absurd rfl asked
  | mint => exact moves.elim

namespace Step

variable {around : Surroundings} {s : Scene} {r : Record} {sender : Did}

/-- An offer must come from the giver that it names. -/
theorem receiveOffer_misnamed {offer : PaymentOffer} (stored : s.agent.records.get? r.id = some r)
    (role : r.role = .getter) (state : r.state = .requestSent) (giver : Expects r.transfer.giver sender)
    (misnamed : offer.giver ≠ sender) :
    (receiveOffer sender r.id offer).Ensures around s
      fun _ s' => ∃ problem now, s'.agent = s.agent.failed r problem now := by
  have refused : (counterOffer r sender offer).Ensures around s fun result s' =>
      result = .error (.failure (.didMismatch r.id offer.giver sender)) ∧ s' = s := by
    refine expectParty_passed giver (ensures_bind.mpr ?_)
    simp only [expectParty, if_neg misnamed]
    exact ⟨rfl, rfl⟩
  have live : r.isTerminal = false := by rw [Record.isTerminal, state]; rfl
  apply find_then
  simp only [stored, role, state, and_self, if_true]
  refine (settle_refused refused rfl live stored).andThen ?_ ?_
  · rintro _ s' ⟨now, ⟨⟩, failed⟩
    apply config_then
    rw [if_neg (by simp [Record.failed])]
    exact ensures_pure _ ⟨_, now, failed⟩
  · rintro _ _ ⟨_, ⟨⟩, _⟩

theorem receive_misnamed {message : Message} {offer : PaymentOffer} (body : message.body = .offer offer)
    (stored : s.agent.records.get? message.thread = some r) (role : r.role = .getter)
    (state : r.state = .requestSent) (giver : Expects r.transfer.giver sender)
    (misnamed : offer.giver ≠ sender) :
    (receive sender message).Ensures around s
      fun _ s' => ∃ problem now, s'.agent = s.agent.failed r problem now := by
  have named := RecordStore.get?_id stored
  rw [← named] at stored
  apply config_then
  simp only [body, Body.needsWitness, Bool.false_and, Bool.false_eq_true, if_false, ← named]
  exact ensures_map (receiveOffer_misnamed stored role state giver misnamed)

/-- What concerns no transfer leaves the records alone. -/
theorem receive_table {message : Message}
    (about : (∃ table, message.body = .witnessTable table) ∨ message.body = .witnessTableQuery) :
    (receive sender message).Ensures around s fun _ s' => s'.agent.records = s.agent.records := by
  obtain ⟨id, body⟩ := message
  apply config_then
  split
  next => exact ensures_pure _ rfl
  next =>
    obtain ⟨table, rfl⟩ | rfl := about
    · exact ensures_map (P := fun s' => s'.agent.records = s.agent.records) (ensures_bind.mpr rfl)
    · refine ensures_map (P := fun s' => s'.agent.records = s.agent.records) ?_
      refine agent_then (newTransferId_then (send_then (fun _ => ?_) fun _ _ => rfl))
      exact ensures_bind.mpr rfl

end Step

/-! ### Any message -/

namespace Agent

variable {a : Agent} {x : Arrival} {r : Record}

theorem take_table
    (about : (∃ table, x.message.body = .witnessTable table) ∨ x.message.body = .witnessTableQuery) :
    (a.take x).records = a.records := by
  have unchanged : (Operation.receive x.sender x.message).step.Ensures x.around
      ⟨a, x.drawn, x.looked, []⟩ fun _ s' => s'.agent.records = a.records :=
    Step.ensures_map (Step.receive_table about)
  exact Step.ensures_perform unchanged

theorem take_misnamed {offer : PaymentOffer} (body : x.message.body = .offer offer)
    (stored : a.records.get? x.message.thread = some r) (moves : (Body.offer offer).Moves r)
    (giver : Expects r.transfer.giver x.sender) (misnamed : offer.giver ≠ x.sender) :
    ∃ problem now, a.take x = a.failed r problem now := by
  have failed : (Operation.receive x.sender x.message).step.Ensures x.around
      ⟨a, x.drawn, x.looked, []⟩ fun _ s' => ∃ problem now, s'.agent = a.failed r problem now :=
    Step.ensures_map (Step.receive_misnamed body stored moves.1 moves.2 giver misnamed)
  exact Step.ensures_perform failed

end Agent

/-- A message of a party that is not the next to speak leaves the records or fails the transfer,
unless it is a counter-offer to the getter. -/
theorem moves_by_expected_sender (config : Config) (notes : List Note) (acts : List Act) {x : Arrival}
    {r : Record} {d : Did}
    (stored : ((Agent.new config notes).doesAll acts).records.get? x.message.thread = some r)
    (expects : r.transfer.expectedSender = some d)
    (plain : ∀ problem, x.message.body ≠ .problemReport problem) (other : x.sender ≠ d)
    (uncountered : ¬r.CounteredBy x.sender x.message.body) :
    let a := (Agent.new config notes).doesAll acts
    (a.take x).records = a.records ∨
      ∃ problem now, (a.take x).records = (a.failed r problem now).records := by
  have awaits := Agent.doesAll_awaiting config notes acts _ r stored
  generalize (Agent.new config notes).doesAll acts = a at stored
  have stranger (known : x.message.body.counterparts r.transfer ≠ [])
      (unnamed : x.sender ∉ x.message.body.counterparts r.transfer) : (a.take x).records = a.records ∨
        ∃ problem now, (a.take x).records = (a.failed r problem now).records := by
    rcases Agent.take_stranger stored known unnamed with same | ⟨_, _, now, failed⟩
    · exact .inl (by rw [same])
    · exact .inr ⟨_, now, by rw [failed]⟩
  by_cases about : (∃ table, x.message.body = .witnessTable table) ∨ x.message.body = .witnessTableQuery
  · exact .inl (Agent.take_table about)
  by_cases moves : x.message.body.Moves r
  · by_cases offered : ∃ offer, x.message.body = .offer offer
    · obtain ⟨offer, body⟩ := offered
      rw [body] at moves stranger
      by_cases giver : Expects r.transfer.giver x.sender
      · have misnamed : offer.giver ≠ x.sender := fun same =>
          uncountered ⟨moves.1, moves.2, giver, offer, body, same⟩
        obtain ⟨problem, now, failed⟩ := Agent.take_misnamed body stored moves giver misnamed
        exact .inr ⟨problem, now, congrArg Agent.records failed⟩
      · obtain ⟨known, mem, apart⟩ : ∃ known ∈ r.transfer.giver, known ≠ x.sender := by
          simpa [Expects] using giver
        have counterparts : (Body.offer offer).counterparts r.transfer = [known] := by
          rw [Body.counterparts, Option.mem_def.mp mem]
          rfl
        apply stranger <;> rw [counterparts]
        · simp
        · simpa using apart.symm
    · have spoken := Body.counterparts_of_moves moves (not_exists.mp offered) plain
        (fun table body => about (.inl ⟨table, body⟩)) fun body => about (.inr body)
      rw [awaits d expects] at spoken
      apply stranger <;> rw [spoken]
      · simp
      · simpa using other
  · exact .inl (by rw [Agent.take_of_spent stored moves])

namespace Market

def asks : Act := .perform (.createRequest five (some witness) (some giver) none none) .calm 0 0

def vouchingByStranger : Arrival :=
  arrival mallory "" (.requestAcceptedWitnessed ⟨five, giver, mallory, [payment]⟩)

def countering : Arrival := arrival giver "" (.offer offer)

end Market

theorem moves_by_expected_sender_market :
    let a := (Agent.new (Config.new Market.getter) []).doesAll [Market.asks]
    ((a.take Market.vouchingByStranger).records.get? ⟨""⟩).map Record.state = some .failed ∧
    ∃ r, a.records.get? ⟨""⟩ = some r ∧ ((a.take Market.vouchingByStranger).records = a.records ∨
      ∃ problem now, (a.take Market.vouchingByStranger).records = (a.failed r problem now).records) := by
  have found : (((Agent.new (Config.new Market.getter) []).doesAll [Market.asks]).records.get? ⟨""⟩).any
      (·.transfer.expectedSender = some Market.witness) = true := by decide +kernel
  simp only [Option.any_eq_true, decide_eq_true_eq] at found
  obtain ⟨r, stored, expects⟩ := found
  refine ⟨by decide +kernel, r, stored, ?_⟩
  refine moves_by_expected_sender (Config.new Market.getter) [] [Market.asks] stored expects nofun
    (by decide) ?_
  rintro ⟨-, -, -, offer, body, -⟩
  cases body

/-- A getter that waits for the witness takes the giver's offer. -/
theorem counter_offer_unexpected : ∃ r r',
    ((Agent.new (Config.new Market.getter) []).doesAll [Market.asks]).records.get? ⟨""⟩ = some r ∧
    r.transfer.expectedSender = some Market.witness ∧ Market.countering.sender ≠ Market.witness ∧
    (((Agent.new (Config.new Market.getter) []).doesAll [Market.asks]).take Market.countering).records.get?
      ⟨""⟩ = some r' ∧
    r.state = .requestSent ∧ r'.state = .offerReceived := by
  have found : (((Agent.new (Config.new Market.getter) []).doesAll [Market.asks]).records.get? ⟨""⟩).any
      (fun r => r.transfer.expectedSender = some Market.witness ∧ r.state = .requestSent) = true := by
    decide +kernel
  have found' : ((((Agent.new (Config.new Market.getter) []).doesAll [Market.asks]).take
      Market.countering).records.get? ⟨""⟩).any (·.state = .offerReceived) = true := by decide +kernel
  simp only [Option.any_eq_true, decide_eq_true_eq] at found found'
  obtain ⟨r, stored, expects, state⟩ := found
  obtain ⟨r', stored', state'⟩ := found'
  exact ⟨r, r', stored, expects, by decide, stored', state, state'⟩

end WitnessedTransfer
