import WitnessedTransfer.Proofs.Holding.Notes
import WitnessedTransfer.Proofs.Record.Roles
import WitnessedTransfer.Proofs.Step.Unrefused
import WitnessedTransfer.Proofs.World.Agreement

/-! What messages between agents ask of those who get them is what those have: the witness's word
fits the record of the party that it is given to, so neither party ever refuses it. And whoever
reports a problem has failed the transfer. -/
namespace WitnessedTransfer

def Failed (recorded : Recorded) (party : Did) (id : TransferId) : Prop :=
  ∃ r, recorded party id = some r ∧ r.state = .failed

def Staked (recorded : Recorded) (giver : Did) (id : TransferId) (inputs : List Note) : Prop :=
  ∃ r, recorded giver id = some r ∧ r.PastAcceptance ∧ r.transfer.inputs = inputs

def Backed (recorded : Recorded) (sender recipient : Did) (id : TransferId) : Body → Prop
  | .requestAccepted acceptance => Staked recorded sender id acceptance.inputs
  | .cashAccepted _ => ∃ giver amount, Vouched recorded recipient sender id giver amount
  | .cashAcceptedWitnessed cash => ∃ getter, Pledged recorded recipient sender id getter cash.amount
  | .cashRemoved removal => ∃ getter amount inputs,
    Pledged recorded recipient sender id getter amount ∧ Staked recorded recipient id inputs ∧
      removal.removed = inputs.map Note.id
  | .giverReceipt receipt => Staked recorded recipient id receipt.inputs
  | .getterReceipt receipt =>
    ∃ paid, Note.total (receipt.notesFor recipient) = .ok paid ∧ paid ≈ receipt.amount
  | .problemReport _ => Failed recorded sender id
  | _ => True

structure Grounded (w : World) (me : Did) (id : TransferId) (r : Record) : Prop where
  placed : r.InRole ∨ r.Usurped
  witness : r.role = .witness → r.transfer.witness = some me
  promised : r.role = .witness → r.state = .requestAcceptedWitnessed ∨ r.state = .completed →
    ∀ giver ∈ r.transfer.giver, ∃ acceptance, w.Arrived giver me id (.requestAccepted acceptance) ∧
      r.transfer.getter = some acceptance.request.getter ∧ r.transfer.inputs = acceptance.inputs
  paying : r.role = .witness → r.state = .requestAcceptedWitnessed → ∀ getter ∈ r.transfer.getter,
    ∃ paid, Note.total (Note.ownedBy getter r.transfer.outputs) = .ok paid ∧ paid ≈ r.transfer.amount
  cashed : r.role = .witness → r.state = .completed → r.transfer.giver ≠ none →
    ∃ getter acceptance, r.transfer.getter = some getter ∧
      w.Arrived getter me id (.cashAccepted acceptance)

def Advances (before after : Recorded) : Prop :=
  ∀ did id r, before did id = some r → ∃ r', after did id = some r' ∧ r.Later r' ∧ r.Onward r'

section
variable {before after : Recorded} {sender recipient : Did} {id : TransferId}

theorem Advances.grows (advances : Advances before after) : Grows before after := by
  intro did id r stored
  obtain ⟨r', stored', later, -⟩ := advances did id r stored
  exact ⟨r', stored', later⟩

theorem Failed.mono {party : Did} (failed : Failed before party id) (grows : Grows before after) :
    Failed after party id := by
  obtain ⟨r, stored, state⟩ := failed
  obtain ⟨r', stored', later⟩ := grows _ _ r stored
  obtain rfl := later.final (by rw [state]; rfl)
  exact ⟨r', stored', state⟩

theorem Staked.mono {giver : Did} {inputs : List Note} (staked : Staked before giver id inputs)
    (advances : Advances before after) : Staked after giver id inputs := by
  obtain ⟨r, stored, past, same⟩ := staked
  obtain ⟨r', stored', later, onward⟩ := advances _ _ r stored
  have terms := (onward.terms past.fixed).2
  exact ⟨r', stored', later.accepted past, (congrArg Terms.inputs terms).trans same⟩

theorem Backed.mono {body : Body} (backed : Backed before sender recipient id body)
    (advances : Advances before after) : Backed after sender recipient id body := by
  have grows := advances.grows
  cases body with
  | requestAccepted acceptance => exact Staked.mono backed advances
  | cashAccepted acceptance =>
    obtain ⟨giver, amount, vouched⟩ := backed
    exact ⟨giver, amount, vouched.mono grows⟩
  | cashAcceptedWitnessed cash =>
    obtain ⟨getter, pledged⟩ := backed
    exact ⟨getter, pledged.mono grows⟩
  | cashRemoved removal =>
    obtain ⟨getter, amount, inputs, pledged, staked, same⟩ := backed
    exact ⟨getter, amount, inputs, pledged.mono grows, staked.mono advances, same⟩
  | giverReceipt receipt => exact Staked.mono backed advances
  | problemReport problem => exact Failed.mono backed grows
  | _ => exact backed

/-- A witness vouches for one giver. -/
theorem Vouched.giver_eq {recorded : Recorded} {witness getter : Did} {giver giver' : Option Did}
    {amount amount' : Decimal} (vouched : Vouched recorded witness getter id giver amount)
    (vouched' : Vouched recorded witness getter id giver' amount') : giver = giver' := by
  obtain ⟨r, stored, -, -, same, -⟩ := vouched
  obtain ⟨r', stored', -, -, same', -⟩ := vouched'
  cases stored.symm.trans stored'
  exact same.symm.trans same'

end

/-! ### What a move preserves -/

section
variable {around : Surroundings} {op : Operation} {a : Agent} {r : Record}
  {versions : List Record} {wallet ledger : Holding} {sent : List Dispatch}

theorem Opens.grounded {w : World} (opens : Opens op a r) : Grounded w a.did r.id r := by
  refine ⟨.inl opens.inRole, ?_, ?_, ?_, ?_⟩ <;> cases opens <;>
    simp [Record.new, Transfer.new, Record.state]

theorem Grounded.mono {w w' : World} {me : Did} {id : TransferId} (grounded : Grounded w me id r)
    (arrived : ∀ sender recipient id body, w.Arrived sender recipient id body →
      w'.Arrived sender recipient id body) : Grounded w' me id r where
  placed := grounded.placed
  witness := grounded.witness
  promised role state giver byGiver := by
    obtain ⟨acceptance, came, same⟩ := grounded.promised role state giver byGiver
    exact ⟨acceptance, arrived _ _ _ _ came, same⟩
  paying := grounded.paying
  cashed role state named := by
    obtain ⟨getter, acceptance, toGetter, came⟩ := grounded.cashed role state named
    exact ⟨getter, acceptance, toGetter, arrived _ _ _ _ came⟩

/-- A record that is no witness's. -/
theorem grounded_of_party {w : World} {me : Did} {id : TransferId} (placed : r.InRole ∨ r.Usurped)
    (party : r.role ≠ .witness) : Grounded w me id r where
  placed := placed
  witness role := absurd role party
  promised role := absurd role party
  paying role := absurd role party
  cashed role := absurd role party

/-- A record in a state in which a witness has nothing to show. -/
theorem grounded_of_idle {w : World} {me : Did} {id : TransferId} (placed : r.InRole ∨ r.Usurped)
    (witness : r.role = .witness → r.transfer.witness = some me)
    (idle : r.state ≠ .requestAcceptedWitnessed ∧ r.state ≠ .completed) : Grounded w me id r where
  placed := placed
  witness := witness
  promised _ state := absurd state (not_or.mpr idle)
  paying _ state := absurd state idle.1
  cashed _ state := absurd state idle.2

theorem Move.grounded {w : World} (move : Move around op a r versions wallet ledger sent)
    (grounded : Grounded w a.did r.id r)
    (founded : ∀ sender body, op.Takes sender r.id body →
      w.Arrived sender a.did r.id body ∨ ∃ request, body = .request request) :
    Grounded w a.did r.id (versions.getLastD r) := by
  have placed := move.placed grounded.placed
  have came {sender : Did} {body : Body} (takes : op.Takes sender r.id body)
      (other : ∀ request, body ≠ .request request) : w.Arrived sender a.did r.id body := by
    rcases founded sender body takes with arrived | ⟨request, same⟩
    · exact arrived
    · exact absurd same (other request)
  cases move with
  | countered _ role | vouched _ role | answered _ role | witnessed _ role | removed _ role
  | paid _ role | settled _ role | credited role =>
    exact grounded_of_party placed (by simp [role])
  | requested state =>
    have role := Record.role_of_offerReceived grounded.placed state
    exact grounded_of_party placed (by simp [role])
  | cashAccepted | committed | failed => exact grounded_of_idle placed grounded.witness (by simp)
  | notarized takes role _ _ _ known toGetter _ _ conserved =>
    refine ⟨placed, grounded.witness, fun _ _ giver named => ?_, fun _ _ getter' named => ?_,
      fun _ state => by simp at state⟩
    · cases named
      exact ⟨_, came takes (by simp), known.trans (congrArg some toGetter.symm), rfl⟩
    · cases known.symm.trans named
      exact Step.checkConservation_paid conserved
  | @transferred sender getter giver _ _ _ _ _ _ _ _ _ _ takes role state fromGetter _ _ toGetter _ _ _
      first second third =>
    subst first second third
    obtain rfl : getter = sender := expects_some.mp (toGetter ▸ fromGetter)
    refine ⟨placed, grounded.witness, fun _ _ => grounded.promised role (.inl state),
      fun _ state => by simp at state, fun _ _ _ => ⟨getter, _, toGetter, came takes (by simp)⟩⟩
  | minted _ role _ _ _ _ _ _ _ _ _ ungiven =>
    refine ⟨placed, grounded.witness, fun _ _ giver named => ?_, fun _ state => by simp at state,
      fun _ _ named => absurd ungiven named⟩
    cases ungiven.symm.trans named

/-- What a move sends has behind it what it needs. -/
theorem Move.backed {w : World} {after : Recorded}
    (move : Move around op a r versions wallet ledger sent) (sound : Sound after a.did r.id r)
    (grounded : Grounded w a.did r.id r) (grown : after a.did r.id = some (versions.getLastD r))
    (messages : ∀ sender recipient id body, w.Arrived sender recipient id body →
      Backed after sender recipient id body) :
    ∀ d ∈ sent, Backed after a.did d.recipient d.message.thread d.message.body := by
  cases move with
  | countered | vouched | answered | witnessed | removed | paid | settled | credited =>
    simp
  | requested | notarized | minted => simp [Agent.dispatch, Backed]
  | failed =>
    intro d mem
    obtain ⟨_, -, rfl⟩ := List.mem_map.mp mem
    exact ⟨_, grown, rfl⟩
  | cashAccepted state known =>
    simp only [List.mem_singleton, forall_eq]
    obtain ⟨witness, named, vouched⟩ := sound.vouched (.inl state)
    cases known.symm.trans named
    exact ⟨_, _, vouched⟩
  | committed =>
    simp only [List.mem_singleton, forall_eq]
    exact ⟨_, grown, by simp [Record.PastAcceptance], rfl⟩
  | @transferred sender getter giver _ _ _ _ _ _ _ _ _ _ _ role state _ _ _ toGetter byGiver _ _ first
      second third =>
    subst first second third
    obtain ⟨giver', named, pledged⟩ := sound.pledged role state
    cases byGiver.symm.trans named
    obtain ⟨acceptance, arrived, -, inputs⟩ := grounded.promised role (.inl state) giver byGiver
    have staked : Staked after giver r.id acceptance.inputs := messages _ _ _ _ arrived
    simp only [Step.closingMessages, List.map_cons, List.map_nil, List.forall_mem_cons]
    rw [← inputs] at staked
    exact ⟨⟨_, pledged⟩, ⟨_, _, _, pledged, staked, rfl⟩, staked, grounded.paying role state _ toGetter,
      by simp⟩

end

theorem Dispatch.Loose.backed {d : Dispatch} {me : Did} {recorded : Recorded} (loose : d.Loose me)
    (clear : d.failure = none) :
    Backed recorded me d.recipient d.message.thread d.message.body := by
  rcases loose with lost | loose
  · exact absurd clear lost.not_clear
  · cases body : d.message.body <;> rw [body] at loose <;> trivial

/-! ### What every deed preserves -/

namespace World

structure Backing (w : World) : Prop where
  agreeing : w.Agreeing
  records : ∀ did id r, w.record? did id = some r → Grounded w did id r
  messages : ∀ sender recipient id body, w.Arrived sender recipient id body →
    Backed w.record? sender recipient id body

variable {w : World} {around : Surroundings} {op : Operation} {s s' : Scene}

theorem advances_amid (deed : Deed around op s s') :
    Advances (w.amid s).record? (w.amid s').record? := by
  intro party id r stored
  rcases kept_amid deed stored with same | ⟨versions, wallet, ledger, sent, move, moved⟩
  · exact ⟨r, same, .refl r, .refl⟩
  · exact ⟨_, moved, move.later, move.onward⟩

/-- What an operation takes has behind it what it needs. -/
theorem Backing.takes {sender : Did} {id : TransferId} {body : Body} (h : (w.amid s).Backing)
    (founded : w.Founded s.agent.did op) (takes : op.Takes sender id body) :
    Backed (w.amid s).record? sender s.agent.did id body := by
  rcases founded sender id body takes with arrived | ⟨request, rfl⟩
  · exact h.messages _ _ _ _ (arrived.amid s)
  · trivial

theorem Backing.deed (h : (w.amid s).Backing) (deed : Deed around op s s')
    (founded : w.Founded s.agent.did op) : (w.amid s').Backing where
  agreeing := h.agreeing.deed deed founded
  records party id r stored := by
    apply Grounded.mono _ fun _ _ _ _ => Arrived.after deed
    rcases stored_amid deed stored with old | ⟨rfl, rfl, stores⟩
    · exact h.records party id r old
    · cases stores with
      | opened opens => exact opens.grounded
      | moved known move =>
        rw [move.last_same.1]
        refine move.grounded (h.records _ _ _ (known_amid known)) fun sender body takes => ?_
        exact (founded sender _ body takes).imp_left fun arrived => arrived.amid s
  messages sender recipient id body arrived := by
    have advances := advances_amid (w := w) deed
    rcases arrived_amid deed arrived with old | ⟨rfl, d, clear, rfl, message, origin⟩
    · exact (h.messages sender recipient id body old).mono advances
    · suffices backed :
          Backed (w.amid s').record? s.agent.did d.recipient d.message.thread d.message.body by
        rwa [message] at backed
      rcases origin with loose | ⟨r, versions, wallet, ledger, sent, mem, known, move, last⟩
      · exact loose.backed clear
      · have known := known_amid (w := w) known
        refine move.backed ((h.agreeing.records _ _ _ known).mono advances.grows)
          (h.records _ _ _ known) last (fun sender recipient id body arrived => ?_) d mem
        exact (h.messages sender recipient id body arrived).mono advances

theorem Begun.backing (begun : w.Begun) : w.Backing where
  agreeing := begun.agreeing
  records did id r stored := by
    rw [begun.record?] at stored
    cases stored
  messages _ _ _ _ arrived := absurd arrived begun.not_arrived

theorem Backing.of_same {w' : World} (agents : ∀ did, w'.agent? did = w.agent? did)
    (traffic : w'.traffic = w.traffic) (h : w.Backing) : w'.Backing where
  agreeing := h.agreeing.of_same agents traffic
  records did id r stored := by
    rw [record?_congr agents] at stored
    exact (h.records did id r stored).mono fun _ _ _ _ => (arrived_congr traffic).mpr
  messages sender recipient id body arrived := by
    rw [record?_congr agents]
    exact h.messages sender recipient id body ((arrived_congr traffic).mp arrived)

end World
end WitnessedTransfer
