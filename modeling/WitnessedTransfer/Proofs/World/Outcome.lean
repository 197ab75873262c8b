import WitnessedTransfer.Proofs.World.Backing

/-! One outcome for both parties: when the witness has completed a transfer, neither the getter nor
the giver has failed it, unless one of them has itself given it up after it had consented. Once a
party has consented it refuses nothing that its witness says, so all that is left to fail its transfer
is a report of a problem, and that comes from a party that has failed the transfer before. -/
namespace WitnessedTransfer

def Record.Consented (r : Record) : Prop :=
  r.state ∈ [.requestAcceptedSent, .cashAcceptedReceived, .cashRemoved, .cashAcceptedSent]

theorem Record.Consented.not_failed {r : Record} (consented : r.Consented) : r.state ≠ .failed := by
  intro failed
  rw [Record.Consented, failed] at consented
  simp at consented

section
variable {r : Record} (live : r.isTerminal = false)
include live

theorem Record.PastAcceptance.consented (past : r.PastAcceptance) : r.Consented := by
  have state := past.live_state live
  unfold Record.Consented
  revert state
  cases r.state <;> decide

theorem Record.PastCash.live_state (past : r.PastCash) : r.state = .cashAcceptedSent := by
  unfold Record.PastCash at past
  unfold Record.isTerminal at live
  revert past live
  cases r.state <;> simp [TransferState.isTerminal]

end

theorem Transfer.isParticipant_iff {t : Transfer} {did : Did} : t.isParticipant did = true ↔
    t.getter = some did ∨ t.giver = some did ∨ t.witness = some did := by
  simp [isParticipant, participants, @eq_comm _ (some did)]

/-! ### How a transfer fails -/

section
variable {around : Surroundings} {op : Operation} {a : Agent} {r : Record}

/-- What an agent has failed now was live before, and there is a reason for it. -/
theorem Stores.fails (stores : Stores around op a r) (state : r.state = .failed) :
    ∃ before problem recipients, before.id = r.id ∧ a.records.get? before.id = some before ∧
      before.isTerminal = false ∧ Fails around op a before problem recipients := by
  cases stores with
  | opened opens => cases opens <;> cases state
  | @moved before versions wallet ledger sent stored move =>
    refine ⟨before, ?_⟩
    rw [move.last_same.1]
    cases move with
    | @failed problem recipients _ live fails => exact ⟨problem, recipients, rfl, stored, live, fails⟩
    | transferred _ _ _ _ _ _ _ _ _ _ first second third =>
      subst first second third
      cases state
    | _ => cases state

/-- To give up a transfer is to fail it. -/
theorem Stores.failed_of_abort {id : TransferId} {code : Option String} {comment : String}
    (stores : Stores around (.abort id code comment) a r) : r.state = .failed := by
  cases stores with
  | opened opens => cases opens <;> contradiction
  | moved stored move =>
    cases move with
    | failed => rfl
    | requested _ _ _ _ _ accepts => rcases accepts with same | takes <;> contradiction
    | cashAccepted _ _ _ _ accepts => rcases accepts with same | takes <;> contradiction
    | committed _ _ _ _ _ _ _ accepts => rcases accepts with calls | takes <;> contradiction
    | credited _ _ _ credits => rcases credits with same | takes <;> contradiction
    | _ => contradiction

end

def Body.Consents : Body → Prop
  | .requestAccepted _ | .cashAccepted _ => True
  | _ => False

/-- Whoever sends its consent has consented. -/
theorem Move.consented {versions : List Record} {wallet ledger : Holding} {sent : List Dispatch}
    (move : Move around op a r versions wallet ledger sent) : ∀ d ∈ sent,
    d.message.body.Consents → d.message.thread = r.id ∧ (versions.getLastD r).Consented := by
  cases move with
  | cashAccepted | committed => simp [Agent.dispatch, Record.Consented]
  | failed =>
    intro d mem consents
    obtain ⟨_, -, rfl⟩ := List.mem_map.mp mem
    exact consents.elim
  | _ => simp [Agent.dispatch, Body.Consents, Step.closingMessages]

theorem not_failed {recorded : Recorded} {party : Did} {id : TransferId} {r : Record}
    (stored : recorded party id = some r) (state : r.state ≠ .failed) :
    ¬Failed recorded party id := by
  rintro ⟨r', stored', failed⟩
  cases stored.symm.trans stored'
  exact state failed

theorem not_failed_of_live {recorded : Recorded} {party : Did} {id : TransferId} {r : Record}
    (stored : recorded party id = some r) (live : r.isTerminal = false) :
    ¬Failed recorded party id := by
  apply not_failed stored
  intro failed
  rw [Record.isTerminal, failed] at live
  cases live

namespace World

variable {w : World} {around : Surroundings} {op : Operation} {s s' : Scene} {r : Record}
  {problem : Problem} {recipients : List Did}

/-- Whoever fails a transfer after a deed has failed it before, or fails it now. -/
theorem failed_amid {party : Did} {id : TransferId} (deed : Deed around op s s')
    (failed : Failed (w.amid s').record? party id) : Failed (w.amid s).record? party id ∨
      party = s.agent.did ∧ ∃ r problem recipients, r.id = id ∧
        s.agent.records.get? id = some r ∧ r.isTerminal = false ∧
          Fails around op s.agent r problem recipients := by
  obtain ⟨r, stored, state⟩ := failed
  rcases stored_amid deed stored with old | ⟨rfl, rfl, stores⟩
  · exact .inl ⟨r, old, state⟩
  · obtain ⟨before, problem, recipients, same, stored, rest⟩ := stores.fails state
    exact .inr ⟨rfl, before, problem, recipients, same, same ▸ stored, rest⟩

/-- Nothing that a giver tries is refused once it has consented. -/
theorem Backing.giver_unrefused {step : Step Record} {told : Option Did} {s₁ : Scene}
    (h : (w.amid s).Backing) (founded : w.Founded s.agent.did op)
    (stored : s.agent.records.get? r.id = some r) (live : r.isTerminal = false)
    (past : r.PastAcceptance) (tries : Tries op r step told) (here : s₁.agent = s.agent) :
    step.Unrefused around s₁ := by
  have state := past.live_state live
  have known := known_amid (w := w) stored
  rw [← here] at stored
  cases tries with
  | registered _ _ other | countered _ _ other | requested _ other | vouched _ _ other
  | cashAccepted _ other | answered _ _ other | credited _ _ other | notarized _ _ other
  | transferred _ _ other | minted _ _ other =>
    simp [other] at state
  | committed _ isOpen =>
    rcases Step.isRequested_iff.mp isOpen with other | other <;> simp [other] at state
  | paid _ getter =>
    rcases Record.role_of_committed (h.records _ _ _ known).placed state with role | role <;>
      cases getter.symm.trans role
  | witnessed takes _ state =>
    obtain ⟨_, r₀, stored₀, -, witness, -, amount⟩ := h.takes founded takes
    cases known.symm.trans stored₀
    exact Step.noteCashWitnessed_unrefused stored state (by simp [witness]) (Decimal.equiv_symm amount)
  | removed takes _ state =>
    obtain ⟨_, _, _, ⟨r₀, stored₀, -, witness, -⟩, ⟨r₁, stored₁, -, rfl⟩, named⟩ := h.takes founded takes
    cases known.symm.trans stored₀
    cases known.symm.trans stored₁
    have can : r.state.canMoveTo .cashRemoved = true := by
      rcases state with state | state <;> rw [state] <;> rfl
    exact Step.removeCash_unrefused stored can (by simp [witness]) named
  | settled takes role can =>
    obtain ⟨-, r₀, stored₀, -, witness, -, amount⟩ := h.agreeing.takes founded takes
    cases known.symm.trans stored₀
    exact Step.complete_unrefused stored can (by simp [witness])
      (Decimal.equiv_symm amount) fun getter => by cases role.symm.trans getter

/-- Nothing that a getter tries is refused once it has consented. -/
theorem Backing.getter_unrefused {step : Step Record} {told : Option Did} {s₁ : Scene}
    (h : (w.amid s).Backing) (founded : w.Founded s.agent.did op)
    (stored : s.agent.records.get? r.id = some r) (state : r.state = .cashAcceptedSent)
    (tries : Tries op r step told) (here : s₁.agent = s.agent) : step.Unrefused around s₁ := by
  have known := known_amid (w := w) stored
  have sound := h.agreeing.records _ _ _ known
  have getter := Record.role_of_cash (h.records _ _ _ known).placed (.inr state)
  rw [← here] at stored
  cases tries with
  | registered _ _ other | countered _ _ other | requested _ other | vouched _ _ other
  | cashAccepted _ other | answered _ _ other | credited _ _ other | notarized _ _ other
  | transferred _ _ other | minted _ _ other | witnessed _ _ other =>
    cases state.symm.trans other
  | committed _ isOpen => simp [Step.isRequested, state] at isOpen
  | removed _ role | settled _ role => cases getter.symm.trans role
  | @paid sender receipt takes _ can =>
    have told := h.agreeing.takes founded takes
    have own := sound.getter getter
    obtain ⟨paid, sum, worth⟩ := h.takes founded takes
    have live : r.state.isTerminal = false := by rw [state]; rfl
    obtain ⟨witness, named, r₁, stored₁, -, -, -, -, -, amount₁⟩ :=
      attested_of_paid told known sound live own
    obtain ⟨⟨r₀, stored₀, -, -, -, -, -, amount₀⟩, r₂, stored₂, -, witness₂⟩ := told
    cases known.symm.trans stored₂
    cases named.symm.trans witness₂
    cases stored₀.symm.trans stored₁
    have amount := Decimal.equiv_trans (Decimal.equiv_symm amount₀) amount₁
    refine Step.complete_unrefused stored can (by simp [named]) amount fun _ => ?_
    exact ⟨paid, here ▸ sum, Decimal.equiv_trans worth amount⟩

/-- A giver that has consented fails the transfer only after its witness or its getter has. -/
theorem Backing.giver_fails {witness getter : Did} (h : (w.amid s).Backing)
    (founded : w.Founded s.agent.did op) (stored : s.agent.records.get? r.id = some r)
    (live : r.isTerminal = false) (past : r.PastAcceptance)
    (byWitness : r.transfer.witness = some witness) (toGetter : r.transfer.getter = some getter)
    (stays : ∀ code comment, op ≠ .abort r.id code comment)
    (fails : Fails around op s.agent r problem recipients) :
    witness = s.agent.did ∨ Failed (w.amid s).record? witness r.id ∨
      Failed (w.amid s).record? getter r.id := by
  have known := known_amid (w := w) stored
  have sound := h.agreeing.records _ _ _ known
  have grounded := h.records _ _ _ known
  cases fails with
  | refused tries here broke =>
    exact absurd broke (h.giver_unrefused founded stored live past tries here _)
  | @reported sender _ _ takes participant =>
    have failed : Failed (w.amid s).record? sender r.id := h.takes founded takes
    rcases Transfer.isParticipant_iff.mp participant with named | named | named
    · cases toGetter.symm.trans named
      exact .inr (.inr failed)
    · rcases Record.role_of_committed grounded.placed (past.live_state live) with role | role
      · cases named.symm.trans (sound.giver role)
        exact absurd failed (not_failed_of_live known live)
      · exact .inl (Option.some.inj (byWitness.symm.trans (grounded.witness role)))
    · cases byWitness.symm.trans named
      exact .inr (.inl failed)
  | aborted same => exact absurd same (stays _ _)

/-- A getter that has consented fails the transfer only after its witness or its giver has. -/
theorem Backing.getter_fails {witness giver : Did} (h : (w.amid s).Backing)
    (founded : w.Founded s.agent.did op) (stored : s.agent.records.get? r.id = some r)
    (live : r.isTerminal = false) (state : r.state = .cashAcceptedSent)
    (byWitness : r.transfer.witness = some witness) (byGiver : r.transfer.giver = some giver)
    (stays : ∀ code comment, op ≠ .abort r.id code comment)
    (fails : Fails around op s.agent r problem recipients) :
    Failed (w.amid s).record? witness r.id ∨ Failed (w.amid s).record? giver r.id := by
  have known := known_amid (w := w) stored
  have sound := h.agreeing.records _ _ _ known
  have getter := Record.role_of_cash (h.records _ _ _ known).placed (.inr state)
  cases fails with
  | refused tries here broke =>
    exact absurd broke (h.getter_unrefused founded stored state tries here _)
  | @reported sender _ _ takes participant =>
    have failed : Failed (w.amid s).record? sender r.id := h.takes founded takes
    rcases Transfer.isParticipant_iff.mp participant with named | named | named
    · cases named.symm.trans (sound.getter getter)
      exact absurd failed (not_failed_of_live known live)
    · cases byGiver.symm.trans named
      exact .inr failed
    · cases byWitness.symm.trans named
      exact .inl failed
  | aborted same => exact absurd same (stays _ _)

/-- Where a witness has vouched, the giver has accepted, unless the witness has failed since. -/
theorem Backing.pledged_of_vouched {witness getter giver : Did} {id : TransferId} {amount : Decimal}
    (h : w.Backing) (vouched : Vouched w.record? witness getter id (some giver) amount) :
    Failed w.record? witness id ∨ ∃ acceptance,
      w.Arrived giver witness id (.requestAccepted acceptance) ∧ acceptance.request.getter = getter := by
  obtain ⟨r, stored, ⟨role, state⟩, toGetter, byGiver, -⟩ := vouched
  by_cases failed : r.state = .failed
  · exact .inl ⟨r, stored, failed⟩
  · have state : r.state = .requestAcceptedWitnessed ∨ r.state = .completed := by
      simpa [failed] using state
    obtain ⟨acceptance, arrived, named, -⟩ := (h.records _ _ _ stored).promised role state giver byGiver
    exact .inr ⟨acceptance, arrived, Option.some.inj (named.symm.trans toGetter)⟩

/-! ### No party is left alone -/

structure Undivided (w : World) (getter giver : Did) (id : TransferId) : Prop where
  pledged : ∀ witness acceptance, w.Arrived giver witness id (.requestAccepted acceptance) →
    acceptance.request.getter = getter → Failed w.record? giver id →
    Failed w.record? witness id ∨ Failed w.record? getter id
  cashed : ∀ witness acceptance amount, w.Arrived getter witness id (.cashAccepted acceptance) →
    Vouched w.record? witness getter id (some giver) amount → Failed w.record? getter id →
    Failed w.record? witness id

def Retracts (w : World) (party : Did) (id : TransferId) (occurrence : Occurrence) : Prop :=
  ∃ code comment r, w.Performs occurrence party (.abort id code comment) ∧
    w.record? party id = some r ∧ r.Consented

/-- In the course the party does not give up the transfer once it has consented to it. -/
def Steadfast (w : World) (party : Did) (id : TransferId) : List Occurrence → Prop
  | [] => True
  | occurrence :: rest =>
    ¬w.Retracts party id occurrence ∧ (w.undergo occurrence).Steadfast party id rest

/-- Whoever never gives a transfer up is steadfast. -/
theorem steadfast_of_patient {party : Did} {id : TransferId} {course : List Occurrence}
    (patient : ∀ code comment source, .call party (.abort id code comment) source ∉ course) :
    w.Steadfast party id course := by
  induction course generalizing w with
  | nil => trivial
  | cons occurrence rest ih =>
    refine ⟨?_, ih fun code comment source mem => patient code comment source (.tail _ mem)⟩
    rintro ⟨code, comment, r, performs, -⟩
    cases performs with
    | call own => exact patient code comment _ (.head _)

section
variable {getter giver party sender recipient : Did} {id : TransferId} {body : Body}

/-- Whoever has failed has not consented just now. -/
theorem consent_amid (deed : Deed around op s s')
    (arrived : (w.amid s').Arrived sender recipient id body)
    (failed : Failed (w.amid s').record? sender id) (consents : body.Consents) :
    (w.amid s).Arrived sender recipient id body := by
  rcases arrived_amid deed arrived with old | ⟨rfl, d, clear, rfl, message, origin⟩
  · exact old
  · rcases origin with loose | ⟨r, versions, wallet, ledger, sent, mem, stored, move, last⟩
    · rcases loose with lost | loose
      · exact absurd clear lost.not_clear
      · rw [message] at loose
        cases body <;> contradiction
    · obtain ⟨named, consented⟩ := move.consented d mem (by rwa [message])
      obtain ⟨r', stored', state⟩ := failed
      obtain rfl : id = r.id := by rwa [message] at named
      cases stored'.symm.trans last
      exact absurd state consented.not_failed

section
variable (undivided : (w.amid s).Undivided getter giver id) (h : (w.amid s).Backing)
  (deed : Deed around op s s') (founded : w.Founded s.agent.did op)
  (stays : ∀ party ∈ [getter, giver], party = s.agent.did → ∀ r,
    s.agent.records.get? id = some r → r.Consented → ∀ code comment, op ≠ .abort id code comment)
include undivided h deed founded stays

theorem Undivided.pledged_after {witness : Did} {acceptance : Acceptance}
    (arrived : (w.amid s').Arrived giver witness id (.requestAccepted acceptance))
    (toGetter : acceptance.request.getter = getter) (failed : Failed (w.amid s').record? giver id) :
    Failed (w.amid s').record? witness id ∨ Failed (w.amid s').record? getter id := by
  have grows := grows_amid (w := w) deed
  have arrived := consent_amid deed arrived failed trivial
  rcases failed_amid deed failed with before | ⟨rfl, r, problem, recipients, rfl, stored, live, fails⟩
  · exact (undivided.pledged witness acceptance arrived toGetter before).imp (·.mono grows) (·.mono grows)
  · obtain ⟨r₀, stored₀, past, byWitness, named, -⟩ := h.agreeing.messages _ _ _ _ arrived
    cases (known_amid stored).symm.trans stored₀
    rcases h.giver_fails founded stored live past byWitness (named.trans (congrArg some toGetter))
      (stays _ (by simp) rfl r stored (past.consented live)) fails with rfl | before | before
    · exact .inl failed
    · exact .inl (before.mono grows)
    · exact .inr (before.mono grows)

theorem Undivided.cashed_after {witness : Did} {acceptance : CashAcceptance} {amount : Decimal}
    (arrived : (w.amid s').Arrived getter witness id (.cashAccepted acceptance))
    (vouched : Vouched (w.amid s').record? witness getter id (some giver) amount)
    (failed : Failed (w.amid s').record? getter id) : Failed (w.amid s').record? witness id := by
  have grows := grows_amid (w := w) deed
  have arrived := consent_amid deed arrived failed trivial
  obtain ⟨giver', amount', vouched'⟩ := h.messages _ _ _ _ arrived
  obtain rfl := (vouched'.mono grows).giver_eq vouched
  rcases failed_amid deed failed with before | ⟨rfl, r, problem, recipients, rfl, stored, live, fails⟩
  · exact (undivided.cashed witness acceptance amount' arrived vouched' before).mono grows
  · have known := known_amid (w := w) stored
    obtain ⟨r₀, stored₀, past, byWitness⟩ := h.agreeing.messages _ _ _ _ arrived
    cases known.symm.trans stored₀
    have state := past.live_state live
    obtain ⟨witness', named, vouched₀⟩ := (h.agreeing.records _ _ _ known).vouched (.inr state)
    cases byWitness.symm.trans named
    have consented : r.Consented := by simp [Record.Consented, state]
    rcases h.getter_fails founded stored live state byWitness (vouched₀.giver_eq vouched')
      (stays _ (by simp) rfl r stored consented) fails with before | before
    · exact before.mono grows
    · rcases h.pledged_of_vouched vouched' with before' | ⟨acceptance', accepted, toGetter⟩
      · exact before'.mono grows
      · rcases undivided.pledged _ _ accepted toGetter before with before' | before'
        · exact before'.mono grows
        · exact absurd before' (not_failed_of_live known live)

theorem Undivided.after : (w.amid s').Undivided getter giver id where
  pledged _ _ := undivided.pledged_after h deed founded stays
  cashed _ _ _ := undivided.cashed_after h deed founded stays

end

/-- Whether the user of an agent gives up a transfer does not depend on the world. -/
theorem Performs.of_abort {w w' : World} {occurrence : Occurrence} {code : Option String}
    {comment : String} (performs : w.Performs occurrence party (.abort id code comment)) :
    w'.Performs occurrence party (.abort id code comment) := by
  cases performs with
  | call own => exact .call own

/-- What an agent does at an occurrence does not make it one that gives up a transfer. -/
theorem not_retracts_amid {occurrence : Occurrence}
    (performs : w.Performs occurrence s.agent.did op) (deed : Deed around op s s')
    (stays : ¬(w.amid s).Retracts party id occurrence) :
    ¬(w.amid s').Retracts party id occurrence := by
  rintro ⟨code, comment, r, calls, stored, consented⟩
  cases calls with
  | call own =>
    cases performs
    rcases stored_amid deed stored with old | ⟨-, -, stores⟩
    · exact stays ⟨code, comment, r, .call own, old, consented⟩
    · exact consented.not_failed stores.failed_of_abort

theorem Undivided.of_same {w' : World} (agents : ∀ did, w'.agent? did = w.agent? did)
    (traffic : w'.traffic = w.traffic) (undivided : w.Undivided getter giver id) :
    w'.Undivided getter giver id where
  pledged witness acceptance arrived := by
    rw [record?_congr agents]
    exact undivided.pledged witness acceptance ((arrived_congr traffic).mp arrived)
  cashed witness acceptance amount arrived := by
    rw [record?_congr agents]
    exact undivided.cashed witness acceptance amount ((arrived_congr traffic).mp arrived)

theorem Begun.undivided (begun : w.Begun) : w.Undivided getter giver id where
  pledged _ _ arrived := absurd arrived begun.not_arrived
  cashed _ _ _ arrived := absurd arrived begun.not_arrived

/-- What happens leaves no party alone, if neither of the two gives up what it has consented to. -/
theorem Undivided.undergo {occurrence : Occurrence} (h : w.Backing)
    (undivided : w.Undivided getter giver id)
    (stays : ∀ party ∈ [getter, giver], ¬w.Retracts party id occurrence) :
    (w.undergo occurrence).Backing ∧ (w.undergo occurrence).Undivided getter giver id := by
  suffices all : (w.undergo occurrence).Backing ∧ (w.undergo occurrence).Undivided getter giver id ∧
      ∀ party ∈ [getter, giver], ¬(w.undergo occurrence).Retracts party id occurrence from
    ⟨all.1, all.2.1⟩
  refine undergo_invariant (P := fun w => w.Backing ∧ w.Undivided getter giver id ∧
    ∀ party ∈ [getter, giver], ¬w.Retracts party id occurrence) ?_ ?_ ⟨h, undivided, stays⟩
  · rintro w w' agents traffic ⟨h, undivided, stays⟩
    refine ⟨h.of_same agents traffic, undivided.of_same agents traffic, fun party mem => ?_⟩
    rintro ⟨code, comment, r, calls, stored, consented⟩
    rw [record?_congr agents] at stored
    exact stays party mem ⟨code, comment, r, calls.of_abort, stored, consented⟩
  · rintro me op performs around s s' rfl ⟨h, undivided, stays⟩ deed
    refine ⟨h.deed deed performs.founded, undivided.after h deed performs.founded ?_,
      fun party mem => not_retracts_amid performs deed (stays party mem)⟩
    rintro party mem rfl r stored consented code comment rfl
    exact stays _ mem ⟨code, comment, r, performs.of_abort, known_amid stored, consented⟩

theorem Begun.play_undivided (begun : w.Begun) (course : List Occurrence)
    (getter_steadfast : w.Steadfast getter id course) (giver_steadfast : w.Steadfast giver id course) :
    (w.play course).Backing ∧ (w.play course).Undivided getter giver id := by
  suffices preserved : ∀ w : World, w.Backing → w.Undivided getter giver id →
      w.Steadfast getter id course → w.Steadfast giver id course →
      (w.play course).Backing ∧ (w.play course).Undivided getter giver id from
    preserved w begun.backing begun.undivided getter_steadfast giver_steadfast
  clear begun getter_steadfast giver_steadfast
  induction course with
  | nil => exact fun w h undivided _ _ => ⟨h, undivided⟩
  | cons occurrence rest ih =>
    intro w h undivided ⟨getter_stays, getter_rest⟩ ⟨giver_stays, giver_rest⟩
    have stays : ∀ party ∈ [getter, giver], ¬w.Retracts party id occurrence := by
      simpa using ⟨getter_stays, giver_stays⟩
    obtain ⟨h, undivided⟩ := undivided.undergo h stays
    exact ih _ h undivided getter_rest giver_rest

end

end World

/-- When the witness has completed a transfer, neither the getter nor the giver has failed it, unless
one of them has given it up itself after it had consented to it. -/
theorem outcome_undivided {w : World} (begun : w.Begun) (course : List Occurrence)
    {witness getter giver : Did} {id : TransferId} {r : Record}
    (stored : (w.play course).record? witness id = some r) (role : r.role = .witness)
    (state : r.state = .completed) (toGetter : r.transfer.getter = some getter)
    (byGiver : r.transfer.giver = some giver) (getter_steadfast : w.Steadfast getter id course)
    (giver_steadfast : w.Steadfast giver id course) : ∀ party ∈ [getter, giver], ∀ r',
      (w.play course).record? party id = some r' → r'.state ≠ .failed := by
  obtain ⟨h, undivided⟩ := begun.play_undivided course getter_steadfast giver_steadfast
  have unfailed : ¬Failed (w.play course).record? witness id :=
    not_failed stored (by simp [state])
  have vouched : Vouched (w.play course).record? witness getter id (some giver) r.transfer.amount :=
    ⟨r, stored, ⟨role, by simp [state]⟩, toGetter, byGiver, Decimal.equiv_refl _⟩
  obtain ⟨getter', cash, named, cashed⟩ :=
    (h.records _ _ _ stored).cashed role state (by simp [byGiver])
  cases toGetter.symm.trans named
  have getter_stays : ¬Failed (w.play course).record? getter id := fun failed =>
    unfailed (undivided.cashed witness cash _ cashed vouched failed)
  have giver_stays : ¬Failed (w.play course).record? giver id := fun failed => by
    rcases h.pledged_of_vouched vouched with failed' | ⟨acceptance, accepted, same⟩
    · exact unfailed failed'
    · exact (undivided.pledged witness acceptance accepted same failed).elim unfailed getter_stays
  intro party mem r' stored' failed
  simp only [List.mem_cons, List.not_mem_nil, or_false] at mem
  rcases mem with rfl | rfl
  · exact getter_stays ⟨r', stored', failed⟩
  · exact giver_stays ⟨r', stored', failed⟩

theorem outcome_undivided_market : ∃ r,
    (Market.opening.play Market.trading).record? Market.witness ⟨"2"⟩ = some r ∧
      r.state = .completed ∧ ∀ party ∈ [Market.getter, Market.giver], ∀ r',
        (Market.opening.play Market.trading).record? party ⟨"2"⟩ = some r' → r'.state ≠ .failed := by
  have found : ((Market.opening.play Market.trading).record? Market.witness ⟨"2"⟩).any
      (fun r => r.role = .witness ∧ r.state = .completed ∧ r.transfer.getter = some Market.getter ∧
        r.transfer.giver = some Market.giver) = true := by decide +kernel
  simp only [Option.any_eq_true, decide_eq_true_eq] at found
  obtain ⟨r, stored, role, state, toGetter, byGiver⟩ := found
  have steadfast (party : Did) : Market.opening.Steadfast party ⟨"2"⟩ Market.trading :=
    World.steadfast_of_patient (by simp [Market.trading])
  exact ⟨r, stored, state, outcome_undivided Market.opening_begun Market.trading stored role state
    toGetter byGiver (steadfast _) (steadfast _)⟩

namespace Market

/-- The getter gives up after it has accepted the cash. What it sent before reaches the witness, and
the receipt reaches the getter. -/
def regretting : List Occurrence := trading.take 9 ++ [
  .call getter (.abort ⟨"2"⟩ none "changed my mind") source, .deliver 6 source, .deliver 12 source]

end Market

/-- A getter that gives up after it has consented can end with a failed transfer and an empty wallet,
while its witness has completed the transfer. -/
theorem outcome_split_by_abort : Market.opening.Begun ∧ ∃ r r' a,
    (Market.opening.play Market.regretting).record? Market.witness ⟨"2"⟩ = some r ∧
      r.role = .witness ∧ r.state = .completed ∧ r.transfer.getter = some Market.getter ∧
    (Market.opening.play Market.regretting).record? Market.getter ⟨"2"⟩ = some r' ∧
      r'.role = .getter ∧ r'.state = .failed ∧
    (Market.opening.play Market.regretting).agent? Market.getter = some a ∧ a.wallet.entries = [] := by
  have completed : ((Market.opening.play Market.regretting).record? Market.witness ⟨"2"⟩).any
      (fun r => r.role = .witness ∧ r.state = .completed ∧
        r.transfer.getter = some Market.getter) = true := by decide +kernel
  have failed : ((Market.opening.play Market.regretting).record? Market.getter ⟨"2"⟩).any
      (fun r => r.role = .getter ∧ r.state = .failed) = true := by decide +kernel
  have unpaid : ((Market.opening.play Market.regretting).agent? Market.getter).any
      (fun a => a.wallet.entries = []) = true := by decide +kernel
  simp only [Option.any_eq_true, decide_eq_true_eq] at completed failed unpaid
  obtain ⟨r, stored, role, state, toGetter⟩ := completed
  obtain ⟨r', stored', role', state'⟩ := failed
  obtain ⟨a, here, empty⟩ := unpaid
  exact ⟨Market.opening_begun, r, r', a, stored, role, state, toGetter, stored', role', state', here, empty⟩

end WitnessedTransfer
