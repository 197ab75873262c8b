import WitnessedTransfer.Proofs.Decimal.Value
import WitnessedTransfer.Proofs.Market
import WitnessedTransfer.Proofs.World.Records
import WitnessedTransfer.Proofs.World.Runs

/-! Completion agreement: a getter or giver that has completed a transfer has a witness that has
completed it on the same terms and with the same receipt. What carries this is that every message
that arrives says something of the parties' records that stays true however long it is on its way,
and that a record which relies on another party has that party's record to show for it. -/
namespace WitnessedTransfer

abbrev Recorded := Did → TransferId → Option Record

def Pledged (recorded : Recorded) (giver witness : Did) (id : TransferId) (getter : Option Did)
    (amount : Decimal) : Prop :=
  ∃ r, recorded giver id = some r ∧ r.PastAcceptance ∧ r.transfer.witness = some witness ∧
    r.transfer.getter = getter ∧ r.transfer.amount ≈ amount

def Vouched (recorded : Recorded) (witness getter : Did) (id : TransferId) (giver : Option Did)
    (amount : Decimal) : Prop :=
  ∃ r, recorded witness id = some r ∧ r.PastNotarizing ∧ r.transfer.getter = some getter ∧
    r.transfer.giver = giver ∧ r.transfer.amount ≈ amount

def Cashed (recorded : Recorded) (getter witness : Did) (id : TransferId) : Prop :=
  ∃ r, recorded getter id = some r ∧ r.PastCash ∧ r.transfer.witness = some witness

def Attested (recorded : Recorded) (witness : Did) (id : TransferId) (receipt : Receipt)
    (getter giver : Option Did) (amount : Decimal) : Prop :=
  ∃ r, recorded witness id = some r ∧ r.role = .witness ∧ r.state = .completed ∧
    r.transfer.receipt = some receipt ∧ r.transfer.getter = getter ∧ r.transfer.giver = giver ∧
    r.transfer.amount ≈ amount

/-- What a message says of its sender and of those that its sender relies on. -/
def Tells (recorded : Recorded) (sender recipient : Did) (id : TransferId) : Body → Prop
  | .requestAccepted acceptance =>
    Pledged recorded sender recipient id (some acceptance.request.getter) acceptance.request.amount
  | .requestAcceptedWitnessed acceptance =>
    Vouched recorded sender recipient id (some acceptance.giver) acceptance.amount
  | .cashAccepted _ => Cashed recorded sender recipient id
  | .giverReceipt receipt =>
    Attested recorded sender id receipt (some receipt.getter) (some recipient) receipt.amount ∧
    Pledged recorded recipient sender id (some receipt.getter) receipt.amount
  | .getterReceipt receipt =>
    Attested recorded sender id receipt (some recipient) (some receipt.giver) receipt.amount ∧
    Cashed recorded recipient sender id
  | _ => True

structure Sound (recorded : Recorded) (me : Did) (id : TransferId) (r : Record) : Prop where
  getter : r.role = .getter → r.transfer.getter = some me
  giver : r.role = .giver → r.transfer.giver = some me
  vouched : r.state = .requestAcceptedReceived ∨ r.state = .cashAcceptedSent →
    ∃ witness, r.transfer.witness = some witness ∧
      Vouched recorded witness me id r.transfer.giver r.transfer.amount
  pledged : r.role = .witness → r.state = .requestAcceptedWitnessed →
    ∃ giver, r.transfer.giver = some giver ∧
      Pledged recorded giver me id r.transfer.getter r.transfer.amount
  attested : r.role = .getter ∨ r.role = .giver → r.state = .completed →
    ∃ witness receipt, r.transfer.witness = some witness ∧ r.transfer.receipt = some receipt ∧
      Attested recorded witness id receipt r.transfer.getter r.transfer.giver r.transfer.amount

def Grows (before after : Recorded) : Prop :=
  ∀ did id r, before did id = some r → ∃ r', after did id = some r' ∧ r.Later r'

section
variable {before after : Recorded} {me sender recipient : Did} {id : TransferId}
  {getter giver : Option Did} {receipt : Receipt} {amount : Decimal}

theorem Pledged.mono (pledged : Pledged before sender recipient id getter amount)
    (grows : Grows before after) : Pledged after sender recipient id getter amount := by
  obtain ⟨r, stored, past, witness, getter, amount⟩ := pledged
  obtain ⟨r', stored', later⟩ := grows _ _ r stored
  obtain ⟨amount', getter', -, witness'⟩ := later.terms past.fixed
  exact ⟨r', stored', later.accepted past, witness'.trans witness, getter'.trans getter,
    amount' ▸ amount⟩

theorem Vouched.mono (vouched : Vouched before sender recipient id giver amount)
    (grows : Grows before after) : Vouched after sender recipient id giver amount := by
  obtain ⟨r, stored, past, getter, giver, amount⟩ := vouched
  obtain ⟨r', stored', later⟩ := grows _ _ r stored
  obtain ⟨amount', getter', giver', -⟩ := later.terms past.fixed
  exact ⟨r', stored', later.notarized past, getter'.trans getter, giver'.trans giver,
    amount' ▸ amount⟩

theorem Cashed.mono (cashed : Cashed before sender recipient id) (grows : Grows before after) :
    Cashed after sender recipient id := by
  obtain ⟨r, stored, past, witness⟩ := cashed
  obtain ⟨r', stored', later⟩ := grows _ _ r stored
  obtain ⟨-, -, -, witness'⟩ := later.terms past.fixed
  exact ⟨r', stored', later.cash past, witness'.trans witness⟩

theorem Attested.mono (attested : Attested before sender id receipt getter giver amount)
    (grows : Grows before after) : Attested after sender id receipt getter giver amount := by
  obtain ⟨r, stored, role, state, rest⟩ := attested
  obtain ⟨r', stored', later⟩ := grows _ _ r stored
  obtain rfl := later.final (by rw [state]; rfl)
  exact ⟨r', stored', role, state, rest⟩

/-- What a message says stays true. -/
theorem Tells.mono {body : Body} (told : Tells before sender recipient id body)
    (grows : Grows before after) : Tells after sender recipient id body := by
  cases body with
  | requestAccepted acceptance => exact Pledged.mono told grows
  | requestAcceptedWitnessed acceptance => exact Vouched.mono told grows
  | cashAccepted acceptance => exact Cashed.mono told grows
  | giverReceipt receipt => exact ⟨told.1.mono grows, told.2.mono grows⟩
  | getterReceipt receipt => exact ⟨told.1.mono grows, told.2.mono grows⟩
  | _ => exact told

theorem Sound.mono {r : Record} (sound : Sound before me id r) (grows : Grows before after) :
    Sound after me id r where
  getter := sound.getter
  giver := sound.giver
  vouched state := by
    obtain ⟨witness, named, vouched⟩ := sound.vouched state
    exact ⟨witness, named, vouched.mono grows⟩
  pledged role state := by
    obtain ⟨giver, named, pledged⟩ := sound.pledged role state
    exact ⟨giver, named, pledged.mono grows⟩
  attested role state := by
    obtain ⟨witness, receipt, named, kept, attested⟩ := sound.attested role state
    exact ⟨witness, receipt, named, kept, attested.mono grows⟩

/-- A record that relies on nobody. -/
theorem sound_of_quiet {recorded : Recorded} {r : Record}
    (own_getter : r.role = .getter → r.transfer.getter = some me)
    (own_giver : r.role = .giver → r.transfer.giver = some me)
    (unvouched : r.state ≠ .requestAcceptedReceived ∧ r.state ≠ .cashAcceptedSent)
    (unpledged : r.role = .witness → r.state ≠ .requestAcceptedWitnessed)
    (unattested : r.role = .getter ∨ r.role = .giver → r.state ≠ .completed) :
    Sound recorded me id r where
  getter := own_getter
  giver := own_giver
  vouched state := absurd state (not_or.mpr unvouched)
  pledged role state := absurd state (unpledged role)
  attested role state := absurd state (unattested role)

/-- A record that is completed with the receipt of its witness. -/
theorem sound_of_attested {recorded : Recorded} {r : Record} {receipt : Receipt}
    (own_getter : r.role = .getter → r.transfer.getter = some me)
    (own_giver : r.role = .giver → r.transfer.giver = some me) (completed : r.state = .completed)
    (kept : r.transfer.receipt = some receipt)
    (attested : ∃ witness, r.transfer.witness = some witness ∧
      Attested recorded witness id receipt r.transfer.getter r.transfer.giver r.transfer.amount) :
    Sound recorded me id r where
  getter := own_getter
  giver := own_giver
  vouched state := by simp [completed] at state
  pledged _ state := by simp [completed] at state
  attested _ _ := by
    obtain ⟨witness, named, attested⟩ := attested
    exact ⟨witness, receipt, named, kept, attested⟩

end

/-! ### What a move preserves -/

section
variable {around : Surroundings} {op : Operation} {a : Agent} {r : Record}
  {versions : List Record} {wallet ledger : Holding} {sent : List Dispatch} {recorded : Recorded}

/-- A giver that has the receipt has what its witness has. -/
theorem attested_of_settled {sender : Did} {receipt : Receipt}
    (told : Tells recorded sender a.did r.id (.giverReceipt receipt))
    (stored : recorded a.did r.id = some r) (own : r.transfer.giver = some a.did) :
    ∃ witness, r.transfer.witness = some witness ∧ Attested recorded witness r.id receipt
      r.transfer.getter r.transfer.giver r.transfer.amount := by
  obtain ⟨⟨r', stored', role, state, kept, getter, giver, amount⟩, r₀, stored₀, -, witness, getter₀,
    amount₀⟩ := told
  cases stored.symm.trans stored₀
  refine ⟨sender, witness, r', stored', role, state, kept, getter.trans getter₀.symm,
    giver.trans own.symm, ?_⟩
  exact Decimal.equiv_trans amount (Decimal.equiv_symm amount₀)

/-- A getter that has the receipt has what its witness has. -/
theorem attested_of_paid {sender : Did} {receipt : Receipt}
    (told : Tells recorded sender a.did r.id (.getterReceipt receipt))
    (stored : recorded a.did r.id = some r) (sound : Sound recorded a.did r.id r)
    (live : r.state.isTerminal = false) (own : r.transfer.getter = some a.did) :
    ∃ witness, r.transfer.witness = some witness ∧ Attested recorded witness r.id receipt
      r.transfer.getter r.transfer.giver r.transfer.amount := by
  obtain ⟨⟨r', stored', role, state, kept, -⟩, r₀, stored₀, past, witness⟩ := told
  cases stored.symm.trans stored₀
  have cashed : r.state = .cashAcceptedSent := by
    simp only [Record.PastCash, List.mem_cons, List.not_mem_nil, or_false] at past
    rcases past with h | h | h
    · exact h
    all_goals rw [h] at live; cases live
  obtain ⟨witness', named, r₁, stored₁, -, getter, giver, amount⟩ := sound.vouched (.inr cashed)
  cases witness.symm.trans named
  cases stored'.symm.trans stored₁
  exact ⟨sender, witness, r', stored', role, state, kept, getter.trans own.symm, giver, amount⟩

theorem Move.sound (move : Move around op a r versions wallet ledger sent)
    (sound : Sound recorded a.did r.id r) (stored : recorded a.did r.id = some r)
    (founded : ∀ sender body, op.Takes sender r.id body → Tells recorded sender a.did r.id body) :
    Sound recorded a.did r.id (versions.getLastD r) := by
  have live := move.live
  cases move with
  | countered _ role =>
    refine sound_of_quiet sound.getter (fun giver => ?_) (by simp) (by simp) (by simp)
    cases role.symm.trans giver
  | requested | committed | witnessed | removed | failed =>
    exact sound_of_quiet sound.getter sound.giver (by simp) (by simp) (by simp)
  | @vouched sender acceptance _ _ takes role _ _ named _ amount =>
    obtain ⟨r', stored', past, getter, giver, amount'⟩ := founded _ _ takes
    refine ⟨sound.getter, fun giver => ?_, fun _ => ⟨sender, congrArg some named, ?_⟩,
      fun _ state => by simp at state, fun _ state => by simp at state⟩
    · cases role.symm.trans giver
    · exact ⟨r', stored', past, getter, giver, Decimal.equiv_trans amount' amount⟩
  | cashAccepted state =>
    exact ⟨sound.getter, sound.giver, fun _ => sound.vouched (.inl state),
      fun _ state => by simp at state, fun _ state => by simp at state⟩
  | answered _ role =>
    refine sound_of_quiet (fun getter => ?_) sound.giver (by simp) (by simp) (by simp)
    cases role.symm.trans getter
  | paid takes role =>
    have attested := attested_of_paid (founded _ _ takes) stored sound live (sound.getter role)
    exact sound_of_attested sound.getter sound.giver rfl rfl attested
  | settled takes role =>
    have attested := attested_of_settled (founded _ _ takes) stored (sound.giver role)
    exact sound_of_attested sound.getter sound.giver rfl rfl attested
  | credited role =>
    exact sound_of_quiet sound.getter sound.giver (by simp) (by simp) (by simp [role])
  | @notarized sender _ _ _ _ _ takes role _ _ _ known toGetter amount =>
    obtain ⟨r', stored', past, witness, getter, amount'⟩ := founded _ _ takes
    refine ⟨sound.getter, fun giver => ?_, fun state => by simp at state,
      fun _ _ => ⟨sender, rfl, r', stored', past, witness, ?_, ?_⟩, fun _ state => by simp at state⟩
    · cases role.symm.trans giver
    · rw [getter, toGetter]
      exact known.symm
    · exact Decimal.equiv_trans amount' amount
  | transferred _ role _ _ _ _ _ _ _ _ first second third =>
    subst first second third
    exact sound_of_quiet sound.getter sound.giver (by simp) (by simp) (by simp [role])
  | minted _ role => exact sound_of_quiet sound.getter sound.giver (by simp) (by simp) (by simp [role])

/-- What a move sends is so. -/
theorem Move.tells {after : Recorded} (move : Move around op a r versions wallet ledger sent)
    (sound : Sound after a.did r.id r) (grown : after a.did r.id = some (versions.getLastD r))
    (founded : ∀ sender body, op.Takes sender r.id body → Tells after sender a.did r.id body) :
    ∀ d ∈ sent, Tells after a.did d.recipient d.message.thread d.message.body := by
  cases move with
  | countered | vouched | answered | witnessed | removed | paid | settled | credited =>
    simp
  | requested | minted => simp [Agent.dispatch, Tells]
  | failed =>
    intro d mem
    obtain ⟨_, -, rfl⟩ := List.mem_map.mp mem
    trivial
  | cashAccepted _ known =>
    simp only [List.mem_singleton, forall_eq]
    exact ⟨_, grown, by simp [Record.PastCash], known⟩
  | committed _ toGetter byWitness =>
    simp only [List.mem_singleton, forall_eq]
    exact ⟨_, grown, by simp [Record.PastAcceptance], byWitness, toGetter, Decimal.equiv_refl _⟩
  | notarized _ role _ _ _ known =>
    simp only [List.mem_singleton, forall_eq]
    exact ⟨_, grown, ⟨role, by simp⟩, known, rfl, Decimal.equiv_refl _⟩
  | @transferred sender getter giver _ _ looked _ _ _ _ _ _ _ takes role state fromGetter _ _ toGetter
      byGiver _ _ first second third =>
    subst first second third
    obtain ⟨giver', named, pledged⟩ := sound.pledged role state
    cases byGiver.symm.trans named
    have cashed : Cashed after sender a.did r.id := founded _ _ takes
    obtain rfl : getter = sender := expects_some.mp (toGetter ▸ fromGetter)
    have attested : Attested after a.did r.id
        (r.receipt getter giver a.did (around.instant looked)) (some getter) (some giver)
        r.transfer.amount := ⟨_, grown, role, rfl, rfl, toGetter, byGiver, Decimal.equiv_refl _⟩
    rw [toGetter] at pledged
    simp only [Step.closingMessages, List.map_cons, List.map_nil, List.forall_mem_cons]
    exact ⟨trivial, trivial, ⟨attested, pledged⟩, ⟨attested, cashed⟩, by simp⟩

end

/-- What is opened relies on nobody. -/
theorem Opens.sound {op : Operation} {a : Agent} {r : Record} {recorded : Recorded}
    (opens : Opens op a r) : Sound recorded a.did r.id r := by
  cases opens <;> refine sound_of_quiet ?_ ?_ ?_ ?_ ?_ <;>
    simp [Record.new, Transfer.new, Record.state]

theorem Dispatch.Loose.tells {d : Dispatch} {me : Did} {recorded : Recorded} (loose : d.Loose me)
    (clear : d.failure = none) : Tells recorded me d.recipient d.message.thread d.message.body := by
  rcases loose with lost | loose
  · exact absurd clear lost.not_clear
  · cases body : d.message.body <;> rw [body] at loose <;> trivial

/-! ### What every deed preserves -/

namespace World

structure Agreeing (w : World) : Prop where
  records : ∀ did id r, w.record? did id = some r → Sound w.record? did id r
  messages : ∀ sender recipient id body, w.Arrived sender recipient id body →
    Tells w.record? sender recipient id body

variable {w : World} {around : Surroundings} {op : Operation} {s s' : Scene}

theorem grows_amid (deed : Deed around op s s') :
    Grows (w.amid s).record? (w.amid s').record? := by
  intro party id r stored
  rcases kept_amid deed stored with same | ⟨versions, wallet, ledger, sent, move, moved⟩
  · exact ⟨r, same, .refl r⟩
  · exact ⟨_, moved, move.later⟩

/-- What an operation takes is so. -/
theorem Agreeing.takes {sender : Did} {id : TransferId} {body : Body} (h : (w.amid s).Agreeing)
    (founded : w.Founded s.agent.did op) (takes : op.Takes sender id body) :
    Tells (w.amid s).record? sender s.agent.did id body := by
  rcases founded sender id body takes with arrived | ⟨request, rfl⟩
  · exact h.messages _ _ _ _ (arrived.amid s)
  · trivial

/-- Agents that agree do so after every deed. -/
theorem Agreeing.deed (h : (w.amid s).Agreeing) (deed : Deed around op s s')
    (founded : w.Founded s.agent.did op) : (w.amid s').Agreeing where
  records party id r stored := by
    apply Sound.mono _ (grows_amid deed)
    rcases stored_amid deed stored with old | ⟨rfl, rfl, stores⟩
    · exact h.records party id r old
    · cases stores with
      | opened opens => exact opens.sound
      | moved known move =>
        have known := known_amid (w := w) known
        rw [move.last_same.1]
        exact move.sound (h.records _ _ _ known) known fun sender body => h.takes founded
  messages sender recipient id body arrived := by
    have grows := grows_amid (w := w) deed
    rcases arrived_amid deed arrived with old | ⟨rfl, d, clear, rfl, message, origin⟩
    · exact (h.messages sender recipient id body old).mono grows
    · suffices told : Tells (w.amid s').record? s.agent.did d.recipient d.message.thread d.message.body by
        rwa [message] at told
      rcases origin with loose | ⟨r, versions, wallet, ledger, sent, mem, known, move, last⟩
      · exact loose.tells clear
      · have sound := h.records _ _ _ (known_amid known)
        exact move.tells (sound.mono grows) last
          (fun sender body takes => (h.takes founded takes).mono grows) d mem

theorem Begun.agreeing (begun : w.Begun) : w.Agreeing where
  records did id r stored := by
    rw [begun.record?] at stored
    cases stored
  messages _ _ _ _ arrived := absurd arrived begun.not_arrived

theorem Agreeing.of_same {w' : World} (agents : ∀ did, w'.agent? did = w.agent? did)
    (traffic : w'.traffic = w.traffic) (h : w.Agreeing) : w'.Agreeing where
  records did id r stored := by
    rw [record?_congr agents] at stored ⊢
    exact h.records did id r stored
  messages sender recipient id body arrived := by
    rw [record?_congr agents]
    exact h.messages sender recipient id body ((arrived_congr traffic).mp arrived)

theorem Begun.play_agreeing (begun : w.Begun) (course : List Occurrence) : (w.play course).Agreeing :=
  play_invariant (fun _ _ agents traffic h => h.of_same agents traffic)
    (fun _ _ _ _ _ h deed founded => h.deed deed founded) course begun.agreeing

end World

/-- A getter or giver that has completed a transfer has a witness that has completed it on the
same terms, and both keep the same receipt. -/
theorem completion_agreement {w : World} (begun : w.Begun) (course : List Occurrence) :
    (∀ party id r, (w.play course).record? party id = some r →
      r.role = .getter ∨ r.role = .giver → r.state = .completed →
      ∃ witness receipt r', r.transfer.witness = some witness ∧
        r.transfer.receipt = some receipt ∧ (w.play course).record? witness id = some r' ∧
        r'.role = .witness ∧ r'.state = .completed ∧ r'.transfer.receipt = some receipt ∧
        r'.transfer.getter = r.transfer.getter ∧ r'.transfer.giver = r.transfer.giver ∧
        r'.transfer.amount ≈ r.transfer.amount) ∧
    ∀ getter giver id r r', (w.play course).record? getter id = some r →
      (w.play course).record? giver id = some r' → r.role = .getter → r'.role = .giver →
      r.state = .completed → r'.state = .completed → r.transfer.witness = r'.transfer.witness →
      r.transfer.receipt = r'.transfer.receipt := by
  have agreeing := begun.play_agreeing course
  refine ⟨fun party id r stored role state => ?_, ?_⟩
  · obtain ⟨witness, receipt, named, kept, r', stored', rest⟩ :=
      (agreeing.records party id r stored).attested role state
    exact ⟨witness, receipt, r', named, kept, stored', rest⟩
  · intro getter giver id r r' stored stored' role role' state state' same
    obtain ⟨witness, receipt, named, kept, w₁, at₁, -, -, kept₁, -⟩ :=
      (agreeing.records getter id r stored).attested (.inl role) state
    obtain ⟨witness', receipt', named', kept', w₂, at₂, -, -, kept₂, -⟩ :=
      (agreeing.records giver id r' stored').attested (.inr role') state'
    cases (named.symm.trans same).trans named'
    cases at₁.symm.trans at₂
    rw [kept, kept', ← kept₁, ← kept₂]

namespace Market

/-- Names are numbered, and no time passes. -/
def source : Source := ⟨fun n => toString n, fun _ => .epoch⟩

def opening : World where
  agents := [.new (Config.new getter) [], .new (Config.new giver) [],
    .new (Config.new witness).asWitness []]
  network := ((Network.empty.connect getter).connect giver).connect witness
  clock := 0
  drawn := 0
  looked := 0
  traffic := []
  jobs := []

theorem opening_begun : opening.Begun where
  silent := rfl
  new a mem := by
    simp only [opening, List.mem_cons, List.not_mem_nil, or_false] at mem
    rcases mem with rfl | rfl | rfl <;> exact ⟨_, _, rfl⟩

def trading : List Occurrence := [
  .call giver (.mintCash five (some witness) true false none) source, .deliver 0 source,
  .call getter (.createRequest five (some witness) (some giver) none none) source,
  .deliver 2 source, .deliver 3 source,
  .call giver (.acceptRequest ⟨"2"⟩ none) source, .deliver 4 source, .deliver 4 source,
  .deliver 5 source, .deliver 6 source, .deliver 9 source, .deliver 10 source]

end Market

theorem completion_agreement_market : ∃ r r' : Record,
    (Market.opening.play Market.trading).record? Market.getter ⟨"2"⟩ = some r ∧
      (Market.opening.play Market.trading).record? Market.giver ⟨"2"⟩ = some r' ∧
      r.transfer.receipt = r'.transfer.receipt := by
  have completed (party : Did) (role : Role)
      (found : ((Market.opening.play Market.trading).record? party ⟨"2"⟩).any
        (fun r => r.role = role ∧ r.state = .completed ∧
          r.transfer.witness = some Market.witness) = true) :
      ∃ r, (Market.opening.play Market.trading).record? party ⟨"2"⟩ = some r ∧ r.role = role ∧
        r.state = .completed ∧ r.transfer.witness = some Market.witness := by
    simpa [Option.any_eq_true] using found
  obtain ⟨r, stored, role, state, named⟩ := completed Market.getter .getter (by decide +kernel)
  obtain ⟨r', stored', role', state', named'⟩ := completed Market.giver .giver (by decide +kernel)
  refine ⟨r, r', stored, stored', ?_⟩
  exact (completion_agreement Market.opening_begun Market.trading).2 _ _ _ _ _ stored stored' role role'
    state state' (named.trans named'.symm)

end WitnessedTransfer
