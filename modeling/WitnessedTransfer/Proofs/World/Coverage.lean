import WitnessedTransfer.Proofs.Ledger.Accounting
import WitnessedTransfer.Proofs.Record.Roles
import WitnessedTransfer.Proofs.World.Agreement
import WitnessedTransfer.Proofs.World.Naming

/-! Wallets are backed by ledgers. A note comes into a wallet only by a message of a witness, and what
such a message brings are notes that the witness has put into its ledger when it closed the transfer.
It stays there until its owner spends it. What carries this through everything that can happen between
agents is what the messages on their way say of the ledger, and what the records say of the messages. -/
namespace WitnessedTransfer

def Holds (w : World) (sender recipient : Did) (id : TransferId) : Body → Prop
  | .requestAccepted acceptance => ∀ note ∈ acceptance.inputs, note.owner = sender
  | .cashRemoved removal => ∀ note ∈ removal.change, Brought (w.record? sender) note.entry
  | .getterReceipt receipt | .giverReceipt receipt =>
    ∀ note ∈ receipt.outputs, Brought (w.record? sender) note.entry
  | .mintResponse _ => ∃ mint, w.Arrived recipient sender id (.mint mint) ∧
    ∀ note ∈ mint.notes, note.owner = recipient ∧ Brought (w.record? sender) note.entry
  | _ => True

/-- An issuer has told a witness of the mint that it waits for. -/
def Announced (w : World) (issuer : Did) (id : TransferId) (r : Record) : Prop :=
  ∃ witness mint, w.Arrived issuer witness id (.mint mint) ∧ mint.notes = r.transfer.outputs

structure Rooted (w : World) (me : Did) (id : TransferId) (r : Record) : Prop where
  placed : r.InRole ∨ r.Usurped
  minted : r.role = .issuer → r.state = .requestSent → Announced w me id r
  coined : r.Notarized ∨ r.Closed → ∃ sender body, w.Arrived sender me id body ∧
    ∀ note ∈ r.transfer.outputs, note.id.text ∈ Message.coined ⟨id, body⟩
  owned : r.Notarized → ∀ note ∈ r.transfer.inputs, r.transfer.giver = some note.owner

section
variable {w w' : World} {me sender recipient : Did} {id : TransferId} {r : Record}

/-- What has come into a ledger has come into it for good. -/
theorem Brought.mono {witness : Did} {e : Entry} (brought : Brought (w.record? witness) e)
    (grows : Grows w.record? w'.record?) : Brought (w'.record? witness) e := by
  obtain ⟨id, r, stored, closed, output⟩ := brought
  obtain ⟨r', stored', later⟩ := grows _ _ r stored
  obtain rfl := later.final (by rw [closed.2]; rfl)
  exact ⟨id, r', stored', closed, output⟩

theorem Holds.mono {body : Body} (holds : Holds w sender recipient id body)
    (grows : Grows w.record? w'.record?)
    (arrived : ∀ sender recipient id body, w.Arrived sender recipient id body →
      w'.Arrived sender recipient id body) : Holds w' sender recipient id body := by
  cases body with
  | cashRemoved removal => exact fun note mem => (holds note mem).mono grows
  | getterReceipt receipt | giverReceipt receipt => exact fun note mem => (holds note mem).mono grows
  | mintResponse response =>
    obtain ⟨mint, told, notes⟩ := holds
    exact ⟨mint, arrived _ _ _ _ told, fun note mem => (notes note mem).imp_right (·.mono grows)⟩
  | _ => exact holds

theorem Rooted.mono (rooted : Rooted w me id r)
    (arrived : ∀ sender recipient id body, w.Arrived sender recipient id body →
      w'.Arrived sender recipient id body) : Rooted w' me id r where
  placed := rooted.placed
  minted role state := by
    obtain ⟨witness, mint, told, notes⟩ := rooted.minted role state
    exact ⟨witness, mint, arrived _ _ _ _ told, notes⟩
  coined made := by
    obtain ⟨sender, body, told, names⟩ := rooted.coined made
    exact ⟨sender, body, arrived _ _ _ _ told, names⟩
  owned := rooted.owned

/-- A record that makes no notes and commits none. -/
theorem rooted_of_idle (placed : r.InRole ∨ r.Usurped)
    (unwaiting : r.role = .issuer → r.state ≠ .requestSent) (idle : ¬r.Notarized ∧ ¬r.Closed) :
    Rooted w me id r where
  placed := placed
  minted role state := absurd state (unwaiting role)
  coined made := absurd made (not_or.mpr idle)
  owned notarized := absurd notarized idle.1

/-- The notes of closed transfers bear different names if no name is coined by two messages. -/
theorem apart_of_rooted (records : ∀ id r, w.record? me id = some r → Rooted w me id r)
    (distinct : w.Distinct) : Apart (w.record? me) := by
  intro id id' r r' stored stored' closed closed' note output note' output' same
  obtain ⟨_, _, arrived, coined⟩ := (records id r stored).coined (.inr closed)
  obtain ⟨_, _, arrived', coined'⟩ := (records id' r' stored').coined (.inr closed')
  have name := coined' note' output'
  rw [← same] at name
  exact (distinct.arrived_eq arrived arrived' (coined note output) name).1

end

/-! ### What a move preserves -/

section
variable {around : Surroundings} {op : Operation} {a : Agent} {r : Record}
  {versions : List Record} {wallet ledger : Holding} {sent : List Dispatch} {w : World}

/-- Only a mint makes a record for an issuer. -/
theorem Opens.mints (opens : Opens op a r) (role : r.role = .issuer) :
    ∃ amount witness tell confirm milliseconds,
      op = .mintCash amount witness tell confirm milliseconds := by
  cases opens with
  | mint same => exact ⟨_, _, _, _, _, same⟩
  | _ => cases role

theorem Opens.rooted (opens : Opens op a r)
    (announced : r.role = .issuer → Announced w a.did r.id r) : Rooted w a.did r.id r where
  placed := .inl opens.inRole
  minted role _ := announced role
  coined made := absurd made (not_or.mpr ⟨opens.not_notarized, opens.not_closed⟩)
  owned notarized := absurd notarized opens.not_notarized

theorem Move.rooted (move : Move around op a r versions wallet ledger sent)
    (rooted : Rooted w a.did r.id r)
    (arrived : ∀ sender body, op.Takes sender r.id body →
      w.Arrived sender a.did r.id body ∨ ∃ request, body = .request request)
    (holds : ∀ sender body, op.Takes sender r.id body → Holds w sender a.did r.id body) :
    Rooted w a.did r.id (versions.getLastD r) := by
  have placed := move.placed rooted.placed
  have came {sender : Did} {body : Body} (takes : op.Takes sender r.id body)
      (other : ∀ request, body ≠ .request request) : w.Arrived sender a.did r.id body :=
    (arrived sender body takes).resolve_right fun ⟨request, same⟩ => other request same
  cases move with
  | requested state =>
    have role := Record.role_of_offerReceived rooted.placed state
    exact rooted_of_idle placed (by simp [role]) (by simp [Record.Notarized, Record.Closed])
  | @notarized sender _ acceptance _ _ _ takes role =>
    have own : ∀ note ∈ acceptance.inputs, note.owner = sender := holds _ _ takes
    refine ⟨placed, by simp, fun _ => ⟨_, _, came takes (by simp), fun note output => ?_⟩,
      fun _ note input => congrArg some (own note input).symm⟩
    exact List.mem_map_of_mem output
  | transferred _ role state _ _ _ _ _ _ _ first second third =>
    subst first second third
    exact ⟨placed, by simp, fun _ => rooted.coined (.inl ⟨role, state⟩), by simp [Record.Notarized]⟩
  | minted takes =>
    refine ⟨placed, by simp, fun _ => ⟨_, _, came takes (by simp), fun note output => ?_⟩,
      by simp [Record.Notarized]⟩
    exact List.mem_cons_of_mem _ (List.mem_map_of_mem output)
  | paid _ role | settled _ role | credited role =>
    exact rooted_of_idle placed (by simp) (by simp [Record.Notarized, Record.Closed, role])
  | _ => exact rooted_of_idle placed (by simp) (by simp [Record.Notarized, Record.Closed])

/-- What a move sends holds. -/
theorem Move.holds (move : Move around op a r versions wallet ledger sent)
    (own : ∀ e ∈ a.wallet.stock, e.owner = a.did)
    (stored : w.record? a.did r.id = some (versions.getLastD r))
    (arrived : ∀ sender body, op.Takes sender r.id body →
      w.Arrived sender a.did r.id body ∨ ∃ request, body = .request request) :
    ∀ d ∈ sent, Holds w a.did d.recipient d.message.thread d.message.body := by
  cases move with
  | countered | vouched | answered | witnessed | removed | paid | settled | credited => simp
  | requested | notarized | cashAccepted => simp [Agent.dispatch, Holds]
  | failed =>
    intro d mem
    obtain ⟨_, -, rfl⟩ := List.mem_map.mp mem
    trivial
  | committed _ _ _ _ selected =>
    simp only [List.mem_singleton, forall_eq]
    exact fun note input => own _ (Holding.select_held selected (List.mem_map_of_mem input))
  | transferred _ role _ _ _ _ _ _ _ _ first second third =>
    subst first second third
    have brought : ∀ note ∈ r.transfer.outputs, Brought (w.record? a.did) note.entry :=
      fun note output => ⟨r.id, _, stored, ⟨role, rfl⟩, List.mem_map_of_mem output⟩
    simp only [Step.closingMessages, List.map_cons, List.map_nil, List.forall_mem_cons]
    refine ⟨trivial, fun note mem => ?_, brought, brought, by simp⟩
    exact brought note (List.mem_filter.mp mem).1
  | minted takes role _ _ fromIssuer _ _ _ _ own =>
    simp only [List.mem_singleton, forall_eq]
    subst fromIssuer
    refine ⟨_, (arrived _ _ takes).resolve_right (by simp), fun note mem => ⟨own note mem, ?_⟩⟩
    exact ⟨r.id, _, stored, ⟨role, rfl⟩, List.mem_map_of_mem mem⟩

end

theorem Dispatch.Loose.holds {d : Dispatch} {me : Did} {w : World} (loose : d.Loose me)
    (clear : d.failure = none) : Holds w me d.recipient d.message.thread d.message.body := by
  rcases loose with lost | loose
  · exact absurd clear lost.not_clear
  · cases body : d.message.body <;> rw [body] at loose <;> trivial

/-- If a mint is called for, the witness is told of it, and has to confirm it. -/
def Occurrence.Confirms (occurrence : Occurrence) : Prop :=
  ∀ did amount witness tell confirm milliseconds source,
    occurrence = .call did (.mintCash amount witness tell confirm milliseconds) source →
      tell = true ∧ confirm = true

/-! ### What every deed preserves -/

namespace World

structure Covered (w : World) : Prop where
  wallets : ∀ did a, w.agent? did = some a → ∀ e ∈ a.wallet.stock,
    e.owner = did ∧ ∃ witness, Brought (w.record? witness) e
  ledgers : ∀ did a, w.agent? did = some a → a.InStep ∧ a.Accounted
  records : ∀ did id r, w.record? did id = some r → Rooted w did id r
  messages : ∀ sender recipient id body, w.Arrived sender recipient id body →
    Holds w sender recipient id body

variable {w : World} {around : Surroundings} {op : Operation} {s s' : Scene}

theorem Covered.takes {sender : Did} {id : TransferId} {body : Body} (h : (w.amid s).Covered)
    (founded : w.Founded s.agent.did op) (takes : op.Takes sender id body) :
    Holds (w.amid s) sender s.agent.did id body := by
  rcases founded sender id body takes with arrived | ⟨request, rfl⟩
  · exact h.messages _ _ _ _ (arrived.amid s)
  · trivial

theorem Covered.rooted (h : (w.amid s).Covered) (deed : Deed around op s s')
    (founded : w.Founded s.agent.did op)
    (announced : ∀ r, Opens op s.agent r → r.role = .issuer → s.agent.records.get? r.id ≠ some r →
      s'.agent.records.get? r.id = some r → Announced (w.amid s') s.agent.did r.id r) :
    ∀ did id r, (w.amid s').record? did id = some r → Rooted (w.amid s') did id r := by
  intro did id r stored
  have later : ∀ sender recipient id body, (w.amid s).Arrived sender recipient id body →
      (w.amid s').Arrived sender recipient id body := fun _ _ _ _ => Arrived.after deed
  by_cases old : (w.amid s).record? did id = some r
  · exact (h.records did id r old).mono later
  · obtain ⟨rfl, rfl, stores⟩ := (stored_amid deed stored).resolve_left old
    cases stores with
    | opened opens =>
      have same_did : s'.agent.did = s.agent.did := congrArg Config.did deed.config
      rw [record?_of_agent (here_amid w s)] at old
      rw [← same_did, record?_of_agent (here_amid w s')] at stored
      exact opens.rooted fun role => announced r opens role old stored
    | moved known move =>
      rw [move.last_same.1]
      refine (move.rooted (h.records _ _ _ (known_amid known)) (fun sender body takes => ?_)
        fun sender body takes => h.takes founded takes).mono later
      exact (founded sender _ body takes).imp_left fun arrived => arrived.amid s

theorem Covered.holds (h : (w.amid s).Covered) (deed : Deed around op s s')
    (founded : w.Founded s.agent.did op) :
    ∀ sender recipient id body, (w.amid s').Arrived sender recipient id body →
      Holds (w.amid s') sender recipient id body := by
  intro sender recipient id body arrived
  have later : ∀ sender recipient id body, (w.amid s).Arrived sender recipient id body →
      (w.amid s').Arrived sender recipient id body := fun _ _ _ _ => Arrived.after deed
  rcases arrived_amid deed arrived with old | ⟨rfl, d, clear, rfl, message, origin⟩
  · exact (h.messages sender recipient id body old).mono (grows_amid deed) later
  · suffices holds : Holds (w.amid s') s.agent.did d.recipient d.message.thread d.message.body by
      rwa [message] at holds
    rcases origin with loose | ⟨r, versions, wallet, ledger, sent, mem, known, move, last⟩
    · exact loose.holds clear
    · refine move.holds (fun e mem => (h.wallets _ _ (here_amid w s) e mem).1) last
        (fun sender body takes => ?_) d mem
      exact (founded sender _ body takes).imp_left fun arrived => later _ _ _ _ (arrived.amid s)

/-- What comes into a wallet is its owner's and has come into a ledger. -/
theorem Covered.gained (h : (w.amid s).Covered) (founded : w.Founded s.agent.did op)
    (waits : ∀ amount witness tell milliseconds,
      op ≠ .mintCash amount witness tell false milliseconds)
    (distinct : (w.amid s).Distinct) {note : Note} (gains : Gains op s.agent note) :
    note.owner = s.agent.did ∧ ∃ witness, Brought ((w.amid s).record? witness) note.entry := by
  have mine {notes : List Note} {sender : Did} (mem : note ∈ Note.ownedBy s.agent.did notes)
      (brought : ∀ note ∈ notes, Brought ((w.amid s).record? sender) note.entry) :
      note.owner = s.agent.did ∧ ∃ witness, Brought ((w.amid s).record? witness) note.entry := by
    obtain ⟨mem, own⟩ := List.mem_filter.mp mem
    exact ⟨of_decide_eq_true own, sender, brought note mem⟩
  cases gains with
  | paid takes mem => exact mine mem (h.takes founded takes)
  | @exchanged sender id body names notes _ takes closing mem =>
    have holds := h.takes founded takes
    cases body with
    | cashRemoved removal =>
      cases closing
      exact mine mem holds
    | giverReceipt receipt =>
      cases closing
      exact mine mem holds
    | _ => cases closing
  | @credited r _ stored role state credits output =>
    cases credits with
    | minted same => exact absurd same (waits _ _ _ _)
    | @confirmed sender response takes =>
      obtain ⟨mint, told, notes⟩ := h.takes founded takes
      obtain ⟨witness, mint', told', same⟩ := (h.records _ _ r (known_amid stored)).minted role state
      have first : r.id.text ∈ Message.coined ⟨r.id, .mint mint⟩ := List.mem_cons_self
      have second : r.id.text ∈ Message.coined ⟨r.id, .mint mint'⟩ := List.mem_cons_self
      obtain ⟨-, one⟩ := distinct.arrived_eq told told' first second
      cases one
      obtain ⟨own, brought⟩ := notes note (same ▸ output)
      exact ⟨own, sender, brought⟩

theorem Covered.deed (h : (w.amid s).Covered) (deed : Deed around op s s')
    (founded : w.Founded s.agent.did op)
    (waits : ∀ amount witness tell milliseconds,
      op ≠ .mintCash amount witness tell false milliseconds)
    (announced : ∀ r, Opens op s.agent r → r.role = .issuer → s.agent.records.get? r.id ≠ some r →
      s'.agent.records.get? r.id = some r → Announced (w.amid s') s.agent.did r.id r)
    (distinct : (w.amid s').Distinct) : (w.amid s').Covered := by
  have same_did : s'.agent.did = s.agent.did := congrArg Config.did deed.config
  have records := h.rooted deed founded announced
  have grows := grows_amid (w := w) deed
  refine ⟨fun did a here e mem => ?_, fun did a here => ?_, records, h.holds deed founded⟩
  · rw [agent?_amid] at here
    split at here
    next this =>
      cases here
      rw [this, same_did]
      rcases deed.gains e mem with old | ⟨note, gains, rfl⟩
      · obtain ⟨own, witness, brought⟩ := h.wallets _ _ (here_amid w s) e old
        exact ⟨own, witness, brought.mono grows⟩
      · obtain ⟨own, witness, brought⟩ := h.gained founded waits (distinct.before deed) gains
        exact ⟨own, witness, brought.mono grows⟩
    next other =>
      have before : (w.amid s).agent? did = some a := by
        rw [agent?_amid, if_neg (same_did ▸ other), here]
      obtain ⟨own, witness, brought⟩ := h.wallets did a before e mem
      exact ⟨own, witness, brought.mono grows⟩
  · rw [agent?_amid] at here
    split at here
    next this =>
      cases here
      obtain ⟨inStep, accounted⟩ := h.ledgers _ _ (here_amid w s)
      refine ⟨deed.inStep inStep, deed.accounted inStep (fun id r stored => ?_) ?_ accounted⟩
      · exact (h.records _ id r (known_amid stored)).owned
      · rw [← record?_of_agent (here_amid w s')]
        exact apart_of_rooted (records _) distinct
    next other =>
      exact h.ledgers did a (by rw [agent?_amid, if_neg (same_did ▸ other), here])

theorem Covered.of_same {w' : World} (agents : ∀ did, w'.agent? did = w.agent? did)
    (traffic : w'.traffic = w.traffic) (h : w.Covered) : w'.Covered := by
  have records := record?_congr agents
  have grows : Grows w.record? w'.record? := by
    intro did id r stored
    exact ⟨r, by rw [records, stored], .refl r⟩
  have later : ∀ sender recipient id body, w.Arrived sender recipient id body →
      w'.Arrived sender recipient id body := fun _ _ _ _ => (arrived_congr traffic).mpr
  refine ⟨fun did a here e mem => ?_, fun did a here => ?_, fun did id r stored => ?_,
    fun sender recipient id body arrived => ?_⟩
  · rw [agents] at here
    obtain ⟨own, witness, brought⟩ := h.wallets did a here e mem
    exact ⟨own, witness, brought.mono grows⟩
  · rw [agents] at here
    exact h.ledgers did a here
  · rw [records] at stored
    exact (h.records did id r stored).mono later
  · exact (h.messages sender recipient id body ((arrived_congr traffic).mp arrived)).mono grows later

/-! ### Whole runs -/

/-- A mint that waits for its confirmation: the witness is told before the record is made. -/
theorem Covered.mint {amount : Decimal} {witness : Option Did} {milliseconds : Option Nat}
    (h : (w.amid s).Distinct → (w.amid s).Covered) (mints : Step.Mints op s s')
    (same : op = .mintCash amount witness true true milliseconds) (distinct : (w.amid s').Distinct) :
    (w.amid s').Covered := by
  have founded (me : Did) : w.Founded me op := by
    intro sender id body takes
    subst same
    cases takes
  have waits : ∀ amount witness tell milliseconds,
      op ≠ .mintCash amount witness tell false milliseconds := by simp [same]
  have telling {s₁ : Scene} {sent : List Dispatch} (loose : ∀ d ∈ sent, d.Loose s.agent.did)
      (asked : ∀ d ∈ sent, d.failure = none → Asks op s.agent d.message)
      (leads : s.Leads s₁ s.agent sent) (distinct : (w.amid s₁).Distinct) : (w.amid s₁).Covered := by
    have deed : Deed .calm op s s₁ := .told sent loose asked leads
    refine (h (distinct.before deed)).deed deed (founded _) waits (fun r _ _ unknown stored => ?_) distinct
    rw [leads.agent] at stored
    exact absurd stored unknown
  cases mints with
  | told sent loose asked leads => exact telling loose asked leads distinct
  | opened r mint s₁ d loose clear message notes announced unknown opens leads =>
    have same_agent := announced.agent
    have deed : Deed .calm op s₁ s' := .opened r (by rw [same_agent, unknown])
      (by rw [same_agent]; exact opens) (by rw [same_agent]; exact leads)
    have told : (w.amid s₁).Arrived s₁.agent.did d.recipient r.id (.mint mint) := by
      refine ⟨d, List.mem_append_right _ (List.mem_map_of_mem ?_), clear, rfl, message⟩
      rw [announced.sent]
      exact List.mem_append_right _ (List.mem_singleton_self d)
    have asked : ∀ d' ∈ [d], d'.failure = none → Asks op s.agent d'.message := by
      simpa [message] using fun _ => Asks.mint same
    have covered := telling (by simpa using loose) asked announced (distinct.before deed)
    refine covered.deed deed (founded _) waits (fun r' _ _ unknown' stored' => ?_) distinct
    rw [leads.agent] at stored'
    rcases stored_cases (Agent.opened_get? unknown) stored' with ⟨-, rfl⟩ | ⟨-, old⟩
    · exact ⟨d.recipient, mint, told.after deed, notes⟩
    · exact absurd (same_agent ▸ old) unknown'

theorem Performs.confirms {occurrence : Occurrence} {me : Did} {amount : Decimal} {witness : Option Did}
    {tell confirm : Bool} {milliseconds : Option Nat}
    (performs : w.Performs occurrence me (.mintCash amount witness tell confirm milliseconds))
    (confirms : occurrence.Confirms) : tell = true ∧ confirm = true := by
  cases performs with
  | call own => exact confirms _ _ _ _ _ _ _ rfl

theorem Covered.undergo {occurrence : Occurrence} (confirms : occurrence.Confirms)
    (h : w.Distinct → w.Covered) : (w.undergo occurrence).Distinct → (w.undergo occurrence).Covered := by
  have same (w w' : World) (agents : ∀ did, w'.agent? did = w.agent? did)
      (traffic : w'.traffic = w.traffic) (h : w.Distinct → w.Covered) (distinct : w'.Distinct) :
      w'.Covered :=
    (h (by unfold Distinct at distinct ⊢; rwa [← traffic])).of_same agents traffic
  rcases undergo_cases w occurrence with ⟨change, rewired⟩ | ⟨me, op, source, a, performs, here, -, acts⟩
  · rw [rewired]
    exact same w _ (fun _ => rfl) rfl h
  · rw [acts]
    refine preserve_step same (agent?_did here) here (fun around before => ?_) h
    by_cases mint : ∃ amount witness tell confirm milliseconds,
        op = .mintCash amount witness tell confirm milliseconds
    · obtain ⟨amount, witness, tell, confirm, milliseconds, rfl⟩ := mint
      obtain ⟨rfl, rfl⟩ := performs.confirms confirms
      refine Step.ensures_map ((Step.mintCash_mints rfl).mono fun _ s' mints => ?_)
      exact ⟨.mint before mints rfl, (congrArg Config.did mints.config).trans (agent?_did here)⟩
    · refine (op.step_deeds around _).mono fun _ s' deeds => ?_
      refine preserve_deeds (P := fun w => w.Distinct → w.Covered) ?_ deeds (agent?_did here) before
      intro around s s' did h deed distinct
      refine (h (distinct.before deed)).deed deed (did ▸ performs.founded) (fun _ _ _ _ same => ?_)
        (fun r opens role _ _ => ?_) distinct
      · exact mint ⟨_, _, _, _, _, same⟩
      · exact absurd (opens.mints role) mint

theorem Begun.covered (begun : w.Begun) (empty : ∀ a ∈ w.agents, a.wallet.held = []) : w.Covered where
  wallets did a here e mem := by
    rw [Holding.stock, Holding.entries, empty a (List.mem_of_find?_eq_some here)] at mem
    cases mem
  ledgers did a here := by
    obtain ⟨config, notes, rfl⟩ := begun.new a (List.mem_of_find?_eq_some here)
    refine ⟨Agent.inStep_new config notes, ⟨?_, ?_, ?_⟩⟩
    · rintro e ⟨id, r, stored, -⟩
      cases stored
    · intro e mem
      cases mem
    · rintro e ⟨id, r, stored, -⟩
      cases stored
  records did id r stored := by
    rw [begun.record?] at stored
    cases stored
  messages _ _ _ _ arrived := absurd arrived begun.not_arrived

theorem Begun.play_covered (begun : w.Begun) (empty : ∀ a ∈ w.agents, a.wallet.held = [])
    {fresh : Nat → String} (injective : Function.Injective fresh) {course : List Occurrence}
    (draws : ∀ occurrence ∈ course, occurrence.Draws fresh)
    (confirms : ∀ occurrence ∈ course, occurrence.Confirms) : (w.play course).Covered := by
  suffices covered : ∀ w : World, (w.Distinct → w.Covered) → (w.play course).Distinct →
      (w.play course).Covered from
    covered w (fun _ => begun.covered empty) (((begun.coined fresh).play draws).distinct injective)
  clear draws begun empty
  induction course with
  | nil => exact fun w h => h
  | cons first rest ih =>
    obtain ⟨now, later⟩ := List.forall_mem_cons.mp confirms
    exact fun w h => ih later (w.undergo first) (.undergo now h)

/-- Only a witness has closed transfers. -/
theorem Begun.brought_by_witness (begun : w.Begun) {witness : Did}
    (single : ∀ a ∈ w.agents, a.config.isWitness = true → a.did = witness) {course : List Occurrence}
    {did : Did} {e : Entry} (brought : Brought ((w.play course).record? did) e) : did = witness := by
  obtain ⟨id, r, stored, closed, -⟩ := brought
  cases here : (w.play course).agent? did with
  | none =>
    rw [World.record?, here] at stored
    cases stored
  | some b =>
    rw [record?_of_agent here] at stored
    obtain ⟨a, start, later⟩ := play_becomes course here
    have known := List.mem_of_find?_eq_some start
    cases blind : a.config.isWitness with
    | true => exact (agent?_did start).symm.trans (single a known blind)
    | false =>
      obtain ⟨config, notes, rfl⟩ := begun.new a known
      have unclosed := later.unclosed blind fun id r stored => by cases stored
      exact absurd closed (unclosed.2 id r stored)

/-- What is in a wallet is in the witness's ledger, or has been spent by its owner. -/
theorem Covered.backed (h : w.Covered) {witness : Did}
    (single : ∀ did e, Brought (w.record? did) e → did = witness) {party : Did} {a : Agent}
    (here : w.agent? party = some a) {e : Entry} (mem : e ∈ a.wallet.stock) :
    e.owner = party ∧ ∃ v, w.agent? witness = some v ∧
      (e ∈ v.ledger.stock ∨ Spent v.records.get? e) := by
  obtain ⟨own, did, brought⟩ := h.wallets party a here e mem
  obtain rfl := single did e brought
  obtain ⟨v, there⟩ : ∃ v, w.agent? did = some v := by
    obtain ⟨id, r, stored, -⟩ := brought
    obtain ⟨v, there, -⟩ := Option.bind_eq_some_iff.mp stored
    exact ⟨v, there⟩
  rw [record?_of_agent there] at brought
  exact ⟨own, v, there, (h.ledgers did v there).2.kept e brought⟩

/-- A note that is in the ledger is in its owner's wallet only. -/
theorem Covered.owner_eq (h : w.Covered) {witness : Did}
    (single : ∀ did e, Brought (w.record? did) e → did = witness) {party : Did} {a v : Agent}
    (here : w.agent? party = some a) (there : w.agent? witness = some v) {e : Entry}
    (mem : e ∈ a.wallet.stock) {kept : Entry} (held : kept ∈ v.ledger.stock) (same : kept.id = e.id) :
    kept.owner = party := by
  obtain ⟨own, v', there', backed⟩ := h.backed single here mem
  cases there.symm.trans there'
  obtain ⟨inStep, accounted⟩ := h.ledgers witness v there
  rcases backed with present | spent
  · rw [inStep.stock_eq held present same, own]
  · exact absurd (same ▸ List.mem_map_of_mem held) (accounted.gone e spent).2

end World

/-- Every note of a wallet is its owner's, and the witness holds it for the owner or has
completed a transfer that spends it for the owner. -/
theorem wallets_backed {w : World} (begun : w.Begun) (empty : ∀ a ∈ w.agents, a.wallet.held = [])
    {witness : Did} (single : ∀ a ∈ w.agents, a.config.isWitness = true → a.did = witness)
    {fresh : Nat → String} (injective : Function.Injective fresh) {course : List Occurrence}
    (draws : ∀ occurrence ∈ course, occurrence.Draws fresh)
    (confirms : ∀ occurrence ∈ course, occurrence.Confirms) :
    (∀ party a, (w.play course).agent? party = some a → ∀ note ∈ a.wallet.notes, note.owner = party ∧
      ∃ v, (w.play course).agent? witness = some v ∧
        ((∃ kept ∈ v.ledger.notes, kept.id = note.id ∧ kept.value ≈ note.value ∧ kept.owner = party) ∨
          ∃ id r, v.records.get? id = some r ∧ r.role = .witness ∧ r.state = .completed ∧
            r.transfer.giver = some party ∧ ∃ input ∈ r.transfer.inputs, input.id = note.id ∧
              input.value ≈ note.value ∧ input.owner = party)) ∧
    ∀ party party' a a' v, (w.play course).agent? party = some a →
      (w.play course).agent? party' = some a' → (w.play course).agent? witness = some v →
      ∀ name ∈ a.wallet.ids, name ∈ a'.wallet.ids → name ∈ v.ledger.ids → party = party' := by
  have covered := begun.play_covered empty injective draws confirms
  have single (did : Did) (e : Entry) (brought : Brought ((w.play course).record? did) e) :
      did = witness := begun.brought_by_witness single brought
  refine ⟨fun party a here note mem => ?_, fun party party' a a' v here here' there name mem mem' kept => ?_⟩
  · have held : note.entry ∈ a.wallet.stock := Holding.mem_stock_iff.mpr ⟨note, mem, rfl⟩
    obtain ⟨rfl, v, there, backed⟩ := covered.backed single here held
    refine ⟨rfl, v, there, ?_⟩
    rcases backed with present | ⟨id, r, stored, closed, giver, input⟩
    · obtain ⟨kept, mem, same⟩ := Holding.mem_stock_iff.mp present
      exact .inl ⟨kept, mem, Note.entry_eq_iff.mp same⟩
    · obtain ⟨committed, mem, same⟩ := List.mem_map.mp input
      exact .inr ⟨id, r, stored, closed.1, closed.2, giver, committed, mem, Note.entry_eq_iff.mp same⟩
  · rw [← Holding.stock_ids] at mem mem' kept
    obtain ⟨e, own, rfl⟩ := List.mem_map.mp mem
    obtain ⟨e', own', same'⟩ := List.mem_map.mp mem'
    obtain ⟨k, held, same⟩ := List.mem_map.mp kept
    have owner := covered.owner_eq single here there own held same
    have owner' := covered.owner_eq single here' there own' held (same.trans same'.symm)
    exact owner.symm.trans owner'

namespace Market

def unheard : List Occurrence := [
  .call giver (.mintCash five (some witness) true true none) source, .deliver 0 source,
  .deliver 1 source, .call getter (.createRequest five (some witness) (some giver) none none) source,
  .deliver 2 source, .deliver 3 source, .call giver (.acceptRequest ⟨"2"⟩ none) source,
  .deliver 4 source, .deliver 5 source, .deliver 6 source, .deliver 10 source]

theorem source_injective : Function.Injective source.fresh := by
  intro n m same
  have texts : toString n = toString m := same
  rw [Nat.toString_eq_ofList_toDigits, Nat.toString_eq_ofList_toDigits, String.ofList_inj] at texts
  rw [← Nat.ofDigitChars_ten_toDigits (n := n), texts, Nat.ofDigitChars_ten_toDigits]

theorem unheard_draws : ∀ occurrence ∈ unheard, occurrence.Draws source.fresh := by
  simp [unheard, Occurrence.Draws, Occurrence.source?]

theorem unheard_confirms : ∀ occurrence ∈ unheard, occurrence.Confirms := by
  intro occurrence mem did amount chosen tell confirm milliseconds from_source same
  subst same
  simp only [unheard, List.mem_cons, Occurrence.call.injEq, Operation.mintCash.injEq, reduceCtorEq,
    and_false, false_and, List.not_mem_nil, or_false] at mem
  obtain ⟨-, ⟨-, -, rfl, rfl, -⟩, -⟩ := mem
  exact ⟨rfl, rfl⟩

end Market

theorem wallets_backed_market : ∃ a note v id r,
    (Market.opening.play Market.unheard).agent? Market.giver = some a ∧ note ∈ a.wallet.notes ∧
      (Market.opening.play Market.unheard).agent? Market.witness = some v ∧ note.id ∉ v.ledger.ids ∧
      v.records.get? id = some r ∧ r.state = .completed ∧
      ∃ input ∈ r.transfer.inputs, input.id = note.id ∧ input.owner = Market.giver := by
  let coin : Note := ⟨⟨"1"⟩, Market.five, Market.giver⟩
  have found : ((Market.opening.play Market.unheard).agent? Market.giver).any
      (coin ∈ ·.wallet.notes) = true := by decide +kernel
  obtain ⟨a, here, mem⟩ : ∃ a, (Market.opening.play Market.unheard).agent? Market.giver = some a ∧
      coin ∈ a.wallet.notes := by simpa [Option.any_eq_true] using found
  have moved : ((Market.opening.play Market.unheard).agent? Market.witness).all
      (coin.id ∉ ·.ledger.ids) = true := by decide +kernel
  have agents (P : Agent → Prop) (first : P (.new (Config.new Market.getter) []))
      (second : P (.new (Config.new Market.giver) []))
      (third : P (.new (Config.new Market.witness).asWitness [])) : ∀ a ∈ Market.opening.agents, P a := by
    simpa [Market.opening] using ⟨first, second, third⟩
  have single : ∀ a ∈ Market.opening.agents, a.config.isWitness = true → a.did = Market.witness :=
    agents _ (fun blind => by cases blind) (fun blind => by cases blind) fun _ => rfl
  obtain ⟨-, v, there, backed⟩ := (wallets_backed Market.opening_begun (agents _ rfl rfl rfl) single
    Market.source_injective Market.unheard_draws Market.unheard_confirms).1 Market.giver a here coin mem
  rw [there] at moved
  have gone : coin.id ∉ v.ledger.ids := by simpa using moved
  refine ⟨a, coin, v, ?_⟩
  rcases backed with ⟨kept, held, same, -⟩ | ⟨id, r, stored, -, state, -, input, committed, same, -, owner⟩
  · obtain ⟨n, n_held, rfl⟩ := List.mem_map.mp held
    exact absurd (same ▸ List.mem_map_of_mem n_held) gone
  · exact ⟨id, r, here, mem, there, gone, stored, state, input, committed, same, owner⟩

end WitnessedTransfer
