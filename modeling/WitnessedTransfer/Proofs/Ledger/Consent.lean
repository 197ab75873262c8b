import WitnessedTransfer.Proofs.Ledger.Conservation
import WitnessedTransfer.Proofs.Ledger.Registering
import WitnessedTransfer.Proofs.Ledger.Stock

/-! Notes move in the ledger of a witness only as both parties have agreed: the getter has asked, the
giver that holds them has committed them, and the getter has accepted the cash, in this order. The
receipts that go out then say just what was committed. What ties the three messages together is
the record of the transfer, in each state of which the messages before it are known. -/
namespace WitnessedTransfer

/-! ### The messages behind a record -/

structure Record.WaitsFor (r : Record) (request : PaymentRequest) : Prop where
  waiting : r.Waiting
  getter : r.transfer.getter = some request.getter
  amount : r.transfer.amount = request.amount
  positive : 0 < request.amount

namespace Agent

def TookRequest (start : Agent) (xs : List Arrival) (id : TransferId) (request : PaymentRequest) :
    Prop :=
  ∃ pre x post, xs = pre ++ x :: post ∧ x.sender = request.getter ∧ x.message = ⟨id, .request request⟩ ∧
    (start.takeAll pre).records.get? id = none ∧
    ∃ r, (start.takeAll (pre ++ [x])).records.get? id = some r ∧ r.WaitsFor request

def TookAcceptance (start : Agent) (xs : List Arrival) (id : TransferId) (request : PaymentRequest)
    (giver : Did) (acceptance : Acceptance) : Prop :=
  ∃ pre x post, xs = pre ++ x :: post ∧ x.sender = giver ∧ x.message = ⟨id, .requestAccepted acceptance⟩ ∧
    start.TookRequest pre id request ∧
    (∃ r, (start.takeAll pre).records.get? id = some r ∧ r.WaitsFor request) ∧
    ∃ r, (start.takeAll (pre ++ [x])).records.get? id = some r ∧ r.Notarized

/-- The message after the run is the getter's acceptance of the cash, for which it has asked and which
the giver has committed. -/
structure Settles (start : Agent) (xs : List Arrival) (x : Arrival) (request : PaymentRequest)
    (giver : Did) (acceptance : Acceptance) : Prop where
  accepted : start.TookAcceptance xs x.message.thread request giver acceptance
  cash : ∃ cash, x.message.body = .cashAccepted cash
  sender : x.sender = request.getter

structure Commits (start : Agent) (xs : List Arrival) (id : TransferId) (r : Record)
    (request : PaymentRequest) (giver : Did) (acceptance : Acceptance) : Prop where
  accepted : start.TookAcceptance xs id request giver acceptance
  toGetter : r.transfer.getter = some request.getter
  byGiver : r.transfer.giver = some giver
  amount : r.transfer.amount = request.amount
  positive : 0 < request.amount
  inputs : r.transfer.inputs = acceptance.inputs
  outputs : r.transfer.outputs = acceptance.outputs
  balanced : Balanced request.amount request.getter giver acceptance.inputs acceptance.outputs

structure Documented (start : Agent) (xs : List Arrival) : Prop where
  asked : ∀ id r, (start.takeAll xs).records.get? id = some r → r.Waiting →
    ∃ request, start.TookRequest xs id request ∧ r.WaitsFor request
  committed : ∀ id r, (start.takeAll xs).records.get? id = some r → r.Notarized →
    ∃ request giver acceptance, start.Commits xs id r request giver acceptance

variable {start : Agent} {xs : List Arrival} {x : Arrival} {id : TransferId} {r : Record}
  {request : PaymentRequest} {giver : Did} {acceptance : Acceptance}

theorem TookRequest.snoc (took : start.TookRequest xs id request) (x : Arrival) :
    start.TookRequest (xs ++ [x]) id request := by
  obtain ⟨pre, y, post, rfl, rest⟩ := took
  exact ⟨pre, y, post ++ [x], by simp, rest⟩

theorem TookAcceptance.snoc (took : start.TookAcceptance xs id request giver acceptance) (x : Arrival) :
    start.TookAcceptance (xs ++ [x]) id request giver acceptance := by
  obtain ⟨pre, y, post, rfl, rest⟩ := took
  exact ⟨pre, y, post ++ [x], by simp, rest⟩

theorem Documented.snoc (h : start.Documented xs) (withstands : (start.takeAll xs).Withstands x) :
    start.Documented (xs ++ [x]) where
  asked id r stored waiting := by
    have old (stored : (start.takeAll xs).records.get? id = some r) :
        ∃ request, start.TookRequest (xs ++ [x]) id request ∧ r.WaitsFor request := by
      obtain ⟨request, took, terms⟩ := h.asked id r stored waiting
      exact ⟨request, took.snoc x, terms⟩
    have stored' := stored
    rw [takeAll_snoc] at stored'
    by_cases here : id = x.message.thread
    · subst here
      rcases take_waiting withstands stored' waiting with before |
        ⟨unknown, request, body, fromGetter, getter, amount, positive⟩
      · exact old before
      · have terms : r.WaitsFor request := ⟨waiting, getter, amount, positive⟩
        exact ⟨request, ⟨xs, x, [], rfl, fromGetter.symm, congrArg (Message.mk _) body, unknown, r, stored,
          terms⟩, terms⟩
    · exact old (take_elsewhere here ▸ stored')
  committed id r stored notarized := by
    have old (stored : (start.takeAll xs).records.get? id = some r) :
        ∃ request giver acceptance, start.Commits (xs ++ [x]) id r request giver acceptance := by
      obtain ⟨request, giver, acceptance, commits⟩ := h.committed id r stored notarized
      exact ⟨request, giver, acceptance, { commits with accepted := commits.accepted.snoc x }⟩
    have stored' := stored
    rw [takeAll_snoc] at stored'
    by_cases here : id = x.message.thread
    · subst here
      rcases take_notarized stored' notarized with before | ⟨acceptance, r₀, body, known, notarizes⟩
      · exact old before
      · obtain ⟨request, took, terms⟩ := h.asked _ r₀ known notarizes.waiting
        have amount := notarizes.amount.trans terms.amount
        refine ⟨request, x.sender, acceptance, ?_, notarizes.getter.trans terms.getter, notarizes.giver,
          amount, terms.positive, notarizes.inputs, notarizes.outputs, ?_⟩
        · exact ⟨xs, x, [], rfl, rfl, congrArg (Message.mk _) body, took, ⟨r₀, known, terms⟩, r, stored,
            notarized⟩
        · exact terms.amount ▸ notarizes.balanced request.getter terms.getter
    · exact old (take_elsewhere here ▸ stored')

theorem documented (config : Config) (notes : List Note) (xs : List Arrival)
    (withstands : (Agent.new config notes).WithstandsAll xs) :
    (Agent.new config notes).Documented xs := by
  induction xs using List.reverseRecOn with
  | nil =>
    constructor
    · intro id r stored
      cases stored
    · intro id r stored
      cases stored
  | append_singleton xs x ih =>
    obtain ⟨before, now⟩ := withstandsAll_snoc.mp withstands
    exact (ih before).snoc now

end Agent

/-! ### What leaves the ledger -/

structure Spends (op : Operation) (a : Agent) (r : Record) (ledger : Holding) : Prop where
  takes : ∃ sender cash, op.Takes sender r.id (.cashAccepted cash) ∧ r.transfer.getter = some sender
  notarized : r.Notarized
  kept : ∀ e ∈ a.ledger.stock, e ∈ ledger.stock ∨ e.id ∈ r.inputNames

section
variable {around : Surroundings} {op : Operation} {s s' : Scene} {a : Agent} {r : Record}
  {versions : List Record} {wallet ledger : Holding} {sent : List Dispatch}

theorem Move.spends (move : Move around op a r versions wallet ledger sent) :
    a.ledger.stock ⊆ ledger.stock ∨ Spends op a r ledger := by
  cases move with
  | notarized _ _ _ _ _ _ _ _ _ _ promised =>
    exact .inl (by rw [Step.promiseNotes_stock promised]; exact List.Subset.refl _)
  | @transferred sender _ _ _ _ _ _ _ _ _ _ _ _ takes role state fromGetter _ _ toGetter _ _ moved =>
    refine .inr ⟨⟨sender, _, takes, ?_⟩, ⟨role, state⟩, fun e mem => ?_⟩
    · rw [toGetter] at fromGetter ⊢
      rw [expects_some.mp fromGetter]
    · by_cases input : e.id ∈ r.inputNames
      · exact .inr input
      · exact .inl ((Step.mem_moveNotes_stock moved).mpr (.inl ⟨mem, input⟩))
  | minted _ _ _ _ _ checked _ _ _ _ issued =>
    exact .inl fun e mem => (Step.mem_issueNotes_stock issued (Note.check_ok checked).2).mpr (.inl mem)
  | failed => exact .inl (Holding.release_keeps _ _).stock
  | _ => exact .inl (List.Subset.refl _)

theorem Deed.spends (deed : Deed around op s s') :
    s.agent.ledger.stock ⊆ s'.agent.ledger.stock ∨
      ∃ r, s.agent.records.get? r.id = some r ∧ Spends op s.agent r s'.agent.ledger := by
  have kept : s.agent.ledger.stock ⊆ s.agent.ledger.stock := List.Subset.refl _
  cases deed with
  | moved r about versions wallet ledger sent stored move leads =>
    rw [leads.agent]
    exact move.spends.imp_right fun spends => ⟨r, stored, spends⟩
  | unvouched r about sender acceptance ledger missed stored role state promised lost leads =>
    rw [leads.agent]
    refine .inl fun e mem => (Holding.release_keeps ledger r.id).stock ?_
    rwa [Step.promiseNotes_stock promised]
  | opened r unknown opens leads => rw [leads.agent]; exact .inl kept
  | told sent loose asked leads => rw [leads.agent]; exact .inl kept
  | stranded r about inputs wallet stored isOpen selected leads => rw [leads.agent]; exact .inl kept
  | unpaid r about inputs wallet missed stored isOpen selected lost leads =>
    rw [leads.agent]; exact .inl kept
  | learned directory leads => rw [leads.agent]; exact .inl kept
  | announced event due leads => rw [leads.agent]; exact .inl kept

end

section
variable {a : Agent} {x : Arrival} {e : Entry}

/-- What leaves the ledger with a message are inputs of a notarized transfer whose getter has sent
it, and they were the giver's. -/
theorem Agent.take_spends (h : a.InStep) (mem : e ∈ a.ledger.stock) (gone : e ∉ (a.take x).ledger.stock) :
    ∃ r cash, a.records.get? x.message.thread = some r ∧ r.Notarized ∧
      x.message.body = .cashAccepted cash ∧ r.transfer.getter = some x.sender ∧
      r.transfer.giver = some e.owner ∧
      ∃ note ∈ r.transfer.inputs, note.id = e.id ∧ note.value.value = e.value := by
  cases body : x.message.body with
  | cashAccepted cash =>
    obtain ⟨s', same, once⟩ := a.take_once x (by rw [body]; rfl)
    rw [← same] at gone
    rcases once with still | deed
    · rw [still.agent] at gone
      exact absurd mem gone
    rcases deed.spends with kept | ⟨r, stored, ⟨sender, cash', takes, getter⟩, notarized, kept⟩
    · exact absurd (kept mem) gone
    have input := (kept e mem).resolve_left gone
    obtain ⟨rfl, message⟩ := takes.eq_of_receive
    have thread : x.message.thread = r.id := congrArg Message.thread message
    obtain ⟨note, committed, named⟩ := List.mem_map.mp input
    obtain ⟨held, held_mem, rfl⟩ := List.mem_map.mp mem
    obtain ⟨e', mem', named', value, giver⟩ := h.held r.id r stored notarized note committed
    obtain rfl := h.entry_eq mem' held_mem (named'.trans named)
    exact ⟨r, cash, thread ▸ stored, notarized, rfl, getter, giver, note, committed, named, value.symm⟩
  | _ =>
    obtain ⟨s', same, deeds⟩ := a.take_deeds x
    rw [← same] at gone
    refine absurd (deeds.preserve (P := fun b => e ∈ b.ledger.stock) ?_ mem) gone
    intro s₁ s₂ mem deed
    rcases deed.spends with kept | ⟨r, -, ⟨sender, cash, takes, -⟩, -⟩
    · exact kept mem
    · cases body.symm.trans takes.body_eq

end

/-! ### What the receipts say -/

def Dispatch.Attests (P : Receipt → Prop) (d : Dispatch) : Prop :=
  ∀ receipt, d.message.body = .getterReceipt receipt ∨ d.message.body = .giverReceipt receipt →
    receipt.thread = d.message.thread ∧ P receipt

theorem Dispatch.attests_of_plain {P : Receipt → Prop} (d : Dispatch) (isPlain : d.message.body.Plain) :
    d.Attests P := by
  rintro receipt (same | same) <;> rw [same] at isPlain <;> cases isPlain

theorem Dispatch.Attests.mono {P Q : Receipt → Prop} {d : Dispatch} (attests : d.Attests P)
    (imp : ∀ receipt, P receipt → Q receipt) : d.Attests Q :=
  fun receipt isReceipt => (attests receipt isReceipt).imp_right (imp receipt)

def Agent.Issues (a : Agent) (id : TransferId) (getter : Did) (receipt : Receipt) : Prop :=
  ∃ r giver now, a.records.get? id = some r ∧ r.Notarized ∧ r.transfer.getter = some getter ∧
    r.transfer.giver = some giver ∧ receipt = r.receipt getter giver a.did now

namespace Step

variable {around : Surroundings} {s : Scene} {r : Record} {sender : Did}

theorem closingMessages_attests {a : Agent} {id : TransferId} {receipt : Receipt} (about : receipt.thread = id) :
    ∀ d ∈ (closingMessages receipt).map fun m => a.dispatch around m.1 ⟨id, m.2⟩ none,
      d.Attests (· = receipt) := by
  simp only [closingMessages, List.map_cons, List.map_nil, List.forall_mem_cons]
  refine ⟨?_, ?_, ?_, ?_, by simp⟩
  · exact Dispatch.attests_of_plain _ (.cashAcceptedWitnessed _)
  · exact Dispatch.attests_of_plain _ (.cashRemoved _)
  · rintro _ (⟨⟨⟩⟩ | ⟨⟨⟩⟩)
    exact ⟨about, rfl⟩
  · rintro _ (⟨⟨⟩⟩ | ⟨⟨⟩⟩)
    exact ⟨about, rfl⟩

/-- The receipts with which a witness closes a transfer are those of its record, and go out only if
the getter has accepted the cash. -/
theorem commitTransfer_attests {acceptance : CashAcceptance} :
    (commitTransfer r sender acceptance).Ensures around s fun _ s' => s.Sends (Dispatch.Attests
      fun receipt => r.transfer.getter = some sender ∧ ∃ giver now, r.transfer.giver = some giver ∧
        receipt = r.receipt sender giver s.agent.did now) s' := by
  have silent {s' : Scene} {Q : Dispatch → Prop} (same : s'.sent = s.sent) : s.Sends Q s' :=
    ⟨[], by rw [same, List.append_nil], fun _ mem => nomatch mem⟩
  unfold commitTransfer
  refine expectParty_then (fun fromGetter => ?_) fun _ => silent rfl
  refine expectAmount_then (fun _ => ?_) (silent rfl)
  refine now_then (guard_then (fun _ => silent rfl) fun _ => ?_)
  refine require_then (fun getter toGetter => ?_) (silent rfl)
  refine require_then (fun giver byGiver => ?_) (silent rfl)
  refine total_then (fun committed _ => ?_) fun _ => silent rfl
  refine changeLedger_then (fun _ ledger _ => me_then ?_) fun _ _ => silent rfl
  refine transition_silent_then (fun first s₁ id₁ same₁ => ?_) fun _ _ same => silent same
  refine transition_silent_then (fun second s₂ id₂ same₂ => ?_) fun _ _ same => silent (same.trans same₁)
  refine transition_silent_then (fun third s₃ id₃ same₃ => ?_)
    fun _ _ same => silent (same.trans (same₂.trans same₁))
  have unsent : s₃.sent = s.sent := same₃.trans (same₂.trans same₁)
  rw [toGetter] at fromGetter
  obtain rfl := expects_some.mp fromGetter
  have about : r.id = third.id := (id₃.trans (id₂.trans id₁)).symm
  have sends (a : Agent) (receipt : Receipt)
      (same : receipt = r.receipt getter giver s.agent.did (around.instant s.looked)) :
      s.Sends (Dispatch.Attests fun receipt => r.transfer.getter = some getter ∧ ∃ giver now,
        r.transfer.giver = some giver ∧ receipt = r.receipt getter giver s.agent.did now)
        (s₃.emit ((closingMessages receipt).map fun m => a.dispatch around m.1 ⟨third.id, m.2⟩ none)) := by
    subst same
    refine ⟨_, congrArg (· ++ _) unsent, fun d mem => (closingMessages_attests about d mem).mono ?_⟩
    rintro _ rfl
    exact ⟨toGetter, giver, _, byGiver, rfl⟩
  refine ensures_bind.mpr (ensures_postAll fun missed => ?_)
  simp only [andThen]
  apply orUndelivered_then
  · exact fun _ => ensures_pure third (sends _ _ rfl)
  · exact fun _ _ => sends _ _ rfl

theorem receiveCashAcceptance_attests {id : TransferId} {acceptance : CashAcceptance} :
    (receiveCashAcceptance sender id acceptance).Ensures around s
      fun _ s' => s.Sends (Dispatch.Attests (s.agent.Issues id sender)) s' := by
  have frame := Scene.frame_sends (Dispatch.attests_of_plain (P := s.agent.Issues id sender))
  have idle : s.Sends (Dispatch.Attests (s.agent.Issues id sender)) s := frame.silent rfl (Nat.le_refl _)
  refine load_then (fun r stored => ?_) fun _ => idle
  split
  next => exact ensures_pure r idle
  next fits =>
    have notarized : r.role = .witness ∧ r.state = .requestAcceptedWitnessed := by
      simpa only [not_or, Decidable.not_not] using fits
    have closes : (commitTransfer r sender acceptance).Ensures around s
        fun _ s' => s.Sends (Dispatch.Attests (s.agent.Issues id sender)) s' := by
      refine commitTransfer_attests.mono fun _ s' ⟨sent, same, attests⟩ => ⟨sent, same, fun d mem => ?_⟩
      refine (attests d mem).mono fun receipt => ?_
      rintro ⟨getter, giver, now, rest⟩
      exact ⟨r, giver, now, stored, notarized, getter, rest⟩
    refine ensures_tryCatch closes (fun _ _ sends => sends) fun fault s' sends => ?_
    cases fault with
    | overflow cause => exact sends
    | failure cause =>
      have reports : Within (Scene.Sends (Dispatch.Attests (s.agent.Issues id sender))) around
          (if cause.isValidation then fail r cause.problem (concerned r (some sender)) else refuse cause) :=
        inferInstance
      exact frame.trans sends (reports.holds s')

/-- A message that does not accept cash is answered by no receipt. -/
theorem receive_unattested {message : Message}
    (other : ∀ acceptance, message.body ≠ .cashAccepted acceptance) :
    (receive sender message).Ensures around s fun _ s' => s.Sends (Dispatch.Attests fun _ => False) s' := by
  have frame := Scene.frame_sends (Dispatch.attests_of_plain (P := fun _ => False))
  have posts (recipient : Did) (id : TransferId) (acceptance : Acceptance) (hint : Option TransportHint) :
      Within (Scene.Sends (Dispatch.Attests fun _ => False)) around
        (post recipient ⟨id, .requestAccepted acceptance⟩ hint) := by
    refine ⟨fun s => ?_⟩
    rw [perform_post]
    refine ⟨_, rfl, fun d mem receipt isReceipt => ?_⟩
    rw [List.mem_singleton.mp mem] at isReceipt
    rcases isReceipt with same | same <;> cases same
  have received : Within (Scene.Sends (Dispatch.Attests fun _ => False)) around
      (receive sender message) :=
    receive_within (fun _ => commitNotes_within posts)
      fun acceptance cash => absurd cash (other acceptance)
  exact received.holds s

end Step

/-- A receipt goes out only to close a notarized transfer whose getter has accepted the cash, and is
that of its record. -/
theorem Agent.sends_receipt {a : Agent} {x : Arrival} {d : Dispatch} {receipt : Receipt}
    (mem : d ∈ a.sends x)
    (isReceipt : d.message.body = .getterReceipt receipt ∨ d.message.body = .giverReceipt receipt) :
    (∃ cash, x.message.body = .cashAccepted cash) ∧ receipt.thread = d.message.thread ∧
      a.Issues x.message.thread x.sender receipt := by
  have sends {Q : Dispatch → Prop} (received : (Step.receive x.sender x.message).Ensures x.around
      ⟨a, x.drawn, x.looked, []⟩ fun _ s' => Scene.Sends Q ⟨a, x.drawn, x.looked, []⟩ s') : Q d := by
    obtain ⟨sent, same, all⟩ := Step.ensures_perform (Step.ensures_map (f := Outcome.record) received)
    have same : a.sends x = sent := same
    exact all d (same ▸ mem)
  cases body : x.message.body with
  | cashAccepted cash =>
    refine ⟨⟨cash, rfl⟩, sends (Q := Dispatch.Attests (a.Issues x.message.thread x.sender)) ?_ receipt isReceipt⟩
    apply Step.config_then
    split
    next => exact Step.ensures_pure _ ⟨[], rfl, fun _ mem => nomatch mem⟩
    next =>
      rw [body]
      exact Step.ensures_map Step.receiveCashAcceptance_attests
  | _ =>
    refine (sends (Step.receive_unattested fun acceptance same => ?_) receipt isReceipt).2.elim
    cases body.symm.trans same

/-! ### Consent -/

/-- The receipt says what has been asked for and committed. -/
structure Receipt.Certifies (receipt : Receipt) (id : TransferId) (request : PaymentRequest) (giver : Did)
    (acceptance : Acceptance) : Prop where
  thread : receipt.thread = id
  getter : receipt.getter = request.getter
  giver : receipt.giver = giver
  amount : receipt.amount = request.amount
  positive : 0 < receipt.amount
  inputs : receipt.inputs = acceptance.inputs
  outputs : receipt.outputs = acceptance.outputs
  balanced : Balanced receipt.amount receipt.getter receipt.giver receipt.inputs receipt.outputs

theorem Agent.Commits.certifies {start : Agent} {xs : List Arrival} {id : TransferId} {r : Record}
    {request : PaymentRequest} {giver getter witness : Did} {acceptance : Acceptance} {now : Instant}
    (commits : start.Commits xs id r request giver acceptance) (about : r.id = id)
    (toGetter : r.transfer.getter = some getter) :
    (r.receipt getter giver witness now).Certifies id request giver acceptance := by
  cases commits.toGetter.symm.trans toGetter
  refine ⟨about, rfl, rfl, commits.amount, ?_, commits.inputs, commits.outputs, ?_⟩
  · show 0 < r.transfer.amount
    exact commits.amount ▸ commits.positive
  · simp only [Record.receipt, commits.amount, commits.inputs, commits.outputs]
    exact commits.balanced

/-- What leaves the ledger leaves as its getter has asked for it, the owner has committed it and
the getter accepts the cash. The receipt says what was committed. -/
theorem notes_move_with_consent (config : Config) (notes : List Note) (xs : List Arrival)
    (withstands : (Agent.new config notes).WithstandsAll xs) (x : Arrival) :
    let start := Agent.new config notes
    (∀ e ∈ (start.takeAll xs).ledger.stock, e ∉ (start.takeAll (xs ++ [x])).ledger.stock →
      ∃ request giver acceptance, start.Settles xs x request giver acceptance ∧ e.owner = giver ∧
        ∃ note ∈ acceptance.inputs, note.id = e.id ∧ note.value.value = e.value) ∧
    ∀ d ∈ (start.takeAll xs).sends x, ∀ receipt,
      d.message.body = .getterReceipt receipt ∨ d.message.body = .giverReceipt receipt →
      ∃ request giver acceptance, start.Settles xs x request giver acceptance ∧
        d.message.thread = x.message.thread ∧
        receipt.Certifies x.message.thread request giver acceptance := by
  intro start
  have known := Agent.documented config notes xs withstands
  refine ⟨fun e mem gone => ?_, fun d mem receipt isReceipt => ?_⟩
  · have inStep : (start.takeAll xs).InStep := (Agent.Reachable.start.takeAll xs).inStep
    rw [Agent.takeAll_snoc] at gone
    obtain ⟨r, cash, stored, notarized, body, getter, giver, note, input, named, value⟩ :=
      Agent.take_spends inStep mem gone
    obtain ⟨request, giver', acceptance, commits⟩ := known.committed _ r stored notarized
    have fromGetter := Option.some.inj (getter.symm.trans commits.toGetter)
    exact ⟨request, giver', acceptance, ⟨commits.accepted, ⟨cash, body⟩, fromGetter⟩,
      Option.some.inj (giver.symm.trans commits.byGiver), note, commits.inputs ▸ input, named, value⟩
  · obtain ⟨cash, about, r, giver, now, stored, notarized, getter, byGiver, rfl⟩ :=
      Agent.sends_receipt mem isReceipt
    obtain ⟨request, giver', acceptance, commits⟩ := known.committed _ r stored notarized
    cases byGiver.symm.trans commits.byGiver
    have fromGetter := Option.some.inj (getter.symm.trans commits.toGetter)
    have same := RecordStore.get?_id stored
    exact ⟨request, giver, acceptance, ⟨commits.accepted, cash, fromGetter⟩, about.symm.trans same,
      commits.certifies same getter⟩

namespace Market

def receipt : Receipt :=
  ⟨⟨"sale"⟩, five, "credit", getter, giver, witness, [coin], [payment], .epoch⟩

end Market

theorem notes_move_with_consent_market :
    (∃ request acceptance,
      Market.start.Settles Market.committing Market.closing request Market.giver acceptance ∧
        ∃ note ∈ acceptance.inputs, note.id = Market.coin.id) ∧
    ∃ request giver acceptance,
      Market.start.Settles Market.committing Market.closing request giver acceptance ∧
        Market.receipt.Certifies ⟨"sale"⟩ request giver acceptance := by
  have held : Market.coin.entry ∈ (Market.start.takeAll Market.committing).ledger.stock := by
    decide +kernel
  have gone : Market.coin.entry ∉
      (Market.start.takeAll (Market.committing ++ [Market.closing])).ledger.stock := by decide +kernel
  have sent : (⟨Market.getter, ⟨⟨"sale"⟩, .getterReceipt Market.receipt⟩, none, none⟩ : Dispatch) ∈
      (Market.start.takeAll Market.committing).sends Market.closing := by decide +kernel
  obtain ⟨leaves, certified⟩ := notes_move_with_consent (Config.new Market.witness).asWitness []
    Market.committing (by decide +kernel) Market.closing
  constructor
  · obtain ⟨request, giver, acceptance, settles, rfl, note, input, named, -⟩ := leaves _ held gone
    exact ⟨request, acceptance, settles, note, input, named⟩
  · obtain ⟨request, giver, acceptance, settles, -, certifies⟩ := certified _ sent _ (.inl rfl)
    exact ⟨request, giver, acceptance, settles, certifies⟩

end WitnessedTransfer
