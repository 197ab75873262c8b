import WitnessedTransfer.Proofs.Market
import WitnessedTransfer.Proofs.Wallet.Moves

/-! A wallet is spent as its owner agreed just when every message with which a giver settles names
what is reserved for an accepted payment and brings the change. The giver checks the names of a
removal, but neither the change that it brings nor anything in a receipt. -/
namespace WitnessedTransfer

structure Consented (a a' : Agent) (id : TransferId) : Prop where
  /-- What goes are the notes committed to a payment, and the change comes in their place. -/
  spent : (∃ e ∈ a.wallet.stock, e ∉ a'.wallet.stock) → ∃ r,
    a.records.get? id = some r ∧ r.Accepted ∧
    (∀ e, e ∈ a.wallet.stock ∧ e ∉ a'.wallet.stock ↔ e ∈ r.transfer.inputs.map Note.entry) ∧
    (∀ e ∈ a.wallet.entries, e.bare ∉ a'.wallet.stock → e.reservedBy = some id) ∧
    ∀ e, e ∈ a'.wallet.stock ∧ e ∉ a.wallet.stock ↔
      e ∈ (Note.ownedBy a.did r.transfer.outputs).map Note.entry
  /-- What is free or reserved for another transfer stays. -/
  untouched : ∀ e ∈ a.wallet.entries, e.reservedBy ≠ some id →
    e.bare ∈ a'.wallet.stock ∧ (e.reservedBy = none ∨ e ∈ a'.wallet.entries)

namespace Agent

def exchange? (a : Agent) (x : Arrival) : Option (List NoteId × List Note) :=
  if a.cash? x.message.thread = some false ∧ (a.take x).cash? x.message.thread = some true then
    x.message.body.exchange? a.did
  else none

def Loses (a : Agent) (names : List NoteId) (notes : List Note) (e : Entry) : Prop :=
  e ∈ a.wallet.entries ∧ e.id ∈ names ∧ e.bare ∉ a.wallet.brought names notes

structure AgreesTo (a : Agent) (id : TransferId) (names : List NoteId) (notes : List Note) :
    Prop where
  spares : a.Spares id names
  terms : (∃ e, a.Loses names notes e) → ∃ r, a.records.get? id = some r ∧ r.Accepted ∧
    (∀ e ∈ a.wallet.entries, a.Loses names notes e ↔ e.reservedBy = some id) ∧
    ∀ e, e ∈ a.wallet.brought names notes ∧ e ∉ a.wallet.stock ↔
      e ∈ (Note.ownedBy a.did r.transfer.outputs).map Note.entry

def Agrees (a : Agent) (x : Arrival) : Prop :=
  ∀ names notes, a.exchange? x = some (names, notes) → a.AgreesTo x.message.thread names notes

end Agent

variable {a a' : Agent} {id : TransferId} {names : List NoteId} {notes : List Note}

/-- What keeps all that is held takes nothing of it. -/
theorem consented_of_keeps (keeps : a.wallet.Keeps id a'.wallet) : Consented a a' id where
  spent := by
    rintro ⟨e, mem, gone⟩
    exact absurd (keeps.stock mem) gone
  untouched _ mem apart := keeps.untouched mem apart

/-- A note that is held is lost just when it is not held afterwards. -/
theorem loses_iff
    (exchanged : (Holding.exchange names notes).attempt a.wallet = .ok ((), a'.wallet)) {e : Entry}
    (mem : e ∈ a.wallet.entries) : a.Loses names notes e ↔ e.bare ∉ a'.wallet.stock := by
  have held : e.bare ∈ a.wallet.stock := List.mem_map_of_mem mem
  rw [Holding.mem_exchange_stock exchanged, not_or, not_and, Decidable.not_not]
  constructor
  · rintro ⟨-, named, lost⟩
    exact ⟨fun _ => named, lost⟩
  · rintro ⟨named, lost⟩
    exact ⟨mem, named held, lost⟩

theorem gained_iff
    (exchanged : (Holding.exchange names notes).attempt a.wallet = .ok ((), a'.wallet)) {e : Entry} :
    e ∈ a'.wallet.stock ∧ e ∉ a.wallet.stock ↔
      e ∈ a.wallet.brought names notes ∧ e ∉ a.wallet.stock := by
  rw [Holding.mem_exchange_stock exchanged]
  constructor
  · rintro ⟨⟨mem, -⟩ | new, unknown⟩
    · exact absurd mem unknown
    · exact ⟨new, unknown⟩
  · rintro ⟨new, unknown⟩
    exact ⟨.inr new, unknown⟩

theorem mem_exchange_of_reserved
    (exchanged : (Holding.exchange names notes).attempt a.wallet = .ok ((), a'.wallet)) {e : Entry}
    (reserved : e.reservedBy ≠ none) :
    e ∈ a'.wallet.entries ↔ e ∈ a.wallet.entries ∧ e.id ∉ names := by
  rw [Holding.exchange_entries exchanged, List.mem_append, List.mem_filter, decide_eq_true_eq]
  exact or_iff_left fun new => reserved (Holding.brought_free new)

theorem agreesTo_of_consented (h : a.Committed)
    (exchanged : (Holding.exchange names notes).attempt a.wallet = .ok ((), a'.wallet))
    (consented : Consented a a' id) : a.AgreesTo id names notes where
  spares := by
    intro e mem named
    by_contra held
    obtain ⟨reserved, other⟩ := not_or.mp held
    rcases (consented.untouched e mem other).2 with free | kept
    · exact reserved free
    · exact ((mem_exchange_of_reserved exchanged reserved).mp kept).2 named
  terms := by
    have lost {e : Entry} (mem : e ∈ a.wallet.entries) := loses_iff exchanged mem
    rintro ⟨e, loses⟩
    obtain ⟨r, stored, accepted, inputs, own, change⟩ :=
      consented.spent ⟨_, List.mem_map_of_mem loses.1, (lost loses.1).mp loses⟩
    refine ⟨r, stored, accepted, fun e mem => ⟨fun loses => ?_, fun reserved => ?_⟩, fun e => ?_⟩
    · exact own e mem ((lost mem).mp loses)
    · have committed : e.bare ∈ r.transfer.inputs.map Note.entry := by
        rw [h id r stored accepted]
        exact List.mem_map_of_mem (Holding.mem_reserved.mpr ⟨mem, reserved⟩)
      exact (lost mem).mpr ((inputs e.bare).mpr committed).2
    · rw [← gained_iff exchanged]
      exact change e

/-- If all that is reserved for an accepted payment goes, and nothing else, the inputs go. -/
theorem lost_iff_input {r : Record} (h : a.Committed) (stored : a.records.get? id = some r)
    (accepted : r.Accepted)
    (own : ∀ e ∈ a.wallet.entries, e.bare ∉ a'.wallet.stock ↔ e.reservedBy = some id) (e : Entry) :
    e ∈ a.wallet.stock ∧ e ∉ a'.wallet.stock ↔ e ∈ r.transfer.inputs.map Note.entry := by
  rw [h id r stored accepted]
  constructor
  · rintro ⟨held, gone⟩
    obtain ⟨e, mem, rfl⟩ := List.mem_map.mp held
    exact List.mem_map_of_mem (Holding.mem_reserved.mpr ⟨mem, (own e mem).mp gone⟩)
  · intro committed
    obtain ⟨e, reserved, rfl⟩ := List.mem_map.mp committed
    obtain ⟨mem, reserved⟩ := Holding.mem_reserved.mp reserved
    exact ⟨List.mem_map_of_mem mem, (own e mem).mpr reserved⟩

theorem consented_of_agreesTo (h : a.Committed)
    (exchanged : (Holding.exchange names notes).attempt a.wallet = .ok ((), a'.wallet))
    (agrees : a.AgreesTo id names notes) : Consented a a' id where
  spent := by
    rintro ⟨_, held, gone⟩
    obtain ⟨e, mem, rfl⟩ := List.mem_map.mp held
    obtain ⟨r, stored, accepted, own, change⟩ :=
      agrees.terms ⟨e, (loses_iff exchanged mem).mpr gone⟩
    have own (e : Entry) (mem : e ∈ a.wallet.entries) :
        e.bare ∉ a'.wallet.stock ↔ e.reservedBy = some id :=
      (loses_iff exchanged mem).symm.trans (own e mem)
    refine ⟨r, stored, accepted, lost_iff_input h stored accepted own, ?_, fun e => ?_⟩
    · exact fun e mem gone => (own e mem).mp gone
    · rw [gained_iff exchanged]
      exact change e
  untouched := by
    intro e mem apart
    by_cases named : e.id ∈ names
    · have free := (agrees.spares e mem named).resolve_right apart
      refine ⟨?_, .inl free⟩
      by_contra gone
      have loses := (loses_iff exchanged mem).mpr gone
      obtain ⟨r, -, -, own, -⟩ := agrees.terms ⟨e, loses⟩
      exact apart ((own e mem).mp loses)
    · refine ⟨?_, .inr ?_⟩
      · exact (Holding.mem_exchange_stock exchanged).mpr (.inl ⟨List.mem_map_of_mem mem, named⟩)
      · rw [Holding.exchange_entries exchanged]
        exact List.mem_append_left _ (List.mem_filter.mpr ⟨mem, decide_eq_true named⟩)

/-- An exchange is what the owner has agreed to just when its terms are. -/
theorem consented_iff_agreesTo (h : a.Committed)
    (exchanged : (Holding.exchange names notes).attempt a.wallet = .ok ((), a'.wallet)) :
    Consented a a' id ↔ a.AgreesTo id names notes :=
  ⟨agreesTo_of_consented h exchanged, consented_of_agreesTo h exchanged⟩

/-! ### One message -/

theorem Body.isSingle_of_exchange? {me : Did} {body : Body} {terms : List NoteId × List Note}
    (closing : body.exchange? me = some terms) : body.isSingle = true := by
  cases body <;> first | rfl | cases closing

variable {x : Arrival}

namespace Agent

theorem exchange?_of_unsettled {a : Agent} (unsettled : a.cash? x.message.thread = some false →
    (a.take x).cash? x.message.thread ≠ some true) : a.exchange? x = none := by
  unfold exchange?
  exact if_neg fun ⟨before, after⟩ => unsettled before after

/-- A message on which an agent goes further by itself exchanges nothing. -/
theorem take_wallet_of_many {a : Agent} (many : x.message.body.isSingle = false) :
    a.exchange? x = none ∧ a.wallet.Keeps x.message.thread (a.take x).wallet ∧
      (a.Committed → (a.take x).Committed) := by
  have none_closing : a.exchange? x = none := by
    unfold exchange?
    split
    next =>
      cases closing : x.message.body.exchange? a.did with
      | none => rfl
      | some terms =>
        rw [Body.isSingle_of_exchange? closing] at many
        cases many
    next => rfl
  obtain ⟨s', same, deeds⟩ := a.take_deeds x
  rw [← same]
  refine ⟨none_closing, deeds.preserve (P := fun b =>
    a.wallet.Keeps x.message.thread b.wallet ∧ (a.Committed → b.Committed)) ?_
    ⟨.refl _ _, fun h => h⟩⟩
  rintro s₁ s₂ ⟨keeps, committed⟩ deed
  cases deed.onWallet with
  | kept keeps' _ committed' =>
    exact ⟨keeps.trans (keeps' _ _ rfl), fun h => committed' (committed h)⟩
  | exchanged takes closing =>
    have body := takes.body_eq
    rw [body, Body.isSingle_of_exchange? closing] at many
    cases many

/-- What a message does to the wallet. -/
theorem take_wallet (a : Agent) (x : Arrival) :
    a.exchange? x = none ∧ a.wallet.Keeps x.message.thread (a.take x).wallet ∧
      (a.Committed → (a.take x).Committed) ∨
    ∃ names notes, a.exchange? x = some (names, notes) ∧
      (Holding.exchange names notes).attempt a.wallet = .ok ((), (a.take x).wallet) ∧
      (a.Spares x.message.thread names → a.Committed → (a.take x).Committed) := by
  cases single : x.message.body.isSingle with
  | false => exact .inl (take_wallet_of_many single)
  | true =>
    obtain ⟨s', same, once⟩ := a.take_once x single
    rcases once with still | deed
    · have unchanged : a.take x = a := same.symm.trans still.agent
      refine .inl ⟨exchange?_of_unsettled ?_, ?_⟩
      · rw [unchanged]
        intro before after
        cases before.symm.trans after
      · rw [unchanged]
        exact ⟨.refl _ _, fun h => h⟩
    · have effect := deed.onWallet
      rw [same] at effect
      cases effect with
      | kept keeps now committed =>
        exact .inl ⟨exchange?_of_unsettled (now _), keeps _ _ rfl, committed⟩
      | exchanged takes closing before after exchanged committed =>
        have message := takes.eq_of_receive.2
        refine .inr ⟨_, _, ?_, exchanged, ?_⟩
        · unfold exchange?
          rw [message, if_pos ⟨before, after⟩]
          exact closing
        · rw [message]
          exact committed

end Agent

theorem Agent.Committed.take (h : a.Committed) (agrees : a.Agrees x) : (a.take x).Committed := by
  rcases a.take_wallet x with ⟨-, -, committed⟩ | ⟨names, notes, closing, -, committed⟩
  · exact committed h
  · exact committed (agrees names notes closing).spares h

/-- A message does what the owner has agreed to just when its terms are. -/
theorem consented_iff_agrees (h : a.Committed) (x : Arrival) :
    Consented a (a.take x) x.message.thread ↔ a.Agrees x := by
  rcases a.take_wallet x with ⟨idle, keeps, -⟩ | ⟨names, notes, closing, exchanged, -⟩
  · apply iff_of_true (consented_of_keeps keeps)
    intro names notes closing
    cases idle.symm.trans closing
  · rw [consented_iff_agreesTo h exchanged]
    constructor
    · intro agreesTo names' notes' closing'
      cases closing.symm.trans closing'
      exact agreesTo
    · intro agrees
      exact agrees names notes closing

/-! ### Whole runs -/

namespace Agent

/-- Every message of the run does to the wallet what its owner has agreed to. -/
def ConsentedOver (a : Agent) : List Act → Prop
  | [] => True
  | act :: rest => (∀ x ∈ act.arrival?, Consented a (a.does act) x.message.thread) ∧
    (a.does act).ConsentedOver rest

/-- No message of the run settles on other terms than those that are agreed. -/
def AgreesOver (a : Agent) : List Act → Prop
  | [] => True
  | act :: rest => (∀ x ∈ act.arrival?, a.Agrees x) ∧ (a.does act).AgreesOver rest

theorem Committed.purge (h : a.Committed) (id : TransferId) : (a.purge id).Committed := by
  intro other r stored accepted
  exact h other r (stored_of_purge stored) accepted

/-- A call is no message, and settles nothing. -/
theorem Committed.perform {op : Operation} (h : a.Committed)
    (call : ∀ sender message, op ≠ .receive sender message) (around : Surroundings)
    (drawn looked : Nat) : (a.perform op around drawn looked).Committed := by
  have deeds := Step.ensures_perform (op.step_deeds around ⟨a, drawn, looked, []⟩)
  refine deeds.preserve (P := Agent.Committed) (fun s₁ s₂ committed deed => ?_) h
  cases deed.onWallet with
  | kept _ _ committed' => exact committed' committed
  | exchanged takes closing =>
    cases takes with
    | receive => exact absurd rfl (call _ _)
    | witnessRequest => cases closing

theorem Committed.does {act : Act} (h : a.Committed) (agrees : ∀ x ∈ act.arrival?, a.Agrees x) :
    (a.does act).Committed := by
  cases arrives : act.arrival? with
  | some x =>
    rw [does_of_arrival arrives]
    exact h.take (agrees x arrives)
  | none =>
    cases act with
    | purge id => exact h.purge id
    | perform op around drawn looked =>
      refine h.perform (fun sender message same => ?_) around drawn looked
      subst same
      cases arrives

end Agent

theorem consentedOver_iff (h : a.Committed) (acts : List Act) :
    a.ConsentedOver acts ↔ a.AgreesOver acts := by
  induction acts generalizing a with
  | nil => exact Iff.rfl
  | cons act rest ih =>
    have now : (∀ x ∈ act.arrival?, Consented a (a.does act) x.message.thread) ↔
        ∀ x ∈ act.arrival?, a.Agrees x := by
      apply forall₂_congr
      intro x arrives
      rw [Agent.does_of_arrival arrives]
      exact consented_iff_agrees h x
    unfold Agent.ConsentedOver Agent.AgreesOver
    rw [now]
    exact and_congr_right fun agrees => ih (h.does agrees)

/-- In any run of an agent, with any messages from anybody, its wallet is spent as it has agreed just
when no message settles on other terms. -/
theorem wallet_consented_iff (config : Config) (notes : List Note) (acts : List Act) :
    (Agent.new config notes).ConsentedOver acts ↔ (Agent.new config notes).AgreesOver acts :=
  consentedOver_iff (by simp [Agent.Committed, Agent.new]) acts

namespace Market

def victim : Agent := .new (Config.new giver) [coin]

/-- Mallory asks for one, with herself as the witness. -/
def asking : Act := .perform (.receive mallory ⟨⟨"sale"⟩, .request
  ⟨one, "credit", mallory, some giver, some mallory, .unset⟩⟩) .calm 0 0

/-- Without an answer she sends a receipt that names the coin. -/
def robbing : Act := .perform (.receive mallory ⟨⟨"sale"⟩, .giverReceipt
  ⟨⟨"sale"⟩, one, "credit", mallory, giver, mallory, [coin], [], .epoch⟩⟩) .calm 0 0

end Market

/-- A receipt for a request that was never accepted takes a coin that was never reserved. -/
theorem wallet_robbed_by_receipt : ¬Market.victim.ConsentedOver [Market.asking, Market.robbing] := by
  rintro ⟨-, consented, -⟩
  have before : (Market.victim.does Market.asking).wallet.held = [⟨Market.coin, none⟩] := by
    decide +kernel
  have after : ((Market.victim.does Market.asking).does Market.robbing).wallet.held = [] := by
    decide +kernel
  have held : Market.coin.entry ∈ (Market.victim.does Market.asking).wallet.entries := by
    rw [Holding.entries, before]
    exact List.mem_singleton.mpr rfl
  have stays := ((consented _ rfl).untouched _ held (by simp [Note.entry])).1
  simp [Holding.stock, Holding.entries, after] at stays

end WitnessedTransfer
