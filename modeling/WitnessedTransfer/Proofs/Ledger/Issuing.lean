import WitnessedTransfer.Proofs.Ledger.Notarizing
import WitnessedTransfer.Proofs.Record.Replay

/-! Which mints a witness records. What makes one valid is said here as a whole. A valid one adds exactly its
notes to the ledger and is confirmed to the issuer; any other that comes from its issuer fails its transfer.
A transfer that is known is never minted again. -/
namespace WitnessedTransfer

/-- A mint issues notes of positive value and different names, all of the issuer and new to the ledger, and
worth the amount. -/
structure MintRequest.Valid (mint : MintRequest) (ledger : Holding) : Prop where
  some_notes : mint.notes ≠ []
  checked : (∀ note ∈ mint.notes, 0 < note.value.value) ∧ (mint.notes.map Note.id).Nodup
  total : ∃ minted, Note.total mint.notes = .ok minted ∧ minted ≈ mint.amount
  owned : ∀ note ∈ mint.notes, note.owner = mint.issuer
  unknown : ∀ note ∈ mint.notes, note.id ∉ ledger.ids

def MintRequest.record (mint : MintRequest) (id : TransferId) (witness : Did) (now : Instant) : Record :=
  Record.new .witness { Transfer.new id .requestReceived mint.amount mint.unit with
    getter := some mint.issuer
    witness := some witness } witness now

def Record.issued (r : Record) (notes : List Note) (now : Instant) : Record :=
  r.moved .completed (fun t => { t with outputs := notes, cashSettled := true }) now

def Holding.issued (h : Holding) (notes : List Note) : Holding :=
  ⟨h.held ++ notes.map (⟨·, none⟩), h.sequence + 1⟩

/-! ### Putting new notes in -/

namespace Holding

open Change

variable {h : Holding} {notes : List Note}

/-- Notes that are all new by name are added as they are. -/
theorem addNew_of_unknown {start sum : Decimal} (distinct : (notes.map Note.id).Nodup)
    (unknown : ∀ note ∈ notes, note.id ∉ h.ids)
    (total : (notes.map Note.value).foldlM Decimal.add start = .ok sum) :
    (addNew start notes).Makes h sum ⟨h.held ++ notes.map (⟨·, none⟩), h.sequence⟩ := by
  induction notes generalizing h start with
  | nil =>
    cases total
    exact makes_pure.mpr ⟨rfl, by simp⟩
  | cons note rest ih =>
    obtain ⟨apart, distinct⟩ := List.nodup_cons.mp distinct
    obtain ⟨new, unknown⟩ := List.forall_mem_cons.mp unknown
    obtain ⟨next, added, total⟩ := Decimal.foldlM_cons_ok total
    have unseen : ∀ other ∈ rest, other.id ∉ (h.push note).ids := by
      intro other mem seen
      have named : other.id ∈ h.ids ∨ other.id = note.id := by simpa [push, ids] using seen
      exact named.elim (unknown other mem) fun same => apart (same ▸ List.mem_map_of_mem mem)
    have makes := ih distinct unseen total
    rw [addNew_unknown new]
    exact ⟨next, added, by simpa [push] using makes⟩

/-- Notes of positive value come to something. -/
theorem total_positive {sum : Decimal} (positive : ∀ note ∈ notes, 0 < note.value.value) (some_notes : notes ≠ [])
    (total : Note.total notes = .ok sum) : 0 < sum.value := by
  obtain ⟨note, rest, rfl⟩ := List.exists_cons_of_ne_nil some_notes
  obtain ⟨less, sum', -, le⟩ := Note.total_sublist (List.singleton_sublist.mpr List.mem_cons_self)
    (fun note mem => (positive note mem).le) total
  cases (Note.total_singleton note).symm.trans sum'
  exact (positive note List.mem_cons_self).trans_le le

theorem receive_issued {sum : Decimal} (positive : ∀ note ∈ notes, 0 < note.value.value) (some_notes : notes ≠ [])
    (distinct : (notes.map Note.id).Nodup) (unknown : ∀ note ∈ notes, note.id ∉ h.ids)
    (total : Note.total notes = .ok sum) : (receive notes).Makes h sum (h.issued notes) := by
  have counted : (!sum.isZero) = true := by
    cases zero : sum.isZero with
    | false => rfl
    | true => exact absurd (Decimal.value_of_isZero zero) (total_positive positive some_notes total).ne'
  rw [receive, makes_bind]
  refine ⟨sum, _, addNew_of_unknown distinct unknown total, ?_⟩
  rw [if_pos counted]
  exact makes_bind.mpr ⟨(), _, makes_bump.mpr rfl, makes_pure.mpr ⟨rfl, rfl⟩⟩

end Holding

namespace Step

open Holding Change

variable {around : Surroundings} {s : Scene} {r : Record} {sender : Did} {id : TransferId} {mint : MintRequest}

theorem issueNotes_of_valid {h : Holding} (valid : mint.Valid h) :
    (issueNotes mint.notes).attempt h = .ok ((), h.issued mint.notes) := by
  obtain ⟨minted, total, -⟩ := valid.total
  have received := receive_issued valid.checked.1 valid.some_notes valid.checked.2 valid.unknown total
  exact attempt_of_counted (makes_bind.mpr ⟨(), h, expectUnknown_of_unknown valid.unknown,
    makes_bind.mpr ⟨minted, _, received, makes_pure.mpr ⟨rfl, rfl⟩⟩⟩)

/-- A valid mint is recorded, whether the issuer can be told or not. -/
theorem recordMint_valid (stored : s.agent.records.get? r.id = some r) (state : r.state = .requestReceived)
    (valid : mint.Valid s.agent.ledger) :
    (recordMint r mint).Ensures around s fun result s' =>
      let done := r.issued mint.notes (around.instant s.looked)
      result = (match around.obstacle mint.issuer with
        | none => .ok done
        | some failure => .error (.failure (.delivery failure))) ∧
      s'.agent = { s.agent with ledger := s.agent.ledger.issued mint.notes }.wrote done ∧
      s'.sent = s.sent ++ [s.agent.dispatch around mint.issuer
        ⟨r.id, .mintResponse ⟨mint.notes.map Note.id⟩⟩ none] := by
  obtain ⟨minted, sum, worth⟩ := valid.total
  have checked : Note.check r.id mint.notes = .ok () := Note.check_iff.mpr valid.checked
  have none_foreign : mint.notes.find? (fun note => note.owner ≠ mint.issuer) = none :=
    List.find?_eq_none.mpr fun note mem => by simpa using valid.owned note mem
  refine orRefuse_then (fun _ _ => total_passed sum ?_) fun cause refused => nomatch checked.symm.trans refused
  rw [if_neg (by simp [worth, valid.some_notes])]
  rw [none_foreign]
  refine changeLedger_passed (issueNotes_of_valid valid) ?_
  refine transition_then stored (by rw [state]; rfl) (send_then (fun clear => ?_) fun failure blocked => ?_)
  · exact ensures_pure _ ⟨by rw [clear]; rfl, rfl, rfl⟩
  · exact ⟨by rw [blocked], rfl, rfl⟩

/-- A mint that is not valid fails a check, before anything has been done. -/
theorem recordMint_checks (stored : s.agent.records.get? r.id = some r) (state : r.state = .requestReceived) :
    (recordMint r mint).Ensures around s fun result s' =>
      mint.Valid s.agent.ledger ∨ (∃ cause, result = .error (.overflow cause)) ∨
        s'.agent = s.agent ∧ s'.sent = s.sent ∧
          ∃ cause, result = .error (.failure cause) ∧ cause.isValidation = true := by
  refine orRefuse_then (fun _ checked => ?_) fun cause refused =>
    .inr (.inr ⟨rfl, rfl, cause, rfl, Note.checkAfter_error refused⟩)
  refine total_then (fun minted sum => ?_) fun cause => .inr (.inl ⟨cause, rfl⟩)
  apply guard_then (fun _ => .inr (.inr ⟨rfl, rfl, _, rfl, rfl⟩))
  intro worth
  obtain ⟨worth, some_notes⟩ : minted ≈ mint.amount ∧ mint.notes ≠ [] := by simpa using worth
  split
  next => exact refused_then (.inr (.inr ⟨rfl, rfl, _, rfl, rfl⟩))
  next none_foreign =>
    have owned : ∀ note ∈ mint.notes, note.owner = mint.issuer := fun note mem => by
      simpa using List.find?_eq_none.mp none_foreign note mem
    refine changeLedger_then (fun _ ledger issued => ?_) fun fault broken => ?_
    · have valid : mint.Valid s.agent.ledger := ⟨some_notes, Note.check_iff.mp checked, ⟨minted, sum, worth⟩, owned,
        (issueNotes_entries issued).1⟩
      refine transition_then stored (by rw [state]; rfl) (send_then (fun _ => ?_) fun _ _ => .inl valid)
      exact ensures_pure _ (.inl valid)
    · cases fault with
      | failure cause => exact .inr (.inr ⟨rfl, rfl, cause, rfl, (issueNotes_failsWith _).attempt broken⟩)
      | overflow cause => exact .inr (.inl ⟨cause, rfl⟩)

/-- A mint of another than the issuer, or of a transfer that is known, is not looked at. -/
theorem receiveMint_ignored (ignored : mint.issuer ≠ sender ∨ s.agent.records.get? id ≠ none) :
    (receiveMint sender id mint).Ensures around s fun _ s' => s' = s := by
  unfold receiveMint
  apply guard_then (fun _ => rfl)
  intro own
  apply find_then
  cases known : s.agent.records.get? id with
  | none => exact absurd known (ignored.resolve_left own)
  | some r => exact ensures_pure r rfl

section
variable (own : mint.issuer = sender) (unknown : s.agent.records.get? id = none)
include own unknown

theorem receiveMint_opens {post : Except Fault Record → Scene → Prop}
    (go : ∀ r, r = mint.record id s.agent.did (around.instant s.looked) →
      (settle r (some sender) (recordMint r mint)).Ensures around (s.look.become (s.agent.opened r)) post) :
    (receiveMint sender id mint).Ensures around s post := by
  apply guard_then (fun stray => absurd own stray)
  intro _
  apply find_then
  rw [unknown]
  refine me_then (newRecord_then (create_then (fun _ => go _ rfl) fun old known => ?_))
  exact nomatch unknown.symm.trans known

theorem receiveMint_valid (valid : mint.Valid s.agent.ledger) :
    (receiveMint sender id mint).Ensures around s fun result s' =>
      let r := mint.record id s.agent.did (around.instant s.looked)
      let done := r.issued mint.notes (around.instant (s.looked + 1))
      result = (match around.obstacle mint.issuer with
        | none => .ok done
        | some failure => .error (.failure (.delivery failure))) ∧
      s'.agent = { s.agent.opened r with ledger := s.agent.ledger.issued mint.notes }.wrote done ∧
      s'.sent = s.sent ++ [s.agent.dispatch around mint.issuer
        ⟨id, .mintResponse ⟨mint.notes.map Note.id⟩⟩ none] := by
  refine receiveMint_opens own unknown fun r same => ?_
  have named : r.id = id := by rw [same]; rfl
  have stored : (s.agent.opened r).records.get? r.id = some r := Agent.opened_stored (named ▸ unknown)
  have recorded : (recordMint r mint).Ensures around (s.look.become (s.agent.opened r)) _ :=
    recordMint_valid stored (by rw [same]; rfl) valid
  subst same
  refine ensures_tryCatch recorded (fun _ _ done => done) fun fault s' done => ?_
  obtain ⟨result, left⟩ := done
  cases blocked : around.obstacle mint.issuer with
  | none =>
    rw [blocked] at result
    cases result
  | some failure =>
    rw [blocked] at result
    cases result
    exact ensures_refuse _ ⟨rfl, left⟩

theorem receiveMint_checks :
    (receiveMint sender id mint).Ensures around s fun result s' =>
      let r := mint.record id s.agent.did (around.instant s.looked)
      mint.Valid s.agent.ledger ∨ (∃ cause, result = .error (.overflow cause)) ∨
        ∃ problem now, result = .ok (r.failed problem now) ∧ s'.agent = (s.agent.opened r).failed r problem now ∧
          s'.sent = s.sent ++ ((concerned r (some sender)).filter (· ≠ s.agent.did)).map fun did =>
            s.agent.dispatch around did ⟨id, .problemReport problem⟩ none := by
  refine receiveMint_opens own unknown fun r same => ?_
  have named : r.id = id := by rw [same]; rfl
  have stored : (s.agent.opened r).records.get? r.id = some r := Agent.opened_stored (named ▸ unknown)
  have checked : (recordMint r mint).Ensures around (s.look.become (s.agent.opened r)) _ :=
    recordMint_checks stored (by rw [same]; rfl)
  subst same
  exact settle_checks rfl stored checked

end

end Step

/-! ### Runs -/

def Act.mintsFor (id : TransferId) (act : Act) : Bool :=
  match act.arrival? with
  | some ⟨_, ⟨thread, .mint _⟩, _, _, _⟩ => thread = id
  | _ => false

/-- How often in a run minting for a transfer adds notes to the ledger. -/
def Agent.mintings (id : TransferId) (a : Agent) : List Act → Nat
  | [] => 0
  | act :: rest =>
    (if act.mintsFor id = true ∧ ∃ name ∈ (a.does act).ledger.ids, name ∉ a.ledger.ids then 1 else 0) +
      (a.does act).mintings id rest

section
variable {a : Agent} {id : TransferId} {act : Act}

theorem Act.mintsFor_arrival (mints : act.mintsFor id = true) :
    ∃ x mint, act.arrival? = some x ∧ x.message.thread = id ∧ x.message.body = .mint mint := by
  unfold mintsFor at mints
  split at mints
  next arrives => exact ⟨_, _, arrives, by simpa using mints, rfl⟩
  next => cases mints

/-- What is known stays known while it is not purged. -/
theorem Agent.does_known (known : a.records.get? id ≠ none) (kept : act ≠ .purge id) :
    (a.does act).records.get? id ≠ none := by
  cases act with
  | perform op around drawn looked =>
    obtain ⟨r, stored⟩ := Option.ne_none_iff_exists'.mp known
    obtain ⟨last, stored', -⟩ := (Becomes.next .refl op around drawn looked).onward stored
    exact fun unknown => nomatch stored'.symm.trans unknown
  | purge purged =>
    have other : id ≠ purged := fun same => kept (same ▸ rfl)
    rw [does, purge, RecordStore.get?_purge, if_neg other]
    exact known

theorem Deed.ledger_or_known {around : Surroundings} {sender : Did} {message : Message} {s s' : Scene}
    (deed : Deed around (.receive sender message) s s') (unknown : s.agent.records.get? message.thread = none) :
    s'.agent.ledger = s.agent.ledger ∨ s'.agent.records.get? message.thread ≠ none := by
  cases deed with
  | opened r _ opens leads =>
    rw [leads.agent, ← opens.thread]
    exact .inr fun missing => nomatch (Agent.opened_stored (opens.thread ▸ unknown)).symm.trans missing
  | moved r about _ _ _ _ stored | unvouched r about _ _ _ _ stored =>
    exact nomatch (about.thread_eq rfl ▸ stored).symm.trans unknown
  | told _ _ _ leads => exact .inl (by rw [leads.agent])
  | stranded r about _ _ stored | unpaid r about _ _ _ stored =>
    exact nomatch (about.thread_eq rfl ▸ stored).symm.trans unknown
  | learned _ leads | announced _ _ leads => exact .inl (by rw [leads.agent])

/-- A message that changes the ledger is about a transfer that is known then. -/
theorem Agent.take_known (a : Agent) (x : Arrival) :
    (a.take x).ledger = a.ledger ∨ (a.take x).records.get? x.message.thread ≠ none := by
  obtain ⟨s', same, deeds⟩ := a.take_deeds x
  rw [← same]
  refine deeds.preserve (P := fun b => b.ledger = a.ledger ∨ b.records.get? x.message.thread ≠ none) ?_ (.inl rfl)
  rintro s₁ s₂ before deed
  by_cases known : s₁.agent.records.get? x.message.thread = none
  · exact (deed.ledger_or_known known).imp_left (·.trans (before.resolve_right (not_not.mpr known)))
  · obtain ⟨r, stored⟩ := Option.ne_none_iff_exists'.mp known
    obtain ⟨last, stored', -⟩ := deed.writes.onward stored
    exact .inr fun unknown => nomatch stored'.symm.trans unknown

theorem Agent.mintings_of_known {acts : List Act} (known : a.records.get? id ≠ none)
    (kept : .purge id ∉ acts) : a.mintings id acts = 0 := by
  induction acts generalizing a with
  | nil => rfl
  | cons act rest ih =>
    obtain ⟨first, rest_kept⟩ := not_or.mp (mt List.mem_cons.mpr kept)
    rw [mintings, ih (does_known known (Ne.symm first)) rest_kept, if_neg]
    rintro ⟨mints, name, added, new⟩
    obtain ⟨x, mint, arrives, rfl, body⟩ := Act.mintsFor_arrival mints
    obtain ⟨r, stored⟩ := Option.ne_none_iff_exists'.mp known
    rw [does_of_arrival arrives, take_of_spent stored (by rw [body]; exact id)] at added
    exact new added

/-- While its transfer is not purged, notes are minted for it once at most. -/
theorem Agent.mintings_le_one {acts : List Act} (kept : .purge id ∉ acts) : a.mintings id acts ≤ 1 := by
  induction acts generalizing a with
  | nil => exact Nat.zero_le 1
  | cons act rest ih =>
    obtain ⟨first, rest_kept⟩ := not_or.mp (mt List.mem_cons.mpr kept)
    rw [mintings]
    split
    next adds =>
      obtain ⟨mints, name, added, new⟩ := adds
      obtain ⟨x, mint, arrives, rfl, body⟩ := Act.mintsFor_arrival mints
      rw [does_of_arrival arrives] at added ⊢
      have known := (a.take_known x).resolve_left fun same => new (same ▸ added)
      rw [mintings_of_known known rest_kept]
    next => exact (Nat.zero_add _).trans_le (ih rest_kept)

/-- Where nothing has been purged, nothing is reserved for a transfer that is not known. -/
theorem Agent.Reachable.release_of_unknown {config : Config} {notes : List Note} (reachable : Reachable config notes a)
    (unknown : a.records.get? id = none) : a.ledger.release id = a.ledger := by
  refine Holding.release_of_unreserved fun e mem reserved => ?_
  obtain ⟨r, stored, -⟩ := (reachable.inStep.reserved e mem id).mp reserved
  exact nomatch stored.symm.trans unknown

end

/-- A valid mint for an unknown transfer adds exactly its notes to the ledger and is confirmed;
any other adds none. A transfer is minted once at most. -/
theorem mint_recorded_iff_valid (a : Agent) (around : Surroundings) (drawn looked : Nat) (sender : Did)
    (id : TransferId) (mint : MintRequest) :
    let taken := (Step.receiveMint sender id mint).perform around ⟨a, drawn, looked, []⟩
    let r := mint.record id a.did (around.instant looked)
    let done := r.issued mint.notes (around.instant (looked + 1))
    (mint.issuer = sender → a.records.get? id = none → mint.Valid a.ledger →
      taken.1 = (match around.obstacle mint.issuer with
        | none => .ok done
        | some failure => .error (.failure (.delivery failure))) ∧
      taken.2.agent = { a.opened r with ledger := a.ledger.issued mint.notes }.wrote done ∧
      taken.2.agent.records.get? id = some done ∧
      taken.2.sent =
        [a.dispatch around mint.issuer ⟨id, .mintResponse ⟨mint.notes.map Note.id⟩⟩ none]) ∧
    (mint.issuer = sender → a.records.get? id = none → ¬mint.Valid a.ledger →
      (∀ cause, taken.1 ≠ .error (.overflow cause)) → ∃ problem now,
        taken.1 = .ok (r.failed problem now) ∧ taken.2.agent = (a.opened r).failed r problem now ∧
        taken.2.agent.records.get? id = some (r.failed problem now) ∧
        taken.2.agent.ledger = a.ledger.release id ∧
        taken.2.sent = ((Step.concerned r (some sender)).filter (· ≠ a.did)).map fun did =>
          a.dispatch around did ⟨id, .problemReport problem⟩ none) ∧
    (mint.issuer ≠ sender ∨ a.records.get? id ≠ none → taken.2.agent = a ∧ taken.2.sent = []) ∧
    (∀ config notes before, a = (Agent.new config notes).doesAll before → (∀ purged, .purge purged ∉ before) →
      a.records.get? id = none → a.ledger.release id = a.ledger) ∧
    ∀ acts, .purge id ∉ acts → a.mintings id acts ≤ 1 := by
  intro taken r done
  have stored {changed : Agent} {last : Record} (unknown : a.records.get? id = none) (named : last.id = id)
      (records : changed.records = (a.opened r).records) : (changed.wrote last).records.get? id = some last := by
    have opened : (a.opened r).records.get? last.id = some r := by
      rw [named]
      exact Agent.opened_stored unknown
    rw [← named]
    exact Agent.wrote_stored (records ▸ opened)
  refine ⟨fun own unknown valid => ?_, fun own unknown invalid summed => ?_, fun ignored => ?_, ?_,
    fun acts kept => Agent.mintings_le_one kept⟩
  · have recorded : (Step.receiveMint sender id mint).Ensures around ⟨a, drawn, looked, []⟩ _ :=
      Step.receiveMint_valid own unknown valid
    obtain ⟨result, agent, sent⟩ := Step.ensures_perform recorded
    exact ⟨result, agent, agent.symm ▸ stored unknown rfl rfl, sent⟩
  · have checked : (Step.receiveMint sender id mint).Ensures around ⟨a, drawn, looked, []⟩ _ :=
      Step.receiveMint_checks own unknown
    rcases Step.ensures_perform checked with
      valid | ⟨cause, panics⟩ | ⟨problem, now, result, agent, sent⟩
    · exact absurd valid invalid
    · exact absurd panics (summed cause)
    · have failed : taken.2.agent.records.get? id = some (r.failed problem now) :=
        agent.symm ▸ stored unknown rfl rfl
      exact ⟨problem, now, result, agent, failed, congrArg Agent.ledger agent, sent⟩
  · have idle : (Step.receiveMint sender id mint).Ensures around ⟨a, drawn, looked, []⟩ _ :=
      Step.receiveMint_ignored ignored
    have same := Step.ensures_perform idle
    exact ⟨congrArg Scene.agent same, congrArg Scene.sent same⟩
  · rintro config notes before rfl unpurged unknown
    exact (Agent.Reachable.start.doesAll unpurged).release_of_unknown unknown

namespace Market

def coining : MintRequest := ⟨five, "credit", giver, [coin]⟩

/-- A note of five that is said to be worth one. -/
def counterfeit : MintRequest := ⟨one, "credit", giver, [⟨⟨"fake"⟩, five, giver⟩]⟩

/-- The record of the sale is purged when the coin is reserved for it. -/
def forgotten : List Act := selling "sale" coin ++ [.purge ⟨"sale"⟩]

end Market

theorem mint_recorded_coin :
    let a := Market.start
    let mint (m : MintRequest) :=
      (Step.receiveMint Market.giver ⟨"sale mint"⟩ m).perform .calm ⟨a, 0, 0, []⟩
    (Market.coining.Valid a.ledger ∧ (mint Market.coining).2.agent.ledger = ⟨[⟨Market.coin, none⟩], 1⟩) ∧
    (¬Market.counterfeit.Valid a.ledger ∧ (mint Market.counterfeit).2.agent.ledger = a.ledger) ∧
    a.mintings ⟨"sale mint"⟩ (Market.selling "sale" Market.coin) ≤ 1 := by
  intro a mint
  have unknown : a.records.get? ⟨"sale mint"⟩ = none := by decide +kernel
  have valid : Market.coining.Valid a.ledger := {
    some_notes := by decide
    checked := by decide +kernel
    total := ⟨Market.five, by decide, by decide⟩
    owned := by decide
    unknown := by decide +kernel }
  have invalid : ¬Market.counterfeit.Valid a.ledger := by
    rintro ⟨-, -, ⟨minted, total, worth⟩, -, -⟩
    have sum : Note.total Market.counterfeit.notes = .ok Market.five := by decide +kernel
    cases sum.symm.trans total
    exact absurd worth (by decide)
  have refused : (mint Market.counterfeit).1.toOption.isSome = true := by decide +kernel
  have summed (cause : Overflow) : (mint Market.counterfeit).1 ≠ .error (.overflow cause) := by
    intro panics
    rw [panics] at refused
    cases refused
  obtain ⟨records, -⟩ :=
    mint_recorded_iff_valid a .calm 0 0 Market.giver ⟨"sale mint"⟩ Market.coining
  obtain ⟨-, fails, -, unchanged, once⟩ :=
    mint_recorded_iff_valid a .calm 0 0 Market.giver ⟨"sale mint"⟩ Market.counterfeit
  obtain ⟨-, agent, -⟩ := records rfl unknown valid
  obtain ⟨_, _, -, -, -, ledger, -⟩ := fails rfl unknown invalid summed
  refine ⟨⟨valid, congrArg Agent.ledger agent⟩, ⟨invalid, ledger.trans ?_⟩, once _ ?_⟩
  · exact unchanged (Config.new Market.witness).asWitness [] [] rfl (by simp) unknown
  · simp [Market.selling, Market.told]

/-- A mint that is refused for its total sets the coin free that the purged sale has left reserved. -/
theorem counterfeit_frees_coin :
    let a := Market.start.doesAll Market.forgotten
    let taken := (Step.receiveMint Market.giver ⟨"sale"⟩ Market.counterfeit).perform .calm ⟨a, 0, 0, []⟩
    a.records.get? ⟨"sale"⟩ = none ∧ taken.1.toOption.map Record.state = some .failed ∧
    a.ledger = ⟨[⟨Market.coin, some ⟨"sale"⟩⟩], 2⟩ ∧ taken.2.agent.ledger = ⟨[⟨Market.coin, none⟩], 3⟩ := by
  decide +kernel

end WitnessedTransfer
