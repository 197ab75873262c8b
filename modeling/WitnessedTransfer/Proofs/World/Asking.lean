import WitnessedTransfer.Proofs.Record.Demand
import WitnessedTransfer.Proofs.World.Agreement

/-! Runs in which anybody can also write to an agent, under any name: offers can come at any time, and
again and again. What a getter waits for is then what it has asked for last, and what the others hold to
is what they have heard first. -/
namespace WitnessedTransfer

inductive Happening where
  | among (occurrence : Occurrence)
  | written (recipient sender : Did) (message : Message) (source : Source)

def Happening.source? : Happening → Option Source
  | .among occurrence => occurrence.source?
  | .written _ _ _ source => some source

namespace World

def happen (w : World) : Happening → World
  | .among occurrence => w.undergo occurrence
  | .written recipient sender message source =>
    match w.agent? recipient with
    | none => w
    | some a => (w.handle source a ⟨sender, message⟩).2

def pass (w : World) (course : List Happening) : World := course.foldl happen w

def does? (w : World) : Happening → Option (Did × Operation)
  | .among (.deliver n _) => w.traffic[n]?.bind fun p =>
    if p.dispatch.failure = none then
      some (p.dispatch.recipient, .receive p.sender p.dispatch.message)
    else none
  | .among (.call did op _) => if op.isLocal then some (did, op) else none
  | .among (.rewire _) => none
  | .written recipient sender message _ => some (recipient, .receive sender message)

/-- Whenever an agent is to ask for a payment, it knows no transfer of the name that it draws. -/
def NamesAnew (w : World) : List Happening → Prop
  | [] => True
  | happening :: rest =>
    (∀ source ∈ happening.source?, ∀ did op, w.does? happening = some (did, op) → op.Creates →
      w.record? did ⟨source.fresh w.drawn⟩ = none) ∧ (w.happen happening).NamesAnew rest

/-- What an agent has asked for last in a transfer. -/
def asked? (w : World) (did : Did) (id : TransferId) : Option Demand :=
  lastDemand id ((w.traffic.filter (·.sender = did)).map Parcel.dispatch)

def hears? (w : World) (did : Did) (id : TransferId) (happening : Happening) : Option Demand :=
  (w.does? happening).bind fun d => if d.1 = did then d.2.demand? id else none

/-- What an agent was asked for when it has come to know of a transfer. -/
def heard? (w : World) (did : Did) (id : TransferId) : List Happening → Option Demand
  | [] => none
  | happening :: rest =>
    if (w.happen happening).record? did id = none then (w.happen happening).heard? did id rest
    else w.hears? did id happening

def AwaitsLast (w : World) : Prop :=
  ∀ did id r, w.record? did id = some r → r.Asking → w.asked? did id = some r.demand

variable {w : World} {did : Did} {id : TransferId} {r : Record}

theorem Performs.does? {occurrence : Occurrence} {me : Did} {op : Operation}
    (performs : w.Performs occurrence me op) : w.does? (.among occurrence) = some (me, op) := by
  cases performs with
  | deliver sent clear => simp [World.does?, sent, clear]
  | call own => simp [World.does?, own]

/-- Nothing comes of what happens, or the network changes, or an agent performs an operation. -/
theorem happen_cases (w : World) (happening : Happening) :
    (∃ change, w.happen happening = w.changeNetwork change) ∨
      ∃ me op source a, w.does? happening = some (me, op) ∧ happening.source? = some source ∧
        w.agent? me = some a ∧ w.happen happening = (w.act source a op.step).2 := by
  cases happening with
  | among occurrence =>
    refine (undergo_cases w occurrence).imp_right ?_
    rintro ⟨me, op, source, a, performs, here, drawing, acts⟩
    exact ⟨me, op, source, a, performs.does?, drawing, here, acts⟩
  | written recipient sender message source =>
    cases here : w.agent? recipient with
    | none => exact .inl ⟨id, by simp [World.happen, here, changeNetwork]⟩
    | some a =>
      refine .inr ⟨recipient, _, source, a, rfl, rfl, here, ?_⟩
      rw [World.happen, here]
      exact (act_map source w a (Step.receive sender message) Outcome.record).symm

/-- An agent has asked last for what it asks for in a step, if it asks for anything. -/
theorem asked?_act {α : Type} {source : Source} {a : Agent} {step : Step α} {sent : List Dispatch}
    (sends : (step.perform ⟨w.network.obstacle, source.fresh, source.instant⟩
      ⟨a, w.drawn, w.looked, []⟩).2.sent = sent) (did : Did) (id : TransferId) :
    (w.act source a step).2.asked? did id =
      if did = a.did then (lastDemand id sent).or (w.asked? did id) else w.asked? did id := by
  have traffic : (w.act source a step).2.traffic = w.traffic ++ sent.map (⟨a.did, ·⟩) := by
    rw [← sends]
    rfl
  rw [asked?, traffic, List.filter_append, List.map_append, lastDemand_append, List.filter_map, ← asked?]
  split
  next this => simp [this, Function.comp_def]
  next other => simp [Ne.symm other, Function.comp_def]

/-! ### What one happening does -/

theorem AwaitsLast.happen {happening : Happening} (h : w.AwaitsLast)
    (anew : ∀ source ∈ happening.source?, ∀ did op, w.does? happening = some (did, op) → op.Creates →
      w.record? did ⟨source.fresh w.drawn⟩ = none) : (w.happen happening).AwaitsLast := by
  rcases happen_cases w happening with ⟨change, same⟩ | ⟨me, op, source, a, does, drawing, here, acts⟩
  · rw [same]
    exact h
  · intro did id r stored asking
    let around : Surroundings := ⟨w.network.obstacle, source.fresh, source.instant⟩
    have unknown (creates : op.Creates) : a.records.get? ⟨source.fresh w.drawn⟩ = none := by
      rw [← record?_of_agent here]
      exact anew source drawing me op does creates
    obtain ⟨sent, sends, awaits⟩ :=
      Step.ensures_perform (op.step_awaits around ⟨a, w.drawn, w.looked, []⟩ unknown)
    rw [List.nil_append] at sends
    rw [acts, record?, agent?_act here] at stored
    rw [acts, asked?_act sends, agent?_did here]
    split at stored
    next this =>
      rw [if_pos this]
      rcases awaits id r stored asking with asked | ⟨silent, old⟩
      · rw [asked, Option.some_or]
      · rw [silent, Option.none_or]
        exact h did id r (by rw [this, record?_of_agent here, old]) asking
    next other =>
      rw [if_neg other]
      exact h did id r stored asking

/-- No transfer is forgotten, and a request that is taken down is one that the agent has heard, of a
transfer that it did not know. -/
theorem happen_hears (w : World) (happening : Happening) (did : Did) (id : TransferId) :
    ((w.happen happening).record? did id = none → w.record? did id = none) ∧
    ∀ r, (w.happen happening).record? did id = some r → r.state = .requestReceived →
      w.record? did id = some r ∨ w.record? did id = none ∧ w.hears? did id happening = some r.demand := by
  rcases happen_cases w happening with ⟨change, same⟩ | ⟨me, op, source, a, does, -, here, acts⟩
  · rw [same]
    exact ⟨fun unknown => unknown, fun r stored _ => .inl stored⟩
  · have hears := Step.ensures_perform (op.step_hears
      ⟨w.network.obstacle, source.fresh, source.instant⟩ ⟨a, w.drawn, w.looked, []⟩)
    rw [acts, record?, agent?_act here]
    split
    next this =>
      have told : w.hears? did id happening = op.demand? id := by
        rw [hears?, does, Option.bind_some, if_pos this.symm]
      rw [told, this, record?_of_agent here]
      exact ⟨hears.unknown id, hears.heard id⟩
    next => exact ⟨fun unknown => unknown, fun r stored _ => .inl stored⟩

/-! ### Whole runs -/

theorem AwaitsLast.pass {course : List Happening} (h : w.AwaitsLast) (anew : w.NamesAnew course) :
    (w.pass course).AwaitsLast := by
  induction course generalizing w with
  | nil => exact h
  | cons first rest ih => exact ih (h.happen anew.1) anew.2

theorem Begun.awaitsLast (begun : w.Begun) : w.AwaitsLast := by
  intro did id r stored
  rw [begun.record?] at stored
  cases stored

/-- A request that was taken down and waits is the one by which the transfer has become known. -/
theorem pass_heard {course : List Happening} (stored : (w.pass course).record? did id = some r)
    (state : r.state = .requestReceived) :
    w.record? did id = some r ∨
      w.record? did id = none ∧ w.heard? did id course = some r.demand := by
  induction course generalizing w with
  | nil => exact .inl stored
  | cons first rest ih =>
    obtain ⟨unknown, hears⟩ := happen_hears w first did id
    rcases ih stored with known | ⟨still_unknown, heard⟩
    · refine (hears r known state).imp_right ?_
      rintro ⟨unknown, asked⟩
      exact ⟨unknown, by rw [heard?, known, if_neg (by simp), asked]⟩
    · exact .inr ⟨unknown still_unknown, by rw [heard?, if_pos still_unknown, heard]⟩

/-- Only a call makes an agent ask for a payment of its own. -/
theorem call_of_creates {happening : Happening} {me : Did} {op : Operation}
    (does : w.does? happening = some (me, op)) (creates : op.Creates) :
    ∃ source, happening = .among (.call me op source) := by
  obtain ⟨_, _, _, _, _, rfl⟩ := creates
  cases happening with
  | written => cases does
  | among occurrence =>
    cases occurrence with
    | deliver n source =>
      obtain ⟨p, -, performs⟩ := Option.bind_eq_some_iff.mp does
      split at performs <;> cases performs
    | call did op source =>
      simp only [does?] at does
      split at does <;> cases does
      exact ⟨source, rfl⟩
    | rewire => cases does

theorem namesAnew_of_uncalled {course : List Happening}
    (uncalled : ∀ me op source, .among (.call me op source) ∈ course → ¬op.Creates) :
    w.NamesAnew course := by
  induction course generalizing w with
  | nil => trivial
  | cons first rest ih =>
    refine ⟨fun _ _ me op does creates => ?_, ih fun me op source later =>
      uncalled me op source (List.mem_cons_of_mem _ later)⟩
    obtain ⟨source, rfl⟩ := call_of_creates does creates
    exact absurd creates (uncalled me op source List.mem_cons_self)

/-- The first request of a run bears a new name. -/
theorem Begun.namesAnew {happening : Happening} {rest : List Happening} (begun : w.Begun)
    (uncalled : ∀ me op source, .among (.call me op source) ∈ rest → ¬op.Creates) :
    w.NamesAnew (happening :: rest) :=
  ⟨fun _ _ _ _ _ _ => begun.record? _ _, namesAnew_of_uncalled uncalled⟩

end World

/-- Getter and witness agree on what is asked for just when the other has first heard of the
transfer by the request that was sent last. -/
theorem request_agreement_iff {w : World} (begun : w.Begun) {course : List Happening}
    (anew : w.NamesAnew course) {getter party : Did} {id : TransferId} {r r' : Record}
    (stored : (w.pass course).record? getter id = some r) (role : r.role = .getter)
    (state : r.state = .requestSent) (stored' : (w.pass course).record? party id = some r')
    (state' : r'.state = .requestReceived) :
    (r'.transfer.amount ≈ r.transfer.amount ∧ r'.transfer.unit = r.transfer.unit ∧
      r'.transfer.timeouts = r.transfer.timeouts) ↔
    ∃ heard ∈ w.heard? party id course, ∃ last ∈ (w.pass course).asked? getter id, heard.Same last := by
  have asked := begun.awaitsLast.pass anew getter id r stored ⟨role, state⟩
  rcases World.pass_heard stored' state' with known | ⟨-, heard⟩
  · rw [begun.record?] at known
    cases known
  · rw [asked, heard]
    constructor
    · exact fun same => ⟨_, rfl, _, rfl, same⟩
    · rintro ⟨_, ⟨⟩, _, ⟨⟩, same⟩
      exact same

namespace Market

def requesting : List Happening := [
  .among (.call getter (.createRequest five (some witness) (some giver) none none) source),
  .among (.deliver 0 source), .among (.deliver 1 source)]

/-- The giver answers with an offer of one. The getter accepts it, and asks both of them for one. -/
def haggling : List Happening := requesting ++ [
  .written getter giver ⟨⟨"0"⟩, .offer ⟨one, "credit", giver, some getter, some witness, .unset⟩⟩ source,
  .among (.call getter (.acceptOffer ⟨"0"⟩ none none) source),
  .among (.deliver 2 source), .among (.deliver 3 source)]

theorem haggling_anew : opening.NamesAnew haggling :=
  opening_begun.namesAnew (by simp +contextual [Operation.Creates])

end Market

theorem request_agreement_market : ∃ r r',
    (Market.opening.pass Market.requesting).record? Market.getter ⟨"0"⟩ = some r ∧
      (Market.opening.pass Market.requesting).record? Market.witness ⟨"0"⟩ = some r' ∧
      r'.transfer.amount ≈ r.transfer.amount := by
  have waiting : ((Market.opening.pass Market.requesting).record? Market.getter ⟨"0"⟩).any
      (fun r => r.role = .getter ∧ r.state = .requestSent) = true := by decide +kernel
  have requested : ((Market.opening.pass Market.requesting).record? Market.witness ⟨"0"⟩).any
      (fun r => r.state = .requestReceived) = true := by decide +kernel
  simp only [Option.any_eq_true, decide_eq_true_eq] at waiting requested
  obtain ⟨r, stored, role, state⟩ := waiting
  obtain ⟨r', stored', state'⟩ := requested
  refine ⟨r, r', stored, stored', ?_⟩
  have anew : Market.opening.NamesAnew Market.requesting :=
    Market.opening_begun.namesAnew (by simp [Operation.Creates])
  have heard : Market.opening.heard? Market.witness ⟨"0"⟩ Market.requesting =
      some Market.request.demand := by decide +kernel
  have asked : (Market.opening.pass Market.requesting).asked? Market.getter ⟨"0"⟩ =
      some Market.request.demand := by decide +kernel
  exact ((request_agreement_iff Market.opening_begun anew stored role state stored' state').mpr
    ⟨_, heard, _, asked, Decimal.equiv_refl _, rfl, rfl⟩).1

/-- All that was sent is delivered, and the getter waits to be paid one, while the witness and the giver
hold to five. -/
theorem request_disagreement_by_offer : Market.opening.Begun ∧
    Market.opening.NamesAnew Market.haggling ∧
    (∀ n < (Market.opening.pass Market.haggling).traffic.length,
      .among (.deliver n Market.source) ∈ Market.haggling) ∧
    ¬Market.five ≈ Market.one ∧
    (∃ r, (Market.opening.pass Market.haggling).record? Market.getter ⟨"0"⟩ = some r ∧
      r.role = .getter ∧ r.state = .requestSent ∧ r.transfer.amount = Market.one) ∧
    ∀ party ∈ [Market.witness, Market.giver],
      ∃ r, (Market.opening.pass Market.haggling).record? party ⟨"0"⟩ = some r ∧
        r.state = .requestReceived ∧ r.transfer.amount = Market.five := by
  have length : (Market.opening.pass Market.haggling).traffic.length = 4 := by decide +kernel
  have waiting : ((Market.opening.pass Market.haggling).record? Market.getter ⟨"0"⟩).any
      (fun r => r.role = .getter ∧ r.state = .requestSent ∧ r.transfer.amount = Market.one) = true := by
    decide +kernel
  have requested : ∀ party ∈ [Market.witness, Market.giver],
      ((Market.opening.pass Market.haggling).record? party ⟨"0"⟩).any
        (fun r => r.state = .requestReceived ∧ r.transfer.amount = Market.five) = true := by
    decide +kernel
  simp only [Option.any_eq_true, decide_eq_true_eq] at waiting requested
  refine ⟨Market.opening_begun, Market.haggling_anew, fun n sent => ?_, by decide, waiting, requested⟩
  rw [length] at sent
  have : n = 0 ∨ n = 1 ∨ n = 2 ∨ n = 3 := by omega
  rcases this with rfl | rfl | rfl | rfl <;> simp [Market.haggling, Market.requesting]

end WitnessedTransfer
