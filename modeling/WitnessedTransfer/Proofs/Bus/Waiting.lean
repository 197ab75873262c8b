import WitnessedTransfer.Proofs.Bus.Turns

/-! A wait for the end of a transfer. Once the end is stored, and published if the wait has read the store before,
it is found, however many events are missed, unless the record is taken back from its end. -/
namespace WitnessedTransfer

namespace WaitKind

theorem terminal_eager : terminal.Eager := by
  intro store id r stored final
  simp only [terminal] at final ⊢
  simp only [stored, final, if_true]

theorem terminal_hears {id : TransferId} {r : Record} (named : r.id = id) (final : r.isTerminal = true) :
    terminal.hears id (.stateChanged r) = some r := by
  simp [terminal, named, final]

/-- What a wait for the end of a transfer finds is a record of it at its end. -/
theorem Found.terminal {first : Wait} {x : Exchange} {r : Record} (found : WaitKind.terminal.Found first x r) :
    r.id = first.id ∧ r.isTerminal = true := by
  cases found with
  | stored stored done same =>
    cases same
    exact ⟨RecordStore.get?_id stored, done⟩
  | @heard k event since there decides =>
    cases event with
    | stateChanged record =>
      simp only [WaitKind.terminal, Bool.and_eq_true, decide_eq_true_eq] at decides
      split at decides
      next fits =>
        cases decides
        exact fits
      next => cases decides
    | cashMinted | tableReceived => cases decides

end WaitKind

namespace Vigil

/-- A wait for the end of a transfer begins: it has subscribed, and knows its deadline. -/
def forTerminal (x : Exchange) (id : TransferId) (milliseconds : Nat) : Vigil .terminal :=
  ⟨x, .reading (.start id x.bus.subscribe x.clock milliseconds)⟩

/-- The end of a transfer is known after these turns: it is stored when the wait begins, or it is stored and
published since, before the deadline. -/
inductive Announced (x : Exchange) (id : TransferId) (milliseconds : Nat) : List WaitTurn → Prop where
  | stored (final : WaitKind.terminal.DoneIn x.records id) : Announced x id milliseconds []
  | emitted {before : List WaitTurn}
    (final : WaitKind.terminal.DoneIn ((forTerminal x id milliseconds).play before).exchange.records id)
    (inTime : ((forTerminal x id milliseconds).play before).exchange.clock < x.clock + milliseconds) :
    Announced x id milliseconds (before ++ [.emit id])
  /-- The record that is published has been read before. -/
  | published {before : List WaitTurn} {r : Record}
    (final : WaitKind.terminal.DoneIn ((forTerminal x id milliseconds).play before).exchange.records id)
    (inTime : ((forTerminal x id milliseconds).play before).exchange.clock < x.clock + milliseconds)
    (named : r.id = id) (ended : r.isTerminal = true) :
    Announced x id milliseconds (before ++ [.publish (.stateChanged r)])

variable {x : Exchange} {id : TransferId} {milliseconds k : Nat} {known : Record} {before course : List WaitTurn}
  {v : Vigil .terminal} {first : Wait}

theorem forTerminal_stays (stored : x.records.get? id = some known) (milliseconds : Nat) :
    (forTerminal x id milliseconds).Stays (.start id x.bus.subscribe x.clock milliseconds) :=
  .reading WaitKind.terminal_eager stored ⟨rfl, Nat.le_refl _, Nat.le_refl _⟩

theorem terminal_whole : ¬v.CutShort := by
  rintro ⟨w, gone, -, spent, -⟩
  cases spent

/-- Whoever begins to wait comes upon an end that is known, after few looks. -/
theorem Announced.assured (announced : Announced x id milliseconds before) (stored : x.records.get? id = some known) :
    ∃ k, ((forTerminal x id milliseconds).play before).Assured (.start id x.bus.subscribe x.clock milliseconds) k ∧
      ((forTerminal x id milliseconds).play before).waiter.remaining k ≤
        ((forTerminal x id milliseconds).play before).exchange.bus.published - x.bus.published + 1 := by
  have stays := forTerminal_stays stored milliseconds
  have told {v : Vigil .terminal} {r : Record} (stays : v.Stays (.start id x.bus.subscribe x.clock milliseconds))
      (final : WaitKind.terminal.DoneIn v.exchange.records id) (inTime : v.exchange.clock < x.clock + milliseconds)
      (named : r.id = id) (ended : r.isTerminal = true) :
      ∃ k, (v.take (.publish (.stateChanged r))).Assured (.start id x.bus.subscribe x.clock milliseconds) k ∧
        (v.take (.publish (.stateChanged r))).waiter.remaining k ≤
          (v.take (.publish (.stateChanged r))).exchange.bus.published - x.bus.published + 1 := by
    obtain ⟨k, last, assured, few⟩ := stays.publish final inTime (WaitKind.terminal_hears named ended)
    exact ⟨k, assured, last ▸ few⟩
  cases announced with
  | stored final => exact ⟨0, ⟨stays, final, .reading⟩, Nat.le_add_left ..⟩
  | published final inTime named ended =>
    rw [play_concat]
    exact told (stays.play _) final inTime named ended
  | @emitted before final inTime =>
    obtain ⟨r, stored, ended⟩ := final
    rw [play_concat, take_emit stored]
    exact told (stays.play before) ⟨r, stored, ended⟩ inTime (RecordStore.get?_id stored) ended

end Vigil

/-- A wait for the end of a transfer finds it or runs out of time; the end is found if it is
announced in time and not taken back. -/
theorem wait_finds_end {x : Exchange} {id : TransferId} {known : Record}
    (stored : x.records.get? id = some known) (milliseconds : Nat) (course : List WaitTurn) :
    let wait := Vigil.forTerminal x id milliseconds
    Waiter.ComesTo x.bus x.records x.clock wait.waiter
      (.ofProgress (Wait.forTerminal x.bus x.records x.clock id milliseconds)) ∧
    (∀ outcome, (wait.play course).outcome? = some outcome →
      (∃ r, outcome = .ok r ∧ r.id = id ∧ r.isTerminal = true) ∨
      outcome = .error (.timeout id milliseconds) ∧ x.clock + milliseconds ≤ (wait.play course).exchange.clock) ∧
    (∀ before after, course = before ++ after → Vigil.Announced x id milliseconds before →
      (∀ turn ∈ after, turn.Keeps .terminal id) →
      (∀ outcome, (wait.play course).outcome? = some outcome →
        ∃ r, outcome = .ok r ∧ r.id = id ∧ r.isTerminal = true) ∧
      ((wait.play before).exchange.bus.published - x.bus.published + 1 ≤ after.count .look →
        ∃ r, (wait.play course).outcome? = some (.ok r))) ∧
    ∀ (a : Agent) op around drawn looked, Agent.Turns .terminal id a (a.perform op around drawn looked) := by
  intro wait
  have ends {outcome : Except Failure Record} (ended : (wait.play course).outcome? = some outcome) :
      (∃ r, outcome = .ok r ∧ r.id = id ∧ r.isTerminal = true) ∨
      outcome = .error (.timeout id milliseconds) ∧ x.clock + milliseconds ≤ (wait.play course).exchange.clock := by
    rcases (Vigil.forTerminal_stays stored milliseconds).ends rfl ended with ⟨r, _, _, rfl, -, -, found⟩ | late
    · exact .inl ⟨r, rfl, found.terminal⟩
    · exact .inr late
  refine ⟨Waiter.look_forTerminal .., fun _ => ends, ?_,
    fun a op around drawn looked => a.perform_turns WaitKind.terminal_final op around drawn looked id⟩
  rintro before after rfl announced keeps
  obtain ⟨k, assured, few⟩ := announced.assured stored
  have never_up (cause : Failure) : (wait.play (before ++ after)).outcome? ≠ some (.error cause) := by
    rw [Vigil.play_append]
    intro up
    obtain ⟨part, -, short⟩ := (assured.gives_up_iff keeps).mp ⟨cause, up⟩
    exact Vigil.terminal_whole short
  refine ⟨fun outcome ended => ?_, fun enough => ?_⟩
  · rcases ends ended with found | ⟨rfl, -⟩
    · exact found
    · exact absurd ended (never_up _)
  · obtain ⟨outcome, ended⟩ := assured.ends keeps (Nat.le_trans few enough)
    rw [← Vigil.play_append] at ended
    cases outcome with
    | ok r => exact ⟨r, ended⟩
    | error cause => exact absurd ended (never_up cause)

namespace Flood

def payment (state : TransferState) : Record :=
  .new .giver (.new ⟨"sale"⟩ state .zero "credit") ⟨"did:example:giver"⟩ .epoch

/-- A bus that keeps a single event. -/
def narrow : Exchange := .new 1 ⟨[payment .requestAcceptedSent], [(⟨"sale"⟩, ⟨"sale"⟩)], []⟩

def paid : List WaitTurn := [.look, .update (payment .completed)]

def backAgain : WaitTurn := .update (payment .requestAcceptedSent)

def told : WaitTurn := .publish (.stateChanged (payment .completed))

/-- Other events push the end of the payment out, and the wait looks after its deadline only. -/
def lateLooks : List WaitTurn :=
  [.publish (.cashMinted ⟨"one"⟩), .publish (.cashMinted ⟨"other"⟩), .advance 100] ++ List.replicate 4 .look

end Flood

/-- A wait that has missed the end of its transfer, and has the time to look again only when its time is up,
finds it still. -/
theorem wait_finds_end_flooded : ∃ r, ((Vigil.forTerminal Flood.narrow ⟨"sale"⟩ 100).play
    ((Flood.paid ++ [.emit ⟨"sale"⟩]) ++ Flood.lateLooks)).outcome? = some (.ok r) :=
  ((wait_finds_end (show _ = some (Flood.payment .requestAcceptedSent) by decide) 100 _).2.2.1 _ Flood.lateLooks rfl
    (.emitted ⟨Flood.payment .completed, by decide, by decide⟩ (by decide))
    (by simp [Flood.lateLooks, WaitTurn.Keeps])).2 (by decide)

/-- The end of a payment is stored and published in time, but the record is taken back from it
before the wait looks, and the wait runs out. -/
theorem end_taken_back :
    let wait := Vigil.forTerminal Flood.narrow ⟨"sale"⟩ 100
    Vigil.Announced Flood.narrow ⟨"sale"⟩ 100 (Flood.paid ++ [.emit ⟨"sale"⟩]) ∧
    (wait.play ((Flood.paid ++ [.emit ⟨"sale"⟩]) ++ Flood.backAgain :: Flood.lateLooks)).outcome? =
      some (.error (.timeout ⟨"sale"⟩ 100)) ∧
    (wait.play (Flood.paid ++ [Flood.backAgain, Flood.told] ++ Flood.lateLooks)).outcome? =
      some (.error (.timeout ⟨"sale"⟩ 100)) :=
  ⟨.emitted ⟨Flood.payment .completed, by decide, by decide⟩ (by decide), by decide +kernel, by decide +kernel⟩

end WitnessedTransfer
