import WitnessedTransfer.Proofs.Bus.Turns

/-! A wait for a mint that has been confirmed. It comes upon the confirmation, however many events it misses,
unless a look is cut short: when a sitting is over and its time is up, it gives up before it is there. -/
namespace WitnessedTransfer

namespace WaitKind

theorem mint_hears (id : TransferId) : mint.hears id (.cashMinted id) = some () := if_pos rfl

/-- What a wait for a mint finds is the confirmation, or the mint at its end. -/
theorem Found.mint {first : Wait} {x : Exchange} (found : WaitKind.mint.Found first x ()) :
    (∃ k, first.subscription.next ≤ k ∧ x.bus.log[k]? = some (.cashMinted first.id)) ∨
      Wait.isCompleted x.records first.id = true := by
  cases found with
  | stored stored done => exact .inr (mint_doneIn_iff.mp ⟨_, stored, done⟩)
  | @heard k event since there decides =>
    cases event with
    | cashMinted minted =>
      simp only [WaitKind.mint] at decides
      split at decides
      next same => exact .inl ⟨k, since, same ▸ there⟩
      next => cases decides
    | stateChanged | tableReceived => cases decides

end WaitKind

namespace Vigil

/-- A wait for a mint begins on a subscription, and knows its deadline. -/
def forMint (x : Exchange) (s : Subscription) (id : TransferId) (milliseconds : Nat) : Vigil .mint :=
  ⟨x, .listening (.start id s x.clock milliseconds) 0⟩

/-- The mint is confirmed after these turns, and is at its end: since the subscription was taken and before the
wait begins, or during the wait and before its deadline. -/
inductive Confirmed (x : Exchange) (s : Subscription) (id : TransferId) (milliseconds : Nat) :
    List WaitTurn → Prop where
  | before {k : Nat} (since : s.next ≤ k) (there : x.bus.log[k]? = some (.cashMinted id))
    (completed : Wait.isCompleted x.records id = true) : Confirmed x s id milliseconds []
  | during {before : List WaitTurn}
    (completed : Wait.isCompleted ((forMint x s id milliseconds).play before).exchange.records id = true)
    (inTime : ((forMint x s id milliseconds).play before).exchange.clock < x.clock + milliseconds) :
    Confirmed x s id milliseconds (before ++ [.publish (.cashMinted id)])

variable {x : Exchange} {s : Subscription} {id : TransferId} {milliseconds : Nat}

theorem forMint_stays (attached : s.detached = false) (behind : s.next ≤ x.bus.published) :
    (forMint x s id milliseconds).Stays (.start id s x.clock milliseconds) :=
  .listening ⟨attached, Nat.le_refl _, behind⟩

/-- Two looks for each event are enough. -/
theorem mint_looks_le {n : Nat} (some_more : 0 < n) : WaitKind.mint.looks n ≤ 2 * n := by
  simp only [WaitKind.looks, WaitKind.mint, Option.elim_some, Wait.sitting]
  omega

/-- Whoever waits when a mint is confirmed comes upon that, unless the wait is cut short. -/
theorem Confirmed.assured {before : List WaitTurn} (attached : s.detached = false)
    (behind : s.next ≤ x.bus.published) (confirmed : Confirmed x s id milliseconds before) :
    ∃ k, k < ((forMint x s id milliseconds).play before).exchange.bus.published ∧
      ((forMint x s id milliseconds).play before).Assured (.start id s x.clock milliseconds) k ∧
      ((forMint x s id milliseconds).play before).waiter.remaining k ≤ 2 * (k + 1 - s.next) := by
  have stays : (forMint x s id milliseconds).Stays (.start id s x.clock milliseconds) :=
    forMint_stays attached behind
  cases confirmed with
  | @before k since there completed =>
    have done := WaitKind.mint_doneIn_iff.mpr completed
    have remaining : (forMint x s id milliseconds).waiter.remaining k = WaitKind.mint.looks (k + 1 - s.next) := by
      simp [forMint, Waiter.remaining, Wait.start]
    exact ⟨k, (List.getElem?_eq_some_iff.mp there).1,
      ⟨stays, done, .listening since there (WaitKind.mint_hears id)⟩,
      remaining ▸ mint_looks_le (Nat.sub_pos_of_lt (Nat.lt_succ_of_le since))⟩
  | @during before completed inTime =>
    have done := WaitKind.mint_doneIn_iff.mpr completed
    obtain ⟨k, last, assured, few⟩ := (stays.play before).publish done inTime (WaitKind.mint_hears id)
    have published : ((forMint x s id milliseconds).play before).exchange.bus.published = k :=
      (Nat.succ.inj (last.trans List.length_append)).symm
    have longer := (play_log (forMint x s id milliseconds) before).length_le
    have since : s.next ≤ k := published ▸ Nat.le_trans behind longer
    rw [play_concat]
    exact ⟨k, Nat.lt_of_succ_le (Nat.le_of_eq last), assured,
      Nat.le_trans few (mint_looks_le (Nat.sub_pos_of_lt (Nat.lt_succ_of_le since)))⟩

end Vigil

/-- A wait for a mint that has been confirmed in time, and stays at its end, gives up just when
a look is cut short. -/
theorem mint_confirmed_iff {x : Exchange} {s : Subscription} (attached : s.detached = false)
    (behind : s.next ≤ x.bus.published) (id : TransferId) (milliseconds : Nat) (course : List WaitTurn) :
    let wait := Vigil.forMint x s id milliseconds
    Waiter.ComesTo x.bus x.records x.clock wait.waiter
      (.ofProgress (Wait.forMint x.bus x.records x.clock s id milliseconds)) ∧
    (∀ outcome, (wait.play course).outcome? = some outcome →
      (outcome = .ok () ∧ ∃ before after, course = before ++ .look :: after ∧ (wait.play before).outcome? = none ∧
        ((∃ k, s.next ≤ k ∧ (wait.play before).exchange.bus.log[k]? = some (.cashMinted id)) ∨
          Wait.isCompleted (wait.play before).exchange.records id = true)) ∨
      outcome = .error (.timeout id milliseconds) ∧
        x.clock + milliseconds ≤ (wait.play course).exchange.clock) ∧
    (∀ before after, course = before ++ after → Vigil.Confirmed x s id milliseconds before →
      (∀ turn ∈ after, turn.Keeps .mint id) →
      ((∃ cause, (wait.play course).outcome? = some (.error cause)) ↔
        ∃ part, part ++ [.look] <+: after ∧ (wait.play (before ++ part)).CutShort) ∧
      ((wait.play before).exchange.bus.published ≤ s.next + Wait.sitting →
        ∀ part, part ++ [.look] <+: after → ¬(wait.play (before ++ part)).CutShort) ∧
      (2 * ((wait.play before).exchange.bus.published - s.next) ≤ after.count .look →
        ∃ outcome, (wait.play course).outcome? = some outcome)) ∧
    (∀ (a : Agent) op around drawn looked, Agent.Turns .mint id a (a.perform op around drawn looked)) ∧
    ∀ (a : Agent) (arrival : Arrival) response, arrival.message = ⟨id, .mintResponse response⟩ →
      Wait.isCompleted a.records id = false → Wait.isCompleted (a.take arrival).records id = true →
      ∃ r, a.records.get? id = some r ∧ a.Credits r (a.take arrival) ∧ ∃ now, ∀ clock,
        Wait.isCompleted ((a.exchange clock).undergoAll [.update (r.credited now), .emit id]).records id = true ∧
        (a.exchange clock).undergoAll [.update (r.credited now), .emit id, .publish (.cashMinted id)] =
          (a.take arrival).exchange clock := by
  intro wait
  refine ⟨Waiter.look_forMint attached behind .., fun outcome ended => ?_, ?_,
    fun a op around drawn looked => a.perform_turns WaitKind.mint_final op around drawn looked id, ?_⟩
  · have stays : wait.Stays (.start id s x.clock milliseconds) := Vigil.forMint_stays attached behind
    rcases stays.ends rfl ended with ⟨_, before, after, rfl, split, running, found⟩ | late
    · exact .inl ⟨rfl, before, after, split, running, found.mint⟩
    · exact .inr late
  · rintro before after rfl confirmed keeps
    obtain ⟨k, published, assured, left⟩ : ∃ k, k < (wait.play before).exchange.bus.published ∧
        (wait.play before).Assured (.start id s x.clock milliseconds) k ∧
        (wait.play before).waiter.remaining k ≤ 2 * (k + 1 - s.next) := confirmed.assured attached behind
    simp only [Vigil.play_append]
    refine ⟨assured.gives_up_iff keeps, fun few part within => ?_, fun enough => assured.ends keeps (by omega)⟩
    have kept : ∀ turn ∈ part, turn.Keeps .mint id := fun turn mem =>
      keeps turn (within.subset (List.mem_append_left _ mem))
    have few : WaitKind.mint.spent (k - s.next) = false := by
      have within : ¬Wait.sitting ≤ k - s.next := by
        simp only [Wait.sitting] at few ⊢
        omega
      exact decide_eq_false within
    exact (assured.play_few few kept).whole few
  · rintro a ⟨sender, _, around, drawn, looked⟩ response rfl before after
    obtain ⟨r, stored, credits⟩ := Agent.take_credits rfl before after
    obtain rfl := RecordStore.get?_id stored
    exact ⟨r, stored, credits, credits.turns stored⟩

namespace Flood

def mint (state : TransferState) : Record :=
  .new .issuer (.new ⟨"mint"⟩ state .zero "credit") ⟨"did:example:issuer"⟩ .epoch

/-- A mint has been sent, on a bus that keeps so many events. -/
def minting (capacity : Nat) : Exchange := .new capacity ⟨[mint .requestSent], [(⟨"mint"⟩, ⟨"mint"⟩)], []⟩

def minted : List WaitTurn := [.update (mint .completed), .emit ⟨"mint"⟩]

def others (n : Nat) : List WaitTurn := List.replicate n (.publish (.cashMinted ⟨"other"⟩))

end Flood

/-- A wait whose confirmation has been pushed out by other events finds the mint in the store. -/
theorem mint_confirmed_flooded :
    ((Vigil.forMint (Flood.minting 1) ⟨0, false⟩ ⟨"mint"⟩ 100).play
      ((Flood.minted ++ [.publish (.cashMinted ⟨"mint"⟩)]) ++
        (Flood.others 3 ++ List.replicate 4 .look))).outcome? = some (.ok ()) := by
  obtain ⟨-, ends, comes, -⟩ := mint_confirmed_iff (x := Flood.minting 1) (s := ⟨0, false⟩) rfl (by decide)
    ⟨"mint"⟩ 100 ((Flood.minted ++ [.publish (.cashMinted ⟨"mint"⟩)]) ++ (Flood.others 3 ++ List.replicate 4 .look))
  obtain ⟨cut, whole, enough⟩ := comes _ _ rfl (.during (by decide) (by decide))
    (by simp [Flood.others, WaitTurn.Keeps])
  obtain ⟨outcome, ended⟩ := enough (by decide)
  rcases ends outcome ended with ⟨rfl, -⟩ | ⟨rfl, -⟩
  · exact ended
  · obtain ⟨part, within, short⟩ := cut.mp ⟨_, ended⟩
    exact absurd short (whole (by decide) part within)

/-- The mint is confirmed in time, after as many other events as one sitting takes: a wait that
comes to look at the deadline only gives up. -/
theorem confirmed_mint_given_up :
    let confirmed := Flood.others Wait.sitting ++ Flood.minted ++ [.publish (.cashMinted ⟨"mint"⟩)]
    let late := (Vigil.forMint (Flood.minting 1024) ⟨0, false⟩ ⟨"mint"⟩ 100).play
      (confirmed ++ .advance 100 :: List.replicate (Wait.sitting + 1) .look)
    let full := (Flood.minting 1024).undergoAll confirmed
    Vigil.Confirmed (Flood.minting 1024) ⟨0, false⟩ ⟨"mint"⟩ 100 confirmed ∧
    late.outcome? = some (.error (.timeout ⟨"mint"⟩ 100)) ∧
    Vigil.Confirmed full ⟨0, false⟩ ⟨"mint"⟩ 0 [] ∧
    Wait.forMint full.bus full.records full.clock ⟨0, false⟩ ⟨"mint"⟩ 0 =
      .ended (.error (.timeout ⟨"mint"⟩ 0)) := by
  intro confirmed late full
  have nothing : ((Wait.start ⟨"mint"⟩ ⟨0, false⟩ full.clock 0).considered full.bus full.clock).findSome?
      (Wait.judgeMint full.records ⟨"mint"⟩ 0) = none := by
    decide +kernel
  have there : full.bus.log[129]? = some (.cashMinted ⟨"mint"⟩) := by decide +kernel
  refine ⟨.during (by decide +kernel) (by decide +kernel), by decide +kernel,
    .before (Nat.zero_le _) there (by decide +kernel), ?_⟩
  simp only [Wait.forMint, Wait.pollMint, Wait.poll, Wait.start] at nothing ⊢
  rw [nothing]
  rfl

end WitnessedTransfer
