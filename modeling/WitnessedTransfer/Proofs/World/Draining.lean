import Mathlib.Data.Prod.Lex
import Mathlib.Logic.Relation
import Mathlib.Order.WellFounded
import WitnessedTransfer.Proofs.Record.Weight
import WitnessedTransfer.Proofs.World.Runs

/-! Messages die out. When agents only take what waits in their inboxes, in any order and one message
after another, then every delivery makes the world lighter: fewer offers wait, or fewer messages that can
open a transfer, or the transfers have come further, or there is one message less. -/
namespace WitnessedTransfer

theorem Body.tier_le (body : Body) : body.tier ≤ 2 := by
  cases body <;> simp [tier]

def Station.waiting (tier : ℕ) (s : Station) : ℕ :=
  (s.inbox.elim [] Inbox.queue).countP (·.message.body.tier = tier)

def arriving (sent : List Dispatch) (tier : ℕ) : ℕ :=
  sent.countP fun d => d.failure = none ∧ d.message.body.tier = tier

theorem arriving_eq_zero {sent : List Dispatch} {tier : ℕ}
    (none_such : ∀ d ∈ sent, d.failure = none → d.message.body.tier ≠ tier) : arriving sent tier = 0 := by
  simpa [arriving, List.countP_eq_zero] using none_such

/-- Nothing arrives of a tier above the lowest that is not below the message's. -/
theorem Scene.Eases.none_arriving {tier other : ℕ} {s s' : Scene} {sent : List Dispatch}
    (eases : s.Eases tier s' sent) (heavy : tier ≤ other) (pos : 0 < other) : arriving sent other = 0 := by
  apply arriving_eq_zero
  intro d mem clear same
  have lower := eases.lower d mem clear
  omega

theorem arriving_of_lost {sent : List Dispatch} (lost : ∀ d ∈ sent, d.failure.isSome) (tier : ℕ) :
    arriving sent tier = 0 := by
  apply arriving_eq_zero
  intro d mem clear
  have failed := lost d mem
  simp [clear] at failed

namespace Network

variable {n n' : Network} {did : Did}

def waiting (n : Network) (tier : ℕ) : ℕ := tally Station.did (Station.waiting tier) n.stations

theorem station?_change {f : Station → Station} (same : ∀ s, (f s).did = s.did) (k : Did) :
    (n.change did f).station? k = if k = did then (n.station? did).map f else n.station? k := by
  have kept : ((fun s : Station => decide (s.did = k)) ∘ fun s => if s.did = did then f s else s) =
      fun s => decide (s.did = k) := by
    funext s
    by_cases here : s.did = did <;> simp [here, same]
  simp only [station?, change, List.find?_map, kept]
  split
  next here =>
    subst here
    cases found : n.stations.find? (·.did = k) with
    | none => rfl
    | some s =>
      have named : s.did = k := by simpa using List.find?_some found
      simp [named]
  next other =>
    cases found : n.stations.find? (·.did = k) with
    | none => rfl
    | some s =>
      have named : s.did = k := by simpa using List.find?_some found
      simp [named, other]

theorem waiting_change (n : Network) (did : Did) (tier : ℕ) {f : Station → Station}
    (same : ∀ s, (f s).did = s.did) :
    (n.change did f).waiting tier + (n.station? did).elim 0 (Station.waiting tier) =
      n.waiting tier + ((n.station? did).map f).elim 0 (Station.waiting tier) :=
  tally_change Station.did (Station.waiting tier) (station?_change same)

/-- A message that is taken out of an inbox no longer waits. -/
theorem waiting_take {place : ℕ} {envelope : Envelope}
    (taken : n.take? did place = some (envelope, n')) (tier : ℕ) :
    n'.waiting tier + (if envelope.message.body.tier = tier then 1 else 0) = n.waiting tier := by
  simp only [take?, bind, Option.bind_eq_some_iff, pure, Option.some.injEq, Prod.mk.injEq] at taken
  obtain ⟨inbox, here, _, found, rfl, rfl⟩ := taken
  obtain ⟨s, station, inside⟩ := Option.bind_eq_some_iff.mp here
  obtain ⟨bound, rfl⟩ := List.getElem?_eq_some_iff.mp found
  have change := n.waiting_change did tier
    (f := ({ · with inbox := some ⟨inbox.queue.eraseIdx place, some inbox.queue[place]⟩ })) fun _ => rfl
  have counts := (List.getElem_cons_eraseIdx_perm bound).countP_eq (·.message.body.tier = tier)
  rw [List.countP_cons] at counts
  simp only [station, Option.map_some, Option.elim_some, Station.waiting, inside, decide_eq_true_eq]
    at change counts
  omega

theorem waiting_deliver (n : Network) (sender : Did) (d : Dispatch) (tier : ℕ) :
    (n.deliver sender d).waiting tier ≤
      n.waiting tier + (if d.failure = none ∧ d.message.body.tier = tier then 1 else 0) := by
  unfold deliver
  cases failure : d.failure with
  | some _ => simp
  | none =>
    have change := n.waiting_change d.recipient tier
      (f := fun s => { s with inbox := s.inbox.map fun i =>
        { i with queue := i.queue ++ [⟨sender, d.message⟩] } }) fun _ => rfl
    cases station : n.station? d.recipient with
    | none =>
      simp only [station, Option.map_none, Option.elim_none] at change
      simp only [true_and]
      omega
    | some s =>
      cases inside : s.inbox <;>
        simp [station, Station.waiting, inside, List.countP_append, List.countP_cons] at change ⊢ <;>
        omega

theorem waiting_carry (n : Network) (sender : Did) (sent : List Dispatch) (tier : ℕ) :
    (n.carry sender sent).waiting tier ≤ n.waiting tier + arriving sent tier := by
  induction sent generalizing n with
  | nil => exact Nat.le_refl _
  | cons d rest ih =>
    have first := n.waiting_deliver sender d tier
    have others := ih (n.deliver sender d)
    rw [carry, List.foldl_cons, ← carry, arriving, List.countP_cons, ← arriving]
    simp only [decide_eq_true_eq]
    omega

end Network

namespace World

variable {w w' : World}

inductive Delivers (w : World) : World → Prop where
  | delivered {did : Did} {place : ℕ} {agent : Agent} {envelope : Envelope} {network : Network}
    (here : w.agent? did = some agent)
    (taken : w.network.take? did place = some (envelope, network)) (source : Source) :
    Delivers w ({ w with network }.handle source agent envelope).2

def Quiet (w : World) : Prop :=
  ∀ did, (w.agent? did).isSome → ∀ inbox ∈ w.network.inbox? did, inbox.queue = []

def ahead (w : World) : ℕ := tally Agent.did Agent.ahead w.agents

/-- What a delivery takes from, the heaviest first. -/
def load (w : World) : ℕ ×ₗ ℕ ×ₗ ℕ ×ₗ ℕ :=
  toLex (w.network.waiting 2, toLex (w.network.waiting 1, toLex (w.ahead, w.network.waiting 0)))

theorem load_lt_iff : w'.load < w.load ↔
    w'.network.waiting 2 < w.network.waiting 2 ∨ w'.network.waiting 2 = w.network.waiting 2 ∧
      (w'.network.waiting 1 < w.network.waiting 1 ∨ w'.network.waiting 1 = w.network.waiting 1 ∧
        (w'.ahead < w.ahead ∨ w'.ahead = w.ahead ∧ w'.network.waiting 0 < w.network.waiting 0)) := by
  simp only [load, Prod.Lex.toLex_lt_toLex]

/-- What comes of a message that an agent takes. -/
theorem handle_eases (w : World) (source : Source) {agent : Agent} (envelope : Envelope) {did : Did}
    (here : w.agent? did = some agent) :
    ∃ s sent, Scene.Eases envelope.message.body.tier ⟨agent, w.drawn, w.looked, []⟩ s sent ∧
      (w.handle source agent envelope).2.network = w.network.carry agent.did sent ∧
      (w.handle source agent envelope).2.ahead + agent.ahead = w.ahead + s.agent.ahead := by
  let around : Surroundings := ⟨w.network.obstacle, source.fresh, source.instant⟩
  let start : Scene := ⟨agent, w.drawn, w.looked, []⟩
  let after : Scene := ((Step.receive envelope.sender envelope.message).perform around start).2
  have deeds : Deeds around (.receive envelope.sender envelope.message) start after :=
    Step.ensures_perform (Step.receive_deeds rfl)
  obtain ⟨sent, eases⟩ := deeds.eases
  have did_kept : after.agent.did = did :=
    (congrArg Config.did (deeds.preserve (P := fun b => b.config = agent.config)
      (fun _ _ h deed => deed.config.trans h) rfl)).trans (agent?_did here)
  refine ⟨after, sent, eases, ?_, ?_⟩
  · exact congrArg (w.network.carry agent.did) eases.adds
  · have found : w.agents.find? (·.did = after.agent.did) = some agent := did_kept ▸ here
    have change := tally_change Agent.did Agent.ahead (find?_insertAgent after.agent w.agents)
    rw [found] at change
    exact change

/-- Every delivery makes the world lighter. -/
theorem Delivers.load_lt (delivers : w.Delivers w') : w'.load < w.load := by
  obtain ⟨here, taken, source⟩ := delivers
  rename_i did place agent envelope network
  obtain ⟨s, sent, eases, carried, moved⟩ := handle_eases { w with network } source envelope here
  generalize (({ w with network } : World).handle source agent envelope).2 = after at carried moved ⊢
  have moved : after.ahead + agent.ahead = w.ahead + s.agent.ahead := moved
  have falls (tier : ℕ) : after.network.waiting tier +
      (if envelope.message.body.tier = tier then 1 else 0) ≤ w.network.waiting tier + arriving sent tier := by
    have carries : after.network.waiting tier ≤ network.waiting tier + arriving sent tier :=
      carried ▸ network.waiting_carry agent.did sent tier
    have takes := Network.waiting_take taken tier
    omega
  have two := falls 2
  rw [eases.none_arriving envelope.message.body.tier_le Nat.two_pos] at two
  have one := falls 1
  rw [load_lt_iff]
  obtain heavy | middle | lowest : envelope.message.body.tier = 2 ∨ envelope.message.body.tier = 1 ∨
      envelope.message.body.tier = 0 := by
    have bound := envelope.message.body.tier_le
    omega
  · simp only [heavy, if_true] at two
    omega
  · rw [eases.none_arriving middle.le Nat.one_pos] at one
    simp only [middle, if_true] at one two
    omega
  · rw [eases.none_arriving (lowest ▸ Nat.zero_le 1) Nat.one_pos] at one
    rcases eases.spends lowest with (less : s.agent.ahead < agent.ahead) |
      ⟨(same : s.agent.ahead = agent.ahead), lost⟩
    · omega
    · have nought := falls 0
      rw [arriving_of_lost lost] at nought
      simp only [lowest, if_true] at nought
      omega

/-- As long as an agent has a message in its inbox it can take it. -/
theorem quiet_iff : w.Quiet ↔ ∀ w', ¬w.Delivers w' := by
  constructor
  · rintro quiet w' ⟨here, taken, source⟩
    simp only [Network.take?, bind, Option.bind_eq_some_iff] at taken
    obtain ⟨inbox, inside, envelope, found, -⟩ := taken
    rw [quiet _ (here ▸ rfl) inbox inside] at found
    cases found
  · intro stuck did known inbox inside
    obtain ⟨agent, here⟩ := Option.isSome_iff_exists.mp known
    cases waits : inbox.queue with
    | nil => rfl
    | cons envelope rest =>
      have taken : w.network.take? did 0 = some (envelope, w.network.change did
          ({ · with inbox := some ⟨rest, some envelope⟩ })) := by
        have inside : w.network.inbox? did = some inbox := inside
        simp [Network.take?, inside, waits]
      exact absurd (.delivered here taken ⟨fun _ => "", fun _ => .epoch⟩) (stuck _)

theorem delivers_wellFounded : WellFounded fun w' w : World => w.Delivers w' :=
  Subrelation.wf Delivers.load_lt (InvImage.wf load wellFounded_lt)

/-- Deliveries cannot go on for ever, whatever is taken next, and stop just when every inbox is
empty. -/
theorem deliveries_die_out (w : World) :
    (¬∃ course : ℕ → World, course 0 = w ∧ ∀ n, (course n).Delivers (course (n + 1))) ∧
    (w.Quiet ↔ ∀ w', ¬w.Delivers w') ∧
    ∃ w', Relation.ReflTransGen Delivers w w' ∧ w'.Quiet := by
  refine ⟨?_, quiet_iff, ?_⟩
  · rintro ⟨course, -, goes_on⟩
    have : IsWellFounded World fun w' w => w.Delivers w' := ⟨delivers_wellFounded⟩
    obtain ⟨n, ends⟩ := WellFounded.not_rel_apply_succ (r := fun w' w : World => w.Delivers w') course
    exact ends (goes_on n)
  · induction w using delivers_wellFounded.induction with
    | _ w ih =>
      by_cases quiet : w.Quiet
      · exact ⟨w, .refl, quiet⟩
      · obtain ⟨next, delivers⟩ := not_forall_not.mp (quiet_iff.not.mp quiet)
        obtain ⟨w', later, quiet'⟩ := ih next delivers
        exact ⟨w', .head delivers later, quiet'⟩

end World
end WitnessedTransfer
