import Mathlib.Data.List.Induction
import WitnessedTransfer.Proofs.Deed.Runs
import WitnessedTransfer.World.Basic

/-! Runs of agents on one network. Whatever was sent and not held up can be delivered at any time,
again and again, under the name of its sender; between that anything can be asked of an agent, and
the network can change in any way. What every deed preserves holds after every run. -/
namespace WitnessedTransfer

def Operation.isLocal : Operation → Bool
  | .receive .. => false
  | _ => true

inductive Occurrence where
  /-- A message is delivered that was sent as the n-th. -/
  | deliver (n : Nat) (source : Source)
  | call (did : Did) (op : Operation) (source : Source)
  | rewire (change : Network → Network)

def Occurrence.source? : Occurrence → Option Source
  | .deliver _ source | .call _ _ source => some source
  | .rewire _ => none

namespace World

/-- Nothing has been sent, and no agent has done anything. -/
structure Begun (w : World) : Prop where
  silent : w.traffic = []
  new : ∀ a ∈ w.agents, ∃ config notes, a = .new config notes

def undergo (w : World) : Occurrence → World
  | .deliver n source =>
    match w.traffic[n]? with
    | none => w
    | some p =>
      match p.dispatch.failure, w.agent? p.dispatch.recipient with
      | none, some a => (w.handle source a ⟨p.sender, p.dispatch.message⟩).2
      | _, _ => w
  | .call did op source =>
    match w.agent? did with
    | none => w
    | some a => if op.isLocal then (w.act source a op.step).2 else w
  | .rewire change => w.changeNetwork change

def play (w : World) (course : List Occurrence) : World := course.foldl undergo w

/-! ### What is known of a world -/

def record? (w : World) (did : Did) (id : TransferId) : Option Record :=
  (w.agent? did).bind (·.records.get? id)

def Arrived (w : World) (sender recipient : Did) (id : TransferId) (body : Body) : Prop :=
  ∃ d, ⟨sender, d⟩ ∈ w.traffic ∧ d.failure = none ∧ d.recipient = recipient ∧ d.message = ⟨id, body⟩

theorem record?_congr {w w' : World} (agents : ∀ did, w'.agent? did = w.agent? did) :
    w'.record? = w.record? := by
  funext did id
  rw [record?, agents, record?]

theorem arrived_congr {w w' : World} (traffic : w'.traffic = w.traffic) {sender recipient : Did}
    {id : TransferId} {body : Body} :
    w'.Arrived sender recipient id body ↔ w.Arrived sender recipient id body := by
  rw [Arrived, traffic, Arrived]

section
variable {w : World} (begun : w.Begun)
include begun

theorem Begun.record? (did : Did) (id : TransferId) : w.record? did id = none := by
  unfold World.record?
  cases here : w.agent? did with
  | none => rfl
  | some a =>
    obtain ⟨config, notes, rfl⟩ := begun.new a (List.mem_of_find?_eq_some here)
    rfl

theorem Begun.not_arrived {sender recipient : Did} {id : TransferId} {body : Body} :
    ¬w.Arrived sender recipient id body := by
  rintro ⟨d, mem, -⟩
  rw [begun.silent] at mem
  cases mem

end

theorem agent?_did {w : World} {did : Did} {a : Agent} (here : w.agent? did = some a) :
    a.did = did := by
  simpa using List.find?_some here

/-- What is looked up in a world is what its agents have stored. -/
theorem record?_of_agent {w : World} {did : Did} {a : Agent} (here : w.agent? did = some a) :
    w.record? did = a.records.get? := by
  funext id
  rw [record?, here, Option.bind_some]

theorem find?_insertAgent (a : Agent) (agents : List Agent) (did : Did) :
    (insertAgent a agents).find? (·.did = did) =
      if did = a.did then some a else agents.find? (·.did = did) := by
  induction agents with
  | nil =>
    by_cases this : a.did = did
    · simp [insertAgent, this]
    · simp [insertAgent, this, Ne.symm this]
  | cons first rest ih =>
    unfold insertAgent
    by_cases this : a.did = did
    · subst this
      split
      next => simp
      next apart =>
        split
        next => simp
        next => simp [Ne.symm apart, ih]
    · simp only [Ne.symm this, if_false] at ih ⊢
      split
      next same => simp [← same, this]
      next =>
        split
        next => simp [this]
        next => rw [List.find?_cons, List.find?_cons, ih]

def amid (w : World) (s : Scene) : World :=
  { w.setAgent s.agent with traffic := w.traffic ++ s.sent.map (⟨s.agent.did, ·⟩) }

theorem agent?_amid (w : World) (s : Scene) (did : Did) :
    (w.amid s).agent? did = if did = s.agent.did then some s.agent else w.agent? did :=
  find?_insertAgent s.agent w.agents did

theorem here_amid (w : World) (s : Scene) : (w.amid s).agent? s.agent.did = some s.agent := by
  rw [agent?_amid, if_pos rfl]

theorem record?_amid (w : World) (s : Scene) (did : Did) (id : TransferId) :
    (w.amid s).record? did id =
      if did = s.agent.did then s.agent.records.get? id else w.record? did id := by
  unfold record?
  rw [agent?_amid]
  split <;> rfl

theorem Arrived.amid {w : World} {sender recipient : Did} {id : TransferId} {body : Body}
    (arrived : w.Arrived sender recipient id body) (s : Scene) :
    (w.amid s).Arrived sender recipient id body := by
  obtain ⟨d, mem, rest⟩ := arrived
  exact ⟨d, List.mem_append_left _ mem, rest⟩

section
variable {w : World} {around : Surroundings} {op : Operation} {s s' : Scene} {party : Did}
  {id : TransferId} {r : Record}

theorem known_amid (stored : s.agent.records.get? id = some r) :
    (w.amid s).record? s.agent.did id = some r := by
  rw [record?_amid, if_pos rfl, stored]

/-- What is stored after a deed was stored before, or the deed has stored it. -/
theorem stored_amid (deed : Deed around op s s') (stored : (w.amid s').record? party id = some r) :
    (w.amid s).record? party id = some r ∨
      party = s.agent.did ∧ r.id = id ∧ Stores around op s.agent r := by
  have did : s'.agent.did = s.agent.did := congrArg Config.did deed.config
  rw [record?_amid, did] at stored
  rw [record?_amid]
  split at stored
  next this =>
    rw [if_pos this]
    exact (deed.writes.stores stored).imp_right fun stores => ⟨this, RecordStore.get?_id stored, stores⟩
  next other =>
    rw [if_neg other]
    exact .inl stored

/-- What was stored before a deed is stored after it, or the deed has moved it on. -/
theorem kept_amid (deed : Deed around op s s') (stored : (w.amid s).record? party id = some r) :
    (w.amid s').record? party id = some r ∨ ∃ versions wallet ledger sent,
      Move around op s.agent r versions wallet ledger sent ∧
        (w.amid s').record? party id = some (versions.getLastD r) := by
  have did : s'.agent.did = s.agent.did := congrArg Config.did deed.config
  rw [record?_amid] at stored
  rw [record?_amid, did]
  split at stored
  next this =>
    rw [if_pos this]
    exact deed.writes.stored stored
  next other =>
    rw [if_neg other]
    exact .inl stored

/-- What has arrived stays so. -/
theorem Arrived.after {sender recipient : Did} {body : Body} (deed : Deed around op s s')
    (arrived : (w.amid s).Arrived sender recipient id body) :
    (w.amid s').Arrived sender recipient id body := by
  have did : s'.agent.did = s.agent.did := congrArg Config.did deed.config
  obtain ⟨d, mem, rest⟩ := arrived
  refine ⟨d, ?_, rest⟩
  rw [World.amid, List.mem_append] at mem ⊢
  rw [did]
  exact mem.imp_right fun new => (deed.sent.map _).subset new

/-- What has arrived after a deed had arrived before, or the deed has sent it. -/
theorem arrived_amid {sender recipient : Did} {body : Body} (deed : Deed around op s s')
    (arrived : (w.amid s').Arrived sender recipient id body) :
    (w.amid s).Arrived sender recipient id body ∨ sender = s.agent.did ∧
      ∃ d : Dispatch, d.failure = none ∧ d.recipient = recipient ∧ d.message = ⟨id, body⟩ ∧
        (d.Loose s.agent.did ∨ ∃ r versions wallet ledger sent, d ∈ sent ∧
          s.agent.records.get? r.id = some r ∧ Move around op s.agent r versions wallet ledger sent ∧
          (w.amid s').record? s.agent.did r.id = some (versions.getLastD r)) := by
  have did : s'.agent.did = s.agent.did := congrArg Config.did deed.config
  obtain ⟨sent, sends, origin⟩ := deed.sends
  obtain ⟨d, mem, clear, recipient, message⟩ := arrived
  rw [amid, sends, List.map_append, ← List.append_assoc, did] at mem
  rcases List.mem_append.mp mem with old | new
  · exact .inl ⟨d, old, clear, recipient, message⟩
  · obtain ⟨d', mem', same⟩ := List.mem_map.mp new
    obtain ⟨rfl, rfl⟩ := Parcel.mk.inj same
    refine .inr ⟨rfl, d', clear, recipient, message, ?_⟩
    rcases origin with loose | ⟨r, versions, wallet, ledger, stored, move, last⟩
    · exact .inl (loose d' mem')
    · exact .inr ⟨r, versions, wallet, ledger, sent, mem', stored, move, did ▸ known_amid last⟩

end

def Founded (w : World) (me : Did) (op : Operation) : Prop :=
  ∀ sender id body, op.Takes sender id body →
    w.Arrived sender me id body ∨ ∃ request, body = .request request

inductive Performs (w : World) : Occurrence → Did → Operation → Prop where
  | deliver {n : Nat} {source : Source} {p : Parcel} (sent : w.traffic[n]? = some p)
    (clear : p.dispatch.failure = none) :
    Performs w (.deliver n source) p.dispatch.recipient (.receive p.sender p.dispatch.message)
  | call {did : Did} {op : Operation} {source : Source} (own : op.isLocal = true) :
    Performs w (.call did op source) did op

theorem Performs.founded {w : World} {occurrence : Occurrence} {me : Did} {op : Operation}
    (performs : w.Performs occurrence me op) : w.Founded me op := by
  intro sender id body takes
  cases performs with
  | @deliver n source p sent clear =>
    obtain ⟨rfl, message⟩ := takes.eq_of_receive
    exact .inl ⟨p.dispatch, List.mem_of_getElem? sent, clear, rfl, message⟩
  | call own =>
    cases takes with
    | receive => cases own
    | witnessRequest => exact .inr ⟨_, rfl⟩

/-- What an agent gives back makes no difference to the world. -/
theorem act_map {α β : Type} (source : Source) (w : World) (a : Agent) (x : Step α) (f : α → β) :
    (w.act source a (x >>= fun r => pure (f r))).2 = (w.act source a x).2 := by
  simp only [act, Step.perform_bind]
  split
  next performed => rw [performed]; rfl
  next performed => rw [performed]

/-- Nothing comes of what happens, or the network changes, or an agent performs an operation. -/
theorem undergo_cases (w : World) (occurrence : Occurrence) :
    (∃ change, w.undergo occurrence = w.changeNetwork change) ∨
      ∃ me op source a, w.Performs occurrence me op ∧ w.agent? me = some a ∧
        occurrence.source? = some source ∧ w.undergo occurrence = (w.act source a op.step).2 := by
  have idle : ∃ change, w = w.changeNetwork change := ⟨id, rfl⟩
  cases occurrence with
  | deliver n source =>
    simp only [undergo]
    split
    next => exact .inl idle
    next p sent =>
      split
      next a clear here =>
        exact .inr ⟨_, _, source, a, .deliver sent clear, here, rfl,
          (act_map source w a (Step.receive p.sender p.dispatch.message) Outcome.record).symm⟩
      next => exact .inl idle
  | call did op source =>
    simp only [undergo]
    split
    next => exact .inl idle
    next a here =>
      split
      next own => exact .inr ⟨did, op, source, a, .call own, here, rfl, rfl⟩
      next => exact .inl idle
  | rewire change => exact .inl ⟨change, rfl⟩

section
variable {P : World → Prop} {w : World} {me : Did} {op : Operation}
  (same : ∀ w w', (∀ did, agent? w' did = agent? w did) → traffic w' = traffic w → P w → P w')
  (each : ∀ around s s', s.agent.did = me → P (amid w s) → Deed around op s s' → P (amid w s'))

include each in
theorem preserve_deeds {around : Surroundings} {s s' : Scene} (deeds : Deeds around op s s')
    (did : s.agent.did = me) (h : P (w.amid s)) : P (w.amid s') ∧ s'.agent.did = me := by
  induction deeds with
  | @still s s' still =>
    have amid : w.amid s' = w.amid s := by
      simp [World.amid, still.agent, still.sent]
    rw [amid, still.agent]
    exact ⟨h, did⟩
  | step deed _ ih =>
    have did' := congrArg Config.did deed.config
    exact ih (did'.trans did) (each _ _ _ did h deed)

include same in
/-- What depends on the agents and on what was sent is after an act as it is in its last scene. -/
theorem preserve_step {α : Type} {source : Source} {a : Agent} {step : Step α} (did : a.did = me)
    (here : w.agent? me = some a)
    (go : ∀ around, P (w.amid ⟨a, w.drawn, w.looked, []⟩) →
      step.Ensures around ⟨a, w.drawn, w.looked, []⟩ fun _ s' => P (w.amid s') ∧ s'.agent.did = me)
    (h : P w) : P (w.act source a step).2 := by
  let start : Scene := ⟨a, w.drawn, w.looked, []⟩
  have before : P (w.amid start) := by
    refine same w _ (fun did => ?_) (by simp [amid, start]) h
    rw [agent?_amid]
    split
    next this => rw [this, ‹a.did = me›]; exact here.symm
    next => rfl
  obtain ⟨after, did'⟩ := Step.ensures_perform (go _ before)
  refine same (w.amid _) _ (fun _ => rfl) ?_ after
  exact congrArg (fun did => w.traffic ++ List.map (⟨did, ·⟩) _) (did.trans did'.symm)

include same each in
theorem preserve_act {source : Source} {a : Agent} (did : a.did = me) (here : w.agent? me = some a)
    (h : P w) : P (w.act source a op.step).2 :=
  preserve_step same did here (fun around before => (op.step_deeds around _).mono fun _ _ deeds =>
    preserve_deeds each deeds did before) h

end

section
variable {P : World → Prop}
  (same : ∀ w w', (∀ did, agent? w' did = agent? w did) → traffic w' = traffic w → P w → P w')

include same in
/-- What every deed preserves of those that an occurrence leads to, it preserves. -/
theorem undergo_invariant {w : World} {occurrence : Occurrence}
    (each : ∀ me op, w.Performs occurrence me op → ∀ around s s', s.agent.did = me →
      P (amid w s) → Deed around op s s' → P (amid w s')) (h : P w) : P (w.undergo occurrence) := by
  rcases undergo_cases w occurrence with ⟨change, same_agents⟩ | ⟨me, op, source, a, performs, here, -, acts⟩
  · rw [same_agents]
    exact same w _ (fun _ => rfl) rfl h
  · rw [acts]
    exact preserve_act same (each me op performs) (agent?_did here) here h

include same in
/-- What every deed preserves, and what depends on the agents and on what was sent, holds after
every run. -/
theorem play_invariant {w : World}
    (each : ∀ w around op s s', P (amid w s) → Deed around op s s' → Founded w s.agent.did op →
      P (amid w s')) (course : List Occurrence) (h : P w) : P (w.play course) := by
  induction course generalizing w with
  | nil => exact h
  | cons occurrence rest ih =>
    refine ih (undergo_invariant same (fun me op performs around s s' did h deed => ?_) h)
    exact each w around op s s' h deed (did ▸ performs.founded)

end

/-! ### One agent in a world -/

theorem agent?_act {w : World} {me : Did} {a : Agent} (here : w.agent? me = some a) (source : Source)
    (op : Operation) (did : Did) : (w.act source a op.step).2.agent? did =
      if did = me then
        some (a.perform op ⟨w.network.obstacle, source.fresh, source.instant⟩ w.drawn w.looked)
      else w.agent? did := by
  have same : (a.perform op ⟨w.network.obstacle, source.fresh, source.instant⟩ w.drawn w.looked).did = me :=
    (congrArg Config.did (a.perform_config op _ _ _)).trans (agent?_did here)
  refine (find?_insertAgent _ w.agents did).trans ?_
  rw [← same]
  rfl

/-- What an agent of a world is after a run it has become by its own operations. -/
theorem play_becomes {w : World} (course : List Occurrence) {did : Did} {b : Agent}
    (here : (w.play course).agent? did = some b) : ∃ a, w.agent? did = some a ∧ a.Becomes b := by
  induction course using List.reverseRecOn generalizing b with
  | nil => exact ⟨b, here, .refl⟩
  | append_singleton before occurrence ih =>
    rw [play, List.foldl_append, ← play] at here
    rcases undergo_cases (w.play before) occurrence with ⟨change, same⟩ |
      ⟨me, op, source, a, -, acting, -, acts⟩
    · apply ih
      rw [← here]
      exact (congrArg (agent? · did) same).symm
    · have after : some b = _ := here.symm.trans ((congrArg (agent? · did) acts).trans
        (agent?_act acting source op did))
      split at after
      next this =>
        obtain ⟨a₀, before_all, later⟩ := ih (this ▸ acting)
        cases after
        exact ⟨a₀, before_all, later.next op _ _ _⟩
      next => exact ih after.symm

end World
end WitnessedTransfer
