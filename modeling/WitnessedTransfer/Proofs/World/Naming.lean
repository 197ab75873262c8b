import Mathlib.Data.List.Pairwise
import WitnessedTransfer.Proofs.Step.Coining
import WitnessedTransfer.Proofs.World.Runs

/-! Names between agents. All of them draw from one supply, and a message coins only names that its
sender has drawn for it. So whatever is delivered again and again, every name was coined by one message. -/
namespace WitnessedTransfer

/-- Whoever takes part draws names from this supply. -/
def Occurrence.Draws (fresh : Nat → String) (occurrence : Occurrence) : Prop :=
  ∀ source ∈ occurrence.source?, source.fresh = fresh

namespace World

def Coined (fresh : Nat → String) (w : World) : Prop :=
  Drawn fresh 0 w.drawn (w.traffic.flatMap fun p => p.dispatch.message.coined)

def Distinct (w : World) : Prop :=
  ∀ p ∈ w.traffic, ∀ q ∈ w.traffic, ∀ name ∈ p.dispatch.message.coined,
    name ∈ q.dispatch.message.coined → p = q

variable {fresh : Nat → String} {w : World}

theorem Begun.coined (begun : w.Begun) (fresh : Nat → String) : w.Coined fresh := by
  unfold Coined
  rw [begun.silent]
  exact drawn_nil (Nat.zero_le _)

theorem Coined.act {source : Source} {a : Agent} (op : Operation) (h : w.Coined source.fresh) :
    (w.act source a op.step).2.Coined source.fresh := by
  let around : Surroundings := ⟨w.network.obstacle, source.fresh, source.instant⟩
  let start : Scene := ⟨a, w.drawn, w.looked, []⟩
  obtain ⟨sent, sends, drawn⟩ := (op.step_coins around).holds start
  have traffic : (w.act source a op.step).2.traffic = w.traffic ++ sent.map (⟨a.did, ·⟩) :=
    congrArg (fun sent : List Dispatch => w.traffic ++ sent.map (⟨a.did, ·⟩)) sends
  unfold Coined
  rw [traffic, List.flatMap_append, List.flatMap_map]
  exact Drawn.append h drawn

theorem Coined.undergo {occurrence : Occurrence} (h : w.Coined fresh) (draws : occurrence.Draws fresh) :
    (w.undergo occurrence).Coined fresh := by
  rcases undergo_cases w occurrence with ⟨change, same⟩ | ⟨me, op, source, a, -, -, drawing, acts⟩
  · rw [same]
    exact h
  · obtain rfl := draws source drawing
    rw [acts]
    exact h.act op

theorem Coined.play (h : w.Coined fresh) {course : List Occurrence}
    (draws : ∀ occurrence ∈ course, occurrence.Draws fresh) : (w.play course).Coined fresh := by
  induction course generalizing w with
  | nil => exact h
  | cons first rest ih =>
    obtain ⟨now, later⟩ := List.forall_mem_cons.mp draws
    exact ih (h.undergo now) later

/-- If no name is ever drawn twice, none is coined by two messages. -/
theorem Coined.distinct (h : w.Coined fresh) (injective : Function.Injective fresh) : w.Distinct := by
  obtain ⟨-, apart⟩ := List.nodup_flatMap.mp (Drawn.nodup h injective)
  intro p sent q sent' name mem mem'
  by_contra other
  have symmetric : Std.Symm (Function.onFun List.Disjoint fun p : Parcel => p.dispatch.message.coined) :=
    ⟨fun _ _ disjoint _ mem mem' => disjoint mem' mem⟩
  exact apart.forall sent sent' other mem mem'

/-- Of what has arrived, too, every name was coined by one message. -/
theorem Distinct.arrived_eq (h : w.Distinct) {sender sender' recipient recipient' : Did}
    {id id' : TransferId} {body body' : Body} {name : String}
    (arrived : w.Arrived sender recipient id body) (arrived' : w.Arrived sender' recipient' id' body')
    (coined : name ∈ Message.coined ⟨id, body⟩) (coined' : name ∈ Message.coined ⟨id', body'⟩) :
    id = id' ∧ body = body' := by
  obtain ⟨d, sent, -, -, message⟩ := arrived
  obtain ⟨d', sent', -, -, message'⟩ := arrived'
  have same := h _ sent _ sent' name (message ▸ coined) (message' ▸ coined')
  obtain ⟨-, rfl⟩ := Parcel.mk.inj same
  exact Message.mk.inj (message.symm.trans message')

/-- What every name stands for later it stands for before. -/
theorem Distinct.before {around : Surroundings} {op : Operation} {s s' : Scene}
    (deed : Deed around op s s') (h : (w.amid s').Distinct) : (w.amid s).Distinct := by
  have did : s'.agent.did = s.agent.did := congrArg Config.did deed.config
  have earlier : (w.amid s).traffic ⊆ (w.amid s').traffic := by
    intro p sent
    rw [World.amid, List.mem_append] at sent ⊢
    rw [did]
    exact sent.imp_right fun new => (deed.sent.map _).subset new
  exact fun p sent q sent' => h p (earlier sent) q (earlier sent')

end World
end WitnessedTransfer
