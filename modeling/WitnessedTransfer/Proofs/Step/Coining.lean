import Mathlib.Data.List.Nodup
import WitnessedTransfer.Proofs.Deed.Paying
import WitnessedTransfer.Proofs.Step.Frames

/-! Names that messages coin. A giver draws a name for every note that it makes, and an issuer one for
its mint and one for the note, and the message that first bears them goes out at once. So the names
that an operation coins have been drawn in it, in the order in which they go out. -/
namespace WitnessedTransfer

def Drawn (fresh : Nat → String) (start stop : Nat) (names : List String) : Prop :=
  start ≤ stop ∧ ∃ ns : List Nat, names = ns.map fresh ∧ ns.Pairwise (· < ·) ∧
    ∀ n ∈ ns, start ≤ n ∧ n < stop

section
variable {fresh : Nat → String} {start stop : Nat} {names : List String}

theorem drawn_nil (le : start ≤ stop) : Drawn fresh start stop [] := ⟨le, [], rfl, .nil, by simp⟩

theorem drawn_single (n : Nat) : Drawn fresh n (n + 1) [fresh n] :=
  ⟨Nat.le_succ n, [n], rfl, List.pairwise_singleton _ n, by simp⟩

theorem Drawn.append {next : Nat} {more : List String} (first : Drawn fresh start stop names)
    (rest : Drawn fresh stop next more) : Drawn fresh start next (names ++ more) := by
  obtain ⟨le, ns, rfl, increasing, bounds⟩ := first
  obtain ⟨le', ns', rfl, increasing', bounds'⟩ := rest
  refine ⟨by omega, ns ++ ns', List.map_append.symm, ?_, fun n mem => ?_⟩
  · refine List.pairwise_append.mpr ⟨increasing, increasing', fun n mem n' mem' => ?_⟩
    have := bounds n mem
    have := bounds' n' mem'
    omega
  · rcases List.mem_append.mp mem with mem | mem
    · have := bounds n mem
      omega
    · have := bounds' n mem
      omega

theorem Drawn.nodup (drawn : Drawn fresh start stop names) (injective : Function.Injective fresh) :
    names.Nodup := by
  obtain ⟨-, ns, rfl, increasing, -⟩ := drawn
  exact List.Nodup.map injective (increasing.imp Nat.ne_of_lt)

end

def Message.coined (m : Message) : List String :=
  match m.body with
  | .requestAccepted acceptance => acceptance.outputs.map (·.id.text)
  | .mint mint => m.thread.text :: mint.notes.map (·.id.text)
  | _ => []

theorem Message.coined_of_plain (m : Message) [isPlain : m.body.Plain] : m.coined = [] := by
  obtain ⟨id, body⟩ := m
  cases isPlain <;> rfl

def Scene.Coins (fresh : Nat → String) (s s' : Scene) : Prop :=
  ∃ sent, s'.sent = s.sent ++ sent ∧
    Drawn fresh s.drawn s'.drawn (sent.flatMap fun d => d.message.coined)

variable {fresh : Nat → String}

theorem Scene.coins_of_silent {s s' : Scene} (sent : s'.sent = s.sent) (drawn : s.drawn ≤ s'.drawn) :
    s.Coins fresh s' :=
  ⟨[], by rw [sent, List.append_nil], drawn_nil drawn⟩

/-- A message that coins nothing. -/
theorem Scene.coins_emit (s : Scene) {d : Dispatch} (nothing : d.message.coined = []) :
    s.Coins fresh (s.emit [d]) :=
  ⟨[d], rfl, by simpa [nothing] using drawn_nil (Nat.le_refl _)⟩

instance : Scene.Frame (Scene.Coins fresh) where
  silent := Scene.coins_of_silent
  post s d _ := s.coins_emit d.message.coined_of_plain
  trans := by
    rintro s s₁ s₂ ⟨sent, same, drawn⟩ ⟨sent', same', drawn'⟩
    refine ⟨sent ++ sent', by rw [same', same, List.append_assoc], ?_⟩
    rw [List.flatMap_append]
    exact drawn.append drawn'

namespace Step

variable {around : Surroundings}

/-- What has been sent already is gone on with. -/
theorem Within.after {α : Type} {R : Scene → Scene → Prop} [Scene.Frame R] {step : Step α}
    (within : Within R around step) {s s₁ : Scene} (first : R s s₁) :
    step.Ensures around s₁ fun _ s' => R s s' :=
  Scene.Frame.trans first (within.holds s₁)

/-- The notes that a giver makes bear names that are drawn for them. -/
theorem outputsFor_draws {s : Scene} {amount : Decimal} {getter giver : Did} {committed : List Note} :
    (outputsFor amount getter giver committed).Ensures around s fun result s' =>
      s'.sent = s.sent ∧ s.drawn ≤ s'.drawn ∧ ∀ outputs, result = .ok outputs →
        Drawn around.fresh s.drawn s'.drawn (outputs.map (·.id.text)) := by
  unfold outputsFor
  refine total_then (fun value _ => ?_) fun _ => ⟨rfl, Nat.le_refl _, by simp⟩
  refine orOverflow_then (fun change _ => newNoteId_then ?_) fun _ _ => ⟨rfl, Nat.le_refl _, by simp⟩
  split
  next =>
    refine ensures_pure _ ⟨rfl, Nat.le_succ _, ?_⟩
    rintro outputs ⟨⟩
    exact drawn_single _
  next =>
    refine newNoteId_then (ensures_pure _ ⟨rfl, Nat.le_add_right _ 2, ?_⟩)
    rintro outputs ⟨⟩
    exact (drawn_single s.drawn).append (drawn_single (s.drawn + 1))

theorem commitNotes_coins (r : Record) (timeouts : Option Timeouts) :
    Within (Scene.Coins around.fresh) around (commitNotes r timeouts) := by
  refine ⟨fun s => ?_⟩
  have still {s₁ : Scene} (same : s.Still s₁) : s.Coins around.fresh s₁ :=
    Scene.coins_of_silent (by rw [same.sent, List.append_nil]) same.drawn
  show (commitNotes r timeouts).Ensures around s fun _ s' => s.Coins around.fresh s'
  unfold commitNotes
  refine verifyRequest_then (fun _ _ => me_then ?_) fun _ _ same => still same
  have idle := still (Scene.still_look s)
  refine require_then (fun getter _ => require_then (fun witness _ => ?_) idle) idle
  refine changeWallet_then (fun inputs wallet _ => ?_) fun _ _ => idle
  refine outputsFor_draws.andThen ?_ ?_
  · rintro outputs s₁ ⟨unsent, -, names⟩
    apply post_then
    have coins {a : Agent} {request : PaymentRequest} : s.Coins around.fresh
        (s₁.emit [a.dispatch around witness ⟨r.id, .requestAccepted ⟨request, inputs, outputs⟩⟩ none]) :=
      ⟨_, congrArg (· ++ _) unsent, by simpa [Agent.dispatch, Message.coined] using names outputs rfl⟩
    cases around.obstacle witness with
    | some failure => exact Within.after inferInstance coins
    | none => exact Within.after inferInstance coins
  · rintro fault s₁ ⟨unsent, drawn, -⟩
    exact Scene.coins_of_silent unsent drawn

/-- A mint is named together with its note, and goes out before its record is made. -/
theorem mintCash_coins (amount : Decimal) (witness : Option Did) (tell confirm : Bool)
    (milliseconds : Option Nat) :
    Within (Scene.Coins around.fresh) around (mintCash amount witness tell confirm milliseconds) := by
  refine ⟨fun s => ?_⟩
  have idle {s₁ : Scene} (sent : s₁.sent = s.sent) (drawn : s.drawn ≤ s₁.drawn) :
      s.Coins around.fresh s₁ := Scene.coins_of_silent sent drawn
  show (mintCash amount witness tell confirm milliseconds).Ensures around s
    fun _ s' => s.Coins around.fresh s'
  unfold mintCash
  refine expectPositive_then (fun _ => ?_) (idle rfl (Nat.le_refl _))
  refine config_then (me_then (newTransferId_then ?_))
  refine require_then (fun witness _ => newNoteId_then (agent_then ?_)) (idle rfl (Nat.le_succ _))
  have names : Drawn around.fresh s.drawn s.draw.draw.drawn
      [around.fresh s.drawn, around.fresh s.draw.drawn] :=
    (drawn_single s.drawn).append (drawn_single s.draw.drawn)
  refine sendAny_then (fun sent _ all => ?_) fun recipient failure _ => ?_
  · refine Within.after inferInstance ⟨sent, rfl, ?_⟩
    cases tell with
    | false => simpa [all] using drawn_nil names.1
    | true => simpa [all, Agent.dispatch, Message.coined] using names
  · exact ⟨_, rfl, by simpa [Agent.dispatch, Message.coined] using names⟩

theorem postAll_within {R : Scene → Scene → Prop} [Scene.Frame R] {id : TransferId}
    {messages : List (Did × Body)}
    (posts : ∀ m ∈ messages, Within R around (post m.1 ⟨id, m.2⟩ none)) :
    Within R around (postAll id messages) := by
  induction messages with
  | nil =>
    unfold postAll
    infer_instance
  | cons first rest ih =>
    obtain ⟨one, others⟩ := List.forall_mem_cons.mp posts
    have := ih others
    unfold postAll
    infer_instance

theorem commitTransfer_coins (r : Record) (sender : Did) (acceptance : CashAcceptance) :
    Within (Scene.Coins fresh) around (commitTransfer r sender acceptance) := by
  have closing (id : TransferId) (receipt : Receipt) :
      Within (Scene.Coins fresh) around (postAll id (closingMessages receipt)) := by
    apply postAll_within
    simp only [closingMessages, List.forall_mem_cons]
    refine ⟨inferInstance, inferInstance, ⟨fun s => ?_⟩, ⟨fun s => ?_⟩, by simp⟩
    · rw [perform_post]
      exact s.coins_emit rfl
    · rw [perform_post]
      exact s.coins_emit rfl
  unfold commitTransfer
  refine within_then (fun _ => within_then (fun _ => within_then (fun now => ?_)))
  refine within_guard (within_then (fun _ => within_then (fun _ => within_then (fun _ =>
    within_then (fun _ => within_then (fun _ => ?_))))))
  dsimp only
  infer_instance

end Step

/-- Whatever an operation comes to, it coins names that it has drawn. -/
theorem Operation.step_coins (op : Operation) (around : Surroundings) :
    Step.Within (Scene.Coins around.fresh) around op.step :=
  op.step_within (fun amount witness tell confirm milliseconds _ =>
    Step.mintCash_coins amount witness tell confirm milliseconds) Step.commitNotes_coins
    Step.commitTransfer_coins

end WitnessedTransfer
