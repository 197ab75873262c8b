import WitnessedTransfer.Agent.Operation

/-! Rules for reasoning about steps. `Ensures` says what holds of the result of a step and of the
scene it leaves, faults included; each rule takes one action off the front of a step. An action
that can stop the step has one premise for going on and one for stopping. -/
namespace WitnessedTransfer

namespace Scene

def look (s : Scene) : Scene := { s with looked := s.looked + 1 }

def draw (s : Scene) : Scene := { s with drawn := s.drawn + 1 }

def become (s : Scene) (a : Agent) : Scene := { s with agent := a }

def emit (s : Scene) (sent : List Dispatch) : Scene := { s with sent := s.sent ++ sent }

@[simp] theorem look_agent (s : Scene) : s.look.agent = s.agent := rfl
@[simp] theorem become_agent (s : Scene) (a : Agent) : (s.become a).agent = a := rfl

@[simp] theorem look_sent (s : Scene) : s.look.sent = s.sent := rfl
@[simp] theorem draw_sent (s : Scene) : s.draw.sent = s.sent := rfl
@[simp] theorem become_sent (s : Scene) (a : Agent) : (s.become a).sent = s.sent := rfl
@[simp] theorem emit_sent (s : Scene) (sent : List Dispatch) :
    (s.emit sent).sent = s.sent ++ sent := rfl

@[simp] theorem look_drawn (s : Scene) : s.look.drawn = s.drawn := rfl
@[simp] theorem become_drawn (s : Scene) (a : Agent) : (s.become a).drawn = s.drawn := rfl
@[simp] theorem emit_drawn (s : Scene) (sent : List Dispatch) : (s.emit sent).drawn = s.drawn := rfl

end Scene

/-- A message as an agent hands it to the network. -/
def Agent.dispatch (a : Agent) (around : Surroundings) (recipient : Did) (message : Message)
    (hint : Option TransportHint) : Dispatch :=
  ⟨recipient, message, hint.or a.config.defaultTransport, around.obstacle recipient⟩

/-- The party is the one that is expected; where none is known, any is. -/
def Expects (expected : Option Did) (actual : Did) : Prop := ∀ did ∈ expected, did = actual

@[simp] theorem expects_some {did actual : Did} : Expects (some did) actual ↔ did = actual := by
  simp [Expects]

@[simp] theorem expects_none {actual : Did} : Expects none actual := nofun

theorem filter_eq_none_iff_expects {expected : Option Did} {actual : Did} :
    expected.filter (· ≠ actual) = none ↔ Expects expected actual := by
  cases expected with
  | none => exact iff_of_true rfl expects_none
  | some did => simp [Option.filter]

theorem expects_of_filter {expected : Option Did} {actual : Did}
    (h : expected.filter (· ≠ actual) = none) : Expects expected actual := filter_eq_none_iff_expects.mp h

namespace Step

variable {α β : Type} {around : Surroundings} {s : Scene} {post : Except Fault β → Scene → Prop}

def Ensures (step : Step α) (around : Surroundings) (s : Scene)
    (post : Except Fault α → Scene → Prop) : Prop :=
  post (step.perform around s).1 (step.perform around s).2

theorem ensures_perform {step : Step β} (h : step.Ensures around s post) :
    post (step.perform around s).1 (step.perform around s).2 := h

theorem Ensures.mono {step : Step β} {weaker : Except Fault β → Scene → Prop}
    (h : step.Ensures around s post) (imp : ∀ result s', post result s' → weaker result s') :
    step.Ensures around s weaker := imp _ _ h

def andThen (around : Surroundings) (f : α → Step β) (post : Except Fault β → Scene → Prop) :
    Except Fault α → Scene → Prop
  | .ok a, s => (f a).Ensures around s post
  | .error fault, s => post (.error fault) s

theorem ensures_bind {x : Step α} {f : α → Step β} :
    (x >>= f).Ensures around s post ↔ x.Ensures around s (andThen around f post) := by
  unfold Ensures
  rw [perform_bind]
  cases x.perform around s with
  | mk result s' => cases result <;> rfl

theorem ensures_pure (b : β) (h : post (.ok b) s) : (pure b : Step β).Ensures around s post := h

theorem ensures_refuse (cause : Failure) (h : post (.error (.failure cause)) s) :
    (refuse cause : Step β).Ensures around s post := h

/-- Uses what is known of the first part of a step. -/
theorem Ensures.andThen {x : Step α} {f : α → Step β} {first : Except Fault α → Scene → Prop}
    (h : x.Ensures around s first)
    (go : ∀ a s', first (.ok a) s' → (f a).Ensures around s' post)
    (stop : ∀ fault s', first (.error fault) s' → post (.error fault) s') :
    (x >>= f).Ensures around s post := by
  refine ensures_bind.mpr (h.mono fun result s' hr => ?_)
  cases result with
  | ok a => exact go a s' hr
  | error fault => exact stop fault s' hr

/-- What is known of the scene stays so when the result is only put in another form. -/
theorem ensures_map {x : Step α} {f : α → β} {P : Scene → Prop}
    (h : x.Ensures around s fun _ s' => P s') :
    (x >>= fun a => pure (f a)).Ensures around s fun _ s' => P s' :=
  h.andThen (fun _ _ holds => ensures_pure _ holds) fun _ _ holds => holds

/-- A fault that is caught keeps what has been done up to it. -/
theorem perform_tryCatch (x : Step α) (handle : Fault → Step α) :
    (tryCatchThe Fault x handle).perform around s =
      match x.perform around s with
      | (.ok a, s') => (.ok a, s')
      | (.error fault, s') => (handle fault).perform around s' := by
  cases h : x.perform around s with
  | mk result s' =>
    simp only [perform, ReaderT.run, ExceptT.run, StateT.run] at h ⊢
    show (ExceptT.tryCatch (x around) fun fault => handle fault around) s = _
    simp only [ExceptT.tryCatch, ExceptT.mk, bind, StateT.bind, h]
    cases result <;> rfl

theorem ensures_tryCatch {x : Step β} {handle : Fault → Step β}
    {first : Except Fault β → Scene → Prop} (h : x.Ensures around s first)
    (ok : ∀ b s', first (.ok b) s' → post (.ok b) s')
    (caught : ∀ fault s', first (.error fault) s' → (handle fault).Ensures around s' post) :
    (tryCatchThe Fault x handle).Ensures around s post := by
  unfold Ensures at h ⊢
  rw [perform_tryCatch]
  cases performed : x.perform around s with
  | mk result s' =>
    rw [performed] at h
    cases result with
    | ok b => exact ok b s' h
    | error fault => exact caught fault s' h

/-! ### Reading and drawing -/

theorem agent_then {f : Agent → Step β} (go : (f s.agent).Ensures around s post) :
    (agent >>= f).Ensures around s post := ensures_bind.mpr go

theorem config_then {f : Config → Step β} (go : (f s.agent.config).Ensures around s post) :
    (config >>= f).Ensures around s post := ensures_bind.mpr go

theorem me_then {f : Did → Step β} (go : (f s.agent.did).Ensures around s post) :
    (me >>= f).Ensures around s post := ensures_bind.mpr go

theorem changeAgent_then {change : Agent → Agent} {f : Unit → Step β}
    (go : (f ()).Ensures around (s.become (change s.agent)) post) :
    (changeAgent change >>= f).Ensures around s post := ensures_bind.mpr go

theorem now_then {f : Instant → Step β}
    (go : (f (around.instant s.looked)).Ensures around s.look post) :
    (now >>= f).Ensures around s post := ensures_bind.mpr go

theorem newTransferId_then {f : TransferId → Step β}
    (go : (f ⟨around.fresh s.drawn⟩).Ensures around s.draw post) :
    (newTransferId >>= f).Ensures around s post := ensures_bind.mpr go

theorem newNoteId_then {f : NoteId → Step β}
    (go : (f ⟨around.fresh s.drawn⟩).Ensures around s.draw post) :
    (newNoteId >>= f).Ensures around s post := ensures_bind.mpr go

theorem find_then {id : TransferId} {f : Option Record → Step β}
    (go : (f (s.agent.records.get? id)).Ensures around s post) :
    (find? id >>= f).Ensures around s post := ensures_bind.mpr go

theorem load_or_not_found {id : TransferId} {operation : String} {f : Record → Step β}
    (go : ∀ r, s.agent.records.get? id = some r → (f r).Ensures around s post)
    (stop : post (.error (.failure (.notFound id operation))) s) :
    (load id operation >>= f).Ensures around s post := by
  refine ensures_bind.mpr (find_then ?_)
  cases found : s.agent.records.get? id with
  | none => exact stop
  | some r => exact go r found

theorem load_then {id : TransferId} {operation : String} {f : Record → Step β}
    (go : ∀ r, s.agent.records.get? id = some r → (f r).Ensures around s post)
    (stop : ∀ cause, post (.error (.failure cause)) s) :
    (load id operation >>= f).Ensures around s post := load_or_not_found go (stop _)

theorem load_passed {id : TransferId} {operation : String} {r : Record} {f : Record → Step β}
    (stored : s.agent.records.get? id = some r) (go : (f r).Ensures around s post) :
    (load id operation >>= f).Ensures around s post := by
  apply ensures_bind.mpr
  apply find_then
  rw [stored]
  exact go

theorem newRecord_then {role : Role} {transfer : Transfer} {f : Record → Step β}
    (go : (f (Record.new role transfer s.agent.did (around.instant s.looked))).Ensures around
      s.look post) :
    (newRecord role transfer >>= f).Ensures around s post := ensures_bind.mpr go

/-! ### Checks -/

theorem guard_then {c : Prop} [Decidable c] {cause : Failure} {f : Unit → Step β}
    (stop : c → post (.error (.failure cause)) s) (go : ¬c → (f ()).Ensures around s post) :
    (if c then refuse cause >>= f else f ()).Ensures around s post := by
  split
  next h => exact ensures_bind.mpr (stop h)
  next h => exact go h

theorem refused_then {cause : Failure} {f : α → Step β}
    (stop : post (.error (.failure cause)) s) : (refuse cause >>= f).Ensures around s post :=
  ensures_bind.mpr stop

theorem require_or_missing {id : TransferId} {party : String} {did : Option Did} {f : Did → Step β}
    (go : ∀ d, did = some d → (f d).Ensures around s post)
    (stop : did = none → post (.error (.failure (.missingParty id party))) s) :
    (require id party did >>= f).Ensures around s post := by
  cases did with
  | none => exact ensures_bind.mpr (stop rfl)
  | some d => exact ensures_bind.mpr (go d rfl)

theorem require_then {id : TransferId} {party : String} {did : Option Did} {f : Did → Step β}
    (go : ∀ d, did = some d → (f d).Ensures around s post)
    (stop : post (.error (.failure (.missingParty id party))) s) :
    (require id party did >>= f).Ensures around s post := require_or_missing go fun _ => stop

theorem expectParty_then {r : Record} {expected : Option Did} {actual : Did} {f : Unit → Step β}
    (go : Expects expected actual → (f ()).Ensures around s post)
    (stop : ∀ d, post (.error (.failure (.didMismatch r.id d actual))) s) :
    (expectParty r expected actual >>= f).Ensures around s post := by
  apply ensures_bind.mpr
  cases expected with
  | none => exact go expects_none
  | some d =>
    simp only [expectParty]
    split
    next same => exact go (expects_some.mpr same)
    next => exact stop d

theorem expectAmount_then {r : Record} {actual : Decimal} {f : Unit → Step β}
    (go : actual ≈ r.transfer.amount → (f ()).Ensures around s post)
    (stop : post (.error (.failure (.amountMismatch r.id r.transfer.amount actual))) s) :
    (expectAmount r actual >>= f).Ensures around s post := by
  apply ensures_bind.mpr
  simp only [expectAmount]
  split
  next same => exact go same
  next => exact stop

theorem expectPositive_then {amount : Decimal} {f : Unit → Step β}
    (go : ¬amount ≤ 0 → (f ()).Ensures around s post)
    (stop : post (.error (.failure (.invalidAmount amount))) s) :
    (expectPositive amount >>= f).Ensures around s post := by
  apply ensures_bind.mpr
  simp only [expectPositive]
  split
  next => exact stop
  next positive => exact go positive

theorem liftExcept_then {x : Except Fault α} {f : α → Step β}
    (go : ∀ a, x = .ok a → (f a).Ensures around s post)
    (stop : ∀ fault, x = .error fault → post (.error fault) s) :
    (liftExcept x >>= f).Ensures around s post := by
  cases x with
  | ok a => exact ensures_bind.mpr (go a rfl)
  | error fault => exact ensures_bind.mpr (stop fault rfl)

theorem orRefuse_then {x : Except Failure α} {f : α → Step β}
    (go : ∀ a, x = .ok a → (f a).Ensures around s post)
    (stop : ∀ cause, x = .error cause → post (.error (.failure cause)) s) :
    (orRefuse x >>= f).Ensures around s post := by
  cases x with
  | ok a => exact ensures_bind.mpr (go a rfl)
  | error cause => exact ensures_bind.mpr (stop cause rfl)

theorem orOverflow_then {x : Except Overflow α} {f : α → Step β}
    (go : ∀ a, x = .ok a → (f a).Ensures around s post)
    (stop : ∀ cause, x = .error cause → post (.error (.overflow cause)) s) :
    (orOverflow x >>= f).Ensures around s post := by
  cases x with
  | ok a => exact ensures_bind.mpr (go a rfl)
  | error cause => exact ensures_bind.mpr (stop cause rfl)

theorem total_then {notes : List Note} {f : Decimal → Step β}
    (go : ∀ d, Note.total notes = .ok d → (f d).Ensures around s post)
    (stop : ∀ cause, post (.error (.overflow cause)) s) :
    (total notes >>= f).Ensures around s post := orOverflow_then go fun cause _ => stop cause

/-! ### Messages and events -/

theorem post_then {recipient : Did} {message : Message} {hint : Option TransportHint}
    {f : Option DeliveryFailure → Step β}
    (go : (f (around.obstacle recipient)).Ensures around
      (s.emit [s.agent.dispatch around recipient message hint]) post) :
    (Step.post recipient message hint >>= f).Ensures around s post := ensures_bind.mpr go

theorem orUndelivered_then {missed : Option DeliveryFailure} {f : Unit → Step β}
    (go : missed = none → (f ()).Ensures around s post)
    (stop : ∀ failure, missed = some failure → post (.error (.failure (.delivery failure))) s) :
    (orUndelivered missed >>= f).Ensures around s post := by
  cases missed with
  | none => exact ensures_bind.mpr (go rfl)
  | some failure => exact ensures_bind.mpr (stop failure rfl)

theorem ensures_send {recipient : Did} {message : Message} {hint : Option TransportHint}
    {post : Except Fault Unit → Scene → Prop}
    (go : around.obstacle recipient = none →
      post (.ok ()) (s.emit [s.agent.dispatch around recipient message hint]))
    (stop : ∀ failure, around.obstacle recipient = some failure →
      post (.error (.failure (.delivery failure)))
        (s.emit [s.agent.dispatch around recipient message hint])) :
    (send recipient message hint).Ensures around s post := by
  apply post_then
  cases blocked : around.obstacle recipient with
  | none => exact go blocked
  | some failure => exact stop failure blocked

theorem send_then {recipient : Did} {message : Message} {hint : Option TransportHint}
    {f : Unit → Step β}
    (go : around.obstacle recipient = none → (f ()).Ensures around
      (s.emit [s.agent.dispatch around recipient message hint]) post)
    (stop : ∀ failure, around.obstacle recipient = some failure →
      post (.error (.failure (.delivery failure)))
        (s.emit [s.agent.dispatch around recipient message hint])) :
    (send recipient message hint >>= f).Ensures around s post :=
  ensures_bind.mpr (ensures_send go stop)

theorem sendAny_then {recipient : Option Did} {message : Message} {hint : Option TransportHint}
    {f : Unit → Step β}
    (go : ∀ sent, (∀ did ∈ recipient, around.obstacle did = none) →
      sent = recipient.toList.map (s.agent.dispatch around · message hint) →
      (f ()).Ensures around (s.emit sent) post)
    (stop : ∀ recipient failure, around.obstacle recipient = some failure →
      post (.error (.failure (.delivery failure)))
        (s.emit [s.agent.dispatch around recipient message hint])) :
    (sendAny recipient message hint >>= f).Ensures around s post := by
  cases recipient with
  | none =>
    have unchanged : s.emit [] = s := by simp [Scene.emit]
    have rest : (f ()).Ensures around s post := unchanged ▸ go [] nofun rfl
    exact ensures_bind.mpr rest
  | some recipient =>
    exact send_then (fun clear => go _ (fun did h => by cases h; exact clear) rfl)
      (stop recipient)

theorem publish_then {event : Event} {f : Unit → Step β}
    (go : (f ()).Ensures around
      (s.become { s.agent with bus := s.agent.bus.publish event }) post) :
    (publish event >>= f).Ensures around s post := ensures_bind.mpr go

/-! ### Holdings -/

theorem changeWallet_then {change : Holding.Change α} {f : α → Step β}
    (go : ∀ a wallet, change.attempt s.agent.wallet = .ok (a, wallet) →
      (f a).Ensures around (s.become { s.agent with wallet }) post)
    (stop : ∀ fault, change.attempt s.agent.wallet = .error fault → post (.error fault) s) :
    (changeWallet change >>= f).Ensures around s post := by
  refine ensures_bind.mpr (agent_then ?_)
  cases attempted : change.attempt s.agent.wallet with
  | ok p => exact go p.1 p.2 attempted
  | error fault => exact stop fault attempted

theorem changeLedger_then {change : Holding.Change α} {f : α → Step β}
    (go : ∀ a ledger, change.attempt s.agent.ledger = .ok (a, ledger) →
      (f a).Ensures around (s.become { s.agent with ledger }) post)
    (stop : ∀ fault, change.attempt s.agent.ledger = .error fault → post (.error fault) s) :
    (changeLedger change >>= f).Ensures around s post := by
  refine ensures_bind.mpr (agent_then ?_)
  cases attempted : change.attempt s.agent.ledger with
  | ok p => exact go p.1 p.2 attempted
  | error fault => exact stop fault attempted

theorem releaseWallet_then {id : TransferId} {f : Unit → Step β}
    (go : (f ()).Ensures around
      (s.become { s.agent with wallet := s.agent.wallet.release id }) post) :
    (releaseWallet id >>= f).Ensures around s post := ensures_bind.mpr go

theorem releaseLedger_then {id : TransferId} {f : Unit → Step β}
    (go : (f ()).Ensures around
      (s.become { s.agent with ledger := s.agent.ledger.release id }) post) :
    (releaseLedger id >>= f).Ensures around s post := ensures_bind.mpr go

end Step
end WitnessedTransfer
