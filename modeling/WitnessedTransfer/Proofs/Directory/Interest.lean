import Mathlib.Data.String.Basic
import WitnessedTransfer.Proofs.Deed.Versions
import WitnessedTransfer.Proofs.Record.Roles

/-! Who is told of witnesses, and of which. A party is told from the time an answer to its query has arrived until
the table is passed around and does not reach it; the table is the one that came in last, with what has been
registered since. Nothing else that an agent does has to do with either. -/
namespace WitnessedTransfer

/-! ### The table and the list of parties -/

namespace WitnessTable

variable {entries : List (Did × WitnessInfo)} {key did : Did} {info : WitnessInfo}

theorem find_insertEntry (key : Did) (info : WitnessInfo) (entries : List (Did × WitnessInfo)) (did : Did) :
    (insertEntry key info entries).find? (·.1 = did) =
      if key = did then some (key, info) else entries.find? (·.1 = did) := by
  induction entries with
  | nil => by_cases same : key = did <;> simp [insertEntry, same]
  | cons entry rest ih =>
    rw [insertEntry]
    split
    next own =>
      by_cases same : key = did
      · simp [same]
      · simp [same, ← own]
    next other =>
      split
      next => by_cases same : key = did <;> simp [same]
      next =>
        rw [List.find?_cons, List.find?_cons, ih]
        by_cases same : key = did
        · have apart : entry.1 ≠ did := fun same' => other (same.trans same'.symm)
          simp [same, apart]
        · simp [same]

def registerAll (t : WitnessTable) (infos : List WitnessInfo) : WitnessTable := infos.foldl register t

/-- A witness that is registered is found under its own name, and the others as before. -/
theorem get?_register (t : WitnessTable) (info : WitnessInfo) (did : Did) :
    (t.register info).get? did = if info.did = did then some info else t.get? did := by
  rw [get?, register, insert, find_insertEntry, get?]
  split <;> rfl

/-- Of several witnesses of one name the one that is registered last is found. -/
theorem get?_registerAll (t : WitnessTable) (infos : List WitnessInfo) (did : Did) :
    (t.registerAll infos).get? did = (infos.reverse.find? (·.did = did)).or (t.get? did) := by
  induction infos generalizing t with
  | nil => rfl
  | cons info rest ih =>
    rw [registerAll, List.foldl_cons, ← registerAll, ih, get?_register, List.reverse_cons, List.find?_append,
      Option.or_assoc]
    congr 1
    by_cases same : info.did = did <;> simp [same]

end WitnessTable

namespace Directory

theorem mem_insertDid {did other : Did} {dids : List Did} :
    other ∈ insertDid did dids ↔ other = did ∨ other ∈ dids := by
  induction dids with
  | nil => simp [insertDid]
  | cons first rest ih =>
    rw [insertDid]
    split
    next same => simp [same]
    next =>
      split
      next => simp
      next => rw [List.mem_cons, ih, List.mem_cons, or_left_comm]

def Sorted (d : Directory) : Prop := d.interested.Pairwise (·.text < ·.text)

theorem Sorted.nodup {d : Directory} (sorted : d.Sorted) : d.interested.Nodup :=
  sorted.imp fun less same => less.ne (congrArg Did.text same)

theorem insertDid_sorted {did : Did} {dids : List Did} (sorted : dids.Pairwise (·.text < ·.text)) :
    (insertDid did dids).Pairwise (·.text < ·.text) := by
  induction dids with
  | nil => exact List.pairwise_singleton _ did
  | cons first rest ih =>
    obtain ⟨before, later⟩ := List.pairwise_cons.mp sorted
    rw [insertDid]
    split
    next => exact sorted
    next other =>
      split
      next less =>
        refine List.pairwise_cons.mpr ⟨List.forall_mem_cons.mpr ⟨less, fun d mem => ?_⟩, sorted⟩
        exact less.trans (before d mem)
      next more =>
        have apart : first.text ≠ did.text := fun same => other (congrArg Did.mk same.symm)
        refine List.pairwise_cons.mpr ⟨fun d mem => ?_, ih later⟩
        rcases mem_insertDid.mp mem with rfl | mem
        · exact lt_of_le_of_ne (not_lt.mp more) apart
        · exact before d mem

def answering (d : Directory) (around : Surroundings) (sender : Did) : Directory :=
  if around.obstacle sender = none then d.remember sender else d

variable {d : Directory} {around : Surroundings} {sender did : Did}

@[simp] theorem answering_table : (d.answering around sender).table = d.table := by
  unfold answering
  split <;> rfl

theorem mem_answering : did ∈ (d.answering around sender).interested ↔
    sender = did ∧ around.obstacle did = none ∨ did ∈ d.interested := by
  unfold answering
  split
  next clear =>
    rw [remember, mem_insertDid, eq_comm]
    exact or_congr_left ⟨fun same => ⟨same, same ▸ clear⟩, And.left⟩
  next blocked =>
    rw [or_iff_right]
    rintro ⟨rfl, clear⟩
    exact blocked clear

theorem Sorted.answering (sorted : d.Sorted) : (d.answering around sender).Sorted := by
  unfold Directory.answering
  split
  next => exact insertDid_sorted sorted
  next => exact sorted

end Directory

/-! ### What an operation has to do with them -/

def Operation.learns (around : Surroundings) (d : Directory) : Operation → Directory
  | .registerWitness info => d.register info
  | .receiveTable table | .receive _ ⟨_, .witnessTable table⟩ => d.replaceTable table
  | .answerQuery sender | .receive sender ⟨_, .witnessTableQuery⟩ => d.answering around sender
  | .propagate => { d with interested := d.interested.filter (around.obstacle · = none) }
  | _ => d

/-- To whom a message goes, what it says, and what keeps it from arriving. -/
def Dispatch.gist (d : Dispatch) : Did × Body × Option DeliveryFailure := (d.recipient, d.message.body, d.failure)

def Agent.reached (a : Agent) (around : Surroundings) : List Did :=
  a.directory.interested.filter (around.obstacle · = none)

namespace Act

def learns (d : Directory) : Act → Directory
  | .perform op around _ _ => op.learns around d
  | .purge _ => d

/-- The table that comes in, if one does. -/
def received? : Act → Option WitnessTable
  | .perform (.receiveTable table) _ _ _ => some table
  | .perform (.receive _ ⟨_, .witnessTable table⟩) _ _ _ => some table
  | _ => none

/-- The witness that is registered, if one is. -/
def registered? : Act → Option WitnessInfo
  | .perform (.registerWitness info) _ _ _ => some info
  | _ => none

inductive Answers (did : Did) : Act → Prop where
  | called {around : Surroundings} {drawn looked : Nat} (reached : around.obstacle did = none) :
    Answers did (.perform (.answerQuery did) around drawn looked)
  | asked {id : TransferId} {around : Surroundings} {drawn looked : Nat} (reached : around.obstacle did = none) :
    Answers did (.perform (.receive did ⟨id, .witnessTableQuery⟩) around drawn looked)

/-- The table is passed around while the party cannot be reached. -/
inductive Misses (did : Did) : Act → Prop where
  | spread {around : Surroundings} {drawn looked : Nat} {failure : DeliveryFailure}
    (lost : around.obstacle did = some failure) : Misses did (.perform .propagate around drawn looked)

variable {act : Act} {did sender : Did} {d : Directory} {around : Surroundings} {drawn looked : Nat}

theorem answers_called_iff :
    Answers did (.perform (.answerQuery sender) around drawn looked) ↔ sender = did ∧ around.obstacle did = none := by
  constructor
  · rintro ⟨reached⟩
    exact ⟨rfl, reached⟩
  · rintro ⟨rfl, reached⟩
    exact .called reached

theorem answers_asked_iff {id : TransferId} :
    Answers did (.perform (.receive sender ⟨id, .witnessTableQuery⟩) around drawn looked) ↔
      sender = did ∧ around.obstacle did = none := by
  constructor
  · rintro (_ | reached)
    exact ⟨rfl, reached⟩
  · rintro ⟨rfl, reached⟩
    exact .asked reached

theorem misses_iff : Misses did (.perform .propagate around drawn looked) ↔ around.obstacle did ≠ none := by
  rw [Option.ne_none_iff_exists']
  constructor
  · rintro ⟨lost⟩
    exact ⟨_, lost⟩
  · rintro ⟨failure, lost⟩
    exact .spread lost

/-- A party is told if an answer has just reached it, or it has been told before and has not been missed. -/
theorem mem_learns (act : Act) (d : Directory) (did : Did) :
    did ∈ (act.learns d).interested ↔ act.Answers did ∨ did ∈ d.interested ∧ ¬act.Misses did := by
  have idle {act : Act} (same : (act.learns d).interested = d.interested) (unanswered : ¬act.Answers did)
      (unmissed : ¬act.Misses did) :
      did ∈ (act.learns d).interested ↔ act.Answers did ∨ did ∈ d.interested ∧ ¬act.Misses did := by
    simp [same, unanswered, unmissed]
  cases act with
  | purge id => exact idle rfl nofun nofun
  | perform op around drawn looked =>
    cases op with
    | answerQuery sender =>
      rw [answers_called_iff, and_iff_left (show ¬Misses did (.perform (.answerQuery sender) _ _ _) from nofun)]
      exact Directory.mem_answering
    | propagate =>
      rw [or_iff_right (show ¬Answers did (.perform .propagate _ _ _) from nofun), misses_iff, not_not]
      simp [learns, Operation.learns]
    | receive sender message =>
      obtain ⟨id, body⟩ := message
      cases body with
      | witnessTableQuery =>
        rw [answers_asked_iff, and_iff_left (show ¬Misses did (.perform (.receive sender _) _ _ _) from nofun)]
        exact Directory.mem_answering
      | _ => exact idle rfl nofun nofun
    | _ => exact idle rfl nofun nofun

theorem learns_table_of_received {table : WitnessTable} (received : act.received? = some table) :
    (act.learns d).table = table := by
  unfold received? at received
  split at received
  · exact Option.some.inj received
  · exact Option.some.inj received
  · cases received

theorem learns_table_of_unreceived (unreceived : act.received? = none) :
    (act.learns d).table = act.registered?.elim d.table d.table.register := by
  cases act with
  | purge id => rfl
  | perform op around drawn looked =>
    cases op with
    | receiveTable table => cases unreceived
    | answerQuery sender => exact Directory.answering_table
    | receive sender message =>
      obtain ⟨id, body⟩ := message
      cases body with
      | witnessTable table => cases unreceived
      | witnessTableQuery => exact Directory.answering_table
      | _ => rfl
    | _ => rfl

theorem learns_sorted (act : Act) (sorted : d.Sorted) : (act.learns d).Sorted := by
  cases act with
  | purge id => exact sorted
  | perform op around drawn looked =>
    cases op with
    | answerQuery sender => exact sorted.answering
    | propagate => exact List.Pairwise.filter _ sorted
    | receive sender message =>
      obtain ⟨id, body⟩ := message
      cases body with
      | witnessTableQuery => exact sorted.answering
      | _ => exact sorted
    | _ => exact sorted

end Act

/-! ### What an operation does -/

section
variable {around : Surroundings} {op : Operation} {s s' : Scene}

theorem Agent.foldl_wrote_directory (a : Agent) (versions : List Record) :
    (versions.foldl wrote a).directory = a.directory := by
  induction versions generalizing a with
  | nil => rfl
  | cons v rest ih => exact ih _

/-- Only what is about it changes what is known of witnesses. -/
theorem Deed.directory (deed : Deed around op s s') (silent : ¬op.Gossips) :
    s'.agent.directory = s.agent.directory := by
  cases deed with
  | moved r about versions wallet ledger sent stored move leads =>
    rw [leads.agent]; exact Agent.foldl_wrote_directory s.agent versions
  | learned directory leads due => exact absurd due silent
  | opened r unknown opens leads => rw [leads.agent]; rfl
  | told sent loose asked leads => rw [leads.agent]
  | stranded r about inputs wallet stored isOpen selected leads => rw [leads.agent]
  | unpaid r about inputs wallet missed stored isOpen selected lost leads => rw [leads.agent]
  | unvouched r about sender acceptance ledger missed stored role state promised lost leads => rw [leads.agent]
  | announced event due leads => rw [leads.agent]

theorem Operation.learns_of_silent (silent : ¬op.Gossips) (d : Directory) : op.learns around d = d := by
  cases op with
  | registerWitness info => exact absurd (.registers rfl) silent
  | receiveTable table => exact absurd (.replaces rfl) silent
  | answerQuery sender => exact absurd (.answers rfl) silent
  | propagate => exact absurd (.propagates rfl) silent
  | receive sender message =>
    obtain ⟨id, body⟩ := message
    cases body with
    | witnessTable table => exact absurd (.received .receive) silent
    | witnessTableQuery => exact absurd (.asked .receive) silent
    | _ => rfl
  | _ => rfl

namespace Step

theorem registerWitness_learns (info : WitnessInfo) : (registerWitness info).Ensures around s fun _ s' =>
    s'.agent.directory = s.agent.directory.register info := rfl

theorem receiveTable_learns (table : WitnessTable) : (receiveTable table).Ensures around s fun _ s' =>
    s'.agent.directory = s.agent.directory.replaceTable table := rfl

theorem answerQuery_learns (sender : Did) : (answerQuery sender).Ensures around s fun _ s' =>
    s'.agent.directory = s.agent.directory.answering around sender := by
  refine agent_then (newTransferId_then (send_then (fun clear => ?_) fun failure lost => ?_))
  · rw [Directory.answering, if_pos clear]
    rfl
  · rw [Directory.answering, if_neg (by simp [lost])]
    rfl

theorem answerQuery_sends (sender : Did) : (answerQuery sender).Ensures around s fun _ s' =>
    s'.sent = s.sent ++ [s.agent.dispatch around sender
      ⟨⟨around.fresh s.drawn⟩, .witnessTable s.agent.directory.table⟩ none] :=
  agent_then (newTransferId_then (send_then (fun _ => rfl) fun _ _ => rfl))

/-- The table is sent to each of the parties, whether it arrives or not. -/
theorem spread_reaches (table : WitnessTable) (parties : List Did) :
    (spread table parties).Ensures around s fun result s' =>
      result = .ok (parties.filter (around.obstacle · ≠ none)) ∧ s'.agent = s.agent ∧
      ∃ sent, s'.sent = s.sent ++ sent ∧
        sent.map Dispatch.gist =
          parties.map fun did => (did, .witnessTable table, around.obstacle did) := by
  induction parties generalizing s with
  | nil => exact ⟨rfl, rfl, [], (List.append_nil _).symm, rfl⟩
  | cons first rest ih =>
    refine newTransferId_then (post_then (Ensures.andThen ih ?_ ?_))
    · rintro missed s₁ ⟨result, same, sent, sends, reached⟩
      obtain rfl := Except.ok.inj result
      refine ensures_pure _ ⟨?_, same,
        s.agent.dispatch around first ⟨⟨around.fresh s.drawn⟩, .witnessTable table⟩ none :: sent, ?_, ?_⟩
      · cases lost : around.obstacle first <;> simp [lost]
      · rw [sends, Scene.emit_sent, Scene.draw_sent, List.append_assoc, List.singleton_append]
        rfl
      · rw [List.map_cons, List.map_cons, reached]
        rfl
    · rintro fault s₁ ⟨result, -⟩
      cases result

theorem propagate_spreads : propagate.Ensures around s fun result s' =>
    result = .ok (s.agent.reached around).length ∧
    s'.agent = { s.agent with directory := { s.agent.directory with interested := s.agent.reached around } } ∧
    ∃ sent, s'.sent = s.sent ++ sent ∧ sent.map Dispatch.gist =
      s.agent.directory.interested.map fun did =>
        (did, .witnessTable s.agent.directory.table, around.obstacle did) := by
  refine agent_then (Ensures.andThen (spread_reaches _ _) ?_ ?_)
  · rintro missed s₁ ⟨result, same, sent, sends, reached⟩
    obtain rfl := Except.ok.inj result
    have kept : s.agent.directory.interested.filter
        (· ∉ s.agent.directory.interested.filter (around.obstacle · ≠ none)) = s.agent.reached around := by
      refine List.filter_congr fun did mem => ?_
      simp [mem]
    have parted := s.agent.directory.interested.length_eq_length_filter_add (around.obstacle · = none)
    have count : s.agent.directory.interested.length -
        (s.agent.directory.interested.filter (around.obstacle · ≠ none)).length = (s.agent.reached around).length := by
      simp only [← decide_not] at parted
      rw [parted, Nat.add_sub_cancel_right]
      rfl
    refine changeAgent_then (ensures_pure _ ⟨by rw [count], ?_, sent, sends, reached⟩)
    rw [Scene.become_agent, same, ← kept]
    rfl
  · rintro fault s₁ ⟨result, -⟩
    cases result

theorem propagate_learns : propagate.Ensures around s fun _ s' =>
    s'.agent.directory = Operation.propagate.learns around s.agent.directory :=
  propagate_spreads.mono fun _ _ spreads => congrArg Agent.directory spreads.2.1

/-- A message for which no witness is needed is taken by any agent. -/
theorem receive_passed {sender : Did} {id : TransferId} {body : Body} {P : Scene → Prop}
    (anyone : body.needsWitness = false)
    (taken : (receiveBody sender id body).Ensures around s fun _ s' => P s') :
    (receive sender ⟨id, body⟩).Ensures around s fun _ s' => P s' := by
  apply config_then
  rw [anyone]
  exact taken

end Step

theorem Operation.step_learns (op : Operation) (around : Surroundings) (s : Scene) :
    op.step.Ensures around s fun _ s' => s'.agent.directory = op.learns around s.agent.directory := by
  by_cases due : op.Gossips
  · cases due with
    | registers same => exact same ▸ Step.ensures_map (Step.registerWitness_learns _)
    | replaces same => exact same ▸ Step.ensures_map (Step.receiveTable_learns _)
    | answers same => exact same ▸ Step.ensures_map (Step.answerQuery_learns _)
    | propagates same => exact same ▸ Step.ensures_map Step.propagate_learns
    | received takes =>
      cases takes
      exact Step.ensures_map (Step.receive_passed rfl (Step.ensures_map (Step.receiveTable_learns _)))
    | asked takes =>
      cases takes
      exact Step.ensures_map (Step.receive_passed rfl (Step.ensures_map (Step.answerQuery_learns _)))
  · refine (op.step_deeds around s).mono fun _ s' deeds => ?_
    rw [op.learns_of_silent due]
    exact deeds.along (P := fun s' => s'.agent.directory = s.agent.directory)
      (fun _ _ same still => (congrArg Agent.directory still.agent).trans same)
      (fun _ _ same deed => (deed.directory due).trans same) rfl

end

/-! ### Whatever befalls an agent -/

namespace Agent

variable {config : Config} {notes : List Note}

theorem does_directory (a : Agent) (act : Act) : (a.does act).directory = act.learns a.directory := by
  cases act with
  | perform op around drawn looked => exact Step.ensures_perform (op.step_learns around ⟨a, drawn, looked, []⟩)
  | purge id => rfl

/-- Whoever is answered is sent the table. -/
theorem emits_of_answers (a : Agent) {act : Act} {did : Did} (answers : act.Answers did) :
    (a.emits act).map Dispatch.gist =
      [(did, .witnessTable a.directory.table, none)] := by
  have sent {op : Operation} {around : Surroundings} {drawn looked : Nat} (reached : around.obstacle did = none)
      (sends : op.step.Ensures around ⟨a, drawn, looked, []⟩ fun _ s' =>
        s'.sent = [] ++ [a.dispatch around did ⟨⟨around.fresh drawn⟩, .witnessTable a.directory.table⟩ none]) :
      (a.emits (.perform op around drawn looked)).map Dispatch.gist =
        [(did, .witnessTable a.directory.table, none)] := by
    rw [emits, Step.ensures_perform sends, ← reached]
    rfl
  cases answers with
  | called reached => exact sent reached (Step.ensures_map (Step.answerQuery_sends did))
  | asked reached =>
    exact sent reached (Step.ensures_map (Step.receive_passed rfl (Step.ensures_map (Step.answerQuery_sends did))))

/-- Passing the table around sends it to each party that is told, once, and goes on telling those whom it has reached;
nothing else of the agent changes. -/
structure Spreads (a : Agent) (around : Surroundings) (drawn looked : Nat) : Prop where
  once : a.directory.interested.Nodup
  sends : (a.emits (.perform .propagate around drawn looked)).map Dispatch.gist =
    a.directory.interested.map fun did => (did, .witnessTable a.directory.table, around.obstacle did)
  counts : (Operation.propagate.step.perform around ⟨a, drawn, looked, []⟩).1 = .ok (.count (a.reached around).length)
  leaves : a.does (.perform .propagate around drawn looked) =
    { a with directory := { a.directory with interested := a.reached around } }

theorem spreads_of_sorted {a : Agent} (sorted : a.directory.Sorted) (around : Surroundings) (drawn looked : Nat) :
    a.Spreads around drawn looked := by
  have performed : Operation.propagate.step.Ensures around ⟨a, drawn, looked, []⟩ fun result s' =>
      result = .ok (.count (a.reached around).length) ∧
      s'.agent = { a with directory := { a.directory with interested := a.reached around } } ∧
      ∃ sent, s'.sent = [] ++ sent ∧ sent.map Dispatch.gist =
        a.directory.interested.map fun did => (did, .witnessTable a.directory.table, around.obstacle did) := by
    refine Step.propagate_spreads.andThen (fun count s' spreads => ?_) fun fault s' spreads => nomatch spreads.1
    obtain ⟨result, spreads⟩ := spreads
    exact Step.ensures_pure _ ⟨by rw [Except.ok.inj result], spreads⟩
  obtain ⟨counts, leaves, sent, sends, reached⟩ := Step.ensures_perform performed
  exact ⟨sorted.nodup, (congrArg _ sends).trans reached, counts, leaves⟩

theorem doesAll_concat (a : Agent) (acts : List Act) (act : Act) :
    a.doesAll (acts ++ [act]) = (a.doesAll acts).does act := List.foldl_concat ..

theorem doesAll_sorted_directory (config : Config) (notes : List Note) (acts : List Act) :
    ((Agent.new config notes).doesAll acts).directory.Sorted := by
  refine doesAll_preserve (P := fun a => a.directory.Sorted) (fun a act sorted => ?_) ?_ acts
  · rw [does_directory]
    exact act.learns_sorted sorted
  · unfold new Directory.Sorted
    split <;> exact .nil

/-- Those are told whose last query that has been answered was not followed by a time when they were missed. -/
theorem interested_iff (config : Config) (notes : List Note) (acts : List Act) (did : Did) :
    did ∈ ((Agent.new config notes).doesAll acts).directory.interested ↔
      ∃ before act later, acts = before ++ act :: later ∧ act.Answers did ∧
        (∀ x ∈ later, ¬x.Answers did) ∧ ∀ x ∈ later, ¬x.Misses did := by
  induction acts using List.reverseRecOn with
  | nil =>
    refine iff_of_false ?_ (by simp)
    unfold doesAll new
    split <;> exact List.not_mem_nil
  | append_singleton acts act ih =>
    rw [doesAll_concat, does_directory, Act.mem_learns, ih]
    constructor
    · rintro (answers | ⟨⟨before, first, later, rfl, answers, unanswered, unmissed⟩, reached⟩)
      · exact ⟨acts, act, [], rfl, answers, List.forall_mem_nil _, List.forall_mem_nil _⟩
      · by_cases again : act.Answers did
        · exact ⟨before ++ first :: later, act, [], rfl, again, List.forall_mem_nil _, List.forall_mem_nil _⟩
        · refine ⟨before, first, later ++ [act], by simp, answers, ?_, ?_⟩
          · exact List.forall_mem_append.mpr ⟨unanswered, List.forall_mem_singleton.mpr again⟩
          · exact List.forall_mem_append.mpr ⟨unmissed, List.forall_mem_singleton.mpr reached⟩
    · rintro ⟨before, first, later, same, answers, unanswered, unmissed⟩
      rcases List.eq_nil_or_concat' later with rfl | ⟨inner, last, rfl⟩
      · obtain ⟨-, rfl⟩ := List.append_singleton_inj.mp same
        exact .inl answers
      · rw [← List.cons_append, ← List.append_assoc] at same
        obtain ⟨rfl, rfl⟩ := List.append_singleton_inj.mp same
        refine .inr ⟨⟨before, first, inner, rfl, answers, ?_, ?_⟩, unmissed act (by simp)⟩
        · exact fun x mem => unanswered x (List.mem_append_left _ mem)
        · exact fun x mem => unmissed x (List.mem_append_left _ mem)

/-- As long as no table comes in, the table is extended by what is registered. -/
theorem table_of_unreceived (a : Agent) {acts : List Act} (unreceived : ∀ x ∈ acts, x.received? = none) :
    (a.doesAll acts).directory.table = a.directory.table.registerAll (acts.filterMap Act.registered?) := by
  induction acts generalizing a with
  | nil => rfl
  | cons act rest ih =>
    obtain ⟨first, unreceived⟩ := List.forall_mem_cons.mp unreceived
    have moved : (a.does act).directory.table = act.registered?.elim a.directory.table a.directory.table.register := by
      rw [does_directory, Act.learns_table_of_unreceived first]
    rw [doesAll, List.foldl_cons, ← doesAll, ih (a.does act) unreceived, moved, List.filterMap_cons]
    cases act.registered? <;> rfl

theorem table_of_received (a : Agent) {before later : List Act} {act : Act} {table : WitnessTable}
    (received : act.received? = some table) (unreceived : ∀ x ∈ later, x.received? = none) :
    (a.doesAll (before ++ act :: later)).directory.table = table.registerAll (later.filterMap Act.registered?) := by
  rw [doesAll, List.foldl_append, List.foldl_cons, ← doesAll, ← doesAll, table_of_unreceived _ unreceived,
    does_directory, Act.learns_table_of_received received]

/-- Interested are those who have had a query answered and have not been missed since. They are
sent the table, which is the last that came in. -/
theorem gossip_interest (config : Config) (notes : List Note) (acts : List Act) :
    (∀ did, did ∈ ((Agent.new config notes).doesAll acts).directory.interested ↔
      ∃ before act later, acts = before ++ act :: later ∧ act.Answers did ∧
        (∀ x ∈ later, ¬x.Answers did) ∧ ∀ x ∈ later, ¬x.Misses did) ∧
    (∀ act did, act.Answers did →
      (((Agent.new config notes).doesAll acts).emits act).map Dispatch.gist =
        [(did, .witnessTable ((Agent.new config notes).doesAll acts).directory.table, none)]) ∧
    (∀ around drawn looked, ((Agent.new config notes).doesAll acts).Spreads around drawn looked) ∧
    (∀ before act later table, acts = before ++ act :: later → act.received? = some table →
      (∀ x ∈ later, x.received? = none) → ((Agent.new config notes).doesAll acts).directory.table =
        table.registerAll (later.filterMap Act.registered?)) ∧
    ((∀ x ∈ acts, x.received? = none) → ((Agent.new config notes).doesAll acts).directory.table =
      (Agent.new config notes).directory.table.registerAll (acts.filterMap Act.registered?)) ∧
    ∀ (table : WitnessTable) infos did,
      (table.registerAll infos).get? did = (infos.reverse.find? (·.did = did)).or (table.get? did) := by
  refine ⟨interested_iff config notes acts, fun _ _ => emits_of_answers _, ?_, ?_, table_of_unreceived _,
    WitnessTable.get?_registerAll⟩
  · exact spreads_of_sorted (doesAll_sorted_directory config notes acts)
  · rintro before act later table rfl received unreceived
    exact table_of_received _ received unreceived

end Agent
end WitnessedTransfer
