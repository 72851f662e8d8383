import ConnectionJobs.Proofs.Creation.Configuration

/-!
# How far a creation reaches

A creation has the same shape for every kind of job. It may ask a switch, it resolves its resources, and then it makes
one call that puts the job into the queue. Whatever comes after that call belongs to its answer: the connection is the
one the job was made for, and where a job is named, it is the one that the queue has just numbered.

`Reaches` states this shape. It is proved from the parts of a creation by what each of them calls (`Only`), and that is
put together as the parts are, so the order and the failures of the calls play no part.
-/

namespace ConnectionJobs

/-! ## Attempts that make only some calls -/

/-- **An attempt makes only calls of a kind.** -/
def Only {α : Type} (p : Call → Prop) (attempt : Attempt Program α) : Prop :=
  ∀ steps outcome, Runs attempt steps outcome → ∀ call ∈ calls steps, p call

section Only

variable {α β : Type} {p : Call → Prop}

theorem only_pure (a : α) : Only p (pure a : Attempt Program α) := by
  rintro steps outcome h call hm
  obtain ⟨rfl, -⟩ := runs_pure.mp h
  exact absurd hm List.not_mem_nil

theorem only_throw (failure : Failure) : Only p (throw failure : Attempt Program α) := by
  rintro steps outcome h call hm
  obtain ⟨rfl, -⟩ := runs_throw.mp h
  exact absurd hm List.not_mem_nil

theorem only_ask {c : Call} (here : p c) : Only p (Program.ask c) := by
  rintro steps outcome h call hm
  obtain rfl := runs_ask.mp h
  rw [calls_called, calls_nil, List.mem_singleton] at hm
  rwa [hm]

theorem only_log (event : Log.Event) : Only p (ExceptT.lift (Program.surroundings.log event)) := by
  rintro steps outcome h call hm
  obtain ⟨rfl, -⟩ := runs_log.mp h
  exact absurd hm List.not_mem_nil

theorem Only.bind {m : Attempt Program α} {f : α → Attempt Program β} (hm : Only p m) (hf : ∀ a, Only p (f a)) :
    Only p (m >>= f) := by
  rintro steps outcome h call hc
  obtain ⟨_, h, -⟩ | ⟨a, s, t, hs, ht, rfl⟩ := runs_bind.mp h
  · exact hm _ _ h call hc
  · rw [calls_append, List.mem_append] at hc
    exact hc.elim (hm _ _ hs call) (hf a _ _ ht call)

theorem Only.onPersistenceFailure {step : Attempt Program Unit} {handle : Failure → Attempt Program Unit}
    (hs : Only p step) (hh : ∀ failure, Only p (handle failure)) : Only p (onPersistenceFailure step handle) := by
  rintro steps outcome h call hc
  obtain ⟨h, -⟩ | ⟨failure, s, t, first, -, ht, rfl⟩ := runs_onPersistenceFailure.mp h
  · exact hs _ _ h call hc
  · rw [calls_append, List.mem_append] at hc
    exact hc.elim (hs _ _ first call) (hh failure _ _ ht call)

end Only

/-! ## What follows the queue's answer -/

/-- **A call follows the answer** that the queue gave a creation on a connection: it is a switch, or it is about the
connection, and a job that it names is the one in the answer. -/
def Call.Follows (connection : Uuid) (answer : Except Failure (Option Int)) : Call → Prop
  | switch _ _ => True
  | updateConfig job _ => answer = .ok (some job)
  | currentGenerations other => other = connection
  | insertGenerations other job _ => other = connection ∧ answer = .ok (some job)
  | readState other => other = connection
  | writeState other _ => other = connection
  | deleteRequest other _ _ => other = connection
  | _ => False

/-- Nothing that follows the answer bears on resources. -/
theorem Call.Follows.isResourceQuestion {connection : Uuid} {answer : Except Failure (Option Int)} {call : Call}
    (h : call.Follows connection answer) : call.isResourceQuestion = false := by
  cases call with
  | text _ _ => exact h.elim
  | defaults _ _ _ => exact h.elim
  | _ => rfl

namespace Services

variable {connection : Uuid} {job : Int}

/-- The gate asks one switch. -/
theorem only_gate (inputs : JobInputs) (p : Call → Prop) (here : p (activationCall inputs)) :
    Only p (configured.collaborators.isEligibleFor inputs) :=
  only_ask here

theorem only_stamp (catalog : Catalog) (requests : List RefreshRequest) :
    Only (Call.Follows connection (.ok (some job))) (configured.collaborators.stamp catalog connection job requests) := by
  refine Only.bind (only_ask ?_) fun _ => only_pure _
  exact rfl

theorem only_bump (requests : List RefreshRequest) :
    Only (Call.Follows connection (.ok (some job))) (configured.collaborators.bump connection job requests) := by
  change Only _ (bumpGenerations Program.surroundings.generations connection job requests)
  unfold bumpGenerations
  dsimp only
  split
  · exact only_pure ()
  · refine Only.bind (only_ask ?_) fun _ => only_ask ?_
    · exact rfl
    · exact ⟨rfl, rfl⟩

theorem only_patch (config : JobConfig) :
    Only (Call.Follows connection (.ok (some job))) (configured.collaborators.patch job config) := by
  refine Only.onPersistenceFailure (only_ask ?_) fun _ => (only_log _).bind fun _ => only_throw _
  exact rfl

theorem only_clearSavedCursors {answer : Except Failure (Option Int)} (requests : List RefreshRequest) :
    Only (Call.Follows connection answer) (configured.collaborators.clearSavedCursors connection requests) := by
  refine Only.bind (only_ask ?_) fun saved => ?_
  · exact rfl
  cases saved with
  | none => exact only_pure ()
  | some state =>
    have put : Only (Call.Follows connection answer) (Program.ask (.writeState connection (state.strip requests))) :=
      only_ask rfl
    change Only _ (ConnectionJobs.clearCursors Program.surroundings.log Program.surroundings.states connection state requests)
    unfold ConnectionJobs.clearCursors
    split
    · exact only_log _
    · exact put
    · exact put

theorem only_deleteRequests {answer : Except Failure (Option Int)} (requests : List RefreshRequest) :
    Only (Call.Follows connection answer) (configured.collaborators.deleteRequests connection requests) := by
  induction requests with
  | nil => exact only_pure ()
  | cons request rest ih =>
    refine Only.bind (Only.onPersistenceFailure (only_ask ?_) fun _ => only_log _) fun _ => ih
    exact rfl

theorem only_cleanUp {answer : Except Failure (Option Int)} (requests : List RefreshRequest) :
    Only (Call.Follows connection answer) (configured.collaborators.cleanUp connection requests) :=
  ((only_clearSavedCursors requests).onPersistenceFailure fun _ => only_log _).bind fun _ => only_deleteRequests requests

end Services

/-! ## The shape of a creation -/

namespace CreationCall

/-- The source that a job is made for: a reset has none. -/
def source : CreationCall → SourceSide
  | sync inputs | refresh inputs _ => .live inputs.source
  | reset _ _ _ _ => .absent "reset"

/-- The definition of the destination that a job is made for. -/
def destination : CreationCall → ConnectorDefinition
  | sync inputs | refresh inputs _ => inputs.destination
  | reset _ destination _ _ => destination

/-- A call is for a reset. -/
def isReset : CreationCall → Bool
  | sync _ | refresh _ _ => false
  | reset _ _ _ _ => true

/-- The configuration that a job is enqueued with, given its resources. -/
def config (resources : Bundle) : CreationCall → JobConfig
  | sync inputs => .sync (Services.syncConfig inputs resources)
  | refresh inputs requests => .refresh (Services.refreshConfig inputs requests resources)
  | reset connection destination image streams => .reset (buildReset connection destination image resources streams)

/-- **Resolving the resources** of a job. -/
abbrev resolution (creation : CreationCall) : Attempt Program Bundle :=
  resolveResources Program.surroundings.log Program.surroundings.flags Program.surroundings.defaults creation.connection
    creation.source creation.destination creation.isReset

end CreationCall

/-- **The steps of a creation**, by whether it comes to the queue. -/
inductive Reaches (creation : CreationCall) : List Step → Prop
  /-- It ends before, and has only asked about the configuration. -/
  | opening {s : List Step} (questions : ∀ call ∈ calls s, call.isConfiguration = true) : Reaches creation s
  /-- It asks no more than a switch, resolves its resources and turns to the queue; the rest follows the answer. -/
  | queue {s t u : List Step} {resources : Bundle} {answer : Except Failure (Option Int)}
      (switches : ∀ call ∈ calls s, ∃ flag context, call = .switch flag context)
      (resolved : Runs creation.resolution t (.ok resources))
      (rest : ∀ call ∈ calls u, call.Follows creation.connection.connectionId answer) :
      Reaches creation (s ++ t ++
        .called (.enqueue creation.connection.connectionId.text (creation.config resources)) answer :: u)

section Reaches

variable {creation : CreationCall} {s steps : List Step} {outcome : Except Failure (Option Int)}

/-- Resources are resolved by asking about the configuration. -/
theorem questions_of_resolution {outcome : Except Failure Bundle} (h : Runs creation.resolution steps outcome) :
    ∀ call ∈ calls steps, call.isConfiguration = true := by
  intro call hm
  have question := (confined_resolveResources _ _ _ _).made h call hm
  cases call with
  | text _ _ => rfl
  | defaults _ _ _ => rfl
  | _ => exact nomatch question

/-- **Resolving, enqueuing and following the answer** is of the shape of a creation, after any switches. -/
theorem reaches_of_enqueue (creation : CreationCall) {next : Bundle → Option Int → Attempt Program (Option Int)}
    (switches : ∀ call ∈ calls s, ∃ flag context, call = .switch flag context)
    (follows : ∀ resources answer,
      Only (Call.Follows creation.connection.connectionId (.ok answer)) (next resources answer))
    (h : Runs (do
      let resources ← creation.resolution
      let answer ← Services.configured.collaborators.enqueue creation.connection.connectionId (creation.config resources)
      next resources answer) steps outcome) : Reaches creation (s ++ steps) := by
  rw [runs_bind] at h
  obtain ⟨_, failed, -⟩ | ⟨resources, t, u, resolved, h, rfl⟩ := h
  · refine .opening fun call hm => ?_
    rw [calls_append, List.mem_append] at hm
    obtain hm | hm := hm
    · obtain ⟨flag, context, rfl⟩ := switches call hm
      rfl
    · exact questions_of_resolution failed call hm
  rw [← List.append_assoc]
  rw [runs_bind] at h
  obtain ⟨_, failed, -⟩ | ⟨answer, u, v, made, h, rfl⟩ := h
  · obtain ⟨_, -, rfl⟩ | ⟨_, same, -⟩ := Services.runs_enqueue.mp failed
    · exact .queue switches resolved fun _ hm => absurd hm List.not_mem_nil
    · exact nomatch same
  · obtain ⟨_, same, -⟩ | ⟨_, same, rfl⟩ := Services.runs_enqueue.mp made
    · exact nomatch same
    · cases same
      exact .queue switches resolved fun call hm => follows resources answer _ _ h call hm

/-- **Every creation is of this shape.** -/
theorem reaches_of_runs (h : Runs (creation.attempt Program.surroundings.collaborators) steps outcome) :
    Reaches creation steps := by
  cases creation with
  | sync inputs =>
    refine reaches_of_enqueue (.sync inputs) (s := []) (fun _ hm => absurd hm List.not_mem_nil)
      (fun resources answer => ?_) h
    cases answer with
    | none => exact only_pure none
    | some job =>
      refine (Services.only_gate inputs _ trivial).bind fun eligible => ?_
      cases eligible with
      | false => exact (only_log _).bind fun _ => only_pure _
      | true =>
        exact (Services.only_stamp _ _).bind fun _ => (Services.only_patch _).bind fun _ => only_pure _
  | refresh inputs requests =>
    -- The gate comes first here, and whatever it answers, it has asked one switch.
    have opening : ∀ answer, Reaches (.refresh inputs requests) [.called (activationCall inputs) answer] := fun answer =>
      .opening fun call hm => by
        cases List.mem_singleton.mp hm
        rfl
    change Runs (Services.configured.collaborators.createRefresh inputs requests) steps outcome at h
    rw [Collaborators.createRefresh, runs_bind] at h
    obtain ⟨_, gate, -⟩ | ⟨eligible, s, t, gate, h, rfl⟩ := h
    · obtain rfl := Services.runs_gate.mp gate
      exact opening _
    obtain rfl := Services.runs_gate.mp gate
    cases eligible with
    | false =>
      rw [if_neg Bool.false_ne_true, runs_bind] at h
      obtain ⟨_, refused, -⟩ | ⟨_, _, _, refused, -⟩ := h
      · obtain ⟨rfl, -⟩ := runs_throw.mp refused
        exact opening _
      · cases (runs_throw.mp refused).2
    | true =>
      rw [if_pos rfl] at h
      refine reaches_of_enqueue (.refresh inputs requests) (fun call hm => ⟨_, _, List.mem_singleton.mp hm⟩)
        (fun resources answer => ?_) h
      cases answer with
      | none => exact only_pure none
      | some job =>
        exact (Services.only_bump _).bind fun _ => (Services.only_stamp _ _).bind fun _ =>
          (Services.only_patch _).bind fun _ => (Services.only_cleanUp _).bind fun _ => only_pure _
  | reset connection destination image streams =>
    -- A reset answers what the queue does, and does nothing more.
    change Runs (Services.configured.collaborators.createReset connection destination image streams) steps outcome at h
    rw [Collaborators.createReset, runs_bind] at h
    refine reaches_of_enqueue (.reset connection destination image streams) (s := [])
      (fun _ hm => absurd hm List.not_mem_nil) (fun _ answer => only_pure answer) (runs_bind.mpr (h.imp id ?_))
    rintro ⟨resources, s, t, resolved, made, same⟩
    exact ⟨resources, s, t, resolved, runs_bind_pure.mpr made, same⟩

end Reaches

end ConnectionJobs
