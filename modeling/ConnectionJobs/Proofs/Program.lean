import ConnectionJobs.Job.Creation

/-!
# Creations as programs

Job creation is written over an effect that the surroundings choose. To say what a creation does *whatever* its
surroundings do, it is run in the effect that decides nothing: a **program** is either done, or reports an event
and goes on, or makes a call on a port and goes on with whatever the port answers. A program is thus a tree with
one branch for every answer, failures included, and a path through it is one way in which the creation can go.

What a path passes is its list of **steps**: the reports, and the calls with their outcomes. A claim about every
behaviour of the ports is a claim about every path.
-/

namespace ConnectionJobs

/-- **A call** on a port, with its arguments: on flags and defaults, on the components of a creation, on the queue, and
on the stores of generations, states and requests. A component that is built on other ports, such as the one that
bumps generations, can be a port itself, or the library's own over the ports below it. -/
inductive Call where
  | switch (flag : Flag Bool) (context : Flag.Context)
  | text (flag : Flag String) (context : Flag.Context)
  | defaults (role : Role) (subType : Option String) (variant : String)
  | eligibility (workspace connection source destination : Uuid)
  | resolve (connection : Connection) (source : SourceSide) (destination : ConnectorDefinition) (isReset : Bool)
  | enqueue (scope : String) (config : JobConfig)
  | updateConfig (job : Int) (config : JobConfig)
  | bump (connection : Uuid) (job : Int) (requests : List RefreshRequest)
  | stamp (catalog : Catalog) (connection : Uuid) (job : Int) (refreshed : List RefreshRequest)
  | currentGenerations (connection : Uuid)
  | insertGenerations (connection : Uuid) (job : Int) (generations : List (StreamId × Int))
  | readState (connection : Uuid)
  | writeState (connection : Uuid) (state : SavedState)
  | clearCursors (connection : Uuid) (state : SavedState) (requests : List RefreshRequest)
  | deleteRequest (connection : Uuid) (name : String) (space : Option String)

/-- **What a call is answered** when it does not fail. -/
@[reducible] def Call.Answer : Call → Type
  | switch _ _ => Bool
  | text _ _ => String
  | defaults _ _ _ => Quantities
  | eligibility _ _ _ _ => Bool
  | resolve _ _ _ _ => Bundle
  | enqueue _ _ => Option Int
  | updateConfig _ _ => Unit
  | bump _ _ _ => Unit
  | stamp _ _ _ _ => Catalog
  | currentGenerations _ => Generations
  | insertGenerations _ _ _ => Unit
  | readState _ => Option SavedState
  | writeState _ _ => Unit
  | clearCursors _ _ _ => Unit
  | deleteRequest _ _ _ => Unit

/-- **A step** on a path. -/
inductive Step where
  /-- An event is reported. -/
  | reported (event : Log.Event)
  /-- A call is made, and it has an outcome. -/
  | called (call : Call) (outcome : Except Failure call.Answer)

/-- The call of a step. -/
def Step.call? : Step → Option Call
  | called call _ => some call
  | reported _ => none

/-- **A program** that answers a value of type `α`. -/
inductive Program (α : Type) : Type where
  /-- The program is done. -/
  | done (value : α)
  /-- Report an event, and go on. -/
  | report (event : Log.Event) (next : Program α)
  /-- Make a call, and go on with its outcome. -/
  | call (call : Call) (next : Except Failure call.Answer → Program α)

namespace Program

variable {α β : Type}

/-- One program after another. -/
def andThen : Program α → (α → Program β) → Program β
  | done value, next => next value
  | report event rest, next => .report event (rest.andThen next)
  | call c rest, next => .call c fun outcome => (rest outcome).andThen next

instance : Monad Program where
  pure := done
  bind := andThen

/-- **A program leads along steps** to what is left of it then. -/
inductive Leads : Program α → List Step → Program α → Prop
  /-- Nothing has been done yet. -/
  | here (program : Program α) : Leads program [] program
  /-- An event has been reported. -/
  | report {event : Log.Event} {next rest : Program α} {steps : List Step} :
      Leads next steps rest → Leads (.report event next) (.reported event :: steps) rest
  /-- A call has been made, and has had an outcome. -/
  | call {c : Call} {next : Except Failure c.Answer → Program α} {outcome : Except Failure c.Answer}
      {rest : Program α} {steps : List Step} :
      Leads (next outcome) steps rest → Leads (.call c next) (.called c outcome :: steps) rest

/-- **A path** through a program: the steps it takes until it is done, and the value it answers. -/
def Takes (program : Program α) (steps : List Step) (value : α) : Prop := program.Leads steps (.done value)

/-- Every program has a path, and so everything that is left of one has. -/
theorem exists_takes (program : Program α) : ∃ steps value, program.Takes steps value := by
  induction program with
  | done value => exact ⟨[], value, .here _⟩
  | report event next ih =>
    obtain ⟨steps, value, h⟩ := ih
    exact ⟨.reported event :: steps, value, .report h⟩
  | call c next ih =>
    obtain ⟨steps, value, h⟩ := ih (.error (.foreign "" ""))
    exact ⟨.called c _ :: steps, value, .call h⟩

/-- What is left after some steps leads on from there. -/
theorem Leads.append {p q r : Program α} {s t : List Step} (hp : p.Leads s q) (hq : q.Leads t r) :
    p.Leads (s ++ t) r := by
  induction hp with
  | here _ => exact hq
  | report _ ih => exact .report (ih hq)
  | call _ ih => exact .call (ih hq)

/-- **Steps that a program leads along begin one of its paths**, so what holds of the beginnings of all paths
holds of a creation that is still under way. -/
theorem Leads.exists_takes {p q : Program α} {s : List Step} (h : p.Leads s q) :
    ∃ t value, p.Takes (s ++ t) value := by
  obtain ⟨t, value, ht⟩ := Program.exists_takes q
  exact ⟨t, value, h.append ht⟩

theorem takes_done {value value' : α} {steps : List Step} :
    (done value).Takes steps value' ↔ steps = [] ∧ value' = value := by
  constructor
  · rintro ⟨⟩
    exact ⟨rfl, rfl⟩
  · rintro ⟨rfl, rfl⟩
    exact .here _

/-- **The paths of two programs in a row** are the paths of the first continued by paths of the second. -/
theorem takes_andThen {p : Program α} {next : α → Program β} {steps : List Step} {b : β} :
    (p.andThen next).Takes steps b ↔
      ∃ a s t, p.Takes s a ∧ (next a).Takes t b ∧ steps = s ++ t := by
  constructor
  · intro h
    induction p generalizing steps with
    | done value => exact ⟨value, [], steps, .here _, h, rfl⟩
    | report event rest ih =>
      cases h with
      | report h =>
        obtain ⟨a, s, t, hs, ht, rfl⟩ := ih h
        exact ⟨a, .reported event :: s, t, .report hs, ht, rfl⟩
    | call c rest ih =>
      cases h with
      | call h =>
        obtain ⟨a, s, t, hs, ht, rfl⟩ := ih _ h
        exact ⟨a, .called c _ :: s, t, .call hs, ht, rfl⟩
  · rintro ⟨a, s, t, hs, ht, rfl⟩
    induction p generalizing s with
    | done value =>
      obtain ⟨rfl, rfl⟩ := takes_done.mp hs
      exact ht
    | report event rest ih =>
      cases hs with
      | report hs => exact .report (ih _ hs)
    | call c rest ih =>
      cases hs with
      | call hs => exact .call (ih _ _ hs)

end Program

/-! ## Reading steps -/

/-- The calls among some steps, in order. -/
def calls (steps : List Step) : List Call := steps.filterMap Step.call?

section Reading

variable {s t : List Step}

@[simp] theorem calls_nil : calls [] = [] := rfl

@[simp] theorem calls_called (call : Call) (answer : Except Failure call.Answer) :
    calls (.called call answer :: s) = call :: calls s := rfl

@[simp] theorem calls_reported (event : Log.Event) : calls (.reported event :: s) = calls s := rfl

@[simp] theorem calls_append : calls (s ++ t) = calls s ++ calls t := List.filterMap_append

/-- A call that is made is the call of a step. -/
theorem mem_calls {call : Call} : call ∈ calls s ↔ ∃ answer, .called call answer ∈ s := by
  induction s with
  | nil => simp
  | cons step rest ih =>
    cases step with
    | reported event => simp [ih]
    | called c answer =>
      rw [calls_called, List.mem_cons, ih]
      constructor
      · rintro (rfl | ⟨other, h⟩)
        · exact ⟨answer, List.mem_cons_self⟩
        · exact ⟨other, List.mem_cons_of_mem _ h⟩
      · rintro ⟨other, h⟩
        obtain h | h := List.mem_cons.mp h
        · cases h
          exact .inl rfl
        · exact .inr ⟨other, h⟩

/-- What is not in the first part of a list is further down. -/
theorem exists_of_append_eq {α : Type} {s t before after : List α} {a : α} (h : s ++ t = before ++ a :: after)
    (first : a ∉ s) : ∃ r, before = s ++ r ∧ t = r ++ a :: after := by
  obtain ⟨r, hb, ht⟩ | ⟨r, hs, hc⟩ := List.append_eq_append_iff.mp h
  · exact ⟨r, hb, ht⟩
  · cases r with
    | nil =>
      rw [List.append_nil] at hs
      exact ⟨[], by rw [List.append_nil, hs], hc.symm⟩
    | cons head rest =>
      rw [List.cons_append, List.cons.injEq] at hc
      exact absurd (by simp [hs, hc.1]) first

/-- What is not in the second part of a list is in the first. -/
theorem exists_of_append_eq_left {α : Type} {s t before after : List α} {a : α} (h : s ++ t = before ++ a :: after)
    (second : a ∉ t) : ∃ r, s = before ++ a :: r ∧ after = r ++ t := by
  obtain ⟨r, -, ht⟩ | ⟨r, hs, hc⟩ := List.append_eq_append_iff.mp h
  · exact absurd (by simp [ht]) second
  · cases r with
    | nil => exact absurd (by simp [← show a :: after = t from hc]) second
    | cons head rest =>
      rw [List.cons_append, List.cons.injEq] at hc
      exact ⟨rest, by rw [hs, hc.1], hc.2⟩

end Reading

/-! ## Runs of attempts

An attempt in the effect of programs is a program that answers an outcome. Its runs are described from its parts:
one lemma for each way of putting attempts together. -/

/-- **A run of an attempt**: the steps it takes, and its outcome. -/
def Runs {α : Type} (attempt : Attempt Program α) (steps : List Step) (outcome : Except Failure α) : Prop :=
  attempt.run.Takes steps outcome

section Runs

variable {α β : Type} {steps : List Step}

theorem runs_pure {a : α} {outcome : Except Failure α} :
    Runs (pure a) steps outcome ↔ steps = [] ∧ outcome = .ok a :=
  Program.takes_done

theorem runs_throw {failure : Failure} {outcome : Except Failure α} :
    Runs (throw failure) steps outcome ↔ steps = [] ∧ outcome = .error failure :=
  Program.takes_done

/-- **Two attempts in a row**: either the first fails, and that is all, or the second goes on from its answer. -/
theorem runs_bind {m : Attempt Program α} {f : α → Attempt Program β} {outcome : Except Failure β} :
    Runs (m >>= f) steps outcome ↔
      (∃ failure, Runs m steps (.error failure) ∧ outcome = .error failure) ∨
        ∃ a s t, Runs m s (.ok a) ∧ Runs (f a) t outcome ∧ steps = s ++ t := by
  refine Program.takes_andThen.trans ⟨?_, ?_⟩
  · rintro ⟨first, s, t, hs, ht, rfl⟩
    cases first with
    | error failure =>
      -- A failure is an answer of the first program, and the second is done at once.
      obtain ⟨rfl, rfl⟩ := Program.takes_done.mp ht
      rw [List.append_nil]
      exact .inl ⟨failure, hs, rfl⟩
    | ok a => exact .inr ⟨a, s, t, hs, ht, rfl⟩
  · rintro (⟨failure, hm, rfl⟩ | ⟨a, s, t, hs, ht, rfl⟩)
    · exact ⟨.error failure, steps, [], hm, .here _, (List.append_nil _).symm⟩
    · exact ⟨.ok a, s, t, hs, ht, rfl⟩

/-- An attempt with its answer changed is the attempt, and then an answer. -/
theorem map_eq_bind (f : α → β) (m : Attempt Program α) : f <$> m = m >>= fun a => pure (f a) :=
  congrArg (Program.andThen m.run) (funext fun first => by cases first <;> rfl)

/-- Two attempts in a row that answer both do. -/
theorem runs_bind_ok {m : Attempt Program α} {f : α → Attempt Program β} {b : β} :
    Runs (m >>= f) steps (.ok b) ↔ ∃ a s t, Runs m s (.ok a) ∧ Runs (f a) t (.ok b) ∧ steps = s ++ t := by
  rw [runs_bind, or_iff_right]
  exact fun ⟨_, _, same⟩ => nomatch same

/-- Answering what has been answered adds nothing. -/
theorem runs_bind_pure {m : Attempt Program α} {outcome : Except Failure α} :
    Runs (m >>= pure) steps outcome ↔ Runs m steps outcome := by
  rw [runs_bind]
  constructor
  · rintro (⟨failure, h, rfl⟩ | ⟨a, s, t, hs, ht, rfl⟩)
    · exact h
    · obtain ⟨rfl, rfl⟩ := runs_pure.mp ht
      rwa [List.append_nil]
  · intro h
    cases outcome with
    | error failure => exact .inl ⟨failure, h, rfl⟩
    | ok a => exact .inr ⟨a, steps, [], h, runs_pure.mpr ⟨rfl, rfl⟩, (List.append_nil _).symm⟩

/-- **A program as an attempt** answers what the program answers. -/
theorem runs_lift {p : Program α} {outcome : Except Failure α} :
    Runs (ExceptT.lift p) steps outcome ↔ ∃ a, p.Takes steps a ∧ outcome = .ok a := by
  refine Program.takes_andThen.trans ⟨?_, ?_⟩
  · rintro ⟨a, s, t, hs, ht, rfl⟩
    obtain ⟨rfl, rfl⟩ := Program.takes_done.mp ht
    rw [List.append_nil]
    exact ⟨a, hs, rfl⟩
  · rintro ⟨a, hs, rfl⟩
    exact ⟨a, steps, [], hs, .here _, (List.append_nil _).symm⟩

/-- **An attempt whose failures are caught**: it answers, and that is all, or its failure is handled. -/
theorem runs_tryCatch {m : Attempt Program α} {handle : Failure → Attempt Program α}
    {outcome : Except Failure α} :
    Runs (tryCatch m handle) steps outcome ↔
      (∃ a, Runs m steps (.ok a) ∧ outcome = .ok a) ∨
        ∃ failure s t, Runs m s (.error failure) ∧ Runs (handle failure) t outcome ∧ steps = s ++ t := by
  refine Program.takes_andThen.trans ⟨?_, ?_⟩
  · rintro ⟨first, s, t, hs, ht, rfl⟩
    cases first with
    | error failure => exact .inr ⟨failure, s, t, hs, ht, rfl⟩
    | ok a =>
      obtain ⟨rfl, rfl⟩ := Program.takes_done.mp ht
      rw [List.append_nil]
      exact .inl ⟨a, hs, rfl⟩
  · rintro (⟨a, hm, rfl⟩ | ⟨failure, s, t, hs, ht, rfl⟩)
    · exact ⟨.ok a, steps, [], hm, .here _, (List.append_nil _).symm⟩
    · exact ⟨.error failure, s, t, hs, ht, rfl⟩

/-- **A step whose persistence failures are handled**: every other outcome of it stays. -/
theorem runs_onPersistenceFailure {step : Attempt Program Unit} {handle : Failure → Attempt Program Unit}
    {outcome : Except Failure Unit} :
    Runs (onPersistenceFailure step handle) steps outcome ↔
      (Runs step steps outcome ∧ ∀ failure, outcome = .error failure → failure.isPersistence = false) ∨
        ∃ failure s t, Runs step s (.error failure) ∧ failure.isPersistence = true ∧
          Runs (handle failure) t outcome ∧ steps = s ++ t := by
  refine runs_tryCatch.trans ⟨?_, ?_⟩
  · rintro (⟨a, hm, rfl⟩ | ⟨failure, s, t, hs, ht, rfl⟩)
    · exact .inl ⟨hm, fun _ h => nomatch h⟩
    · by_cases hp : failure.isPersistence = true
      · rw [if_pos hp] at ht
        exact .inr ⟨failure, s, t, hs, hp, ht, rfl⟩
      · rw [if_neg hp, runs_throw] at ht
        obtain ⟨rfl, rfl⟩ := ht
        rw [List.append_nil]
        refine .inl ⟨hs, fun other h => ?_⟩
        cases h
        exact Bool.eq_false_iff.mpr hp
  · rintro (⟨hm, hp⟩ | ⟨failure, s, t, hs, hp, ht, rfl⟩)
    · cases outcome with
      | ok a => exact .inl ⟨a, hm, rfl⟩
      | error failure =>
        refine .inr ⟨failure, steps, [], hm, ?_, (List.append_nil _).symm⟩
        rw [if_neg (Bool.eq_false_iff.mp (hp failure rfl)), runs_throw]
        exact ⟨rfl, rfl⟩
    · refine .inr ⟨failure, s, t, hs, ?_, rfl⟩
      rwa [if_pos hp]

end Runs

/-! ## Ports that leave everything open -/

namespace Program

/-- Make one call. -/
def ask (c : Call) : Attempt Program c.Answer := ExceptT.mk (.call c .done)

/-- **Surroundings that decide nothing**: every operation is one call, and every event is reported. -/
def surroundings : Surroundings Program where
  log event := .report event (.done ())
  flags :=
    { switch := fun flag context => ask (.switch flag context)
      text := fun flag context => ask (.text flag context) }
  defaults := { lookup := fun role subType variant => ask (.defaults role subType variant) }
  queue :=
    { enqueue := fun scope config => ask (.enqueue scope config)
      updateConfig := fun job config => ask (.updateConfig job config) }
  generations :=
    { current := fun connection => ask (.currentGenerations connection)
      insert := fun connection job generations => ask (.insertGenerations connection job generations) }
  states :=
    { get := fun connection => ask (.readState connection)
      put := fun connection state => ask (.writeState connection state) }
  requests := { delete := fun connection name space => ask (.deleteRequest connection name space) }

end Program

theorem runs_ask {c : Call} {steps : List Step} {outcome : Except Failure c.Answer} :
    Runs (Program.ask c) steps outcome ↔ steps = [.called c outcome] := by
  constructor
  · rintro (_ | _ | ⟨⟨⟩⟩)
    rfl
  · rintro rfl
    exact .call (.here _)

theorem runs_log {event : Log.Event} {steps : List Step} {outcome : Except Failure Unit} :
    Runs (ExceptT.lift (Program.surroundings.log event)) steps outcome ↔
      steps = [.reported event] ∧ outcome = .ok () := by
  constructor
  · rintro (_ | ⟨⟨⟩⟩)
    exact ⟨rfl, rfl⟩
  · rintro ⟨rfl, rfl⟩
    exact .report (.here _)

/-- **The components of a creation** that stand between it and its stores. -/
structure Services (n : Type → Type) where
  /-- What resolves the resources of a job. -/
  resolve : Connection → SourceSide → ConnectorDefinition → Bool → Attempt n Bundle
  /-- What decides whether refreshes are enabled. -/
  isEligible : Uuid → Uuid → Uuid → Uuid → Attempt n Bool
  /-- What stamps catalogs. -/
  stamp : Catalog → Uuid → Int → List RefreshRequest → Attempt n Catalog
  /-- What bumps generations. -/
  bump : Uuid → Int → List RefreshRequest → Attempt n Unit
  /-- What clears the cursors of refreshed streams. -/
  clearCursors : Uuid → SavedState → List RefreshRequest → Attempt n Unit

namespace Services

/-- **Components that decide nothing either**: each is a port of its own. -/
def ported : Services Program where
  resolve connection source destination isReset := Program.ask (.resolve connection source destination isReset)
  isEligible workspace connection source destination :=
    Program.ask (.eligibility workspace connection source destination)
  stamp catalog connection job refreshed := Program.ask (.stamp catalog connection job refreshed)
  bump connection job requests := Program.ask (.bump connection job requests)
  clearCursors connection state requests := Program.ask (.clearCursors connection state requests)

/-- A creation with these components, over a queue and stores that decide nothing. -/
def collaborators (k : Services Program) : Collaborators Program where
  log := Program.surroundings.log
  queue := Program.surroundings.queue
  resolve := k.resolve
  isEligible := k.isEligible
  stamp := k.stamp
  bump := k.bump
  readState := Program.surroundings.states.get
  clearCursors := k.clearCursors
  requests := Program.surroundings.requests

end Services

end ConnectionJobs
