import ConnectionJobs.Proofs.Resource.Precedence

/-!
# When a resolution answers

A resolution over a flag table and a defaults catalog has many ways to meet something odd: a blank override, a
malformed one, a variant that no entry is for, a role without a table. None of them ends it. The catalog always falls
back to something, and an override that cannot be read overrides nothing. What does end it is a flag that the table
gives a switch, because a flag that is to be a text is then refused where it is evaluated.

So a resolution *hinges* on the flags it asks for, and on nothing else (`FlagTable.Decides`). Two attempts in a row
hinge on the flags of both, and the flags of a whole resolution are read off its parts. An override whose flag is not
asked, as that of the source of a reset, may hold anything.
-/

namespace ConnectionJobs

/-- **The flags that a resolution asks for**, in order: the override of the source only when one takes part. -/
def Flag.asked (source : SourceSide) (isReset : Bool) : List (Flag String) :=
  (if (participatingSource source isReset).isSome then [sourceOverrides] else []) ++
    [resourceVariant, orchestratorOverrides, destinationOverrides]

namespace FlagTable

/-- **A table gives a flag a text** in a context: its override there, or its value, or else the default. -/
def GivesText (table : FlagTable) (context : Flag.Context) (flag : Flag String) : Prop :=
  ∃ text, table.resolve flag.key (.text flag.fallback) context = .text text

/-- **A table decides an outcome** that hinges on some flags: an answer when it gives each of them a text, and
otherwise the complaint about the first one that it gives a switch. -/
inductive Decides {α : Type} (table : FlagTable) (context : Flag.Context) (flags : List (Flag String)) :
    Except Failure α → Prop
  /-- Every flag is given a text. -/
  | answered (answer : α) (texts : ∀ flag ∈ flags, table.GivesText context flag) : Decides table context flags (.ok answer)
  /-- The first flag that is not given a text is given a switch. -/
  | mistyped {before after : List (Flag String)} {flag : Flag String} {on : Bool}
      (split : flags = before ++ flag :: after) (texts : ∀ other ∈ before, table.GivesText context other)
      (given : table.resolve flag.key (.text flag.fallback) context = .switch on) :
      Decides table context flags (.error (.mistypedFlag ⟨flag.key, .switch on⟩))

variable {α : Type} {table : FlagTable} {context : Flag.Context} {flags : List (Flag String)}

/-- **There is an answer exactly when every flag is given a text.** -/
theorem Decides.answers_iff {outcome : Except Failure α} (decides : table.Decides context flags outcome) :
    (∃ answer, outcome = .ok answer) ↔ ∀ flag ∈ flags, table.GivesText context flag := by
  cases decides with
  | answered answer texts => exact ⟨fun _ => texts, fun _ => ⟨answer, rfl⟩⟩
  | mistyped split _ given =>
    refine ⟨fun ⟨_, same⟩ => (nomatch same), fun texts => ?_⟩
    obtain ⟨text, same⟩ := texts _ (by rw [split]; exact List.mem_append_right _ List.mem_cons_self)
    exact nomatch given.symm.trans same

end FlagTable

/-! ## Attempts that hinge on flags -/

section Hinges

variable {n : Type → Type} [Monad n] {α β : Type}

/-- **An attempt reports some events and has an outcome**, and that is all it does. -/
def Settles (log : Log.Sink n) (attempt : Attempt n α) (reports : List Log.Event) (outcome : Except Failure α) : Prop :=
  attempt.run = do
    Log.reportAll log reports
    return outcome

/-- **An attempt hinges on some flags** of a table: it does nothing but report, and the table decides its outcome. -/
def Hinges (log : Log.Sink n) (table : FlagTable) (context : Flag.Context) (flags : List (Flag String))
    (attempt : Attempt n α) : Prop :=
  ∃ reports outcome, Settles log attempt reports outcome ∧ table.Decides context flags outcome

variable {log : Log.Sink n} {table : FlagTable} {context : Flag.Context} {flags more : List (Flag String)}

/-- An attempt that answers whatever the table holds hinges on no flag. -/
theorem Answers.hinges {attempt : Attempt n α} {reports : List Log.Event} {answer : α}
    (answers : Answers log attempt reports answer) : Hinges log table context [] attempt :=
  ⟨reports, .ok answer, answers, .answered answer (List.forall_mem_nil _)⟩

variable [LawfulMonad n]

/-- **Two attempts in a row hinge on the flags of both**, those of the first one first. -/
theorem Hinges.bind {m : Attempt n α} {f : α → Attempt n β} (first : Hinges log table context flags m)
    (second : ∀ a, Hinges log table context more (f a)) : Hinges log table context (flags ++ more) (m >>= f) := by
  obtain ⟨reports, _, settles, decides⟩ := first
  cases decides with
  | answered a texts =>
    obtain ⟨later, outcome, rest, decides⟩ := second a
    refine ⟨reports ++ later, outcome, ?_, ?_⟩
    · rw [Settles] at settles rest
      rw [Settles, ExceptT.run_bind, settles, bind_assoc, reportAll_append, bind_assoc]
      congr 1
      funext _
      rw [pure_bind]
      exact rest
    · cases decides with
      | answered b others => exact .answered b (List.forall_mem_append.mpr ⟨texts, others⟩)
      | @mistyped before after flag on split others given =>
        have parts : flags ++ more = flags ++ before ++ flag :: after := by rw [split, List.append_assoc]
        exact .mistyped parts (List.forall_mem_append.mpr ⟨texts, others⟩) given
  | @mistyped before after flag on split texts given =>
    refine ⟨reports, .error (.mistypedFlag ⟨flag.key, .switch on⟩), ?_, ?_⟩
    · rw [Settles] at settles ⊢
      rw [ExceptT.run_bind, settles, bind_assoc]
      congr 1
      funext _
      rw [pure_bind]
    · have parts : flags ++ more = before ++ flag :: (after ++ more) := by
        rw [split, List.append_assoc, List.cons_append]
      exact .mistyped parts texts given

/-- **A flag that is evaluated hinges on itself.** -/
theorem hinges_text (flag : Flag String) : Hinges log table context [flag] (table.source.text flag context) := by
  have run : (table.source.text flag context : Attempt n String).run =
      pure ((table.evaluateText flag context).mapError .mistypedFlag) := rfl
  have settles : Settles log (table.source.text flag context) []
      ((table.evaluateText flag context).mapError .mistypedFlag) := by
    rw [Settles, run, Log.reportAll, pure_bind]
  refine ⟨[], _, settles, ?_⟩
  unfold FlagTable.evaluateText FlagTable.textAt
  cases given : table.resolve flag.key (.text flag.fallback) context with
  | text text => exact .answered text (List.forall_mem_singleton.mpr ⟨text, given⟩)
  | switch on =>
    have first : [flag] = [] ++ flag :: [] := rfl
    exact .mistyped first (List.forall_mem_nil _) given

/-- An override hinges on its flag, whatever its text says. -/
theorem hinges_evaluateOverride (category : String) (flag : Flag String) :
    Hinges log table context [flag] (evaluateOverride log table.source context category flag) :=
  (hinges_text flag).bind fun payload => (answers_parseOverride log category payload).hinges

/-! ## Resolutions -/

variable (catalog : DefaultsCatalog) (connection : Connection) (source : SourceSide) (destination : ConnectorDefinition)
  (isReset : Bool)

/-- **A policy hinges on the flags that are asked for.** -/
theorem hinges_assemblePolicy :
    Hinges log table context (Flag.asked source isReset)
      (assemblePolicy log table.source context (participatingSource source isReset).isSome) := by
  have shared : ∀ sourceOverride, Hinges log table context
      [.resourceVariant, .orchestratorOverrides, .destinationOverrides] _ := fun sourceOverride =>
    (hinges_text .resourceVariant).bind fun variant =>
      (hinges_evaluateOverride "ORCHESTRATOR" .orchestratorOverrides).bind fun orchestratorOverride =>
        (hinges_evaluateOverride "DESTINATION" .destinationOverrides).bind fun destinationOverride =>
          (answers_pure log (Policy.mk variant orchestratorOverride sourceOverride destinationOverride)).hinges
  unfold assemblePolicy Flag.asked
  cases (participatingSource source isReset).isSome with
  | true => exact (hinges_evaluateOverride "SOURCE" .sourceOverrides).bind shared
  | false => exact (answers_pure log none).hinges.bind shared

/-- **Resolving over a catalog hinges on no flag**, under any policy: every look-up answers. -/
theorem hinges_resolveWith (policy : Policy) :
    Hinges log table context [] (resolveWith catalog.source policy connection source destination isReset) := by
  unfold resolveWith
  cases participatingSource source isReset with
  | none =>
    simp only [DefaultsCatalog.source, pure_bind]
    exact (answers_pure log _).hinges
  | some definition =>
    simp only [resolveSource, DefaultsCatalog.source, pure_bind, map_pure]
    exact (answers_pure log _).hinges

variable (log table)

/-- **A resolution answers exactly when the flags it asks for are given texts.** Over a flag table and a defaults
catalog it does nothing but report, and it always comes to an end. It ends in a bundle when the table gives a text to
each flag it asks for, whatever the texts say; otherwise it ends in the complaint about the first flag, in the order in
which they are asked, that the table gives a switch. -/
theorem resolveResources_answers_iff :
    ∃ reports outcome,
      Settles log (resolveResources log table.source catalog.source connection source destination isReset) reports
        outcome ∧
      table.Decides (resourceContext connection source destination) (Flag.asked source isReset) outcome ∧
      ((∃ bundle, outcome = .ok bundle) ↔
        ∀ flag ∈ Flag.asked source isReset, table.GivesText (resourceContext connection source destination) flag) := by
  have hinges : Hinges log table (resourceContext connection source destination) (Flag.asked source isReset ++ [])
      (resolveResources log table.source catalog.source connection source destination isReset) :=
    (hinges_assemblePolicy source isReset).bind fun policy =>
      hinges_resolveWith catalog connection source destination isReset policy
  rw [List.append_nil] at hinges
  obtain ⟨reports, outcome, settles, decides⟩ := hinges
  exact ⟨reports, outcome, settles, decides, decides.answers_iff⟩

end Hinges

namespace OddTable

/-- A variant that no entry is for, an override that is no document, and a switch where the override of the source is
to be. -/
def table : FlagTable :=
  ⟨[(Flag.resourceVariant.key, .text "huge"), (Flag.orchestratorOverrides.key, .text "huge"),
    (Flag.sourceOverrides.key, .switch true)], []⟩

/-- A reset answers over this table, and a job with a source does not. -/
theorem answers_reset :
    (∃ reports bundle, Settles (n := Id) (fun _ => ()) (resolveResources (fun _ => ()) table.source
        (default : DefaultsCatalog).source default (.absent "reset") default true) reports (.ok bundle)) ∧
      ∃ reports outcome, Settles (n := Id) (fun _ => ()) (resolveResources (fun _ => ()) table.source
          (default : DefaultsCatalog).source default (.live default) default false) reports outcome ∧
        table.Decides (resourceContext default (.live default) default) (Flag.asked (.live default) false) outcome ∧
          ¬ ∃ bundle, outcome = .ok bundle := by
  refine ⟨?_, ?_⟩
  · obtain ⟨reports, outcome, settles, -, answers⟩ := resolveResources_answers_iff (n := Id) (fun _ => ()) table default
      default (.absent "reset") default true
    have texts : ∀ flag ∈ Flag.asked (.absent "reset") true,
        table.GivesText (resourceContext default (.absent "reset") default) flag :=
      List.forall_mem_cons.mpr ⟨⟨"huge", rfl⟩, List.forall_mem_cons.mpr ⟨⟨"huge", rfl⟩,
        List.forall_mem_singleton.mpr ⟨"", rfl⟩⟩⟩
    obtain ⟨bundle, rfl⟩ := answers.mpr texts
    exact ⟨reports, bundle, settles⟩
  · obtain ⟨reports, outcome, settles, decides, answers⟩ := resolveResources_answers_iff (n := Id) (fun _ => ()) table
      default default (.live default) default false
    refine ⟨reports, outcome, settles, decides, fun answered => ?_⟩
    obtain ⟨text, given⟩ := answers.mp answered Flag.sourceOverrides List.mem_cons_self
    exact nomatch given

end OddTable

/-! ## A variant that is a switch -/

namespace MistypedVariant

/-- A flag table in which the variant of the defaults table is a switch. -/
def table : FlagTable := ⟨[(Flag.resourceVariant.key, .switch true)], []⟩

/-- **A table can keep a resolution from answering.** -/
theorem exists_unanswered :
    ¬ ∀ (table : FlagTable) (catalog : DefaultsCatalog) (connection : Connection) (source : SourceSide)
      (destination : ConnectorDefinition) (isReset : Bool), ∃ bundle reports,
        Answers (n := Id) (fun _ => ()) (resolveResources (fun _ => ()) table.source catalog.source connection source
          destination isReset) reports bundle := by
  intro always
  obtain ⟨bundle, reports, answers⟩ := always table default default (.absent "reset") default true
  have silent : ∀ reports, Log.reportAll (n := Id) (fun _ => ()) reports = () := fun _ => rfl
  have refused : (resolveResources (n := Id) (fun _ => ()) table.source (default : DefaultsCatalog).source default
      (.absent "reset") default true).run = .error (.mistypedFlag ⟨Flag.resourceVariant.key, .switch true⟩) := rfl
  rw [Answers, refused, silent] at answers
  cases answers

end MistypedVariant

end ConnectionJobs
