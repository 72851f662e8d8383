import ConnectionJobs.Proofs.Program
import ConnectionJobs.Proofs.Resource.Settling

/-!
# What a resolution asks

The source of flags may answer differently each time it is asked, so two questions about the variant could size two
roles of one job by two different tables, and nothing would fail. A resolution is safe from that because it asks by a
*script*: first the flags, each of them once and all in one context, and then the defaults of each role, once, by the
one variant that the flags answered. Only a failure ends it before the script does.

That an attempt follows a script is shown part by part, as the script is put together: one question, and two scripts
in a row.
-/

namespace ConnectionJobs

/-- The key of the flag that a call asks for. -/
def Call.flag? : Call → Option String
  | switch flag _ => some flag.key
  | text flag _ => some flag.key
  | _ => none

/-- The role whose defaults a call looks up. -/
def Call.role? : Call → Option Role
  | defaults role _ _ => some role
  | _ => none

/-- **The roles whose defaults a resolution looks up**, in order: those of the source only when one takes part. -/
def Role.lookedUp (source : SourceSide) (isReset : Bool) : List Role :=
  [orchestrator, destination] ++
    (if (participatingSource source isReset).isSome then [Role.source, sourceStdout, sourceStderr] else []) ++
      [destinationStdin, destinationStdout, destinationStderr, heartbeat]

section Scripts

variable (connection : Connection) (source : SourceSide) (destination : ConnectorDefinition) (isReset : Bool)

/-- The flags that a resolution asks for, in the context of its job. -/
def flagScript : List Call :=
  (Flag.asked source isReset).map fun flag => .text flag (resourceContext connection source destination)

/-- The defaults that a resolution looks up by a key. -/
def lookupScript (key : BundleKey) : List Call :=
  (Role.lookedUp source isReset).map fun role => .defaults role key.subType key.variant

/-- **The script of a resolution** by a key: the flags, and then the defaults. -/
def resolutionScript (key : BundleKey) : List Call :=
  flagScript connection source destination isReset ++ lookupScript source isReset key

variable {connection source destination isReset}

/-- A script asks for each flag once. -/
theorem flags_resolutionScript (key : BundleKey) :
    (resolutionScript connection source destination isReset key).filterMap Call.flag? =
      (Flag.asked source isReset).map Flag.key := by
  simp [resolutionScript, flagScript, lookupScript, List.filterMap_map, Function.comp_def, Call.flag?]

/-- A script looks up each role once. -/
theorem roles_resolutionScript (key : BundleKey) :
    (resolutionScript connection source destination isReset key).filterMap Call.role? =
      Role.lookedUp source isReset := by
  simp [resolutionScript, flagScript, lookupScript, List.filterMap_map, Function.comp_def, Call.role?]

variable (source isReset)

/-- The flags that are asked for have different keys. -/
theorem nodup_asked : ((Flag.asked source isReset).map Flag.key).Nodup := by
  unfold Flag.asked
  cases (participatingSource source isReset).isSome <;> decide

/-- The roles that are looked up are different. -/
theorem nodup_lookedUp : (Role.lookedUp source isReset).Nodup := by
  unfold Role.lookedUp
  cases (participatingSource source isReset).isSome <;> decide

end Scripts

/-! ## Attempts that follow a script -/

/-- **An attempt follows a script**: it makes the calls of the script in order, all of them if it answers, and when it
does not, a call has failed it. -/
structure Scripted {α : Type} (script : List Call) (attempt : Attempt Program α) : Prop where
  /-- The calls begin the script. -/
  made : ∀ {steps outcome}, Runs attempt steps outcome → calls steps <+: script
  /-- An answer takes the whole script. -/
  answered : ∀ {steps a}, Runs attempt steps (.ok a) → calls steps = script
  /-- A failure is that of a call. -/
  failed : ∀ {steps failure}, Runs attempt steps (.error failure) →
    ∃ call, .called call (.error failure) ∈ steps
  /-- A call that fails fails the attempt. -/
  fails : ∀ {steps outcome}, Runs attempt steps outcome →
    ∀ call failure, .called call (.error failure) ∈ steps → outcome = .error failure

section Scripted

variable {α β : Type} {script rest : List Call}

theorem scripted_pure (a : α) : Scripted [] (pure a : Attempt Program α) where
  made h := by
    obtain ⟨rfl, -⟩ := runs_pure.mp h
    exact List.nil_prefix
  answered h := by
    obtain ⟨rfl, -⟩ := runs_pure.mp h
    rfl
  failed h := nomatch (runs_pure.mp h).2
  fails h call failure hm := by
    obtain ⟨rfl, -⟩ := runs_pure.mp h
    exact absurd hm List.not_mem_nil

theorem scripted_ask (c : Call) : Scripted [c] (Program.ask c) where
  made h := by
    obtain rfl := runs_ask.mp h
    exact List.prefix_rfl
  answered h := by
    obtain rfl := runs_ask.mp h
    rfl
  failed h := by
    obtain rfl := runs_ask.mp h
    exact ⟨c, List.mem_cons_self⟩
  fails h call failure hm := by
    obtain rfl := runs_ask.mp h
    cases List.mem_singleton.mp hm
    rfl

/-- **Two attempts in a row follow their scripts in a row.** -/
theorem Scripted.bind {m : Attempt Program α} {f : α → Attempt Program β} (hm : Scripted script m)
    (hf : ∀ a, Scripted rest (f a)) : Scripted (script ++ rest) (m >>= f) where
  made h := by
    obtain ⟨_, h, -⟩ | ⟨a, s, t, hs, ht, rfl⟩ := runs_bind.mp h
    · exact (hm.made h).trans (List.prefix_append _ _)
    · rw [calls_append, hm.answered hs]
      exact (List.prefix_append_right_inj _).mpr ((hf a).made ht)
  answered h := by
    obtain ⟨_, -, h⟩ | ⟨a, s, t, hs, ht, rfl⟩ := runs_bind.mp h
    · exact nomatch h
    · rw [calls_append, hm.answered hs, (hf a).answered ht]
  failed h := by
    obtain ⟨_, h, same⟩ | ⟨a, s, t, hs, ht, rfl⟩ := runs_bind.mp h
    · cases same
      exact hm.failed h
    · obtain ⟨call, hc⟩ := (hf a).failed ht
      exact ⟨call, List.mem_append_right _ hc⟩
  fails h call failure hc := by
    obtain ⟨_, first, rfl⟩ | ⟨a, s, t, hs, ht, rfl⟩ := runs_bind.mp h
    · cases hm.fails first call failure hc
      rfl
    · obtain hc | hc := List.mem_append.mp hc
      · exact nomatch hm.fails hs call failure hc
      · exact (hf a).fails ht call failure hc

theorem Scripted.map {m : Attempt Program α} (hm : Scripted script m) (f : α → β) : Scripted script (f <$> m) := by
  have bound : Scripted (script ++ []) (m >>= fun a => pure (f a)) := hm.bind fun a => scripted_pure (f a)
  rwa [List.append_nil, ← map_eq_bind] at bound

end Scripted

/-! ## What every answer has -/

section Ensures

variable {α β : Type} {P : α → Prop} {Q : β → Prop}

/-- **Every answer of an attempt has a property.** -/
def Ensures (P : α → Prop) (attempt : Attempt Program α) : Prop := ∀ steps a, Runs attempt steps (.ok a) → P a

theorem ensures_pure {a : α} (holds : P a) : Ensures P (pure a) := fun _ _ h => by
  cases (runs_pure.mp h).2
  exact holds

theorem Ensures.bind {m : Attempt Program α} {f : α → Attempt Program β} (hm : Ensures P m)
    (hf : ∀ a, P a → Ensures Q (f a)) : Ensures Q (m >>= f) := fun _ _ h => by
  obtain ⟨a, s, t, hs, ht, -⟩ := runs_bind_ok.mp h
  exact hf a (hm s a hs) t _ ht

/-- What the last of two attempts ensures, both do. -/
theorem Ensures.last {m : Attempt Program α} {f : α → Attempt Program β} (hf : ∀ a, Ensures Q (f a)) :
    Ensures Q (m >>= f) :=
  Ensures.bind (P := fun _ => True) (fun _ _ _ => trivial) fun a _ => hf a

end Ensures

/-! ## The parts of a resolution -/

theorem calls_reportAll (events : List Log.Event) {steps : List Step}
    (h : (Log.reportAll Program.surroundings.log events).Takes steps ()) : calls steps = [] := by
  induction events generalizing steps with
  | nil =>
    obtain ⟨rfl, -⟩ := Program.takes_done.mp h
    rfl
  | cons event rest ih =>
    obtain ⟨_, s, t, hs, ht, rfl⟩ := Program.takes_andThen.mp h
    cases hs with
    | report hs =>
      obtain ⟨rfl, -⟩ := Program.takes_done.mp hs
      rw [List.singleton_append, calls_reported, ih ht]

/-- Reading an override reports, and answers what the payload says. -/
theorem calls_parseOverride {category payload : String} {steps : List Step} {outcome : Except Failure (Option Quantities)}
    (h : Runs (ExceptT.lift (parseOverride Program.surroundings.log category payload)) steps outcome) :
    calls steps = [] ∧ outcome = .ok (OverrideReading.ofPayload payload).quantities? := by
  obtain ⟨a, takes, rfl⟩ := runs_lift.mp h
  obtain ⟨_, s, t, hs, ht, rfl⟩ := Program.takes_andThen.mp takes
  obtain ⟨rfl, same⟩ := Program.takes_done.mp ht
  rw [List.append_nil]
  exact ⟨calls_reportAll _ hs, congrArg Except.ok same⟩

theorem scripted_parseOverride (category payload : String) :
    Scripted [] (ExceptT.lift (parseOverride Program.surroundings.log category payload)) where
  made h := (calls_parseOverride h).1 ▸ List.prefix_rfl
  answered h := (calls_parseOverride h).1
  failed h := nomatch (calls_parseOverride h).2
  fails h call failure hm := by
    have := mem_calls.mpr ⟨_, hm⟩
    rw [(calls_parseOverride h).1] at this
    exact absurd this List.not_mem_nil

theorem scripted_evaluateOverride (context : Flag.Context) (category : String) (flag : Flag String) :
    Scripted [.text flag context]
      (evaluateOverride Program.surroundings.log Program.surroundings.flags context category flag) :=
  (scripted_ask (.text flag context)).bind fun payload => scripted_parseOverride category payload

variable (connection : Connection) (source : SourceSide) (destination : ConnectorDefinition) (isReset : Bool)

/-- **A policy follows the script of the flags.** -/
theorem scripted_assemblePolicy :
    Scripted (flagScript connection source destination isReset)
      (assemblePolicy Program.surroundings.log Program.surroundings.flags
        (resourceContext connection source destination) (participatingSource source isReset).isSome) := by
  have shared : ∀ sourceOverride, Scripted
      ([Flag.resourceVariant, .orchestratorOverrides, .destinationOverrides].map fun flag =>
        .text flag (resourceContext connection source destination)) _ := fun sourceOverride =>
    (scripted_ask (.text .resourceVariant (resourceContext connection source destination))).bind fun variant =>
      (scripted_evaluateOverride _ "ORCHESTRATOR" .orchestratorOverrides).bind fun orchestratorOverride =>
        (scripted_evaluateOverride _ "DESTINATION" .destinationOverrides).bind fun destinationOverride =>
          scripted_pure (Policy.mk variant orchestratorOverride sourceOverride destinationOverride)
  unfold assemblePolicy flagScript Flag.asked
  cases (participatingSource source isReset).isSome with
  | true => exact (scripted_evaluateOverride _ "SOURCE" .sourceOverrides).bind shared
  | false => exact (scripted_pure none).bind shared

/-- **Resolving under a policy follows the script of the defaults**, by the variant of the policy. -/
theorem scripted_resolveWith (policy : Policy) :
    Scripted (lookupScript source isReset ⟨policy.variant, source.subType?⟩)
      (resolveWith Program.surroundings.defaults policy connection source destination isReset) := by
  have lookup : ∀ role, Scripted [.defaults role source.subType? policy.variant]
      (Program.surroundings.defaults.lookup role source.subType? policy.variant) := fun role => scripted_ask _
  have others : ∀ bundle : Quantities → Quantities → Quantities → Quantities → Bundle, Scripted
      ([Role.destinationStdin, .destinationStdout, .destinationStderr, .heartbeat].map fun role =>
        .defaults role source.subType? policy.variant) _ := fun bundle =>
    (lookup .destinationStdin).bind fun stdin => (lookup .destinationStdout).bind fun stdout =>
      (lookup .destinationStderr).bind fun stderr => (lookup .heartbeat).bind fun heartbeat =>
        scripted_pure (bundle stdin stdout stderr heartbeat)
  unfold resolveWith lookupScript Role.lookedUp
  cases participatingSource source isReset with
  | none =>
    exact (lookup .orchestrator).bind fun _ => (lookup .destination).bind fun _ =>
      (scripted_pure none).bind fun _ => others _
  | some definition =>
    have sources : Scripted
        ([Role.source, .sourceStdout, .sourceStderr].map fun role => .defaults role source.subType? policy.variant)
        (resolveSource Program.surroundings.defaults policy connection source.subType? definition) :=
      (lookup .source).bind fun _ => (lookup .sourceStdout).bind fun _ => (lookup .sourceStderr).bind fun _ =>
        scripted_pure _
    exact (lookup .orchestrator).bind fun _ => (lookup .destination).bind fun _ =>
      (sources.map some).bind fun _ => others _

variable {connection source destination isReset}

/-- **The variant of a policy** is what its flag was answered. -/
theorem mem_variant_of_assembled {context : Flag.Context} {includeSource : Bool} {policy : Policy} {steps : List Step}
    (h : Runs (assemblePolicy Program.surroundings.log Program.surroundings.flags context includeSource) steps
      (.ok policy)) : .called (.text .resourceVariant context) (.ok policy.variant) ∈ steps := by
  -- The override of the source comes first, if at all, and it has no bearing on the variant.
  have shared : ∀ {m : Attempt Program (Option Quantities)}, Runs (m >>= fun sourceOverride => do
      let variant ← Program.surroundings.flags.text Flag.resourceVariant context
      let orchestratorOverride ← evaluateOverride Program.surroundings.log Program.surroundings.flags context
        "ORCHESTRATOR" Flag.orchestratorOverrides
      let destinationOverride ← evaluateOverride Program.surroundings.log Program.surroundings.flags context
        "DESTINATION" Flag.destinationOverrides
      return { variant, orchestratorOverride, sourceOverride, destinationOverride }) steps (.ok policy) →
      .called (.text .resourceVariant context) (.ok policy.variant) ∈ steps := by
    intro m h
    simp only [runs_bind_ok, runs_pure] at h
    obtain ⟨_, s, _, -, ⟨variant, t, _, asked, ⟨_, _, _, -, ⟨_, _, _, -, ⟨-, same⟩, rfl⟩, rfl⟩, rfl⟩, rfl⟩ := h
    cases same
    obtain rfl := runs_ask.mp asked
    exact List.mem_append_right _ List.mem_cons_self
  unfold assemblePolicy at h
  cases includeSource with
  | true => exact shared h
  | false => exact shared h

/-- **What a resolution under a policy answers**: a bundle keyed by the variant and the source type, with quantities
for each source role when a source takes part, and for none of them when none does. -/
theorem ensures_resolveWith (policy : Policy) :
    Ensures (fun bundle => bundle.key = ⟨policy.variant, source.subType?⟩ ∧
        ∀ role, (bundle.quantities? role).isSome = (!role.isSource || (participatingSource source isReset).isSome))
      (resolveWith Program.surroundings.defaults policy connection source destination isReset) := by
  unfold resolveWith
  refine Ensures.last fun _ => .last fun _ => ?_
  cases participatingSource source isReset with
  | none =>
    refine Ensures.bind (P := (· = none)) (ensures_pure rfl) fun sources absent => ?_
    refine .last fun _ => .last fun _ => .last fun _ => .last fun _ => ensures_pure ⟨rfl, fun role => ?_⟩
    cases absent
    cases role <;> rfl
  | some definition =>
    refine Ensures.bind (P := fun sources => ∃ quantities, sources = some quantities) ?_ fun sources present => ?_
    · rw [map_eq_bind]
      exact .last fun quantities => ensures_pure ⟨quantities, rfl⟩
    · refine .last fun _ => .last fun _ => .last fun _ => .last fun _ => ensures_pure ⟨rfl, fun role => ?_⟩
      obtain ⟨quantities, rfl⟩ := present
      cases role <;> rfl

/-- **What a resolution answers, and asks for it**: a bundle of one shape, by the script of its own key. -/
theorem shape_of_resolved {bundle : Bundle} {steps : List Step}
    (h : Runs (resolveResources Program.surroundings.log Program.surroundings.flags Program.surroundings.defaults
      connection source destination isReset) steps (.ok bundle)) :
    bundle.key.subType = source.subType? ∧ calls steps = resolutionScript connection source destination isReset bundle.key ∧
      ∀ role, (bundle.quantities? role).isSome = (!role.isSource || (participatingSource source isReset).isSome) := by
  obtain ⟨policy, s, t, hs, ht, rfl⟩ := runs_bind_ok.mp h
  obtain ⟨key, present⟩ := ensures_resolveWith policy _ _ ht
  refine ⟨by rw [key], ?_, present⟩
  rw [calls_append, (scripted_assemblePolicy connection source destination isReset).answered hs,
    (scripted_resolveWith connection source destination isReset policy).answered ht, key, resolutionScript]

/-! ## One policy -/

/-- **One policy for a resolution**: some steps and an outcome under a key. -/
structure OnePolicy (connection : Connection) (source : SourceSide) (destination : ConnectorDefinition)
    (isReset : Bool) (steps : List Step) (outcome : Except Failure Bundle) (key : BundleKey) : Prop where
  /-- The calls begin the script by the key. -/
  made : calls steps <+: resolutionScript connection source destination isReset key
  /-- No flag is asked for twice. -/
  flags_once : ((calls steps).filterMap Call.flag?).Nodup
  /-- No role is looked up twice. -/
  roles_once : ((calls steps).filterMap Call.role?).Nodup
  /-- Every flag of the script is asked for, unless one of them fails, and the resolution with it. -/
  flags_asked : flagScript connection source destination isReset <+: calls steps ∨
    ∃ call failure, call.flag?.isSome = true ∧ .called call (.error failure) ∈ steps ∧ outcome = .error failure
  /-- Every role is looked up by the one answer that the flag of the variant was given. -/
  variant : ∀ role subType variant, .defaults role subType variant ∈ calls steps →
    .called (.text .resourceVariant (resourceContext connection source destination)) (.ok variant) ∈ steps
  /-- A bundle is keyed by the key, and takes the whole script. -/
  bundle : ∀ bundle, outcome = .ok bundle →
    bundle.key = key ∧ calls steps = resolutionScript connection source destination isReset key

section Made

variable {steps : List Step} {key : BundleKey}

theorem nodup_flags_of_made (made : calls steps <+: resolutionScript connection source destination isReset key) :
    ((calls steps).filterMap Call.flag?).Nodup := by
  refine (made.sublist.filterMap Call.flag?).nodup ?_
  rw [flags_resolutionScript]
  exact nodup_asked source isReset

theorem nodup_roles_of_made (made : calls steps <+: resolutionScript connection source destination isReset key) :
    ((calls steps).filterMap Call.role?).Nodup := by
  refine (made.sublist.filterMap Call.role?).nodup ?_
  rw [roles_resolutionScript]
  exact nodup_lookedUp source isReset

/-- The script of the flags asks for nothing else. -/
theorem flag?_of_mem {call : Call} (h : call ∈ flagScript connection source destination isReset) :
    call.flag?.isSome = true := by
  obtain ⟨flag, -, rfl⟩ := List.mem_map.mp h
  rfl

end Made

/-- **A resolution has one policy.** Flags and defaults may answer or fail in any way, and a flag may answer differently
each time it is asked. Still there is one key by which a resolution goes: it asks for each of its flags once and in one
context, the override of the source only when a source takes part, and looks up each role at most once, by that key,
whose variant is what the flag of the variant was answered. The bundle it answers is marked with the key. -/
theorem exists_onePolicy {steps : List Step} {outcome : Except Failure Bundle}
    (runs : Runs (resolveResources Program.surroundings.log Program.surroundings.flags Program.surroundings.defaults
      connection source destination isReset) steps outcome) :
    ∃ key, OnePolicy connection source destination isReset steps outcome key := by
  have flags := scripted_assemblePolicy connection source destination isReset
  obtain ⟨failure, h, rfl⟩ | ⟨policy, s, t, hs, ht, rfl⟩ := runs_bind.mp runs
  · -- A flag fails, so no role is looked up, and any key will do.
    have begun : calls steps <+: flagScript connection source destination isReset := flags.made h
    have made : calls steps <+: resolutionScript connection source destination isReset default :=
      begun.trans (List.prefix_append _ _)
    refine ⟨default, made, nodup_flags_of_made made, nodup_roles_of_made made, .inr ?_, fun role subType variant hm => ?_,
      fun _ same => nomatch same⟩
    · obtain ⟨call, failed⟩ := flags.failed h
      exact ⟨call, failure, flag?_of_mem (begun.subset (mem_calls.mpr ⟨_, failed⟩)), failed, rfl⟩
    · exact nomatch flag?_of_mem (begun.subset hm)
  · -- The flags have all been answered, and the policy says by which key the roles are looked up.
    have lookups := scripted_resolveWith connection source destination isReset policy
    have first := flags.answered hs
    have made : calls (s ++ t) <+: resolutionScript connection source destination isReset
        ⟨policy.variant, source.subType?⟩ := by
      rw [calls_append, first]
      exact (List.prefix_append_right_inj _).mpr (lookups.made ht)
    refine ⟨_, made, nodup_flags_of_made made, nodup_roles_of_made made, .inl ?_, fun role subType variant hm => ?_,
      fun bundle same => ?_⟩
    · rw [calls_append, first]
      exact List.prefix_append _ _
    · rw [calls_append, first, List.mem_append] at hm
      obtain hm | hm := hm
      · exact nomatch flag?_of_mem hm
      · obtain ⟨_, -, same⟩ := List.mem_map.mp ((lookups.made ht).subset hm)
        cases same
        exact List.mem_append_left _ (mem_variant_of_assembled hs)
    · subst same
      refine ⟨(ensures_resolveWith policy _ _ ht).1, ?_⟩
      rw [calls_append, first, lookups.answered ht, resolutionScript]

/-! ## A reset -/

namespace LargeReset

/-- The context of a reset. -/
def context : Flag.Context := resourceContext default (.absent "reset") default

/-- The bundle of a reset by the large variant, with nothing set. -/
def bundle : Bundle := { (default : Bundle) with key := ⟨"large", none⟩ }

/-- The steps of its resolution: three flags, and then the roles that are not of the source. -/
def steps : List Step :=
  [.called (.text .resourceVariant context) (.ok "large"), .called (.text .orchestratorOverrides context) (.ok ""),
    .called (.text .destinationOverrides context) (.ok "")] ++
  (Role.lookedUp (.absent "reset") true).map fun role => .called (.defaults role none "large") (.ok (default : Quantities))

theorem runs_steps :
    Runs (resolveResources Program.surroundings.log Program.surroundings.flags Program.surroundings.defaults default
      (.absent "reset") default true) steps (.ok bundle) := by
  change Program.Leads _ _ _
  exact .call (.call (.call (.call (.call (.call (.call (.call (.call (.here _)))))))))

/-- This resolution has one policy, and its bundle is answered. -/
theorem onePolicy_steps :
    Runs (resolveResources Program.surroundings.log Program.surroundings.flags Program.surroundings.defaults default
        (.absent "reset") default true) steps (.ok bundle) ∧
      ∃ key, OnePolicy default (.absent "reset") default true steps (.ok bundle) key :=
  ⟨runs_steps, exists_onePolicy runs_steps⟩

end LargeReset

end ConnectionJobs
