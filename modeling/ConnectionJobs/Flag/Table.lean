import ConnectionJobs.Flag.Context
import ConnectionJobs.Keyed
import ConnectionJobs.Text.Quoted

/-!
# Flag tables

Feature flags are configured in a table: a value per flag, and for each flag overrides for single entities. A
flag is answered by the override of the most specific entity of the context that has one, then by its value,
then by its default. The answer has to be of the flag's type; a table that says otherwise is a mistake that
is reported when the flag is evaluated.
-/

namespace ConnectionJobs

/-- **A flag value**: a switch or a text. -/
inductive FlagValue where
  /-- A switch. -/
  | switch (on : Bool)
  /-- A text. -/
  | text (value : String)
  deriving DecidableEq, Repr, Inhabited

namespace FlagValue

/-- The switch a value is. -/
def switch? : FlagValue → Option Bool
  | switch on => some on
  | text _ => none

/-- The text a value is. -/
def text? : FlagValue → Option String
  | text value => some value
  | switch _ => none

/-- How a value is shown in messages. -/
def shown : FlagValue → String
  | switch true => "True"
  | switch false => "False"
  | text value => Text.quoted value

end FlagValue

/-- **A flag** whose values have type `α`: its key and its default. -/
structure Flag (α : Type) where
  /-- The key of the flag in tables. -/
  key : String
  /-- The value when nothing is configured. -/
  fallback : α
  deriving Repr, Inhabited

namespace Flag

/-- Refreshes, and the stamping of generations they rely on, are enabled. -/
def activateRefreshes : Flag Bool := ⟨"platform.activate-refreshes", false⟩

/-- The variant of the resource defaults table. -/
def resourceVariant : Flag String := ⟨"platform.resource-requirements-variant", "default"⟩

/-- The resource override of sources. -/
def sourceOverrides : Flag String := ⟨"source-resource-overrides", ""⟩

/-- The resource override of destinations. -/
def destinationOverrides : Flag String := ⟨"dest-resource-overrides", ""⟩

/-- The resource override of orchestrators. -/
def orchestratorOverrides : Flag String := ⟨"orchestrator-resource-overrides", ""⟩

/-- **A mistyped flag**: the table holds a value of the wrong type. -/
structure Mistyped where
  /-- The key of the flag. -/
  key : String
  /-- What the table holds. -/
  value : FlagValue
  deriving DecidableEq, Repr, Inhabited

/-- The message about a mistyped flag. -/
def Mistyped.message (m : Mistyped) : String :=
  let wanted := match m.value with
    | .text _ => "non-boolean"
    | .switch _ => "non-string"
  "flag " ++ m.key ++ " is configured with " ++ wanted ++ " value " ++ m.value.shown

end Flag

/-- **A flag table**: values of flags, and overrides of flags by label. -/
structure FlagTable where
  /-- The value of each configured flag. -/
  values : Keyed String FlagValue
  /-- For each flag, its values for the entities with given labels. -/
  overrides : Keyed String (Keyed String FlagValue)
  deriving DecidableEq, Repr, Inhabited

namespace FlagTable

/-- **The override** of the most specific entity of the context that has one. -/
def override? (table : FlagTable) (key : String) (context : Flag.Context) : Option FlagValue :=
  let overrides := (Keyed.find? key table.overrides).getD []
  Flag.Kind.byPrecedence.findSome? fun kind =>
    (context.label? kind).bind fun label => Keyed.find? label overrides

/-- **The value a table gives a flag** in a context. -/
def resolve (table : FlagTable) (key : String) (fallback : FlagValue) (context : Flag.Context) : FlagValue :=
  match table.override? key context with
  | some value => value
  | none => (Keyed.find? key table.values).getD fallback

/-- The switch a table gives under a key; `fallback` stands in when nothing is configured. -/
def switchAt (table : FlagTable) (key : String) (fallback : FlagValue) (context : Flag.Context) :
    Except Flag.Mistyped Bool :=
  let value := table.resolve key fallback context
  match value.switch? with
  | some on => .ok on
  | none => .error ⟨key, value⟩

/-- The text a table gives under a key; `fallback` stands in when nothing is configured. -/
def textAt (table : FlagTable) (key : String) (fallback : FlagValue) (context : Flag.Context) :
    Except Flag.Mistyped String :=
  let value := table.resolve key fallback context
  match value.text? with
  | some text => .ok text
  | none => .error ⟨key, value⟩

/-- **Evaluate a switch.** -/
def evaluateSwitch (table : FlagTable) (flag : Flag Bool) (context : Flag.Context) :
    Except Flag.Mistyped Bool :=
  table.switchAt flag.key (.switch flag.fallback) context

/-- **Evaluate a text.** -/
def evaluateText (table : FlagTable) (flag : Flag String) (context : Flag.Context) :
    Except Flag.Mistyped String :=
  table.textAt flag.key (.text flag.fallback) context

end FlagTable

end ConnectionJobs
