import ConnectionJobs.Job.Decoding
import ConnectionJobs.Log.Event
import ConnectionJobs.Text.Quoted

/-!
# Runtime resource overrides

An operator can override the resources of a role at runtime with a feature flag whose text is a JSON object of
quantities. A blank text overrides nothing. A malformed text overrides nothing either, so that jobs keep being
created, but it is reported.
-/

namespace ConnectionJobs

/-- **Quantities as operators write them**, each read by `quantity`: members that are not quantities are
ignored. -/
def Decoder.writtenQuantities (quantity : Decoder String) (ms : Members) : Checked Quantities :=
  Quantities.mk
    <$> Decoder.omissible "cpu_request" quantity ms
    <*> Decoder.omissible "cpu_limit" quantity ms
    <*> Decoder.omissible "memory_request" quantity ms
    <*> Decoder.omissible "memory_limit" quantity ms
    <*> Decoder.omissible "ephemeral_storage_request" quantity ms
    <*> Decoder.omissible "ephemeral_storage_limit" quantity ms

/-- The payload of an override. -/
def Decoder.override : Decoder Quantities
  | .object ms => Decoder.writtenQuantities (Decoder.textOrNumber Double.quantityText) ms
  | _ => .fail .modelType

/-- **What an override payload says.** -/
inductive OverrideReading where
  /-- Nothing: the payload is blank. -/
  | blank
  /-- These quantities are overridden. -/
  | quantities (q : Quantities)
  /-- Nothing: the payload is malformed. -/
  | malformed (problems : List Problem)
  deriving DecidableEq, Repr

namespace OverrideReading

/-- **Read an override payload.** -/
def ofPayload [Json.Release] (payload : String) : OverrideReading :=
  if Text.isBlankText payload then blank
  else
    match decodeText Decoder.override payload with
    | .valid q => quantities q
    | .invalid problems => malformed problems

/-- The quantities a reading overrides. -/
def quantities? : OverrideReading → Option Quantities
  | quantities q => some q
  | blank | malformed _ => none

/-- The report about a malformed payload for a category of roles. -/
def report (category payload : String) (problems : List Problem) : Log.Event where
  level := .warning
  source := "sync_jobs.resources.merge"
  message := "Could not parse " ++ category ++ " resource overrides '" ++ payload ++
    "' from feature flag string: "
  context := [("ctx_role_category", .text category)]
  problems := problems
  failure := none

/-- **The reports** about a payload: one when it is malformed, none otherwise. -/
def reports (category payload : String) : OverrideReading → List Log.Event
  | malformed problems => [report category payload problems]
  | blank | quantities _ => []

end OverrideReading

end ConnectionJobs
