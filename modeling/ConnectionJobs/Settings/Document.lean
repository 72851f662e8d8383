import ConnectionJobs.Job.Encoding
import ConnectionJobs.Settings.Basic

/-!
# Settings as a document

The settings in effect can be shown as a document, with every setting in it and the tables in the order in which
they were given.
-/

namespace ConnectionJobs

/-- A flag value in a document. -/
def FlagValue.toJson : FlagValue → Json
  | .switch b => .boolean b
  | .text s => .text s

/-- A table as an object. -/
def Keyed.toJson {α : Type} (encode : α → Json) (table : Keyed String α) : Json :=
  .object (table.map fun (key, value) => (key, encode value))

/-- **The settings as a document.** -/
def Settings.toJson (s : Settings) : Json :=
  .object
    [("environment_name", .text s.environmentName),
     ("database_url", .text s.databaseUrl),
     ("log_level", .text s.logLevel),
     ("log_json", .boolean s.logJson),
     ("job_default_cpu_request", textOrNull s.cpuRequest),
     ("job_default_cpu_limit", textOrNull s.cpuLimit),
     ("job_default_memory_request", textOrNull s.memoryRequest),
     ("job_default_memory_limit", textOrNull s.memoryLimit),
     ("resource_requirement_variants",
      Keyed.toJson (Keyed.toJson (Keyed.toJson Quantities.toJson)) s.variants),
     ("feature_flags", Keyed.toJson FlagValue.toJson s.flags),
     ("feature_flag_context_overrides", Keyed.toJson (Keyed.toJson FlagValue.toJson) s.flagOverrides)]

end ConnectionJobs
