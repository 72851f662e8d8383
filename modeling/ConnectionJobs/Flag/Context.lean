import ConnectionJobs.Uuid

/-!
# Flag contexts

A feature flag may answer differently for different workspaces, connections, sources, destinations and
connector definitions. A **context** says which of these an evaluation is about: at most one identifier of
each kind. An operator names one of them by its *label*, the kind and the identifier with a colon between.
-/

namespace ConnectionJobs.Flag

/-- **The kinds of entity** a flag can be set for. -/
inductive Kind where
  /-- A workspace. -/
  | workspace
  /-- A connection. -/
  | connection
  /-- A source actor. -/
  | source
  /-- A source definition. -/
  | sourceDefinition
  /-- A destination actor. -/
  | destination
  /-- A destination definition. -/
  | destinationDefinition
  deriving DecidableEq, Repr, Inhabited

namespace Kind

/-- The name of a kind in labels. -/
def name : Kind → String
  | workspace => "workspace"
  | connection => "connection"
  | source => "source"
  | sourceDefinition => "source_definition"
  | destination => "destination"
  | destinationDefinition => "destination_definition"

/-- All kinds. -/
def all : List Kind :=
  [workspace, connection, source, sourceDefinition, destination, destinationDefinition]

/-- **The kinds by precedence**, most specific first. -/
def byPrecedence : List Kind :=
  [connection, source, destination, sourceDefinition, destinationDefinition, workspace]

end Kind

/-- **A label**: the kind and the identifier of one entity. -/
def label (kind : Kind) (key : Uuid) : String := kind.name ++ ":" ++ key.text

/-- **A context**: the entities an evaluation is about. -/
structure Context where
  /-- The workspace. -/
  workspace : Option Uuid
  /-- The connection. -/
  connection : Option Uuid
  /-- The source actor. -/
  source : Option Uuid
  /-- The source definition. -/
  sourceDefinition : Option Uuid
  /-- The destination actor. -/
  destination : Option Uuid
  /-- The destination definition. -/
  destinationDefinition : Option Uuid
  deriving DecidableEq, Repr, Inhabited

namespace Context

/-- The identifier of a kind, if the context has one. -/
def key? (c : Context) : Kind → Option Uuid
  | .workspace => c.workspace
  | .connection => c.connection
  | .source => c.source
  | .sourceDefinition => c.sourceDefinition
  | .destination => c.destination
  | .destinationDefinition => c.destinationDefinition

/-- The label of a kind, if the context has an identifier of it. -/
def label? (c : Context) (kind : Kind) : Option String := (c.key? kind).map (label kind)

/-- **The labels** of a context. -/
def labels (c : Context) : List String := Kind.all.filterMap c.label?

end Context

end ConnectionJobs.Flag
