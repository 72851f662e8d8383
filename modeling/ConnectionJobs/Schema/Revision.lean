import ConnectionJobs.Text.Alphanumeric
import ConnectionJobs.Text.Numeral
import ConnectionJobs.Text.Split

/-!
# Revisions and their names

A database is before or after the one migration there is, which is known by its **revision**. Where to go is
named: by the revision in full or by its first characters, as `head` or `base`, or by a number of steps up or
down from one of these or from where the database is. A label and an at sign may stand in front of a name; they
choose among branches, and as there is one branch only, the label has to name it.

Not every name leads to a place in both directions. Going up ends at a revision, never at the base; going down
ends where the database is or further down.
-/

namespace ConnectionJobs.Schema

/-- The revision of the migration. -/
def revisionId : String := "20261018_01"

/-- **Where a database is**: before the migration or after it. -/
inductive Place where
  /-- No migration has run. -/
  | base
  /-- The migration has run. -/
  | head
  deriving DecidableEq, Repr, Inhabited

/-- **Why a name leads nowhere.** -/
inductive NameProblem where
  /-- No revision is named so. -/
  | unknown (name : String)
  /-- There are not as many steps to go. -/
  | tooFar (name : String) (steps : Nat)
  /-- There are not as many steps to go from a named revision. -/
  | walkedTooFar
  /-- The name stands for a place that the database is not above. -/
  | notBelow (name : String)
  /-- The number of steps cannot be read. -/
  | badSteps (reason : Text.NotInteger)
  /-- The name stands for no revision at all. -/
  | nothing
  deriving DecidableEq, Repr

/-- The message of a problem. -/
def NameProblem.message : NameProblem → String
  | unknown name => "Can't locate revision identified by '" ++ name ++ "'"
  | tooFar name steps => "Relative revision " ++ name ++ " didn't produce " ++ toString steps ++ " migrations"
  | walkedTooFar => "Walked too far"
  | notBelow name => "Destination " ++ name ++ " is not a valid downgrade target from current head(s)"
  | badSteps reason => reason.message
  | nothing => ""

/-! ## Names -/

/-- A name is the revision or begins it. -/
def identify (name : String) : Except NameProblem Unit :=
  if name.isEmpty then .error .nothing
  else if name.toList.isPrefixOf revisionId.toList then .ok ()
  else .error (.unknown name)

/-- The revisions that a name without a label stands for: none for the base. -/
def bareNames (name : String) : List String :=
  if name == "head" || name == "heads" then [revisionId] else if name == "base" then [] else [name]

/-- The label in front of a name, when there is one, and the rest. -/
def splitLabel (name : String) : Option String × String :=
  match Text.splitFirst '@' name.toList with
  | some (label, rest) => (some (String.ofList label), String.ofList rest)
  | none => (none, name)

/-- A label that says something. -/
def filled (label : Option String) : Option String := label.filter fun l => !l.isEmpty

/-- **The revisions that a name stands for**, and its label. The label of the head is checked at once. -/
def resolve (name : String) : Except NameProblem (List String × Option String) := do
  let (label, rest) := splitLabel name
  if rest == "head" || rest == "heads" then ((filled label).toList.flatMap bareNames).forM identify
  return (bareNames rest, label)

/-- The names that a branch goes by, when a label names it. -/
def lineageOf (label : String) : Except NameProblem (List String) := do
  let (names, inner) ← resolve label
  return (filled inner).toList ++ names

/-- **Check that a label names the branch.** -/
def checkLineage (label : String) : Except NameProblem Unit := do (← lineageOf label).forM identify

/-- **Where a walk is.** -/
inductive Position where
  /-- At the base. -/
  | base
  /-- At the revision. -/
  | revision
  /-- Below the revision: at the base, after a step down. -/
  | below
  deriving DecidableEq, Repr, Inhabited

/-- The position of a revision, none being the base. -/
def positionOf (label name : Option String) : Except NameProblem Position := do
  (filled label).toList.forM identify
  match name with
  | some name =>
    identify name
    return .revision
  | none => return .base

/-- **The position that a name stands for.** -/
def positionNamed (name : String) : Except NameProblem Position := do
  let (names, label) ← resolve name
  positionOf label names.head?

/-! ## Walks -/

/-- **Walk up.** A label has to name the branch when the walk enters it. There is nothing above the revision. -/
def walkUp (label : Option String) : Nat → Position → Except NameProblem (Option Position)
  | 0, position => .ok (some position)
  | steps + 1, .base => do
    label.toList.forM checkLineage
    walkUp label steps .revision
  | _ + 1, .revision => do
    let _ ← label.toList.mapM lineageOf
    return none
  | _ + 1, .below => .ok none

/-- **Walk down.** A walk that starts at the base enters from above; there is nothing below the base after a step
down. -/
def walkDown : Nat → Position → Option Position
  | 0, position => some position
  | steps + 1, .base => walkDown steps .revision
  | steps + 1, .revision => walkDown steps .below
  | _ + 1, .below => none

/-- **A name by a number of steps**: from a named place, or from where the database is. -/
structure Relative where
  /-- The label. -/
  label : Option String
  /-- The name of the place. -/
  origin : Option String
  /-- The sign and the digits. -/
  text : String
  deriving DecidableEq, Repr, Inhabited

/-- A name by a number of steps at the front of a text, without a label. What follows does not matter. -/
def relativeFront? (label : Option String) (cs : List Char) : Option Relative :=
  let (origin, rest) := cs.span Text.isWordChar
  match rest with
  | sign :: more =>
    let digits := more.takeWhile fun c => (Text.decimalDigitValue c).isSome
    if (sign == '+' || sign == '-') && !digits.isEmpty then
      some ⟨label, if origin.isEmpty then none else some (String.ofList origin), String.ofList (sign :: digits)⟩
    else none
  | [] => none

/-- A name by a number of steps after a label, the shortest that there is. `seen` holds the label so far,
reversed. -/
def relativeAfter? (seen : List Char) : List Char → Option Relative
  | [] => none
  | c :: cs =>
    let here :=
      if c == '@' && !seen.isEmpty then relativeFront? (some (String.ofList seen.reverse)) cs else none
    match here with
    | some relative => some relative
    | none => if c == '\n' then none else relativeAfter? (c :: seen) cs

/-- **A name by a number of steps**, when it is one. -/
def relative? (name : String) : Option Relative :=
  (relativeAfter? [] name.toList).or (relativeFront? none name.toList)

/-- The number of steps. -/
def Relative.steps (r : Relative) : Except NameProblem Int := (Text.readInteger 10 r.text).mapError .badSteps

/-- A name with a label in front of it. -/
def labelled (label : Option String) (name : String) : String :=
  match label with
  | some label => label ++ "@" ++ name
  | none => name

/-! ## Goals -/

/-- Where a full name leads up to. A negative number counts steps down from the head, of a branch if a label
names one, and no branch has a label. -/
def namedAbove (name : String) : Except NameProblem (List (Option Position)) := do
  let (names, label) ← resolve name
  match names.map (Text.readInteger 10) with
  | [.ok (.negSucc steps)] => return if label.isSome then [] else [walkDown (steps + 1) .revision]
  | _ => names.mapM fun name => do return some (← positionOf label (some name))

/-- Where a number of steps leads up to. -/
def relativeAbove (current : Place) (r : Relative) : Except NameProblem (Option Position) := do
  let steps ← r.steps
  match r.origin with
  | none =>
    if steps ≤ 0 then throw (.tooFar (toString steps) steps.natAbs)
    let start ←
      match current with
      | .base => do
        let _ ← r.label.toList.mapM lineageOf
        pure Position.base
      | .head => do
        r.label.toList.forM checkLineage
        pure Position.revision
    match ← walkUp r.label steps.natAbs start with
    | some position => return some position
    | none => throw (.tooFar r.text steps.natAbs)
  | some origin =>
    if steps > 0 then walkUp r.label steps.natAbs (← positionNamed origin)
    else return walkDown steps.natAbs (← positionNamed (labelled r.label origin))

/-- **The place that a name leads up to.** Only a revision can be gone up to; without any, the database stays
where it is. -/
def goalAbove (current : Place) (name : String) : Except NameProblem Place := do
  let goals ←
    match relative? name with
    | some r => do
      let goal ← relativeAbove current r
      pure [goal]
    | none => namedAbove name
  if goals.isEmpty then return current
  else if goals.all (· == some .revision) then return .head
  else throw .nothing

/-- Where steps down lead from where the database is. -/
def stepsDown (current : Place) (r : Relative) (steps : Nat) : Except NameProblem Position := do
  match r.label, current with
  | none, .base => throw (.tooFar r.text steps)
  | some label, .base =>
    let _ ← lineageOf label
    throw .nothing
  | none, .head => pure ()
  | some label, .head =>
    checkLineage label
    let _ ← positionNamed (labelled label revisionId)
  match walkDown steps .revision with
  | some position => return position
  | none => throw (.tooFar r.text steps)

/-- Where a number of steps leads down to. -/
def relativeBelow (current : Place) (r : Relative) : Except NameProblem Position := do
  let steps ← r.steps
  match r.origin with
  | none => if steps < 0 then stepsDown current r steps.natAbs else throw (.tooFar r.text steps.natAbs)
  | some origin =>
    let goal ←
      if steps < 0 then do
        let start ← positionNamed (labelled r.label origin)
        pure (walkDown steps.natAbs start)
      else do
        let goal ← walkUp r.label steps.natAbs (← positionNamed origin)
        pure (goal.filter (· != .base))
    match goal with
    | some position => return position
    | none => throw .walkedTooFar

/-- **The place that a name leads down to.** Of a full name only what follows the last label counts. -/
def goalBelow (current : Place) (name : String) : Except NameProblem Place := do
  let goal ←
    match relative? name with
    | some r => relativeBelow current r
    | none =>
      match Text.splitLast '@' name.toList with
      | some (_, last) => positionNamed (String.ofList last)
      | none => positionNamed name
  match goal, current with
  | .revision, .head => return .head
  | .revision, .base => throw (.notBelow name)
  | _, _ => return .base

end ConnectionJobs.Schema
