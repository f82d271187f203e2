/-!
# What keeps data from being a definition

Data is checked against the shape of a definition field by field. Every fault found is a problem
with a path to its place, and all problems are reported together, in the order of the fields.
-/

namespace LineGrammar.Definition

/-- A step on the way to a place in the data. -/
inductive Step where
  | field (name : String)
  | index (position : Nat)
deriving DecidableEq, Repr

/-- What is wrong at a place. -/
inductive Cause where
  | missing
  | emptyText
  | notText
  | notList
  | notNumber
  | unreadableNumber
  | notBoolean
  | unreadableBoolean
  | notConversion
  /-- The data is no record, where a definition of the given kind should be. -/
  | notRecord (kind : String)
  /-- A rule of the definition is broken. -/
  | rule (message : String)
deriving DecidableEq, Repr

/-- The wording of a cause. -/
def Cause.message : Cause → String
  | .missing => "Field required"
  | .emptyText => "String should have at least 1 character"
  | .notText => "Input should be a valid string"
  | .notList => "Input should be a valid list"
  | .notNumber => "Input should be a valid number"
  | .unreadableNumber => "Input should be a valid number, unable to parse string as a number"
  | .notBoolean => "Input should be a valid boolean"
  | .unreadableBoolean => "Input should be a valid boolean, unable to interpret input"
  | .notConversion => "Input should be 'str', 'int' or 'float'"
  | .notRecord kind => "Input should be a valid dictionary or instance of " ++ kind
  | .rule message => "Value error, " ++ message

/-- The short name of a cause. -/
def Cause.code : Cause → String
  | .missing => "missing"
  | .emptyText => "string_too_short"
  | .notText => "string_type"
  | .notList => "list_type"
  | .notNumber => "float_type"
  | .unreadableNumber => "float_parsing"
  | .notBoolean => "bool_type"
  | .unreadableBoolean => "bool_parsing"
  | .notConversion => "literal_error"
  | .notRecord _ => "model_type"
  | .rule _ => "value_error"

/-- A cause at a place. -/
structure Problem where
  path : List Step
  cause : Cause
deriving DecidableEq, Repr

/-- A path as messages show it. -/
def shownPath (path : List Step) : String :=
  ".".intercalate (path.map fun
    | .field name => name
    | .index position => toString position)

/-- A problem as messages show it; a problem of the data as a whole has no path. -/
def Problem.shown (problem : Problem) : String :=
  (if problem.path.isEmpty then "" else shownPath problem.path ++ "\n")
    ++ "  " ++ problem.cause.message ++ " [type=" ++ problem.cause.code ++ "]"

/-- Data that is no definition of a kind, with everything that is wrong with it. -/
structure Invalid where
  kind : String
  problems : List Problem
deriving DecidableEq, Repr

/-- The message for invalid data. -/
def Invalid.message (invalid : Invalid) : String :=
  let count := invalid.problems.length
  "\n".intercalate
    ((toString count ++ " validation error" ++ (if count = 1 then "" else "s") ++ " for "
        ++ invalid.kind)
      :: invalid.problems.map Problem.shown)

/-- A problem seen from further outside. -/
def Problem.inside (step : Step) (problem : Problem) : Problem :=
  { problem with path := step :: problem.path }

end LineGrammar.Definition
