import LineGrammar.CommandTable
import LineGrammar.Definition.Type
import LineGrammar.Reading.Basic
import LineGrammar.Storage

/-!
# Workspaces

A workspace is all that a session works on: the storage, the types, a compiler for expressions that
are asked about directly, and the table of commands. Types may be defined in files of the storage,
and definitions of types may be written there.
-/

namespace LineGrammar

/-- All that a session works on. -/
structure Workspace where
  storage : Storage
  types : TypeTable
  compiler : Compiler
  commands : CommandTable

/-- A step of a session. -/
abbrev Session (α : Type) := Action Fault Workspace α

namespace Workspace

/-- A workspace on a storage and a table of types, whose commands come from a library and a
project. -/
def fresh (storage : Storage) (types : TypeTable) (library project : Option String) : Workspace :=
  ⟨storage, types, .fresh types, .fresh library project types⟩

/-- A step that concerns the types alone. -/
def onTypes {α : Type} (action : Action Fault TypeTable α) : Session α :=
  Action.within (·.types) (fun types workspace => { workspace with types := types }) action

/-- Changes the table of commands. -/
def modifyCommands (change : CommandTable → CommandTable) : Session Unit :=
  Action.modifyState fun workspace => { workspace with commands := change workspace.commands }

/-- Compiles an expression. -/
def compile (text : String) : Session Stamped := do
  let workspace ← Action.state
  Action.within (·.compiler) (fun compiler workspace => { workspace with compiler := compiler })
    (Compiler.compile workspace.types text)

/-- The reading of a line under an expression, if it has one. -/
def read (text line : String) : Session (Option Reading) := do
  let result ← compile text
  result.expression.readNoted line

/-- Data from a file; a file that holds nothing counts as one without fields. -/
def definitionData (path : String) : Session Document := do
  let workspace ← Action.state
  let data ← Action.ofExcept (workspace.storage.document path)
  return if data.isVoid then .record [] else data

/-- What is noted about a file of types. -/
def loadedTypes (count : Nat) (path : String) : String :=
  "Loaded " ++ toString count ++ " type maps from " ++ path

/-- Registers one defined type and answers its name. -/
def defineNamed (definition : TypeDefinition) : Session String := do
  let type ← onTypes definition.register
  return type.name

/-- Registers all types that a file defines, in order, and answers their names. -/
def loadTypeFile (path : String) : Session (List String) := do
  let data ← definitionData path
  let set ← Action.ofExcept (TypeSet.ofDocument data)
  let names ← set.definitions.mapM defineNamed
  Action.note .debug (loadedTypes names.length path)
  return names

/-- Registers the types of all files in a folder; a folder that is not there has none. -/
def loadTypeFolder (path : String) : Session (List String) := do
  let workspace ← Action.state
  let names ← (workspace.storage.definitionFiles path).mapM loadTypeFile
  return names.flatten

/-- The path around a path. -/
def folderOf (path : String) : String :=
  "/".intercalate (path.splitOn "/").dropLast

/-- Writes a document, making the folder for it. -/
def writeInto (folder path : String) (data : Document) : Session Unit := do
  let workspace ← Action.state
  let storage := workspace.storage.makeFolder folder
  Action.setState { workspace with storage := storage }
  let storage ← Action.ofExcept (storage.write path data)
  Action.setState { workspace with storage := storage }

/-- Definitions of types as data, each without the fields that say nothing. -/
def typeFile (definitions : List TypeDefinition) : Document :=
  .record [("schema", .text TypeSet.defaultSchema),
    ("types", .list (definitions.map TypeDefinition.briefly))]

/-- Writes definitions of types to a file. -/
def writeTypeFile (definitions : List TypeDefinition) (path : String) : Session Unit :=
  writeInto (folderOf path) path (typeFile definitions)

end Workspace

end LineGrammar
