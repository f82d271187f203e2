import LineGrammar.Fault
import LineGrammar.Table
import LineGrammar.Yaml.Basic
import LineGrammar.Yaml.Written

/-!
# Storage

A storage holds folders and files under their paths. A file holds a text, which is read when it is
asked for, or a document that was written to it. Writing a document and reading it again gives the
document back, so a written file is kept as the document, and its text is formed only to be shown.

A path is a text with strokes between its parts. Two dots in a path go back one part; messages show
a path as it was given.
-/

namespace LineGrammar

/-- What a file holds. -/
inductive FileBody where
  | text (content : String)
  | document (data : Document)

/-- The document of a file. -/
def FileBody.read (path : String) : FileBody → Except Fault Document
  | .text content => Yaml.read path content
  | .document data => .ok data

/-- A file as a text. -/
def FileBody.shown : FileBody → String
  | .text content => content
  | .document data => Yaml.written data

namespace Path

/-- The parts of a path, without those that go nowhere. -/
def parts (path : String) : List String :=
  ((path.toList.splitOn '/').map String.ofList).filter fun part => part != "" && part != "."

/-- A path below another one; a path that starts with a stroke stands on its own. -/
def join (base path : String) : String :=
  let below := "/".intercalate (parts path)
  if path.startsWith "/" then "/" ++ below
  else if below.isEmpty then base
  else base ++ "/" ++ below

/-- The parts of a path after going back wherever it says so. -/
def place (path : String) : List String :=
  ((parts path).foldl (fun behind part => if part = ".." then behind.tail else part :: behind)
    []).reverse

end Path

/-- Folders and files by the parts of their paths. -/
structure Storage where
  folders : List (List String)
  files : List (List String × FileBody)

namespace Storage

/-- The storage without content. -/
def empty : Storage := ⟨[[]], []⟩

/-- Whether there is a folder under a path. -/
def hasFolder (storage : Storage) (path : String) : Bool :=
  storage.folders.contains (Path.place path)

/-- The file under a path. -/
def file (storage : Storage) (path : String) : Except Fault FileBody :=
  if storage.hasFolder path then .error (.isDirectory path)
  else match storage.files.lookup (Path.place path) with
    | some body => .ok body
    | none => .error (.missingFile path)

/-- The document in the file under a path. -/
def document (storage : Storage) (path : String) : Except Fault Document := do
  (← storage.file path).read path

/-- Puts a file under a path, in place of an old one. -/
def put (storage : Storage) (path : String) (body : FileBody) : Storage :=
  let place := Path.place path
  { storage with
    files := (place, body) :: storage.files.filter fun entry => entry.1 != place }

/-- Makes a folder and those around it. -/
def makeFolder (storage : Storage) (path : String) : Storage :=
  let place := Path.place path
  let all := (List.range (place.length + 1)).map fun count => place.take count
  { storage with
    folders := storage.folders ++ all.filter fun folder => !storage.folders.contains folder }

/-- Writes a document under a path, in a folder that is there. -/
def write (storage : Storage) (path : String) (data : Document) : Except Fault Storage :=
  if storage.hasFolder path then .error (.isDirectory path)
  else if storage.folders.contains (Path.place path).dropLast then
    .ok (storage.put path (.document data))
  else .error (.missingFile path)

/-- What definitions are looked for in. -/
def isDefinitionName (name : String) : Bool := name.endsWith ".yaml"

/-- The names of the definition files in a folder, in the order of their characters. -/
def definitionNames (storage : Storage) (path : String) : List String :=
  let place := Path.place path
  let inside (entry : List String) : Option String :=
    if entry.dropLast == place then entry.getLast? else none
  let names := (storage.files.map (·.1) ++ storage.folders.filter (!·.isEmpty)).filterMap inside
  (names.filter isDefinitionName).mergeSort fun a b => decide (a ≤ b)

/-- The paths of the definition files in a folder, in the order of their names. -/
def definitionFiles (storage : Storage) (path : String) : List String :=
  (storage.definitionNames path).map (Path.join path)

end Storage

end LineGrammar
