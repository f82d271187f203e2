import LineGrammar.Proofs.Definitions
import LineGrammar.Proofs.Tokens
import LineGrammar.Storage

/-!
# Files and what is read from them

A path leads to a place, and a file is found by its place. A document that is written is read again
as it was, every other file is read as before, and a folder lists the same definition files and the
written one. Making a folder hides a file that stands in its way; the statements about writing are
for paths that no file stands in the way of.
-/

namespace LineGrammar

/-! ## Places -/

namespace Path

variable {path folder part name : String}

/-- What a place is made of: each part names something, and none has a stroke. -/
structure IsPart (part : String) : Prop where
  filled : part ≠ ""
  elsewhere : part ≠ "."
  ahead : part ≠ ".."
  unbroken : '/' ∉ part.toList

/-- A part of a path names something, and has no stroke. -/
theorem mem_parts (listed : part ∈ parts path) :
    part ≠ "" ∧ part ≠ "." ∧ '/' ∉ part.toList := by
  simp only [parts, List.mem_filter, List.mem_map, Bool.and_eq_true, bne_iff_ne] at listed
  obtain ⟨⟨chars, piece, rfl⟩, filled, elsewhere⟩ := listed
  refine ⟨filled, elsewhere, fun inside => ?_⟩
  rw [String.toList_ofList] at inside
  exact (mem_of_mem_splitOn piece inside).2 rfl

/-- What a place is made of are its parts. -/
theorem isPart_of_mem_place (listed : part ∈ place path) : IsPart part := by
  have within : ∀ (ahead behind : List String),
      part ∈ ahead.foldl (fun behind part => if part = ".." then behind.tail else part :: behind)
        behind → part ∈ behind ∨ part ∈ ahead ∧ part ≠ ".." := by
    intro ahead
    induction ahead with
    | nil => exact fun behind inside => .inl inside
    | cons first rest ih =>
      intro behind inside
      rcases ih _ inside with old | ⟨new, other⟩
      · beta_reduce at old
        split at old
        · exact .inl (List.mem_of_mem_tail old)
        · rename_i other
          rcases List.mem_cons.mp old with rfl | old
          · exact .inr ⟨List.mem_cons_self, other⟩
          · exact .inl old
      · exact .inr ⟨List.mem_cons_of_mem _ new, other⟩
  rcases within _ _ (List.mem_reverse.mp listed) with none | ⟨inside, ahead⟩
  · cases none
  · obtain ⟨filled, elsewhere, unbroken⟩ := mem_parts inside
    exact ⟨filled, elsewhere, ahead, unbroken⟩

namespace IsPart

/-- A part is not divided by strokes. -/
theorem splitOn_toList (single : IsPart name) : name.toList.splitOn '/' = [name.toList] :=
  List.splitOnP_eq_singleton fun c inside => by
    rw [beq_eq_false_iff_ne]
    rintro rfl
    exact single.unbroken inside

/-- A part is a path of itself alone. -/
theorem parts_eq (single : IsPart name) : parts name = [name] := by
  simp [parts, single.splitOn_toList, single.filled, single.elsewhere]

/-- A part is joined to a folder by a stroke. -/
theorem join_eq (single : IsPart name) : join folder name = folder ++ "/" ++ name := by
  have onItsOwn : name.startsWith "/" = false := by
    rw [Bool.eq_false_iff, ne_eq, String.startsWith_string_iff]
    rintro ⟨rest, same⟩
    exact single.unbroken (by rw [← same]; simp)
  simp [join, single.parts_eq, onItsOwn, single.filled]

/-- What is put below a folder stands in the folder. -/
theorem place_join (single : IsPart name) : place (join folder name) = place folder ++ [name] := by
  have split : parts (folder ++ "/" ++ name) = parts folder ++ [name] := by
    have apart : (folder ++ "/" ++ name).toList.splitOn '/' =
        folder.toList.splitOn '/' ++ [name.toList] := by
      rw [← single.splitOn_toList, String.toList_append, String.toList_append, List.append_assoc]
      exact List.splitOnP_append_cons _ _ rfl
    rw [parts, apart, List.map_append, List.filter_append]
    simp [parts, single.filled, single.elsewhere]
  rw [place, single.join_eq, split, List.foldl_append]
  simp [place, single.ahead]

end IsPart

end Path

/-! ## Reading commands -/

namespace Storage

variable {storage : Storage} {folder path file : String}

/-- The set of commands in the file under a path; a file that holds nothing counts as one without
fields. -/
def commandSet (storage : Storage) (path : String) : Except Fault CommandSet := do
  let data ← storage.document path
  CommandSet.ofDocument (if data.isVoid then .record [] else data)

/-- The commands in the file under a path; a file that cannot be read has none. -/
def commandsAt (storage : Storage) (path : String) : List Command :=
  match storage.commandSet path with
  | .ok set => set.commands
  | .error _ => []

/-- The commands in the definition files of a folder, each with the path of its file. -/
def commandsIn (storage : Storage) (folder : String) : List (Command × String) :=
  (storage.definitionFiles folder).flatMap fun file => (storage.commandsAt file).map (·, file)

/-- The commands of a file have names. -/
theorem name_of_mem_commandsAt {command : Command} (listed : command ∈ storage.commandsAt path) :
    command.name ≠ "" := by
  unfold commandsAt commandSet at listed
  split at listed
  · rename_i set read
    cases found : storage.document path with
    | error fault => simp [found, bind, Except.bind] at read
    | ok data =>
      rw [found] at read
      exact CommandSet.names_of_ofDocument read command listed
  · cases listed

/-- The commands of a file are those that its data hold. -/
theorem commandsAt_of_document {data : Document} {set : CommandSet}
    (found : storage.document path = .ok data) (filled : data.isVoid = false)
    (read : CommandSet.ofDocument data = .ok set) : storage.commandsAt path = set.commands := by
  have whole : storage.commandSet path = .ok set := by
    rw [commandSet, found, ← read]
    simp [bind, Except.bind, filled]
  simp [commandsAt, whole]

/-- A folder holds no commands, even if it is named like a file. -/
theorem commandsAt_of_folder (folder : storage.hasFolder path = true) :
    storage.commandsAt path = [] := by
  simp [commandsAt, commandSet, document, Storage.file, folder, bind, Except.bind]

/-- Without a file there are no commands. -/
theorem commandsAt_of_missing (missing : storage.files.lookup (Path.place path) = none) :
    storage.commandsAt path = [] := by
  by_cases folder : storage.hasFolder path = true
  · exact commandsAt_of_folder folder
  · simp [commandsAt, commandSet, document, Storage.file, folder, missing, bind, Except.bind]

/-- The definition files of a folder are those things in it, files or folders, that are named like
one. -/
theorem mem_definitionFiles : file ∈ storage.definitionFiles folder ↔
    ∃ place name, (place ∈ storage.files.map (·.1) ∨ place ∈ storage.folders) ∧
      place.dropLast = Path.place folder ∧ place.getLast? = some name ∧
      isDefinitionName name = true ∧ file = Path.join folder name := by
  simp only [definitionFiles, definitionNames, List.mem_map, List.mem_mergeSort, List.mem_filter,
    List.mem_filterMap, List.mem_append]
  constructor
  · rintro ⟨name, ⟨⟨place, known, inside⟩, like⟩, rfl⟩
    split at inside
    · rename_i here
      refine ⟨place, name, ?_, beq_iff_eq.mp here, inside, like, rfl⟩
      exact known.imp id And.left
    · cases inside
  · rintro ⟨place, name, known, here, last, like, rfl⟩
    refine ⟨name, ⟨⟨place, known.imp id fun folder => ⟨folder, ?_⟩, ?_⟩, like⟩, rfl⟩
    · cases place with
      | nil => cases last
      | cons => rfl
    · simp [here, last]

/-- With more files and folders, no definition file is lost. -/
theorem definitionFiles_mono {more : Storage}
    (known : ∀ place, place ∈ storage.files.map (·.1) ∨ place ∈ storage.folders →
      place ∈ more.files.map (·.1) ∨ place ∈ more.folders)
    (listed : file ∈ storage.definitionFiles folder) : file ∈ more.definitionFiles folder := by
  obtain ⟨place, name, there, rest⟩ := mem_definitionFiles.mp listed
  exact mem_definitionFiles.mpr ⟨place, name, known place there, rest⟩

/-! ## Writing -/

/-- To make a folder makes all folders around it as well. -/
theorem mem_folders_makeFolder {place : List String} :
    place ∈ (storage.makeFolder folder).folders ↔
      place ∈ storage.folders ∨ place <+: Path.place folder := by
  simp only [makeFolder, List.mem_append, List.mem_filter, List.mem_map, List.mem_range]
  constructor
  · rintro (old | ⟨⟨count, _, rfl⟩, _⟩)
    · exact .inl old
    · exact .inr (List.take_prefix _ _)
  · rintro (old | above)
    · exact .inl old
    · by_cases known : place ∈ storage.folders
      · exact .inl known
      · refine .inr ⟨⟨place.length, Nat.lt_succ_of_le above.length_le, ?_⟩, by simpa using known⟩
        exact (List.prefix_iff_eq_take.mp above).symm

/-- No file stands where a folder is to be, or above it. -/
def ClearFor (storage : Storage) (folder : String) : Prop :=
  ∀ entry ∈ storage.files, ¬entry.1 <+: Path.place folder

/-- A storage with a folder and a file. -/
def withFile (storage : Storage) (folder path : String) (data : Document) : Storage :=
  (storage.makeFolder folder).put path (.document data)

variable {data : Document}

/-- A file that is written stands in no folder's place. -/
theorem hasFolder_of_write {changed : Storage} (written : storage.write path data = .ok changed) :
    storage.hasFolder path = false ∧ changed = storage.put path (.document data) := by
  unfold write at written
  split at written
  · cases written
  · rename_i free
    split at written
    · cases written
      exact ⟨by simpa using free, rfl⟩
    · cases written

/-- What was written to a file is read from it. -/
theorem document_withFile (free : (storage.makeFolder folder).hasFolder path = false)
    (same : Path.place file = Path.place path) :
    (storage.withFile folder path data).document file = .ok data := by
  have noFolder : (storage.withFile folder path data).hasFolder file = false := by
    rw [← free]
    simp [hasFolder, withFile, put, same]
  have found : (storage.withFile folder path data).files.lookup (Path.place file) =
      some (.document data) := by
    simp [withFile, put, same]
  simp [document, Storage.file, noFolder, found, FileBody.read, bind, Except.bind]

/-- The entries of other keys do not change what is looked up. -/
theorem lookup_filter_ne {α β : Type} [BEq α] [LawfulBEq α] {key other : α} (apart : key ≠ other)
    (entries : List (α × β)) :
    (entries.filter fun entry => entry.1 != other).lookup key = entries.lookup key := by
  induction entries with
  | nil => rfl
  | cons entry rest ih =>
    obtain ⟨first, value⟩ := entry
    by_cases same : first = other
    · subst same
      have passed : (key == first) = false := by simpa using apart
      simp [List.lookup_cons, passed, ih]
    · simp only [List.filter_cons, bne_iff_ne, ne_eq, same, not_false_eq_true, if_true,
        List.lookup_cons, ih]

/-- A folder comes to stand only where no file was. -/
theorem commandsAt_makeFolder (clear : storage.ClearFor folder) :
    (storage.makeFolder folder).commandsAt file = storage.commandsAt file := by
  have folders : (storage.makeFolder folder).hasFolder file = true ↔
      storage.hasFolder file = true ∨ Path.place file <+: Path.place folder := by
    simpa [hasFolder] using mem_folders_makeFolder
  by_cases old : storage.hasFolder file = true
  · rw [commandsAt_of_folder old, commandsAt_of_folder (folders.mpr (.inl old))]
  · by_cases above : Path.place file <+: Path.place folder
    · have missing : storage.files.lookup (Path.place file) = none := by
        rw [List.lookup_eq_none_iff]
        intro entry listed
        rw [bne_iff_ne]
        exact fun same => clear entry listed (same ▸ above)
      rw [commandsAt_of_missing missing, commandsAt_of_folder (folders.mpr (.inr above))]
    · have after : ¬(storage.makeFolder folder).hasFolder file = true := fun new =>
        (folders.mp new).elim old above
      have files : (storage.makeFolder folder).files = storage.files := rfl
      simp [commandsAt, commandSet, document, Storage.file, old, after, files]

/-- Another file keeps its commands when one is put into the storage. -/
theorem commandsAt_put_of_ne {body : FileBody} (apart : Path.place file ≠ Path.place path) :
    (storage.put path body).commandsAt file = storage.commandsAt file := by
  have files : (storage.put path body).files.lookup (Path.place file) =
      storage.files.lookup (Path.place file) := by
    have passed : (Path.place file == Path.place path) = false := by simpa using apart
    simp only [put, List.lookup_cons, passed]
    exact lookup_filter_ne apart _
  have folders : (storage.put path body).hasFolder file = storage.hasFolder file := rfl
  simp [commandsAt, commandSet, document, Storage.file, folders, files]

/-- Another file keeps its commands when one is written. -/
theorem commandsAt_withFile_of_ne (clear : storage.ClearFor folder)
    (apart : Path.place file ≠ Path.place path) :
    (storage.withFile folder path data).commandsAt file = storage.commandsAt file :=
  (commandsAt_put_of_ne apart).trans (commandsAt_makeFolder clear)

/-- No file that is written comes to stand in the way of a folder. -/
theorem ClearFor.withFile (clear : storage.ClearFor folder)
    (free : (storage.makeFolder folder).hasFolder path = false) :
    (storage.withFile folder path data).ClearFor folder := by
  intro entry listed
  simp only [Storage.withFile, put, List.mem_cons, List.mem_filter] at listed
  rcases listed with rfl | ⟨old, _⟩
  · intro above
    have inTheWay : (storage.makeFolder folder).hasFolder path = true := by
      simpa [hasFolder] using mem_folders_makeFolder.mpr (.inr above)
    rw [free] at inTheWay
    cases inTheWay
  · exact clear entry old

/-- What stands in a storage with a new file: what stood there, the file, and the folders above it. -/
theorem known_withFile {place : List String} :
    place ∈ (storage.withFile folder path data).files.map (·.1) ∨
        place ∈ (storage.withFile folder path data).folders ↔
      (place ∈ storage.files.map (·.1) ∨ place ∈ storage.folders) ∨
        place = Path.place path ∨ place <+: Path.place folder := by
  have folders : place ∈ (storage.withFile folder path data).folders ↔
      place ∈ storage.folders ∨ place <+: Path.place folder := mem_folders_makeFolder
  have files : place ∈ (storage.withFile folder path data).files.map (·.1) ↔
      place = Path.place path ∨ place ∈ storage.files.map (·.1) := by
    by_cases same : place = Path.place path
    · simp [withFile, put, same]
    · simp [withFile, put, makeFolder, same]
  rw [files, folders, @or_comm (place = Path.place path)]
  exact or_or_or_comm

/-- A definition file that is new has no commands, unless it is the one that was written. -/
theorem mem_definitionFiles_of_withFile {base : String} {command : Command}
    (clear : storage.ClearFor folder) (apart : Path.place file ≠ Path.place path)
    (listed : file ∈ (storage.withFile folder path data).definitionFiles base)
    (inside : command ∈ storage.commandsAt file) : file ∈ storage.definitionFiles base := by
  obtain ⟨place, name, there, here, last, like, rfl⟩ := mem_definitionFiles.mp listed
  have whole : place = Path.place base ++ [name] := by
    rw [← here, List.dropLast_append_getLast?  name (by simpa using last)]
  rcases known_withFile.mp there with old | rfl | above
  · exact mem_definitionFiles.mpr ⟨place, name, old, here, last, like, rfl⟩
  · have part := Path.isPart_of_mem_place (List.mem_of_getLast? last)
    exact absurd (part.place_join.trans whole.symm) apart
  · -- The place of the new folder held no file before.
    have part := Path.isPart_of_mem_place (above.subset (List.mem_of_getLast? last))
    rw [commandsAt_of_missing] at inside
    · cases inside
    · rw [part.place_join, ← whole, List.lookup_eq_none_iff]
      intro entry old
      rw [bne_iff_ne]
      exact fun same => clear entry old (same ▸ above)

end Storage

end LineGrammar
