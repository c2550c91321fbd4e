import PermissionNames.Discovery.Tree
import PermissionNames.Proofs.GeneratedSource
import PermissionNames.Proofs.Path.Lacks

/-! What containers found in source text cannot hold: their names are words, and so are those of their slots; only the name of the module comes from elsewhere. -/

namespace PermissionNames

/-- A sequence succeeds if its first step does and the rest does after it. -/
theorem bind_eq_ok {ε α β : Type} {step : Except ε α} {rest : α → Except ε β} {answer : β}
    (done : step >>= rest = .ok answer) : ∃ middle, step = .ok middle ∧ rest middle = .ok answer := by
  -- Where the first step fails there is no answer.
  cases step with
  | error fault => cases done
  | ok middle => exact ⟨middle, rfl, done⟩

/-- What is made of a list, element by element, is made of its elements. -/
theorem exists_of_mem_mapM {ε α β : Type} {step : α → Except ε β} {list : List α}
    {answers : List β} (done : list.mapM step = .ok answers) :
    ∀ answer ∈ answers, ∃ element ∈ list, step element = .ok answer := by
  induction list generalizing answers with
  | nil =>
    cases done
    simp
  | cons first rest ih =>
    -- The first answer is made of the first element, and the others are made of the rest.
    rw [List.mapM_cons] at done
    obtain ⟨head, made, done⟩ := bind_eq_ok done
    obtain ⟨tail, others, done⟩ := bind_eq_ok done
    cases done
    intro answer member
    rcases List.mem_cons.mp member with rfl | later
    · exact ⟨first, List.mem_cons_self, made⟩
    · obtain ⟨element, listed, produced⟩ := ih others answer later
      exact ⟨element, List.mem_cons_of_mem first listed, produced⟩

/-- A character that neither stands in words nor joins them to dotted names. -/
structure IsForeign (c : Char) : Prop where
  notInWords : Identifier.continuesWord c = false
  notPeriod : c ≠ '.'

variable {c : Char}

/-- A word lacks every foreign character. -/
theorem Identifier.Word.lacks (word : Identifier.Word) (foreign : IsForeign c) :
    c ∉ word.text.toList := by
  -- Every character of a word continues it, which a foreign one does not.
  intro member
  have continues := List.all_eq_true.mp word.continues c member
  rw [foreign.notInWords] at continues
  cases continues

namespace Discovery

open Source

/-- The statements of a text are read from its characters, however these are given. -/
theorem readModule_of_toList {text : String} {characters : List Char}
    (spelled : text.toList = characters) :
    readModule text = readWhole Grammar.statements (moduleText characters) := by
  rw [readModule, spelled]

/-- The characters of two texts in a row are given by those of each. -/
theorem toList_append_of_toList {first second : String} {before after : List Char}
    (ofFirst : first.toList = before) (ofSecond : second.toList = after) :
    (first ++ second).toList = before ++ after := by
  rw [String.toList_append, ofFirst, ofSecond]

/-- Nothing is found where nothing is looked at. -/
@[simp]
theorem Findings.containers_empty : ({} : Findings).containers = [] :=
  rfl

/-- The containers of findings in a row are those of each. -/
@[simp]
theorem Findings.containers_append (first second : Findings) :
    (first.append second).containers = first.containers ++ second.containers :=
  List.map_append

/-- The containers of files in a row are those of each. -/
@[simp]
theorem TreeFindings.containers_append (first second : TreeFindings) :
    (first.append second).containers = first.containers ++ second.containers :=
  List.map_append

/-- The name of a slot that a statement declares lacks foreign characters. -/
theorem lacks_slotOf? {resolve : String → LiteralText} {statement : Statement}
    {declared : DeclaredSlot} (foreign : IsForeign c)
    (found : slotOf? resolve statement = .ok (some declared)) :
    c ∉ declared.slot.identity.toList := by
  unfold slotOf? at found
  -- Only a declared name without a value makes a slot, and the name is a word.
  split at found
  · rename_i identity type
    obtain ⟨recognized, -, found⟩ := bind_eq_ok found
    cases recognized with
    | none => cases found
    | some slotType =>
      obtain ⟨known, -, found⟩ := bind_eq_ok found
      dsimp only at found
      unfold Slot.declare at found
      split at found
      · rename_i made declared
        split at declared
        · cases declared
        · cases declared
          cases found
          exact identity.lacks foreign
      · cases found
  · cases found

/-- The names of the slots that a class declares lack foreign characters. -/
theorem lacks_slotsOf {resolve : String → LiteralText} {body : List Statement}
    {slots : List DeclaredSlot} (foreign : IsForeign c)
    (found : slotsOf resolve body = .ok slots) :
    ∀ declared ∈ slots, c ∉ declared.slot.identity.toList := by
  unfold slotsOf at found
  cases read : body.mapM (slotOf? resolve) with
  | error cause =>
    rw [read] at found
    cases found
  | ok answers =>
    rw [read] at found
    cases found
    -- Each slot is the answer for one statement of the body.
    intro slot member
    obtain ⟨answer, listed, rfl⟩ := List.mem_filterMap.mp member
    obtain ⟨statement, -, declared⟩ := exists_of_mem_mapM read _ listed
    exact lacks_slotOf? foreign declared

/-- The container that a class declares lacks a foreign character if its namespace does. -/
theorem lacks_containerOf {surroundings : Surroundings} {namespacePath : String}
    {decorators bases : List Expression} {name : Identifier.Word} {body : List Statement}
    {findings : Findings} (foreign : IsForeign c) (lacks : c ∉ namespacePath.toList)
    (found : containerOf surroundings namespacePath decorators name.text bases body =
      .ok findings) : ∀ container ∈ findings.containers, container.Lacks c := by
  -- The name of the class is a word, and the slots are named by words too.
  unfold containerOf at found
  split at found
  · cases found
    simp
  · obtain ⟨slots, declared, found⟩ := bind_eq_ok found
    obtain ⟨options, -, found⟩ := bind_eq_ok found
    cases found
    simp only [Findings.containers, List.map_singleton, List.mem_singleton, forall_eq]
    exact ⟨name.lacks foreign, lacks, List.forall_mem_map.mpr (lacks_slotsOf foreign declared)⟩

/-- A namespace lacks a foreign character if the one around it does. -/
theorem lacks_namespaceWithin {outer : String} (foreign : IsForeign c) (lacks : c ∉ outer.toList)
    (name : Identifier.Word) : c ∉ (namespaceWithin outer name.text).toList := by
  -- A period is no foreign character, and the rest is the outer namespace and a word.
  unfold namespaceWithin
  split
  · exact name.lacks foreign
  · simp [lacks, foreign.notPeriod, name.lacks foreign]

mutual

/-- What a statement declares lacks a foreign character if the namespace does. -/
theorem lacks_ofStatement {surroundings : Surroundings} {namespacePath : String}
    (statement : Statement) {findings : Findings} (foreign : IsForeign c)
    (lacks : c ∉ namespacePath.toList)
    (found : ofStatement surroundings namespacePath statement = .ok findings) :
    ∀ container ∈ findings.containers, container.Lacks c := by
  cases statement with
  | classDefinition decorators name bases body =>
    rw [ofStatement] at found
    obtain ⟨own, declared, found⟩ := bind_eq_ok found
    obtain ⟨inner, nested, found⟩ := bind_eq_ok found
    cases found
    -- A class counts first, and then come the classes inside it, in its own namespace.
    intro container member
    rw [Findings.containers_append] at member
    rcases List.mem_append.mp member with inOwn | inInner
    · exact lacks_containerOf foreign lacks declared container inOwn
    · exact lacks_ofBody body foreign (lacks_namespaceWithin foreign lacks name) nested container
        inInner
  | assignment targets value =>
    cases found
    simp
  | declaration target type value =>
    cases found
    simp
  | other =>
    cases found
    simp

/-- What the statements of a body declare lacks a foreign character if the namespace does. -/
theorem lacks_ofBody {surroundings : Surroundings} {namespacePath : String}
    (body : List Statement) {findings : Findings} (foreign : IsForeign c)
    (lacks : c ∉ namespacePath.toList)
    (found : ofBody surroundings namespacePath body = .ok findings) :
    ∀ container ∈ findings.containers, container.Lacks c := by
  cases body with
  | nil =>
    cases found
    simp
  | cons first rest =>
    rw [ofBody] at found
    obtain ⟨here, declared, found⟩ := bind_eq_ok found
    obtain ⟨later, others, found⟩ := bind_eq_ok found
    cases found
    -- The statements of a body are looked through one after the other.
    intro container member
    rw [Findings.containers_append] at member
    rcases List.mem_append.mp member with inHere | inLater
    · exact lacks_ofStatement first foreign lacks declared container inHere
    · exact lacks_ofBody rest foreign lacks others container inLater

end

/-- What is found in a text is found in the statements that it is read as. -/
theorem exists_ofBody_of_ofSource {source moduleName : String} {sourcePath : Option String}
    {findings : Findings} (found : ofSource source moduleName sourcePath = .ok findings) :
    ∃ body, readModule source = .ok body ∧
      ofBody ⟨Constants.ofBody body, sourcePath⟩ moduleName body = .ok findings := by
  -- A text that is no module has no findings.
  unfold ofSource at found
  split at found
  · cases found
  · exact ⟨_, ‹_›, found⟩

/-- What the text of a module declares lacks a foreign character if the name of the module does. -/
theorem lacks_ofSource {source moduleName : String} {sourcePath : Option String}
    {findings : Findings} (foreign : IsForeign c) (lacks : c ∉ moduleName.toList)
    (found : ofSource source moduleName sourcePath = .ok findings) :
    ∀ container ∈ findings.containers, container.Lacks c := by
  -- The statements are looked through under the name of the module.
  obtain ⟨body, -, found⟩ := exists_ofBody_of_ofSource found
  exact lacks_ofBody body foreign lacks found

end Discovery

namespace ModuleName

/-- Reducing components drops some and adds none. -/
theorem mem_of_mem_reduce {parts : List String} {part : String} (member : part ∈ reduce parts) :
    part ∈ parts := by
  -- Leaving out a final component keeps all the others.
  have kept : ∀ part ∈ (if parts.getLast? = some "__init__" then parts.dropLast else parts),
      part ∈ parts := by
    intro part member
    split at member
    · exact (List.dropLast_sublist _).subset member
    · exact member
  unfold reduce at member
  dsimp only at member
  split at member
  -- A leading component is dropped as well.
  · rename_i next rest same
    refine kept part ?_
    rw [same]
    exact List.mem_cons_of_mem _ member
  · exact kept part member

/-- The place of a file below a root lacks what the file and the directory lack. -/
theorem lacks_placeBelow (root : Path) {file directory : Path} (inFile : file.Lacks c)
    (inDirectory : directory.Lacks c) : (placeBelow root file directory).Lacks c := by
  -- Below the base the components are some of the file, and else they are those of its name.
  unfold placeBelow
  cases below : (file.resolve directory).relativeTo? (root.resolve directory) with
  | none => exact Path.lacks_ofString inFile.name
  | some path => exact (inFile.resolve inDirectory).relativeTo? below

/-- The name of the module of a file lacks a foreign character if the file and the directory do. -/
theorem lacks_ofFile {root file directory : Path} {moduleName : String} (foreign : IsForeign c)
    (inFile : file.Lacks c) (inDirectory : directory.Lacks c)
    (named : ofFile root file directory = .ok moduleName) : c ∉ moduleName.toList := by
  have place := lacks_placeBelow root inFile inDirectory
  unfold ofFile at named
  dsimp only at named
  split at named
  · cases named
  · cases named
    refine lacks_intercalate (by simp [foreign.notPeriod]) ?_
    intro part member
    -- The last component is replaced by its stem.
    rcases List.mem_append.mp (mem_of_mem_reduce member) with above | isStem
    · exact place part ((List.dropLast_sublist _).subset above)
    · rw [List.mem_singleton.mp isStem]
      exact place.stem

end ModuleName

namespace Discovery.Project

variable {project : Project}

/-- A file that can be read and named, whose text declares these findings. -/
structure Declares (project : Project) (file : Path) (text : List Char) (moduleName : String)
    (findings : Findings) : Prop where
  read : project.tree.readText (project.directory.join file) = .ok text
  named : ModuleName.ofFile project.base file project.directory = .ok moduleName
  declared : ofSource (String.ofList text) moduleName (some (project.shownPath file)) = .ok findings

/-- What is declared in a file is what its text declares. -/
theorem exists_declares {file : Path} {found : List Found}
    (declared : project.declaredIn file = some found) :
    ∃ text moduleName findings, project.Declares file text moduleName findings ∧
      findings.found = found := by
  unfold declaredIn at declared
  -- Containers are declared only if the text is read, the module named and its source parsed.
  split at declared
  · cases declared
  · rename_i text read
    split at declared
    · cases declared
    · rename_i moduleName named
      split at declared
      · rename_i findings found
        cases declared
        exact ⟨text, moduleName, findings, ⟨read, named, found⟩, rfl⟩
      · cases declared

/-- What a file declares lacks a foreign character if the file and the directory do. -/
theorem lacks_declaredIn {file : Path} {found : List Found} (foreign : IsForeign c)
    (inFile : file.Lacks c) (inDirectory : project.directory.Lacks c)
    (declared : project.declaredIn file = some found) :
    ∀ one ∈ found, one.container.Lacks c := by
  -- The module is named by the path of its file.
  obtain ⟨text, moduleName, findings, declares, rfl⟩ := exists_declares declared
  have named := ModuleName.lacks_ofFile foreign inFile inDirectory declares.named
  exact List.forall_mem_map.mp (lacks_ofSource foreign named declares.declared)

/-- What is found in files is declared in one of them. -/
theorem exists_declaredIn_of_mem_find {files : Option (List Path)} {one : Found}
    (member : one ∈ (project.find files).found) :
    ∃ file ∈ files.getD project.sourceFiles, ∃ found,
      project.declaredIn file = some found ∧ one ∈ found := by
  -- The findings of the files are appended, in whatever order the files are.
  have inFiles : ∀ sorted : List Path, one ∈ (sorted.foldr
      (fun file later => (project.findIn file).append later) {}).found →
      ∃ file ∈ sorted, ∃ found, project.declaredIn file = some found ∧ one ∈ found := by
    intro sorted
    induction sorted with
    | nil => simp
    | cons file rest ih =>
      intro member
      rcases List.mem_append.mp member with here | later
      · unfold findIn at here
        cases declared : project.declaredIn file with
        | none => simp [declared] at here
        | some found =>
          rw [declared] at here
          exact ⟨file, List.mem_cons_self, found, declared, here⟩
      · obtain ⟨other, listed, known⟩ := ih later
        exact ⟨other, List.mem_cons_of_mem file listed, known⟩
  obtain ⟨file, listed, known⟩ := inFiles _ member
  exact ⟨file, List.mem_mergeSort.mp listed, known⟩

/-- What is found in files lacks a foreign character if the files and the directory do. -/
theorem lacks_find {files : Option (List Path)} (foreign : IsForeign c)
    (inFiles : ∀ file ∈ files.getD project.sourceFiles, file.Lacks c)
    (inDirectory : project.directory.Lacks c) :
    ∀ container ∈ (project.find files).containers, container.Lacks c := by
  -- Every container that is found is declared in one of the files.
  refine List.forall_mem_map.mpr fun one listed => ?_
  obtain ⟨file, inList, found, declared, member⟩ := exists_declaredIn_of_mem_find listed
  exact lacks_declaredIn foreign (inFiles file inList) inDirectory declared one member

end Discovery.Project

end PermissionNames
