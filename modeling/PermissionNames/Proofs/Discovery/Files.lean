import PermissionNames.Proofs.Discovery
import PermissionNames.Proofs.FileTree.Agreement
import PermissionNames.Proofs.Path.Order

/-! What is found in source files is what each of them yields on its own, in the order of their paths; a file that fails yields nothing but its failure. -/

namespace PermissionNames.Discovery

open Source

/-- A body fails as soon as some of its statements do, whatever those before them declare. -/
theorem ofBody_append_of_error {surroundings : Surroundings} {namespacePath : String}
    {before after : List Statement} {found : Findings} {cause : DiscoveryError}
    (declared : ofBody surroundings namespacePath before = .ok found)
    (failed : ofBody surroundings namespacePath after = .error cause) :
    ofBody surroundings namespacePath (before ++ after) = .error cause := by
  -- Each statement in front is passed over, and what it declares is lost with the failure.
  induction before generalizing found with
  | nil => exact failed
  | cons first rest ih =>
    rw [ofBody] at declared
    obtain ⟨here, own, declared⟩ := bind_eq_ok declared
    obtain ⟨later, others, -⟩ := bind_eq_ok declared
    rw [List.cons_append, ofBody, own, ih others]
    rfl

namespace Project

variable {project : Project}

/-- A file yields the containers that it declares. -/
theorem Declares.findIn_eq {file : Path} {text : List Char} {moduleName : String}
    {findings : Findings} (declares : project.Declares file text moduleName findings) :
    project.findIn file = ⟨findings.found, []⟩ := by
  -- All three steps succeed.
  obtain ⟨read, named, declared⟩ := declares
  simp only [findIn, declaredIn, read, named, declared]

/-- A file that fails at some point yields its failure alone. -/
theorem findIn_of_not_declares {file : Path}
    (fails : ∀ text moduleName findings, ¬ project.Declares file text moduleName findings) :
    project.findIn file = ⟨[], [project.shownPath file]⟩ := by
  -- A file that yields something declares it.
  cases declared : project.declaredIn file with
  | none => simp only [findIn, declared]
  | some found =>
    obtain ⟨text, moduleName, findings, declares, -⟩ := exists_declares declared
    exact absurd declares (fails text moduleName findings)

/-- What is found in files is what is found in each of them, file by file. -/
theorem find_eq_flatMap (project : Project) (files : List Path) :
    project.find (some files) =
      ⟨(Path.sort files).flatMap fun file => (project.findIn file).found,
        (Path.sort files).flatMap fun file => (project.findIn file).failures⟩ := by
  unfold find
  rw [Option.getD_some]
  -- The findings of the first file are put in front of those of the others.
  induction Path.sort files with
  | nil => rfl
  | cons file rest ih => rw [List.foldr_cons, ih, List.flatMap_cons, List.flatMap_cons]; rfl

/-- What is found in a single file is what it yields. -/
theorem find_singleton (project : Project) (file : Path) :
    project.find (some [file]) = project.findIn file := by
  -- A single file is in order.
  have sorted : Path.sort [file] = [file] := List.mergeSort_singleton file
  rw [find_eq_flatMap, sorted, List.flatMap_singleton, List.flatMap_singleton]

/-- The project with another content at a place. -/
def replace (project : Project) (place : List String) (bytes : List UInt8) : Project :=
  { project with tree := project.tree.put place (.file bytes) }

/-- Whether a file of a project leads to a place of its tree. -/
def LeadsTo (project : Project) (file : Path) (place : List String) : Prop :=
  project.tree.walk [] (project.directory.join file).parts = .ok place

/-- A file that leads elsewhere yields the same when the content at a place is replaced. -/
theorem findIn_replace {file : Path} {place : List String} {old : List UInt8}
    (standing : project.tree.entry? place = some (.file old)) (new : List UInt8)
    (elsewhere : ¬ project.LeadsTo file place) :
    (project.replace place new).findIn file = project.findIn file := by
  have shape := FileTree.sameShape_put standing new
  have inside : place ≠ [] := by
    rintro rfl
    cases standing
  -- The root is a file as before or none, so that files are named and shown as before.
  have base : (project.replace place new).base = project.base := by
    unfold base isFile replace
    rw [shape.isFile_eq]
  have text : (project.replace place new).tree.readText (project.directory.join file) =
      project.tree.readText (project.directory.join file) := by
    refine shape.readText_eq fun reached walked => ?_
    rw [FileTree.entry?_put inside, if_neg]
    rintro rfl
    exact elsewhere walked
  unfold findIn declaredIn shownPath
  rw [base]
  unfold replace at text ⊢
  rw [text]

/-- A file below the base is reported by the rest of its path. -/
theorem shownPath_join {rest : Path} (relative : rest.anchor = .relative) :
    project.shownPath (project.base.join rest) = rest.toString := by
  -- What remains below the base is the path that was joined.
  obtain ⟨anchor, parts⟩ := rest
  obtain rfl : anchor = .relative := relative
  simp [shownPath, Path.join, Path.relativeTo?]

/-- A file that is not below the base is reported by its whole path. -/
theorem shownPath_of_not_below {file : Path}
    (outside : ∀ rest : Path, rest.anchor = .relative → file ≠ project.base.join rest) :
    project.shownPath file = file.toString := by
  unfold shownPath
  have notBelow : file.relativeTo? project.base = none := by
    unfold Path.relativeTo?
    rw [if_neg]
    -- A path that starts with the base is the base followed by the rest.
    rintro ⟨anchored, starts⟩
    obtain ⟨rest, parts⟩ := List.isPrefixOf_iff_prefix.mp starts
    refine outside ⟨.relative, rest⟩ rfl ?_
    rw [Path.join, if_pos rfl, parts, ← anchored]
  rw [notBelow, Option.getD_none]

/-- Files are looked through in the order of their components, however they are given, each on its own.
One that can be used adds what its text declares.
One that fails at any point adds its failure alone, reported by its path below the base if it is there.
Another content of one file changes nothing that other files add. -/
theorem find_file_by_file (files : List Path) :
    ∃ ordered : List Path, ordered.Perm files ∧
      ordered.Pairwise (fun first second => first.sortKey ≤ second.sortKey) ∧
      ∀ project : Project,
        project.find (some files) =
          ⟨ordered.flatMap fun file => (project.find (some [file])).found,
            ordered.flatMap fun file => (project.find (some [file])).failures⟩ ∧
        ((∀ file ∈ files, file.IsCut) → ∀ others, others.Perm files →
          project.find (some others) = project.find (some files)) ∧
        ∀ file,
          (∀ text moduleName findings, project.Declares file text moduleName findings →
            project.find (some [file]) = ⟨findings.found, []⟩) ∧
          ((∀ text moduleName findings, ¬ project.Declares file text moduleName findings) →
            project.find (some [file]) = ⟨[], [project.shownPath file]⟩) ∧
          (∀ text moduleName before after found cause,
            project.tree.readText (project.directory.join file) = .ok text →
            ModuleName.ofFile project.base file project.directory = .ok moduleName →
            readModule (String.ofList text) = .ok (before ++ after) →
            ofBody ⟨Constants.ofBody (before ++ after), some (project.shownPath file)⟩ moduleName
              before = .ok found →
            ofBody ⟨Constants.ofBody (before ++ after), some (project.shownPath file)⟩ moduleName
              after = .error cause →
            project.find (some [file]) = ⟨[], [project.shownPath file]⟩) ∧
          (∀ rest : Path, rest.anchor = .relative → file = project.base.join rest →
            project.shownPath file = rest.toString) ∧
          ((∀ rest : Path, rest.anchor = .relative → file ≠ project.base.join rest) →
            project.shownPath file = file.toString) ∧
          ∀ place old new, project.tree.entry? place = some (.file old) →
            ¬ project.LeadsTo file place →
            (project.replace place new).find (some [file]) = project.find (some [file]) := by
  refine ⟨Path.sort files, List.mergeSort_perm files _, Path.pairwise_sort files, ?_⟩
  intro project
  simp only [find_singleton]
  refine ⟨find_eq_flatMap project files, ?_, ?_⟩
  · -- Sorting the same files gives the same list.
    intro cut others same
    have apart : Path.ToldApart others :=
      Path.toldApart_of_isCut fun file member => cut file (same.mem_iff.mp member)
    rw [find_eq_flatMap, find_eq_flatMap, Path.sort_eq_of_perm apart same]
  · intro file
    refine ⟨fun text moduleName findings declares => declares.findIn_eq,
      findIn_of_not_declares, ?_, ?_, shownPath_of_not_below,
      fun place old new standing => findIn_replace standing new⟩
    · -- The text is that of the module, and the module as a whole cannot be told.
      intro text moduleName before after found cause read named parsed declared failed
      refine findIn_of_not_declares ?_
      rintro otherText otherName findings ⟨readToo, namedToo, complete⟩
      obtain rfl : text = otherText := Except.ok.inj (read.symm.trans readToo)
      obtain rfl : moduleName = otherName := Except.ok.inj (named.symm.trans namedToo)
      rw [ofSource, parsed] at complete
      dsimp only at complete
      rw [ofBody_append_of_error declared failed] at complete
      cases complete
    · rintro rest relative rfl
      exact shownPath_join relative

/-- The path of a file right below the root. -/
def topLevel (name : String) : Path := ⟨.root, [name]⟩

/-- A project with a module that declares a container, and with a file that is not UTF-8. -/
def unreadableBeside : Project where
  tree := ⟨[
    (["codes.py"], .file (Utf8.encode
      "@permissions_repo\nclass Read(Partial):\n    own: str\n".toList)),
    (["pages.py"], .file [0xff])]⟩
  directory := ⟨.root, []⟩
  root := ⟨.root, []⟩

/-- The container that its module declares. -/
def readInCodes : Container where
  name := "Read"
  namespacePath := "codes"
  kind := .repo
  slots := [.own]
  reEmittable := true
  sourcePath := some "codes.py"

/-- The text of the module declares this container, under whatever module name and shown path. -/
theorem ofSource_ownRead (moduleName : String) (shown : Option String) :
    ofSource (String.ofList "@permissions_repo\nclass Read(Partial):\n    own: str\n".toList) moduleName
      shown =
        .ok ⟨[{ container :=
          { readInCodes with namespacePath := moduleName, sourcePath := shown } }], []⟩ := by
  -- The characters are taken from the literal: to decode its bytes takes long.
  rw [ofSource, readModule_of_toList (String.toList_ofList.trans String.toList_ofList)]
  rfl

/-- A file with the text of the module declares it, wherever the file stands. -/
theorem declares_ownRead {file : Path} {moduleName shown : String}
    (holds : project.tree.HasFile (project.directory.join file) (Utf8.encode
      "@permissions_repo\nclass Read(Partial):\n    own: str\n".toList))
    (named : ModuleName.ofFile project.base file project.directory = .ok moduleName)
    (shownAs : project.shownPath file = shown) :
    project.Declares file "@permissions_repo\nclass Read(Partial):\n    own: str\n".toList moduleName
      ⟨[{ container :=
  -- The file is read as its text, and the text is known to declare the container.
        { readInCodes with namespacePath := moduleName, sourcePath := some shown } }], []⟩ := by
  refine ⟨holds.readText_eq ?_, named, ?_⟩
  · rw [String.toList_ofList]
    decide
  · rw [shownAs]
    exact ofSource_ownRead moduleName (some shown)

/-- A file with the text of the module declares it, wherever the file is named and shown in this way. -/
theorem declares_readInCodes {file : Path}
    (holds : project.tree.HasFile (project.directory.join file) (Utf8.encode
      "@permissions_repo\nclass Read(Partial):\n    own: str\n".toList))
    (named : ModuleName.ofFile project.base file project.directory = .ok "codes")
    (shown : project.shownPath file = "codes.py") :
    project.Declares file "@permissions_repo\nclass Read(Partial):\n    own: str\n".toList "codes"
      ⟨[readInCodes], []⟩ :=
  declares_ownRead holds named shown

/-- A file that cannot be read adds its failure alone, takes nothing from the file beside it, and may be given first or get another content. -/
theorem find_file_by_file_unreadableBeside :
    unreadableBeside.find (some [topLevel "pages.py", topLevel "codes.py"]) =
      unreadableBeside.find (some [topLevel "codes.py", topLevel "pages.py"]) ∧
    unreadableBeside.find (some [topLevel "codes.py"]) = ⟨[readInCodes], []⟩ ∧
    unreadableBeside.find (some [topLevel "pages.py"]) = ⟨[], ["pages.py"]⟩ ∧
    (unreadableBeside.replace ["pages.py"] []).find (some [topLevel "codes.py"]) =
      unreadableBeside.find (some [topLevel "codes.py"]) := by
  -- Each part is the law for these two files, the last one read and the other not.
  obtain ⟨ordered, -, -, fileByFile⟩ :=
    find_file_by_file [topLevel "codes.py", topLevel "pages.py"]
  obtain ⟨-, anyOrder, eachFile⟩ := fileByFile unreadableBeside
  refine ⟨anyOrder (by unfold Path.IsCut; decide) _ (List.Perm.swap _ _ _), ?_, ?_, ?_⟩
  · exact (eachFile (topLevel "codes.py")).1
      "@permissions_repo\nclass Read(Partial):\n    own: str\n".toList "codes"
      ⟨[readInCodes], []⟩ (declares_readInCodes ⟨by decide, rfl⟩ rfl rfl)
  · have unread : unreadableBeside.tree.readText
        (unreadableBeside.directory.join (topLevel "pages.py")) =
          .error (.undecodable ⟨.startByte, [0xff], 0⟩) := by
      decide +kernel
    refine (eachFile (topLevel "pages.py")).2.1 ?_
    rintro text moduleName findings ⟨read, -, -⟩
    cases unread.symm.trans read
  · refine (eachFile (topLevel "codes.py")).2.2.2.2.2 ["pages.py"] [0xff] [] (by decide) ?_
    unfold LeadsTo
    decide +kernel

end Project

end PermissionNames.Discovery
