import PermissionNames.Proofs.Command.Ending
import PermissionNames.Proofs.Command.StoredSources
import PermissionNames.Proofs.Discovery

/-! Storing meets only faults that a report tells where no path holds a null character, up to a source that cannot be encoded.
That one is given up when its temporary file is open. -/

namespace PermissionNames

variable {c : Char}

/-- A path without null characters is written without any. -/
theorem Path.Lacks.holdsNull_eq {path : Path} (lacks : path.Lacks '\x00') :
    holdsNull path.toString = false := by
  -- The written path adds nothing but slashes to its components.
  rw [holdsNull, List.contains_eq_mem, decide_eq_false_iff_not]
  exact lacks.toString (by decide) (by decide)

/-- The path of a source holds no control character that the names of its container do not hold. -/
theorem Container.Lacks.control_not_mem_outputPath {container : Container}
    (control : c.toNat < 0x20) (lacks : container.Lacks c) (dialect : Dialect) :
    c ∉ (container.outputPath dialect).toList := by
  have apart := @GeneratedSource.ne_of_control c control
  cases dialect with
  | csharp =>
    have qualified := not_mem_qualifiedName (apart (by decide)) lacks.name lacks.namespacePath
    simp [outputPath, qualified, apart]
  | python =>
    -- The pieces of the namespace are joined one after the other.
    have joined : ∀ (pieces : List (List Char)) (start : Path), start.Lacks c →
        (∀ piece ∈ pieces, c ∉ piece) →
        (pieces.foldl (fun path part => path.join (.ofString (.ofList part))) start).Lacks c := by
      intro pieces
      induction pieces with
      | nil => exact fun start inStart _ => inStart
      | cons piece later ih =>
        intro start inStart clean
        refine ih _ (inStart.join (Path.lacks_ofString ?_)) fun other member =>
          clean other (List.mem_cons_of_mem piece member)
        simpa using clean piece List.mem_cons_self
    have file : c ∉ (container.name ++ "_generated.py").toList := by
      simp [lacks.name, apart]
    refine ((joined _ _ (by simp [Path.Lacks]) ?_).join (Path.lacks_ofString file)).toString
      (apart (by decide)) (apart (by decide))
    intro piece listed inPiece
    exact lacks.namespacePath (Path.mem_of_mem_splitAt (List.mem_filter.mp listed).1 inPiece)

namespace FileTree

open Command

variable {tree : FileTree} {path : Path} {fault : FileFault}

/-- Looking up a path meets only faults that are told. -/
theorem isReported_of_exists? (failed : tree.exists? path = .error fault) :
    isReported fault = true := by
  -- The path or a name in it is too long.
  unfold exists? at failed
  split at failed
  · cases failed
  split at failed
  · cases failed
    rfl
  · split at failed <;> cases failed
    rfl

/-- Reading meets only faults that are told, in a path without null characters. -/
theorem isReported_of_readText (clean : holdsNull path.toString = false)
    (failed : tree.readText path = .error fault) : isReported fault = true := by
  unfold readText at failed
  rw [if_neg (by simp [clean])] at failed
  split at failed
  · cases failed
    rfl
  -- The system refuses the path, or the content is no text.
  split at failed
  · cases failed
    rfl
  · cases failed
    rfl
  · split at failed <;> cases failed
    rfl

/-- Accepting a directory meets only faults that are told. -/
theorem isReported_of_tolerate {problem : FileProblem}
    (failed : (tree.tolerate path problem).2 = .error fault) : isReported fault = true := by
  -- There is one fault, and it is one of the file system.
  unfold tolerate at failed
  dsimp only at failed
  split at failed <;> cases failed
  rfl

/-- Making a directory and those above it meets only faults that are told. -/
theorem isReported_of_makeAll {reversed : List String}
    (failed : (tree.makeAll reversed).2 = .error fault) : isReported fault = true := by
  -- The directory is made at once, or after those above it, which are fewer components.
  induction reversed generalizing tree with
  | nil => cases failed
  | cons part above ih =>
    unfold makeAll at failed
    dsimp only at failed
    split at failed
    · cases failed
    · split at failed
      · rename_i inner made
        cases failed
        exact ih (congrArg Prod.snd made)
      · split at failed
        · cases failed
        · cases failed
          rfl
        · exact isReported_of_tolerate failed
    · exact isReported_of_tolerate failed

/-- Making directories meets only faults that are told, in a path without null characters. -/
theorem isReported_of_makeDirectories (clean : holdsNull path.toString = false)
    (failed : (tree.makeDirectories path).2 = .error fault) : isReported fault = true := by
  -- Without null characters there is a check of the length, and then directory after directory.
  unfold makeDirectories at failed
  rw [if_neg (by simp [clean])] at failed
  split at failed
  · cases failed
    rfl
  · exact isReported_of_makeAll failed

/-- Writing meets only faults that are told, in a path without null characters. -/
theorem isReported_of_writeFile {bytes : List UInt8} (clean : holdsNull path.toString = false)
    (failed : tree.writeFile path bytes = .error fault) : isReported fault = true := by
  -- Without null characters all that is left are faults of the file system.
  unfold writeFile at failed
  rw [if_neg (by simp [clean])] at failed
  split at failed
  · cases failed
    rfl
  split at failed
  · cases failed
    rfl
  · split at failed <;> cases failed
    rfl

/-- Moving a file meets only faults that are told. -/
theorem isReported_of_moveFile {source destination : Path}
    (failed : tree.moveFile source destination = .error fault) : isReported fault = true := by
  -- All ways to fail are faults of the file system.
  unfold moveFile at failed
  split at failed
  · cases failed
    rfl
  · cases failed
    rfl
  · split at failed
    · cases failed
      rfl
    · split at failed <;> cases failed
    · cases failed
      rfl

end FileTree

namespace Command

open TreeAction

variable {tree after : FileTree} {target : Path} {text : String} {fault : FileFault}

/-- A temporary file lacks what its target lacks, apart from its ending. -/
theorem lacks_temporary (lacks : target.Lacks '\x00') : (temporary target).Lacks '\x00' := by
  -- Only the last component is changed, by an ending without null characters.
  intro part member
  rcases List.mem_append.mp member with above | last
  · exact lacks part ((List.dropLast_sublist _).subset above)
  · rw [List.mem_singleton.mp last]
    simpa using lacks.name

/-- A target that can be looked at: nothing stands there, or a text is read from it. -/
def IsLegible (tree : FileTree) (target : Path) : Prop :=
  tree.exists? target = .ok false ∨ ∃ held, tree.readText target = .ok held

/-- Whether a target holds a text is told exactly if the target can be looked at. -/
theorem isLegible_iff (text : String) :
    IsLegible tree target ↔ ∃ answer, (holds target text).on tree = (.ok answer, tree) := by
  constructor
  · rintro (free | ⟨held, read⟩)
    · exact ⟨false, by rw [on_holds_eq, free]⟩
    · obtain ⟨bytes, raw, file, -, -⟩ := FileTree.readText_eq_ok_iff.mp read
      exact ⟨held == text.toList, by rw [on_holds_eq, file.exists?_eq, read]; rfl⟩
  · rintro ⟨answer, told⟩
    rw [on_holds_eq] at told
    -- Something stands there, and it is read, or nothing does.
    cases looked : tree.exists? target with
    | error fault => simp [looked] at told
    | ok present =>
      cases present with
      | false => exact .inl looked
      | true =>
        cases read : tree.readText target with
        | error fault => simp [looked, read, Except.map] at told
        | ok held => exact .inr ⟨held, read⟩

/-- Looking whether a target holds a text meets only faults that are told, in a path without null characters. -/
theorem isReported_of_on_holds (clean : holdsNull target.toString = false)
    (failed : (holds target text).on tree = (.error fault, after)) :
    isReported fault = true := by
  -- Looking up and reading are the only questions that are asked.
  rw [on_holds_eq, Prod.mk.injEq] at failed
  obtain ⟨failed, -⟩ := failed
  split at failed
  · rename_i looked
    cases failed
    exact FileTree.isReported_of_exists? looked
  · cases failed
  · cases read : tree.readText target with
    | error other =>
      rw [read] at failed
      cases failed
      exact FileTree.isReported_of_readText clean read
    | ok held =>
      rw [read] at failed
      cases failed

/-- What storing leaves of a target whose text cannot be encoded: directories, and an empty temporary file. -/
structure LeftEmpty (target : Path) (tree after : FileTree) : Prop where
  legible : IsLegible tree target
  opened : ∃ ready, tree.makeDirectories target.parent = (ready, .ok ()) ∧
    ready.writeFile (temporary target) [] = .ok after

/-- A text that cannot be encoded is given up when its temporary file is open. -/
theorem LeftEmpty.on_storeText (leftEmpty : LeftEmpty target tree after) (text : String) :
    (storeText target text false).on tree = (.error .unencodable, after) := by
  obtain ⟨legible, ready, made, filled⟩ := leftEmpty
  obtain ⟨answer, looked⟩ := (isLegible_iff text).mp legible
  -- No answer lets the text be taken for unchanged.
  rw [storeText, on_bind, looked]
  dsimp only
  rw [if_neg (by simp), on_bind, on_attempt, made]
  dsimp only
  rw [replaceText, if_neg (by simp), on_bind, on_change, filled]
  rfl

/-- Replacing what stands under a path without null characters meets only faults that are told, unless the text cannot be encoded. -/
theorem untold_of_replaceText {isEncodable : Bool} (lacks : target.Lacks '\x00')
    (failed : (replaceText target text isEncodable).on tree = (.error fault, after))
    (untold : isReported fault = false) :
    isEncodable = false ∧ fault = .unencodable ∧ tree.writeFile (temporary target) [] = .ok after := by
  have clean := (lacks_temporary lacks).holdsNull_eq
  unfold replaceText at failed
  split at failed
  · -- Both the temporary file and the move fail with faults that are told.
    rw [on_bind, on_change] at failed
    cases filled : tree.writeFile (temporary target) (Utf8.encode text.toList) with
    | error other =>
      rw [filled] at failed
      cases failed
      simp [FileTree.isReported_of_writeFile clean filled] at untold
    | ok full =>
      rw [filled] at failed
      dsimp only at failed
      rw [on_bind, on_change] at failed
      cases moved : full.moveFile (temporary target) target with
      | error other =>
        rw [moved] at failed
        cases failed
        simp [FileTree.isReported_of_moveFile moved] at untold
      | ok replaced =>
        rw [moved] at failed
        cases failed
  · rename_i broken
    rw [on_bind, on_change] at failed
    cases filled : tree.writeFile (temporary target) [] with
    | error other =>
      rw [filled] at failed
      cases failed
      simp [FileTree.isReported_of_writeFile clean filled] at untold
    | ok full =>
      rw [filled] at failed
      cases failed
      exact ⟨by simpa using broken, rfl, rfl⟩

/-- Storing a text under a path without null characters meets only faults that are told, unless the text cannot be encoded and is given up. -/
theorem untold_of_storeText {isEncodable : Bool} (lacks : target.Lacks '\x00')
    (failed : (storeText target text isEncodable).on tree = (.error fault, after))
    (untold : isReported fault = false) :
    isEncodable = false ∧ fault = .unencodable ∧ LeftEmpty target tree after := by
  rw [storeText, on_bind] at failed
  cases looked : (holds target text).on tree with
  | mk found middle =>
    obtain ⟨rfl, -⟩ := on_holds_cases looked
    rw [looked] at failed
    cases found with
    | error other =>
      cases failed
      simp [isReported_of_on_holds lacks.holdsNull_eq looked] at untold
    | ok there =>
      dsimp only at failed
      split at failed
      · cases failed
      · -- The directories lie above the target, on a path as clean.
        rw [on_bind, on_attempt] at failed
        cases made : middle.makeDirectories target.parent with
        | mk ready directories =>
          rw [made] at failed
          cases directories with
          | error other =>
            cases failed
            simp [FileTree.isReported_of_makeDirectories lacks.parent.holdsNull_eq
              (congrArg Prod.snd made)] at untold
          | ok nothing =>
            obtain ⟨broken, rfl, filled⟩ := untold_of_replaceText lacks failed untold
            exact ⟨broken, rfl, (isLegible_iff text).mpr ⟨there, looked⟩, ready, made, filled⟩

section Sources

variable {output : Path} {sources : List GeneratedSource}

/-- Storing sources ends at one that cannot be encoded, when those before it are stored. -/
def EndsUntold (output : Path) (sources : List GeneratedSource) (tree after : FileTree) : Prop :=
  ∃ before source later stored middle, sources = before ++ source :: later ∧
    (storeAll output before).on tree = (.ok stored, middle) ∧
    source.isEncodable = false ∧ LeftEmpty (targetOf output source) middle after

/-- Where storing ends at a source that cannot be encoded, this is its fault. -/
theorem EndsUntold.on_storeAll (ends : EndsUntold output sources tree after) :
    (storeAll output sources).on tree = (.error .unencodable, after) := by
  -- The sources in front are stored, and the first one that cannot be encoded ends it.
  obtain ⟨before, source, later, stored, middle, rfl, complete, broken, leftEmpty⟩ := ends
  have failed := leftEmpty.on_storeText source.text
  rw [← broken] at failed
  exact on_storeAll_append_of_error complete failed

/-- Storing sources meets a fault that is not told only at one that cannot be encoded, if neither the output nor a path of theirs holds a null character. -/
theorem endsUntold_of_storeAll (inOutput : output.Lacks '\x00')
    (inPaths : ∀ source ∈ sources, '\x00' ∉ source.path.toList)
    (failed : (storeAll output sources).on tree = (.error fault, after))
    (untold : isReported fault = false) :
    fault = .unencodable ∧ EndsUntold output sources tree after := by
  -- Storing stops at one source, whose target holds no null character either.
  obtain ⟨before, source, later, stored, middle, split, complete, failed⟩ := exists_stopped failed
  have lacks : (targetOf output source).Lacks '\x00' :=
    inOutput.join (Path.lacks_ofString (inPaths source (by simp [split])))
  obtain ⟨broken, same, leftEmpty⟩ := untold_of_storeText lacks failed untold
  exact ⟨same, before, source, later, stored, middle, split, complete, broken, leftEmpty⟩

end Sources

end Command

end PermissionNames
