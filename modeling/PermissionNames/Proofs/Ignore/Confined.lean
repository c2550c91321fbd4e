import PermissionNames.Proofs.FileTree.Agreement
import PermissionNames.Proofs.Ignore.Verdict

/-! An ignore file below the root decides nothing about paths that are not below its directory, as long as its lines are rewritten to that directory. -/

namespace PermissionNames.Ignore

variable {base : List String} {line : List Char} {tree : FileTree} {root : Path}

/-- Whether a line of an ignore file in a directory is a comment, is empty or is rewritten to that directory and more. -/
def confines (base : List String) (line : List Char) : Bool :=
  line = [] || line.head? == some '#' ||
    (!isKept line && innerOf line != [] &&
      (strip (innerOf line) != [] || isAnchored line || decide (1 < base.length)))

/-- A line that is confined to a directory says nothing of any path that is not below it. -/
theorem lineMarks_outside (full : base ≠ []) (plain : ∀ part ∈ base, IsPlain part)
    (confined : confines base line = true) {path : List Char}
    (outside : ¬ directoryText base ++ ['/'] <+: path) :
    (lineMarks (String.ofList (rebase (directoryText base) line)) path).getD [] = [] := by
  simp only [confines, Bool.or_eq_true, Bool.and_eq_true, decide_eq_true_eq, beq_iff_eq,
    Bool.not_eq_true', bne_iff_ne] at confined
  -- Empty lines and comments say nothing anywhere, and other lines ask for the directory.
  rcases confined with (rfl | comment) | ⟨⟨moved, innerFull⟩, placed⟩
  · rw [rebase_nil, lineMarks_nil]
    rfl
  · rw [rebase_of_isKept (isKept_of_comment comment), lineMarks_comment comment]
    rfl
  · rw [lineMarks_rebase full plain moved innerFull (or_assoc.mp placed)]
    exact shapeMarks_outside full plain (innerSegments_ne_nil line) outside _ _

/-- Lines that are all confined to a directory say nothing of any path that is not below it. -/
theorem allMarks_outside (full : base ≠ []) (plain : ∀ part ∈ base, IsPlain part)
    {text : List Char}
    (confined : ∀ line ∈ splitLines (String.ofList text), confines base line.toList = true)
    {path : List Char} (outside : ¬ directoryText base ++ ['/'] <+: path) :
    allMarks (linesBelow base text) path = [] := by
  -- Each line of the file is confined, and says nothing of the path.
  rw [allMarks, linesBelow, List.flatMap_map, List.flatMap_eq_nil_iff]
  exact fun line member => lineMarks_outside full plain (confined line member) outside

/-- Whether all lines of a file, if it can be read, are confined to a directory. -/
def Confined (tree : FileTree) (file : Path) (base : List String) : Prop :=
  ∀ text, tree.readText file = .ok text →
    ∀ line ∈ splitLines (String.ofList text), confines base line.toList = true

/-- Whatever is written to an ignore file below the root, paths that are not below its directory are ignored or not as before.
Its lines are confined to the directory, before and after. -/
theorem ignores_outside_nested (level : ∀ entry ∈ tree.entries, ".." ∉ entry.1)
    (full : base ≠ []) (plain : ∀ part ∈ base, IsPlain part) {file : Path}
    (place : file = ⟨root.anchor, root.parts ++ base ++ [fileName]⟩) {old new : List UInt8}
    (standing : tree.entry? file.parts = some (.file old))
    (confined : Confined tree file base)
    (alsoConfined : Confined (tree.put file.parts (.file new)) file base) {rules others : Rules}
    (built : Rules.ofProject tree root = .ok rules)
    (alsoBuilt : Rules.ofProject (tree.put file.parts (.file new)) root = .ok others)
    {path : String} (outside : ¬ directoryText base ++ ['/'] <+: shortened path) :
    others.ignores path = rules.ignores path := by
  have listed : file.parts ∈ tree.entries.map (·.1) :=
    List.mem_map_of_mem (FileTree.mem_entries_of_file standing)
  have places := FileTree.places_put listed (.file new)
  have shape := FileTree.sameShape_put standing new
  obtain ⟨lines, read, patterns⟩ := ofProject_eq_ok_iff.mp built
  obtain ⟨otherLines, alsoRead, otherPatterns⟩ := ofProject_eq_ok_iff.mp alsoBuilt
  refine ignores_congr ?_
  rw [verdict_of_ofProject read built, verdict_of_ofProject alsoRead alsoBuilt]
  rw [FileTree.below_eq_of_places places] at alsoRead
  refine congrArg judge (allMarks_congr ?_ read alsoRead)
  intro next found own alsoOwn ownRead alsoOwnRead
  obtain ⟨anchored, -, entry, member, at_⟩ := FileTree.mem_below found
  by_cases same : next = file
  · -- The file itself says nothing of the path, before and after.
    subst same
    rw [place] at ownRead alsoOwnRead
    obtain ⟨text, readText, rfl⟩ := rootLines_eq_ok_iff.mp ownRead
    obtain ⟨newText, readNewText, rfl⟩ := rootLines_eq_ok_iff.mp alsoOwnRead
    rw [← place] at readText readNewText
    rw [allMarks_outside full plain (confined text readText) outside,
      allMarks_outside full plain (alsoConfined newText readNewText) outside]
  · -- Every other file is as it was.
    have apart : next.parts ≠ file.parts := by
      intro sameParts
      refine same ?_
      obtain ⟨anchor, parts⟩ := next
      rw [place] at sameParts ⊢
      rw [Path.mk.injEq]
      exact ⟨anchored, sameParts⟩
    have text : (tree.put file.parts (.file new)).readText next = tree.readText next := by
      refine shape.readText_eq fun reached walked => ?_
      have arrived : reached = next.parts := by
        simpa using (FileTree.walk_eq_ok (by rw [← at_]; exact level entry member) walked).1
      have inside : file.parts ≠ [] := by simp [place]
      rw [FileTree.entry?_put inside, arrived, if_neg apart]
    rw [rootLines, text] at alsoOwnRead
    rw [rootLines] at ownRead
    obtain rfl := Except.ok.inj (ownRead.symm.trans alsoOwnRead)
    rfl

/-- Where a directory keeps the name, a pattern for all its paths takes its place, and the name is ignored as before beside the directory. -/
theorem ignores_outside_nested_ignoredAtRoot :
    (ignoredAtRoot "# note\n!x.py\n").put inDirectory.parts (.file (Utf8.encode "*\n".toList)) =
        ignoredAtRoot "*\n" ∧
      ∃ rules others,
        Rules.ofProject (ignoredAtRoot "# note\n!x.py\n") ⟨.root, []⟩ = .ok rules ∧
        Rules.ofProject (ignoredAtRoot "*\n") ⟨.root, []⟩ = .ok others ∧
        rules.ignores "b/x.py" = false ∧ others.ignores "b/x.py" = true ∧
        rules.ignores "c/x.py" = true ∧ others.ignores "c/x.py" = rules.ignores "c/x.py" := by
  have changed : (ignoredAtRoot "# note\n!x.py\n").put inDirectory.parts
      (.file (Utf8.encode "*\n".toList)) = ignoredAtRoot "*\n" := by
    decide +kernel
  have before : (ignoredAtRoot "# note\n!x.py\n").readText inDirectory =
      .ok "# note\n!x.py\n".toList := by
    decide +kernel
  have after : (ignoredAtRoot "*\n").readText inDirectory = .ok "*\n".toList := by
    decide +kernel
  -- The lines of both texts are comments or are rewritten to the directory.
  have built := ofProject_eq_rulesOf (below_ignoredAtRoot "# note\n!x.py\n") (by decide +kernel)
  have alsoBuilt := ofProject_eq_rulesOf (below_ignoredAtRoot "*\n") (by decide +kernel)
  refine ⟨changed, _, _, built, alsoBuilt, by decide +kernel, by decide +kernel,
    by decide +kernel, ?_⟩
  rw [← changed] at after alsoBuilt
  refine ignores_outside_nested (by decide +kernel) (by simp) isPlain_of_inDirectory rfl rfl ?_ ?_
    built alsoBuilt (by decide +kernel)
  · intro text read
    obtain rfl := Except.ok.inj (before.symm.trans read)
    decide +kernel
  · intro text read
    obtain rfl := Except.ok.inj (after.symm.trans read)
    decide +kernel

/-- An escaped mark keeps a line as it is, so that it names files beside the directory.
White space in a directory right below the root makes a pattern of the name of that directory, for any depth. -/
theorem escaped_mark_reaches_outside :
    (∃ rules others,
      Rules.ofProject (onlyBelow "") ⟨.root, []⟩ = .ok rules ∧
      Rules.ofProject ((onlyBelow "").put inDirectory.parts
        (.file (Utf8.encode "\\#x.py\n".toList))) ⟨.root, []⟩ = .ok others ∧
      rules.ignores "#x.py" = false ∧ others.ignores "#x.py" = true) ∧
    ∃ rules others,
      Rules.ofProject (onlyBelow "") ⟨.root, []⟩ = .ok rules ∧
      Rules.ofProject ((onlyBelow "").put inDirectory.parts
        (.file (Utf8.encode "  \n".toList))) ⟨.root, []⟩ = .ok others ∧
      rules.ignores "c/b/x.py" = false ∧ others.ignores "c/b/x.py" = true := by
  -- Both projects are read, with the lines of the one ignore file.
  refine ⟨⟨rulesOf (onlyBelow "") [inDirectory], rulesOf (onlyBelow "\\#x.py\n") [inDirectory], ?_⟩,
    rulesOf (onlyBelow "") [inDirectory], rulesOf (onlyBelow "  \n") [inDirectory], ?_⟩
  all_goals decide +kernel

end PermissionNames.Ignore
