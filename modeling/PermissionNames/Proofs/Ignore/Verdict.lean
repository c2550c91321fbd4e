import PermissionNames.Proofs.Ignore.Mark

/-! What the rules of a project decide, from what each line of its ignore files says of a path. -/

namespace PermissionNames.Ignore

variable {tree : FileTree} {root : Path} {lines : List String} {path : List Char}

/-- What marks decide: the last one of a path itself, or else the last one of a directory. -/
def judge (marks : List Mark) : Bool :=
  match (marks.filter (!·.asDirectory)).getLast? with
  | some mark => mark.ignores
  | none =>
    match marks.getLast? with
    | some mark => mark.ignores
    | none => false

/-- What lines say of a path together, in their order. -/
def allMarks (lines : List String) (path : List Char) : List Mark :=
  lines.flatMap fun line => (lineMarks line path).getD []

/-- Lines that can be read all say together what their patterns say. -/
theorem marks_of_readPatterns {patterns : List Pattern} (read : readPatterns lines = .ok patterns)
    (path : List Char) : patterns.flatMap (·.marks path) = allMarks lines path := by
  induction lines generalizing patterns with
  | nil =>
    cases read
    rfl
  | cons line rest ih =>
    -- The first line gives a pattern or none, and the others follow.
    rw [readPatterns] at read
    cases own : Pattern.read line with
    | error cause =>
      rw [own] at read
      cases read
    | ok pattern =>
      cases later : readPatterns rest with
      | error cause =>
        rw [own, later] at read
        cases read
      | ok others =>
        rw [own, later] at read
        cases read
        rw [List.flatMap_append, ih later, allMarks, allMarks, List.flatMap_cons, lineMarks, own]
        rfl

/-- Lines can be read together if each of them says anything at all. -/
theorem exists_readPatterns_iff (path : List Char) :
    (∃ patterns, readPatterns lines = .ok patterns) ↔
      ∀ line ∈ lines, (lineMarks line path).isSome := by
  -- The lines are read one by one, and each of them has to be read.
  induction lines with
  | nil => exact ⟨fun _ line member => absurd member List.not_mem_nil, fun _ => ⟨[], rfl⟩⟩
  | cons line rest ih =>
    rw [List.forall_mem_cons, ← ih, readPatterns, lineMarks]
    cases Pattern.read line with
    | error cause => simp
    | ok pattern => cases readPatterns rest <;> simp [Except.map]

/-- A verdict is what the marks of all patterns decide. -/
theorem verdict_eq (rules : Rules) (path : List Char) :
    rules.verdict path = judge (rules.patterns.flatMap (·.marks path)) := by
  have marks : rules.patterns.flatMap (·.marks path) =
      (rules.found path).map fun (pattern, asDirectory) => ⟨pattern.ignores, asDirectory⟩ := by
    unfold Rules.found Pattern.marks
    rw [List.map_filterMap, List.filterMap_eq_flatMap_toList]
    simp only [Option.map_map]
    rfl
  -- Both look for the last match of the path itself before the last match of all.
  rw [marks, judge, Rules.verdict, List.filter_map, List.getLast?_map, List.getLast?_map]
  generalize rules.found path = found
  have same : ((fun mark : Mark => !mark.asDirectory) ∘ fun (pattern, asDirectory) =>
      (⟨Pattern.ignores pattern, asDirectory⟩ : Mark)) = fun match_ : Pattern × Bool => !match_.2 :=
    rfl
  rw [same]
  cases (found.filter (!·.2)).getLast? with
  | some strongest => rfl
  | none => cases found.getLast? <;> rfl

/-- A project has rules if its ignore files can be read and all their lines are patterns. -/
theorem ofProject_eq_ok_iff {rules : Rules} :
    Rules.ofProject tree root = .ok rules ↔
      ∃ lines, allLines tree root (tree.below root (· == fileName)) = .ok lines ∧
        readPatterns lines = .ok rules.patterns := by
  -- All lines are collected first, and then read as patterns.
  unfold Rules.ofProject
  cases allLines tree root (tree.below root (· == fileName)) with
  | error fault => simp
  | ok lines =>
    obtain ⟨patterns⟩ := rules
    cases read : readPatterns lines <;> simp [read]

/-- The rules of a project decide by what the lines of its ignore files say. -/
theorem verdict_of_ofProject {rules : Rules}
    (read : allLines tree root (tree.below root (· == fileName)) = .ok lines)
    (built : Rules.ofProject tree root = .ok rules) (path : List Char) :
    rules.verdict path = judge (allMarks lines path) := by
  -- The lines that were read are the ones that are given, as reading gives them once.
  obtain ⟨others, readToo, patterns⟩ := ofProject_eq_ok_iff.mp built
  obtain rfl : lines = others := Except.ok.inj (read.symm.trans readToo)
  rw [verdict_eq, marks_of_readPatterns patterns]

/-- A relative path as patterns see it: without slashes around it, and without a period for the directory it starts from. -/
def shortened (path : String) : List Char :=
  match Rules.trimSlashes path.toList with
  | '.' :: '/' :: rest => rest
  | rest => rest

/-- A path is ignored if something is left of it and the verdict on that says so. -/
theorem ignores_eq (rules : Rules) (path : String) :
    rules.ignores path =
      (Rules.trimSlashes path.toList != [] && rules.verdict (shortened path)) := by
  unfold Rules.ignores shortened
  -- A path of slashes alone is never ignored, whatever the verdict on nothing.
  by_cases empty : Rules.trimSlashes path.toList = []
  · simp [empty]
  · rw [if_neg empty, bne_iff_ne.mpr empty, Bool.true_and]
    by_cases start : ∃ rest, Rules.trimSlashes path.toList = '.' :: '/' :: rest
    · obtain ⟨rest, spelling⟩ := start
      simp only [spelling]
    · have other : ∀ rest, Rules.trimSlashes path.toList = '.' :: '/' :: rest → False :=
        fun rest spelling => start ⟨rest, spelling⟩
      -- Both matches fall through to their second case.
      simp only

/-- Rules of the same verdict on what patterns see of a path agree on the path. -/
theorem ignores_congr {rules others : Rules} {path : String}
    (same : others.verdict (shortened path) = rules.verdict (shortened path)) :
    others.ignores path = rules.ignores path := by
  rw [ignores_eq, ignores_eq, same]

/-- The lines of an ignore file in a directory below the root, as the root sees them. -/
def linesBelow (base : List String) (text : List Char) : List String :=
  (splitLines (String.ofList text)).map fun line =>
    String.ofList (rebase (directoryText base) line.toList)

/-- The lines of an ignore file below the root are those of its text, rewritten to the root. -/
theorem rootLines_eq_ok_iff {base : List String} :
    rootLines tree root ⟨root.anchor, root.parts ++ base ++ [fileName]⟩ = .ok lines ↔
      ∃ text, tree.readText ⟨root.anchor, root.parts ++ base ++ [fileName]⟩ = .ok text ∧
        lines = linesBelow base text := by
  have above : (Path.parent ⟨root.anchor, root.parts ++ base ++ [fileName]⟩).parts.drop
      root.parts.length = base := by
    simp [Path.parent]
  have directory : ("/".intercalate base).toList = directoryText base := by
    rw [String.toList_intercalate]
    rfl
  -- Each line is rewritten to the directory that is left of the path below the root.
  have each : (fun text => (splitLines (String.ofList text)).map
      (rebaseIgnoreLine ("/".intercalate base))) = linesBelow base := by
    funext text
    rw [linesBelow, ← directory]
    rfl
  rw [rootLines, above]
  show Except.map (fun text => _) _ = _ ↔ _
  rw [each]
  cases tree.readText ⟨root.anchor, root.parts ++ base ++ [fileName]⟩ with
  | error fault => simp [Except.map]
  | ok text => simp [Except.map, eq_comm]

/-- The lines of several files are those of the first and those of the others. -/
theorem allLines_cons_eq_ok_iff {file : Path} {rest : List Path} :
    allLines tree root (file :: rest) = .ok lines ↔
      ∃ own later, rootLines tree root file = .ok own ∧ allLines tree root rest = .ok later ∧
        lines = own ++ later := by
  -- The first file has to be read, and then the others.
  rw [allLines]
  cases rootLines tree root file with
  | error fault => simp
  | ok own =>
    cases allLines tree root rest with
    | error fault => simp [Except.map]
    | ok later => simp [Except.map, eq_comm]

/-- The lines of several files are those of some of them in front and those of the others behind. -/
theorem allLines_append_eq_ok_iff {first second : List Path} :
    allLines tree root (first ++ second) = .ok lines ↔
      ∃ front behind, allLines tree root first = .ok front ∧
        allLines tree root second = .ok behind ∧ lines = front ++ behind := by
  -- The induction moves the files in front over one by one.
  induction first generalizing lines with
  | nil => simp [allLines]
  | cons file rest ih =>
    simp only [List.cons_append, allLines_cons_eq_ok_iff, ih]
    constructor
    · rintro ⟨own, _, read, ⟨later, behind, readRest, readBehind, rfl⟩, rfl⟩
      exact ⟨own ++ later, behind, ⟨own, later, read, readRest, rfl⟩, readBehind, by simp⟩
    · rintro ⟨_, behind, ⟨own, later, read, readRest, rfl⟩, readBehind, rfl⟩
      exact ⟨own, later ++ behind, read, ⟨later, behind, readRest, readBehind, rfl⟩, by simp⟩

/-- What lines say together is what those in front say and then what those behind say. -/
theorem allMarks_append (first second : List String) (path : List Char) :
    allMarks (first ++ second) path = allMarks first path ++ allMarks second path :=
  List.flatMap_append

/-- Ignore files say together the same of a path in two trees if each of them does. -/
theorem allMarks_congr {other : FileTree} {files : List Path} {others : List String}
    (same : ∀ file ∈ files, ∀ own alsoOwn, rootLines tree root file = .ok own →
      rootLines other root file = .ok alsoOwn → allMarks alsoOwn path = allMarks own path)
    (read : allLines tree root files = .ok lines)
    (alsoRead : allLines other root files = .ok others) :
    allMarks others path = allMarks lines path := by
  induction files generalizing lines others with
  | nil =>
    cases read
    cases alsoRead
    rfl
  | cons file rest ih =>
    obtain ⟨own, later, ownRead, laterRead, rfl⟩ := allLines_cons_eq_ok_iff.mp read
    obtain ⟨alsoOwn, alsoLater, alsoOwnRead, alsoLaterRead, rfl⟩ :=
      allLines_cons_eq_ok_iff.mp alsoRead
    -- What the first file says is the same, and so is what the others say.
    have here := same file List.mem_cons_self own alsoOwn ownRead alsoOwnRead
    have behind := ih (fun next member => same next (List.mem_cons_of_mem file member)) laterRead
      alsoLaterRead
    rw [allMarks_append, allMarks_append, here, behind]

/-- The rules that some ignore files of a whole tree make together. -/
def rulesFrom (tree : FileTree) (files : List Path) : Except RulesError Rules :=
  match allLines tree ⟨.root, []⟩ files with
  | .error fault => .error (.unreadable fault)
  | .ok lines =>
    match readPatterns lines with
    | .error cause => .error (.pattern cause)
    | .ok patterns => .ok ⟨patterns⟩

/-- The rules that some ignore files of a whole tree make together; none if they cannot be had. -/
def rulesOf (tree : FileTree) (files : List Path) : Rules :=
  match rulesFrom tree files with
  | .ok rules => rules
  | .error _ => ⟨[]⟩

/-- A whole tree has the rules that its ignore files make together. -/
theorem ofProject_eq_rulesOf {files : List Path}
    (listed : tree.below ⟨.root, []⟩ (· == fileName) = files)
    (built : rulesFrom tree files = .ok (rulesOf tree files)) :
    Rules.ofProject tree ⟨.root, []⟩ = .ok (rulesOf tree files) := by
  -- The files that are found are those that are listed.
  rw [Rules.ofProject, listed]
  exact built

/-- The ignore file of the root. -/
def inRoot : Path := ⟨.root, [fileName]⟩

/-- The ignore file of a directory right below the root. -/
def inDirectory : Path := ⟨.root, ["b", fileName]⟩

/-- The directory of that file stands for itself in every pattern. -/
theorem isPlain_of_inDirectory : ∀ part ∈ ["b"], IsPlain part := by
  -- There is one directory, whose name is a letter.
  intro part member
  rw [List.mem_singleton.mp member]
  exact .of_isAlphanum (by decide) (by simp)

/-- A tree with an ignore file in a directory below its root, and no other file. -/
def onlyBelow (text : String) : FileTree :=
  ⟨[(["b"], .directory), (inDirectory.parts, .file (Utf8.encode text.toList))]⟩

/-- A name that is ignored at the root, and a text for the ignore file of a directory. -/
def ignoredAtRoot (text : String) : FileTree where
  entries := [(inRoot.parts, .file (Utf8.encode "x.py\n".toList)), (["b"], .directory),
    (inDirectory.parts, .file (Utf8.encode text.toList))]

/-- Both ignore files of such a tree are found, that of the root first. -/
theorem below_ignoredAtRoot (text : String) :
    (ignoredAtRoot text).below ⟨.root, []⟩ (· == fileName) = [inRoot, inDirectory] := by
  -- The files are listed in the order of their paths already.
  have sorted : Path.sort [inRoot, inDirectory] = [inRoot, inDirectory] :=
    List.mergeSort_of_pairwise (by decide)
  exact sorted

end PermissionNames.Ignore
