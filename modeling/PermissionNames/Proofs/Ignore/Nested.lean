import PermissionNames.Proofs.Ignore.Kept
import PermissionNames.Proofs.Ignore.Verdict

/-! An ignore file below the root decides there as a root file of its pinned lines does: names without a slash reach no further than its own directory. -/

namespace PermissionNames.Ignore

variable {base : List String} {line : List Char} {tree other : FileTree} {root otherRoot : Path}
  {text rootText : List Char}

/-- A path relative to a directory: something, without slashes around it and without a period to start from. -/
structure IsRelative (path : List Char) : Prop where
  full : path ≠ []
  start : path.head? ≠ some '/'
  ends : path.getLast? ≠ some '/'
  noPeriod : ¬ ['.', '/'] <+: path

/-- Whether a line says below every plain directory what it says at the root once it is pinned. -/
def carries (line : List Char) : Bool :=
  if line = [] || line.head? == some '#' then true
  else if isKept line then floats (strip line)
  else strip (innerOf line) != [] && !(standForAll (innerSegments line) && asksDirectory line)

/-- Whether a line has a pattern for all paths. -/
def standsForAll (line : List Char) : Bool :=
  !isKept line && strip (innerOf line) != [] && standForAll (innerSegments line)

/-- Below a plain directory a rewritten line says what it says at the root once it is pinned. -/
theorem lineMarks_below (full : base ≠ []) (plain : ∀ part ∈ base, IsPlain part)
    (carried : carries line = true) {path : List Char} (relative : IsRelative path)
    (oneLine : standsForAll line = true → '\n' ∉ path) :
    lineMarks (String.ofList (rebase (directoryText base) line))
        (directoryText base ++ '/' :: path) =
      lineMarks (String.ofList (pinned line)) path := by
  obtain ⟨c, rest, rfl⟩ := List.exists_cons_of_ne_nil relative.full
  have other : c ≠ '/' := by simpa using relative.start
  by_cases empty : line = []
  · subst empty
    have same : pinned [] = [] := by simp [pinned]
    rw [rebase_nil, same, lineMarks_nil, lineMarks_nil]
  · -- A kept line is the same below and at the root, and any other one is moved or pinned.
    by_cases kept : isKept line = true
    · have same : pinned line = line := by simp [pinned, kept]
      rw [rebase_of_isKept kept, same]
      by_cases comment : line.head? = some '#'
      · rw [lineMarks_comment comment, lineMarks_comment comment]
      · have loose : floats (strip line) = true := by
          simpa [carries, empty, comment, kept] using carried
        exact lineMarks_below_of_isKept full plain kept loose other rest
    · rw [Bool.not_eq_true] at kept
      have comment := head?_of_moved kept
      simp only [carries, empty, comment, kept, decide_false, Bool.false_or, beq_iff_eq,
        Bool.false_eq_true, if_false, Bool.and_eq_true, bne_iff_ne, Bool.not_eq_true',
        Bool.and_eq_false_iff] at carried
      obtain ⟨someInner, notAll⟩ := carried
      have innerFull : innerOf line ≠ [] := fun none => someInner (by rw [none]; rfl)
      rw [lineMarks_rebase full plain kept innerFull (.inl someInner),
        lineMarks_pinned kept someInner]
      -- Only patterns for all paths are not matched from a slash on.
      cases all : standForAll (innerSegments line) with
      | true =>
        have asked : asksDirectory line = false := notAll.resolve_left (by simp [all])
        have clean := oneLine (by simp [standsForAll, kept, someInner, all])
        rw [asked]
        exact shapeMarks_below_of_all full plain all other clean relative.ends _
      | false => exact shapeMarks_below full plain (Path.splitAt_ne_nil _ _) all other rest _ _

/-- A tree with a single ignore file, in a directory below the root or in the root itself. -/
structure HasOnlyIgnoreFile (tree : FileTree) (root : Path) (base : List String)
    (text : List Char) : Prop where
  listed : tree.below root (· == fileName) = [⟨root.anchor, root.parts ++ base ++ [fileName]⟩]
  read : tree.readText ⟨root.anchor, root.parts ++ base ++ [fileName]⟩ = .ok text

/-- The lines of a single ignore file are all lines that are read. -/
theorem HasOnlyIgnoreFile.allLines_eq (single : HasOnlyIgnoreFile tree root base text) :
    allLines tree root (tree.below root (· == fileName)) = .ok (linesBelow base text) := by
  -- The list of ignore files has this one element.
  rw [single.listed]
  exact allLines_cons_eq_ok_iff.mpr
    ⟨_, [], rootLines_eq_ok_iff.mpr ⟨text, single.read, rfl⟩, rfl, (List.append_nil _).symm⟩

/-- A project with a single ignore file has rules if all the lines of that file are patterns. -/
theorem HasOnlyIgnoreFile.exists_rules_iff (single : HasOnlyIgnoreFile tree root base text)
    (path : List Char) :
    (∃ rules, Rules.ofProject tree root = .ok rules) ↔
      ∀ line ∈ linesBelow base text, (lineMarks line path).isSome := by
  -- The lines can be read as the file can, so only their patterns may fail.
  rw [← exists_readPatterns_iff]
  constructor
  · rintro ⟨rules, built⟩
    obtain ⟨lines, read, patterns⟩ := ofProject_eq_ok_iff.mp built
    obtain rfl := Except.ok.inj (single.allLines_eq.symm.trans read)
    exact ⟨rules.patterns, patterns⟩
  · rintro ⟨patterns, read⟩
    exact ⟨⟨patterns⟩, ofProject_eq_ok_iff.mpr ⟨_, single.allLines_eq, read⟩⟩

/-- Text without slashes around it stays as it is. -/
theorem trimSlashes_eq_self {path : List Char} (start : path.head? ≠ some '/')
    (ends : path.getLast? ≠ some '/') : Rules.trimSlashes path = path := by
  -- Nothing is dropped from either end.
  have same : ∀ text : List Char, text.head? ≠ some '/' → text.dropWhile (· == '/') = text := by
    intro text start
    cases text with
    | nil => rfl
    | cons c rest =>
      have other : c ≠ '/' := by simpa using start
      simp [other]
  rw [Rules.trimSlashes, same path start, same path.reverse (by simpa using ends),
    List.reverse_reverse]

/-- The verdict on a relative path is the one on its text. -/
theorem ignores_of_isRelative {path : String} (relative : IsRelative path.toList) (rules : Rules) :
    rules.ignores path = rules.verdict path.toList := by
  -- Neither a leading period nor a slash is cut from the path.
  have trimmed := trimSlashes_eq_self relative.start relative.ends
  have seen : shortened path = path.toList := by
    rw [shortened, trimmed]
    split
    · rename_i rest spelling
      exact absurd ⟨rest, spelling.symm⟩ relative.noPeriod
    · rfl
  rw [ignores_eq, seen, trimmed, bne_iff_ne.mpr relative.full, Bool.true_and]

/-- A relative path below a plain directory is a relative path. -/
theorem IsRelative.below {path : List Char} (relative : IsRelative path) (full : base ≠ [])
    (plain : ∀ part ∈ base, IsPlain part) : IsRelative (directoryText base ++ '/' :: path) := by
  -- How the longer text begins is decided by its first component, and how it ends by the path.
  obtain ⟨c, rest, rfl⟩ := List.exists_cons_of_ne_nil relative.full
  obtain ⟨part, others, rfl⟩ := List.exists_cons_of_ne_nil full
  have here := plain part List.mem_cons_self
  obtain ⟨d, letters, spelling⟩ := List.exists_cons_of_ne_nil here.toList_ne.2.2
  have noSlash : ∀ e ∈ d :: letters, e ≠ '/' := by
    rintro e member rfl
    exact here.unmarked '/' (spelling ▸ member) (by decide)
  obtain ⟨behind, split⟩ : ∃ behind, directoryText (part :: others) ++ '/' :: c :: rest =
      part.toList ++ '/' :: behind := by
    cases others with
    | nil => exact ⟨c :: rest, by simp [directoryText]⟩
    | cons next others =>
      exact ⟨directoryText (next :: others) ++ '/' :: c :: rest,
        by simp [directoryText, List.intercalate_cons_cons]⟩
  refine ⟨by simp, ?_, ?_, ?_⟩
  · rw [split, spelling]
    simpa using noSlash d List.mem_cons_self
  · rw [List.getLast?_append_of_ne_nil _ (by simp)]
    simpa using relative.ends
  · -- The first component is not a period, and it holds no slash.
    rw [split, spelling]
    rintro ⟨after, same⟩
    cases letters with
    | nil =>
      obtain rfl : '.' = d := by simpa using (List.cons.inj same).1
      exact here.notPeriod (String.toList_inj.mp spelling)
    | cons e letters =>
      have slash : '/' = e := (List.cons.inj (List.cons.inj same).2).1
      exact noSlash e (by simp) slash.symm

/-- A line with a slash in front of its pattern, if that would apply at any depth without one. -/
def pinnedLine (line : String) : String :=
  String.ofList (pinned line.toList)

/-- A single ignore file below the root has rules where the root file of its pinned lines has some, and they decide below its directory as those do below the root.
Pinning changes nothing where every pattern has a slash at its start or within. -/
theorem ignores_below_nested (full : base ≠ []) (plain : ∀ part ∈ base, IsPlain part)
    (nested : HasOnlyIgnoreFile tree root base text)
    (atRoot : HasOnlyIgnoreFile other otherRoot [] rootText)
    (pinning : splitLines (String.ofList rootText) =
      (splitLines (String.ofList text)).map pinnedLine)
    (carried : ∀ line ∈ splitLines (String.ofList text), carries line.toList = true) :
    ((∃ rules, Rules.ofProject tree root = .ok rules) ↔
      ∃ others, Rules.ofProject other otherRoot = .ok others) ∧
    (∀ rules others, Rules.ofProject tree root = .ok rules →
      Rules.ofProject other otherRoot = .ok others →
      ∀ path : String, IsRelative path.toList →
        (∀ line ∈ splitLines (String.ofList text), standsForAll line.toList = true →
          '\n' ∉ path.toList) →
        rules.ignores ("/".intercalate base ++ "/" ++ path) = others.ignores path) ∧
    ((∀ line ∈ splitLines (String.ofList text),
        isAnchored line.toList = true ∨ floats (strip (innerOf line.toList)) = false) →
      splitLines (String.ofList rootText) = splitLines (String.ofList text)) := by
  have rootLines_eq :
      linesBelow [] rootText = (splitLines (String.ofList text)).map pinnedLine := by
    rw [← pinning, linesBelow]
    simp [directoryText, rebase]
  -- Line by line the same is said below the directory and at the root.
  have each : ∀ line ∈ splitLines (String.ofList text), ∀ path, IsRelative path →
      (standsForAll line.toList = true → '\n' ∉ path) →
      lineMarks (String.ofList (rebase (directoryText base) line.toList))
        (directoryText base ++ '/' :: path) = lineMarks (pinnedLine line) path :=
    fun line member path relative => lineMarks_below full plain (carried line member) relative
  refine ⟨?_, ?_, ?_⟩
  · -- Whether a line can be read does not depend on the path.
    have relative : IsRelative ['x'] := ⟨by simp, by simp, by simp, by simp⟩
    rw [nested.exists_rules_iff (directoryText base ++ ['/', 'x']), atRoot.exists_rules_iff ['x'],
      rootLines_eq, linesBelow, List.forall_mem_map, List.forall_mem_map]
    refine forall₂_congr fun line member => ?_
    rw [each line member ['x'] relative fun _ => by simp]
  · intro rules others built alsoBuilt path relative oneLine
    have spelling : ("/".intercalate base ++ "/" ++ path).toList =
        directoryText base ++ '/' :: path.toList := by
      simp [String.toList_append, String.toList_intercalate, directoryText]
    have below : IsRelative ("/".intercalate base ++ "/" ++ path).toList := by
      rw [spelling]
      exact relative.below full plain
    have marks : allMarks (linesBelow base text) (directoryText base ++ '/' :: path.toList) =
        allMarks (linesBelow [] rootText) path.toList := by
      rw [rootLines_eq, linesBelow, allMarks, allMarks, List.flatMap_map, List.flatMap_map]
      refine List.flatMap_congr fun line member => ?_
      rw [each line member path.toList relative (oneLine line member)]
    rw [ignores_of_isRelative below, ignores_of_isRelative relative, spelling,
      verdict_of_ofProject nested.allLines_eq built,
      verdict_of_ofProject atRoot.allLines_eq alsoBuilt, marks]
  · intro fixed
    have same : ∀ line ∈ splitLines (String.ofList text), pinnedLine line = line := by
      intro line member
      rw [pinnedLine, pinned_eq_self (fixed line member), String.ofList_toList]
    rw [pinning, List.map_congr_left same, List.map_id']

/-- A tree with an ignore file in its root, and no other file. -/
def onlyAtRoot (text : String) : FileTree :=
  ⟨[(inRoot.parts, .file (Utf8.encode text.toList))]⟩

/-- Names, a kept path, a comment and a pattern for any depth. -/
def someLines : String :=
  "*.py\n!/keep/x.py\n# note\n**/old/\n"

/-- The same lines with the names pinned. -/
def someLinesPinned : String :=
  "/*.py\n!/keep/x.py\n# note\n**/old/\n"

/-- What is kept, ignored, and ignored as a part of a directory at the root is so below a directory. -/
theorem ignores_below_nested_someLines :
    HasOnlyIgnoreFile (onlyBelow someLines) ⟨.root, []⟩ ["b"] someLines.toList ∧
      HasOnlyIgnoreFile (onlyAtRoot someLinesPinned) ⟨.root, []⟩ [] someLinesPinned.toList ∧
      ∃ rules, Rules.ofProject (onlyBelow someLines) ⟨.root, []⟩ = .ok rules ∧
        rules.ignores "b/keep/x.py" = false ∧ rules.ignores "b/x.py" = true ∧
        rules.ignores "b/sub/old/x" = true := by
  have nested : HasOnlyIgnoreFile (onlyBelow someLines) ⟨.root, []⟩ ["b"] someLines.toList :=
    ⟨by decide +kernel, by decide +kernel⟩
  have atRoot : HasOnlyIgnoreFile (onlyAtRoot someLinesPinned) ⟨.root, []⟩ []
      someLinesPinned.toList :=
    ⟨by decide +kernel, by decide +kernel⟩
  -- Each tree lists one ignore file, whose rules can be computed.
  have built : Rules.ofProject (onlyBelow someLines) ⟨.root, []⟩ =
      .ok (rulesOf (onlyBelow someLines) [inDirectory]) :=
    ofProject_eq_rulesOf nested.listed (by decide +kernel)
  have alsoBuilt : Rules.ofProject (onlyAtRoot someLinesPinned) ⟨.root, []⟩ =
      .ok (rulesOf (onlyAtRoot someLinesPinned) [inRoot]) :=
    ofProject_eq_rulesOf atRoot.listed (by decide +kernel)
  obtain ⟨-, same, -⟩ := ignores_below_nested (by simp) isPlain_of_inDirectory nested
    atRoot (by decide +kernel) (by decide +kernel)
  have same := fun path relative => same _ _ built alsoBuilt path relative
  refine ⟨nested, atRoot, _, built, ?_, ?_, ?_⟩
  · refine (same "keep/x.py" ⟨?_, ?_, ?_, ?_⟩ ?_).trans ?_
    all_goals decide +kernel
  · refine (same "x.py" ⟨?_, ?_, ?_, ?_⟩ ?_).trans ?_
    all_goals decide +kernel
  · refine (same "sub/old/x" ⟨?_, ?_, ?_, ?_⟩ ?_).trans ?_
    all_goals decide +kernel

/-- At the root a mere name is looked for at every depth and a line of white space says nothing.
In a directory the name is looked for right there alone, and the white space ignores the whole directory. -/
theorem nested_name_not_at_depth :
    (∃ rules others,
      HasOnlyIgnoreFile (onlyBelow "x.py\n") ⟨.root, []⟩ ["b"] "x.py\n".toList ∧
      HasOnlyIgnoreFile (onlyAtRoot "x.py\n") ⟨.root, []⟩ [] "x.py\n".toList ∧
      Rules.ofProject (onlyBelow "x.py\n") ⟨.root, []⟩ = .ok rules ∧
      Rules.ofProject (onlyAtRoot "x.py\n") ⟨.root, []⟩ = .ok others ∧
      rules.ignores "b/sub/x.py" = false ∧ others.ignores "sub/x.py" = true) ∧
    ∃ rules others,
      HasOnlyIgnoreFile (onlyBelow "  \n") ⟨.root, []⟩ ["b"] "  \n".toList ∧
      HasOnlyIgnoreFile (onlyAtRoot "  \n") ⟨.root, []⟩ [] "  \n".toList ∧
      Rules.ofProject (onlyBelow "  \n") ⟨.root, []⟩ = .ok rules ∧
      Rules.ofProject (onlyAtRoot "  \n") ⟨.root, []⟩ = .ok others ∧
      rules.ignores "b/x.py" = true ∧ others.ignores "x.py" = false := by
  -- Each of the trees has its one ignore file, whose lines make up the rules.
  refine ⟨⟨rulesOf (onlyBelow "x.py\n") [inDirectory], rulesOf (onlyAtRoot "x.py\n") [inRoot],
    ⟨?_, ?_⟩, ⟨?_, ?_⟩, ?_⟩, rulesOf (onlyBelow "  \n") [inDirectory],
    rulesOf (onlyAtRoot "  \n") [inRoot], ⟨?_, ?_⟩, ⟨?_, ?_⟩, ?_⟩
  all_goals decide +kernel

end PermissionNames.Ignore
