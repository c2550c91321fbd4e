import PermissionNames.Proofs.FileTree
import PermissionNames.Proofs.Ignore.Verdict
import PermissionNames.Proofs.Path.Order

/-! Which of two ignore files prevails: the deeper one, unless its directory comes before the name of ignore files. -/

namespace PermissionNames.Ignore

variable {tree : FileTree} {root : Path} {rules : Rules} {above rest : List String} {name : String}

/-- Marks overrule others before them with one of the path itself, or with any if the others are all of directories. -/
def Overrules (strong weak : List Mark) : Prop :=
  (∃ mark ∈ strong, mark.asDirectory = false) ∨
    strong ≠ [] ∧ ∀ mark ∈ weak, mark.asDirectory = true

/-- Marks that are overruled decide nothing. -/
theorem judge_eq_of_overrules {before weak between strong after : List Mark}
    (overruled : Overrules strong weak) :
    judge (before ++ weak ++ between ++ strong ++ after) =
      judge (before ++ between ++ strong ++ after) := by
  have someStrong : strong ≠ [] := by
    rcases overruled with ⟨mark, member, -⟩ | ⟨some, -⟩
    · exact List.ne_nil_of_mem member
    · exact some
  -- The last of all marks is at or behind the strong ones.
  have last : ∀ front : List Mark,
      (front ++ strong ++ after).getLast? = (strong ++ after).getLast? := by
    intro front
    rw [List.append_assoc, List.getLast?_append_of_ne_nil _ (by simp [someStrong])]
  -- So is the last one of the path itself, if there is a strong one; else no weak one is such.
  have lastOwn : ((before ++ weak ++ between ++ strong ++ after).filter (!·.asDirectory)).getLast? =
      ((before ++ between ++ strong ++ after).filter (!·.asDirectory)).getLast? := by
    simp only [List.filter_append]
    rcases overruled with ⟨mark, member, own⟩ | ⟨-, directories⟩
    · have someOwn : strong.filter (!·.asDirectory) ≠ [] :=
        List.ne_nil_of_mem (List.mem_filter.mpr ⟨member, by simp [own]⟩)
      have behind : ∀ front : List Mark,
          (front ++ strong.filter (!·.asDirectory) ++ after.filter (!·.asDirectory)).getLast? =
            (strong.filter (!·.asDirectory) ++ after.filter (!·.asDirectory)).getLast? := by
        intro front
        rw [List.append_assoc, List.getLast?_append_of_ne_nil _ (by simp [someOwn])]
      rw [behind, behind]
    · have noOwn : weak.filter (!·.asDirectory) = [] :=
        List.filter_eq_nil_iff.mpr fun mark member => by simp [directories mark member]
      rw [noOwn, List.append_nil]
  rw [judge, judge, lastOwn, last, last]

/-- One ignore file prevails over another: its lines stand behind those of the other, which decide nothing where it overrules them. -/
def Prevails (tree : FileTree) (root : Path) (strong weak : Path) (rules : Rules) : Prop :=
  ∃ before weakLines between strongLines after,
    rootLines tree root weak = .ok weakLines ∧ rootLines tree root strong = .ok strongLines ∧
    allLines tree root (tree.below root (· == fileName)) =
      .ok (before ++ weakLines ++ between ++ strongLines ++ after) ∧
    ∀ path, Overrules (allMarks strongLines path) (allMarks weakLines path) →
      rules.verdict path = judge (allMarks (before ++ between ++ strongLines ++ after) path)

/-- Of two ignore files the one whose path comes later prevails. -/
theorem prevails_of_lt {strong weak : Path}
    (strongListed : strong ∈ tree.below root (· == fileName))
    (weakListed : weak ∈ tree.below root (· == fileName)) (later : weak.sortKey < strong.sortKey)
    (built : Rules.ofProject tree root = .ok rules) : Prevails tree root strong weak rules := by
  obtain ⟨lines, read, patterns⟩ := ofProject_eq_ok_iff.mp built
  obtain ⟨before, between, after, split⟩ := Path.exists_split_of_lt weakListed strongListed later
  have listed : tree.below root (· == fileName) = before ++ weak :: (between ++ strong :: after) :=
    split
  have verdict := verdict_of_ofProject read built
  have parts := read
  rw [listed] at parts
  -- The lines are those of the files in their order.
  obtain ⟨front, _, -, fromWeak, rfl⟩ := allLines_append_eq_ok_iff.mp parts
  obtain ⟨weakLines, _, weakRead, behindWeak, rfl⟩ := allLines_cons_eq_ok_iff.mp fromWeak
  obtain ⟨middle, _, -, fromStrong, rfl⟩ := allLines_append_eq_ok_iff.mp behindWeak
  obtain ⟨strongLines, last, strongRead, -, rfl⟩ := allLines_cons_eq_ok_iff.mp fromStrong
  have grouped : front ++ (weakLines ++ (middle ++ (strongLines ++ last))) =
      front ++ weakLines ++ middle ++ strongLines ++ last := by
    simp only [List.append_assoc]
  rw [grouped] at read verdict
  refine ⟨front, weakLines, middle, strongLines, last, weakRead, strongRead, read, ?_⟩
  intro path overruled
  rw [verdict path]
  simp only [allMarks_append]
  exact judge_eq_of_overrules overruled

/-- No directory has the name of an ignore file that stands beside it and can be read. -/
theorem name_ne_of_built (shallow : Path.mk root.anchor (above ++ [fileName]) ∈
      tree.below root (· == fileName))
    (deep : Path.mk root.anchor (above ++ name :: (rest ++ [fileName])) ∈
      tree.below root (· == fileName))
    (built : Rules.ofProject tree root = .ok rules) : name ≠ fileName := by
  rintro rfl
  obtain ⟨lines, read, -⟩ := ofProject_eq_ok_iff.mp built
  -- Each of the files is read, so both are files.
  have isFile : ∀ file ∈ tree.below root (· == fileName), ∃ bytes, tree.HasFile file bytes := by
    intro file member
    obtain ⟨front, behind, split⟩ := List.append_of_mem member
    rw [split] at read
    obtain ⟨_, _, -, later, -⟩ := allLines_append_eq_ok_iff.mp read
    obtain ⟨own, _, ownRead, -, -⟩ := allLines_cons_eq_ok_iff.mp later
    rw [rootLines] at ownRead
    cases text : tree.readText file with
    | error fault =>
      rw [text] at ownRead
      cases ownRead
    | ok text =>
      obtain ⟨bytes, -, file, -⟩ := FileTree.readText_eq_ok_iff.mp text
      exact ⟨bytes, file⟩
  obtain ⟨bytes, file⟩ := isFile _ shallow
  obtain ⟨deepBytes, deepFile⟩ := isFile _ deep
  -- But the shallow one leads to the deep one, and so is a directory.
  have directory : tree.status ⟨root.anchor, above ++ [fileName]⟩ = .ok .directory :=
    FileTree.status_eq_directory (by simp) (by simp : rest ++ [fileName] ≠ []) deepFile.status
  cases file.status.symm.trans directory

/-- Of an ignore file and a deeper one, the deeper one prevails if its next directory comes after the name of ignore files, and is overruled itself if that comes before.
The two names are never the same. -/
theorem prevails_by_directory (shallow : Path.mk root.anchor (above ++ [fileName]) ∈
      tree.below root (· == fileName))
    (deep : Path.mk root.anchor (above ++ name :: (rest ++ [fileName])) ∈
      tree.below root (· == fileName))
    (built : Rules.ofProject tree root = .ok rules) :
    fileName < name ∧ Prevails tree root ⟨root.anchor, above ++ name :: (rest ++ [fileName])⟩
        ⟨root.anchor, above ++ [fileName]⟩ rules ∨
      name < fileName ∧ Prevails tree root ⟨root.anchor, above ++ [fileName]⟩
        ⟨root.anchor, above ++ name :: (rest ++ [fileName])⟩ rules := by
  -- Behind the directories above, the name of the file is compared with that of the directory.
  rcases lt_trichotomy fileName name with after | same | before
  · have later : above ++ [fileName] < above ++ name :: (rest ++ [fileName]) :=
      List.append_left_lt (List.cons_lt_cons_iff.mpr (.inl after))
    exact .inl ⟨after, prevails_of_lt deep shallow (Path.sortKey_lt_of_lt _ later) built⟩
  · exact absurd same.symm (name_ne_of_built shallow deep built)
  · have earlier : above ++ name :: (rest ++ [fileName]) < above ++ [fileName] :=
      List.append_left_lt (List.cons_lt_cons_iff.mpr (.inl before))
    exact .inr ⟨before, prevails_of_lt shallow deep (Path.sortKey_lt_of_lt _ earlier) built⟩

/-- The file of a directory keeps the name that the file of the root ignores. -/
theorem prevails_by_directory_ignoredAtRoot :
    ∃ rules, Rules.ofProject (ignoredAtRoot "!x.py\n") ⟨.root, []⟩ = .ok rules ∧
      Prevails (ignoredAtRoot "!x.py\n") ⟨.root, []⟩ inDirectory inRoot rules ∧
      rules.ignores "b/x.py" = false ∧ rules.ignores "c/x.py" = true := by
  have listed := below_ignoredAtRoot "!x.py\n"
  have built := ofProject_eq_rulesOf listed (by decide +kernel)
  refine ⟨_, built, ?_, by decide +kernel, by decide +kernel⟩
  have shallow : Path.mk .root ([] ++ [fileName]) ∈
      (ignoredAtRoot "!x.py\n").below ⟨.root, []⟩ (· == fileName) := by
    rw [listed]
    exact List.mem_cons_self
  have deep : Path.mk .root ([] ++ "b" :: ([] ++ [fileName])) ∈
      (ignoredAtRoot "!x.py\n").below ⟨.root, []⟩ (· == fileName) := by
    rw [listed]
    exact List.mem_cons_of_mem _ List.mem_cons_self
  -- The name of the directory comes after the one of ignore files.
  rcases @prevails_by_directory _ ⟨.root, []⟩ _ _ _ _ shallow deep built with
    ⟨-, prevails⟩ | ⟨before, -⟩
  · exact prevails
  · exact absurd before (by decide)

/-- A directory whose name comes before that of ignore files has its own, beside one that ignores all sources. -/
def keptInGithub : FileTree where
  entries := [(inRoot.parts, .file (Utf8.encode "*.py\n".toList)), ([".github"], .directory),
    ([".github", fileName], .file (Utf8.encode "!x.py\n".toList))]

/-- The file of such a directory cannot keep what the file of the root ignores, as its lines come first. -/
theorem deeper_file_overruled :
    allLines keptInGithub ⟨.root, []⟩ (keptInGithub.below ⟨.root, []⟩ (· == fileName)) =
        .ok ["!.github/x.py", "*.py"] ∧
      ∃ rules, Rules.ofProject keptInGithub ⟨.root, []⟩ = .ok rules ∧
        rules.ignores ".github/x.py" = true := by
  have listed : keptInGithub.below ⟨.root, []⟩ (· == fileName) =
      [⟨.root, [".github", fileName]⟩, inRoot] := by
    -- The directory comes first when the files are sorted.
    have swapped : Path.sort [inRoot, ⟨.root, [".github", fileName]⟩] =
        Path.sort [⟨.root, [".github", fileName]⟩, inRoot] :=
      Path.sort_eq_of_perm (@Path.toldApart_of_anchor _ .root (by decide)) (List.Perm.swap _ _ _)
    have sorted : Path.sort [⟨.root, [".github", fileName]⟩, inRoot] =
        [⟨.root, [".github", fileName]⟩, inRoot] :=
      List.mergeSort_of_pairwise (by decide +kernel)
    exact swapped.trans sorted
  refine ⟨?_, _, ofProject_eq_rulesOf listed (by decide +kernel), by decide +kernel⟩
  rw [listed]
  decide +kernel

end PermissionNames.Ignore
