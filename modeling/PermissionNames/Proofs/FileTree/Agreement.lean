import PermissionNames.Proofs.FileTree

/-! Trees that agree at some places answer alike there, and go on to agree however they are changed in the same way. -/

namespace PermissionNames

/-- Whether an entry is a directory. -/
def FileEntry.isDirectory : FileEntry → Bool
  | .directory => true
  | .file _ => false

namespace FileTree

variable {tree other : FileTree}

/-- What is put at a place stands there, and at every other place stands what stood there. -/
theorem entry?_put {place : List String} (inside : place ≠ []) (entry : FileEntry)
    (next : List String) :
    entry? (tree.put place entry) next = if next = place then some entry else tree.entry? next := by
  -- The place itself is looked up first; at any other one the entries are filtered alike.
  split
  · rename_i same
    rw [same, entry?_put_self inside]
  · rename_i apart
    have kept : Keeps (· == next) tree (tree.put place entry) := by
      refine keeps_put ?_ entry
      exact beq_eq_false_iff_ne.mpr (Ne.symm apart)
    exact kept.entry?_eq (by simp)

/-- What is taken away leaves nothing at and below its place, and everything else as it was. -/
theorem entry?_remove {place : List String} (inside : place ≠ []) (next : List String) :
    entry? (tree.remove place) next = if place <+: next then none else tree.entry? next := by
  split
  · rename_i below
    have full : next ≠ [] := by
      rintro rfl
      exact inside (List.prefix_nil.mp below)
    unfold entry? remove
    rw [if_neg full, List.lookup_eq_none_iff]
    -- An entry that is left does not lie below the place.
    intro entry member
    refine bne_iff_ne.mpr ?_
    rintro rfl
    have left := (List.mem_filter.mp member).2
    simp [List.isPrefixOf_iff_prefix.mpr below] at left
  · rename_i apart
    have kept : Keeps (· == next) tree (tree.remove place) := by
      refine keeps_remove fun below deeper => beq_eq_false_iff_ne.mpr ?_
      rintro rfl
      exact apart deeper
    exact kept.entry?_eq (by simp)

/-! Trees whose files may differ in their content. -/

/-- Two trees have directories at the same places, and files at the same places. -/
def SameShape (tree other : FileTree) : Prop :=
  ∀ place, (other.entry? place).map FileEntry.isDirectory =
    (tree.entry? place).map FileEntry.isDirectory

/-- Another content of a file leaves the shape of a tree. -/
theorem sameShape_put {place : List String} {old : List UInt8}
    (standing : tree.entry? place = some (.file old)) (new : List UInt8) :
    SameShape tree (tree.put place (.file new)) := by
  -- Only the place of the file is in question, where there is a file before and after.
  have inside : place ≠ [] := by
    rintro rfl
    cases standing
  intro next
  rw [entry?_put inside]
  split
  · rename_i same
    rw [same, standing]
    rfl
  · rfl

/-- Another content of a listed place leaves all places as they are listed. -/
theorem places_put {place : List String} (listed : place ∈ tree.entries.map (·.1))
    (entry : FileEntry) : (tree.put place entry).entries.map (·.1) = tree.entries.map (·.1) := by
  -- A listed place is replaced where it stands, so the order is the same.
  have found : tree.entries.any (·.1 == place) = true := by simpa using listed
  rw [put, if_pos found, List.map_map]
  rfl

/-- What stands below a directory is known from the places that are listed. -/
theorem below_eq_of_places (same : other.entries.map (·.1) = tree.entries.map (·.1))
    (directory : Path) (wanted : String → Bool) :
    other.below directory wanted = tree.below directory wanted := by
  rw [below_eq_sort, below_eq_sort, same]

/-- At every place of two trees of the same shape stands nothing, a directory or a file in both of them. -/
theorem SameShape.cases (same : SameShape tree other) (place : List String) :
    (tree.entry? place = none ∧ other.entry? place = none) ∨
      (tree.entry? place = some .directory ∧ other.entry? place = some .directory) ∨
      ∃ bytes others, tree.entry? place = some (.file bytes) ∧
        other.entry? place = some (.file others) := by
  -- The kind of what stands here is compared, so bytes are all that can differ.
  have here := same place
  cases standing : tree.entry? place with
  | none =>
    rw [standing, Option.map_none, Option.map_eq_none_iff] at here
    exact .inl ⟨rfl, here⟩
  | some entry =>
    rw [standing, Option.map_some, Option.map_eq_some_iff] at here
    obtain ⟨found, standingToo, alike⟩ := here
    cases entry <;> cases found
    case directory.directory => exact .inr (.inl ⟨rfl, standingToo⟩)
    case file.file => exact .inr (.inr ⟨_, _, rfl, standingToo⟩)
    all_goals cases alike

/-- A walk goes the same way in trees of the same shape. -/
theorem SameShape.walk_eq (same : SameShape tree other) (place parts : List String) :
    other.walk place parts = tree.walk place parts := by
  -- Each step asks only whether a directory, a file or nothing stands at a place.
  induction parts generalizing place with
  | nil => rfl
  | cons part rest ih =>
    rw [walk, walk]
    rcases same.cases place with
      ⟨standing, alike⟩ | ⟨standing, alike⟩ | ⟨bytes, others, standing, alike⟩
    · simp only [standing, alike]
    · simp only [standing, alike, ih]
      rcases same.cases (place ++ [part]) with
        ⟨next, onward⟩ | ⟨next, onward⟩ | ⟨bytes, others, next, onward⟩ <;>
        simp only [next, onward]
    · simp only [standing, alike]

/-- A path leads to a file in both of two trees of the same shape, or in none. -/
theorem SameShape.isFile_eq (same : SameShape tree other) (path : Path) :
    other.isFile path = tree.isFile path := by
  -- The walk is the same, and what it leads to is of the same kind.
  unfold isFile status
  rw [same.walk_eq]
  cases tree.walk [] path.parts with
  | error problem => rfl
  | ok place =>
    rcases same.cases place with
      ⟨standing, alike⟩ | ⟨standing, alike⟩ | ⟨bytes, others, standing, alike⟩ <;>
      simp only [standing, alike]

/-- The text of a file is the same in trees of the same shape that agree at its place. -/
theorem SameShape.readText_eq (same : SameShape tree other) {path : Path}
    (agree : ∀ place, tree.walk [] path.parts = .ok place →
      other.entry? place = tree.entry? place) :
    other.readText path = tree.readText path := by
  -- The walk is the same, and the one place it leads to is agreed on.
  have found : other.status path = tree.status path := by
    unfold status
    rw [same.walk_eq]
    cases walked : tree.walk [] path.parts with
    | error problem => rfl
    | ok place => simp only [agree place walked]
  unfold readText
  rw [found]

/-! Trees that have the same at all places of a kind, and whatever they have elsewhere. -/

variable {kind : List String → Bool}

/-- Two trees have the same at every place of a kind. -/
def AgreeAt (kind : List String → Bool) (tree other : FileTree) : Prop :=
  ∀ place, kind place = true → other.entry? place = tree.entry? place

/-- Trees with the same entries at the places of a kind agree there. -/
theorem Keeps.agreeAt (kept : Keeps kind tree other) : AgreeAt kind tree other :=
  fun _ listed => kept.entry?_eq listed

/-- A path all of whose places are of a kind. -/
def Stays (kind : List String → Bool) (parts : List String) : Prop :=
  ∀ front, front <+: parts → kind front = true

/-- A path that starts with nothing but places of a kind ends at one. -/
theorem Stays.ending {parts : List String} (stays : Stays kind parts) : kind parts = true :=
  stays parts (List.prefix_refl parts)

/-- What a path starts with stays among the places of a kind if the path does. -/
theorem Stays.above {parts front : List String} (stays : Stays kind parts)
    (above : front <+: parts) : Stays kind front :=
  fun further inside => stays further (inside.trans above)

/-- Trees that agree at the places of a kind agree along a path that stays among them. -/
theorem AgreeAt.sameAlong {parts : List String} (agree : AgreeAt kind tree other)
    (stays : Stays kind parts) : SameAlong tree other parts :=
  fun front inside => agree front (stays front inside)

/-- Trees go on to agree when the same is put at a place of both. -/
theorem AgreeAt.put {place : List String} (agree : AgreeAt kind tree other) (inside : place ≠ [])
    (entry : FileEntry) : AgreeAt kind (tree.put place entry) (other.put place entry) := by
  -- The new entry is the same in both, and all others were agreed on.
  intro next listed
  rw [entry?_put inside, entry?_put inside, agree next listed]

/-- Trees go on to agree when the same place is taken away from both. -/
theorem AgreeAt.remove {place : List String} (agree : AgreeAt kind tree other)
    (inside : place ≠ []) : AgreeAt kind (tree.remove place) (other.remove place) := by
  -- The place is gone in both, and all others were agreed on.
  intro next listed
  rw [entry?_remove inside, entry?_remove inside, agree next listed]

/-- A path names the same place in trees that agree along it. -/
theorem SameAlong.target_eq {path : Path} (same : SameAlong tree other path.parts)
    (level : ".." ∉ path.parts) : other.target path = tree.target path := by
  have above : path.parts.dropLast <+: path.parts := List.dropLast_prefix path.parts
  have aboveLevel : ".." ∉ path.parts.dropLast := fun member => level (above.subset member)
  have walked : other.walk [] path.parts.dropLast = tree.walk [] path.parts.dropLast :=
    walk_congr aboveLevel fun front inside => by simpa using same front (inside.trans above)
  unfold target
  rw [walked]
  cases reached : tree.walk [] path.parts.dropLast with
  | error problem => rfl
  | ok place =>
    -- The walk ends at the components before the last, where both trees have the same.
    have arrived : place = path.parts.dropLast := by simpa using (walk_eq_ok aboveLevel reached).1
    simp only [arrived, same _ above]

/-- The place that a path without climbs names is that of its components. -/
theorem place_eq_of_target {path : Path} {place : List String} (level : ".." ∉ path.parts)
    (found : tree.target path = .ok place) : place = path.parts := by
  -- A path without components names the root, and any other one its last component in a directory.
  cases last : path.parts.getLast? with
  | none =>
    rw [target, last] at found
    cases found
    rw [List.getLast?_eq_none_iff.mp last]
  | some name =>
    obtain ⟨front, split⟩ := List.getLast?_eq_some_iff.mp last
    exact (target_eq_ok split level found).1

/-- What the same operation gives on two trees: the same fault, or trees that agree. -/
inductive Alike {ε : Type} (kind : List String → Bool) :
    Except ε FileTree → Except ε FileTree → Prop
  | failed (fault : ε) : Alike kind (.error fault) (.error fault)
  | changed {tree other : FileTree} (agree : AgreeAt kind tree other) :
    Alike kind (.ok tree) (.ok other)

/-- A directory is made alike in trees that agree along its path. -/
theorem AgreeAt.makeDirectory {path : Path} (agree : AgreeAt kind tree other)
    (stays : Stays kind path.parts) (level : ".." ∉ path.parts) :
    Alike kind (tree.makeDirectory path) (other.makeDirectory path) := by
  unfold FileTree.makeDirectory
  rw [(agree.sameAlong stays).target_eq level]
  cases found : tree.target path with
  | error problem => exact .failed problem
  | ok place =>
    obtain rfl := place_eq_of_target level found
    dsimp only
    rw [agree _ stays.ending]
    split
    · exact .failed _
    · rename_i vacant
      -- Something stands at the root, so the directory is made elsewhere.
      refine .changed (agree.put ?_ _)
      intro top
      simp [top, entry?] at vacant

/-- A directory that could not be made is tolerated alike. -/
theorem AgreeAt.tolerate {path : Path} (agree : AgreeAt kind tree other)
    (stays : Stays kind path.parts) (level : ".." ∉ path.parts) (problem : FileProblem) :
    (other.tolerate path problem).2 = (tree.tolerate path problem).2 ∧
      AgreeAt kind (tree.tolerate path problem).1 (other.tolerate path problem).1 := by
  -- Whether it is tolerated depends on the status of the path alone.
  unfold FileTree.tolerate isDirectory
  rw [(agree.sameAlong stays).status_eq level]
  exact ⟨rfl, agree⟩

/-- Directories are made alike in trees that agree along the path, down to where making them fails. -/
theorem AgreeAt.makeAll {reversed : List String} (agree : AgreeAt kind tree other)
    (stays : Stays kind reversed.reverse) (level : ".." ∉ reversed) :
    (other.makeAll reversed).2 = (tree.makeAll reversed).2 ∧
      AgreeAt kind (tree.makeAll reversed).1 (other.makeAll reversed).1 := by
  -- The recursion goes up from the last component, and both trees take the same branch at each
  -- step.
  induction reversed generalizing tree other with
  | nil => exact ⟨rfl, agree⟩
  | cons part above ih =>
    have aboveStays : Stays kind above.reverse := stays.above (by simp)
    have aboveLevel : ".." ∉ above := fun member => level (List.mem_cons_of_mem part member)
    have wholeLevel : ".." ∉ (part :: above).reverse := fun member =>
      level (List.mem_reverse.mp member)
    have makes : ∀ {tree other : FileTree}, AgreeAt kind tree other →
        Alike kind (tree.makeDirectory ⟨.root, (part :: above).reverse⟩)
          (other.makeDirectory ⟨.root, (part :: above).reverse⟩) :=
      fun agree => agree.makeDirectory stays wholeLevel
    have tolerates : ∀ {tree other : FileTree} (problem : FileProblem), AgreeAt kind tree other →
        (other.tolerate ⟨.root, (part :: above).reverse⟩ problem).2 =
            (tree.tolerate ⟨.root, (part :: above).reverse⟩ problem).2 ∧
          AgreeAt kind (tree.tolerate ⟨.root, (part :: above).reverse⟩ problem).1
            (other.tolerate ⟨.root, (part :: above).reverse⟩ problem).1 :=
      fun problem agree => agree.tolerate stays wholeLevel problem
    rw [FileTree.makeAll, FileTree.makeAll]
    have first := makes agree
    generalize tree.makeDirectory ⟨.root, (part :: above).reverse⟩ = made,
      other.makeDirectory ⟨.root, (part :: above).reverse⟩ = otherMade at first ⊢
    cases first with
    | changed agree => exact ⟨rfl, agree⟩
    | failed problem =>
      cases problem with
      | notFound =>
        -- The directories above are made alike, and then the directory itself is tried again.
        have inner := ih agree aboveStays aboveLevel
        generalize tree.makeAll above = reached, other.makeAll above = otherReached at inner ⊢
        obtain ⟨middle, outcome⟩ := reached
        obtain ⟨otherMiddle, otherOutcome⟩ := otherReached
        obtain ⟨rfl, agree⟩ := inner
        cases otherOutcome with
        | error fault => exact ⟨rfl, agree⟩
        | ok done =>
          dsimp only
          have second := makes agree
          generalize middle.makeDirectory ⟨.root, (part :: above).reverse⟩ = made,
            otherMiddle.makeDirectory ⟨.root, (part :: above).reverse⟩ = otherMade at second ⊢
          cases second with
          | changed agree => exact ⟨rfl, agree⟩
          | failed problem =>
            cases problem with
            | notFound => exact ⟨rfl, agree⟩
            | _ => exact tolerates _ agree
      | _ => exact tolerates _ agree

/-- Directories are made alike in trees that agree along their path. -/
theorem AgreeAt.makeDirectories {path : Path} (agree : AgreeAt kind tree other)
    (stays : Stays kind path.parts) (level : ".." ∉ path.parts) :
    (other.makeDirectories path).2 = (tree.makeDirectories path).2 ∧
      AgreeAt kind (tree.makeDirectories path).1 (other.makeDirectories path).1 := by
  -- Both checks look at the path alone, so the trees pass them together.
  unfold FileTree.makeDirectories
  split
  · exact ⟨rfl, agree⟩
  split
  · exact ⟨rfl, agree⟩
  · exact agree.makeAll (by simpa using stays) (by simpa using level)

/-- A file is written alike in trees that agree along its path. -/
theorem AgreeAt.writeFile {path : Path} (agree : AgreeAt kind tree other)
    (stays : Stays kind path.parts) (level : ".." ∉ path.parts) (bytes : List UInt8) :
    Alike kind (tree.writeFile path bytes) (other.writeFile path bytes) := by
  unfold FileTree.writeFile
  rw [(agree.sameAlong stays).target_eq level]
  split
  · exact .failed _
  split
  · exact .failed _
  · cases found : tree.target path with
    | error problem => exact .failed _
    | ok place =>
      obtain rfl := place_eq_of_target level found
      dsimp only
      rw [agree _ stays.ending]
      split
      · exact .failed _
      · rename_i free
        -- The root is a directory, so the file is written elsewhere.
        refine .changed (agree.put ?_ _)
        intro top
        exact free (by simp [top, entry?])

/-- A file is moved alike in trees that agree along both paths. -/
theorem AgreeAt.moveFile {source destination : Path} (agree : AgreeAt kind tree other)
    (sourceStays : Stays kind source.parts) (sourceLevel : ".." ∉ source.parts)
    (stays : Stays kind destination.parts) (level : ".." ∉ destination.parts) :
    Alike kind (tree.moveFile source destination) (other.moveFile source destination) := by
  unfold FileTree.moveFile
  rw [(agree.sameAlong sourceStays).target_eq sourceLevel, (agree.sameAlong stays).target_eq level]
  cases sourceFound : tree.target source with
  | error problem => exact .failed _
  | ok origin =>
    cases found : tree.target destination with
    | error problem => exact .failed _
    | ok place =>
      obtain rfl := place_eq_of_target sourceLevel sourceFound
      obtain rfl := place_eq_of_target level found
      dsimp only
      rw [agree _ sourceStays.ending, agree _ stays.ending]
      split
      · exact .failed _
      · rename_i bytes standing free
        split
        · exact .changed agree
        · -- Files stand at neither end at the root, which is a directory.
          have sourceInside : source.parts ≠ [] := by
            intro top
            simp [top, entry?] at standing
          have inside : destination.parts ≠ [] := by
            intro top
            exact free (by rw [top, entry?, if_pos rfl])
          exact .changed ((agree.remove sourceInside).put inside _)
      · exact .failed _

end FileTree

end PermissionNames
