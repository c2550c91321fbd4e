import PermissionNames.FileTree
import PermissionNames.Proofs.Text.Utf8

/-! What an operation on a file tree leaves as it was, and where a path without climbs leads. -/

namespace PermissionNames.FileTree

variable {tree other : FileTree} {kind : List String → Bool}

/-- The entries at places of a kind, in their order. -/
def entriesAt (tree : FileTree) (kind : List String → Bool) : List (List String × FileEntry) :=
  tree.entries.filter (kind ·.1)

/-- The second tree has the entries of the first at all places of a kind. -/
def Keeps (kind : List String → Bool) (tree other : FileTree) : Prop :=
  other.entriesAt kind = tree.entriesAt kind

/-- Every tree keeps its own entries. -/
theorem Keeps.refl (kind : List String → Bool) (tree : FileTree) : Keeps kind tree tree :=
  rfl

/-- What is kept twice is kept. -/
theorem Keeps.trans {third : FileTree} (first : Keeps kind tree other)
    (second : Keeps kind other third) : Keeps kind tree third :=
  Eq.trans second first

/-- A place of the kind is looked up among the entries of the kind. -/
theorem lookup_filter {place : List String} (kept : kind place = true)
    (entries : List (List String × FileEntry)) :
    (entries.filter (kind ·.1)).lookup place = entries.lookup place := by
  -- Entries before the first with this place are passed over, whether they are kept or not.
  induction entries with
  | nil => rfl
  | cons entry rest ih =>
    obtain ⟨key, value⟩ := entry
    by_cases same : place = key
    · subst same
      simp [kept]
    · have differs : (place == key) = false := beq_eq_false_iff_ne.mpr same
      rw [List.lookup_cons, differs, List.filter_cons]
      split
      · rw [List.lookup_cons, differs]
        exact ih
      · exact ih

/-- Where entries are kept, the same stands at each place. -/
theorem Keeps.entry?_eq {place : List String} (kept : Keeps kind tree other)
    (listed : kind place = true) : other.entry? place = tree.entry? place := by
  -- Both lookups go to the entries of the kind, which are the same.
  unfold Keeps entriesAt at kept
  unfold entry?
  rw [← lookup_filter listed other.entries, kept, lookup_filter listed]

/-- A file is among the entries, as the root is none. -/
theorem mem_entries_of_file {place : List String} {bytes : List UInt8}
    (standing : tree.entry? place = some (.file bytes)) : (place, .file bytes) ∈ tree.entries := by
  -- Only the root stands without an entry, and it is a directory.
  unfold entry? at standing
  split at standing
  · cases standing
  · obtain ⟨before, after, split, -⟩ := List.lookup_eq_some_iff.mp standing
    simp [split]

/-- Replacing the entry of a place changes none at the places of a kind without it. -/
theorem filter_replaced {place : List String} (elsewhere : kind place = false) (entry : FileEntry)
    (entries : List (List String × FileEntry)) :
    (entries.map fun (at_, old) => (at_, if at_ = place then entry else old)).filter (kind ·.1) =
      entries.filter (kind ·.1) := by
  -- The replaced entry is dropped before and after, and every other one is untouched.
  induction entries with
  | nil => rfl
  | cons first rest ih =>
    obtain ⟨key, value⟩ := first
    by_cases same : key = place
    · simp only [List.map_cons, List.filter_cons, same, elsewhere, Bool.false_eq_true, if_false]
      exact ih
    · simp only [List.map_cons, List.filter_cons, if_neg same]
      rw [ih]

/-- Putting an entry at one place keeps the entries at all others. -/
theorem keeps_put {place : List String} (elsewhere : kind place = false) (entry : FileEntry) :
    Keeps kind tree (tree.put place entry) := by
  -- The place is outside the kind, whether its entry is replaced or added behind the others.
  unfold Keeps entriesAt put
  split
  · exact filter_replaced elsewhere entry tree.entries
  · simp [List.filter_append, elsewhere]

/-- Taking away a place keeps the entries that are not below it. -/
theorem keeps_remove {place : List String}
    (elsewhere : ∀ below, place <+: below → kind below = false) :
    Keeps kind tree (tree.remove place) := by
  unfold Keeps entriesAt remove
  rw [List.filter_filter]
  apply List.filter_congr
  -- What is taken away lies at or below the place, so it is none of the kind.
  intro entry member
  cases below : place.isPrefixOf entry.1 with
  | false => simp [below]
  | true => simp [elsewhere entry.1 (List.isPrefixOf_iff_prefix.mp below)]

/-- The entry of a place that is listed is found replaced. -/
theorem lookup_replaced {place : List String} (entry : FileEntry)
    {entries : List (List String × FileEntry)} (listed : entries.any (·.1 == place)) :
    (entries.map fun (at_, old) => (at_, if at_ = place then entry else old)).lookup place =
      some entry := by
  -- The entries in front of the place have other places and are passed over.
  induction entries with
  | nil => simp at listed
  | cons first rest ih =>
    obtain ⟨key, value⟩ := first
    by_cases same : place = key
    · simp [same]
    · have differs : (place == key) = false := beq_eq_false_iff_ne.mpr same
      rw [List.map_cons, List.lookup_cons, differs]
      refine ih ?_
      simpa [Ne.symm same] using listed

/-- What is put at a place stands there. -/
theorem entry?_put_self {place : List String} (inside : place ≠ []) (entry : FileEntry) :
    entry? (tree.put place entry) place = some entry := by
  unfold entry? put
  rw [if_neg inside]
  split
  · rename_i listed
    exact lookup_replaced entry listed
  -- Otherwise the new entry is the last one, and no earlier one has this place.
  · rename_i unlisted
    have absent : tree.entries.lookup place = none := by
      rw [List.lookup_eq_none_iff]
      intro entry member
      simp only [List.any_eq_true, not_exists, not_and, beq_iff_eq] at unlisted
      simpa using fun same : place = entry.1 => unlisted entry member same.symm
    rw [List.lookup_append, absent]
    simp

/-- Nothing is left at a place that is taken away. -/
theorem entry?_remove_self {place : List String} (inside : place ≠ []) :
    entry? (tree.remove place) place = none := by
  unfold entry? remove
  rw [if_neg inside, List.lookup_eq_none_iff]
  -- An entry that is left does not lie at the place, nor below it.
  intro entry member
  have left := (List.mem_filter.mp member).2
  refine bne_iff_ne.mpr ?_
  rintro rfl
  have itself : entry.1.isPrefixOf entry.1 = true :=
    List.isPrefixOf_iff_prefix.mpr (List.prefix_refl _)
  simp [itself] at left

/-- Walking along joined components is walking along the first ones and then along the others. -/
theorem walk_append (tree : FileTree) (place first second : List String) :
    tree.walk place (first ++ second) =
      (tree.walk place first).bind fun reached => tree.walk reached second := by
  -- The walk stops within the first components or goes on from where they lead.
  induction first generalizing place with
  | nil => rfl
  | cons part rest ih =>
    rw [List.cons_append, walk, walk]
    cases tree.entry? place with
    | none => rfl
    | some entry =>
      cases entry with
      | file bytes => rfl
      | directory =>
        simp only
        split
        · exact ih _
        · split
          · rfl
          · cases tree.entry? (place ++ [part]) with
            | none => rfl
            | some entry => exact ih _

/-- A walk without climbs that does not fail reaches the place that it names, over entries that are all there. -/
theorem walk_eq_ok {place parts reached : List String} (level : ".." ∉ parts)
    (walked : tree.walk place parts = .ok reached) :
    reached = place ++ parts ∧
      ∀ front, front ≠ [] → front <+: parts → (tree.entry? (place ++ front)).isSome := by
  -- Each step adds its component to the place, as none of them climbs.
  induction parts generalizing place with
  | nil =>
    cases walked
    refine ⟨by simp, ?_⟩
    intro front full inside
    exact absurd (List.prefix_nil.mp inside) full
  | cons part rest ih =>
    have here : part ≠ ".." := fun same => level (by simp [same])
    have later : ".." ∉ rest := fun member => level (List.mem_cons_of_mem part member)
    rw [walk] at walked
    cases standing : tree.entry? place with
    | none => simp [standing] at walked
    | some entry =>
      cases entry with
      | file bytes => simp [standing] at walked
      | directory =>
        simp only [standing, here, if_false] at walked
        split at walked
        · cases walked
        · cases next : tree.entry? (place ++ [part]) with
          | none => simp [next] at walked
          | some entry =>
            simp only [next] at walked
            obtain ⟨arrived, along⟩ := ih later walked
            refine ⟨by rw [arrived]; simp, ?_⟩
            -- A nonempty part of the way is one step, or one step and a part of the rest.
            intro front full inside
            cases front with
            | nil => exact absurd rfl full
            | cons first others =>
              obtain ⟨rfl, further⟩ := List.cons_prefix_cons.mp inside
              cases others with
              | nil => simp [next]
              | cons second others => simpa using along (second :: others) (by simp) further

/-- A walk without climbs depends only on what stands along it. -/
theorem walk_congr {place parts : List String} (level : ".." ∉ parts)
    (same : ∀ front, front <+: parts → other.entry? (place ++ front) = tree.entry? (place ++ front)) :
    other.walk place parts = tree.walk place parts := by
  induction parts generalizing place with
  | nil => rfl
  | cons part rest ih =>
    have here : part ≠ ".." := fun same => level (by simp [same])
    have later : ".." ∉ rest := fun member => level (List.mem_cons_of_mem part member)
    -- A step looks at the place it starts from and at the one that it leads to.
    have start : other.entry? place = tree.entry? place := by
      simpa using same [] List.nil_prefix
    have next : other.entry? (place ++ [part]) = tree.entry? (place ++ [part]) :=
      same [part] (List.cons_prefix_cons.mpr ⟨rfl, List.nil_prefix⟩)
    have onward : other.walk (place ++ [part]) rest = tree.walk (place ++ [part]) rest := by
      refine ih later ?_
      intro front inside
      have shifted := same (part :: front) (List.cons_prefix_cons.mpr ⟨rfl, inside⟩)
      simpa using shifted
    rw [walk, walk, start]
    simp only [here, if_false, next, onward]

/-- The second tree has the same as the first at every place along a path. -/
def SameAlong (tree other : FileTree) (parts : List String) : Prop :=
  ∀ front, front <+: parts → other.entry? front = tree.entry? front

/-- A path without climbs leads to the same in trees that agree along it. -/
theorem SameAlong.status_eq {path : Path} (same : SameAlong tree other path.parts)
    (level : ".." ∉ path.parts) : other.status path = tree.status path := by
  -- The walk is the same, and it ends at the components themselves.
  have walked : other.walk [] path.parts = tree.walk [] path.parts :=
    walk_congr level fun front inside => by simpa using same front inside
  unfold status
  rw [walked]
  cases reached : tree.walk [] path.parts with
  | error problem => rfl
  | ok place =>
    have arrived : place = path.parts := by simpa using (walk_eq_ok level reached).1
    simp only [arrived, same path.parts (List.prefix_refl _)]

/-- The text of a file is the same in trees that agree along its path. -/
theorem SameAlong.readText_eq {path : Path} (same : SameAlong tree other path.parts)
    (level : ".." ∉ path.parts) : other.readText path = tree.readText path := by
  -- Reading depends on the tree through the status of the path alone.
  unfold readText
  rw [same.status_eq level]

/-- Whether something stands at a path is the same in trees that agree along it. -/
theorem SameAlong.exists?_eq {path : Path} (same : SameAlong tree other path.parts)
    (level : ".." ∉ path.parts) : other.exists? path = tree.exists? path := by
  -- Looking up depends on the tree through the status of the path alone.
  unfold exists?
  rw [same.status_eq level]

/-- Whether a path leads to a file is the same in trees that agree along it. -/
theorem SameAlong.isFile_eq {path : Path} (same : SameAlong tree other path.parts)
    (level : ".." ∉ path.parts) : other.isFile path = tree.isFile path := by
  -- The answer depends on the tree through the status of the path alone.
  unfold isFile
  rw [same.status_eq level]

/-- What a path without climbs leads to stands at its components, and so does something all along it. -/
theorem entry?_of_status {path : Path} {entry : FileEntry} (level : ".." ∉ path.parts)
    (found : tree.status path = .ok entry) :
    tree.entry? path.parts = some entry ∧
      ∀ front, front <+: path.parts → (tree.entry? front).isSome := by
  unfold status at found
  -- The walk has reached the components themselves, over entries that are all there.
  cases walked : tree.walk [] path.parts with
  | error problem => simp [walked] at found
  | ok place =>
    obtain ⟨arrived, along⟩ := walk_eq_ok level walked
    have here : place = path.parts := by simpa using arrived
    simp only [walked, here] at found
    refine ⟨?_, ?_⟩
    · cases standing : tree.entry? path.parts with
      | none => simp [standing] at found
      | some other =>
        simp only [standing, Except.ok.injEq] at found
        rw [found]
    · intro front inside
      by_cases top : front = []
      · simp [top, entry?]
      · simpa using along front top inside

/-- Where something is found to stand, something stands all along the path. -/
theorem exists_along_of_exists? {path : Path} (level : ".." ∉ path.parts)
    (there : tree.exists? path = .ok true) :
    ∀ front, front <+: path.parts → (tree.entry? front).isSome := by
  -- Something is found only where the walk along the path succeeds.
  unfold exists? at there
  split at there
  · cases there
  · split at there
    · cases there
    · cases found : tree.status path with
      | error problem => cases problem <;> simp [found] at there
      | ok entry => exact (entry?_of_status level found).2

/-- What stands in a directory that can be walked to is found there. -/
theorem status_eq_ok {path : Path} {front : List String} {last : String} {entry : FileEntry}
    (split : path.parts = front ++ [last]) (level : ".." ∉ path.parts)
    (walked : tree.walk [] front = .ok front) (directory : tree.entry? front = some .directory)
    (short : last.utf8ByteSize ≤ longestName) (standing : tree.entry? path.parts = some entry) :
    tree.status path = .ok entry := by
  have lastLevel : last ≠ ".." := fun same => level (by simp [split, same])
  have notLong : ¬ last.utf8ByteSize > longestName := by omega
  -- The last step starts in the directory and finds the entry.
  have reached : tree.walk [] path.parts = .ok path.parts := by
    rw [split] at standing ⊢
    rw [walk_append, walked]
    simp only [Except.bind, walk, directory, lastLevel, notLong, if_false, standing]
  unfold status
  simp only [reached, standing]

/-- A path that leads on to something leads to a directory. -/
theorem status_eq_directory {path above : Path} {further : List String} {entry : FileEntry}
    (split : path.parts = above.parts ++ further) (onward : further ≠ [])
    (found : tree.status path = .ok entry) :
    tree.status above = .ok .directory := by
  unfold status at found ⊢
  rw [split, walk_append] at found
  cases walked : tree.walk [] above.parts with
  | error problem =>
    rw [walked] at found
    cases found
  | ok place =>
    -- The next step of the walk is only made from a directory.
    obtain ⟨next, rest, rfl⟩ := List.exists_cons_of_ne_nil onward
    simp only [walked, Except.bind, walk] at found
    cases standing : tree.entry? place with
    | none => simp [standing] at found
    | some entry =>
      cases entry with
      | directory => simp only [standing]
      | file bytes => simp [standing] at found

/-- Directories stand all along the way to what a path without climbs leads to. -/
theorem entry?_above_of_status {path : Path} {entry : FileEntry} {front : List String}
    (level : ".." ∉ path.parts) (found : tree.status path = .ok entry) (above : front <+: path.parts)
    (strict : front ≠ path.parts) : tree.entry? front = some .directory := by
  -- Cut off above its end, the path leads to a directory, as the walk goes on from there.
  obtain ⟨further, split⟩ := above
  have onward : further ≠ [] := by
    rintro rfl
    exact strict (by simpa using split)
  have directory : tree.status ⟨path.anchor, front⟩ = .ok .directory :=
    status_eq_directory split.symm onward found
  have frontLevel : ".." ∉ front := fun member => level (by simp [← split, member])
  exact (entry?_of_status frontLevel directory).1

/-- A place that is neither a directory nor the file itself does not lie on the way to a file. -/
theorem not_prefix_of_status {path : Path} {bytes : List UInt8} {place : List String}
    (level : ".." ∉ path.parts) (found : tree.status path = .ok (.file bytes))
    (apart : path.parts ≠ place) (free : tree.entry? place ≠ some .directory) :
    ¬ place <+: path.parts :=
  fun above => free (entry?_above_of_status level found above (Ne.symm apart))

/-- A path that can be opened if something stands there: it holds no null character and not too many bytes. -/
structure Openable (path : Path) : Prop where
  clean : holdsNull path.toString = false
  fits : isOversized path = false

instance (path : Path) : Decidable (Openable path) :=
  decidable_of_iff (holdsNull path.toString = false ∧ isOversized path = false)
    ⟨fun both => ⟨both.1, both.2⟩, fun openable => ⟨openable.clean, openable.fits⟩⟩

/-- A path that can be opened leads to a file with these bytes. -/
structure HasFile (tree : FileTree) (path : Path) (bytes : List UInt8) : Prop where
  openable : Openable path
  status : tree.status path = .ok (.file bytes)

/-- A text is read exactly from a file whose bytes are decoded to it, apart from the ends of its lines. -/
theorem readText_eq_ok_iff {path : Path} {text : List Char} :
    tree.readText path = .ok text ↔
      ∃ bytes raw, tree.HasFile path bytes ∧ Utf8.decode bytes = .ok raw ∧
        unifyNewlines raw = text := by
  constructor
  · -- Any other path, entry or content is an error of its own.
    intro read
    unfold readText at read
    split at read
    · cases read
    · rename_i clean
      split at read
      · cases read
      · rename_i fits
        have openable : Openable path := ⟨by simpa using clean, by simpa using fits⟩
        cases found : tree.status path with
        | error problem => simp [found] at read
        | ok entry =>
          cases entry with
          | directory => simp [found] at read
          | file bytes =>
            cases decoded : Utf8.decode bytes with
            | error fault => simp [found, decoded] at read
            | ok raw =>
              simp only [found, decoded, Except.ok.injEq] at read
              exact ⟨bytes, raw, ⟨openable, found⟩, decoded, read⟩
  · rintro ⟨bytes, raw, ⟨⟨clean, fits⟩, found⟩, decoded, unified⟩
    simp [readText, clean, fits, found, decoded, unified]

/-- An encoded text without carriage returns is read from its file as it is. -/
theorem HasFile.readText_eq {path : Path} {text : List Char}
    (file : tree.HasFile path (Utf8.encode text)) (plain : '\r' ∉ text) :
    tree.readText path = .ok text :=
  readText_eq_ok_iff.mpr ⟨_, text, file, Utf8.decode_encode text, unifyNewlines_eq_self plain⟩

/-- A file that can be opened is found to stand. -/
theorem HasFile.exists?_eq {path : Path} {bytes : List UInt8} (file : tree.HasFile path bytes) :
    tree.exists? path = .ok true := by
  simp [exists?, file.openable.clean, file.openable.fits, file.status]

/-- The place that a path without climbs names is that of its components, in a directory that can be walked to. -/
theorem target_eq_ok {path : Path} {front place : List String} {last : String}
    (split : path.parts = front ++ [last]) (level : ".." ∉ path.parts)
    (found : tree.target path = .ok place) :
    place = path.parts ∧ tree.walk [] front = .ok front ∧ tree.entry? front = some .directory ∧
      last.utf8ByteSize ≤ longestName := by
  have frontLevel : ".." ∉ front := fun member => level (by simp [split, member])
  have lastLevel : last ≠ ".." := fun same => level (by simp [split, same])
  unfold target at found
  simp only [split, List.getLast?_append, List.getLast?_singleton, Option.some_or,
    List.dropLast_concat] at found
  -- The walk to the directory ends at the components before the last.
  cases walked : tree.walk [] front with
  | error problem => simp [walked] at found
  | ok reached =>
    have arrived : reached = front := by simpa using (walk_eq_ok frontLevel walked).1
    subst arrived
    simp only [walked] at found
    cases standing : tree.entry? reached with
    | none => simp [standing] at found
    | some entry =>
      cases entry with
      | file bytes => simp [standing] at found
      | directory =>
        simp only [standing, lastLevel, if_false] at found
        split at found
        · cases found
        · rename_i short
          cases found
          exact ⟨split.symm, rfl, rfl, by omega⟩

/-- A directory is made where nothing stands, and nowhere else. -/
theorem makeDirectory_eq_ok {path : Path} {front : List String} {last : String}
    (split : path.parts = front ++ [last]) (level : ".." ∉ path.parts)
    (made : tree.makeDirectory path = .ok other) :
    tree.entry? path.parts = none ∧ other = tree.put path.parts .directory := by
  unfold makeDirectory at made
  -- A directory is only made where the target is known and nothing stands.
  cases found : tree.target path with
  | error problem =>
    rw [found] at made
    cases made
  | ok place =>
    rw [found, (target_eq_ok split level found).1] at made
    dsimp only at made
    split at made
    · cases made
    · rename_i vacant
      cases made
      exact ⟨by simpa using vacant, rfl⟩

/-- Making directories keeps the entries at all places where something stands, and at all that the path does not pass. -/
theorem keeps_makeAll {reversed : List String} (level : ".." ∉ reversed)
    (elsewhere : ∀ place, place <+: reversed.reverse → tree.entry? place = none →
      kind place = false) :
    Keeps kind tree (tree.makeAll reversed).1 := by
  -- Only a place with nothing at it is put, so a place with an entry makes a kind that is kept.
  induction reversed generalizing kind with
  | nil => exact .refl kind tree
  | cons part above ih =>
    have aboveLevel : ".." ∉ above := fun member => level (List.mem_cons_of_mem part member)
    have wholeLevel : ".." ∉ (part :: above).reverse := fun member =>
      level (List.mem_reverse.mp member)
    have before : above.reverse <+: (part :: above).reverse := by simp
    have aboveElsewhere : ∀ place, place <+: above.reverse → tree.entry? place = none →
        kind place = false := fun place inside => elsewhere place (inside.trans before)
    have whole : (part :: above).reverse <+: (part :: above).reverse := List.prefix_refl _
    rw [makeAll]
    cases first : tree.makeDirectory ⟨.root, (part :: above).reverse⟩ with
    | ok made =>
      obtain ⟨vacant, same⟩ := makeDirectory_eq_ok List.reverse_cons wholeLevel first
      rw [same]
      -- The directory itself is made, where nothing stood.
      exact keeps_put (elsewhere _ whole vacant) _
    | error problem =>
      cases problem with
      | notFound =>
        -- The directories above are made first, and then the directory itself is tried again.
        have kept := ih aboveLevel aboveElsewhere
        -- What stood at the whole path before is not lost while the directories above are made.
        have stays : entry? (tree.makeAll above).1 (part :: above).reverse = none →
            tree.entry? (part :: above).reverse = none := by
          intro vacant
          cases standing : tree.entry? (part :: above).reverse with
          | none => rfl
          | some entry =>
            have same : Keeps (· == (part :: above).reverse) tree (tree.makeAll above).1 := by
              refine ih aboveLevel ?_
              intro place inside missing
              refine beq_eq_false_iff_ne.mpr ?_
              rintro rfl
              rw [standing] at missing
              cases missing
            rw [same.entry?_eq (by simp), standing] at vacant
            cases vacant
        cases inner : tree.makeAll above with
        | mk middle outcome =>
          rw [inner] at kept stays
          cases outcome with
          | error fault => exact kept
          | ok done =>
            dsimp only at kept stays ⊢
            cases second : middle.makeDirectory ⟨.root, (part :: above).reverse⟩ with
            | ok made =>
              obtain ⟨vacant, same⟩ := makeDirectory_eq_ok List.reverse_cons wholeLevel second
              rw [same]
              exact kept.trans (keeps_put (elsewhere _ whole (stays vacant)) _)
            | error problem => cases problem <;> exact kept
      | _ => exact .refl kind tree

/-- Making directories keeps the entries at all places where something stands, and at all that the path does not pass. -/
theorem keeps_makeDirectories {path : Path} (level : ".." ∉ path.parts)
    (elsewhere : ∀ place, place <+: path.parts → tree.entry? place = none → kind place = false) :
    Keeps kind tree (tree.makeDirectories path).1 := by
  -- Directories are made only where nothing stands, after two checks that change nothing.
  unfold makeDirectories
  split
  · exact .refl kind tree
  · split
    · exact .refl kind tree
    · exact keeps_makeAll (by simpa using level) (by simpa using elsewhere)

/-- A file is written in a directory, where no directory stands. -/
theorem writeFile_eq_ok {path : Path} {front : List String} {last : String} {bytes : List UInt8}
    (split : path.parts = front ++ [last]) (level : ".." ∉ path.parts)
    (written : tree.writeFile path bytes = .ok other) :
    Openable path ∧ tree.walk [] front = .ok front ∧
      tree.entry? front = some .directory ∧ other = tree.put path.parts (.file bytes) ∧
      tree.entry? path.parts ≠ some .directory := by
  -- Each check in front of the write has to be passed, and the last one rules out a directory.
  unfold writeFile at written
  split at written
  · cases written
  split at written
  · cases written
  · rename_i clean fits
    have openable : Openable path := ⟨by simpa using clean, by simpa using fits⟩
    cases found : tree.target path with
    | error problem =>
      rw [found] at written
      cases written
    | ok place =>
      obtain ⟨named, walked, standing, -⟩ := target_eq_ok split level found
      rw [found] at written
      dsimp only at written
      split at written
      · cases written
      · rename_i free
        cases written
        exact ⟨openable, walked, standing, by rw [named], by rw [← named]; exact free⟩

/-- A file is moved from its place, where nothing stays, to another, where no directory stands. -/
theorem moveFile_eq_ok {source destination : Path} {front : List String} {first second : String}
    {bytes : List UInt8} (sourceSplit : source.parts = front ++ [first])
    (split : destination.parts = front ++ [second]) (sourceLevel : ".." ∉ source.parts)
    (level : ".." ∉ destination.parts) (apart : first ≠ second)
    (standing : tree.entry? source.parts = some (.file bytes))
    (moved : tree.moveFile source destination = .ok other) :
    second.utf8ByteSize ≤ longestName ∧
      other = (tree.remove source.parts).put destination.parts (.file bytes) ∧
      tree.entry? destination.parts ≠ some .directory := by
  -- Without steps upwards, the places that are found are the paths themselves.
  have distinct : source.parts ≠ destination.parts := by
    rw [sourceSplit, split]
    simpa using apart
  unfold moveFile at moved
  cases sourceFound : tree.target source with
  | error problem =>
    rw [sourceFound] at moved
    cases moved
  | ok origin =>
    cases found : tree.target destination with
    | error problem =>
      rw [sourceFound, found] at moved
      cases moved
    | ok place =>
      obtain ⟨rfl, -, -, -⟩ := target_eq_ok sourceSplit sourceLevel sourceFound
      obtain ⟨rfl, -, -, short⟩ := target_eq_ok split level found
      rw [sourceFound, found] at moved
      dsimp only at moved
      rw [standing] at moved
      refine ⟨short, ?_⟩
      -- A file at the destination is replaced as if nothing stood there.
      cases occupied : tree.entry? destination.parts with
      | none =>
        simp only [occupied, distinct, if_false] at moved
        cases moved
        exact ⟨rfl, by simp⟩
      | some entry =>
        cases entry with
        | directory => simp [occupied] at moved
        | file old =>
          simp only [occupied, distinct, if_false] at moved
          cases moved
          exact ⟨rfl, by simp⟩

/-- Whether the second place stands above, at or below the first. -/
def around (place other : List String) : Bool :=
  other.isPrefixOf place || place.isPrefixOf other

/-- A place stands around another if one of them is above the other or both are the same. -/
theorem around_iff {place next : List String} :
    around place next = true ↔ next <+: place ∨ place <+: next := by
  rw [around, Bool.or_eq_true, List.isPrefixOf_iff_prefix, List.isPrefixOf_iff_prefix]

/-- Trees with the same entries around a place agree along all paths that pass it. -/
theorem Keeps.sameAlong {place parts : List String} (kept : Keeps (around place) tree other)
    (passes : place <+: parts) : SameAlong tree other parts := by
  intro front inside
  -- The place and what is passed lie on one path, so one of them leads to the other.
  exact kept.entry?_eq (around_iff.mpr (List.prefix_or_prefix_of_prefix inside passes))

/-- Trees with the same entries on the way to a place agree along it. -/
theorem Keeps.along {parts : List String} (kept : Keeps (·.isPrefixOf parts) tree other) :
    SameAlong tree other parts :=
  fun _ inside => kept.entry?_eq (List.isPrefixOf_iff_prefix.mpr inside)

/-- What is picked from the entries of a kind alone is the same where these are kept. -/
theorem Keeps.filterMap_eq {α : Type} (kept : Keeps kind tree other)
    {pick : List String × FileEntry → Option α}
    (dropped : ∀ entry, kind entry.1 = false → pick entry = none) :
    other.entries.filterMap pick = tree.entries.filterMap pick := by
  -- What is picked can be picked from the filtered entries, as all others give nothing.
  have picked : (fun entry => if kind entry.1 then pick entry else none) = pick := by
    funext entry
    cases here : kind entry.1 with
    | true => rfl
    | false => exact (dropped entry here).symm
  have listed : ∀ tree : FileTree,
      tree.entries.filterMap pick = (tree.entriesAt kind).filterMap pick := by
    intro tree
    rw [entriesAt, List.filterMap_filter, picked]
  rw [listed other, listed tree, kept]

/-- What stands below a directory is known from the entries around it. -/
theorem Keeps.below_eq {directory : Path} (kept : Keeps (around directory.parts) tree other)
    (wanted : String → Bool) : other.below directory wanted = tree.below directory wanted := by
  unfold below
  rw [kept.filterMap_eq]
  -- Nothing is picked from entries that do not lie around the directory.
  rintro ⟨place, entry⟩ apart
  rw [around, Bool.or_eq_false_iff] at apart
  simp only [apart.2, Bool.false_and, Bool.false_eq_true, if_false]

/-- The path of a place strictly below a directory, if its name is wanted. -/
def pathBelow (directory : Path) (wanted : String → Bool) (place : List String) : Option Path :=
  if directory.parts.isPrefixOf place && directory.parts.length < place.length &&
      wanted (place.getLast?.getD "") then
    some ⟨directory.anchor, place⟩
  else none

/-- What is found below a directory are the sorted paths of the listed places. -/
theorem below_eq_sort (tree : FileTree) (directory : Path) (wanted : String → Bool) :
    tree.below directory wanted =
      Path.sort ((tree.entries.map (·.1)).filterMap (pathBelow directory wanted)) := by
  -- Only the places of the entries are looked at, not what stands there.
  rw [List.filterMap_map]
  rfl

/-- Only the path of a place itself is found for it. -/
theorem pathBelow_eq_some_iff {directory path : Path} {wanted : String → Bool}
    {place : List String} :
    pathBelow directory wanted place = some path ↔
      path = ⟨directory.anchor, place⟩ ∧ directory.parts <+: place ∧
        directory.parts.length < place.length ∧ wanted (place.getLast?.getD "") = true := by
  -- The place is given back under the anchor of the directory if all three conditions hold.
  unfold pathBelow
  split
  · rename_i inside
    simp only [Bool.and_eq_true, List.isPrefixOf_iff_prefix, decide_eq_true_eq] at inside
    simp [inside, eq_comm]
  · rename_i outside
    simp only [Bool.and_eq_true, List.isPrefixOf_iff_prefix, decide_eq_true_eq, not_and] at outside
    constructor
    · intro none
      cases none
    · rintro ⟨-, inside, strictly, isWanted⟩
      exact absurd isWanted (outside ⟨inside, strictly⟩)

/-- Exactly the entries strictly below a directory are found whose name is wanted. -/
theorem mem_below_iff {directory path : Path} {wanted : String → Bool} :
    path ∈ tree.below directory wanted ↔
      path.anchor = directory.anchor ∧ path.parts ∈ tree.entries.map (·.1) ∧
        directory.parts <+: path.parts ∧ directory.parts.length < path.parts.length ∧
        wanted (path.parts.getLast?.getD "") = true := by
  -- Sorting the paths neither adds nor drops one.
  have sorted : path ∈ tree.below directory wanted ↔
      path ∈ (tree.entries.map (·.1)).filterMap (pathBelow directory wanted) := by
    rw [below_eq_sort]
    exact List.mem_mergeSort
  rw [sorted, List.mem_filterMap]
  simp only [pathBelow_eq_some_iff]
  constructor
  · rintro ⟨place, listed, rfl, inside⟩
    exact ⟨rfl, listed, inside⟩
  · rintro ⟨anchored, listed, inside⟩
    exact ⟨path.parts, listed, by rw [← anchored], inside⟩

/-- What is found below a directory has a name that is wanted. -/
theorem wanted_of_mem_below {directory path : Path} {wanted : String → Bool}
    (found : path ∈ tree.below directory wanted) : wanted (path.parts.getLast?.getD "") = true :=
  (mem_below_iff.mp found).2.2.2.2

/-- What stands below a directory is an entry, and its path passes the directory. -/
theorem mem_below {directory path : Path} {wanted : String → Bool}
    (found : path ∈ tree.below directory wanted) :
    path.anchor = directory.anchor ∧ directory.parts <+: path.parts ∧
      ∃ entry ∈ tree.entries, entry.1 = path.parts := by
  -- An entry that is found has been compared with the path of the directory.
  obtain ⟨anchored, listed, inside, -, -⟩ := mem_below_iff.mp found
  exact ⟨anchored, inside, List.mem_map.mp listed⟩

end PermissionNames.FileTree
