import PermissionNames.Command.Storing
import PermissionNames.Proofs.FileTree

/-! Storing a text: it ends in one of a few ways, each of which leaves its target whole and all else as it was. -/

namespace PermissionNames.Command

variable {α β : Type} {tree after : FileTree}

namespace TreeAction

/-- What an action answers on a file tree, and the tree that it leaves. -/
def on (action : TreeAction α) (tree : FileTree) : Except FileFault α × FileTree :=
  (action.run).run tree

/-- A value is answered without a change. -/
theorem on_pure (value : α) : (pure value : TreeAction α).on tree = (.ok value, tree) :=
  rfl

/-- An action after another one starts from what that one answered and left, unless it failed. -/
theorem on_bind (action : TreeAction α) (next : α → TreeAction β) :
    (action >>= next).on tree =
      match action.on tree with
      | (.ok answer, middle) => (next answer).on middle
      | (.error fault, middle) => (.error fault, middle) := by
  -- The action is run first, and what follows depends on its outcome alone.
  show (ExceptT.bindCont next (action.on tree).1).run (action.on tree).2 = _
  obtain ⟨outcome, middle⟩ := action.on tree
  cases outcome <;> rfl

/-- A question leaves the tree as it was. -/
theorem on_ask (question : FileTree → Except FileFault α) :
    (ask question).on tree = (question tree, tree) := by
  -- Asking reads the tree and then only passes on what the question gives.
  have read : (get : TreeAction FileTree).on tree = (.ok tree, tree) := rfl
  rw [ask, on_bind, read]
  dsimp only
  cases question tree <;> rfl

/-- A change happens, or it fails and leaves the tree as it was. -/
theorem on_change (step : FileTree → Except FileFault FileTree) :
    (change step).on tree =
      match step tree with
      | .ok next => (.ok (), next)
      | .error fault => (.error fault, tree) := by
  -- The change is asked for first, and set only if it does not fail.
  rw [change, on_bind, on_ask]
  cases step tree <;> rfl

/-- An attempt leaves what it made, whatever its outcome. -/
theorem on_attempt (step : FileTree → FileTree × Except FileFault Unit) :
    (attempt step).on tree = ((step tree).2, (step tree).1) := by
  -- The tree is set before the outcome is looked at.
  have read : (get : TreeAction FileTree).on tree = (.ok tree, tree) := rfl
  have written : ∀ next, (set next : TreeAction Unit).on tree = (.ok (), next) := fun _ => rfl
  rw [attempt, on_bind, read]
  dsimp only
  rw [on_bind, written]
  obtain ⟨next, outcome⟩ := step tree
  cases outcome <;> rfl

end TreeAction

open TreeAction

/-- Whether a file holds a text is told by looking it up and then by reading it, and nothing is changed. -/
theorem on_holds_eq (target : Path) (text : String) :
    (holds target text).on tree =
      (match tree.exists? target with
        | .error fault => .error fault
        | .ok false => .ok false
        | .ok true => (tree.readText target).map (· == text.toList), tree) := by
  rw [holds, on_bind, on_ask]
  cases tree.exists? target with
  | error fault => rfl
  | ok present =>
    cases present with
    | false => rfl
    | true =>
      -- Only what stands there is read.
      dsimp only
      rw [if_pos rfl, on_bind, on_ask]
      cases tree.readText target <;> rfl

/-- A file holds a text if that text is read from it. -/
theorem on_holds {target : Path} {text : String} (read : tree.readText target = .ok text.toList) :
    (holds target text).on tree = (.ok true, tree) := by
  -- A text that can be read is read from a file, which exists.
  obtain ⟨bytes, raw, file, -, -⟩ := FileTree.readText_eq_ok_iff.mp read
  rw [on_holds_eq, file.exists?_eq, read]
  simp [Except.map]

/-- A text that a file is found to hold is read from it, and looking changes nothing. -/
theorem on_holds_cases {target : Path} {text : String} {answer : Except FileFault Bool}
    (found : (holds target text).on tree = (answer, after)) :
    after = tree ∧ (answer = .ok true → tree.readText target = .ok text.toList) := by
  rw [on_holds_eq, Prod.mk.injEq] at found
  obtain ⟨rfl, rfl⟩ := found
  refine ⟨rfl, fun yes => ?_⟩
  -- Nothing is read where nothing stands.
  split at yes
  · cases yes
  · cases yes
  · cases read : tree.readText target with
    | error fault =>
      rw [read] at yes
      cases yes
    | ok held =>
      rw [read] at yes
      have same : (held == text.toList) = true := Except.ok.inj yes
      rw [beq_iff_eq.mp same]

/-- A text that is there is not stored again, if it can be encoded. -/
theorem on_storeText {target : Path} {text : String}
    (read : tree.readText target = .ok text.toList) :
    (storeText target text true).on tree = (.ok .unchanged, tree) := by
  -- What holds the text already is neither prepared nor filled.
  rw [storeText, on_bind, on_holds read]
  rfl

/-- What storing a text can end in, and the tree that it leaves. -/
inductive StoreStep (target : Path) (text : String) (isEncodable : Bool) (tree : FileTree) :
    Except FileFault Storage → FileTree → Prop
  /-- The text is there. -/
  | unchanged (encodable : isEncodable = true) (read : tree.readText target = .ok text.toList) :
    StoreStep target text isEncodable tree (.ok .unchanged) tree
  /-- What is there cannot be read. -/
  | unreadable (fault : FileFault) : StoreStep target text isEncodable tree (.error fault) tree
  /-- Not all directories can be made, or the temporary file cannot be opened. -/
  | prepared (fault : FileFault) :
    StoreStep target text isEncodable tree (.error fault)
      (tree.makeDirectories target.parent).1
  /-- The temporary file is filled in vain: the text cannot be encoded, or what is there cannot be replaced. -/
  | filled (fault : FileFault) {bytes : List UInt8} {full : FileTree}
    (filled : (tree.makeDirectories target.parent).1.writeFile (temporary target) bytes =
      .ok full) :
    StoreStep target text isEncodable tree (.error fault) full
  /-- The temporary file has replaced what was there. -/
  | written {full after : FileTree} (encodable : isEncodable = true)
    (filled : (tree.makeDirectories target.parent).1.writeFile (temporary target)
      (Utf8.encode text.toList) = .ok full)
    (moved : full.moveFile (temporary target) target = .ok after) :
    StoreStep target text isEncodable tree (.ok .written) after

/-- Replacing what stands at a target, once its directories are made, is the end of storing a text. -/
theorem storeStep_of_replaceText {target : Path} {text : String} {isEncodable : Bool}
    {outcome : Except FileFault Storage}
    (done : (replaceText target text isEncodable).on (tree.makeDirectories target.parent).1 =
      (outcome, after)) : StoreStep target text isEncodable tree outcome after := by
  unfold replaceText at done
  cases isEncodable with
  | false =>
    -- The temporary file is left empty.
    rw [if_neg (by simp), on_bind, on_change] at done
    cases filled : (tree.makeDirectories target.parent).1.writeFile (temporary target) [] with
    | error fault =>
      rw [filled] at done
      cases done
      exact .prepared fault
    | ok full =>
      rw [filled] at done
      cases done
      exact .filled .unencodable filled
  | true =>
    -- Temporary file and move follow each other, the second after a success of the first only.
    rw [if_pos rfl, on_bind, on_change] at done
    cases filled : (tree.makeDirectories target.parent).1.writeFile (temporary target)
        (Utf8.encode text.toList) with
    | error fault =>
      rw [filled] at done
      cases done
      exact .prepared fault
    | ok full =>
      rw [filled] at done
      dsimp only at done
      rw [on_bind, on_change] at done
      cases moved : full.moveFile (temporary target) target with
      | error fault =>
        rw [moved] at done
        cases done
        exact .filled fault filled
      | ok replaced =>
        rw [moved] at done
        cases done
        exact .written rfl filled moved

/-- Storing a text ends in one of these ways. -/
theorem storeStep_of_on {target : Path} {text : String} {isEncodable : Bool}
    {outcome : Except FileFault Storage}
    (done : (storeText target text isEncodable).on tree = (outcome, after)) :
    StoreStep target text isEncodable tree outcome after := by
  rw [storeText, on_bind] at done
  cases looked : (holds target text).on tree with
  | mk found middle =>
    -- Looking has changed nothing, so the writing starts from the same tree.
    obtain ⟨same, held⟩ := on_holds_cases looked
    subst same
    rw [looked] at done
    cases found with
    | error fault =>
      cases done
      exact .unreadable fault
    | ok there =>
      dsimp only at done
      split at done
      · rename_i kept
        obtain ⟨rfl, encodable⟩ := Bool.and_eq_true_iff.mp kept
        rw [on_pure] at done
        cases done
        exact .unchanged encodable (held rfl)
      · rw [on_bind, on_attempt] at done
        cases made : (middle.makeDirectories target.parent).2 with
        | error fault =>
          rw [made] at done
          cases done
          exact .prepared fault
        | ok nothing =>
          rw [made] at done
          exact storeStep_of_replaceText done

/-- Only a text that can be encoded is stored. -/
theorem isEncodable_of_storeText {target : Path} {text : String} {isEncodable : Bool}
    {storage : Storage}
    (done : (storeText target text isEncodable).on tree = (.ok storage, after)) :
    isEncodable = true := by
  -- Of all endings only the two that succeed give a storage, and both need the encoding.
  cases storeStep_of_on done with
  | unchanged encodable | written encodable => exact encodable

section Target

variable {target : Path} {front : List String} {last : String} {isEncodable : Bool}

/-- The name of a temporary file is another one than that of its target. -/
theorem append_ne_self (name : String) : name ++ ".tmp" ≠ name := by
  intro same
  -- The two names differ in length.
  have lengths := congrArg String.length same
  have four : ".tmp".length = 4 := by decide
  rw [String.length_append] at lengths
  omega

/-- The temporary file stands beside its target. -/
theorem parts_temporary (split : target.parts = front ++ [last]) :
    (temporary target).parts = front ++ [last ++ ".tmp"] := by
  simp [temporary, Path.withName, Path.name, split]

/-- A temporary file stands at another place than its target. -/
theorem parts_temporary_ne (split : target.parts = front ++ [last]) :
    (temporary target).parts ≠ target.parts := by
  -- The name of the temporary file goes on where that of the target ends.
  rw [parts_temporary split, split]
  simp [append_ne_self last]

/-- The name of a temporary file is no climb. -/
theorem level_temporary (split : target.parts = front ++ [last]) (level : ".." ∉ target.parts) :
    ".." ∉ (temporary target).parts := by
  rw [parts_temporary split]
  rw [split] at level
  simp only [List.mem_append, List.mem_singleton, not_or] at level ⊢
  refine ⟨level.1, ?_⟩
  intro same
  -- The ending alone is longer than a pair of periods.
  have lengths := congrArg String.length same
  rw [String.length_append] at lengths
  have two : "..".length = 2 := by decide
  have four : ".tmp".length = 4 := by decide
  omega

/-- The path of a temporary file is that of its target with an ending. -/
theorem toString_temporary (split : target.parts = front ++ [last]) :
    (temporary target).toString = target.toString ++ ".tmp" := by
  -- The ending is added to the last component, and so to the joined text.
  have joined : "/".intercalate (front ++ [last ++ ".tmp"]) =
      "/".intercalate (front ++ [last]) ++ ".tmp" := by
    by_cases none : front = []
    · simp [none]
    · rw [String.intercalate_append_of_ne_nil none (by simp),
        String.intercalate_append_of_ne_nil none (by simp)]
      simp [String.append_assoc]
  have anchored : (temporary target).anchor = target.anchor := rfl
  unfold Path.toString
  rw [parts_temporary split, split, anchored, joined]
  simp [String.append_assoc]

/-- A target can be opened if its temporary file can, whose path goes on from that of the target. -/
theorem openable_of_temporary (split : target.parts = front ++ [last])
    (openable : FileTree.Openable (temporary target)) : FileTree.Openable target := by
  -- Whatever is wrong with the path of the target is wrong with a longer one as well.
  obtain ⟨clean, fits⟩ := openable
  rw [toString_temporary split] at clean
  rw [isOversized, toString_temporary split, String.utf8ByteSize_append] at fits
  constructor
  · simp only [holdsNull, String.toList_append, List.contains_eq_mem, List.mem_append,
      decide_eq_false_iff_not, not_or] at clean ⊢
    exact clean.1
  · simp only [isOversized, gt_iff_lt, decide_eq_false_iff_not] at fits ⊢
    omega

/-- What is left when a temporary file has been written and has replaced its target. -/
structure Replaced (target : Path) (front : List String) (last : String) (bytes : List UInt8)
    (prepared after : FileTree) : Prop where
  openable : FileTree.Openable (temporary target)
  walked : prepared.walk [] front = .ok front
  directory : prepared.entry? front = some .directory
  short : last.utf8ByteSize ≤ longestName
  /-- The temporary file is put and taken away again, and the target is put. -/
  tree_eq : after = ((prepared.put (temporary target).parts (.file bytes)).remove
    (temporary target).parts).put target.parts (.file bytes)

/-- Writing the temporary file and moving it replaces the target. -/
theorem replaced_of_moved {prepared full : FileTree} {bytes : List UInt8}
    (split : target.parts = front ++ [last]) (level : ".." ∉ target.parts)
    (written : prepared.writeFile (temporary target) bytes = .ok full)
    (moved : full.moveFile (temporary target) target = .ok after) :
    Replaced target front last bytes prepared after := by
  have besideLevel := level_temporary split level
  have besideSplit := parts_temporary split
  -- Writing tells the directory to be there, and moving tells the name to be short enough.
  obtain ⟨openable, walked, directory, filled, -⟩ :=
    FileTree.writeFile_eq_ok besideSplit besideLevel written
  have beside : (temporary target).parts ≠ [] := by simp [besideSplit]
  have standing : full.entry? (temporary target).parts = some (.file bytes) := by
    rw [filled, FileTree.entry?_put_self beside]
  obtain ⟨short, replaced, -⟩ := FileTree.moveFile_eq_ok besideSplit split besideLevel level
    (append_ne_self last) standing moved
  exact ⟨openable, walked, directory, short, by rw [replaced, filled]⟩

/-- Replacing a target keeps all entries but its own and those at and below the temporary file. -/
theorem Replaced.keeps {bytes : List UInt8} {prepared : FileTree} {kind : List String → Bool}
    (replaced : Replaced target front last bytes prepared after)
    (notTarget : kind target.parts = false)
    (notTemporary : ∀ below, (temporary target).parts <+: below → kind below = false) :
    FileTree.Keeps kind prepared after := by
  -- The three changes are made one after the other, and each of them keeps the kind.
  rw [replaced.tree_eq]
  exact ((FileTree.keeps_put (notTemporary _ (List.prefix_refl _)) _).trans
    (FileTree.keeps_remove notTemporary)).trans (FileTree.keeps_put notTarget _)

/-- Storing below a path stays clear of a kind of places: neither the path nor the temporary file is one or stands above one, and the directories that are, are there. -/
structure Clears (kind : List String → Bool) (tree : FileTree) (target : Path) : Prop where
  notTarget : kind target.parts = false
  notTemporary : ∀ below, (temporary target).parts <+: below → kind below = false
  isMade : ∀ place, place <+: target.parts.dropLast → kind place = true →
    (tree.entry? place).isSome

/-- What is clear of a kind of places stays so while their entries are kept. -/
theorem Clears.of_keeps {kind : List String → Bool} (clear : Clears kind tree target)
    (kept : FileTree.Keeps kind tree after) : Clears kind after target where
  notTarget := clear.notTarget
  notTemporary := clear.notTemporary
  isMade place inside listed := by
  -- Only what is made on the way depends on the tree, and the entries of the kind are as before.
    rw [kept.entry?_eq listed]
    exact clear.isMade place inside listed

/-- Making the directories of a target keeps all entries of a kind if those of the kind among them are there. -/
theorem keeps_prepared {kind : List String → Bool} (level : ".." ∉ target.parts)
    (isMade : ∀ place, place <+: target.parts.dropLast → kind place = true →
      (tree.entry? place).isSome) :
    FileTree.Keeps kind tree (tree.makeDirectories target.parent).1 := by
  have parent : target.parent.parts = target.parts.dropLast := rfl
  have parentLevel : ".." ∉ target.parent.parts := by
    rw [parent]
    exact fun member => level ((List.dropLast_sublist _).subset member)
  refine FileTree.keeps_makeDirectories parentLevel ?_
  -- Directories are only made where nothing stands, which is no place of the kind.
  intro place inside vacant
  cases listed : kind place with
  | false => rfl
  | true =>
    have standing := isMade place inside listed
    rw [vacant] at standing
    cases standing

/-- Whatever storing a text ends in, it keeps all entries of a kind that it stays clear of. -/
theorem keeps_storeText {kind : List String → Bool} {text : String}
    {outcome : Except FileFault Storage} (split : target.parts = front ++ [last])
    (level : ".." ∉ target.parts)
    (done : (storeText target text isEncodable).on tree = (outcome, after))
    (clear : Clears kind tree target) : FileTree.Keeps kind tree after := by
  -- In every ending the entries that change are directories on the way, the temporary file and the
  -- target.
  have made := keeps_prepared level clear.isMade
  cases storeStep_of_on done with
  | unchanged _ read => exact .refl kind tree
  | unreadable fault => exact .refl kind tree
  | prepared fault => exact made
  | filled fault filled =>
    obtain ⟨-, -, -, put, -⟩ :=
      FileTree.writeFile_eq_ok (parts_temporary split) (level_temporary split level) filled
    rw [put]
    exact made.trans (FileTree.keeps_put (clear.notTemporary _ (List.prefix_refl _)) _)
  | written _ filled moved =>
    exact made.trans
      ((replaced_of_moved split level filled moved).keeps clear.notTarget clear.notTemporary)

/-- A file that is neither the target nor the temporary file stays as it is, whatever storing a text ends in. -/
theorem hasFile_storeText {path : Path} {bytes : List UInt8} {text : String}
    {outcome : Except FileFault Storage} (split : target.parts = front ++ [last])
    (level : ".." ∉ target.parts) (pathLevel : ".." ∉ path.parts)
    (notTarget : path.parts ≠ target.parts) (notTemporary : path.parts ≠ (temporary target).parts)
    (file : tree.HasFile path bytes)
    (done : (storeText target text isEncodable).on tree = (outcome, after)) :
    after.HasFile path bytes := by
  -- The path leads through directories, and neither of the two files that are put can be one of them.
  have stays : ∀ {first second : FileTree}, first.HasFile path bytes →
      FileTree.Keeps (·.isPrefixOf path.parts) first second → second.HasFile path bytes := by
    intro first second standing kept
    refine ⟨standing.openable, ?_⟩
    rw [kept.along.status_eq pathLevel, standing.status]
  have prepared : FileTree.HasFile (tree.makeDirectories target.parent).1 path bytes := by
    refine stays file (keeps_prepared level ?_)
    intro place _ listed
    exact (FileTree.entry?_of_status pathLevel file.status).2 place
      (List.isPrefixOf_iff_prefix.mp listed)
  have besideLevel := level_temporary split level
  -- So the temporary file is neither on the way nor above it.
  have beside : ∀ {content : List UInt8} {full : FileTree},
      (tree.makeDirectories target.parent).1.writeFile (temporary target) content = .ok full →
      ∀ below, (temporary target).parts <+: below → below.isPrefixOf path.parts = false := by
    intro content full filled below deeper
    obtain ⟨-, -, -, -, free⟩ := FileTree.writeFile_eq_ok (parts_temporary split) besideLevel filled
    refine Bool.eq_false_iff.mpr fun inside => ?_
    exact FileTree.not_prefix_of_status pathLevel prepared.status notTemporary free
      (deeper.trans (List.isPrefixOf_iff_prefix.mp inside))
  have besideFile : ∀ {content : List UInt8} {full : FileTree},
      (tree.makeDirectories target.parent).1.writeFile (temporary target) content = .ok full →
      full.HasFile path bytes := by
    intro content full filled
    obtain ⟨-, -, -, put, -⟩ := FileTree.writeFile_eq_ok (parts_temporary split) besideLevel filled
    rw [put]
    refine stays prepared (FileTree.keeps_put ?_ _)
    exact beside filled _ (List.prefix_refl _)
  cases storeStep_of_on done with
  | unchanged _ read => exact file
  | unreadable fault => exact file
  | prepared fault => exact prepared
  | filled fault filled => exact besideFile filled
  | @written full _ _ filled moved =>
    obtain ⟨-, -, -, put, -⟩ := FileTree.writeFile_eq_ok (parts_temporary split) besideLevel filled
    have standing : full.entry? (temporary target).parts =
        some (.file (Utf8.encode text.toList)) := by
      rw [put, FileTree.entry?_put_self (by simp [parts_temporary split])]
    obtain ⟨-, -, free⟩ := FileTree.moveFile_eq_ok (parts_temporary split) split besideLevel level
      (append_ne_self last) standing moved
    refine stays prepared ((replaced_of_moved split level filled moved).keeps ?_ (beside filled))
    refine Bool.eq_false_iff.mpr fun inside => ?_
    exact FileTree.not_prefix_of_status pathLevel (besideFile filled).status notTarget free
      (List.isPrefixOf_iff_prefix.mp inside)

/-- A target that was replaced is a file with the bytes that were written. -/
theorem Replaced.hasFile {bytes : List UInt8} {prepared : FileTree}
    (split : target.parts = front ++ [last]) (level : ".." ∉ target.parts)
    (replaced : Replaced target front last bytes prepared after) :
    after.HasFile target bytes := by
  -- The directories above the target are as they were when the temporary file was written.
  have same : ∀ place, place <+: front → after.entry? place = prepared.entry? place := by
    intro place inside
    have shorter : place.length ≤ front.length := inside.length_le
    -- The target and what is below the temporary file lie deeper than its directory.
    have differs : ∀ deeper : List String, front.length < deeper.length →
        (deeper == place) = false := by
      intro deeper longer
      refine beq_eq_false_iff_ne.mpr ?_
      rintro rfl
      omega
    have kept : FileTree.Keeps (fun other => other == place) prepared after := by
      refine replaced.keeps (differs target.parts (by simp [split])) ?_
      intro below deeper
      have longer := deeper.length_le
      rw [parts_temporary split, List.length_append, List.length_singleton] at longer
      exact differs below (by omega)
    exact kept.entry?_eq (by simp)
  have frontLevel : ".." ∉ front := fun member => level (by simp [split, member])
  have rewalked : after.walk [] front = .ok front := by
    rw [← replaced.walked]
    exact FileTree.walk_congr frontLevel fun place inside => by simpa using same place inside
  refine ⟨openable_of_temporary split replaced.openable, ?_⟩
  -- The walk to the directory is the same, and the file is found in it.
  · refine FileTree.status_eq_ok split level rewalked ?_ replaced.short ?_
    · rw [same front (List.prefix_refl _), replaced.directory]
    · rw [replaced.tree_eq, FileTree.entry?_put_self (by simp [split])]

/-- Nothing is left of the temporary file that has replaced a target. -/
theorem Replaced.entry?_temporary {bytes : List UInt8} {prepared : FileTree}
    (split : target.parts = front ++ [last])
    (replaced : Replaced target front last bytes prepared after) :
    after.entry? (temporary target).parts = none := by
  -- It is taken away before the target is put, which is another place.
  have kept : ∀ emptied : FileTree, FileTree.Keeps (· == (temporary target).parts) emptied
      (emptied.put target.parts (.file bytes)) := by
    intro emptied
    refine FileTree.keeps_put ?_ _
    exact beq_eq_false_iff_ne.mpr (Ne.symm (parts_temporary_ne split))
  rw [replaced.tree_eq, (kept _).entry?_eq (by simp),
    FileTree.entry?_remove_self (by simp [parts_temporary split])]

/-- What has become of a target whose text was stored.
It is a file of that text and nothing is left of its temporary file, or the text is read from it and both are as they were. -/
def InPlace (target : Path) (text : String) (tree after : FileTree) : Storage → Prop
  | .written => after.HasFile target (Utf8.encode text.toList) ∧
      after.entry? (temporary target).parts = none
  | .unchanged => after.readText target = .ok text.toList ∧
      after.entry? target.parts = tree.entry? target.parts ∧
      after.entry? (temporary target).parts = tree.entry? (temporary target).parts

/-- A text that was stored is in place. -/
theorem inPlace_of_storeText {text : String} {storage : Storage}
    (split : target.parts = front ++ [last]) (level : ".." ∉ target.parts)
    (done : (storeText target text isEncodable).on tree = (.ok storage, after)) :
    InPlace target text tree after storage := by
  -- Only two endings succeed: the text was there, or it was moved to its target.
  cases storeStep_of_on done with
  | unchanged _ read => exact ⟨read, rfl, rfl⟩
  | written _ filled moved =>
    have replaced := replaced_of_moved split level filled moved
    exact ⟨replaced.hasFile split level, replaced.entry?_temporary split⟩

/-- A text in place stays so while no file is lost and nothing changes at its temporary file. -/
theorem InPlace.stays {text : String} {storage : Storage} {later : FileTree}
    (inPlace : InPlace target text tree after storage)
    (files : ∀ bytes, after.HasFile target bytes → later.HasFile target bytes)
    (same : later.entry? target.parts = after.entry? target.parts)
    (beside : later.entry? (temporary target).parts = after.entry? (temporary target).parts) :
    InPlace target text tree later storage := by
  -- A file that was written is still there; one that was read is read from the same bytes.
  cases storage with
  | written =>
    obtain ⟨file, gone⟩ := inPlace
    exact ⟨files _ file, by rw [beside, gone]⟩
  | unchanged =>
    obtain ⟨read, kept, alsoKept⟩ := inPlace
    obtain ⟨bytes, raw, file, decoded, unified⟩ := FileTree.readText_eq_ok_iff.mp read
    have again := FileTree.readText_eq_ok_iff.mpr ⟨bytes, raw, files bytes file, decoded, unified⟩
    exact ⟨again, by rw [same, kept], by rw [beside, alsoKept]⟩

/-- A text that is in place for one tree is so for an earlier one with the same at its target and its temporary file. -/
theorem InPlace.of_same {text : String} {storage : Storage} {earlier : FileTree}
    (inPlace : InPlace target text tree after storage)
    (same : tree.entry? target.parts = earlier.entry? target.parts)
    (beside : tree.entry? (temporary target).parts = earlier.entry? (temporary target).parts) :
    InPlace target text earlier after storage := by
  -- What was written says nothing about the earlier tree, and what was left alone is the same
  -- there.
  cases storage with
  | written => exact inPlace
  | unchanged =>
    obtain ⟨read, kept, alsoKept⟩ := inPlace
    exact ⟨read, by rw [kept, same], by rw [alsoKept, beside]⟩

/-- A text in place is read from its target, unless a carriage return in it is taken for a newline. -/
theorem InPlace.readText_eq {text : String} {storage : Storage} (plain : '\r' ∉ text.toList)
    (inPlace : InPlace target text tree after storage) :
    after.readText target = .ok text.toList := by
  -- A file that was written holds the bytes of the text, and one that was kept was read as the
  -- text.
  cases storage with
  | written => exact inPlace.1.readText_eq plain
  | unchanged => exact inPlace.1

/-- Storing at a target changes nothing at a place: it is not the target, it lies neither at nor below the temporary file, and it is no directory above them. -/
structure Misses (target : Path) (place : List String) : Prop where
  notTarget : place ≠ target.parts
  notTemporary : ¬ (temporary target).parts <+: place
  notAbove : ¬ place <+: target.parts.dropLast

/-- Storing at a target stays clear of a place that it misses. -/
theorem Misses.clears {place : List String} (misses : Misses target place) (tree : FileTree) :
    Clears (· == place) tree target where
  notTarget := beq_eq_false_iff_ne.mpr (Ne.symm misses.notTarget)
  notTemporary := by
  -- The kind is that of a single place, so everything about it is about that place.
    intro below deeper
    refine beq_eq_false_iff_ne.mpr ?_
    rintro rfl
    exact misses.notTemporary deeper
  isMade := by
    intro front above same
    rw [beq_iff_eq.mp same] at above
    exact absurd above misses.notAbove

/-- A place that storing a text misses stays as it is, whatever that ends in. -/
theorem entry?_storeText {place : List String} {text : String}
    {outcome : Except FileFault Storage} (split : target.parts = front ++ [last])
    (level : ".." ∉ target.parts) (misses : Misses target place)
    (done : (storeText target text isEncodable).on tree = (outcome, after)) :
    after.entry? place = tree.entry? place :=
  (keeps_storeText split level done (misses.clears tree)).entry?_eq (by simp)

/-- Making the directories of a target leaves the target itself as it is. -/
theorem keeps_target_prepared (split : target.parts = front ++ [last])
    (level : ".." ∉ target.parts) :
    FileTree.Keeps (· == target.parts) tree (tree.makeDirectories target.parent).1 := by
  refine keeps_prepared level ?_
  -- The directories above the target have fewer components.
  intro place above same
  have shorter := above.length_le
  rw [beq_iff_eq.mp same, split, List.dropLast_concat, List.length_append,
    List.length_singleton] at shorter
  omega

/-- A target that was written was no directory. -/
theorem entry?_target_of_written {text : String} (split : target.parts = front ++ [last])
    (level : ".." ∉ target.parts)
    (done : (storeText target text isEncodable).on tree = (.ok .written, after)) :
    tree.entry? target.parts ≠ some .directory := by
  have made : FileTree.Keeps (· == target.parts) tree (tree.makeDirectories target.parent).1 :=
    keeps_target_prepared split level
  have besideSplit := parts_temporary split
  have besideLevel := level_temporary split level
  cases storeStep_of_on done with
  | @written full _ _ filled moved =>
    obtain ⟨-, -, -, put, -⟩ := FileTree.writeFile_eq_ok besideSplit besideLevel filled
    have standing : full.entry? (temporary target).parts =
        some (.file (Utf8.encode text.toList)) := by
      rw [put, FileTree.entry?_put_self (by simp [besideSplit])]
    -- Moving has found no directory, and neither the directories nor the temporary file made one.
    obtain ⟨-, -, free⟩ := FileTree.moveFile_eq_ok besideSplit split besideLevel level
      (append_ne_self last) standing moved
    have kept : FileTree.Keeps (· == target.parts) tree full := by
      rw [put]
      refine made.trans (FileTree.keeps_put ?_ _)
      exact beq_eq_false_iff_ne.mpr (parts_temporary_ne split)
    rwa [kept.entry?_eq (by simp)] at free

/-- A target whose text could not be stored stays as it is. -/
theorem entry?_target_of_error {text : String} {fault : FileFault}
    (split : target.parts = front ++ [last]) (level : ".." ∉ target.parts)
    (done : (storeText target text isEncodable).on tree = (.error fault, after)) :
    after.entry? target.parts = tree.entry? target.parts := by
  -- Only directories above the target and its temporary file can have been made by then.
  have made : FileTree.Keeps (· == target.parts) tree (tree.makeDirectories target.parent).1 :=
    keeps_target_prepared split level
  cases storeStep_of_on done with
  | unreadable => rfl
  | prepared => exact made.entry?_eq (by simp)
  | filled _ filled =>
    obtain ⟨-, -, -, put, -⟩ :=
      FileTree.writeFile_eq_ok (parts_temporary split) (level_temporary split level) filled
    rw [put]
    refine (made.trans (FileTree.keeps_put ?_ _)).entry?_eq (by simp)
    exact beq_eq_false_iff_ne.mpr (parts_temporary_ne split)

end Target

end PermissionNames.Command
