import Mathlib.Logic.Relation
import PermissionNames.ModuleName
import PermissionNames.Proofs.Path

/-! The name of a module tells where its file stands below the root, as far as the place is not left out by rule. -/

namespace PermissionNames

namespace Path

/-- An ending with one period, at its start, is the suffix of a name that goes before it. -/
theorem splitSuffix_append {front ending : List Char} (full : front ≠ []) (filled : ending ≠ [])
    (single : '.' ∉ ending) : splitSuffix (front ++ '.' :: ending) = (front, '.' :: ending) := by
  have apart : ∀ c ∈ ending.reverse, decide (c ≠ '.') = true := fun c member =>
    decide_eq_true (ne_of_mem_of_not_mem (List.mem_reverse.mp member) single)
  -- From the end, everything up to the period is taken.
  have taken : (front ++ '.' :: ending).reverse.takeWhile (· ≠ '.') = ending.reverse := by
    rw [List.reverse_append, List.reverse_cons, List.append_assoc,
      List.takeWhile_append_of_pos apart]
    simp
  have rest : ((front ++ '.' :: ending).reverse.drop ending.reverse.length).drop 1 =
      front.reverse := by
    rw [List.reverse_append, List.reverse_cons, List.append_assoc, List.drop_left]
    simp
  have longer : ending.length ≠ (front ++ '.' :: ending).length := by
    simp only [List.length_append, List.length_cons]
    omega
  unfold splitSuffix
  simp only [taken, rest]
  simpa [full, filled] using longer

end Path

namespace ModuleName

/-- Components without a final `__init__`. -/
inductive WithoutInit : List String → List String → Prop
  | dropped (front : List String) : WithoutInit (front ++ ["__init__"]) front
  | kept {parts : List String} (other : ∀ front, parts ≠ front ++ ["__init__"]) :
    WithoutInit parts parts

/-- Components without a leading `src` that has something below it. -/
inductive WithoutSource : List String → List String → Prop
  | dropped {rest : List String} (below : rest ≠ []) : WithoutSource ("src" :: rest) rest
  | kept {parts : List String} (other : ∀ rest, rest ≠ [] → parts ≠ "src" :: rest) :
    WithoutSource parts parts

/-- Components without the final one first, and without the leading one then. -/
def Reduces : List String → List String → Prop :=
  Relation.Comp WithoutInit WithoutSource

/-- The final component is left out by rule. -/
theorem withoutInit_iff {parts kept : List String} :
    WithoutInit parts kept ↔
      (if parts.getLast? = some "__init__" then parts.dropLast else parts) = kept := by
  constructor
  · rintro (front | other)
    · simp
    · -- Components end with what they are put in front of.
      refine if_neg fun last => ?_
      obtain ⟨front, split⟩ := List.getLast?_eq_some_iff.mp last
      exact other front split
  · rintro rfl
    split
    · rename_i last
      obtain ⟨front, rfl⟩ := List.getLast?_eq_some_iff.mp last
      simpa using .dropped front
    · rename_i last
      exact .kept fun front split => last (by simp [split])

/-- The leading component is left out by rule. -/
theorem withoutSource_iff {parts reduced : List String} :
    WithoutSource parts reduced ↔
      (match parts with
        | "src" :: next :: rest => next :: rest
        | parts => parts) = reduced := by
  -- The rule and the match name the same case, with something below.
  constructor
  · rintro (below | other)
    · obtain ⟨next, rest, rfl⟩ := List.exists_cons_of_ne_nil below
      rfl
    · split
      · exact absurd rfl (other _ (List.cons_ne_nil _ _))
      · rfl
  · rintro rfl
    split
    · exact .dropped (List.cons_ne_nil _ _)
    · rename_i other
      refine .kept fun rest below split => ?_
      obtain ⟨next, later, rfl⟩ := List.exists_cons_of_ne_nil below
      exact other next later split

/-- Components are reduced by both rules, one after the other. -/
theorem reduces_iff {parts reduced : List String} :
    Reduces parts reduced ↔ reduce parts = reduced := by
  -- What stands between the rules is determined by the first of them.
  constructor
  · rintro ⟨middle, first, last⟩
    rw [← withoutSource_iff.mp last, ← withoutInit_iff.mp first]
    rfl
  · intro whole
    exact ⟨_, withoutInit_iff.mpr rfl, withoutSource_iff.mpr whole⟩

/-- Nothing is left of a final `__init__` that stands alone, and of nothing else. -/
theorem reduce_eq_nil_iff {parts : List String} (full : parts ≠ []) :
    reduce parts = [] ↔ parts = ["__init__"] := by
  obtain ⟨kept, init, source⟩ := reduces_iff.mpr (rfl : reduce parts = reduce parts)
  constructor
  · intro nothing
    rw [nothing] at source
    -- The rule for the leading component leaves something, so nothing was left for it.
    cases source with
    | dropped below => exact absurd rfl below
    | kept =>
      cases init with
      | dropped => rfl
      | kept => exact absurd rfl full
  · rintro rfl
    decide

/-- The parts of a dotted name; the empty name has none. -/
def parts (name : String) : List String :=
  if name = "" then [] else (Path.splitAt '.' name.toList).map String.ofList

/-- A component of a place that can be told from a dotted name. -/
structure IsPart (part : String) : Prop where
  full : part ≠ ""
  single : '.' ∉ part.toList

instance (part : String) : Decidable (IsPart part) :=
  decidable_of_iff (part ≠ "" ∧ '.' ∉ part.toList)
    ⟨fun ⟨full, single⟩ => ⟨full, single⟩, fun plain => ⟨plain.full, plain.single⟩⟩

/-- Joined parts are empty only if there are none. -/
theorem intercalate_eq_empty_iff {list : List String} (plain : ∀ part ∈ list, IsPart part) :
    ".".intercalate list = "" ↔ list = [] := by
  -- The first part alone is not empty.
  cases list with
  | nil => simp
  | cons first rest =>
    have full : first ≠ "" := (plain first List.mem_cons_self).full
    cases rest <;> simp [String.intercalate_cons_cons, String.append_eq_empty_iff, full]

/-- A dotted name has the parts that it is joined from. -/
theorem parts_intercalate {list : List String} (plain : ∀ part ∈ list, IsPart part) :
    parts (".".intercalate list) = list := by
  -- No part holds a period, so the name is cut where it was joined.
  unfold parts
  split
  · rename_i empty
    exact ((intercalate_eq_empty_iff plain).mp empty).symm
  · rename_i full
    have filled : list.map String.toList ≠ [] := by
      simpa using mt (intercalate_eq_empty_iff plain).mpr full
    have clean : ∀ piece ∈ list.map String.toList, '.' ∉ piece := by
      intro piece member
      obtain ⟨part, listed, rfl⟩ := List.mem_map.mp member
      exact (plain part listed).single
    have period : ".".toList = ['.'] := by simp
    rw [String.toList_intercalate, period, Path.splitAt_intercalate_eq_self filled clean]
    simp

/-- A source file below a root: the directories that lead to it, and its name without the suffix. -/
structure StandsAt (root file directory : Path) (directories : List String) (stem : String) :
    Prop where
  place : (file.resolve directory).parts =
    (root.resolve directory).parts ++ (directories ++ [stem ++ ".py"])
  plain : ∀ part ∈ directories ++ [stem], IsPart part

variable {root file directory : Path} {directories : List String} {stem : String}

/-- The name of the module in a file is joined from what is left of its place. -/
theorem StandsAt.ofFile_eq (stands : StandsAt root file directory directories stem) :
    ofFile root file directory = .ok (".".intercalate (reduce (directories ++ [stem]))) := by
  have below : placeBelow root file directory = ⟨.relative, directories ++ [stem ++ ".py"]⟩ := by
    have relative : (file.resolve directory).relativeTo? (root.resolve directory) =
        some ⟨.relative, directories ++ [stem ++ ".py"]⟩ := by
      have anchored : (file.resolve directory).anchor = (root.resolve directory).anchor := rfl
      simp [Path.relativeTo?, stands.place, anchored]
    rw [placeBelow, relative]
  have named : (placeBelow root file directory).name = stem ++ ".py" := by simp [below, Path.name]
  -- Without its suffix, the file is named by its stem.
  have full : stem.toList ≠ [] := by simpa using (stands.plain stem (by simp)).full
  have cut : (placeBelow root file directory).stem = stem := by
    rw [Path.stem, named, String.toList_append]
    have split := @Path.splitSuffix_append stem.toList ['p', 'y'] full (by simp) (by simp)
    simp [split]
  rw [ofFile, if_neg (by simp [named]), cut, below]
  simp [Path.withName]

/-- What is left of a place can be told from a dotted name. -/
theorem StandsAt.isPart_of_mem_reduce (stands : StandsAt root file directory directories stem) :
    ∀ part ∈ reduce (directories ++ [stem]), IsPart part := by
  -- Both rules drop components and add none.
  obtain ⟨kept, init, source⟩ := reduces_iff.mpr (rfl : reduce (directories ++ [stem]) = _)
  have inKept : ∀ part ∈ kept, part ∈ directories ++ [stem] := by
    generalize directories ++ [stem] = place at init
    cases init with
    | dropped front => exact fun part member => List.mem_append_left _ member
    | kept => exact fun part member => member
  intro part member
  refine stands.plain part (inKept part ?_)
  generalize reduce (directories ++ [stem]) = reduced at source member
  cases source with
  | dropped => exact List.mem_cons_of_mem _ member
  | kept => exact member

/-- A source file below a root has a module name.
Its parts are those of the place of the file, without a final `__init__` and then without a leading `src` above others.
It is empty for the `__init__` of the root alone, and two files share it exactly if the same is left of their places. -/
theorem parts_of_ofFile (stands : StandsAt root file directory directories stem) :
    (∃ name reduced, ofFile root file directory = .ok name ∧
      Reduces (directories ++ [stem]) reduced ∧ parts name = reduced ∧
      (name = "" ↔ directories = [] ∧ stem = "__init__")) ∧
    ∀ {base other place : Path} {others : List String} {last : String},
      StandsAt base other place others last →
      (ofFile root file directory = ofFile base other place ↔
        ∃ reduced, Reduces (directories ++ [stem]) reduced ∧
          Reduces (others ++ [last]) reduced) := by
  have plain := stands.isPart_of_mem_reduce
  constructor
  · refine ⟨_, _, stands.ofFile_eq, reduces_iff.mpr rfl, parts_intercalate plain, ?_⟩
    rw [intercalate_eq_empty_iff plain, reduce_eq_nil_iff (by simp)]
    -- A place of one component has no directories.
    constructor
    · intro alone
      cases directories with
      | nil => simpa using alone
      | cons => simp at alone
    · rintro ⟨rfl, rfl⟩
      rfl
  · intro base other place others last stand
    simp only [stands.ofFile_eq, stand.ofFile_eq, Except.ok.injEq, reduces_iff,
      exists_eq_left']
    constructor
    · -- A name tells the parts that it is joined from.
      intro same
      have told := congrArg parts same
      rw [parts_intercalate plain, parts_intercalate stand.isPart_of_mem_reduce] at told
      exact told.symm
    · intro same
      rw [same]

/-- A package inside a package that is named like the sources has the name of a module that is named so, which stands alone.
It is reached by climbing from a directory beside the root. -/
theorem parts_of_ofFile_sourcesInSources :
    let directory : Path := ⟨.root, ["home", "work"]⟩
    let root := Path.ofString "../project/."
    let package := Path.ofString "../project/src/app/.././src/__init__.py"
    let module := Path.ofString "/home/project/src.py"
    (StandsAt root package directory ["src", "src"] "__init__" ∧
      StandsAt root module directory [] "src") ∧
    (∃ name, ofFile root package directory = .ok name ∧ parts name = ["src"]) ∧
    ofFile root package directory = ofFile root module directory := by
  -- Both modules stand somewhere below the root, and the law compares the two places.
  intro directory root package module
  have stands : StandsAt root package directory ["src", "src"] "__init__" :=
    ⟨by decide, by decide⟩
  have alone : StandsAt root module directory [] "src" := ⟨by decide, by decide⟩
  obtain ⟨⟨name, reduced, named, reduces, told, -⟩, shared⟩ := parts_of_ofFile stands
  refine ⟨⟨stands, alone⟩, ⟨name, named, ?_⟩, ?_⟩
  · rw [told, ← reduces_iff.mp reduces]
    rfl
  · exact (shared alone).mpr ⟨["src"], reduces_iff.mpr rfl, reduces_iff.mpr rfl⟩

end ModuleName

end PermissionNames
