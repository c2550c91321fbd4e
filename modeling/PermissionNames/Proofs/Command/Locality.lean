import PermissionNames.Proofs.Command.StoredSources
import PermissionNames.Proofs.FileTree.Agreement

/-! Storing depends only on what stands along the targets and at their temporary files. -/

namespace PermissionNames.Command

open FileTree TreeAction

variable {α β : Type} {kind : List String → Bool}

/-- An action that has the same answer on trees that agree at the places of a kind, and leaves trees that agree there. -/
def IsLocal (kind : List String → Bool) (action : TreeAction α) : Prop :=
  ∀ tree other, AgreeAt kind tree other →
    (action.on other).1 = (action.on tree).1 ∧ AgreeAt kind (action.on tree).2 (action.on other).2

/-- A value is answered whatever the tree is. -/
theorem isLocal_pure (value : α) : IsLocal kind (pure value : TreeAction α) :=
  fun _ _ agree => ⟨rfl, agree⟩

/-- A fault is thrown whatever the tree is. -/
theorem isLocal_throw (fault : FileFault) : IsLocal kind (throw fault : TreeAction α) :=
  fun _ _ agree => ⟨rfl, agree⟩

/-- Local actions one after the other are local. -/
theorem IsLocal.bind {action : TreeAction α} {next : α → TreeAction β}
    (first : IsLocal kind action) (later : ∀ answer, IsLocal kind (next answer)) :
    IsLocal kind (action >>= next) := by
  intro tree other agree
  have middle := first tree other agree
  rw [on_bind, on_bind]
  -- The first action has one answer and leaves trees that agree, on which the next one starts.
  generalize action.on tree = reached, action.on other = otherReached at middle ⊢
  obtain ⟨outcome, reached⟩ := reached
  obtain ⟨otherOutcome, otherReached⟩ := otherReached
  obtain ⟨rfl, agree⟩ := middle
  cases otherOutcome with
  | error fault => exact ⟨rfl, agree⟩
  | ok answer => exact later answer reached otherReached agree

/-- A question is local if it is answered alike. -/
theorem isLocal_ask {question : FileTree → Except FileFault α}
    (same : ∀ tree other, AgreeAt kind tree other → question other = question tree) :
    IsLocal kind (ask question) := by
  -- Asking changes no tree.
  intro tree other agree
  rw [on_ask, on_ask]
  exact ⟨same tree other agree, agree⟩

/-- A change is local if it is made alike. -/
theorem isLocal_change {step : FileTree → Except FileFault FileTree}
    (alike : ∀ tree other, AgreeAt kind tree other → Alike kind (step tree) (step other)) :
    IsLocal kind (change step) := by
  -- Both changes fail with the same fault, or both are made.
  intro tree other agree
  have steps := alike tree other agree
  rw [on_change, on_change]
  generalize step tree = made, step other = otherMade at steps ⊢
  cases steps with
  | failed fault => exact ⟨rfl, agree⟩
  | changed agree => exact ⟨rfl, agree⟩

/-- An attempt is local if it ends alike. -/
theorem isLocal_attempt {step : FileTree → FileTree × Except FileFault Unit}
    (alike : ∀ tree other, AgreeAt kind tree other →
      (step other).2 = (step tree).2 ∧ AgreeAt kind (step tree).1 (step other).1) :
    IsLocal kind (attempt step) := by
  -- The answer and the tree behind it are what the hypothesis speaks of.
  intro tree other agree
  rw [on_attempt, on_attempt]
  exact alike tree other agree

/-- Local actions for the elements of a list are local together. -/
theorem isLocal_mapM {list : List α} {action : α → TreeAction β}
    (each : ∀ element ∈ list, IsLocal kind (action element)) : IsLocal kind (list.mapM action) := by
  -- The first action is local, and the others by induction.
  induction list with
  | nil => exact isLocal_pure []
  | cons first rest ih =>
    rw [List.mapM_cons]
    refine (each first List.mem_cons_self).bind fun answer => ?_
    refine (ih fun element member => each element (List.mem_cons_of_mem first member)).bind ?_
    exact fun answers => isLocal_pure (answer :: answers)

/-- Storing at a target looks only at places of a kind: those along the target, and the temporary file. -/
structure LooksAt (kind : List String → Bool) (target : Path) : Prop where
  along : Stays kind target.parts
  beside : kind (temporary target).parts = true

/-- The way to a temporary file is that to its target, apart from the file itself. -/
theorem LooksAt.temporary {target : Path} (looks : LooksAt kind target) (settled : Settled target) :
    Stays kind (temporary target).parts := by
  -- A place on the way is the file itself, or it is on the way to the target.
  obtain ⟨⟨front, last, split⟩, -⟩ := settled
  intro place inside
  rw [parts_temporary split] at inside
  rcases List.prefix_concat_iff.mp inside with whole | above
  · rw [whole, ← parts_temporary split]
    exact looks.beside
  · refine looks.along place (above.trans ?_)
    rw [split]
    exact List.prefix_append front [last]

/-- Looking whether a target holds a text is local. -/
theorem isLocal_holds {target : Path} (stays : Stays kind target.parts)
    (level : ".." ∉ target.parts) (text : String) : IsLocal kind (holds target text) := by
  -- First the target is looked up, then its text is read if it is a file.
  unfold holds
  refine (isLocal_ask fun tree other agree => ?_).bind fun there => ?_
  · exact (agree.sameAlong stays).exists?_eq level
  · split
    · refine (isLocal_ask fun tree other agree => ?_).bind fun found => isLocal_pure _
      exact (agree.sameAlong stays).readText_eq level
    · exact isLocal_pure false

/-- Replacing what stands at a target is local to the places that storing looks at. -/
theorem isLocal_replaceText {target : Path} (settled : Settled target)
    (looks : LooksAt kind target) (text : String) (isEncodable : Bool) :
    IsLocal kind (replaceText target text isEncodable) := by
  have beside := looks.temporary settled
  obtain ⟨⟨front, last, split⟩, level⟩ := settled
  have besideLevel := level_temporary split level
  -- The temporary file is filled with the text, or with nothing.
  have filled : ∀ bytes, IsLocal kind (change (·.writeFile (temporary target) bytes)) :=
    fun bytes => isLocal_change fun tree other agree => agree.writeFile beside besideLevel bytes
  unfold replaceText
  split
  · refine (filled _).bind fun _ =>
      (isLocal_change fun tree other agree => ?_).bind fun _ => isLocal_pure Storage.written
    exact agree.moveFile beside besideLevel looks.along level
  · exact (filled []).bind fun _ => isLocal_throw .unencodable

/-- Storing a text is local to the places that it looks at. -/
theorem isLocal_storeText {target : Path} (settled : Settled target) (looks : LooksAt kind target)
    (text : String) (isEncodable : Bool) : IsLocal kind (storeText target text isEncodable) := by
  have level := settled.level
  have above : target.parent.parts <+: target.parts := List.dropLast_prefix target.parts
  have aboveLevel : ".." ∉ target.parent.parts := fun member => level (above.subset member)
  unfold storeText
  refine (isLocal_holds looks.along level text).bind fun there => ?_
  split
  · exact isLocal_pure Storage.unchanged
  · -- The directories are made along the target.
    refine (isLocal_attempt fun tree other agree => ?_).bind fun _ =>
      isLocal_replaceText settled looks text isEncodable
    exact agree.makeDirectories (looks.along.above above) aboveLevel

/-- Storing sources is local to the places that storing each of them looks at. -/
theorem isLocal_storeAll {output : Path} {sources : List GeneratedSource}
    (settled : ∀ source ∈ sources, Settled (targetOf output source))
    (looks : ∀ source ∈ sources, LooksAt kind (targetOf output source)) :
    IsLocal kind (storeAll output sources) :=
  -- Storing all is storing one after another.
  isLocal_mapM fun source member =>
    isLocal_storeText (settled source member) (looks source member) source.text source.isEncodable

end PermissionNames.Command
