import PermissionNames.Proofs.Text.Casing
import PermissionNames.Proofs.Text.Pieces

/-! Folding the case of a text: it goes character by character, it keeps periods and slashes, and it makes no new ones. -/

namespace PermissionNames

namespace CodePointMap

/-- Whether all characters that a mapping makes lie above a point. -/
def isAbove (map : CodePointMap) (bound : Nat) : Bool :=
  map.runs.all (fun run => run.isValid && bound < run.image) &&
    map.expansions.all fun entry => entry.2.all fun point => bound < (Char.ofNat point).toNat

/-- What such a mapping lists for a character lies above the point. -/
theorem lt_of_isAbove {map : CodePointMap} {bound : Nat} (above : map.isAbove bound) {c d : Char}
    {image : List Char} (found : map.find? c = some image) (member : d ∈ image) :
    bound < d.toNat := by
  simp only [isAbove, Bool.and_eq_true, List.all_eq_true, decide_eq_true_eq] at above
  obtain ⟨runs, expansions⟩ := above
  rcases find?_cases found with ⟨run, listed, point, pointFound, rfl⟩ | ⟨points, listed, rfl⟩
  -- A run gives one character between its first and its last image.
  · obtain ⟨valid, low⟩ := runs run listed
    obtain ⟨first, last⟩ := PointRun.image_bounds pointFound
    rw [List.mem_singleton.mp member,
      toNat_ofNat_of_isValidChar (PointRun.isValidChar_of_isValid valid first last)]
    omega
  · obtain ⟨point, pointListed, rfl⟩ := List.mem_map.mp member
    exact expansions _ listed point pointListed

end CodePointMap

namespace Casing

/-- The last point up to which no character is made by lowering or folding, which is the slash. -/
def slashPoint : Nat := 0x2F

/-- A small form is the character itself, or it consists of characters above the slash. -/
theorem lowerMap_image_cases (c : Char) :
    lowerMap.image c = [c] ∨ ∀ d ∈ lowerMap.image c, slashPoint < d.toNat := by
  -- The table lists no image with a character up to the slash.
  have lowered : lowerMap.isAbove slashPoint := by decide
  rcases lowerMap.image_cases c with ⟨-, same⟩ | listed
  · exact .inl same
  · exact .inr fun d member => CodePointMap.lt_of_isAbove lowered listed member

/-- A folded character is the character itself, or it consists of characters above the slash. -/
theorem foldChar_cases (c : Char) :
    foldChar c = [c] ∨ ∀ d ∈ foldChar c, slashPoint < d.toNat := by
  have folded : foldMap.isAbove slashPoint := by decide
  -- The fold table is looked up first, and then the small forms.
  unfold foldChar
  cases found : foldMap.find? c with
  | some image => exact .inr fun d member => CodePointMap.lt_of_isAbove folded found member
  | none => exact lowerMap_image_cases c

/-- Folding leaves something of every character. -/
theorem foldChar_ne_nil (c : Char) : foldChar c ≠ [] := by
  -- No entry of either table is empty.
  have full : ∀ entry ∈ foldMap.expansions, entry.2 ≠ [] := by decide
  unfold foldChar
  cases found : foldMap.find? c with
  | some image =>
    have same : foldMap.image c = image := by simp [CodePointMap.image, found]
    exact same ▸ CodePointMap.image_ne_nil full c
  | none => exact lowerMap_image_ne_nil c

/-- A character that folding keeps, and that it makes of no other character. -/
structure IsFixed (separator : Char) : Prop where
  kept : foldChar separator = [separator]
  alone : ∀ c, separator ∈ foldChar c → c = separator

/-- A character up to the slash that folding keeps is made of no other character. -/
theorem isFixed_of_kept {separator : Char} (kept : foldChar separator = [separator])
    (low : separator.toNat ≤ slashPoint) : IsFixed separator := by
  -- An image other than the character itself is above the slash, so it does not hold the
  -- separator.
  refine ⟨kept, fun c member => ?_⟩
  rcases foldChar_cases c with same | above
  · rw [same, List.mem_singleton] at member
    exact member.symm
  · have := above separator member
    omega

/-- The period is fixed. -/
theorem isFixed_period : IsFixed '.' :=
  isFixed_of_kept (by decide) (by decide)

/-- The slash is fixed. -/
theorem isFixed_slash : IsFixed '/' :=
  isFixed_of_kept (by decide) (by decide)

/-- Texts are folded one by one. -/
@[simp] theorem fold_append (first second : List Char) :
    fold (first ++ second) = fold first ++ fold second :=
  List.flatMap_append

/-- A folded text is empty only if the text is. -/
@[simp] theorem fold_eq_nil {text : List Char} : fold text = [] ↔ text = [] := by
  -- The first character leaves something.
  cases text with
  | nil => simp [fold]
  | cons c rest => simp [fold, foldChar_ne_nil c]

/-- A fixed character stands in a folded text only if it stands in the text. -/
theorem IsFixed.mem_fold {separator : Char} (fixed : IsFixed separator) {text : List Char} :
    separator ∈ fold text ↔ separator ∈ text := by
  -- Only the separator folds to something that holds the separator.
  rw [fold, List.mem_flatMap]
  constructor
  · rintro ⟨c, member, folded⟩
    exact fixed.alone c folded ▸ member
  · exact fun member => ⟨separator, member, by rw [fixed.kept]; exact List.mem_singleton_self _⟩

/-- Texts that are joined by a fixed character are folded one by one. -/
theorem IsFixed.fold_intercalate {separator : Char} (fixed : IsFixed separator)
    (texts : List (List Char)) :
    fold ([separator].intercalate texts) = [separator].intercalate (texts.map fold) := by
  -- The separator folds to itself between each two texts.
  have kept : fold [separator] = [separator] := by simp [fold, fixed.kept]
  induction texts with
  | nil => rfl
  | cons text later ih =>
    cases later with
    | nil => simp
    | cons next rest =>
      rw [List.intercalate_cons_cons, fold_append, fold_append, kept, ih]
      simp [List.intercalate_cons_cons]

/-- Cutting a folded text at a fixed character gives the folded pieces. -/
theorem IsFixed.splitAt_fold {separator : Char} (fixed : IsFixed separator) (text : List Char) :
    Path.splitAt separator (fold text) = (Path.splitAt separator text).map fold :=
  Path.splitAt_flatMap fixed.kept fixed.alone text

end Casing

/-- The folded characters of a text. -/
@[simp] theorem toList_caseFolded (text : String) :
    (caseFolded text).toList = Casing.fold text.toList := by
  simp [caseFolded]

/-- Strings are folded one by one. -/
theorem caseFolded_append (first second : String) :
    caseFolded (first ++ second) = caseFolded first ++ caseFolded second := by
  simp [← String.toList_inj]

/-- A folded string is empty only if the string is. -/
@[simp] theorem caseFolded_eq_empty {text : String} : caseFolded text = "" ↔ text = "" := by
  rw [← String.toList_eq_nil_iff, toList_caseFolded, Casing.fold_eq_nil, String.toList_eq_nil_iff]

end PermissionNames
