import PermissionNames.Proofs.Text.CodePointMap
import PermissionNames.Text.Identifier

/-! The normal form of a word is a word: no step of it leaves a character that ends one, and none leaves nothing. -/

namespace PermissionNames.Compatibility

open Identifier (continuesWord)

/-- Outside basic Latin every character continues a word. -/
theorem continuesWord_of_le {c : Char} (outside : 0x80 ≤ c.toNat) : continuesWord c := by
  simp [continuesWord, Identifier.startsWord, outside]

/-- A number outside basic Latin that stands for a character continues a word. -/
theorem continuesWord_ofNat {point : Nat} (valid : point.isValidChar) (outside : 0x80 ≤ point) :
    continuesWord (Char.ofNat point) :=
  continuesWord_of_le (by rwa [toNat_ofNat_of_isValidChar valid])

/-- Whether all images of a run continue words; those of basic Latin are tried one by one. -/
def runContinues (run : PointRun) : Bool :=
  run.isValid && (0x80 ≤ run.image ||
    (List.range (run.last + 1 - run.first)).all fun distance =>
      distance % run.step != 0 || continuesWord (Char.ofNat (run.image + distance)))

/-- The characters that a run maps to continue words. -/
theorem continuesWord_of_run {run : PointRun} (continues : runContinues run) {point image : Nat}
    (found : run.find? point = some image) : continuesWord (Char.ofNat image) := by
  -- An image lies outside basic Latin, or at a distance that was tried.
  obtain ⟨above, below⟩ := PointRun.image_bounds found
  obtain ⟨⟨start, finish, stepped⟩, rfl⟩ := PointRun.find?_eq_some.mp found
  simp only [runContinues, Bool.and_eq_true, Bool.or_eq_true, decide_eq_true_eq,
    List.all_eq_true, List.mem_range, bne_iff_ne] at continues
  obtain ⟨valid, outside | tried⟩ := continues
  · exact continuesWord_ofNat (PointRun.isValidChar_of_isValid valid above below) (by omega)
  · exact (tried (point - run.first) (by omega)).resolve_left (fun skipped => skipped stepped)

/-- No listed decomposition leaves a character that ends a word. -/
theorem decompositionMap_continues :
    (∀ run ∈ decompositionMap.runs, runContinues run) ∧
      ∀ entry ∈ decompositionMap.expansions, ∀ point ∈ entry.2,
        continuesWord (Char.ofNat point) := by
  constructor <;> decide +kernel

/-- The letters of a syllable continue words. -/
theorem continuesWord_of_mem_syllableLetters {index : Nat} (below : index < 11172) {c : Char}
    (member : c ∈ syllableLetters index) : continuesWord c := by
  -- All three letters come from one block, whose points are characters.
  have letter : ∀ point, 0x1100 ≤ point → point < 0x1200 → continuesWord (Char.ofNat point) :=
    fun point above within =>
      continuesWord_ofNat (by unfold Nat.isValidChar; omega) (by omega)
  unfold syllableLetters at member
  simp only at member
  -- A syllable without a final letter has two letters.
  split at member
  · rcases List.mem_cons.mp member with rfl | member
    -- The index is below the number of syllables, so each letter is within the block.
    · exact letter _ (by omega) (by omega)
    · rw [List.mem_singleton.mp member]
      exact letter _ (by omega) (by omega)
  · rcases List.mem_cons.mp member with rfl | member
    · exact letter _ (by omega) (by omega)
    · rcases List.mem_cons.mp member with rfl | member
      · exact letter _ (by omega) (by omega)
      · rw [List.mem_singleton.mp member]
        exact letter _ (by omega) (by omega)

/-- A character that continues a word decomposes to such characters. -/
theorem continuesWord_of_mem_decompose {c d : Char} (continues : continuesWord c)
    (member : d ∈ decompose c) : continuesWord d := by
  unfold decompose at member
  split at member
  · rename_i syllable
    -- A syllable is one of as many points from the base on as there are indices.
    have base : syllableBase = 0xAC00 := rfl
    rw [Bool.and_eq_true, decide_eq_true_iff, decide_eq_true_iff] at syllable
    exact continuesWord_of_mem_syllableLetters (by omega) member
  · -- The character stands for itself, or its listed image was tried.
    rcases decompositionMap.image_cases c with ⟨-, same⟩ | listed
    · rw [same, List.mem_singleton] at member
      exact member ▸ continues
    · rcases CodePointMap.find?_cases listed with
        ⟨run, member', point, found, image⟩ | ⟨points, member', image⟩
      · rw [image, List.mem_singleton] at member
        exact member ▸ continuesWord_of_run (decompositionMap_continues.1 run member') found
      · rw [image] at member
        obtain ⟨point, inPoints, rfl⟩ := List.mem_map.mp member
        exact decompositionMap_continues.2 _ member' point inPoints

/-- Putting a character in its place among marks adds nothing else. -/
theorem mem_of_mem_place {c d : Char} {text : List Char} (member : d ∈ place c text) :
    d = c ∨ d ∈ text := by
  -- The character passes marks of a higher class, and stops before the first other one.
  induction text with
  | nil => exact .inl (List.mem_singleton.mp member)
  | cons next rest ih =>
    unfold place at member
    split at member
    · rcases List.mem_cons.mp member with same | later
      · exact .inr (by simp [same])
      · exact (ih later).imp_right (List.mem_cons_of_mem next)
    · exact List.mem_cons.mp member

/-- Ordering marks adds nothing to a text. -/
theorem mem_of_mem_reorder {c : Char} {text : List Char} (member : c ∈ reorder text) :
    c ∈ text := by
  -- Each character is put in its place among those after it, which are ordered already.
  induction text with
  | nil => simp [reorder] at member
  | cons first rest ih =>
    rcases mem_of_mem_place member with same | later
    · simp [same]
    · exact List.mem_cons_of_mem first (ih later)

/-- Whether a composition makes a character outside basic Latin. -/
def makesOutside (entry : Nat × Nat × Nat) : Bool :=
  decide entry.2.2.isValidChar && decide (0x80 ≤ entry.2.2)

/-- What is found in a list of compositions outside basic Latin is such a character. -/
theorem continuesWord_of_findSome? {entries : List (Nat × Nat × Nat)} {first second whole : Char}
    (outside : entries.all makesOutside)
    (found : (entries.findSome? fun (a, b, whole) =>
      if a == first.toNat && b == second.toNat then some (Char.ofNat whole) else none) =
        some whole) : continuesWord whole := by
  -- What is chosen is made from an entry of the list.
  obtain ⟨⟨a, b, point⟩, member, chosen⟩ := List.exists_of_findSome?_eq_some found
  have listed := List.all_eq_true.mp outside _ member
  simp only [makesOutside, Bool.and_eq_true, decide_eq_true_eq] at listed
  simp only [Option.ite_none_right_eq_some, Option.some.injEq] at chosen
  exact chosen.2 ▸ continuesWord_ofNat listed.1 listed.2

/-- Listed compositions are characters outside basic Latin. -/
theorem continuesWord_of_listedComposition? {first second whole : Char}
    (found : listedComposition? first second = some whole) : continuesWord whole := by
  -- The table is looked through once.
  unfold listedComposition? at found
  exact continuesWord_of_findSome? (by decide +kernel) found

/-- What stands for two characters continues words. -/
theorem continuesWord_of_pair? {first second whole : Char}
    (found : pair? first second = some whole) : continuesWord whole := by
  -- A syllable is a point of one block, and all other compositions are listed.
  have syllable : ∀ point, 0xAC00 ≤ point → point < 0xD7B0 → continuesWord (Char.ofNat point) :=
    fun point above within =>
      continuesWord_ofNat (by unfold Nat.isValidChar; omega) (by omega)
  unfold pair? at found
  cases letters : syllable? first second with
  | none =>
    rw [letters, Option.none_or] at found
    exact continuesWord_of_listedComposition? found
  | some made =>
    rw [letters, Option.some_or, Option.some.injEq] at found
    rw [← found]
    have base : syllableBase = 0xAC00 := rfl
    unfold syllable? at letters
    dsimp only at letters
    split at letters
    · rename_i within
      simp only [Bool.and_eq_true, decide_eq_true_iff] at within
      rw [← Option.some.inj letters]
      exact syllable _ (by omega) (by omega)
    · split at letters
      · rename_i within
        simp only [Bool.and_eq_true, decide_eq_true_iff, beq_iff_eq] at within
        rw [← Option.some.inj letters]
        exact syllable _ (by omega) (by omega)
      · cases letters

/-- Composition leaves only characters that continue words, if it starts from such. -/
theorem continuesWord_of_mem_composeAfter {head c : Char} {marks text : List Char}
    (headContinues : continuesWord head) (marksContinue : ∀ mark ∈ marks, continuesWord mark)
    (textContinues : ∀ d ∈ text, continuesWord d) (member : c ∈ composeAfter head marks text) :
    continuesWord c := by
  -- All of head, waiting marks and rest continue words, and every step keeps it so.
  induction text generalizing head marks with
  | nil =>
    rcases List.mem_cons.mp member with rfl | member
    · exact headContinues
    · exact marksContinue c (List.mem_reverse.mp member)
  | cons next rest ih =>
    have nextContinues := textContinues next List.mem_cons_self
    have restContinues : ∀ d ∈ rest, continuesWord d :=
      fun d inRest => textContinues d (List.mem_cons_of_mem next inRest)
    unfold composeAfter at member
    simp only at member
    split at member
    -- The next character is composed with the head, which it replaces.
    · rename_i whole found
      rw [Option.ite_none_right_eq_some] at found
      have wholeContinues : continuesWord whole := continuesWord_of_pair? found.2
      exact ih wholeContinues marksContinue restContinues member
    · split at member
      -- A new head ends the composition of the old one, whose marks are written out.
      · rcases List.mem_append.mp member with early | later
        · rcases List.mem_cons.mp early with rfl | early
          · exact headContinues
          · exact marksContinue c (List.mem_reverse.mp early)
        · exact ih nextContinues (by simp) restContinues later
      -- A mark that finds no partner waits behind the others.
      · refine ih headContinues ?_ restContinues member
        intro mark listed
        rcases List.mem_cons.mp listed with rfl | listed
        · exact nextContinues
        · exact marksContinue mark listed

/-- The normal form of a word is a word. -/
theorem all_continuesWord_normalize {text : List Char} (word : text.all continuesWord) :
    (normalize text).all continuesWord := by
  rw [List.all_eq_true] at word ⊢
  unfold normalize
  split
  · exact word
  -- Decomposing and ordering leave such characters, and composing starts from them.
  · have ordered : ∀ c ∈ reorder (text.flatMap decompose), continuesWord c := by
      intro c member
      obtain ⟨origin, listed, member⟩ := List.mem_flatMap.mp (mem_of_mem_reorder member)
      exact continuesWord_of_mem_decompose (word origin listed) member
    intro c member
    unfold compose at member
    split at member
    · cases member
    · rename_i first rest same
      rw [same] at ordered
      exact continuesWord_of_mem_composeAfter (ordered first List.mem_cons_self) (by simp)
        (fun d inRest => ordered d (List.mem_cons_of_mem first inRest)) member

/-- No decomposition is empty. -/
theorem decompose_ne_nil (c : Char) : decompose c ≠ [] := by
  -- A syllable has two letters at least, and no listed expansion is empty.
  unfold decompose
  split
  · unfold syllableLetters
    split <;> simp
  · have full : ∀ entry ∈ decompositionMap.expansions, entry.2 ≠ [] := by decide +kernel
    exact CodePointMap.image_ne_nil full c

/-- Ordering leaves the character that is put in its place. -/
theorem reorder_ne_nil {text : List Char} (nonempty : text ≠ []) : reorder text ≠ [] := by
  -- Putting a character in its place keeps it, in front of the next one or behind it.
  cases text with
  | nil => exact absurd rfl nonempty
  | cons first rest =>
    change place first (reorder rest) ≠ []
    cases reorder rest with
    | nil => simp [place]
    | cons next others =>
      unfold place
      split <;> simp

/-- Composition leaves a head. -/
theorem composeAfter_ne_nil (head : Char) (marks text : List Char) :
    composeAfter head marks text ≠ [] := by
  -- The head may be composed with what follows, but it is never dropped.
  induction text generalizing head marks with
  | nil => simp [composeAfter]
  | cons next rest ih =>
    unfold composeAfter
    dsimp only
    split
    · exact ih _ _
    · split
      · simp
      · exact ih _ _

/-- The normal form of a text is empty only if the text is. -/
theorem normalize_ne_nil {text : List Char} (nonempty : text ≠ []) : normalize text ≠ [] := by
  -- Neither decomposing nor ordering nor composing makes the text empty.
  unfold normalize
  split
  · exact nonempty
  · have decomposed : text.flatMap decompose ≠ [] := by
      obtain ⟨first, rest, rfl⟩ := List.exists_cons_of_ne_nil nonempty
      simp [decompose_ne_nil first]
    obtain ⟨first, rest, same⟩ := List.exists_cons_of_ne_nil (reorder_ne_nil decomposed)
    rw [same]
    exact composeAfter_ne_nil first [] rest

end PermissionNames.Compatibility
