import PermissionNames.Text.CodePointMap

/-! What a compressed mapping of characters lists, read off its runs and expansions. -/

namespace PermissionNames

/-- A point that a number stands for is read back as that number. -/
theorem toNat_ofNat_of_isValidChar {point : Nat} (valid : point.isValidChar) :
    (Char.ofNat point).toNat = point :=
  -- A valid number is stored as it is.
  congrArg Char.toNat (dif_pos valid)

namespace PointRun

/-- A run lists exactly every `step`-th point between its ends, at a fixed distance. -/
theorem find?_eq_some {run : PointRun} {point image : Nat} :
    run.find? point = some image ↔
      (run.first ≤ point ∧ point ≤ run.last ∧ (point - run.first) % run.step = 0) ∧
        run.image + (point - run.first) = image := by
  -- The test of the run is a conjunction, and only its success yields an image.
  unfold find?
  split
  · rename_i inside
    simp only [Bool.and_eq_true, decide_eq_true_eq, beq_iff_eq] at inside
    simp [inside]
  · rename_i outside
    simp only [Bool.and_eq_true, decide_eq_true_eq, beq_iff_eq] at outside
    simp only [reduceCtorEq, false_iff, not_and]
    intro inside
    exact absurd ⟨⟨inside.1, inside.2.1⟩, inside.2.2⟩ outside

/-- The last image of a run. -/
def lastImage (run : PointRun) : Nat :=
  run.image + (run.last - run.first)

/-- An image of a run lies between its first and its last image. -/
theorem image_bounds {run : PointRun} {point image : Nat}
    (found : run.find? point = some image) :
    run.image ≤ image ∧ image ≤ run.lastImage := by
  -- The distance of the point from the start is kept, and it cannot pass the end.
  obtain ⟨⟨above, below, _⟩, rfl⟩ := find?_eq_some.mp found
  unfold lastImage
  omega

/-- Whether no image of the first run is listed by the second: they lie apart, or alternate, or the only image falls between two points. -/
def avoids (run other : PointRun) : Bool :=
  -- Most runs lie apart, which is found out by comparing numbers as such.
  Nat.blt run.lastImage other.first || Nat.blt other.last run.image ||
    (run.step == 2 && other.step == 2 && (run.image + other.first) % 2 == 1) ||
    (run.first == run.last && (run.image - other.first) % other.step != 0)

/-- An image of a run is not listed by a run that it avoids. -/
theorem find?_none_of_avoids {run other : PointRun} {point image : Nat}
    (apart : run.avoids other) (found : run.find? point = some image) :
    other.find? image = none := by
  -- Listing the image again would put it inside the other run, at a multiple of its step.
  obtain ⟨⟨above, below, stepped⟩, rfl⟩ := find?_eq_some.mp found
  apply Option.eq_none_iff_forall_ne_some.mpr
  intro second again
  obtain ⟨⟨start, finish, rest⟩, -⟩ := find?_eq_some.mp again
  simp only [avoids, Bool.or_eq_true, Bool.and_eq_true, Nat.blt_eq, beq_iff_eq, bne_iff_ne] at apart
  unfold lastImage at apart
  -- Apart from each other the runs share no point at all.
  rcases apart with ((before | after) | ⟨⟨byTwo, otherByTwo⟩, odd⟩) | ⟨single, between⟩
  · omega
  · omega
  -- Both runs take every second point, and theirs have different parity.
  · rw [byTwo] at stepped
    rw [otherByTwo] at rest
    omega
  -- The only image lies at no multiple of the other step.
  · have same : point = run.first := by omega
    subst same
    simp only [Nat.sub_self, Nat.add_zero] at rest
    exact between rest

/-- Whether all images of a run are characters. -/
def isValid (run : PointRun) : Bool :=
  run.lastImage < 0xD800 || (0xE000 ≤ run.image && run.lastImage < 0x110000)

/-- A number between the first and the last image of a valid run stands for a character. -/
theorem isValidChar_of_isValid {run : PointRun} (valid : run.isValid) {point : Nat}
    (above : run.image ≤ point) (below : point ≤ run.lastImage) : point.isValidChar := by
  -- The surrogates are the only gap, and the whole run lies on one side of it.
  simp only [isValid, Bool.or_eq_true, Bool.and_eq_true, decide_eq_true_eq] at valid
  unfold Nat.isValidChar
  omega

end PointRun

namespace CodePointMap

/-- What a mapping lists comes from a run or from an expansion. -/
theorem find?_cases {map : CodePointMap} {c : Char} {image : List Char}
    (found : map.find? c = some image) :
    (∃ run ∈ map.runs, ∃ point, run.find? c.toNat = some point ∧ image = [Char.ofNat point]) ∨
      ∃ points, (c.toNat, points) ∈ map.expansions ∧ image = points.map Char.ofNat := by
  -- Runs are searched first, and expansions only if no run lists the character.
  unfold find? at found
  split at found
  · rename_i point listed
    -- A run that finds the point gives one character.
    obtain ⟨run, member, listed⟩ := List.exists_of_findSome?_eq_some listed
    simp only [Option.some.injEq] at found
    exact .inl ⟨run, member, point, listed, found.symm⟩
  -- An expansion is found under the point itself.
  · obtain ⟨points, listed, rfl⟩ := Option.map_eq_some_iff.mp found
    obtain ⟨before, after, split, -⟩ := List.lookup_eq_some_iff.mp listed
    exact .inr ⟨points, by simp [split], rfl⟩

/-- A character is unlisted if no run finds it and no expansion starts with it. -/
theorem find?_eq_none {map : CodePointMap} {c : Char}
    (noRun : ∀ run ∈ map.runs, run.find? c.toNat = none)
    (noExpansion : ∀ entry ∈ map.expansions, entry.1 ≠ c.toNat) : map.find? c = none := by
  -- Both searches fail.
  have unlisted : map.runs.findSome? (·.find? c.toNat) = none :=
    List.findSome?_eq_none_iff.mpr noRun
  have unexpanded : map.expansions.lookup c.toNat = none :=
    List.lookup_eq_none_iff.mpr fun entry member => by simpa using (noExpansion entry member).symm
  simp [find?, unlisted, unexpanded]

/-- Whether a mapping lists nothing for a point, of which most runs lie apart. -/
def skips (map : CodePointMap) (point : Nat) : Bool :=
  (map.runs.all fun run =>
    Nat.blt point run.first || Nat.blt run.last point || (run.find? point).isNone) &&
    map.expansions.all fun entry => entry.1 != point

/-- A character that a mapping skips is unlisted. -/
theorem find?_none_of_skips {map : CodePointMap} {c : Char} (skipped : map.skips c.toNat) :
    map.find? c = none := by
  simp only [skips, Bool.and_eq_true, List.all_eq_true, Bool.or_eq_true, Nat.blt_eq,
    Option.isNone_iff_eq_none, bne_iff_ne] at skipped
  obtain ⟨noRun, noExpansion⟩ := skipped
  refine find?_eq_none (fun run listed => ?_) noExpansion
  -- A run finds no point outside of its ends.
  apply Option.eq_none_iff_forall_ne_some.mpr
  intro image found
  obtain ⟨⟨above, below, -⟩, -⟩ := PointRun.find?_eq_some.mp found
  rcases noRun run listed with (before | after) | unlisted
  · omega
  · omega
  · rw [unlisted] at found
    cases found

/-- An image is listed, or it is the character itself. -/
theorem image_cases (map : CodePointMap) (c : Char) :
    map.find? c = none ∧ map.image c = [c] ∨ map.find? c = some (map.image c) := by
  -- The image is what is found, or the character where nothing is.
  unfold image
  cases found : map.find? c with
  | none => exact .inl ⟨rfl, rfl⟩
  | some image => exact .inr rfl

/-- No image is empty if no expansion is. -/
theorem image_ne_nil {map : CodePointMap} (full : ∀ entry ∈ map.expansions, entry.2 ≠ [])
    (c : Char) : map.image c ≠ [] := by
  -- An unlisted character stands for itself, and a run gives one character.
  rcases map.image_cases c with ⟨-, same⟩ | listed
  · simp [same]
  · rcases find?_cases listed with ⟨run, -, point, -, image⟩ | ⟨points, member, image⟩
    · simp [image]
    · simpa [image] using full _ member

/-- Whether no image of the mapping is listed again, so that mapping twice is mapping once. -/
def settles (map : CodePointMap) : Bool :=
  (map.runs.all fun run =>
    run.isValid && map.runs.all run.avoids &&
      map.expansions.all fun entry =>
        Nat.blt entry.1 run.image || Nat.blt run.lastImage entry.1) &&
  map.expansions.all fun entry => entry.2.all fun point => map.skips (Char.ofNat point).toNat

/-- A mapping settles if its images are found to be apart from its runs, from its expansions, and from both, one after the other. -/
theorem settles_of_apart {map : CodePointMap} (valid : map.runs.all PointRun.isValid)
    (apart : map.runs.all fun run => map.runs.all run.avoids)
    (separate : map.runs.all fun run => map.expansions.all fun entry =>
      Nat.blt entry.1 run.image || Nat.blt run.lastImage entry.1)
    (skipped : map.expansions.all fun entry =>
      entry.2.all fun point => map.skips (Char.ofNat point).toNat) : map.settles := by
  -- The checks are those of the definition, only taken one kind at a time.
  rw [List.all_eq_true] at valid apart separate
  rw [settles, Bool.and_eq_true, List.all_eq_true]
  refine ⟨fun run listed => ?_, skipped⟩
  rw [valid run listed, apart run listed, separate run listed]
  rfl

/-- In a mapping that settles, what is listed for a character is not listed itself. -/
theorem find?_none_of_settles {map : CodePointMap} (settled : map.settles) {c d : Char}
    {image : List Char} (found : map.find? c = some image) (member : d ∈ image) :
    map.find? d = none := by
  -- A single image avoids every run and every expansion; longer images were tried one by one.
  simp only [settles, Bool.and_eq_true, List.all_eq_true, Bool.or_eq_true, Nat.blt_eq] at settled
  obtain ⟨runsSettle, expansionsSettle⟩ := settled
  rcases find?_cases found with ⟨run, listed, point, pointFound, rfl⟩ | ⟨points, listed, rfl⟩
  -- The image of a run is one character, so its number is that of the image.
  · obtain ⟨⟨valid, apart⟩, separate⟩ := runsSettle run listed
    obtain ⟨above, below⟩ := PointRun.image_bounds pointFound
    have number := toNat_ofNat_of_isValidChar (PointRun.isValidChar_of_isValid valid above below)
    rw [List.mem_singleton.mp member]
    apply find?_eq_none
    · intro other otherListed
      rw [number]
      exact PointRun.find?_none_of_avoids (apart other otherListed) pointFound
    · intro entry entryListed
      rw [number]
      have outside := separate entry entryListed
      omega
  -- The characters of an expansion are all among the tried ones.
  · obtain ⟨point, pointListed, rfl⟩ := List.mem_map.mp member
    exact find?_none_of_skips (expansionsSettle _ listed point pointListed)

/-- In a mapping that settles, a character of an image stands for itself. -/
theorem image_of_mem_image {map : CodePointMap} (settled : map.settles) {c d : Char}
    (member : d ∈ map.image c) : map.image d = [d] := by
  -- Either nothing is listed for the character, which is its own image, or its image is not listed again.
  have unlisted : map.find? d = none := by
    rcases map.image_cases c with ⟨none, same⟩ | listed
    · rw [same, List.mem_singleton] at member
      rw [member, none]
    · exact find?_none_of_settles settled listed member
  rw [image, unlisted, Option.getD_none]

end CodePointMap

end PermissionNames
