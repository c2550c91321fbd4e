import PermissionNames.Proofs.Text.Casing
import PermissionNames.Proofs.Text.Pieces
import PermissionNames.Segment

/-! Segmenting goes chunk by chunk, and what is segmented already stays as it is. -/

namespace PermissionNames.Segment

/-- Chunks are the pieces between periods. -/
theorem chunks_eq_splitAt (text : List Char) : chunks text = Path.splitAt '.' text := by
  -- Both definitions recurse over the text in the same way.
  induction text with
  | nil => rfl
  | cons c rest ih =>
    cases pieces : Path.splitAt '.' rest <;> simp [chunks, Path.splitAt, ih, pieces]

/-- A chunk without capitals is not separated. -/
theorem separate_eq_self {chunk : List Char} (plain : ∀ c ∈ chunk, isCapital c = false) :
    separate chunk = chunk := by
  -- Without capitals no character gets a period in front.
  have general : ∀ {rest : List Char}, (∀ c ∈ rest, isCapital c = false) →
      separateAll rest = rest := by
    intro rest
    induction rest with
    | nil => intro _; rfl
    | cons c rest ih =>
      intro plain
      simp [separateAll, plain c (by simp), ih fun d member => plain d (by simp [member])]
  cases chunk with
  | nil => rfl
  | cons c rest =>
    have later : ∀ d ∈ rest, isCapital d = false := fun d member => plain d (by simp [member])
    rw [separate, general later]

/-- A text without capitals has its boundaries already. -/
theorem boundaries_eq_self {text : List Char} (plain : ∀ c ∈ text, isCapital c = false) :
    boundaries text = text := by
  -- Every chunk stays as it is, so joining gives the text back.
  have same : ∀ chunk ∈ Path.splitAt '.' text, separate chunk = chunk := fun chunk listed =>
    separate_eq_self fun c member => plain c (Path.mem_of_mem_splitAt listed member)
  rw [boundaries, chunks_eq_splitAt, List.map_congr_left same, List.map_id',
    Path.intercalate_splitAt]

/-- A text that holds anything has boundaries around something. -/
theorem boundaries_ne_nil {text : List Char} (nonempty : text ≠ []) : boundaries text ≠ [] := by
  -- The first character stays in front, be it a period or the start of the first chunk.
  cases text with
  | nil => exact absurd rfl nonempty
  | cons c rest =>
    rw [boundaries, chunks_eq_splitAt]
    by_cases period : c = '.'
    -- A leading period is an empty piece, after which at least one more follows.
    · have more : (Path.splitAt '.' rest).map separate ≠ [] := by simp [Path.splitAt_ne_nil]
      simp [Path.splitAt, period, List.intercalate_cons_of_ne_nil more]
    · obtain ⟨first, later, -, joined⟩ := Path.splitAt_cons_of_ne period rest
      rw [joined, List.map_cons, separate, List.intercalate_cons_cons_left]
      simp

/-- A small character is no capital. -/
theorem isCapital_of_isSmall {c : Char} (small : Casing.IsSmall c) : isCapital c = false := by
  -- Capitals of basic Latin are the first listed run, so each has another image.
  have listed : ∀ point < 0x5B, 0x41 ≤ point →
      Casing.lowerMap.image (Char.ofNat point) ≠ [Char.ofNat point] := by decide
  cases capital : isCapital c with
  | false => rfl
  | true =>
    simp only [isCapital, Bool.and_eq_true, decide_eq_true_eq] at capital
    have moved := listed c.toNat (Nat.lt_succ_of_le capital.2) capital.1
    rw [Char.ofNat_toNat] at moved
    exact absurd small.2 moved

/-- A segmented text is lowered already. -/
@[simp] theorem lower_segment (text : List Char) : Casing.lower (segment text) = segment text :=
  Casing.lower_lower _

/-- A lowered text holds no capital. -/
theorem isCapital_of_mem_lower {text : List Char} {c : Char} (member : c ∈ Casing.lower text) :
    isCapital c = false :=
  isCapital_of_isSmall (Casing.isSmall_of_mem_lower member)

/-- A text that lowering leaves as it is has its segments already. -/
theorem segment_eq_self {text : List Char} (lowered : Casing.lower text = text) :
    segment text = text := by
  -- It has no capitals, so it has its boundaries already.
  have plain : ∀ c ∈ text, isCapital c = false := fun _ member =>
    isCapital_of_mem_lower (lowered.symm ▸ member)
  rw [segment, boundaries_eq_self plain, lowered]

/-- Segmenting a segmented text changes nothing. -/
@[simp] theorem segment_segment (text : List Char) : segment (segment text) = segment text :=
  segment_eq_self (lower_segment text)

/-- A text that holds anything has a segment. -/
theorem segment_ne_nil {text : List Char} (nonempty : text ≠ []) : segment text ≠ [] :=
  Casing.lower_ne_nil (boundaries_ne_nil nonempty)

end PermissionNames.Segment
