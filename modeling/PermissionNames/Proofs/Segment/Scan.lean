import Mathlib.Data.List.Induction
import PermissionNames.Proofs.Segment
import PermissionNames.Proofs.Text.Casing.Context

/-! Segmenting is one pass over the text, which puts a period before every capital inside a chunk and then lowers all. -/

namespace PermissionNames.Segment

/-! ### Cutting a chunk -/

/-- The parts of a chunk, which is cut before every capital except one at its start. -/
def cuts : List Char → List (List Char)
  | [] => [[]]
  | c :: rest =>
    match cuts rest with
    | [] => [[c]]
    | first :: later =>
      if first.head?.any isCapital then [c] :: first :: later else (c :: first) :: later

/-- The first part of a chunk starts with the first character, and grows unless a capital follows. -/
theorem cuts_cons_cons (c d : Char) (rest : List Char) :
    ∃ part later, cuts (d :: rest) = (d :: part) :: later ∧
      cuts (c :: d :: rest) =
        if isCapital d then [c] :: (d :: part) :: later else (c :: d :: part) :: later := by
  -- Every first part starts with the first character, whichever way the cut goes.
  have starts : ∃ part later, cuts (d :: rest) = (d :: part) :: later := by
    unfold cuts
    split
    · exact ⟨[], [], rfl⟩
    · split
      · exact ⟨[], _, rfl⟩
      · exact ⟨_, _, rfl⟩
  obtain ⟨part, later, parts⟩ := starts
  exact ⟨part, later, parts, by rw [cuts, parts]; rfl⟩

/-- The parts of a chunk make up the chunk. -/
theorem flatten_cuts (chunk : List Char) : (cuts chunk).flatten = chunk := by
  induction chunk with
  | nil => rfl
  | cons c rest ih =>
    cases rest with
    | nil => rfl
    | cons d rest =>
      obtain ⟨part, later, parts, extended⟩ := cuts_cons_cons c d rest
      rw [parts] at ih
      rw [extended]
      -- A character in front of the first part is in front of the whole, as a part of its own or not.
      split <;> simpa using ih

/-- A chunk has a part, even if it is empty. -/
theorem cuts_ne_nil (chunk : List Char) : cuts chunk ≠ [] := by
  cases chunk with
  | nil => exact List.cons_ne_nil _ _
  | cons c rest =>
    -- Without parts nothing would be left of the chunk.
    intro missing
    have whole := flatten_cuts (c :: rest)
    rw [missing] at whole
    exact absurd whole (by simp)

/-- Joining the parts of a chunk separates the chunk. -/
theorem intercalate_cuts (chunk : List Char) : ['.'].intercalate (cuts chunk) = separate chunk := by
  induction chunk with
  | nil => rfl
  | cons c rest ih =>
    cases rest with
    | nil => rfl
    | cons d rest =>
      obtain ⟨part, later, parts, extended⟩ := cuts_cons_cons c d rest
      rw [parts, separate] at ih
      rw [extended, separate, separateAll]
      -- The period that separating puts before a capital is the one that joins the parts there.
      split
      · rw [List.intercalate_cons_cons, ih]
        rfl
      · rw [List.intercalate_cons_cons_left, ih]

/-- A chunk is one empty part if it is empty, and otherwise one full part more than it has capitals behind its start. -/
theorem map_isEmpty_cuts (chunk : List Char) :
    (cuts chunk).map List.isEmpty =
      if chunk.isEmpty then [true] else List.replicate (1 + chunk.tail.countP isCapital) false := by
  induction chunk with
  | nil => rfl
  | cons c rest ih =>
    cases rest with
    | nil => rfl
    | cons d rest =>
      obtain ⟨part, later, parts, extended⟩ := cuts_cons_cons c d rest
      simp only [parts, List.map_cons, List.isEmpty_cons, List.tail_cons, Bool.false_eq_true,
        if_false] at ih
      simp only [extended, List.isEmpty_cons, List.tail_cons, Bool.false_eq_true, if_false,
        List.countP_cons]
      -- A cut adds a part in front, which holds the first character.
      split
      · rw [List.map_cons, List.map_cons, List.isEmpty_cons, List.isEmpty_cons, ih,
          ← List.replicate_succ, Nat.add_assoc]
      · rw [List.map_cons, List.isEmpty_cons, ih, Nat.add_zero]

/-- Drawing the boundaries of a text is cutting it at periods and before capitals, and joining all parts. -/
theorem boundaries_eq_joined_cuts (text : List Char) :
    boundaries text = ['.'].intercalate ((Path.splitAt '.' text).flatMap cuts) := by
  -- As every chunk has a part, joining inside the chunks and then between them joins all parts.
  have full : ∀ parts ∈ (Path.splitAt '.' text).map cuts, parts ≠ [] := by
    intro parts member
    obtain ⟨chunk, -, rfl⟩ := List.mem_map.mp member
    exact cuts_ne_nil chunk
  rw [List.flatMap, intercalate_flatten full, List.map_map, boundaries, chunks_eq_splitAt]
  exact congrArg _ (List.map_congr_left fun chunk _ => (intercalate_cuts chunk).symm)

/-- The boundaries of a text cut it into the parts of its chunks. -/
theorem splitAt_boundaries (text : List Char) :
    Path.splitAt '.' (boundaries text) = (Path.splitAt '.' text).flatMap cuts := by
  rw [boundaries_eq_joined_cuts]
  apply Path.splitAt_intercalate_eq_self
  -- There is a chunk, and it has a part.
  · intro missing
    obtain ⟨first, later, chunks⟩ := List.exists_cons_of_ne_nil (Path.splitAt_ne_nil '.' text)
    exact cuts_ne_nil first (List.flatMap_eq_nil_iff.mp missing first (by simp [chunks]))
  -- What a part holds is in its chunk, where no period is.
  · intro part member period
    obtain ⟨chunk, ofText, inChunk⟩ := List.mem_flatMap.mp member
    have inside : '.' ∈ (cuts chunk).flatten := List.mem_flatten.mpr ⟨part, inChunk, period⟩
    rw [flatten_cuts] at inside
    exact Path.not_mem_of_mem_splitAt ofText inside

/-! ### One pass -/

/-- The period that a capital gets in front behind any character that is not a period itself. -/
def opening (previous : Option Char) (c : Char) : List Char :=
  if isCapital c && previous.any (· != '.') then ['.'] else []

/-- One pass over what stands behind a character, or over a whole text where there is none: everything is copied, with the periods put in. -/
def scanAfter : Option Char → List Char → List Char
  | _, [] => []
  | previous, c :: rest => opening previous c ++ c :: scanAfter (some c) rest

/-- One pass over a text. -/
def scan (text : List Char) : List Char :=
  scanAfter none text

/-- A pass over two texts goes on behind the last character of the first. -/
theorem scanAfter_append (previous : Option Char) (first second : List Char) :
    scanAfter previous (first ++ second) =
      scanAfter previous first ++ scanAfter (first.getLast?.or previous) second := by
  -- The character that is remembered changes with every step through the first text.
  induction first generalizing previous with
  | nil => simp [scanAfter]
  | cons c rest ih =>
    have last : (c :: rest).getLast?.or previous = rest.getLast?.or (some c) := by
      rw [List.getLast?_cons]
      cases rest.getLast? <;> rfl
    simp [scanAfter, ih, last]

/-- One more character at the end is copied behind its period. -/
theorem scan_append_singleton (text : List Char) (c : Char) :
    scan (text ++ [c]) = scan text ++ opening text.getLast? c ++ [c] := by
  simp [scan, scanAfter_append, scanAfter]

/-- Behind a period the pass starts anew. -/
theorem scanAfter_period (previous : Option Char) (rest : List Char) :
    scanAfter previous ('.' :: rest) = '.' :: scan rest := by
  -- Neither a period in front nor the start of the text lets a capital have one more.
  have anew : scanAfter (some '.') rest = scan rest := by
    cases rest with
    | nil => rfl
    | cons c rest => simp [scan, scanAfter, opening]
  rw [scanAfter, anew]
  rfl

/-- A chunk is separated by the pass. -/
theorem scan_eq_separate {chunk : List Char} (plain : '.' ∉ chunk) : scan chunk = separate chunk := by
  -- Once inside the chunk, the character that is remembered is never a period.
  have general : ∀ {rest : List Char} {previous : Char}, previous ≠ '.' → '.' ∉ rest →
      scanAfter (some previous) rest = separateAll rest := by
    intro rest
    induction rest with
    | nil => intro _ _ _; rfl
    | cons c rest ih =>
      intro previous letter plain
      simp only [List.mem_cons, not_or] at plain
      rw [scanAfter, separateAll, ih (Ne.symm plain.1) plain.2]
      -- Behind a character of the chunk only the capital decides.
      cases capital : isCapital c <;> simp [opening, capital, letter]
  cases chunk with
  | nil => rfl
  | cons c rest =>
    simp only [List.mem_cons, not_or] at plain
    rw [scan, scanAfter, separate, general (Ne.symm plain.1) plain.2]
    simp [opening]

/-- Joined texts are passed over one by one. -/
theorem scan_intercalate (texts : List (List Char)) :
    scan (['.'].intercalate texts) = ['.'].intercalate (texts.map scan) := by
  induction texts with
  | nil => rfl
  | cons text later ih =>
    cases later with
    | nil => simp
    | cons next later =>
      -- The joining period starts the pass anew, whatever the first text ended with.
      rw [List.intercalate_cons_cons, List.append_assoc, List.singleton_append, scan,
        scanAfter_append, scanAfter_period, ih]
      simp [List.intercalate_cons_cons, scan]

/-- One pass draws all boundaries. -/
theorem boundaries_eq_scan (text : List Char) : boundaries text = scan text := by
  -- The chunks hold no period, so the pass separates each of them, and goes over all joined.
  have chunkwise : (Path.splitAt '.' text).map separate = (Path.splitAt '.' text).map scan :=
    List.map_congr_left fun chunk listed =>
      (scan_eq_separate (Path.not_mem_of_mem_splitAt listed)).symm
  rw [boundaries, chunks_eq_splitAt, chunkwise, ← scan_intercalate, Path.intercalate_splitAt]

/-- Every capital of a word of capitals opens a segment, and one behind a period opens no other. -/
example : scan "HTTPServer..Api".toList = "H.T.T.P.Server..Api".toList := by decide

/-- What is put in front of a character goes with the periods. -/
@[simp] theorem withoutPeriods_opening (previous : Option Char) (c : Char) :
    withoutPeriods (opening previous c) = [] := by
  -- It is a period or nothing.
  unfold opening
  split <;> rfl

/-- The pass adds nothing but periods. -/
@[simp] theorem withoutPeriods_scanAfter (previous : Option Char) (text : List Char) :
    withoutPeriods (scanAfter previous text) = withoutPeriods text := by
  -- In front of each character there is a period more at most.
  induction text generalizing previous with
  | nil => rfl
  | cons c rest ih =>
    rw [scanAfter, withoutPeriods_append, withoutPeriods_opening, List.nil_append,
      withoutPeriods_cons, ih, ← withoutPeriods_cons]

/-! ### Counting the periods -/

/-- Whether the character at a place is a capital behind another character than a period. -/
def startsAt (text : List Char) (place : Nat) : Bool :=
  0 < place && text[place]?.any isCapital && text[place - 1]?.any (· != '.')

/-- The number of places at which a capital gets a period. -/
def startCount (text : List Char) : Nat :=
  (List.range text.length).countP (startsAt text)

/-- One more character at the end is one more place, and the others stay what they are. -/
theorem startCount_append_singleton (text : List Char) (c : Char) :
    startCount (text ++ [c]) = startCount text + (opening text.getLast? c).count '.' := by
  -- No place looks further than itself, so the earlier ones do not see the new character.
  have before : (List.range text.length).countP (startsAt (text ++ [c])) = startCount text := by
    apply List.countP_congr
    intro place listed
    have inside : place < text.length := List.mem_range.mp listed
    simp [startsAt, List.getElem?_append_left inside,
      List.getElem?_append_left (show place - 1 < text.length by omega)]
  have last : startsAt (text ++ [c]) text.length =
      (isCapital c && text.getLast?.any (· != '.')) := by
    by_cases empty : text = []
    · simp [empty, startsAt]
    · have positive : 0 < text.length := List.length_pos_iff.mpr empty
      have here : (text ++ [c])[text.length]? = some c := List.getElem?_concat_length
      have behind : (text ++ [c])[text.length - 1]? = text.getLast? := by
        rw [List.getElem?_append_left (by omega), List.getLast?_eq_getElem?]
      rw [startsAt, here, behind]
      simp only [positive, decide_true, Bool.true_and, Option.any_some]
  rw [startCount, List.length_append, List.length_singleton, List.range_succ, List.countP_append,
    before, List.countP_singleton, last, opening]
  split <;> rfl

/-- The pass adds one period for every such place. -/
theorem count_scan (text : List Char) : (scan text).count '.' = text.count '.' + startCount text := by
  -- The induction adds a character at the end, as a place is counted by what stands before it.
  induction text using List.reverseRecOn with
  | nil => rfl
  | append_singleton text c ih =>
    rw [scan_append_singleton, startCount_append_singleton, List.count_append, List.count_append,
      List.count_append, ih]
    omega

/-- A segmented text is the lowered result of one pass.
Its segments are empty exactly where chunks of the text are, and each other chunk has one segment more than capitals behind its start.
Its periods are those of the text and one for each capital that the pass opens a segment with. -/
theorem segmented_eq_lowered_scan (text : String) :
    segmented text = lowercase (String.ofList (scan text.toList)) ∧
    (Path.splitAt '.' (segmented text).toList).map List.isEmpty =
      (Path.splitAt '.' text.toList).flatMap (fun chunk =>
        if chunk.isEmpty then [true]
        else List.replicate (1 + chunk.tail.countP isCapital) false) ∧
    (segmented text).toList.count '.' = text.toList.count '.' + startCount text.toList := by
  refine ⟨?_, ?_, ?_⟩
  · simp [segmented, lowercase, segment, boundaries_eq_scan]
  -- Lowering leaves every segment where it is, so the cuts decide which ones are empty.
  · simp only [segmented, String.toList_ofList, segment]
    rw [Casing.map_isEmpty_splitAt_lower, splitAt_boundaries, List.map_flatMap]
    simp only [map_isEmpty_cuts]
  · simp only [segmented, String.toList_ofList, segment]
    rw [Casing.count_period_lower, boundaries_eq_scan, count_scan]

end PermissionNames.Segment
