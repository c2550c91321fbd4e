import PermissionNames.Proofs.Source.Escape
import PermissionNames.Proofs.Source.Quotation
import PermissionNames.Proofs.Text.Utf8

/-! Texts that are one literal between three quotes and stand for themselves there. -/

namespace PermissionNames

/-- Unifying newlines makes no text longer. -/
theorem length_unifyNewlines_le (text : List Char) : (unifyNewlines text).length ≤ text.length := by
  -- Two characters may become one, and none becomes more.
  fun_induction unifyNewlines text with
  | case1 => exact le_refl _
  | case2 rest ih =>
    simp only [List.length_cons]
    omega
  | case3 c rest _ ih =>
    simp only [List.length_cons]
    omega

/-- Unified text holds no carriage return. -/
theorem return_not_mem_unifyNewlines (text : List Char) : '\r' ∉ unifyNewlines text := by
  -- A carriage return is replaced wherever it stands.
  fun_induction unifyNewlines text with
  | case1 => simp
  | case2 rest ih => simpa using ih
  | case3 c rest _ ih =>
    split <;> simp_all [eq_comm]

/-- A character that is no carriage return is kept. -/
theorem mem_unifyNewlines {c : Char} {text : List Char} (other : c ≠ '\r') (member : c ∈ text) :
    c ∈ unifyNewlines text := by
  -- Only carriage returns are replaced, with or without a newline behind them.
  fun_induction unifyNewlines text with
  | case1 => exact member
  | case2 rest ih =>
    have later : c ∈ '\n' :: rest := List.mem_of_ne_of_mem other member
    exact List.mem_cons.mpr ((List.mem_cons.mp later).imp_right ih)
  | case3 d rest _ ih =>
    rcases List.mem_cons.mp member with rfl | later
    · simp [other]
    · exact List.mem_cons_of_mem _ (ih later)

namespace Source.Quotation

/-- The quotes that end a long literal. -/
def closing : List Char := ['"', '"', '"']

/-- A text that ends neither in an escape that is begun nor in a quote. -/
def IsEnded (text : List Char) : Prop :=
  ∀ c ∈ text.getLast?, c ≠ '\\' ∧ c ≠ '"'

/-- What is ended stays so without its first character. -/
theorem IsEnded.tail {c : Char} {rest : List Char} (ended : IsEnded (c :: rest)) :
    IsEnded rest := by
  -- The last character is the same, if there is still one.
  intro last member
  cases rest with
  | nil => cases member
  | cons next later => exact ended last (by rwa [List.getLast?_cons_cons])

/-- Quotes behind a quote that ends no text close a literal within the text only. -/
theorem IsEnded.take_append {c : Char} {later : List Char} (ended : IsEnded (c :: later))
    (rest : List Char) (closed : c = '"' ∧ (later ++ closing ++ rest).take 2 = ['"', '"']) :
    later.take 2 = ['"', '"'] := by
  -- The two characters behind the quote are in the text, as it does not end with a quote.
  obtain ⟨rfl, two⟩ := closed
  match later, ended, two with
  | [], ended, _ => exact absurd rfl (ended '"' rfl).2
  | [next], ended, two =>
    have quote : next = '"' := by simpa [closing] using two
    exact absurd quote (ended next rfl).2
  | next :: second :: others, _, two => simpa using two

/-- In front of three quotes a part of an ended text is taken, or all of it and the quotes. -/
theorem takeLong_ended {text : List Char} (ended : IsEnded text) (rest : List Char) :
    ∃ body behind, takeLong '"' (text ++ closing ++ rest) = some (body, behind) ∧ body <+: text ∧
      (body = text → behind = rest) := by
  -- The induction takes the text like the reader does, escapes as a whole.
  fun_induction takeLong '"' text with
  | case1 => exact ⟨[], rest, by simp [closing, takeLong], List.prefix_rfl, fun _ => rfl⟩
  | case2 => exact absurd rfl (ended '\\' rfl).1
  | case3 c later ih =>
    obtain ⟨body, behind, taken, front, whole⟩ := ih ended.tail.tail
    refine ⟨'\\' :: c :: body, behind, ?_, ?_, fun same => whole (by simpa using same)⟩
    · rw [List.cons_append, List.cons_append, List.cons_append, List.cons_append, takeLong, taken]
      rfl
    · simpa [List.cons_prefix_cons] using front
  | case4 c later notBackslash closed =>
    refine ⟨[], (later ++ closing ++ rest).drop 2, ?_, List.nil_prefix, by simp⟩
    have long : 2 ≤ later.length := by
      have two := congrArg List.length closed.2
      simp only [List.length_take, List.length_cons, List.length_nil] at two
      omega
    rw [List.cons_append, List.cons_append, takeLong_cons notBackslash, if_pos]
    rwa [List.append_assoc, List.take_append_of_le_length long]
  | case5 c later notBackslash unclosed ih =>
    obtain ⟨body, behind, taken, front, whole⟩ := ih ended.tail
    refine ⟨c :: body, behind, ?_, ?_, fun same => whole (by simpa using same)⟩
    · rw [List.cons_append, List.cons_append, takeLong_cons notBackslash, if_neg, taken]
      · rfl
      · exact fun closed => unclosed ⟨closed.1, ended.take_append rest closed⟩
    · simpa [List.cons_prefix_cons] using front

/-- Where no quote is escaped, all of an ended text is taken exactly if no three quotes stand in it. -/
theorem takeLong_eq_iff {text : List Char} (ended : IsEnded text)
    (unescaped : text.IsChain fun c next => c = '\\' → next ≠ '"') (rest : List Char) :
    takeLong '"' (text ++ closing ++ rest) = some (text, rest) ↔ ¬ closing <:+: text := by
  -- The cases are those of the cutter, which ends at the first three quotes without a backslash.
  fun_induction takeLong '"' text with
  | case1 => simp [closing, takeLong]
  | case2 => exact absurd rfl (ended '\\' rfl).1
  | case3 c later ih =>
    obtain ⟨notQuote, behind⟩ := List.isChain_cons_cons.mp unescaped
    have others := ih ended.tail.tail behind.tail
    -- Neither the backslash nor what stands behind it is one of the quotes.
    have inside : closing <:+: '\\' :: c :: later ↔ closing <:+: later := by
      simp [closing, List.infix_cons_iff, List.cons_prefix_cons, Ne.symm (notQuote rfl)]
    rw [inside, ← others, List.cons_append, List.cons_append, List.cons_append, List.cons_append,
      takeLong]
    simp
  | case4 c later notBackslash closed =>
    obtain ⟨rfl, two⟩ := closed
    have begun : closing <+: '"' :: later := by
      rw [closing, List.cons_prefix_cons, ← two]
      exact ⟨rfl, List.take_prefix 2 later⟩
    have long : 2 ≤ later.length := by
      have two := congrArg List.length two
      simp only [List.length_take, List.length_cons, List.length_nil] at two
      omega
    rw [List.cons_append, List.cons_append, takeLong_cons notBackslash, if_pos]
    · simp [begun.isInfix]
    · exact ⟨rfl, by rwa [List.append_assoc, List.take_append_of_le_length long]⟩
  | case5 c later notBackslash unclosed ih =>
    have others := ih ended.tail unescaped.tail
    have notBegun : ¬ closing <+: c :: later := by
      rintro ⟨behind, same⟩
      cases same
      exact unclosed ⟨rfl, rfl⟩
    rw [List.infix_cons_iff, or_iff_right notBegun, ← others, List.cons_append, List.cons_append,
      takeLong_cons notBackslash,
      if_neg fun closed => unclosed ⟨closed.1, ended.take_append rest closed⟩]
    simp

/-- A text with nothing in it that has a meaning between three quotes. -/
structure StandsForItself (text : List Char) : Prop where
  noReturn : '\r' ∉ text
  noClosing : ¬ closing <:+: text
  plain : Escape.IsPlain text

/-- A literal without letters between three quotes is what is taken and decoded. -/
theorem take_long_eq_some_iff {text behind : List Char} {value : LiteralText} :
    take [] '"' ('"' :: '"' :: text) = some (.text value false, behind) ↔
      ∃ body, takeLong '"' text = some (body, behind) ∧ Escape.decode body = some value := by
  -- The letters in front would change the reading of the body, and there are none.
  have opened : takeBody '"' ('"' :: '"' :: text) = takeLong '"' text := by simp [takeBody]
  unfold take
  rw [opened]
  simp only [Option.bind_eq_bind, Option.bind_eq_some_iff, Option.pure_def, Option.some.injEq,
    Prod.mk.injEq, Prod.exists, ofBody?, List.map_nil, List.contains_nil, Bool.false_eq_true,
    if_false, Option.map_eq_some_iff]
  constructor
  · rintro ⟨body, rest, taken, _, ⟨decoded, read, rfl⟩, same, rfl⟩
    cases same
    exact ⟨body, taken, read⟩
  · rintro ⟨body, taken, read⟩
    exact ⟨body, behind, taken, _, ⟨_, read, rfl⟩, by simp, rfl⟩

/-- A plain text escapes no quote. -/
theorem unescaped_of_isPlain {text : List Char} (plain : Escape.IsPlain text) :
    text.IsChain fun c next => c = '\\' → next ≠ '"' := by
  -- A backslash in front of a quote would begin a known sequence.
  refine plain.imp fun c next unknown escaped => ?_
  rintro rfl
  cases unknown escaped

/-- If an ended text with unified newlines begins a literal that stands for the text, nothing in it has another meaning. -/
theorem standsForItself_of_take {text rest behind : List Char}
    (ended : IsEnded (unifyNewlines text))
    (taken : take [] '"' ('"' :: '"' :: (unifyNewlines text ++ closing ++ rest)) =
      some (.text (String.ofList text) false, behind)) : StandsForItself text := by
  obtain ⟨body, taken, decoded⟩ := take_long_eq_some_iff.mp taken
  -- What is taken is no longer than the text, and what it stands for no longer than that.
  obtain ⟨other, remaining, same, front, all⟩ := takeLong_ended ended rest
  cases taken.symm.trans same
  have short := length_unifyNewlines_le text
  have fewer := front.length_le
  have least : text.length ≤ body.length := by
    simpa [LiteralText.length] using Escape.length_decode_le decoded
  have whole : body = unifyNewlines text := front.eq_of_length (by omega)
  rw [all whole, whole] at taken
  rw [whole] at decoded
  obtain ⟨itself, plain⟩ := (Escape.decode_eq_some_iff (by omega)).mp decoded
  have noClosing := (takeLong_eq_iff ended (unescaped_of_isPlain plain) rest).mp taken
  rw [← itself] at plain noClosing
  refine ⟨?_, noClosing, plain⟩
  rw [itself]
  exact return_not_mem_unifyNewlines text

/-- An ended text that stands for itself is one literal between three quotes. -/
theorem StandsForItself.take_unified {text : List Char} (stands : StandsForItself text)
    (ended : IsEnded text) (rest : List Char) :
    take [] '"' ('"' :: '"' :: (unifyNewlines text ++ closing ++ rest)) =
      some (.text (String.ofList text) false, rest) := by
  -- Nothing in the text closes the literal, and decoding it changes nothing.
  rw [unifyNewlines_eq_self stands.noReturn]
  have found := (takeLong_eq_iff ended (unescaped_of_isPlain stands.plain) rest).mpr
    stands.noClosing
  have decoded := (Escape.decode_eq_some_iff le_rfl).mpr ⟨rfl, stands.plain⟩
  exact take_long_eq_some_iff.mpr ⟨text, found, decoded⟩

/-- A text without backslashes holds no known sequence. -/
theorem isPlain_of_not_mem {text : List Char} (absent : '\\' ∉ text) : Escape.IsPlain text :=
  ((Escape.decode_eq_some_iff le_rfl).mp
    (Escape.decode_plain fun _ member => ne_of_mem_of_not_mem member absent)).2

/-- A part of a text whose characters do not stand in front is a part of the rest. -/
theorem isInfix_of_append {part front rest : List Char} (full : part ≠ [])
    (absent : ∀ c ∈ part, c ∉ front) (inside : part <:+: front ++ rest) : part <:+: rest := by
  -- The part would have to begin in front, where its first character does not stand.
  induction front with
  | nil => exact inside
  | cons c front ih =>
    obtain ⟨first, later, rfl⟩ := List.exists_cons_of_ne_nil full
    rcases List.infix_cons_iff.mp inside with begun | behind
    · have same : first = c := (List.cons_prefix_cons.mp begun).1
      exact absurd (by simp [same]) (absent first List.mem_cons_self)
    · exact ih (fun c member inFront => absent c member (List.mem_cons_of_mem _ inFront)) behind

/-- Three quotes in a text stand in the part of it that holds quotes. -/
theorem closing_isInfix_iff {front text back : List Char} (noQuote : '"' ∉ front)
    (alsoNone : '"' ∉ back) : closing <:+: front ++ text ++ back ↔ closing <:+: text := by
  have absent : ∀ {part : List Char}, '"' ∉ part → ∀ c ∈ closing, c ∉ part := by
    simp [closing]
  constructor
  · intro inside
    rw [List.append_assoc] at inside
    have behind := isInfix_of_append (by simp [closing]) (absent noQuote) inside
    -- Read backwards, the quotes are the same.
    rw [← List.reverse_infix, List.reverse_append] at behind
    have before := isInfix_of_append (by simp [closing])
      (absent (by simpa using alsoNone)) behind
    exact List.reverse_infix.mp before
  · intro inside
    exact inside.trans ⟨front, back, rfl⟩

/-- A text stands for itself between others with nothing in them that could have a meaning, if what follows a backslash at its end is no mark. -/
theorem standsForItself_between {front text back : List Char}
    (plain : ∀ c ∈ ['\r', '"', '\\'], c ∉ front ∧ c ∉ back)
    (apart : ∀ c ∈ text.getLast?, ∀ next ∈ back.head?, c = '\\' → Escape.isMark next = false) :
    StandsForItself (front ++ text ++ back) ↔ StandsForItself text := by
  simp only [List.forall_mem_cons, List.not_mem_nil, false_implies, implies_true, and_true] at plain
  obtain ⟨⟨noReturn, alsoNoReturn⟩, ⟨noQuote, alsoNoQuote⟩, noBackslash, alsoNoBackslash⟩ := plain
  have returns : '\r' ∉ front ++ text ++ back ↔ '\r' ∉ text := by
    simp [noReturn, alsoNoReturn]
  have quotes := not_congr (@closing_isInfix_iff front text back noQuote alsoNoQuote)
  have chain : Escape.IsPlain (front ++ text ++ back) ↔ Escape.IsPlain text := by
    constructor
    · exact fun whole => (List.isChain_append.mp (List.isChain_append.mp whole).1).2.1
    · intro plain
      -- In front of the text stands no backslash, and what follows one at its end is no mark.
      have begun : Escape.IsPlain (front ++ text) := by
        refine List.isChain_append.mpr ⟨isPlain_of_not_mem noBackslash, plain, ?_⟩
        rintro c last next - rfl
        exact absurd (List.mem_of_getLast? last) noBackslash
      refine List.isChain_append.mpr ⟨begun, isPlain_of_not_mem alsoNoBackslash, ?_⟩
      intro c last next first escaped
      rcases List.eq_nil_or_concat text with rfl | ⟨others, final, rfl⟩
      · rw [List.append_nil] at last
        exact absurd (escaped ▸ List.mem_of_getLast? last) noBackslash
      · exact apart c (by simpa using last) next first escaped
  exact ⟨fun ⟨free, unclosed, plain⟩ => ⟨returns.mp free, quotes.mp unclosed, chain.mp plain⟩,
    fun ⟨free, unclosed, plain⟩ => ⟨returns.mpr free, quotes.mpr unclosed, chain.mpr plain⟩⟩

end Source.Quotation

end PermissionNames
