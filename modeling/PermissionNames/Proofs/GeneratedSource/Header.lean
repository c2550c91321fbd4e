import PermissionNames.Proofs.GeneratedSource.Inert
import PermissionNames.Proofs.Source.LongLiteral

/-! The literal that a generated module opens with: it tells the purpose of the module exactly if nothing in the namespace has a meaning between quotes. -/

namespace PermissionNames

open Source

namespace GeneratedSource

/-- The first line of a module. -/
def heading : List Char :=
  ("# " ++ marker ++ "\n").toList

end GeneratedSource

namespace Container

open GeneratedSource

/-- Whether the module of a container is source text whose second line begins with one literal that tells its purpose, in front of a line end and a blank line. -/
structure OpensWithPurpose (container : Container) : Prop where
  noNull : '\x00' ∉ container.namespacePath.toList
  literal : ∃ behind later,
    Source.moduleText (container.source .python).text.toList = heading ++ '"' :: behind ∧
    Piece.take '"' behind =
      some (.lexeme (.quotation (.text container.purpose false)), '\n' :: '\n' :: later)

variable {container : Container}

/-- The purpose in the module of a container stands between three quotes, with unified newlines. -/
theorem exists_moduleText (container : Container) :
    ∃ later, Source.moduleText (container.source .python).text.toList =
      heading ++ '"' :: '"' :: '"' ::
        (unifyNewlines container.purpose.toList ++ Quotation.closing ++ '\n' :: '\n' :: later) := by
  -- Neither the heading nor the quotes hold carriage returns, so newlines are unified in the
  -- purpose alone.
  obtain ⟨rest, written⟩ : ∃ rest, (container.source .python).text.toList =
      (heading ++ ['"', '"', '"']) ++
        (container.purpose.toList ++ '"' :: '"' :: '"' :: '\n' :: '\n' :: rest) := by
    rw [toList_text, Container.written, writtenLater]
    simp [heading, marker, Line.text, Item.joined, Item.text]
  have clean : '\r' ∉ heading ++ ['"', '"', '"'] := by decide +kernel
  have begins :
      '\n' ∉ (container.purpose.toList ++ '"' :: '"' :: '"' :: '\n' :: '\n' :: rest).head? := by
    simp [purpose_eq]
  have closes : '\n' ∉ ('"' :: '"' :: '"' :: '\n' :: '\n' :: rest).head? := by simp
  obtain ⟨added, read⟩ : ∃ added, Source.moduleText (container.source .python).text.toList =
      unifyNewlines (container.source .python).text.toList ++ added := ⟨_, rfl⟩
  rw [read, written, unifyNewlines_append begins, unifyNewlines_append closes,
    unifyNewlines_eq_self clean]
  refine ⟨unifyNewlines rest ++ added, ?_⟩
  simp [unifyNewlines, Quotation.closing]

/-- A quote begins the literal that is read behind it. -/
theorem take_quote (text : List Char) : Piece.take '"' text =
    (Quotation.take [] '"' text).map fun (value, rest) => (.lexeme (.quotation value), rest) := by
  -- A quote begins neither a word nor a number.
  simp [Piece.take, Identifier.startsWord, Identifier.isLetter, Piece.startsNumber,
    Identifier.isDigit]

/-- The purpose of a module ends in a period. -/
theorem isEnded_purpose (container : Container) :
    Quotation.IsEnded container.purpose.toList ∧
      Quotation.IsEnded (unifyNewlines container.purpose.toList) := by
  -- The period stays last when newlines are unified.
  have period : ∀ front : List Char, Quotation.IsEnded (front ++ ['.']) := by
    simp [Quotation.IsEnded]
  have whole : container.purpose.toList =
      ("Generated permission names for " ++ container.qualifiedName).toList ++ ['.'] := by
    simp [purpose_eq]
  rw [whole, unifyNewlines_append (by simp)]
  exact ⟨period _, period _⟩

/-- A container with the name of a class tells its purpose in characters that stand for themselves exactly if its namespace does. -/
theorem standsForItself_purpose (named : Identifier.isValid container.name.toList) :
    Quotation.StandsForItself container.purpose.toList ↔
      Quotation.StandsForItself container.namespacePath.toList := by
  have front : ∀ c ∈ ['\r', '"', '\\'], c ∉ "Generated permission names for ".toList := by simp
  have name : ∀ c ∈ ['\r', '"', '\\'], c ∉ container.name.toList ∧ c ≠ '.' := by
    simp only [List.forall_mem_cons]
    exact ⟨⟨not_mem_of_isValid ⟨by decide, by decide⟩ named, by decide⟩,
      ⟨not_mem_of_isValid ⟨by decide, by decide⟩ named, by decide⟩,
      ⟨not_mem_of_isValid ⟨by decide, by decide⟩ named, by decide⟩, by simp⟩
  by_cases top : container.namespacePath = ""
  · -- Without a namespace, the name alone stands between the other words.
    have whole : container.purpose.toList = "Generated permission names for ".toList ++
        container.namespacePath.toList ++ (container.name.toList ++ ['.']) := by
      simp [purpose_eq, qualifiedName, top]
    rw [whole]
    refine Quotation.standsForItself_between (fun c mark => ⟨front c mark, ?_⟩) (by simp [top])
    simpa using name c mark
  · have whole : container.purpose.toList = "Generated permission names for ".toList ++
        container.namespacePath.toList ++ ('.' :: (container.name.toList ++ ['.'])) := by
      simp [purpose_eq, qualifiedName, top]
    rw [whole]
    refine Quotation.standsForItself_between (fun c mark => ⟨front c mark, ?_⟩) ?_
    · simpa using ⟨(name c mark).2, name c mark⟩
    · -- A period behind a backslash is no mark.
      rintro c - next first -
      cases first
      decide

/-- A module that opens with its purpose has a namespace in which all stands for itself. -/
theorem OpensWithPurpose.standsForItself (opens : container.OpensWithPurpose) :
    Quotation.StandsForItself container.purpose.toList := by
  -- Where the literal is read as the purpose, it was taken as a whole and decoded to itself.
  have ended := container.isEnded_purpose.2
  obtain ⟨behind, later, written, taken⟩ := opens.literal
  obtain ⟨rest, whole⟩ := container.exists_moduleText
  rw [written, List.append_cancel_left_eq, List.cons.injEq] at whole
  rw [whole.2, take_quote] at taken
  obtain ⟨⟨value, remaining⟩, read, same⟩ := Option.map_eq_some_iff.mp taken
  cases same
  have value : String.ofList container.purpose.toList = container.purpose := String.ofList_toList
  generalize container.purpose.toList = text at read value ended ⊢
  rw [← value] at read
  exact Quotation.standsForItself_of_take ended read

/-- The module of a container with the name of a class opens with one literal that tells its purpose, whatever else stands in the container.
It does so exactly if its namespace holds no null character, no carriage return, no three quotes in a row, and no backslash that begins a known escape sequence. -/
theorem opensWithPurpose_iff (named : Identifier.isValid container.name.toList) :
    container.OpensWithPurpose ↔ '\x00' ∉ container.namespacePath.toList ∧
      Quotation.StandsForItself container.namespacePath.toList := by
  -- What stands for itself is taken up to the closing quotes, and then the blank line follows.
  constructor
  · exact fun opens => ⟨opens.noNull, (standsForItself_purpose named).mp opens.standsForItself⟩
  · rintro ⟨noNull, stands⟩
    obtain ⟨later, whole⟩ := container.exists_moduleText
    have read := ((standsForItself_purpose named).mpr stands).take_unified
      container.isEnded_purpose.1 ('\n' :: '\n' :: later)
    rw [String.ofList_toList] at read
    refine ⟨noNull, _, later, whole, ?_⟩
    rw [take_quote, read]
    rfl

/-- Quotes in pairs, and backslashes in front of periods and of other characters without a meaning, stand for themselves. -/
theorem opensWithPurpose_iff_quotesInPairs :
    let container : Container := { name := "Api", namespacePath := "say \"\"hi\"\" \\.d\\" }
    Identifier.isValid container.name.toList ∧ container.OpensWithPurpose := by
  -- No three quotes follow each other, and no backslash begins a known sequence.
  intro container
  have named : Identifier.isValid container.name.toList := by decide
  have noClosing : ¬ Quotation.closing <:+: container.namespacePath.toList := by
    simp [container, Quotation.closing, List.infix_cons_iff, List.cons_prefix_cons]
  have plain : Escape.IsPlain container.namespacePath.toList := by
    unfold Escape.IsPlain
    decide
  exact ⟨named, (opensWithPurpose_iff named).mpr ⟨by decide, by decide, noClosing, plain⟩⟩

/-- Three quotes in a namespace end the literal, so that what stands behind them is read as something else. -/
theorem quotes_end_header :
    let container : Container := { name := "Api", namespacePath := "a\"\"\"b" }
    Identifier.isValid container.name.toList ∧ ¬ container.OpensWithPurpose ∧
    ∃ behind later, Source.moduleText (container.source .python).text.toList =
      heading ++ '"' :: behind ∧
      Piece.take '"' behind =
        some (.lexeme (.quotation (.text "Generated permission names for a" false)),
          "b.Api.".toList ++ later) := by
  -- The first three quotes in the purpose end the literal, and a name is what follows.
  intro container
  have named : Identifier.isValid container.name.toList := by decide
  have closed : Quotation.closing <:+: container.namespacePath.toList := ⟨['a'], ['b'], by decide⟩
  refine ⟨named, fun opens => ?_, ?_⟩
  · exact ((standsForItself_purpose named).mp opens.standsForItself).noClosing closed
  · obtain ⟨later, whole⟩ := container.exists_moduleText
    have purpose : unifyNewlines container.purpose.toList =
        "Generated permission names for a".toList ++ '"' :: '"' :: '"' :: "b.Api.".toList := by
      decide +kernel
    have plain : Quotation.longText? "Generated permission names for a".toList =
        some "Generated permission names for a" := by decide +kernel
    have read := Quotation.take_long plain
      ("b.Api.".toList ++ (Quotation.closing ++ '\n' :: '\n' :: later))
    refine ⟨_, Quotation.closing ++ '\n' :: '\n' :: later, whole, ?_⟩
    rw [purpose, take_quote]
    simp only [List.append_assoc, List.cons_append] at read ⊢
    rw [read]
    rfl

end Container

end PermissionNames
