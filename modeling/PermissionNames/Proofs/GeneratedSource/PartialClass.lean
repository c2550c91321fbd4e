import PermissionNames.Proofs.GeneratedSource.Written
import PermissionNames.Proofs.Text.RegularLiteral

/-! Partial classes bind literals line by line, as long as no literal holds a wide line end. -/

namespace PermissionNames

open RegularLiteral

-- What holds throughout a text is found out by trying its characters, not all characters there are.
attribute [local instance (high)] List.decidableBAll

namespace GeneratedSource

/-- The line that hands a literal out. -/
def yieldLine (literal : String) : String :=
  indent ++ indent ++ "yield return " ++ quoted literal ++ ";"

/-- Whether a line of a text binds a value.
It is one line, and the first quote in it begins a literal that denotes the value, with nothing but the end of a statement behind. -/
structure BindsLiteral (text : List Char) (line value behind : String) : Prop where
  isLine : line.toList ∈ lexicalLines text
  literal : take (line.toList.dropWhile (· ≠ '"')) = some (unitsOf value, behind.toList)

variable {text : List Char}

/-- A line with a quoted text behind a front without quotes binds that text exactly if it is one line. -/
theorem bindsLiteral_iff {line front value behind : String}
    (written : line = front ++ quoted value ++ behind) (noQuote : '"' ∉ front.toList)
    (narrow : line.toList ∈ lexicalLines text → ∀ c ∈ value.toList, c ∉ wideEnds) :
    BindsLiteral text line value behind ↔ line.toList ∈ lexicalLines text := by
  -- The first quote of the line is that of the literal, as there is none in front.
  refine ⟨BindsLiteral.isLine, fun isLine => ⟨isLine, ?_⟩⟩
  have begins : line.toList.dropWhile (· ≠ '"') = (quoted value).toList ++ behind.toList := by
    have apart : ∀ c ∈ front.toList, decide (c ≠ '"') = true :=
      fun c member => decide_eq_true (ne_of_mem_of_not_mem member noQuote)
    rw [written, String.toList_append, String.toList_append, List.append_assoc,
      List.dropWhile_append_of_pos apart]
    simp [quoted, Quoted.encode]
  rw [begins, take_quoted, if_pos (narrow isLine)]

/-- The line of a property holds line ends exactly if its identity does, or its literal holds wide ones. -/
theorem endsLine_propertyLine_iff (declaration : Declaration) :
    (∀ c ∈ (propertyLine declaration).toList, endsLine c = false) ↔
      (∀ c ∈ declaration.identity.toList, endsLine c = false) ∧
        ∀ c ∈ declaration.literal.toList, c ∉ wideEnds := by
  have visibility : (∀ c ∈ declaration.visibility.text.toList, endsLine c = false) ↔ True :=
    iff_true_intro (by cases declaration.visibility <;> decide)
  rw [← endsLine_quoted_iff, propertyLine]
  -- Apart from identity and literal only fixed words are written, without line ends.
  split <;> simp +decide only [indent, String.toList_append, List.forall_mem_append, visibility,
    true_and, and_true]

/-- No quote stands in front of the literal of a property, unless its identity holds one. -/
theorem quote_not_mem_front {declaration : Declaration}
    (noQuote : '"' ∉ declaration.identity.toList) :
    '"' ∉ (indent ++ declaration.visibility.text ++ " " ++
      (if declaration.isStatic then "static " else "") ++ "partial string " ++
      declaration.identity ++ " \x7b get => ").toList := by
  -- All parts in front are fixed text, but for the identity and one of four visibilities.
  have visibility : '"' ∉ declaration.visibility.text.toList := by
    cases declaration.visibility <;> decide
  split <;> simp [indent, visibility, noQuote]

/-- A line that hands a literal out holds line ends exactly if the literal holds wide ones. -/
theorem endsLine_yieldLine_iff (literal : String) :
    (∀ c ∈ (yieldLine literal).toList, endsLine c = false) ↔
      ∀ c ∈ literal.toList, c ∉ wideEnds := by
  -- Around the literal there is only fixed text without line ends.
  rw [← endsLine_quoted_iff, yieldLine]
  simp +decide only [indent, String.toList_append, List.forall_mem_append, true_and, and_true]

end GeneratedSource

namespace Container

open GeneratedSource

variable {container : Container}

/-- The lines that the text of a partial class is made of are lines of it exactly if they hold no line ends. -/
theorem mem_lexicalLines_text_iff {line : String} (listed : line ∈ container.lines .csharp) :
    line.toList ∈ lexicalLines (container.source .csharp).text.toList ↔
      ∀ c ∈ line.toList, endsLine c = false := by
  -- The text is its lines, each with a newline behind it.
  have full : container.lines .csharp ≠ [] := List.ne_nil_of_mem listed
  have ended : (container.lines .csharp).flatMap ended =
      ((container.lines .csharp).map String.toList).flatMap fun text => text ++ ['\n'] := by
    rw [List.flatMap_map]
    rfl
  rw [text_eq_joinLines, toList_joinLines full, ended]
  exact mem_lexicalLines_iff (List.mem_map_of_mem listed)

/-- A partial class has a line for every slot. -/
theorem propertyLine_mem_lines {slot : Slot} (member : slot ∈ container.slots) :
    propertyLine slot.declaration ∈ container.lines .csharp := by
  -- The lines of the declarations are among those of the class body.
  have declared : slot.declaration ∈ container.declarations := List.mem_map_of_mem member
  have bound := List.mem_map_of_mem (f := propertyLine) declared
  simp [lines, bound]

/-- In every partial class, the line of a slot binds its literal exactly if neither its identity holds line ends nor the literal wide ones.
A line that hands a literal out binds it exactly if that holds none.
A literal is one for what is quoted exactly then. -/
theorem binds_literals_iff (container : Container) :
    let text := (container.source .csharp).text.toList
    (∀ (value : String) (behind : List Char), take ((quoted value).toList ++ behind) =
      if ∀ c ∈ value.toList, c ∉ wideEnds then some (unitsOf value, behind) else none) ∧
    Function.Injective unitsOf ∧
    (∀ slot ∈ container.slots, '"' ∉ slot.identity.toList →
      (BindsLiteral text (propertyLine slot.declaration) slot.canonicalName "; \x7d" ↔
        (∀ c ∈ slot.identity.toList, endsLine c = false) ∧
          ∀ c ∈ slot.canonicalName.toList, c ∉ wideEnds)) ∧
    (∀ enumeration ∈ container.enumeration .csharp, ∀ literal ∈ enumeration.literals,
      (BindsLiteral text (yieldLine literal) literal ";" ↔
        ∀ c ∈ literal.toList, c ∉ wideEnds)) := by
  -- A line without line ends is one of the text, and its literal is taken behind its front.
  refine ⟨take_quoted, unitsOf_injective, fun slot member noQuote => ?_,
    fun enumeration asked literal member => ?_⟩
  · have isLine := (mem_lexicalLines_text_iff (propertyLine_mem_lines member)).trans
      (endsLine_propertyLine_iff _)
    exact (bindsLiteral_iff rfl (quote_not_mem_front noQuote) fun line => (isLine.mp line).2).trans
      isLine
  · have listed : yieldLine literal ∈ container.lines .csharp := by
      have inIterator : yieldLine literal ∈ iteratorLines enumeration := by
        rw [iteratorLines, List.mem_append, List.mem_append]
        exact .inl (.inr (List.mem_map_of_mem member))
      rw [lines, Option.mem_def.mp asked]
      simp [inIterator]
    have isLine := (mem_lexicalLines_text_iff listed).trans (endsLine_yieldLine_iff literal)
    exact (bindsLiteral_iff rfl (by decide) isLine.mp).trans isLine

/-- Quotes, backslashes, controls and characters of two code units are bound and handed out as they are. -/
theorem binds_literals_iff_escaped :
    let own : Slot := ⟨"own", .privateAccess, true, [], "a\"\\\n\u00a0😀", true, by decide⟩
    let api : Container := {
      name := "Api", namespacePath := "app", slots := [own], flags := { emitEnumeration := true } }
    let text := (api.source .csharp).text.toList
    BindsLiteral text (propertyLine own.declaration) own.canonicalName "; \x7d" ∧
      BindsLiteral text (yieldLine own.canonicalName) own.canonicalName ";" := by
  -- None of the characters is a wide line end, so both lines bind what they should.
  intro own api text
  obtain ⟨-, -, bound, handedOut⟩ := binds_literals_iff api
  have narrow : ∀ c ∈ own.canonicalName.toList, c ∉ wideEnds := by decide
  exact ⟨(bound own (by simp [api]) (by decide)).mpr ⟨by decide, narrow⟩,
    (handedOut _ rfl own.canonicalName (by simp [api, declarations, Slot.declaration])).mpr narrow⟩

/-- A line separator in a literal ends the line of its property inside of the quotes. -/
theorem separator_ends_property_line :
    let own : Slot := ⟨"own", .publicAccess, false, [], "a\u2028b.own", true, by decide⟩
    let api : Container := { name := "Api", namespacePath := "app", slots := [own] }
    take (quoted own.canonicalName).toList = none ∧
      (propertyLine own.declaration).toList ∉ lexicalLines (api.source .csharp).text.toList := by
  -- The separator is a wide line end, so neither the literal nor the line is there.
  intro own api
  have wide : ¬ ∀ c ∈ own.canonicalName.toList, c ∉ wideEnds := by decide
  constructor
  · rw [← List.append_nil (quoted own.canonicalName).toList, take_quoted, if_neg wide]
  · have listed : propertyLine own.declaration ∈ api.lines .csharp :=
      propertyLine_mem_lines (by simp [api])
    rw [mem_lexicalLines_text_iff listed, endsLine_propertyLine_iff]
    exact fun clean => wide clean.2

end Container

end PermissionNames
