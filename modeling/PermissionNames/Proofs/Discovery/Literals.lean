import PermissionNames.Proofs.GeneratedSource.Inert
import PermissionNames.Proofs.Source.Annotation

/-! Quoted literals in source text: each is one lexeme, and constants and prefixes are found to hold what was quoted. -/

namespace PermissionNames

open Source

namespace Discovery

/-- A module with constants for two texts, one of its own and one of a class, and a slot whose prefix lists both by name and more texts as literals. -/
def listingText (first second : String) (others : List String) : String :=
  GeneratedSource.joinLines [
    "TOKEN = " ++ quoted first,
    "@permissions_store",
    "class Api:",
    "    LOCAL: str = " ++ quoted second,
    "    own: Annotated[str, Prefix(" ++
      ", ".intercalate ("TOKEN" :: "LOCAL" :: others.map quoted) ++ ")]"]

/-- The items of literals, each behind a comma. -/
def listedItems (values : List String) : List Item :=
  values.flatMap fun value => [.sign ",", .blank, .literal value]

/-- The line of a slot with a prefix of two names and further literals. -/
def prefixLine (values : List String) : Line where
  depth := 4
  items := [.word "own", .sign ":", .blank, .word "Annotated", .sign "[", .word "str", .sign ",",
    .blank, .word "Prefix", .sign "(", .word "TOKEN", .sign ",", .blank, .word "LOCAL"] ++
    (listedItems values ++ [Item.sign ")", .sign "]"])

/-- The line of a constant of the module. -/
def constantLine (value : String) : Line where
  items := [.word "TOKEN", .blank, .sign "=", .blank, .literal value]

/-- The line of a constant of the class. -/
def ownConstantLine (value : String) : Line where
  depth := 4
  items := [.word "LOCAL", .sign ":", .blank, .word "str", .blank, .sign "=", .blank,
    .literal value]

/-- The lines of a module with constants and a prefix. -/
def listingLines (first second : String) (others : List String) : List Line :=
  [constantLine first,
    ⟨0, [.sign "@", .word "permissions_store"]⟩,
    ⟨0, [.word "class", .blank, .word "Api", .sign ":"]⟩,
    ownConstantLine second,
    prefixLine others]

/-- The statements of the class with a prefix. -/
def listingBody (second : String) (others : List String) : List Entry :=
  [.declared (wordOf "LOCAL") (.name (wordOf "str")) (.text second),
    .annotated (wordOf "own") (wordOf "Annotated") (wordOf "str") (wordOf "Prefix")
      (.name (wordOf "TOKEN")) (.name (wordOf "LOCAL") :: others.map fun value => .text (.plain value))]

/-- The prefix of the slot as it is read. -/
def prefixExpression (others : List String) : Expression :=
  .call (.name (wordOf "Prefix").normalize)
    ((.name (wordOf "TOKEN") :: .name (wordOf "LOCAL") ::
      others.map fun value => .text (.plain value)).map Operand.expression) []

/-- The declaration of the slot as it is read. -/
def slotStatement (others : List String) : Statement :=
  .declaration (.name (wordOf "own").normalize)
    (.subscript (.name (wordOf "Annotated").normalize)
      (.tuple [.name (wordOf "str").normalize, prefixExpression others])) none

/-- The constant of the class as it is read. -/
def ownConstantStatement (value : String) : Statement :=
  .declaration (.name (wordOf "LOCAL").normalize) (.name (wordOf "str").normalize)
    (some (.constant (.text value false)))

/-- The statements of a module with constants and a prefix. -/
def listingEntries (first second : String) (others : List String) : List Entry :=
  [.assigned (wordOf "TOKEN") (.text first),
    .markedClass (wordOf "permissions_store") (wordOf "Api") (listingBody second others)]

section Words

/-- What the lines of the module consist of, apart from literals. -/
def listingItems : List Item :=
  ["TOKEN", "LOCAL", "own", "Annotated", "str", "Prefix", "class", "Api",
      "permissions_store"].map .word ++
    ["=", "@", ":", "[", "]", "(", ")", ","].map .sign ++ [Item.blank]

/-- All words and signs of the module are valid. -/
theorem isValid_listingItems : ∀ item ∈ listingItems, item.IsValid := by
  decide

/-- A line of these items and of literals is valid. -/
theorem isValid_of_listed {items : List Item}
    (listed : ∀ item ∈ items, item ∈ listingItems ∨ ∃ value, item = .literal value) :
    ∀ item ∈ items, item.IsValid := by
  -- A literal is valid whatever it holds, and the other items are finitely many.
  intro item member
  rcases listed item member with known | ⟨value, rfl⟩
  · exact isValid_listingItems item known
  · trivial

/-- The names of the module are in normal form. -/
theorem text_normalize_listing : ∀ name ∈ ["TOKEN", "LOCAL", "own", "Annotated", "str", "Prefix",
    "permissions_store"], (wordOf name).normalize.text = name := by
  decide

end Words

section Reading

variable (first second : String) (others : List String)

/-- Items behind commas are written as the literals that a comma joins to what stands in front. -/
theorem joined_listedItems (front : List Char) (values : List String) :
    ", ".toList.intercalate (front :: values.map fun value => (quoted value).toList) =
      front ++ Item.joined (listedItems values) := by
  -- The text in front grows with each value, so it is generalized.
  induction values generalizing front with
  | nil => simp [listedItems, Item.joined]
  | cons value later ih =>
    rw [List.map_cons, List.intercalate_cons_cons, ih]
    simp [listedItems, Item.joined, Item.text]

/-- The line of the slot is written with its items. -/
theorem toList_prefixText : ("    own: Annotated[str, Prefix(" ++
    ", ".intercalate ("TOKEN" :: "LOCAL" :: others.map quoted) ++ ")]").toList ++ ['\n'] =
      (prefixLine others).text := by
  -- The two names come first, so the comma behind them starts the list of literals.
  have listed := joined_listedItems "LOCAL".toList others
  have commas : (", ".intercalate ("TOKEN" :: "LOCAL" :: others.map quoted)).toList =
      "TOKEN".toList ++ ", ".toList ++ ("LOCAL".toList ++ Item.joined (listedItems others)) := by
    rw [String.toList_intercalate, List.map_cons, List.map_cons, List.map_map,
      List.intercalate_cons_cons, ← listed]
    simp [Function.comp_def]
  rw [String.toList_append, String.toList_append, commas]
  simp [prefixLine, Line.text, Item.joined, Item.text, List.replicate]

/-- The text of the module is that of its lines. -/
theorem toList_listingText :
    (listingText first second others).toList =
      (listingLines first second others).flatMap Line.text := by
  -- Each line is written with its items and the newline that ends it.
  rw [listingText, GeneratedSource.toList_joinLines (by simp)]
  simp only [listingLines, List.flatMap_cons, List.flatMap_nil, GeneratedSource.ended,
    toList_prefixText]
  simp [constantLine, ownConstantLine, Line.text, Item.joined, Item.text, List.replicate]

/-- Literals behind commas are told apart. -/
theorem areApart_listed (values : List String) :
    Item.areApart (listedItems values ++ [Item.sign ")", .sign "]"]) := by
  -- A literal is followed by a comma or a bracket, never by another quote.
  induction values with
  | nil => rfl
  | cons value later ih =>
    have split : listedItems (value :: later) ++ [Item.sign ")", .sign "]"] =
        .sign "," :: .blank :: .literal value ::
          (listedItems later ++ [Item.sign ")", .sign "]"]) := rfl
    have next :
        (Item.joined (listedItems later ++ [Item.sign ")", .sign "]"])).headD '\n' ≠ '"' := by
      cases later <;> simp [listedItems, Item.joined, Item.text]
    have comma : Item.endsBefore (.blank :: .literal value ::
        (listedItems later ++ [Item.sign ")", .sign "]"])) (.sign ",") = true := rfl
    have literal : Item.endsBefore (listedItems later ++ [Item.sign ")", .sign "]"])
        (.literal value) = true := decide_eq_true next
    rw [split]
    simp only [Item.areApart, comma, literal, ih]
    rfl

/-- Literals behind commas open no bracket, and two brackets are closed behind them. -/
theorem foldlM_listed (values : List String) (layout : Layout) :
    (listedItems values).foldlM Item.noteBracket layout = some layout := by
  -- Neither a comma nor a literal opens a bracket.
  induction values with
  | nil => rfl
  | cons value later ih =>
    have split : listedItems (value :: later) =
        [Item.sign ",", .blank, .literal value] ++ listedItems later := rfl
    rw [split, List.foldlM_append]
    exact ih

/-- Literals behind commas are written with a sign, a blank and a literal each. -/
theorem listed_of_mem {values : List String} {item : Item} (member : item ∈ listedItems values) :
    item ∈ listingItems ∨ ∃ value, item = .literal value := by
  -- Each value contributes the same three items.
  obtain ⟨value, -, inItems⟩ := List.mem_flatMap.mp member
  simp only [List.mem_cons, List.not_mem_nil, or_false] at inItems
  rcases inItems with rfl | rfl | rfl
  · simp [listingItems]
  · simp [listingItems]
  · exact .inr ⟨value, rfl⟩

/-- The line of the slot is written. -/
theorem isWritten_prefixLine : (prefixLine others).IsWritten where
  valid := by
  -- What stands in front of the listed literals and behind them is fixed, so it is checked by
  -- computation.
    refine isValid_of_listed ?_
    simp only [prefixLine, List.forall_mem_append]
    exact ⟨by simp [listingItems], fun _ => listed_of_mem, by simp [listingItems]⟩
  apart := by
    have behind := areApart_listed others
    have name : Item.endsBefore (listedItems others ++ [Item.sign ")", .sign "]"])
        (.word "LOCAL") = true := by
      cases others <;> rfl
    simp only [prefixLine, List.cons_append, List.nil_append, Item.areApart, behind, name,
      Bool.and_true]
    rfl
  indented := by simp [prefixLine]
  balanced := by
    intro blocks
    simp only [prefixLine, List.foldlM_append, foldlM_listed]
    rfl

/-- The lines of the module are written. -/
theorem isWritten_listingLines : ∀ line ∈ listingLines first second others, line.IsWritten := by
  -- Apart from the line of the slot, the lines differ in their literals only, which are always
  -- valid.
  have constant : (constantLine first).IsWritten := by
    refine ⟨isValid_of_listed ?_, rfl, by simp [constantLine], fun _ => rfl⟩
    simp [constantLine, listingItems]
  have ownConstant : (ownConstantLine second).IsWritten := by
    refine ⟨isValid_of_listed ?_, rfl, by simp [ownConstantLine], fun _ => rfl⟩
    simp [ownConstantLine, listingItems]
  have decorator : Line.IsWritten ⟨0, [.sign "@", .word "permissions_store"]⟩ :=
    ⟨isValid_of_listed (by simp [listingItems]), rfl, by simp, fun _ => rfl⟩
  have heading : Line.IsWritten ⟨0, [.word "class", .blank, .word "Api", .sign ":"]⟩ :=
    ⟨isValid_of_listed (by simp [listingItems]), rfl, by simp, fun _ => rfl⟩
  simp only [listingLines, List.forall_mem_cons]
  exact ⟨constant, decorator, heading, ownConstant, isWritten_prefixLine others, by simp⟩

/-- The lexemes of literals behind commas. -/
theorem lexemes_listed (values : List String) :
    (listedItems values).filterMap Item.lexeme? =
      Operand.listed (values.map fun value => .text (.plain value)) := by
  -- A blank is no lexeme, so a comma and a literal are left of each value.
  induction values with
  | nil => rfl
  | cons value later ih =>
    have split : listedItems (value :: later) =
        [Item.sign ",", .blank, .literal value] ++ listedItems later := rfl
    rw [split, List.filterMap_append, ih]
    rfl

/-- The lines of the module give the lexemes of its statements. -/
theorem lexemesFrom_listingLines : Line.lexemesFrom [] (listingLines first second others) =
    some (Entry.joined (listingEntries first second others)) := by
  have slot : (prefixLine others).lexemes =
      [Lexeme.name (wordOf "own"), .sign ":", .name (wordOf "Annotated"), .sign "[",
        .name (wordOf "str"), .sign ",", .name (wordOf "Prefix"), .sign "(",
        .name (wordOf "TOKEN"), .sign ",", .name (wordOf "LOCAL")] ++
      (Operand.listed (others.map fun value => .text (.plain value)) ++
        [Lexeme.sign ")", .sign "]"]) := by
    rw [Line.lexemes, prefixLine, List.filterMap_append, List.filterMap_append, lexemes_listed]
    rfl
  -- The class is open behind its heading, and ends with the module.
  have last : Line.lexemesFrom [⟨4, 4⟩] [prefixLine others] = _ :=
    GeneratedSource.lexemesFrom_cons (prefixLine others) (by simp [slot]) rfl rfl
  have inClass : Line.lexemesFrom [] [ownConstantLine second, prefixLine others] = _ :=
    GeneratedSource.lexemesFrom_cons (ownConstantLine second) (List.cons_ne_nil _ _) rfl last
  have marked := GeneratedSource.lexemesFrom_top ⟨0, [.sign "@", .word "permissions_store"]⟩ rfl
    (List.cons_ne_nil _ _) (GeneratedSource.lexemesFrom_top
      ⟨0, [.word "class", .blank, .word "Api", .sign ":"]⟩ rfl (List.cons_ne_nil _ _) inClass)
  rw [listingLines, GeneratedSource.lexemesFrom_top (constantLine first) rfl
    (List.cons_ne_nil _ _) marked, slot]
  simp only [listingEntries, listingBody, Entry.joined, Entry.markedClass, Entry.annotated,
    List.flatMap_cons, List.flatMap_nil, List.append_assoc, List.append_nil, List.cons_append,
    List.nil_append]
  rfl

/-- The text of the module holds no control characters but newlines. -/
theorem control_not_mem_listingText {c : Char} (control : c.toNat < 0x20) (notNewline : c ≠ '\n') :
    c ∉ (listingText first second others).toList := by
  -- Literals are written without control characters, and all else in the lines is fixed.
  have apart := @GeneratedSource.ne_of_control c control
  have literal := control_not_mem_quoted control
  have listed : c ∉ (", ".intercalate ("TOKEN" :: "LOCAL" :: others.map quoted)).toList :=
    lacks_intercalate (by simp [apart]) (by simp [apart, literal])
  rw [listingText]
  generalize ", ".intercalate ("TOKEN" :: "LOCAL" :: others.map quoted) = listing at listed
  refine GeneratedSource.not_mem_joinLines notNewline ?_
  simp [apart, literal, listed]

/-- Every listed literal takes a character. -/
theorem length_le_joined_listed (values : List String) :
    values.length ≤ (Item.joined (listedItems values)).length := by
  -- The comma in front of each literal is counted for it.
  induction values with
  | nil => simp
  | cons value later ih =>
    have split : listedItems (value :: later) =
        [Item.sign ",", .blank, .literal value] ++ listedItems later := rfl
    have comma : 1 ≤ (Item.joined [.sign ",", .blank, .literal value]).length := by
      simp [Item.joined, Item.text]
    rw [split, Item.joined, List.flatMap_append, ← Item.joined, ← Item.joined, List.length_append,
      List.length_cons]
    omega

/-- The module is read as its statements. -/
theorem readModule_listingText : readModule (listingText first second others) =
    .ok (Entry.kept (listingEntries first second others)) := by
  -- The text holds neither null characters nor returns, so it is lexed as it was written.
  have noNull := control_not_mem_listingText first second others (c := '\x00') (by decide)
    (by decide)
  have noReturn := control_not_mem_listingText first second others (c := '\r') (by decide)
    (by decide)
  have same : moduleText (listingText first second others).toList =
      (listingText first second others).toList := by
    rw [listingText, GeneratedSource.joinLines, String.toList_append] at noReturn ⊢
    exact moduleText_eq_self fun member => noReturn (List.mem_append_left _ member)
  have lexed : lexemes? (moduleText (listingText first second others).toList) =
      some (Entry.joined (listingEntries first second others)) := by
    rw [same, toList_listingText, Line.lexemes?_text (isWritten_listingLines first second others),
      lexemesFrom_listingLines]
  -- Every literal takes a character, so there is room for all of them.
  have room : others.length + 4 ≤ (listingText first second others).toList.length := by
    have values := length_le_joined_listed others
    simp only [toList_listingText, listingLines, prefixLine, Line.text, Item.joined,
      List.flatMap_cons, List.flatMap_append, List.length_append, List.length_singleton] at values ⊢
    omega
  refine readModule_entries (by rwa [same]) lexed ?_ ?_
  · intro limit enough
    rw [same] at enough
    obtain ⟨limit, rfl⟩ := Nat.exists_eq_add_of_le' (show 2 ≤ limit by omega)
    have body : ∀ entry ∈ listingBody second others, entry.IsRead (Grammar.within (limit + 4))
        ((Grammar.within (limit + 4)).blockWithin Layout.blockLimit) := by
      simp only [listingBody, List.forall_mem_cons]
      refine ⟨Entry.isRead_declared _ _ _ _ _, Entry.isRead_annotated _ _ _ _ _ _ _ ?_, by simp⟩
      simp only [List.length_cons, List.length_map]
      omega
    simp only [listingEntries, List.forall_mem_cons]
    refine ⟨Entry.isRead_assigned _ _ _ _, Entry.isRead_markedClass _ _ (by simp [listingBody])
      body ?_, by simp⟩
    simp [listingBody]
  · rw [same]
    simp only [listingEntries, List.length_cons, List.length_nil]
    omega

end Reading

section Finding

/-- Literals are the tokens of a prefix as they are. -/
theorem argumentTokens?_texts (resolve : String → LiteralText) (values : List String) :
    argumentTokens? resolve ((values.map fun value => .text (.plain value)).map
      Operand.expression) = some (values.map LiteralText.plain) := by
  -- Each literal is its own token, whatever names mean.
  induction values with
  | nil => rfl
  | cons value later ih =>
    simp only [List.map_cons, Operand.expression, argumentTokens?]
    rw [ih]
    rfl

/-- The type of the slot is a text, with the prefix that lists all literals. -/
theorem recognize_slot (others : List String) :
    SlotType.recognize (.subscript (.name (wordOf "Annotated").normalize)
      (.tuple [.name (wordOf "str").normalize, prefixExpression others])) =
      .ok (some ⟨false, [prefixExpression others]⟩) := by
  -- The names in the type are in normal form already, so they are compared as they are written.
  have wrapper := text_normalize_listing "Annotated" (by simp)
  have type := text_normalize_listing "str" (by simp)
  simp only [SlotType.recognize, SlotType.recognizeWith, Expression.lastName?, wrapper, type, if_true]
  rfl

variable (resolve : String → LiteralText) (second : String) (others : List String)

/-- The prefix of the slot has the texts of its names as tokens, and its literals. -/
theorem collect_prefixExpression : SlotMetadata.collect resolve [prefixExpression others] =
    .ok ⟨[resolve "TOKEN" :: resolve "LOCAL" :: others.map .plain], none⟩ := by
  -- The names are looked up and the literals are taken, in the order of the arguments.
  have marker := text_normalize_listing "Prefix" (by simp)
  have outer := text_normalize_listing "TOKEN" (by simp)
  have inner := text_normalize_listing "LOCAL" (by simp)
  have tokens : argumentTokens? resolve ((Operand.name (wordOf "TOKEN") ::
      Operand.name (wordOf "LOCAL") :: others.map fun value => .text (.plain value)).map
        Operand.expression) = some (resolve "TOKEN" :: resolve "LOCAL" :: others.map .plain) := by
    simp only [List.map_cons, Operand.expression, argumentTokens?, argumentTokens?_texts, outer,
      inner]
    rfl
  simp only [SlotMetadata.collect, List.foldlM_cons, List.foldlM_nil, SlotMetadata.add,
    prefixExpression, SlotMetadata.prefixArguments?, Expression.lastName?, marker, if_true,
    SlotMetadata.prefixTokens, tokens]
  rfl

/-- The class of the module has one slot, whose prefix has the texts of its names as tokens. -/
theorem slotsOf_listingBody :
    ∃ declared, slotsOf resolve (Entry.kept (listingBody second others)) = .ok [declared] ∧
      declared.slot.prefixTokens =
        (resolve "TOKEN").shown :: (resolve "LOCAL").shown :: others := by
  have identity := text_normalize_listing "own" (by simp)
  have shown : (others.map LiteralText.plain).map LiteralText.shown = others := by
    rw [List.map_map]
    exact List.map_id others
  obtain ⟨slot, declared, tokens⟩ : ∃ declared, slotOf? resolve (slotStatement others) =
      .ok (some declared) ∧ declared.slot.prefixTokens =
        (resolve "TOKEN").shown :: (resolve "LOCAL").shown :: others := by
    rw [slotStatement, slotOf?, recognize_slot]
    dsimp only [bind, Except.bind]
    rw [collect_prefixExpression, identity]
    exact ⟨_, rfl, by simp [Slot.choosePrefix, shown]⟩
  -- The declared constant is no slot.
  have kept : Entry.kept (listingBody second others) =
      [ownConstantStatement second, slotStatement others] := rfl
  have constant : slotOf? resolve (ownConstantStatement second) = .ok none := rfl
  refine ⟨slot, ?_, tokens⟩
  rw [kept, slotsOf, List.mapM_cons, List.mapM_cons, constant, declared]
  rfl

/-- The names in the prefix stand for the texts that the module and the class give them. -/
theorem resolveName_listing (first second : String) (others : List String) :
    let resolve := resolveName (Constants.ofBody (Entry.kept (listingBody second others)))
      (Constants.ofBody (Entry.kept (listingEntries first second others)))
    resolve "TOKEN" = first ∧ resolve "LOCAL" = second := by
  -- Each body gives exactly one name a text, and the class is looked at first.
  have outer := text_normalize_listing "TOKEN" (by simp)
  have inner := text_normalize_listing "LOCAL" (by simp)
  have ofClass : Constants.ofBody (Entry.kept (listingBody second others)) =
      [((wordOf "LOCAL").normalize.text, .plain second)] := rfl
  have ofModule : Constants.ofBody (Entry.kept (listingEntries first second others)) =
      [((wordOf "TOKEN").normalize.text, .plain first)] := rfl
  rw [ofClass, ofModule, outer, inner]
  constructor <;> simp [resolveName, Constants.find?, List.lookup_cons]

/-- The slot of the module is found with all that its prefix lists. -/
theorem ofSource_listingText (first second : String) (others : List String) (moduleName : String) :
    ∃ found, ofSource (listingText first second others) moduleName = .ok found ∧
      found.containers.map (fun container => container.slots.map (·.prefixTokens)) =
        [[first :: second :: others]] := by
  -- The slot of the class is known, so what is left is the class around it and the module.
  let surroundings : Surroundings :=
    ⟨Constants.ofBody (Entry.kept (listingEntries first second others)), none⟩
  let body := Entry.kept (listingBody second others)
  obtain ⟨ofToken, ofLocal⟩ := resolveName_listing first second others
  obtain ⟨slot, slots, tokens⟩ := slotsOf_listingBody
    (resolveName (Constants.ofBody body) surroundings.constants) second others
  rw [ofToken, ofLocal] at tokens
  have marker : ClassMarker.find? [.name (wordOf "permissions_store").normalize] =
      some ⟨.store, none⟩ := by
    have spelled := text_normalize_listing "permissions_store" (by simp)
    simp [ClassMarker.find?, ClassMarker.ofDecorator?, Expression.lastName?, spelled,
      ContainerKind.ofMarker?]
  obtain ⟨container, declared, same⟩ : ∃ container, containerOf surroundings moduleName
      [.name (wordOf "permissions_store").normalize] (wordOf "Api").normalize.text [] body =
        .ok ⟨[container], []⟩ ∧ container.container.slots = [slot.slot] := by
    rw [containerOf, marker]
    dsimp only
    rw [slots]
    exact ⟨_, rfl, rfl⟩
  -- Neither the constant nor anything in the class declares another container.
  have inside : ∀ statement ∈ body, ofStatement surroundings
      (namespaceWithin moduleName (wordOf "Api").normalize.text) statement = .ok {} := by
    simp [body, Entry.kept, listingBody, Entry.declared, Entry.annotated, ofStatement]
  have marked : ofStatement surroundings moduleName (.classDefinition
      [.name (wordOf "permissions_store").normalize] (wordOf "Api").normalize [] body) =
        .ok ⟨[container], []⟩ := by
    rw [ofStatement, declared, ofBody_eq_empty inside]
    rfl
  have kept : Entry.kept (listingEntries first second others) =
      [.assignment [.name (wordOf "TOKEN").normalize] (.constant (.text first false)),
        .classDefinition [.name (wordOf "permissions_store").normalize]
          (wordOf "Api").normalize [] body] := rfl
  refine ⟨⟨[container], []⟩, ?_, by
    simp [Findings.containers, same, tokens, LiteralText.shown]⟩
  have constant : ofStatement surroundings moduleName
      (.assignment [.name (wordOf "TOKEN").normalize] (.constant (.text first false))) =
        .ok {} := by
    simp [ofStatement]
  rw [ofSource, readModule_listingText]
  change ofBody surroundings moduleName _ = _
  rw [kept, ofBody, ofBody, ofBody, marked, constant]
  rfl

end Finding

end Discovery

/-- A quoted text is one literal, which is read back as what was quoted wherever it stands; so are the arguments of a prefix, and the constants that it names. -/
theorem quoted_is_one_literal :
    (∀ value : String,
      (quoted value).toList = '"' :: (Quoted.body value.toList ++ ['"']) ∧
      (∀ before after, Quoted.body value.toList ++ ['"'] = before ++ '"' :: after →
        (Quoted.escapesNext before = true ↔ after ≠ [])) ∧
      (∀ c ∈ (quoted value).toList, 0x20 ≤ c.toNat) ∧
      lexemes? (quoted value).toList = some [.quotation (.text value false)] ∧
      (∀ rest : List Char, '"' ∉ rest.head? →
        Piece.take '"' (Quoted.body value.toList ++ '"' :: rest) =
          some (.lexeme (.quotation (.text value false)), rest)) ∧
      Escape.decode (Quoted.body value.toList) = some value) ∧
    (∀ first second others moduleName, ∃ found,
      Discovery.ofSource (Discovery.listingText first second others) moduleName = .ok found ∧
        found.containers.map (fun container => container.slots.map (·.prefixTokens)) =
          [[first :: second :: others]]) ∧
    Function.Injective quoted := by
  -- The parts on single literals come from the quoting itself; reading them back goes through a
  -- whole module.
  refine ⟨fun value => ⟨by simp [quoted, Quoted.encode], fun _ _ => Quoted.escapesNext_iff,
    fun c member => ?_, lexemes?_quoted value, fun rest single => Piece.take_literal value single,
    Escape.decode_body value⟩, Discovery.ofSource_listingText, quoted_injective⟩
  refine Nat.le_of_not_lt fun control => ?_
  exact control_not_mem_quoted control value member

/-- A text that looks like an escape and ends like a literal is read back as it is. -/
theorem quoted_is_one_literal_looksEscaped :
    '"' ∉ [';'].head? ∧
      Piece.take '"' (Quoted.body "\\u0041\"".toList ++ ['"', ';']) =
        some (.lexeme (.quotation (.text "\\u0041\"" false)), [';']) := by
  -- No quote follows, so the literal ends where it should.
  have single : '"' ∉ [';'].head? := by simp
  obtain ⟨-, -, -, -, taken, -⟩ := quoted_is_one_literal.1 "\\u0041\""
  exact ⟨single, taken [';'] single⟩

end PermissionNames
