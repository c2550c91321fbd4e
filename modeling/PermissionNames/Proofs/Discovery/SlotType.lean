import PermissionNames.Proofs.Discovery.Classes
import PermissionNames.Proofs.Source.TextWeight

/-! The types that are recognized: text inside wrappers, in any order and at any depth, with any part in quotes. -/

namespace PermissionNames.Discovery

open Source

/-- A wrapper around the type of a slot. -/
inductive Wrapper
  | classVar
  /-- A wrapper with further arguments. -/
  | annotated (arguments : List Expression)

/-- The further arguments of a wrapper. -/
def Wrapper.arguments : Wrapper → List Expression
  | classVar => []
  | annotated arguments => arguments

/-- Whether a wrapper makes a slot belong to the class. -/
def Wrapper.isClassVar : Wrapper → Bool
  | classVar => true
  | annotated _ => false

/-- A type that comes down to text through wrappers, which are listed from the outermost to the innermost; what is in quotes counts as what it is read as. -/
inductive Wraps : Expression → List Wrapper → Prop
  | text {identifier : Identifier.Word} (named : identifier.text = "str") :
      Wraps (.name identifier) []
  | quoted {text : String} {inner : Expression} {chain : List Wrapper}
      (read : readExpression text = .ok inner) (wraps : Wraps inner chain) (marked : Bool) :
      Wraps (.constant (.text text marked)) chain
  | classVar {wrapper index : Expression} {chain : List Wrapper}
      (named : EndsWith "ClassVar" wrapper) (wraps : Wraps index chain) :
      Wraps (.subscript wrapper index) (.classVar :: chain)
  | annotated {wrapper first : Expression} {chain : List Wrapper}
      (named : EndsWith "Annotated" wrapper) (wraps : Wraps first chain)
      (arguments : List Expression) :
      Wraps (.subscript wrapper (.tuple (first :: arguments))) (.annotated arguments :: chain)

/-- A type in which a text stands, where wrappers lead to, that cannot be read for some cause: a null character, or a surrogate that has no encoding. -/
inductive MeetsUnreadable : DiscoveryError → Expression → Prop
  | null {text : String} (null : '\x00' ∈ text.toList) (marked : Bool) :
      MeetsUnreadable (.reading .nullCharacter) (.constant (.text text marked))
  | surrogate {text : LiteralText} (holds : text.HoldsSurrogate) (marked : Bool) :
      MeetsUnreadable .encoding (.constant (.text text marked))
  | quoted {cause : DiscoveryError} {text : String} {inner : Expression}
      (read : readExpression text = .ok inner) (meets : MeetsUnreadable cause inner)
      (marked : Bool) : MeetsUnreadable cause (.constant (.text text marked))
  | classVar {cause : DiscoveryError} {wrapper index : Expression}
      (named : EndsWith "ClassVar" wrapper) (meets : MeetsUnreadable cause index) :
      MeetsUnreadable cause (.subscript wrapper index)
  | annotated {cause : DiscoveryError} {wrapper first : Expression}
      (named : EndsWith "Annotated" wrapper) (meets : MeetsUnreadable cause first)
      (arguments : List Expression) :
      MeetsUnreadable cause (.subscript wrapper (.tuple (first :: arguments)))

/-- Types that differ in quotes around parts where wrappers lead to. -/
inductive Requoted : Expression → Expression → Prop
  | refl (type : Expression) : Requoted type type
  | symm {type other : Expression} (requoted : Requoted type other) : Requoted other type
  | trans {type other third : Expression} (first : Requoted type other)
      (second : Requoted other third) : Requoted type third
  | quote {text : String} {type : Expression} (read : readExpression text = .ok type)
      (marked : Bool) : Requoted type (.constant (.text text marked))
  | classVar {wrapper type other : Expression} (named : EndsWith "ClassVar" wrapper)
      (requoted : Requoted type other) :
      Requoted (.subscript wrapper type) (.subscript wrapper other)
  | annotated {type other : Expression} (wrapper : Expression) (requoted : Requoted type other)
      (arguments : List Expression) :
      Requoted (.subscript wrapper (.tuple (type :: arguments)))
        (.subscript wrapper (.tuple (other :: arguments)))

namespace SlotType

/-- What a chain of wrappers tells about a type, which may stand in a wrapper already. -/
def ofChain (isStatic : Bool) (chain : List Wrapper) : SlotType :=
  ⟨isStatic || chain.any Wrapper.isClassVar, chain.reverse.flatMap Wrapper.arguments⟩

/-- A type with more metadata behind its own. -/
def extend (arguments : List Expression) (inner : SlotType) : SlotType :=
  { inner with metadata := inner.metadata ++ arguments }

variable {quoted other : Bool → String → Recognition} {isStatic : Bool} {type : Expression}

/-- Several arguments are those of a wrapper with metadata, which come behind the metadata of the first one. -/
theorem recognizeWith_tuple (wrapper first : Expression) (arguments : List Expression) :
    recognizeWith quoted isStatic (.subscript wrapper (.tuple (first :: arguments))) =
      if wrapper.lastName? = some "Annotated" then
        (recognizeWith quoted isStatic first).map (Option.map (extend arguments))
      else .ok none := by
  -- What the first argument is recognized as is handed on, with the others behind its metadata.
  rw [recognizeWith]
  split
  · cases recognizeWith quoted isStatic first with
    | error cause => rfl
    | ok found => cases found <;> rfl
  · rfl

/-- A single argument is that of the wrapper of a class. -/
theorem recognizeWith_single (wrapper : Expression) {index : Expression}
    (single : ∀ first rest, index = .tuple (first :: rest) → False) :
    recognizeWith quoted isStatic (.subscript wrapper index) =
      if wrapper.lastName? = some "ClassVar" then recognizeWith quoted true index
      else .ok none := by
  -- The cases of a tuple are ruled out.
  rw [recognizeWith]
  exact single

/-- A type in the wrapper of a class is one in the class. -/
theorem recognizeWith_classVar {wrapper : Expression} (named : EndsWith "ClassVar" wrapper)
    (index : Expression) : recognizeWith quoted isStatic (.subscript wrapper index) =
      recognizeWith quoted true index := by
  have last := lastName?_eq_some_iff.mpr named
  by_cases single : ∀ first rest, index = .tuple (first :: rest) → False
  · rw [recognizeWith_single wrapper single, if_pos last]
  · -- Neither a tuple in the wrapper of a class nor one without it is a type.
    simp only [not_forall, imp_false, not_not] at single
    obtain ⟨first, rest, rfl⟩ := single
    rw [recognizeWith_tuple, if_neg (by simp [last])]
    rfl

/-- The further arguments of a wrapper come behind the metadata of its first one. -/
theorem recognizeWith_annotated {wrapper : Expression} (named : EndsWith "Annotated" wrapper)
    (first : Expression) (arguments : List Expression) :
    recognizeWith quoted isStatic (.subscript wrapper (.tuple (first :: arguments))) =
      (recognizeWith quoted isStatic first).map (Option.map (extend arguments)) := by
  rw [recognizeWith_tuple, if_pos (lastName?_eq_some_iff.mpr named)]

/-- Only texts that are shorter than what the type weighs are looked at. -/
theorem recognizeWith_congr
    (same : ∀ isStatic text, text.length < type.weight →
      quoted isStatic text = other isStatic text) :
    recognizeWith quoted isStatic type = recognizeWith other isStatic type := by
  -- Every part of a type weighs less than the whole, so its texts are shorter than that.
  fun_induction recognizeWith quoted isStatic type with
  | case1 isStatic text marked => exact same isStatic text (Nat.lt_succ_self _)
  | case2 => rfl
  | case3 => rfl
  | case4 isStatic wrapper first rest named ih => rw [ih same, recognizeWith, if_pos named]
  | case5 isStatic wrapper first rest other => rw [recognizeWith_tuple, if_neg other]
  | case6 isStatic wrapper index single named ih =>
    rw [ih same, recognizeWith_classVar (lastName?_eq_some_iff.mp named)]
  | case7 isStatic wrapper index single other =>
    rw [recognizeWith_single wrapper single, if_neg other]
  | case8 => rw [recognizeWith] <;> assumption

/-- A text in quotes is the type that it is read as. -/
theorem recognizeQuoted_read {text : String} {inner : Expression}
    (read : readExpression text = .ok inner) (limit : Nat) :
    recognizeQuoted (limit + 1) isStatic text =
      recognizeWith (recognizeQuoted limit) isStatic inner := by
  rw [recognizeQuoted, read]

/-- A text in quotes that cannot be read is no type, unless it holds a null character. -/
theorem recognizeQuoted_unread {text : String} {cause : ReadingError}
    (unread : readExpression text = .error cause) (limit : Nat) :
    recognizeQuoted (limit + 1) isStatic text =
      if cause = .nullCharacter then .error (.reading .nullCharacter) else .ok none := by
  -- Of the two ways not to be read only the null character is told on.
  rw [recognizeQuoted, unread]
  cases cause <;> rfl

/-- As long as there are more quotes inside each other allowed than a text has characters, their number does not matter. -/
theorem recognizeQuoted_agree {limit bound : Nat} {text : String} (fits : text.length < limit)
    (also : text.length < bound) :
    recognizeQuoted limit isStatic text = recognizeQuoted bound isStatic text := by
  -- What is read from a text weighs less than it, so there is room for every text inside.
  induction limit generalizing bound text isStatic with
  | zero => omega
  | succ limit ih =>
    obtain ⟨bound, rfl⟩ := Nat.exists_eq_add_of_le' (Nat.one_le_of_lt also)
    cases read : readExpression text with
    | error cause => rw [recognizeQuoted_unread read, recognizeQuoted_unread read]
    | ok inner =>
      have shorter := weight_le_of_readExpression read
      rw [recognizeQuoted_read read, recognizeQuoted_read read]
      exact recognizeWith_congr fun isStatic inside less => ih (by omega) (by omega)

/-- Recognizes a type that may stand in the wrapper of a class already. -/
def recognizeIn (isStatic : Bool) (type : Expression) : Recognition :=
  recognizeWith (fun isStatic text => recognizeQuoted (text.length + 1) isStatic text) isStatic type

/-- A type that may stand in a wrapper is recognized as if it does not. -/
theorem recognize_eq_recognizeIn (type : Expression) : recognize type = recognizeIn false type :=
  rfl

/-- A text in quotes is looked at with as many quotes inside each other as it may hold. -/
theorem recognizeIn_text (text : String) (marked : Bool) :
    recognizeIn isStatic (.constant (.text text marked)) =
      recognizeQuoted (text.length + 1) isStatic text :=
  rfl

/-- A text in quotes that holds a surrogate is not looked at, as it cannot be encoded. -/
theorem recognizeIn_surrogate {text : LiteralText} (holds : text.HoldsSurrogate) (marked : Bool) :
    recognizeIn isStatic (.constant (.text text marked)) = .error .encoding := by
  -- A text that holds a surrogate is none of the plain ones.
  cases text with
  | plain text => cases LiteralText.isEncodable_eq_false_iff.mpr holds
  | broken points isBroken => rfl

/-- A name is a type if it is that of text. -/
theorem recognizeIn_name (word : Identifier.Word) :
    recognizeIn isStatic (.name word) =
      .ok (if word.text = "str" then some ⟨isStatic, []⟩ else none) :=
  rfl

/-- A type in the wrapper of a class is one in the class. -/
theorem recognizeIn_classVar {wrapper : Expression} (named : EndsWith "ClassVar" wrapper)
    (index : Expression) :
    recognizeIn isStatic (.subscript wrapper index) = recognizeIn true index :=
  recognizeWith_classVar named index

/-- Several arguments are those of a wrapper with metadata. -/
theorem recognizeIn_tuple (wrapper first : Expression) (arguments : List Expression) :
    recognizeIn isStatic (.subscript wrapper (.tuple (first :: arguments))) =
      if wrapper.lastName? = some "Annotated" then
        (recognizeIn isStatic first).map (Option.map (extend arguments))
      else .ok none :=
  recognizeWith_tuple wrapper first arguments

/-- The further arguments of a wrapper come behind the metadata of its first one. -/
theorem recognizeIn_annotated {wrapper : Expression} (named : EndsWith "Annotated" wrapper)
    (first : Expression) (arguments : List Expression) :
    recognizeIn isStatic (.subscript wrapper (.tuple (first :: arguments))) =
      (recognizeIn isStatic first).map (Option.map (extend arguments)) :=
  recognizeWith_annotated named first arguments

/-- A type in quotes is what it is read as, whatever its length. -/
theorem recognizeIn_quoted {text : String} {inner : Expression}
    (read : readExpression text = .ok inner) (marked : Bool) :
    recognizeIn isStatic (.constant (.text text marked)) = recognizeIn isStatic inner := by
  -- The limit is one more than the length, and what is read needs less than that.
  have shorter := weight_le_of_readExpression read
  rw [recognizeIn_text, recognizeQuoted_read read]
  exact recognizeWith_congr fun isStatic inside less =>
    recognizeQuoted_agree (by omega) (Nat.lt_succ_self _)

/-- An answer about a type with its reason: what is recognized comes down to text through wrappers, and what fails meets a text that cannot be read. -/
def IsExplained (isStatic : Bool) (type : Expression) : Recognition → Prop
  | .ok (some found) => ∃ chain, Wraps type chain ∧ found = ofChain isStatic chain
  | .ok none => True
  | .error cause => MeetsUnreadable cause type

/-- A text cannot be read for a null character exactly if it holds one. -/
theorem readExpression_eq_nullCharacter_iff {text : String} :
    readExpression text = .error .nullCharacter ↔ '\x00' ∈ text.toList := by
  -- Unified newlines neither add nor remove a null character.
  have kept : '\x00' ∈ unifyNewlines text.toList ↔ '\x00' ∈ text.toList := by
    refine ⟨fun member => ?_, mem_unifyNewlines (by decide)⟩
    exact (mem_or_eq_of_mem_unifyNewlines member).resolve_right (by decide)
  rw [← kept]
  unfold readExpression readWhole
  split
  · rename_i null
    simpa using null
  · rename_i noNull
    split <;> simpa using noNull

/-- An answer about a type in a wrapper is explained by that about the type inside. -/
theorem IsExplained.annotated {wrapper first : Expression} {found : Recognition}
    (explained : IsExplained isStatic first found) (named : EndsWith "Annotated" wrapper)
    (arguments : List Expression) :
    IsExplained isStatic (.subscript wrapper (.tuple (first :: arguments)))
      (found.map (Option.map (extend arguments))) := by
  -- Only a type that is recognized has a chain to put the wrapper on.
  match found, explained with
  | .ok none, _ => trivial
  | .error _, meets => exact MeetsUnreadable.annotated named meets arguments
  | .ok (some _), ⟨chain, wraps, rfl⟩ =>
    refine ⟨.annotated arguments :: chain, .annotated named wraps arguments, ?_⟩
    simp [ofChain, extend, Wrapper.isClassVar, Wrapper.arguments]

/-- What is known about a type in the class is known about the type in the wrapper of a class. -/
theorem IsExplained.classVar {wrapper index : Expression} {found : Recognition}
    (explained : IsExplained true index found) (named : EndsWith "ClassVar" wrapper) :
    IsExplained isStatic (.subscript wrapper index) found := by
  -- Only a type that is recognized has a chain to put the wrapper on.
  match found, explained with
  | .ok none, _ => trivial
  | .error _, meets => exact MeetsUnreadable.classVar named meets
  | .ok (some _), ⟨chain, wraps, rfl⟩ =>
    refine ⟨.classVar :: chain, .classVar named wraps, ?_⟩
    simp [ofChain, Wrapper.isClassVar, Wrapper.arguments]

/-- The answer about a type is explained if those about types in quotes are. -/
theorem isExplained_recognizeWith
    (explained : ∀ isStatic (text : String) marked,
      IsExplained isStatic (.constant (.text text marked)) (quoted isStatic text)) :
    IsExplained isStatic type (recognizeWith quoted isStatic type) := by
  -- Each case of the recognition has its own reason, and the wrappers hand on that of the type
  -- inside.
  fun_induction recognizeWith quoted isStatic type with
  | case1 isStatic text marked => exact explained isStatic text marked
  | case2 isStatic points isBroken marked =>
    exact MeetsUnreadable.surrogate (LiteralText.isEncodable_eq_false_iff.mp rfl) marked
  | case3 isStatic identifier =>
    split
    · exact ⟨[], .text ‹_›, by simp [ofChain]⟩
    · trivial
  | case4 isStatic wrapper first rest named ih =>
    have inner := ih.annotated (lastName?_eq_some_iff.mp named) rest
    rwa [← recognizeWith_annotated (lastName?_eq_some_iff.mp named), recognizeWith, if_pos named]
      at inner
  | case5 => trivial
  | case6 isStatic wrapper index _ named ih => exact ih.classVar (lastName?_eq_some_iff.mp named)
  | case7 => trivial
  | case8 => trivial

/-- The answer about a type in quotes is explained, whatever the limit on quotes inside it. -/
theorem isExplained_recognizeQuoted (limit : Nat) (isStatic : Bool) (text : String)
    (marked : Bool) :
    IsExplained isStatic (.constant (.text text marked)) (recognizeQuoted limit isStatic text) := by
  -- Each pair of quotes takes one from the limit, and the type inside may be quoted again.
  induction limit generalizing isStatic text marked with
  | zero => trivial
  | succ limit ih =>
    cases read : readExpression text with
    | error cause =>
      rw [recognizeQuoted_unread read]
      split
      · subst cause
        exact MeetsUnreadable.null (readExpression_eq_nullCharacter_iff.mp read) marked
      · trivial
    | ok inner =>
      rw [recognizeQuoted_read read]
      have inside : IsExplained isStatic inner
          (recognizeWith (recognizeQuoted limit) isStatic inner) :=
        isExplained_recognizeWith ih
      match recognizeWith (recognizeQuoted limit) isStatic inner, inside with
      | .ok none, _ => trivial
      | .error _, meets => exact MeetsUnreadable.quoted read meets marked
      | .ok (some _), ⟨chain, wraps, same⟩ => exact ⟨chain, .quoted read wraps marked, same⟩

/-- Every answer about a type is explained. -/
theorem isExplained_recognizeIn (isStatic : Bool) (type : Expression) :
    IsExplained isStatic type (recognizeIn isStatic type) :=
  isExplained_recognizeWith fun _ _ marked => isExplained_recognizeQuoted _ _ _ marked

end SlotType

open SlotType

/-- A type that comes down to text is recognized with what its wrappers tell. -/
theorem Wraps.recognizeIn_eq {type : Expression} {chain : List Wrapper} (wraps : Wraps type chain)
    (isStatic : Bool) : recognizeIn isStatic type = .ok (some (ofChain isStatic chain)) := by
  -- The induction is on the chain, and a wrapper of a class is remembered for what stands inside.
  induction wraps generalizing isStatic with
  | text named => simp [recognizeIn_name, named, ofChain]
  | quoted read _ marked ih => rw [recognizeIn_quoted read, ih]
  | classVar named _ ih =>
    rw [recognizeIn_classVar named, ih true]
    simp [ofChain, Wrapper.isClassVar, Wrapper.arguments]
  | annotated named _ arguments ih =>
    rw [recognizeIn_annotated named, ih]
    simp [Except.map, ofChain, extend, Wrapper.isClassVar, Wrapper.arguments]

/-- A type in which a text is met that cannot be read fails for the cause of that. -/
theorem MeetsUnreadable.recognizeIn_eq {cause : DiscoveryError} {type : Expression}
    (meets : MeetsUnreadable cause type) (isStatic : Bool) :
    recognizeIn isStatic type = .error cause := by
  -- The way to the text is followed from the outside to the inside.
  induction meets generalizing isStatic with
  | null null marked =>
    rw [recognizeIn_text,
      recognizeQuoted_unread (readExpression_eq_nullCharacter_iff.mpr null), if_pos rfl]
  | surrogate holds marked => exact recognizeIn_surrogate holds marked
  | quoted read _ marked ih => rw [recognizeIn_quoted read, ih]
  | classVar named _ ih => rw [recognizeIn_classVar named, ih]
  | annotated named _ arguments ih =>
    rw [recognizeIn_annotated named, ih]
    rfl

/-- Types that differ in quotes are recognized equally. -/
theorem Requoted.recognizeIn_eq {type other : Expression} (requoted : Requoted type other)
    (isStatic : Bool) : recognizeIn isStatic other = recognizeIn isStatic type := by
  -- Quotes may be put around or taken off at any place, so the induction is on how the types
  -- differ.
  induction requoted generalizing isStatic with
  | refl => rfl
  | symm _ ih => exact (ih isStatic).symm
  | trans _ _ first second => exact (second isStatic).trans (first isStatic)
  | quote read marked => exact recognizeIn_quoted read marked
  | classVar named _ ih => rw [recognizeIn_classVar named, recognizeIn_classVar named, ih true]
  | annotated wrapper _ arguments ih => rw [recognizeIn_tuple, recognizeIn_tuple, ih isStatic]

namespace SlotType

/-- What a chain tells is whether it holds the wrapper of a class, and the arguments of all its wrappers. -/
theorem eq_ofChain_iff {slotType : SlotType} {chain : List Wrapper} :
    slotType = ofChain false chain ↔ (slotType.isStatic = true ↔ .classVar ∈ chain) ∧
      slotType.metadata = chain.reverse.flatMap Wrapper.arguments := by
  -- Only whether the wrapper of a class is there counts, not where or how often.
  have listed : chain.any Wrapper.isClassVar = true ↔ .classVar ∈ chain := by
    rw [List.any_eq_true]
    constructor
    · rintro ⟨wrapper, member, isClassVar⟩
      cases wrapper with
      | classVar => exact member
      | annotated arguments => cases isClassVar
    · exact fun member => ⟨_, member, rfl⟩
  obtain ⟨isStatic, metadata⟩ := slotType
  rw [ofChain, mk.injEq, Bool.false_or, Bool.eq_iff_iff, listed]

/-- A type is recognized exactly if it comes down to text through wrappers. -/
theorem recognize_eq_some_iff {type : Expression} {slotType : SlotType} :
    recognize type = .ok (some slotType) ↔
      ∃ chain, Wraps type chain ∧ slotType = ofChain false chain := by
  -- Every answer has its reason, and every chain leads to its answer.
  have explained := isExplained_recognizeIn false type
  constructor
  · intro recognized
    rwa [← recognize_eq_recognizeIn, recognized] at explained
  · rintro ⟨chain, wraps, rfl⟩
    exact wraps.recognizeIn_eq false

/-- Only a text that cannot be read, where wrappers lead to, makes a type fail. -/
theorem recognize_eq_error_iff {type : Expression} {cause : DiscoveryError} :
    recognize type = .error cause ↔ MeetsUnreadable cause type := by
  -- Every failure has its reason, and every text that is met leads to its failure.
  have explained := isExplained_recognizeIn false type
  constructor
  · intro fails
    rwa [← recognize_eq_recognizeIn, fails] at explained
  · exact fun meets => meets.recognizeIn_eq false

/-- A type is recognized exactly if it comes down to text through wrappers.
Then it is static if one of them is that of a class, and has the further arguments of all, the innermost first.
Only a null character or a surrogate in quotes makes it fail.
Neither quotes around a part nor the order of a wrapper of a class and another one change anything. -/
theorem recognize_flattens (type : Expression) :
    (∀ slotType, recognize type = .ok (some slotType) ↔
      ∃ chain, Wraps type chain ∧ (slotType.isStatic = true ↔ .classVar ∈ chain) ∧
        slotType.metadata = chain.reverse.flatMap Wrapper.arguments) ∧
    (∀ cause, recognize type = .error cause ↔ MeetsUnreadable cause type) ∧
    (∀ other, Requoted type other → recognize other = recognize type) ∧
    ∀ outer inner arguments, EndsWith "ClassVar" outer → EndsWith "Annotated" inner →
      recognize (.subscript outer (.subscript inner (.tuple (type :: arguments)))) =
        recognize (.subscript inner (.tuple (.subscript outer type :: arguments))) := by
  -- The answers are explained both ways; the order of two wrappers is a matter of rewriting with
  -- both.
  refine ⟨fun slotType => ?_, fun cause => recognize_eq_error_iff,
    fun other requoted => requoted.recognizeIn_eq false,
    fun outer inner arguments static annotated => ?_⟩
  · simp only [← eq_ofChain_iff]
    exact recognize_eq_some_iff
  · simp only [recognize_eq_recognizeIn, recognizeIn_classVar static,
      recognizeIn_annotated annotated]

/-- A type in quotes within quotes, with metadata on both sides of the wrapper of a class. -/
def nestedQuotes : Expression :=
  .constant (.text "Annotated['t.ClassVar[\"Annotated[str, inner]\"]', outer]" false)

/-- A type in quotes within quotes is recognized with the metadata of all its parts. -/
theorem recognize_flattens_nestedQuotes :
    ∃ slotType chain, recognize nestedQuotes = .ok (some slotType) ∧ Wraps nestedQuotes chain ∧
      .classVar ∈ chain ∧ slotType.metadata = chain.reverse.flatMap Wrapper.arguments ∧
      slotType.metadata.map Expression.lastName? = [some "inner", some "outer"] := by
  -- The type is recognized by computation, and the theorem tells the chain behind it.
  have known : (recognize nestedQuotes).toOption.join.map (fun slotType =>
      (slotType.isStatic, slotType.metadata.map Expression.lastName?)) =
        some (true, [some "inner", some "outer"]) := by decide +kernel
  obtain ⟨slotType, found, same⟩ := Option.map_eq_some_iff.mp known
  obtain ⟨isStatic, names⟩ := Prod.mk.inj same
  cases recognized : recognize nestedQuotes with
  | error cause =>
    rw [recognized] at found
    cases found
  | ok answer =>
    rw [recognized] at found
    cases found
    obtain ⟨chain, wraps, static, metadata⟩ :=
      ((recognize_flattens nestedQuotes).1 slotType).mp recognized
    exact ⟨slotType, chain, rfl, wraps, static.mp isStatic, metadata, names⟩

/-- A surrogate in quotes, as it is written with an escape. -/
def quotedSurrogate : String := "\"\\ud800\""

/-- A surrogate in quotes is no type and holds no null character, but it is not passed over: its recognition fails. -/
theorem surrogate_stops_recognition :
    ∃ text marked, readExpression quotedSurrogate = .ok (.constant (.text text marked)) ∧
      .character '\x00' ∉ text.points ∧
      (∀ chain, ¬ Wraps (.constant (.text text marked)) chain) ∧
      recognize (.constant (.text text marked)) = .error .encoding := by
  have known : (readExpression quotedSurrogate).toOption.bind (fun type =>
      type.text?.map LiteralText.points) = some [CodePoint.ofNumber 0xD800] := by
    decide +kernel
  obtain ⟨type, found, isText⟩ := Option.bind_eq_some_iff.mp known
  obtain ⟨text, given, points⟩ := Option.map_eq_some_iff.mp isText
  have holds : text.HoldsSurrogate := by
    rw [LiteralText.HoldsSurrogate, points]
    exact ⟨⟨0xD800, by decide, by decide⟩, List.mem_singleton_self _⟩
  -- What is read is a text, so its recognition meets the surrogate at once.
  cases read : readExpression quotedSurrogate with
  | error cause =>
    rw [read] at found
    cases found
  | ok type =>
    rw [read] at found
    cases found
    unfold Expression.text? at given
    split at given
    · rename_i marked
      cases given
      have fails := @recognizeIn_surrogate false text holds marked
      refine ⟨text, marked, rfl, by rw [points]; decide, fun chain wraps => ?_, fails⟩
      cases fails.symm.trans (wraps.recognizeIn_eq false)
    · cases given

end SlotType

end PermissionNames.Discovery
