import PermissionNames.Proofs.Discovery.Classes

/-! What metadata says of a slot: its first prefix counts, and the first visibility that it names. -/

namespace PermissionNames

/-- A sequence fails if its first step does or the rest does after it. -/
theorem bind_fails_iff {ε α β : Type} {step : Except ε α} {rest : α → Except ε β} :
    (∃ cause, step >>= rest = .error cause) ↔ (∃ cause, step = .error cause) ∨
      ∃ middle, step = .ok middle ∧ ∃ cause, rest middle = .error cause := by
  -- Where the first step fails nothing follows, and where it does not the rest is all that can.
  cases step with
  | error cause => exact iff_of_true ⟨cause, rfl⟩ (.inl ⟨cause, rfl⟩)
  | ok middle => simp [bind, Except.bind]

/-- The name of a visibility as a member. -/
def Visibility.memberName : Visibility → String
  | publicAccess => "PUBLIC"
  | internalAccess => "INTERNAL"
  | protectedAccess => "PROTECTED"
  | privateAccess => "PRIVATE"

/-- A visibility has its own member name only. -/
theorem Visibility.ofMember?_eq_some_iff {name : String} {visibility : Visibility} :
    ofMember? name = some visibility ↔ name = visibility.memberName := by
  -- Each of the four names is compared with each of the four visibilities.
  unfold ofMember?
  split <;> cases visibility <;> simp_all [memberName]

/-- The visibility that a name implies by the underscores around it. -/
inductive Visibility.Implied (identity : String) : Visibility → Prop
  | hidden (opened : "__".toList <+: identity.toList)
      (unclosed : ¬ "__".toList <:+ identity.toList) :
      Implied identity privateAccess
  | underscored (opened : "_".toList <+: identity.toList)
      (closed : "__".toList <+: identity.toList → "__".toList <:+ identity.toList) :
      Implied identity internalAccess
  | plain (bare : ¬ "_".toList <+: identity.toList) : Implied identity publicAccess

/-- A name has the visibility that it implies. -/
theorem Visibility.implied_ofIdentity (identity : String) :
    Implied identity (ofIdentity identity) := by
  -- The two tests on underscores are made in this order, so the second one knows that the first
  -- failed.
  unfold ofIdentity
  split
  · rename_i hidden
    simp only [Bool.and_eq_true, Bool.not_eq_true', List.isPrefixOf_iff_prefix] at hidden
    refine .hidden hidden.1 fun closed => ?_
    rw [List.isSuffixOf_iff_suffix.mpr closed] at hidden
    cases hidden.2
  · rename_i notHidden
    split
    · rename_i opened
      refine .underscored (List.isPrefixOf_iff_prefix.mp opened) fun twice => ?_
      simp only [Bool.and_eq_true, Bool.not_eq_true', not_and, Bool.not_eq_false,
        List.isPrefixOf_iff_prefix, List.isSuffixOf_iff_suffix] at notHidden
      exact notHidden twice
    · rename_i bare
      exact .plain fun opened => bare (List.isPrefixOf_iff_prefix.mpr opened)

namespace Discovery

open Source

/-- What the first item says of which a relation tells something. -/
inductive FirstTold {α β : Type} (tells : α → β → Prop) : List α → Option β → Prop
  | nothing : FirstTold tells [] none
  | here {item : α} {rest : List α} {told : β} (heard : tells item told) :
      FirstTold tells (item :: rest) (some told)
  | later {item : α} {rest : List α} {first : Option β} (silent : ∀ told, ¬ tells item told)
      (others : FirstTold tells rest first) : FirstTold tells (item :: rest) first

/-- What is found first is what is told first. -/
theorem firstTold_findSome? {α β : Type} {tells : α → β → Prop} {tell? : α → Option β}
    (same : ∀ item told, tell? item = some told ↔ tells item told) (items : List α) :
    FirstTold tells items (items.findSome? tell?) := by
  -- Items of which nothing is told are passed over, up to the first of which something is.
  induction items with
  | nil => exact .nothing
  | cons item rest ih =>
    rw [List.findSome?_cons]
    cases said : tell? item with
    | some told => exact .here ((same item told).mp said)
    | none =>
      refine .later (fun told heard => ?_) ih
      cases said.symm.trans ((same item told).mpr heard)

/-- A call of what ends with the name of prefixes, with its arguments by position. -/
inductive IsPrefixCall : Expression → List Expression → Prop
  | call {function : Expression} (named : EndsWith "Prefix" function) (arguments : List Expression)
      (options : List (Option String × Expression)) :
      IsPrefixCall (.call function arguments options) arguments

/-- The name of a visibility as a member. -/
inductive NamesVisibility : Expression → Visibility → Prop
  | member {owner : Expression} (named : EndsWith "Visibility" owner) (visibility : Visibility) :
      NamesVisibility (.attribute owner visibility.memberName) visibility

/-- An argument that is a text or a name, with the token that it stands for where names have meanings. -/
inductive IsToken (means : String → LiteralText → Prop) : Expression → LiteralText → Prop
  | text (value : LiteralText) (marked : Bool) : IsToken means (.constant (.text value marked)) value
  | name {word : Identifier.Word} {meaning : LiteralText} (told : means word.text meaning) :
      IsToken means (.name word) meaning

/-- An argument that is neither a text nor a name. -/
structure IsMalformed (argument : Expression) : Prop where
  noText : ∀ value marked, argument ≠ .constant (.text value marked)
  noName : ∀ word, argument ≠ .name word

/-- The tokens of the arguments of a prefix: one for each in their order, or none if any is malformed. -/
inductive TokensOf (means : String → LiteralText → Prop) (arguments : List Expression) :
    List LiteralText → Prop
  | each {tokens : List LiteralText} (told : List.Forall₂ (IsToken means) arguments tokens) :
      TokensOf means arguments tokens
  | malformed {argument : Expression} (member : argument ∈ arguments)
      (malformed : IsMalformed argument) : TokensOf means arguments []

/-- The tokens of the prefix that counts, which are none without a prefix. -/
inductive PrefixTokens (means : String → LiteralText → Prop) :
    Option (List Expression) → List LiteralText → Prop
  | absent : PrefixTokens means none []
  | present {arguments : List Expression} {tokens : List LiteralText}
      (told : TokensOf means arguments tokens) : PrefixTokens means (some arguments) tokens

/-- A prefix that is malformed and cannot be written out. -/
structure IsUnwritten (item : Expression) (arguments : List Expression) (cause : WritingError) :
    Prop where
  isCall : IsPrefixCall item arguments
  malformed : ∃ argument ∈ arguments, IsMalformed argument
  unwritten : item.write = .error cause

variable {resolve : String → LiteralText}

/-- Arguments have tokens if each of them is a text or a name. -/
theorem argumentTokens?_eq_some_iff {arguments : List Expression} {tokens : List LiteralText} :
    argumentTokens? resolve arguments = some tokens ↔
      List.Forall₂ (IsToken (resolve · = ·)) arguments tokens := by
  -- Each argument is a text, a name or neither, and the tokens are taken apart alongside.
  fun_induction argumentTokens? resolve arguments generalizing tokens with
  | case1 => simp [eq_comm]
  | case2 value marked rest ih =>
    rw [Option.map_eq_some_iff, List.forall₂_cons_left_iff]
    constructor
    · rintro ⟨others, told, rfl⟩
      exact ⟨_, others, .text _ marked, ih.mp told, rfl⟩
    · rintro ⟨token, others, told, behind, rfl⟩
      cases told
      exact ⟨others, ih.mpr behind, rfl⟩
  | case3 word rest ih =>
    rw [Option.map_eq_some_iff, List.forall₂_cons_left_iff]
    constructor
    · rintro ⟨others, told, rfl⟩
      exact ⟨_, others, .name rfl, ih.mp told, rfl⟩
    · rintro ⟨token, others, told, behind, rfl⟩
      cases told with
      | name meaning => exact ⟨others, ih.mpr behind, by rw [meaning]⟩
  | case4 argument rest noText noName =>
    simp only [reduceCtorEq, List.forall₂_cons_left_iff, false_iff, not_exists, not_and]
    intro token others told
    cases told with
    | text _ marked => exact absurd rfl (noText _ marked)
    | name meaning => exact absurd rfl (noName _)

/-- Arguments have no tokens if one of them is malformed. -/
theorem argumentTokens?_eq_none_iff {arguments : List Expression} :
    argumentTokens? resolve arguments = none ↔ ∃ argument ∈ arguments, IsMalformed argument := by
  -- The first argument that is neither a text nor a name ends the search.
  fun_induction argumentTokens? resolve arguments with
  | case1 => simp
  | case2 value marked rest ih =>
    have wellFormed : ¬ IsMalformed (.constant (.text value marked)) :=
      fun malformed => malformed.noText value marked rfl
    simp [ih, wellFormed]
  | case3 word rest ih =>
    have wellFormed : ¬ IsMalformed (.name word) := fun malformed => malformed.noName word rfl
    simp [ih, wellFormed]
  | case4 argument rest noText noName =>
    exact iff_of_true rfl ⟨argument, List.mem_cons_self, noText, noName⟩

namespace SlotMetadata

/-- The arguments of a prefix are those of the call that it is. -/
theorem prefixArguments?_eq_some_iff {item : Expression} {arguments : List Expression} :
    prefixArguments? item = some arguments ↔ IsPrefixCall item arguments := by
  -- Only a call has arguments, and only the name of its function is looked at.
  constructor
  · intro found
    unfold prefixArguments? at found
    split at found
    · split at found
      · cases found
        exact .call (lastName?_eq_some_iff.mp ‹_›) _ _
      · cases found
    · cases found
  · rintro ⟨named⟩
    rw [prefixArguments?, if_pos (lastName?_eq_some_iff.mpr named)]

/-- The visibility of an item is the one that it names. -/
theorem visibility?_eq_some_iff {item : Expression} {visibility : Visibility} :
    visibility? item = some visibility ↔ NamesVisibility item visibility := by
  -- Only a member has an owner, and then its own name tells the visibility.
  constructor
  · intro found
    unfold visibility? at found
    split at found
    · split at found
      · rw [Visibility.ofMember?_eq_some_iff.mp found]
        exact .member (lastName?_eq_some_iff.mp ‹_›) _
      · cases found
    · cases found
  · rintro ⟨named⟩
    rw [visibility?, if_pos (lastName?_eq_some_iff.mpr named), Visibility.ofMember?_eq_some_iff]

/-- A call names no visibility. -/
theorem visibility?_of_isPrefixCall {item : Expression} {arguments : List Expression}
    (isCall : IsPrefixCall item arguments) : visibility? item = none := by
  -- A call is no name.
  cases isCall
  rfl

/-- The tokens of a prefix are those of its arguments, which only a malformed one that cannot be written out has not. -/
theorem prefixTokens_cases (resolve : String → LiteralText) {item : Expression}
    {arguments : List Expression}
    (isCall : IsPrefixCall item arguments) :
    (∃ tokens, TokensOf (resolve · = ·) arguments tokens ∧
      prefixTokens resolve item arguments = .ok tokens) ∨
    ∃ cause, IsUnwritten item arguments cause ∧
      prefixTokens resolve item arguments = .error (.writing cause) := by
  -- The declaration is written out only where its arguments have no tokens.
  unfold prefixTokens
  cases told : argumentTokens? resolve arguments with
  | some tokens => exact .inl ⟨tokens, .each (argumentTokens?_eq_some_iff.mp told), rfl⟩
  | none =>
    obtain ⟨argument, member, malformed⟩ := argumentTokens?_eq_none_iff.mp told
    cases written : item.write with
    | ok text => exact .inl ⟨[], .malformed member malformed, rfl⟩
    | error cause => exact .inr ⟨cause, ⟨isCall, ⟨argument, member, malformed⟩, written⟩, rfl⟩

/-- What an item adds: a prefix its tokens, and any other one the visibility that it names; only a malformed prefix that cannot be written out fails. -/
theorem add_cases (resolve : String → LiteralText) (known : SlotMetadata) (item : Expression) :
    (∃ arguments tokens, IsPrefixCall item arguments ∧ TokensOf (resolve · = ·) arguments tokens ∧
      add resolve known item = .ok { known with prefixes := known.prefixes ++ [tokens] }) ∨
    (prefixArguments? item = none ∧
      add resolve known item =
        .ok { known with visibility := known.visibility.or (visibility? item) }) ∨
    ∃ arguments cause, IsUnwritten item arguments cause ∧
      add resolve known item = .error (.writing cause) := by
  -- An item is looked at as a prefix first; what is none may name a visibility.
  unfold add
  cases found : prefixArguments? item with
  | none => exact .inr (.inl ⟨rfl, rfl⟩)
  | some arguments =>
    have isCall := prefixArguments?_eq_some_iff.mp found
    dsimp only
    rcases prefixTokens_cases resolve isCall with
      ⟨tokens, told, same⟩ | ⟨cause, unwritten, same⟩
    · rw [same]
      exact .inl ⟨arguments, tokens, isCall, told, rfl⟩
    · rw [same]
      exact .inr (.inr ⟨arguments, cause, unwritten, rfl⟩)

/-- An item fails exactly if it is a malformed prefix that cannot be written out. -/
theorem add_fails_iff {known : SlotMetadata} {item : Expression} :
    (∃ cause, add resolve known item = .error cause) ↔
      ∃ arguments cause, IsUnwritten item arguments cause := by
  -- The three ways for an item exclude each other, and only one of them fails.
  constructor
  · rintro ⟨cause, fails⟩
    rcases add_cases resolve known item with
      ⟨_, _, _, _, same⟩ | ⟨_, same⟩ | ⟨arguments, cause, unwritten, _⟩
    · cases fails.symm.trans same
    · cases fails.symm.trans same
    · exact ⟨arguments, cause, unwritten⟩
  · rintro ⟨arguments, cause, isCall, malformed, unwritten⟩
    refine ⟨.writing cause, ?_⟩
    rw [add, prefixArguments?_eq_some_iff.mpr isCall]
    dsimp only
    rw [prefixTokens, argumentTokens?_eq_none_iff.mpr malformed]
    dsimp only
    rw [unwritten]
    rfl

/-- Metadata adds the tokens of its prefixes in their order, and the first visibility that is named if there is none yet. -/
theorem foldlM_add {metadata : List Expression} {known found : SlotMetadata}
    (collected : metadata.foldlM (add resolve) known = .ok found) :
    (∃ tokens, found.prefixes = known.prefixes ++ tokens ∧
      List.Forall₂ (TokensOf (resolve · = ·)) (metadata.filterMap prefixArguments?) tokens) ∧
    found.visibility = known.visibility.or (metadata.findSome? visibility?) := by
  induction metadata generalizing known with
  | nil =>
    cases collected
    exact ⟨⟨[], by simp⟩, by simp⟩
  | cons item rest ih =>
    rw [List.foldlM_cons] at collected
    obtain ⟨next, added, collected⟩ := bind_eq_ok collected
    obtain ⟨⟨others, prefixes, told⟩, visibility⟩ := ih collected
    -- An item is a prefix, or may be a visibility, which counts only if none is known.
    rcases add_cases resolve known item with
      ⟨arguments, tokens, isCall, here, same⟩ | ⟨noCall, same⟩ | ⟨_, _, _, fails⟩
    · cases added.symm.trans same
      refine ⟨⟨tokens :: others, by simpa using prefixes, ?_⟩, ?_⟩
      · rw [List.filterMap_cons, prefixArguments?_eq_some_iff.mpr isCall]
        exact .cons here told
      · simpa [visibility?_of_isPrefixCall isCall] using visibility
    · cases added.symm.trans same
      refine ⟨⟨others, prefixes, by rwa [List.filterMap_cons, noCall]⟩, ?_⟩
      rw [visibility, List.findSome?_cons, Option.or_assoc]
      cases visibility? item <;> rfl
    · cases added.symm.trans fails

/-- Metadata as a whole tells the tokens of its first prefix and the first visibility that it names. -/
theorem collect_eq_ok {metadata : List Expression} {found : SlotMetadata}
    (collected : collect resolve metadata = .ok found) :
    (∃ first, FirstTold IsPrefixCall metadata first ∧
      PrefixTokens (resolve · = ·) first (Slot.choosePrefix found.prefixes)) ∧
    FirstTold NamesVisibility metadata found.visibility := by
  -- The tokens are listed for all prefixes, of which the first counts.
  obtain ⟨⟨tokens, prefixes, told⟩, visibility⟩ := foldlM_add collected
  constructor
  · refine ⟨metadata.findSome? prefixArguments?,
      firstTold_findSome? (fun _ _ => prefixArguments?_eq_some_iff) metadata, ?_⟩
    rw [prefixes, List.nil_append, ← List.head?_filterMap]
    generalize metadata.filterMap prefixArguments? = calls at told
    cases told with
    | nil => exact .absent
    | cons here others => exact .present here
  · rw [visibility, Option.none_or]
    exact firstTold_findSome? (fun _ _ => visibility?_eq_some_iff) metadata

/-- Metadata fails exactly if it holds a malformed prefix that cannot be written out. -/
theorem collect_fails_iff {metadata : List Expression} :
    (∃ cause, collect resolve metadata = .error cause) ↔
      ∃ item ∈ metadata, ∃ arguments cause, IsUnwritten item arguments cause := by
  unfold collect
  generalize ({} : SlotMetadata) = known
  induction metadata generalizing known with
  | nil =>
    simp only [List.not_mem_nil, false_and, exists_false, iff_false, not_exists]
    intro cause fails
    cases fails
  | cons item rest ih =>
    rw [List.foldlM_cons, bind_fails_iff, add_fails_iff, List.exists_mem_cons_iff]
    simp only [ih]
    -- Behind an item that does not fail, the rest decides.
    cases added : add resolve known item with
    | ok next => simp
    | error cause =>
      have fails := add_fails_iff.mp ⟨cause, added⟩
      exact iff_of_true (.inl fails) (.inl fails)

end SlotMetadata

end Discovery

end PermissionNames
