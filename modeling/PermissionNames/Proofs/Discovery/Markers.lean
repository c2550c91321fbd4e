import Mathlib.Data.Nat.Bitwise
import PermissionNames.Proofs.Discovery.Classes

/-! The options that discovery reads from the markers of a class: the union of what the leaves of their expression stand for, or none at all. -/

namespace PermissionNames

namespace Flags

/-- The options that are on in one of two. -/
def union (first second : Flags) : Flags where
  obfuscate := first.obfuscate || second.obfuscate
  upperCase := first.upperCase || second.upperCase
  parsePrefix := first.parsePrefix || second.parsePrefix
  emitEnumeration := first.emitEnumeration || second.emitEnumeration

/-- The options that are on in one of several numbers. -/
def unionOf (bits : List Nat) : Flags :=
  (bits.map fun number => ofBits number).foldr union none

/-- A number stands for the options of its lowest bits. -/
theorem ofBits_natCast (number : Nat) : ofBits number =
    ⟨number.testBit 0, number.testBit 1, number.testBit 2, number.testBit 3⟩ := by
  -- The four lowest bits are all that is kept of a number.
  have low : ((number : Int) % 16).toNat = number % 2 ^ 4 := by omega
  simp only [ofBits, low, Nat.testBit_mod_two_pow]
  rfl

/-- The union of numbers stands for the union of their options. -/
theorem ofBits_lor (left right : Nat) :
    ofBits ((left ||| right : Nat) : Int) = (ofBits left).union (ofBits right) := by
  simp [ofBits_natCast, union]

/-- The union of several numbers stands for the union of their options. -/
theorem ofBits_foldr_lor (bits : List Nat) :
    ofBits ((bits.foldr (· ||| ·) 0 : Nat) : Int) = unionOf bits := by
  -- The union is built from the right, as the list is.
  induction bits with
  | nil => rfl
  | cons first later ih => rw [List.foldr_cons, ofBits_lor, ih]; rfl

end Flags

/-- The union of the numbers of two lists is that of their unions. -/
theorem foldr_lor_append (first second : List Nat) :
    (first ++ second).foldr (· ||| ·) 0 = first.foldr (· ||| ·) 0 ||| second.foldr (· ||| ·) 0 := by
  -- The numbers of the first list are joined one by one.
  induction first with
  | nil => simp
  | cons head later ih => simp [ih, Nat.lor_assoc]

/-- What is related to two lists behind each other falls into what is related to each. -/
theorem forall₂_append_left_iff {α β : Type} {relation : α → β → Prop} {first second : List α}
    {others : List β} : List.Forall₂ relation (first ++ second) others ↔
      ∃ before after, List.Forall₂ relation first before ∧ List.Forall₂ relation second after ∧
        others = before ++ after := by
  -- The first list is taken apart alongside what is related to it.
  constructor
  · intro related
    induction first generalizing others with
    | nil => exact ⟨[], others, .nil, related, rfl⟩
    | cons head rest ih =>
      rw [List.cons_append] at related
      obtain ⟨other, later, here, others, rfl⟩ := List.forall₂_cons_left_iff.mp related
      obtain ⟨before, after, left, right, rfl⟩ := ih others
      exact ⟨other :: before, after, .cons here left, right, rfl⟩
  · rintro ⟨before, after, left, right, rfl⟩
    exact List.rel_append left right

namespace Discovery

open Source

/-- The operands of a union, however it is nested; of anything else the expression itself. -/
def leaves : Expression → List Expression
  | .binary .bitOr left right => leaves left ++ leaves right
  | expression => [expression]

/-- An integer stands for itself, and what ends with the name of a member for that. -/
inductive StandsFor : Expression → Nat → Prop
  | integer (value : Nat) : StandsFor (.constant (.number (.integer value))) value
  | member {reference : Expression} {name : String} {bits : Nat} (named : EndsWith name reference)
    (listed : Flags.member? name = some bits) : StandsFor reference bits

/-- What stands for a number is read as that number. -/
theorem StandsFor.flagBits?_eq {leaf : Expression} {bits : Nat} (stands : StandsFor leaf bits) :
    flagBits? leaf = some bits := by
  -- Each form of a leaf is read as it is written.
  cases stands with
  | integer value => rfl
  | member named listed =>
    obtain same | owner := named
    · rw [← same] at listed
      exact listed
    · exact listed

/-- An expression stands for one number at most. -/
theorem rightUnique_standsFor : Relator.RightUnique StandsFor := by
  -- Both numbers are what is read, and reading gives one.
  intro leaf first second one other
  exact Option.some.inj (one.flagBits?_eq.symm.trans other.flagBits?_eq)

/-- What is no union is read as the number that it stands for. -/
theorem flagBits?_leaf {leaf : Expression} {bits : Nat}
    (single : ∀ left right, leaf ≠ .binary .bitOr left right) :
    flagBits? leaf = some bits ↔ StandsFor leaf bits := by
  -- Apart from unions there are three forms, each standing for what is read.
  refine ⟨fun read => ?_, StandsFor.flagBits?_eq⟩
  unfold flagBits? at read
  split at read
  · cases read
    exact .integer _
  · exact .member (.name rfl) read
  · exact .member (.attribute _) read
  · exact absurd rfl (single _ _)
  · cases read

/-- A union is read as that of what is read on both sides. -/
theorem flagBits?_union {left right : Expression} {total : Nat} :
    flagBits? (.binary .bitOr left right) = some total ↔
      ∃ first second, flagBits? left = some first ∧ flagBits? right = some second ∧
        total = first ||| second := by
  -- Both sides have to be read for the union to be.
  simp only [flagBits?, Option.bind_eq_bind, Option.bind_eq_some_iff, Option.pure_def,
    Option.some.injEq]
  grind

/-- An expression is read as the union of what its leaves stand for. -/
theorem flagBits?_eq_some_iff {expression : Expression} {total : Nat} :
    flagBits? expression = some total ↔
      ∃ bits, List.Forall₂ StandsFor (leaves expression) bits ∧
        total = bits.foldr (· ||| ·) 0 := by
  -- The induction follows the union down to its leaves.
  fun_induction leaves expression generalizing total with
  | case1 left right ihLeft ihRight =>
    simp only [flagBits?_union, ihLeft, ihRight, forall₂_append_left_iff]
    constructor
    · rintro ⟨_, _, ⟨before, standLeft, rfl⟩, ⟨after, standRight, rfl⟩, rfl⟩
      exact ⟨before ++ after, ⟨before, after, standLeft, standRight, rfl⟩,
        (foldr_lor_append before after).symm⟩
    · rintro ⟨_, ⟨before, after, standLeft, standRight, rfl⟩, rfl⟩
      exact ⟨_, _, ⟨before, standLeft, rfl⟩, ⟨after, standRight, rfl⟩,
        foldr_lor_append before after⟩
  | case2 leaf single =>
    simp [flagBits?_leaf single, List.forall₂_cons_left_iff]

/-- An expression of which a leaf stands for no number. -/
def HasUnknown (expression : Expression) : Prop :=
  ∃ leaf ∈ leaves expression, ∀ bits, ¬ StandsFor leaf bits

/-- An expression is not read if a leaf stands for no number. -/
theorem flagBits?_eq_none_iff {expression : Expression} :
    flagBits? expression = none ↔ HasUnknown expression := by
  -- The leaves of a union are those of both sides, and one unknown leaf is enough.
  unfold HasUnknown
  fun_induction leaves expression with
  | case1 left right ihLeft ihRight =>
    simp only [List.mem_append, or_and_right, exists_or, ← ihLeft, ← ihRight]
    cases left : flagBits? left <;> cases right : flagBits? right <;> simp [flagBits?, left, right]
  | case2 leaf single =>
    simp only [Option.eq_none_iff_forall_ne_some, ne_eq, flagBits?_leaf single, List.mem_singleton,
      exists_eq_left]

/-- The options that a marker declares: without an expression of them none, the union of what the leaves stand for, and none if a leaf stands for nothing. -/
inductive DeclaresFlags : Option Expression → Flags → Prop
  | omitted : DeclaresFlags none Flags.none
  | union {expression : Expression} {bits : List Nat}
      (known : List.Forall₂ StandsFor (leaves expression) bits) :
      DeclaresFlags (some expression) (Flags.unionOf bits)
  | unsupported {expression : Expression} (unknown : HasUnknown expression) :
      DeclaresFlags (some expression) Flags.none

/-- Options whose leaves all stand for numbers are the union of those. -/
theorem DeclaresFlags.eq_unionOf {options : Option Expression} {flags : Flags} {bits : List Nat}
    (declares : DeclaresFlags options flags)
    (known : List.Forall₂ StandsFor (options.elim [] leaves) bits) :
    flags = Flags.unionOf bits := by
  cases declares with
  | omitted =>
    cases known
    rfl
  | union others =>
    rw [List.right_unique_forall₂' rightUnique_standsFor known others]
  | unsupported unknown =>
    -- An expression cannot be read and not be read.
    rw [← flagBits?_eq_none_iff] at unknown
    have read := flagBits?_eq_some_iff.mpr ⟨bits, known, rfl⟩
    cases unknown.symm.trans read

/-- A marker has the options that it declares; they are told unless a leaf stands for no number and the expression cannot be written. -/
theorem ClassMarker.evaluate_cases (marker : ClassMarker) (className : String) :
    (∃ flags notices, marker.evaluate className = .ok (flags, notices) ∧
      DeclaresFlags marker.flags flags) ∨
    ∃ expression cause, marker.flags = some expression ∧ HasUnknown expression ∧
      expression.write = .error cause ∧ marker.evaluate className = .error (.writing cause) := by
  obtain ⟨kind, options⟩ := marker
  cases options with
  | none => exact .inl ⟨_, _, rfl, .omitted⟩
  | some expression =>
    -- Only an expression that is not read is written, for the notice about it.
    cases read : flagBits? expression with
    | some total =>
      obtain ⟨bits, known, rfl⟩ := flagBits?_eq_some_iff.mp read
      refine .inl ⟨Flags.unionOf bits, [], ?_, .union known⟩
      simp only [evaluate, read, Flags.ofBits_foldr_lor]
    | none =>
      have unknown := flagBits?_eq_none_iff.mp read
      cases written : expression.write with
      | ok text =>
        refine .inl ⟨Flags.none, [⟨className, text⟩], ?_, .unsupported unknown⟩
        simp only [evaluate, read, written, Flags.none]
      | error cause =>
        refine .inr ⟨expression, cause, rfl, unknown, written, ?_⟩
        simp only [evaluate, read, written]

/-- A decorator that is the marker of a kind in one of its forms, with the expression of its options if it has one. -/
inductive MarkerForm (kind : ContainerKind) : Expression → Option Expression → Prop
  | bare {decorator : Expression} (named : EndsWith kind.markerName decorator) :
      MarkerForm kind decorator none
  | called {function : Expression} (named : EndsWith kind.markerName function) :
      MarkerForm kind (.call function [] []) none
  | positional {function : Expression} (named : EndsWith kind.markerName function)
      (options : Expression) : MarkerForm kind (.call function [options] []) (some options)
  | keyword {function : Expression} (named : EndsWith kind.markerName function)
      (options : Expression) :
      MarkerForm kind (.call function [] [(some "flags", options)]) (some options)

/-- A marker in one of its forms is recognised with its options. -/
theorem MarkerForm.ofDecorator?_eq {kind : ContainerKind} {decorator : Expression}
    {options : Option Expression} (form : MarkerForm kind decorator options) :
    ClassMarker.ofDecorator? decorator = some ⟨kind, options⟩ := by
  -- In every form the name at the end tells the kind, and the arguments the options.
  have declared := ContainerKind.ofMarker?_eq_some_iff.mpr (rfl : kind.markerName = kind.markerName)
  cases form with
  | bare named =>
    obtain same | owner := named
    · simp [ClassMarker.ofDecorator?, Expression.lastName?, same, declared]
    · simp [ClassMarker.ofDecorator?, Expression.lastName?, declared]
  | called named | positional named options | keyword named options =>
    rw [← lastName?_eq_some_iff] at named
    simp [ClassMarker.ofDecorator?, ClassMarker.flagsArgument, named, declared]

/-- Decorators of which the first that is a marker has one of its forms. -/
def FirstForm (kind : ContainerKind) (options : Option Expression)
    (decorators : List Expression) : Prop :=
  ∃ before decorator after, decorators = before ++ decorator :: after ∧
    MarkerForm kind decorator options ∧ ∀ earlier ∈ before, ∀ other, ¬ Marks other earlier

/-- A marker that comes first, in one of its forms, is found with its options. -/
theorem FirstForm.find?_eq {kind : ContainerKind} {options : Option Expression}
    {decorators : List Expression} (first : FirstForm kind options decorators) :
    ClassMarker.find? decorators = some ⟨kind, options⟩ := by
  -- Nothing in front is a marker, so the search ends at this one.
  obtain ⟨before, decorator, after, rfl, form, unmarked⟩ := first
  refine List.findSome?_eq_some_iff.mpr ⟨before, decorator, after, rfl, form.ofDecorator?_eq, ?_⟩
  exact fun earlier member => ofDecorator?_eq_none_iff.mpr (unmarked earlier member)

end Discovery

end PermissionNames
