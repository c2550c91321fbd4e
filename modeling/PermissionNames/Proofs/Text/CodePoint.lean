import PermissionNames.Text.CodePoint

/-! Texts of literals are told apart by their code points, and strings are those without surrogates. -/

namespace PermissionNames

namespace CodePoint

/-- Code points have characters exactly if they are those of a text. -/
theorem characters?_eq_some_iff {points : List CodePoint} {text : List Char} :
    characters? points = some text ↔ points = text.map .character := by
  -- The first surrogate, if there is one, is no character of a text.
  induction points generalizing text with
  | nil => cases text <;> simp [characters?]
  | cons point rest ih =>
    cases point with
    | surrogate half => cases text <;> simp [characters?]
    | character c =>
      cases text with
      | nil => simp [characters?]
      | cons first later =>
        simp only [characters?, Option.map_eq_some_iff, ih, List.cons.injEq, List.map_cons,
          character.injEq]
        grind

/-- Code points have no characters exactly if a surrogate is among them. -/
theorem characters?_eq_none_iff {points : List CodePoint} :
    characters? points = none ↔ ∃ half, .surrogate half ∈ points := by
  -- A surrogate stops the reading, and a character leaves it to the rest.
  induction points with
  | nil => simp [characters?]
  | cons point rest ih => cases point <;> simp [characters?, ih]

/-- A character has its own number. -/
theorem ofNumber_toNat (c : Char) : ofNumber c.toNat = .character c := by
  -- The numbers of characters leave out those of surrogates.
  have valid : c.toNat < 0xD800 ∨ 0xDFFF < c.toNat ∧ c.toNat < 0x110000 := c.valid
  rw [ofNumber, dif_neg (by omega), Char.ofNat_toNat]

end CodePoint

namespace LiteralText

/-- Characters make up a string. -/
theorem ofPoints_character (text : List Char) :
    ofPoints (text.map .character) = plain (String.ofList text) := by
  -- Characters are read back, so the second branch is not taken.
  have read := CodePoint.characters?_eq_some_iff.mpr (rfl : text.map CodePoint.character = _)
  unfold ofPoints
  split
  · rename_i found same
    cases read.symm.trans same
    rfl
  · rename_i none
    cases read.symm.trans none

/-- The code points of a text make it up again. -/
theorem ofPoints_points (text : LiteralText) : ofPoints text.points = text := by
  -- A broken text says itself that its points have no characters.
  cases text with
  | plain text => rw [points, ofPoints_character, String.ofList_toList]
  | broken points isBroken =>
    unfold ofPoints
    split
    · rename_i found same
      cases isBroken.symm.trans same
    · rfl

/-- What code points make up has these code points. -/
theorem points_ofPoints (points : List CodePoint) : (ofPoints points).points = points := by
  -- Both branches keep the points, the first one as characters.
  unfold ofPoints
  split
  · rename_i text read
    rw [LiteralText.points, String.toList_ofList, CodePoint.characters?_eq_some_iff.mp read]
  · rfl

/-- Texts with the same code points are the same. -/
theorem points_injective : Function.Injective points :=
  Function.LeftInverse.injective ofPoints_points

/-- Code points make up a string exactly if they are its characters. -/
theorem ofPoints_eq_plain_iff {points : List CodePoint} {text : String} :
    ofPoints points = plain text ↔ points = text.toList.map .character := by
  -- Texts are told apart by their points.
  rw [← points_injective.eq_iff, points_ofPoints]
  rfl

/-- A text has as many code points as it is long. -/
theorem length_points (text : LiteralText) : text.points.length = text.length := by
  -- A broken text is its points.
  cases text with
  | plain text => simp [points, length, String.length_toList]
  | broken points isBroken => rfl

/-- What code points make up is as long as they are many. -/
theorem length_ofPoints (points : List CodePoint) : (ofPoints points).length = points.length := by
  rw [← length_points, points_ofPoints]

/-- A single text is joined to itself. -/
theorem join_singleton (text : LiteralText) : join [text] = text := by
  rw [join, List.flatMap_singleton, ofPoints_points]

/-- A text that is joined in front of others adds its length. -/
theorem length_join_cons (first : LiteralText) (rest : List LiteralText) :
    (join (first :: rest)).length = first.length + (join rest).length := by
  -- The points of joined texts are the points of each, one after another.
  rw [join, join, length_ofPoints, length_ofPoints, List.flatMap_cons, List.length_append,
    length_points]

/-- A text in which a surrogate stands. -/
def HoldsSurrogate (text : LiteralText) : Prop :=
  ∃ half, .surrogate half ∈ text.points

/-- A text has no encoding exactly if a surrogate stands in it. -/
theorem isEncodable_eq_false_iff {text : LiteralText} :
    text.isEncodable = false ↔ text.HoldsSurrogate := by
  cases text with
  | plain text => simp [isEncodable, HoldsSurrogate, points]
  | broken points isBroken =>
    -- Code points without characters hold a surrogate.
    simpa [isEncodable, HoldsSurrogate, LiteralText.points] using
      CodePoint.characters?_eq_none_iff.mp isBroken

end LiteralText

end PermissionNames
