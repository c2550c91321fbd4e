import Mathlib.Data.List.Forall2
import PermissionNames.Source.Parser

/-! What readers do with the lexemes in front of them. -/

namespace PermissionNames.Source.Parser

variable {α β : Type} {lexemes rest : List Lexeme}

/-- A sequence goes on with the lexemes that its first step leaves. -/
@[simp]
theorem bind_apply (first : Parser α) (next : α → Parser β) (lexemes : List Lexeme) :
    (first >>= next) lexemes = (first lexemes).bind fun taken => next taken.1 taken.2 :=
  rfl

/-- A value is given without taking anything. -/
@[simp]
theorem pure_apply (value : α) (lexemes : List Lexeme) :
    (pure value : Parser α) lexemes = some (value, lexemes) :=
  rfl

/-- A mapped value leaves the same lexemes. -/
@[simp]
theorem map_apply (change : α → β) (item : Parser α) (lexemes : List Lexeme) :
    (change <$> item) lexemes = (item lexemes).map fun taken => (change taken.1, taken.2) := by
  -- The reader is a state transformer, whose mapping is unfolded once here.
  change (StateT.map change item) lexemes = _
  unfold StateT.map
  cases item lexemes <;> rfl

/-- An alternative starts over with all lexemes. -/
@[simp]
theorem orElse_apply (first second : Parser α) (lexemes : List Lexeme) :
    (first <|> second) lexemes = (first lexemes).or (second lexemes) := by
  -- The reader is a state transformer, whose alternatives are unfolded once here.
  change (StateT.orElse first fun _ => second) lexemes = _
  unfold StateT.orElse
  cases first lexemes <;> rfl

/-- A refusal gives nothing. -/
@[simp]
theorem failure_apply (lexemes : List Lexeme) : (failure : Parser α) lexemes = none :=
  rfl

/-- The lexemes are looked at without taking any. -/
@[simp]
theorem get_apply (lexemes : List Lexeme) :
    (get : Parser (List Lexeme)) lexemes = some (lexemes, lexemes) :=
  rfl

/-- The first lexeme is taken, whatever it is. -/
@[simp]
theorem next_cons (first : Lexeme) (rest : List Lexeme) :
    next (first :: rest) = some (first, rest) :=
  rfl

/-- There is no lexeme at the end. -/
@[simp]
theorem next_nil : next [] = none :=
  rfl

/-- A lexeme is taken where it is wanted, and left where not. -/
@[simp]
theorem accepts_cons (wanted first : Lexeme) (rest : List Lexeme) :
    accepts wanted (first :: rest) =
      if first = wanted then some (true, rest) else some (false, first :: rest) :=
  rfl

/-- A lexeme that is not there is not taken. -/
theorem accepts_of_head? {wanted : Lexeme} (other : lexemes.head? ≠ some wanted) :
    accepts wanted lexemes = some (false, lexemes) := by
  -- Without lexemes there is nothing to take, and with some the first one differs.
  cases lexemes with
  | nil => rfl
  | cons first later =>
    rw [accepts_cons, if_neg (by simpa using other)]

/-- A lexeme that has to be there is missed. -/
theorem expect_of_head? {wanted : Lexeme} (other : lexemes.head? ≠ some wanted) :
    expect wanted lexemes = none := by
  -- Without lexemes there is nothing to take, and with some the first one differs.
  cases lexemes with
  | nil => rfl
  | cons first later =>
    rw [expect, if_neg (by simpa using other)]

/-- A lexeme is taken where it has to be. -/
@[simp]
theorem expect_cons (wanted first : Lexeme) (rest : List Lexeme) :
    expect wanted (first :: rest) = if first = wanted then some ((), rest) else none :=
  rfl

/-- A sign is taken where it has to be. -/
@[simp]
theorem sign_cons (text : String) (first : Lexeme) (rest : List Lexeme) :
    sign text (first :: rest) = if first = .sign text then some ((), rest) else none :=
  rfl

/-- A keyword is taken where it has to be. -/
@[simp]
theorem keyword_cons (word : String) (first : Lexeme) (rest : List Lexeme) :
    keyword word (first :: rest) = if first = .keyword word then some ((), rest) else none :=
  rfl

/-- A lexeme is looked for without taking it. -/
@[simp]
theorem sees_cons (wanted first : Lexeme) (rest : List Lexeme) :
    sees wanted (first :: rest) = some (first == wanted, first :: rest) := by
  simp [sees]

/-- A name is taken in its normal form. -/
@[simp]
theorem name_cons (word : Identifier.Word) (rest : List Lexeme) :
    name (.name word :: rest) = some (word.normalize, rest) :=
  rfl

/-- The text of a name is taken. -/
@[simp]
theorem identifier_cons (word : Identifier.Word) (rest : List Lexeme) :
    identifier (.name word :: rest) = some (word.normalize.text, rest) :=
  rfl

/-- What holds needs nothing. -/
@[simp]
theorem ensure_true (lexemes : List Lexeme) : ensure true lexemes = some ((), lexemes) :=
  rfl

/-- What does not hold is refused. -/
@[simp]
theorem ensure_false (lexemes : List Lexeme) : ensure false lexemes = none :=
  rfl

/-- A value that is not there is left out. -/
@[simp]
theorem ifAny_apply (item : Parser α) (lexemes : List Lexeme) :
    ifAny item lexemes = some (match item lexemes with
      | none => (none, lexemes)
      | some (value, rest) => (some value, rest)) := by
  -- A refusal takes nothing, so the same lexemes are left.
  unfold ifAny
  cases taken : item lexemes <;> simp [taken]

/-- Values that are refused at once are taken no times. -/
theorem many_refused {item : Parser α} (refused : item lexemes = none) (limit : Nat) :
    many item limit lexemes = some ([], lexemes) := by
  -- The first attempt ends the repetition.
  cases limit with
  | zero => rfl
  | succ limit =>
    rw [many]
    simp [refused]

/-- Whether a reader takes lexemes as a value, whatever follows them. -/
def Takes (item : Parser α) (taken : List Lexeme) (value : α) : Prop :=
  ∀ rest, item (taken ++ rest) = some (value, rest)

section Takes

variable {first : Parser α} {next : α → Parser β} {value : α} {result : β}

/-- A sequence takes what its first step takes alone and then what the others take. -/
theorem Takes.cons {head : Lexeme} {tail : List Lexeme}
    (here : ∀ rest, first (head :: rest) = some (value, rest))
    (behind : Takes (next value) tail result) : Takes (first >>= next) (head :: tail) result := by
  -- The first step leaves all that stands behind its lexeme.
  intro rest
  rw [List.cons_append, bind_apply, here]
  exact behind rest

/-- A sequence takes what its first step takes in front of what the others take. -/
theorem Takes.append {taken others : List Lexeme}
    (here : ∀ rest, first (taken ++ (others ++ rest)) = some (value, others ++ rest))
    (behind : Takes (next value) others result) :
    Takes (first >>= next) (taken ++ others) result := by
  -- The first step leaves what the others take and what is behind it.
  intro rest
  rw [List.append_assoc, bind_apply, here]
  exact behind rest

/-- A value is given without taking anything. -/
theorem takes_pure (value : α) : Takes (pure value) [] value :=
  fun _ => rfl

/-- A lexeme that has to be there is taken. -/
theorem expect_self (wanted : Lexeme) (rest : List Lexeme) :
    expect wanted (wanted :: rest) = some ((), rest) := by
  rw [expect_cons, if_pos rfl]

/-- A sequence is refused where its first step is. -/
theorem bind_refused (refused : first lexemes = none) (next : α → Parser β) :
    (first >>= next) lexemes = none := by
  -- Without a value there is nothing to go on with.
  rw [bind_apply, refused]
  rfl

end Takes

section Many

variable {ε : Type} {item : Parser α} {entries : List ε} {written : ε → List Lexeme}

/-- Values that are taken one after the other are taken together, up to where one is refused. -/
theorem many_takes {values : List α}
    (takes : List.Forall₂ (fun entry value => Takes item (written entry) value) entries values)
    (refused : item rest = none) {limit : Nat} (room : entries.length ≤ limit) :
    many item limit (entries.flatMap written ++ rest) = some (values, rest) := by
  -- Each entry takes one from the limit, and behind the last one the refusal ends the repetition.
  induction takes generalizing limit with
  | nil => exact many_refused refused limit
  | cons here _ ih =>
    obtain ⟨limit, rfl⟩ := Nat.exists_eq_add_of_le' (Nat.le_of_add_left_le room : 1 ≤ limit)
    have others := ih (Nat.le_of_succ_le_succ room)
    rw [List.flatMap_cons, List.append_assoc, many]
    simp [here _, others]

/-- Values that are told by what is written are taken together, up to where one is refused. -/
theorem many_taken {value : ε → α}
    (taken : ∀ entry ∈ entries, ∀ rest, item (written entry ++ rest) = some (value entry, rest))
    (refused : item rest = none) {limit : Nat} (room : entries.length ≤ limit) :
    many item limit (entries.flatMap written ++ rest) = some (entries.map value, rest) := by
  -- The values are those of the entries, so both lists are compared one by one.
  refine many_takes ?_ refused room
  rw [List.forall₂_map_right_iff, List.forall₂_same]
  exact taken

/-- At least one value is taken together with those behind it. -/
theorem some1_takes {values : List α}
    (takes : List.Forall₂ (fun entry value => Takes item (written entry) value) entries values)
    (full : entries ≠ []) (refused : item rest = none) {limit : Nat}
    (room : entries.length ≤ limit + 1) :
    some1 item limit (entries.flatMap written ++ rest) = some (values, rest) := by
  -- The first entry is taken outside the repetition, so the limit needs no room for it.
  cases takes with
  | nil => exact absurd rfl full
  | cons here others =>
    have behind := many_takes others refused (Nat.le_of_succ_le_succ room)
    rw [List.flatMap_cons, List.append_assoc, some1]
    simp [here _, behind]

end Many

end PermissionNames.Source.Parser
