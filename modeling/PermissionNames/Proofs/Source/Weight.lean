import PermissionNames.Proofs.Source.Blocks

/-! Readers of lexemes on a scale: whatever lexemes weigh, nothing is handed on that has not been taken. -/

namespace PermissionNames.Source

/-- What several values weigh together. -/
def total {α : Type} (weight : α → Nat) : List α → Nat
  | [] => 0
  | first :: rest => weight first + total weight rest

section Total

variable {α : Type} (weight : α → Nat)

/-- Nothing weighs nothing. -/
@[simp]
theorem total_nil : total weight [] = 0 :=
  rfl

/-- The first value weighs as much as is missing without it. -/
@[simp]
theorem total_cons (first : α) (rest : List α) :
    total weight (first :: rest) = weight first + total weight rest :=
  rfl

/-- Values behind others add to what these weigh. -/
@[simp]
theorem total_append (front rest : List α) :
    total weight (front ++ rest) = total weight front + total weight rest := by
  -- The values in front are counted off one by one.
  induction front with
  | nil => simp
  | cons first others ih => simp [ih, Nat.add_assoc]

end Total

namespace Parser

variable {α β : Type} {lexical : Lexeme → Nat} {spent : Nat} {weight : α → Nat}
variable {item : Parser α}

/-- A reader whose value and what is left behind it weigh no more than what was spent before and what is in front. -/
def Keeps (lexical : Lexeme → Nat) (spent : Nat) (weight : α → Nat) (item : Parser α) : Prop :=
  ∀ lexemes value rest, item lexemes = some (value, rest) →
    weight value + total lexical rest ≤ spent + total lexical lexemes

/-- A reader that leaves no more than what is in front. -/
def Passes (lexical : Lexeme → Nat) (item : Parser α) : Prop :=
  Keeps lexical 0 (fun _ => 0) item

/-- A value that weighs no more than what was spent is given. -/
theorem keeps_pure {value : α} (covered : weight value ≤ spent) :
    Keeps lexical spent weight (pure value) := by
  -- Nothing is taken, so what was spent is all that may weigh.
  intro lexemes found rest taken
  rw [pure_apply] at taken
  cases taken
  omega

/-- A value that weighs nothing leaves what is in front. -/
theorem passes_pure (value : α) : Passes lexical (pure value) :=
  keeps_pure (Nat.le_refl _)

/-- A refusal gives nothing. -/
theorem keeps_failure : Keeps lexical spent weight (failure : Parser α) := by
  -- There is nothing that was taken.
  intro lexemes found rest taken
  cases taken

/-- What weighs less is kept if more was spent. -/
theorem Keeps.mono {less : Nat} {more : α → Nat} (keeps : Keeps lexical less more item)
    (spends : less ≤ spent) (weighs : ∀ value, weight value ≤ more value) :
    Keeps lexical spent weight item := by
  -- The bound of the heavier weight is a bound of the lighter one.
  intro lexemes value rest taken
  have kept := keeps lexemes value rest taken
  have lighter := weighs value
  omega

/-- A reader that keeps what it takes leaves no more than what is in front. -/
theorem Keeps.passes (keeps : Keeps lexical 0 weight item) : Passes lexical item :=
  keeps.mono (Nat.le_refl _) fun _ => Nat.zero_le _

/-- What the first step gives is spent in the next one. -/
theorem Keeps.bind {first : Parser β} {next : β → Parser α} {middle : β → Nat}
    (start : Keeps lexical spent middle first)
    (last : ∀ value, Keeps lexical (middle value) weight (next value)) :
    Keeps lexical spent weight (first >>= next) := by
  -- The lexemes between both steps are counted by the first and taken by the second.
  intro lexemes found rest taken
  obtain ⟨value, later, started, ended⟩ := taken_of_bind taken
  exact Nat.le_trans (last value _ _ _ ended) (start _ _ _ started)

/-- What was spent before a step whose value weighs nothing is spent behind it. -/
theorem Passes.bind {first : Parser β} {next : β → Parser α} (start : Passes lexical first)
    (last : ∀ value, Keeps lexical spent weight (next value)) :
    Keeps lexical spent weight (first >>= next) := by
  -- The first step leaves fewer lexemes, which is all that the second one may count on.
  intro lexemes found rest taken
  obtain ⟨value, later, started, ended⟩ := taken_of_bind taken
  have before := start _ _ _ started
  have behind := last value _ _ _ ended
  omega

/-- What was spent before stays spent beside what a reader gives. -/
theorem Keeps.after (keeps : Keeps lexical 0 weight item) (spent : Nat) :
    Keeps lexical spent (fun value => spent + weight value) item := by
  -- The same amount is added to what is spent and to what is given.
  intro lexemes value rest taken
  have kept := keeps _ _ _ taken
  dsimp only
  omega

/-- A value changed to one that weighs no more is kept. -/
theorem Keeps.map {change : β → α} {first : Parser β} {middle : β → Nat}
    (keeps : Keeps lexical spent middle first)
    (lighter : ∀ value, weight (change value) ≤ middle value) :
    Keeps lexical spent weight (change <$> first) := by
  -- The change takes no lexemes, so only the weights are compared.
  intro lexemes found rest taken
  rw [map_apply] at taken
  obtain ⟨⟨value, later⟩, started, same⟩ := Option.map_eq_some_iff.mp taken
  cases same
  have kept := keeps _ _ _ started
  have less := lighter value
  dsimp only at kept ⊢
  omega

/-- Both alternatives keep what they take. -/
theorem Keeps.orElse {other : Parser α} (keeps : Keeps lexical spent weight item)
    (others : Keeps lexical spent weight other) : Keeps lexical spent weight (item <|> other) := by
  -- Whichever alternative is taken, it is taken from the same lexemes.
  intro lexemes value rest taken
  rw [orElse_apply] at taken
  cases tried : item lexemes with
  | none => exact others _ _ _ (by simpa [tried] using taken)
  | some found => exact keeps _ _ _ (by simpa [tried] using taken)

/-- A value that may be missing is kept. -/
theorem Keeps.ifAny (keeps : Keeps lexical 0 weight item) :
    Keeps lexical 0 (fun found => found.elim 0 weight) (ifAny item) := by
  -- A value that is there weighs what it is, and one that is missing weighs nothing.
  have present : Keeps lexical 0 (fun found => found.elim 0 weight) (some <$> item) :=
    keeps.map fun _ => Nat.le_refl _
  exact present.orElse (keeps_pure (Nat.le_refl _))

/-- A reader of what may be missing leaves no more than what is in front. -/
theorem Passes.ifAny (passes : Passes lexical item) : Passes lexical (ifAny item) :=
  (Keeps.ifAny passes).passes

/-- Values that are taken one after the other are kept together. -/
theorem Keeps.many (keeps : Keeps lexical 0 weight item) (limit : Nat) :
    Keeps lexical 0 (total weight) (many item limit) := by
  -- Each value is counted against the lexemes it took, and the others against those behind it.
  induction limit with
  | zero => exact keeps_pure (Nat.le_refl _)
  | succ limit ih =>
    intro lexemes found rest taken
    rw [Parser.many] at taken
    dsimp only at taken
    split at taken
    · cases taken
      simp
    · rename_i first later firstTaken
      obtain ⟨⟨others, remaining⟩, othersTaken, same⟩ := Option.map_eq_some_iff.mp taken
      cases same
      have here := keeps _ _ _ firstTaken
      have behind := ih _ _ _ othersTaken
      simp only [total_cons] at behind ⊢
      omega

/-- Values that weigh nothing leave no more than what is in front, however many there are. -/
theorem Passes.many (passes : Passes lexical item) (limit : Nat) :
    Passes lexical (many item limit) :=
  (Keeps.many passes limit).passes

/-- At least one value is kept with those behind it. -/
theorem Keeps.some1 (keeps : Keeps lexical 0 weight item) (limit : Nat) :
    Keeps lexical 0 (total weight) (some1 item limit) := by
  -- The first value is kept, and then many others.
  refine keeps.bind fun first => ((keeps.many limit).after _).bind fun others => ?_
  exact keeps_pure (Nat.le_refl _)

section Lexemes

/-- A lexeme that is taken is kept. -/
theorem keeps_next : Keeps lexical 0 lexical next := by
  -- The lexeme that is taken is the weight that is missing behind it.
  intro lexemes value rest taken
  cases lexemes with
  | nil => cases taken
  | cons first later =>
    cases taken
    simp

/-- The lexemes are left as they are. -/
theorem passes_get : Passes lexical (get : Parser (List Lexeme)) := by
  -- No lexeme is taken.
  intro lexemes value rest taken
  cases taken
  exact Nat.le_refl _

/-- A lexeme is taken or left. -/
theorem passes_accepts (wanted : Lexeme) : Passes lexical (accepts wanted) := by
  -- At most the wanted lexeme is gone, and a lexeme weighs nothing or more.
  intro lexemes value rest taken
  cases lexemes with
  | nil =>
    cases taken
    exact Nat.le_refl _
  | cons first later =>
    rw [accepts_cons] at taken
    split at taken <;> cases taken <;> simp

/-- A lexeme that has to be there is taken. -/
theorem passes_expect (wanted : Lexeme) : Passes lexical (expect wanted) := by
  -- The wanted lexeme is gone, and nothing else can have happened.
  intro lexemes value rest taken
  cases lexemes with
  | nil => cases taken
  | cons first later =>
    rw [expect_cons] at taken
    split at taken <;> cases taken
    simp

/-- A sign that has to be there is taken. -/
theorem passes_sign (text : String) : Passes lexical (sign text) :=
  passes_expect _

/-- A keyword that has to be there is taken. -/
theorem passes_keyword (word : String) : Passes lexical (keyword word) :=
  passes_expect _

/-- A look ahead takes nothing. -/
theorem passes_sees (wanted : Lexeme) : Passes lexical (sees wanted) := by
  -- No lexeme is taken by looking.
  intro lexemes value rest taken
  cases taken
  exact Nat.le_refl _

/-- A look ahead for a name and a sign takes nothing. -/
theorem passes_seesNamed (text : String) : Passes lexical (seesNamed text) := by
  -- Two lexemes are looked at in some cases, but none is taken.
  intro lexemes value rest taken
  unfold seesNamed at taken
  split at taken <;> cases taken <;> exact Nat.le_refl _

/-- A look for the end takes nothing. -/
theorem passes_atEnd : Passes lexical atEnd := by
  -- No lexeme is taken by looking.
  intro lexemes value rest taken
  cases taken
  exact Nat.le_refl _

/-- A condition takes nothing. -/
theorem passes_ensure (condition : Bool) : Passes lexical (ensure condition) := by
  -- The condition either holds and nothing happens, or it fails.
  cases condition with
  | true => exact keeps_pure (Nat.le_refl _)
  | false => exact keeps_failure

/-- A name is taken. -/
theorem passes_name : Passes lexical name := by
  -- One lexeme is taken, and what it is decides only whether that succeeds.
  refine keeps_next.passes.bind fun lexeme => ?_
  split
  · exact keeps_pure (Nat.le_refl _)
  · exact keeps_failure

/-- The text of a name is taken. -/
theorem passes_identifier : Passes lexical identifier :=
  passes_name.bind fun _ => keeps_pure (Nat.le_refl _)

/-- A name with a given spelling is taken. -/
theorem passes_word (spelling : String) : Passes lexical (word spelling) := by
  -- One lexeme is taken, and its spelling decides only whether that succeeds.
  refine keeps_next.passes.bind fun lexeme => ?_
  split
  · exact passes_ensure _
  · exact keeps_failure

/-- A sign with a meaning is taken. -/
theorem passes_oneOf (meanings : List (String × α)) : Passes lexical (oneOf meanings) := by
  -- One lexeme is taken, and its meaning is looked up without taking more.
  refine keeps_next.passes.bind fun lexeme => ?_
  split
  · split
    · exact keeps_pure (Nat.le_refl _)
    · exact keeps_failure
  · exact keeps_failure

end Lexemes

/-- The first of values between commas is kept. -/
theorem Keeps.commaList (keeps : Keeps lexical 0 weight item) (limit : Nat) :
    Keeps lexical 0 (fun found => found.1.head?.elim 0 weight) (commaList item limit) := by
  -- The first value is kept, and those behind commas are only passed.
  have next : Passes lexical (do sign ","; item) := (passes_sign ",").bind fun _ => keeps.passes
  refine keeps.bind fun first => (next.many limit).bind fun others => ?_
  exact (passes_accepts _).bind fun _ => keeps_pure (Nat.le_refl _)

/-- Values between commas leave no more than what is in front. -/
theorem Passes.commaList (passes : Passes lexical item) (limit : Nat) :
    Passes lexical (commaList item limit) :=
  (Keeps.commaList passes limit).passes

end Parser

/-- What a piece weighs, which is nothing if it is no lexeme. -/
def Piece.weight (lexical : Lexeme → Nat) : Piece → Nat
  | .lexeme value => lexical value
  | _ => 0

namespace Layout

/-- Lexical weights by which the ends of lines and of blocks weigh nothing. -/
structure IsSilent (lexical : Lexeme → Nat) : Prop where
  newline : lexical .newline = 0
  indent : lexical .indent = 0
  dedent : lexical .dedent = 0

variable {lexical : Lexeme → Nat}

/-- Changes of indentation weigh nothing. -/
theorem total_afterLine (silent : IsSilent lexical) {layout after : Layout} {column : Column}
    {changes : List Lexeme} (moved : layout.afterLine column = some (changes, after)) :
    total lexical changes = 0 := by
  -- A line opens one block, or closes blocks as long as they stand further in than it does.
  have closing : ∀ {blocks : List Column} {ends : List Lexeme} {outer : List Column},
      closeTo column blocks = some (ends, outer) → total lexical ends = 0 := by
    intro blocks ends outer closed
    fun_induction closeTo column blocks generalizing ends outer with
    | case1 =>
      cases closed
      rfl
    | case2 => cases closed
    | case3 block blocks _ ih =>
      obtain ⟨⟨later, others⟩, behind, same⟩ := Option.map_eq_some_iff.mp closed
      cases same
      simpa [silent.dedent] using ih behind
    | case4 =>
      cases closed
      rfl
    | case5 => cases closed
  unfold afterLine at moved
  dsimp only at moved
  split at moved
  · split at moved
    · cases moved
    · split at moved <;> cases moved
      exact silent.indent
  · obtain ⟨⟨ends, blocks⟩, closed, same⟩ := Option.map_eq_some_iff.mp moved
    cases same
    exact closing closed

/-- The end of a line weighs nothing. -/
theorem total_lineEnd (silent : IsSilent lexical) (inLine : Bool) :
    total lexical (if inLine = true then [Lexeme.newline] else []) = 0 := by
  -- A newline carries nothing, so it makes no difference whether it is there.
  cases inLine with
  | false => rfl
  | true => exact silent.newline

/-- The lexemes that pieces are resolved to weigh no more than they do. -/
theorem total_resolveFrom_le (silent : IsSilent lexical) {layout : Layout} {inLine : Bool}
    {pieces : List Piece} {lexemes : List Lexeme}
    (resolved : layout.resolveFrom inLine pieces = some lexemes) :
    total lexical lexemes ≤ total (Piece.weight lexical) pieces := by
  -- Comments yield nothing, line ends only silent lexemes, and every other piece yields itself.
  fun_induction resolveFrom layout inLine pieces generalizing lexemes with
  | case1 =>
    cases resolved
    exact Nat.le_refl _
  | case2 => cases resolved
  | case3 layout inLine rest ih => simpa [Piece.weight] using ih resolved
  | case4 layout inLine column rest _ ih => simpa [Piece.weight] using ih resolved
  | case5 layout inLine column rest =>
    rename_i ends _ ih
    have ending : total lexical ends = 0 := total_lineEnd silent inLine
    obtain ⟨later, behind, same⟩ := Option.bind_eq_some_iff.mp resolved
    cases same
    have lighter := ih behind
    simpa [Piece.weight, ending] using lighter
  | case6 layout inLine column rest =>
    rename_i ends _ ih
    have ending : total lexical ends = 0 := total_lineEnd silent inLine
    obtain ⟨⟨changes, after⟩, moved, resolved⟩ := Option.bind_eq_some_iff.mp resolved
    obtain ⟨later, behind, same⟩ := Option.bind_eq_some_iff.mp resolved
    cases same
    have lighter := ih _ behind
    simpa [Piece.weight, ending, total_afterLine silent moved] using lighter
  | case7 layout inLine text rest ih =>
    obtain ⟨after, moved, resolved⟩ := Option.bind_eq_some_iff.mp resolved
    obtain ⟨later, behind, same⟩ := Option.bind_eq_some_iff.mp resolved
    cases same
    simpa [Piece.weight] using ih _ behind
  | case8 layout inLine value rest _ ih =>
    obtain ⟨later, behind, same⟩ := Option.bind_eq_some_iff.mp resolved
    cases same
    simpa [Piece.weight] using ih behind

end Layout

end PermissionNames.Source
