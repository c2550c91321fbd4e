import PermissionNames.GeneratedSource

/-! The class body of a generated module, read member by member. -/

namespace PermissionNames.GeneratedSource

/-- The lines of a member, after a blank line if the member is not static and something stands before it. -/
def memberBlock (started : Bool) (declaration : Declaration) : List String :=
  (if started && !declaration.isStatic then [""] else []) ++ memberLines declaration

/-- The lines that end a class body: those of the enumeration, or what keeps the body from being empty. -/
def closingLines (started : Bool) : Option Enumeration → List String
  | some enumeration => (if started then [""] else []) ++ enumerationLines enumeration
  | none => if started then [] else [indent ++ "pass"]

/-- The lines of a class body, or of the rest of one that is started. -/
def bodyLines (enumeration : Option Enumeration) (started : Bool) :
    List Declaration → List String
  | [] => closingLines started enumeration
  | declaration :: later => memberBlock started declaration ++ bodyLines enumeration true later

/-- What closes the lines of members to a class body. -/
def closed (enumeration : Option Enumeration) (members : List String) : List String :=
  let body := match enumeration with
    | some enumeration => members ++ gap members ++ enumerationLines enumeration
    | none => members
  if body = [] then [indent ++ "pass"] else body

/-- Members that are closed are followed by the closing lines. -/
theorem closed_eq (enumeration : Option Enumeration) (members : List String) :
    closed enumeration members =
      members ++ closingLines (decide (members ≠ [])) enumeration := by
  cases enumeration with
  | none =>
    by_cases empty : members = []
    · simp [closed, closingLines, empty]
    · simp [closed, closingLines, empty]
  | some enumeration =>
    -- The lines of an enumeration are never empty.
    have full : enumerationLines enumeration ≠ [] := by simp [enumerationLines]
    by_cases empty : members = []
    · simp [closed, closingLines, gap, empty, full]
    · simp [closed, closingLines, gap, empty]

/-- Adding a member puts its block at the end. -/
theorem addMember_eq (body : List String) (declaration : Declaration) :
    addMember body declaration = body ++ memberBlock (decide (body ≠ [])) declaration := by
  -- The gap is there for a property alone, and only behind something.
  unfold addMember memberBlock gap
  by_cases empty : body = []
  · simp [empty]
  · cases static : declaration.isStatic <;> simp [empty]

/-- No member is without lines. -/
theorem addMember_ne_nil (body : List String) (declaration : Declaration) :
    addMember body declaration ≠ [] := by
  -- A member has a line of its own in both cases.
  have full : memberLines declaration ≠ [] := by
    unfold memberLines
    split <;> simp
  simp [addMember, full]

/-- A class body is read member by member. -/
theorem moduleBody_eq (declarations : List Declaration) (enumeration : Option Enumeration) :
    moduleBody declarations enumeration = bodyLines enumeration false declarations := by
  -- The members that are there already only tell whether the body is started.
  have general : ∀ body, closed enumeration (declarations.foldl addMember body) =
      body ++ bodyLines enumeration (decide (body ≠ [])) declarations := by
    induction declarations with
    | nil => exact closed_eq enumeration
    | cons declaration later ih =>
      intro body
      rw [List.foldl_cons, ih, decide_eq_true (addMember_ne_nil body declaration), addMember_eq,
        List.append_assoc, bodyLines]
  exact general []

end PermissionNames.GeneratedSource
