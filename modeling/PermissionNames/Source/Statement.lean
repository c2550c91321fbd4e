import PermissionNames.Source.Expression

/-! Statements of source text; what neither declares nor assigns is not kept. -/

namespace PermissionNames.Source

/-- A statement. -/
inductive Statement
  /-- A class with its bases by position. -/
  | classDefinition (decorators : List Expression) (name : Identifier.Word) (bases : List Expression)
      (body : List Statement)
  | assignment (targets : List Expression) (value : Expression)
  /-- A declaration of a type, perhaps with a value. -/
  | declaration (target type : Expression) (value : Option Expression)
  | other

end PermissionNames.Source
