import PermissionNames.Decimal.Written
import PermissionNames.Source.Expression
import PermissionNames.Text.Literal

/-! Expressions written out again: single spaces, single quotes, and only the parentheses that are needed. -/

namespace PermissionNames.Source

/-- Why an expression cannot be written. -/
inductive WritingError
  /-- The expression in a field of a template would need a backslash. -/
  | backslashInField
  /-- An integer has too many decimal digits. -/
  | longInteger
  deriving DecidableEq, Repr

/-- The wording of a writing error. -/
def WritingError.message : WritingError → String
  | backslashInField => "Unable to avoid backslash in f-string expression part"
  | longInteger =>
    "Exceeds the limit (4300 digits) for integer string conversion; " ++
      "use sys.set_int_max_str_digits() to increase the limit"

namespace Written

/-! How tightly an expression holds together; what is weaker than its place asks for stands in parentheses. -/

/-- The ranks of expressions, from the weakest to the tightest. -/
inductive Rank
  | assignment
  | tuple
  | yield
  | test
  | or
  | and
  | not
  | comparison
  | bitOr
  | bitXor
  | bitAnd
  | shift
  | sum
  | product
  | sign
  | power
  | await
  | atom
  deriving DecidableEq, Repr

/-- The position of a rank. -/
def Rank.index (rank : Rank) : Nat :=
  rank.ctorIdx

/-- A place in an expression asks for at least the rank with this position. -/
abbrev Demand := Nat

/-- What a place asks for by default. -/
def standard : Demand := Rank.test.index

/-- What the place of an atom asks for. -/
def atomic : Demand := Rank.atom.index

/-- Asks for more than a rank. -/
def above (rank : Rank) : Demand :=
  min (rank.index + 1) atomic

/-- The text of an expression with a rank, at a place. -/
def enclosed (demand : Demand) (rank : Rank) (text : String) : String :=
  if rank.index < demand then "(" ++ text ++ ")" else text

/-- The rank of an operator. -/
def rankOf : BinaryOperator → Rank
  | .bitOr => .bitOr
  | .bitXor => .bitXor
  | .bitAnd => .bitAnd
  | .shiftLeft | .shiftRight => .shift
  | .add | .subtract => .sum
  | .multiply | .divide | .floorDivide | .remainder | .matrixMultiply => .product
  | .power => .power

/-- The sign of an operator. -/
def signOf : BinaryOperator → String
  | .bitOr => "|"
  | .bitXor => "^"
  | .bitAnd => "&"
  | .shiftLeft => "<<"
  | .shiftRight => ">>"
  | .add => "+"
  | .subtract => "-"
  | .multiply => "*"
  | .divide => "/"
  | .floorDivide => "//"
  | .remainder => "%"
  | .matrixMultiply => "@"
  | .power => "**"

/-- The sign of a relation. -/
def relationSign : Relation → String
  | .equal => "=="
  | .notEqual => "!="
  | .less => "<"
  | .lessOrEqual => "<="
  | .greater => ">"
  | .greaterOrEqual => ">="
  | .isSame => "is"
  | .isNotSame => "is not"
  | .isIn => "in"
  | .isNotIn => "not in"

/-- Whether a text is part of another one. -/
def isPart (part : List Char) : List Char → Bool
  | [] => part.isEmpty
  | c :: rest => part.isPrefixOf (c :: rest) || isPart part rest

/-- Quotes for a literal, the preferred first. -/
def allQuotes : List String := ["'", "\"", "\"\"\"", "'''"]

/-- A code point inside a literal that avoids backslashes; line ends and tabs stay if asked for. -/
def sparingEscape (escapeBlanks : Bool) : CodePoint → List Char
  | .character c =>
    if !escapeBlanks && (c == '\n' || c == '\t') then [c]
    else if c = '\\' || !isPrintable c then Literal.escape '\\' c
    else [c]
  | .surrogate half => Literal.escapePoint '\\' (.surrogate half)

/-- The inside of a literal with as few backslashes as possible, and the quotes that fit around it. -/
def sparingBody (quotes : List String) (escapeBlanks : Bool) (text : List CodePoint) :
    String × List String :=
  let written := text.flatMap (sparingEscape escapeBlanks)
  let suited := if written.contains '\n' then quotes.filter (·.length == 3) else quotes
  let fitting := suited.filter fun quote => !isPart quote.toList written
  match fitting with
  | [] =>
    let quote := Literal.quoteFor (text.map CodePoint.shown)
    let plain := text.flatMap (Literal.escapePoint quote)
    let spelled := String.ofList [quote]
    (String.ofList plain, [(quotes.find? (isPart [quote] ·.toList)).getD spelled])
  | fitting =>
    match written.getLast? with
    | none => (String.ofList written, fitting)
    | some last =>
      -- Quotes that do not end in the last character come first.
      let apart := fun (quote : String) => quote.toList.head? != some last
      let sorted := fitting.filter apart ++ fitting.filter fun quote => !apart quote
      if (sorted.head?.map apart).getD true then (String.ofList written, sorted)
      else (String.ofList (written.dropLast ++ ['\\', last]), sorted)

/-- A literal with as few backslashes as possible. -/
def sparingLiteral (text : List CodePoint) : String :=
  let (body, quotes) := sparingBody allQuotes false text
  let quote := quotes.headD "'"
  quote ++ body ++ quote

/-- Doubles the braces in the text of a template. -/
def doubleBraces (text : List CodePoint) : List CodePoint :=
  text.flatMap fun point =>
    if point = .character '{' || point = .character '}' then [point, point] else [point]

/-- The bodies of the parts of a template with quotes that fit around all of them, if there are any. -/
def fitParts :
    List String → List (List CodePoint × Bool) → Option (List String × List String)
  | quotes, [] => some ([], quotes)
  | quotes, (text, isText) :: rest =>
    let (body, fitting) := sparingBody quotes isText text
    if fitting.any quotes.contains then
      (fitParts fitting rest).map fun (bodies, quotes) => (body :: bodies, quotes)
    else none

/-- A part of a template between three single quotes. -/
def plainPart (text : List CodePoint) : String :=
  String.ofList (text.flatMap (Literal.escapePoint '\''))

/-- The literal of a template, from the texts of its parts; a part is marked if it is no field. -/
def templateLiteral (parts : List (List CodePoint × Bool)) : String :=
  match fitParts allQuotes parts with
  | some (bodies, quotes) =>
    let quote := quotes.headD "'"
    "f" ++ quote ++ String.join bodies ++ quote
  | none => "f'''" ++ String.join (parts.map fun (text, _) => plainPart text) ++ "'''"

/-- The digits of an integer, if there are not too many. -/
def integer (value : Nat) : Except WritingError String :=
  if value < Nat.pow 10 Numeral.longestInteger then .ok (Nat.repr value) else .error .longInteger

/-- The text of a constant; `sparing` asks for as few backslashes as possible. -/
def constant (sparing : Bool) : Constant → Except WritingError String
  | .nothing => .ok "None"
  | .truth true => .ok "True"
  | .truth false => .ok "False"
  | .ellipsis => .ok "..."
  | .number (.integer value) => integer value
  | .number (.decimal coefficient exponent) => .ok (Decimal.write coefficient exponent true)
  | .number (.imaginary coefficient exponent) =>
    .ok (Decimal.write coefficient exponent false ++ "j")
  | .text value marked =>
    .ok ((if marked then "u" else "") ++
      if sparing then sparingLiteral value.points
      else String.ofList (Literal.ofPoints value.points))
  | .bytes value => .ok (String.ofList (Literal.ofBytes value))

/-- Whether a constant ends in a digit that a period would be taken into, as far as the writer cares. -/
def needsGap : Expression → Bool
  | .constant (.number (.integer _)) => true
  | .constant (.truth _) => true
  | _ => false

/-- Elements between commas; a single one is followed by a comma. -/
def elements : List String → String
  | [single] => single ++ ","
  | texts => ", ".intercalate texts

/-- The brackets around a comprehension. -/
def bracketed : ComprehensionKind → String → String
  | .generator, text => "(" ++ text ++ ")"
  | .list, text => "[" ++ text ++ "]"
  | .set, text => "\x7b" ++ text ++ "\x7d"

/-- The code points of a field of a template. -/
def field (value : String) (conversion : Option Char) (format : Option (List CodePoint)) :
    Except WritingError (List CodePoint) :=
  if value.toList.contains '\\' then .error .backslashInField
  else
    let gap := if value.toList.head? = some '{' then [' '] else []
    let mark := match conversion with
      | some c => ['!', c]
      | none => []
    let tail := match format with
      | some text => .character ':' :: text
      | none => []
    .ok (('{' :: gap ++ value.toList ++ mark).map .character ++ tail ++ [.character '}'])

mutual

/-- The text of an expression at a place. -/
def expression (sparing : Bool) (demand : Demand) : Expression → Except WritingError String
  | .name identifier => .ok identifier.text
  | .constant value => constant sparing value
  | .attribute owner name => do
    let text ← expression sparing atomic owner
    return text ++ (if needsGap owner then " ." else ".") ++ name
  | .subscript owner (.tuple (first :: rest)) => do
    let text ← expression sparing atomic owner
    let firstText ← expression sparing standard first
    return text ++ "[" ++ elements (firstText :: (← expressions sparing standard rest)) ++ "]"
  | .subscript owner index => do
    let text ← expression sparing atomic owner
    return text ++ "[" ++ (← expression sparing standard index) ++ "]"
  | .call function arguments named => do
    let text ← expression sparing atomic function
    let positional ← expressions sparing standard arguments
    return text ++ "(" ++ ", ".intercalate (positional ++ (← namedArguments sparing named)) ++ ")"
  | .unary .not operand => do
    return enclosed demand .not ("not " ++ (← expression sparing Rank.not.index operand))
  | .unary .plus operand => do
    return enclosed demand .sign ("+" ++ (← expression sparing Rank.sign.index operand))
  | .unary .minus operand => do
    return enclosed demand .sign ("-" ++ (← expression sparing Rank.sign.index operand))
  | .unary .invert operand => do
    return enclosed demand .sign ("~" ++ (← expression sparing Rank.sign.index operand))
  | .binary operator left right => do
    let rank := rankOf operator
    let isPower := operator == .power
    let leftText ← expression sparing (if isPower then above rank else rank.index) left
    let rightText ← expression sparing (if isPower then rank.index else above rank) right
    return enclosed demand rank (leftText ++ " " ++ signOf operator ++ " " ++ rightText)
  | .logical .and operands => do
    return enclosed demand .and
      (" and ".intercalate (← risingExpressions sparing Rank.and.index operands))
  | .logical .or operands => do
    return enclosed demand .or
      (" or ".intercalate (← risingExpressions sparing Rank.or.index operands))
  | .comparison first others => do
    let text ← expression sparing (above .comparison) first
    return enclosed demand .comparison (text ++ (← relations sparing others))
  | .conditional condition consequence alternative => do
    let first ← expression sparing (above .test) consequence
    let second ← expression sparing (above .test) condition
    let third ← expression sparing standard alternative
    return enclosed demand .test (first ++ " if " ++ second ++ " else " ++ third)
  | .lambda parameterList body => do
    let texts ← parameters sparing parameterList
    let bodyText ← expression sparing standard body
    let gap := if texts.isEmpty then "" else " "
    return enclosed demand .test ("lambda" ++ gap ++ ", ".intercalate texts ++ ": " ++ bodyText)
  | .tuple members => do
    let text := elements (← expressions sparing standard members)
    return if members.isEmpty then "(" ++ text ++ ")" else enclosed demand .tuple text
  | .list members => do
    return "[" ++ ", ".intercalate (← expressions sparing standard members) ++ "]"
  | .set members => do
    return "\x7b" ++ ", ".intercalate (← expressions sparing standard members) ++ "\x7d"
  | .dictionary list => do
    return "\x7b" ++ ", ".intercalate (← entries sparing list) ++ "\x7d"
  | .comprehension kind element loops => do
    let text ← expression sparing standard element
    return bracketed kind (text ++ (← clauses sparing loops))
  | .dictionaryComprehension key value loops => do
    let keyText ← expression sparing standard key
    let valueText ← expression sparing standard value
    return "\x7b" ++ keyText ++ ": " ++ valueText ++ (← clauses sparing loops) ++ "\x7d"
  | .starred value => do
    return "*" ++ (← expression sparing Rank.bitOr.index value)
  | .assignment target value => do
    return enclosed demand .assignment (target ++ " := " ++ (← expression sparing atomic value))
  | .slice lower upper step => do
    let first ← optional sparing lower
    let second ← optional sparing upper
    let third ← optional sparing step
    return first.getD "" ++ ":" ++ second.getD "" ++
      (match third with
        | some text => ":" ++ text
        | none => "")
  | .await value => do
    return enclosed demand .await ("await " ++ (← expression sparing atomic value))
  | .yield none => .ok (enclosed demand .yield "yield")
  | .yield (some value) => do
    return enclosed demand .yield ("yield " ++ (← expression sparing atomic value))
  | .yieldFrom value => do
    return enclosed demand .yield ("yield from " ++ (← expression sparing atomic value))
  | .template parts => do
    let texts ← templateParts parts
    return if sparing then "f" ++ sparingLiteral (texts.flatMap (·.1))
      else templateLiteral texts

/-- The texts of expressions at places of one kind. -/
def expressions (sparing : Bool) (demand : Demand) :
    List Expression → Except WritingError (List String)
  | [] => .ok []
  | first :: rest => do
    let text ← expression sparing demand first
    return text :: (← expressions sparing demand rest)

/-- The texts of expressions, each of which has to be tighter than the one before it. -/
def risingExpressions (sparing : Bool) (demand : Demand) :
    List Expression → Except WritingError (List String)
  | [] => .ok []
  | first :: rest => do
    let next := min (demand + 1) atomic
    let text ← expression sparing next first
    return text :: (← risingExpressions sparing next rest)

/-- The text of an expression that may be missing. -/
def optional (sparing : Bool) : Option Expression → Except WritingError (Option String)
  | none => .ok none
  | some value => do return some (← expression sparing standard value)

/-- The texts of arguments with names. -/
def namedArguments (sparing : Bool) :
    List (Option String × Expression) → Except WritingError (List String)
  | [] => .ok []
  | (some name, value) :: rest => do
    let text ← expression sparing standard value
    return (name ++ "=" ++ text) :: (← namedArguments sparing rest)
  | (none, value) :: rest => do
    let text ← expression sparing standard value
    return ("**" ++ text) :: (← namedArguments sparing rest)

/-- The later members of a chain of relations. -/
def relations (sparing : Bool) : List (Relation × Expression) → Except WritingError String
  | [] => .ok ""
  | (relation, value) :: rest => do
    let text ← expression sparing (above .comparison) value
    return " " ++ relationSign relation ++ " " ++ text ++ (← relations sparing rest)

/-- The entries of a mapping. -/
def entries (sparing : Bool) :
    List (Option Expression × Expression) → Except WritingError (List String)
  | [] => .ok []
  | (some key, value) :: rest => do
    let keyText ← expression sparing standard key
    let text ← expression sparing standard value
    return (keyText ++ ": " ++ text) :: (← entries sparing rest)
  | (none, value) :: rest => do
    let text ← expression sparing Rank.bitOr.index value
    return ("**" ++ text) :: (← entries sparing rest)

/-- The parameters of a function. -/
def parameters (sparing : Bool) : List Parameter → Except WritingError (List String)
  | [] => .ok []
  | .plain name none :: rest => do return name :: (← parameters sparing rest)
  | .plain name (some value) :: rest => do
    let text ← expression sparing standard value
    return (name ++ "=" ++ text) :: (← parameters sparing rest)
  | .positionalEnd :: rest => do return "/" :: (← parameters sparing rest)
  | .namedStart :: rest => do return "*" :: (← parameters sparing rest)
  | .rest name :: rest => do return ("*" ++ name) :: (← parameters sparing rest)
  | .namedRest name :: rest => do return ("**" ++ name) :: (← parameters sparing rest)

/-- The loops of a comprehension. -/
def clauses (sparing : Bool) : List Clause → Except WritingError String
  | [] => .ok ""
  | .loop isAsync target source conditions :: rest => do
    let targetText ← expression sparing Rank.tuple.index target
    let sourceText ← expression sparing (above .test) source
    let conditionTexts ← expressions sparing (above .test) conditions
    return (if isAsync then " async for " else " for ") ++ targetText ++ " in " ++ sourceText ++
      String.join (conditionTexts.map (" if " ++ ·)) ++ (← clauses sparing rest)

/-- The texts of the parts of a template, each with whether it is no field. -/
def templateParts : List TemplatePart → Except WritingError (List (List CodePoint × Bool))
  | [] => .ok []
  | .text value :: rest => do return (doubleBraces value, true) :: (← templateParts rest)
  | .field value conversion none :: rest => do
    let text ← field (← expression true (above .test) value) conversion none
    return (text, false) :: (← templateParts rest)
  | .field value conversion (some format) :: rest => do
    let valueText ← expression true (above .test) value
    -- A backslash in the value is found before the format is looked at.
    if valueText.toList.contains '\\' then throw .backslashInField
    let formatTexts ← templateParts format
    let text ← field valueText conversion (some (formatTexts.flatMap (·.1)))
    return (text, false) :: (← templateParts rest)

end

end Written

/-- The text of an expression. -/
def Expression.write (value : Expression) : Except WritingError String :=
  Written.expression false Written.standard value

end PermissionNames.Source
