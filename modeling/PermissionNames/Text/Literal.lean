import PermissionNames.Text.CodePoint
import PermissionNames.Text.Hexadecimal
import PermissionNames.Text.Printable

/-! Values written back as source literals, in single quotes unless only those would need an escape. -/

namespace PermissionNames.Literal

/-- The quote that encloses a text: double only if it holds single quotes and no double ones. -/
def quoteFor (text : List Char) : Char :=
  if text.contains '\'' && !text.contains '"' then '"' else '\''

/-- An escape by number, as short as the character allows. -/
def numericEscape (c : Char) : List Char :=
  if c.toNat < 0x100 then '\\' :: 'x' :: hexDigits 2 c.toNat
  else if c.toNat < 0x10000 then '\\' :: 'u' :: hexDigits 4 c.toNat
  else '\\' :: 'U' :: hexDigits 8 c.toNat

/-- The written form of a character between quotes; unprintable characters are escaped. -/
def escape (quote c : Char) : List Char :=
  if c = quote || c = '\\' then ['\\', c]
  else if c = '\t' then ['\\', 't']
  else if c = '\n' then ['\\', 'n']
  else if c = '\r' then ['\\', 'r']
  else if isPrintable c then [c]
  else numericEscape c

/-- The written form of a code point between quotes; a surrogate is escaped by its number. -/
def escapePoint (quote : Char) : CodePoint → List Char
  | .character c => escape quote c
  | .surrogate half => '\\' :: 'u' :: hexDigits 4 half.number

/-- The literal of code points. -/
def ofPoints (points : List CodePoint) : List Char :=
  let quote := quoteFor (points.map CodePoint.shown)
  quote :: points.flatMap (escapePoint quote) ++ [quote]

/-- The literal of a text. -/
def ofText (text : List Char) : List Char :=
  ofPoints (text.map .character)

/-- The literal of a byte string, where every byte outside basic Latin is escaped. -/
def ofBytes (bytes : List UInt8) : List Char :=
  let text := bytes.map fun byte => Char.ofNat byte.toNat
  let quote := quoteFor text
  let written := text.flatMap fun c =>
    if c.toNat < 0x80 then escape quote c else numericEscape c
  'b' :: quote :: written ++ [quote]

end PermissionNames.Literal

namespace PermissionNames

/-- The source literal of a string. -/
def literalOf (text : String) : String :=
  String.ofList (Literal.ofText text.toList)

end PermissionNames
