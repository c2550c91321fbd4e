import PermissionNames.Text.Hexadecimal

/-! Double-quoted literals: quotes, backslashes and low controls are escaped, all else stands as itself. -/

namespace PermissionNames.Quoted

/-- The written form of one character. -/
def escape (c : Char) : List Char :=
  if c = '"' then ['\\', '"']
  else if c = '\\' then ['\\', '\\']
  else if c = '\n' then ['\\', 'n']
  else if c = '\r' then ['\\', 'r']
  else if c = '\t' then ['\\', 't']
  else if c = '\x08' then ['\\', 'b']
  else if c = '\x0C' then ['\\', 'f']
  else if c.toNat < 0x20 then
    '\\' :: 'u' :: hexDigits 4 c.toNat
  else [c]

/-- The characters between the quotes. -/
def body (value : List Char) : List Char :=
  value.flatMap escape

/-- The whole literal. -/
def encode (value : List Char) : List Char :=
  '"' :: body value ++ ['"']

end PermissionNames.Quoted

namespace PermissionNames

/-- The double-quoted literal of a string. -/
def quoted (value : String) : String :=
  String.ofList (Quoted.encode value.toList)

end PermissionNames
