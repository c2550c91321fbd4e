import PermissionNames.Digest
import PermissionNames.Text.Utf8

/-! Short alphanumeric tokens cut from the base64 text of a digest. -/

namespace PermissionNames.Token

/-- The digits of base64. -/
def alphabet : List Char :=
  "ABCDEFGHIJKLMNOPQRSTUVWXYZabcdefghijklmnopqrstuvwxyz0123456789+/".toList

/-- The digit of a number below sixty-four. -/
def digit (n : Nat) : Char :=
  alphabet.getD n '='

/-- The base64 text of a byte string, three bytes to four digits, with the end filled up. -/
def base64 : List UInt8 → List Char
  | [] => []
  | [a] =>
    let n := a.toNat * 16
    [digit (n / 64), digit (n % 64), '=', '=']
  | [a, b] =>
    let n := (a.toNat * 256 + b.toNat) * 4
    [digit (n / 4096), digit (n / 64 % 64), digit (n % 64), '=']
  | a :: b :: c :: rest =>
    let n := (a.toNat * 256 + b.toNat) * 256 + c.toNat
    digit (n / 262144) :: digit (n / 4096 % 64) :: digit (n / 64 % 64) :: digit (n % 64) ::
      base64 rest

/-- The number of characters of a token. -/
def width : Nat := 5

/-- Text longer than this is cut without being filled up first. -/
def cutThreshold : Nat := 10

/-- Cuts long text to the width of a token, and fills short text up with zeros. -/
def fit (text : List Char) : List Char :=
  if text.length > cutThreshold then text.take width
  else (text ++ List.replicate (width - text.length) '0').take width

/-- The base64 text without its three digits that are no letters or numerals. -/
def strip (text : List Char) : List Char :=
  text.filter fun c => !(['+', '/', '='].contains c)

/-- The token of a digest. -/
def ofDigest (digest : List UInt8) : List Char :=
  fit (strip (base64 digest))

end PermissionNames.Token

namespace PermissionNames

/-- Text cut or filled up to the width of a token. -/
def fitToken (text : String) : String :=
  String.ofList (Token.fit text.toList)

/-- The token that replaces a name under a digest algorithm. -/
def obfuscated (algorithm : Algorithm) (name : String) : String :=
  String.ofList (Token.ofDigest (algorithm.digest (Utf8.encode name.toList)))

end PermissionNames
