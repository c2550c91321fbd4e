import PermissionNames.Digest.Blake2
import PermissionNames.Digest.Md5
import PermissionNames.Digest.Sha1
import PermissionNames.Digest.Sha2
import PermissionNames.Digest.Sha3
import PermissionNames.Text.Casing

/-! The digest algorithms that names are obfuscated with, and the names that select them. -/

namespace PermissionNames

/-- A digest algorithm of fixed output length, among those that are there everywhere. -/
inductive Algorithm
  | md5
  | sha1
  | sha224
  | sha256
  | sha384
  | sha512
  | sha3x224
  | sha3x256
  | sha3x384
  | sha3x512
  | blake2b
  | blake2s
  deriving DecidableEq, Repr

/-- Why a name selects no algorithm. -/
inductive AlgorithmError
  /-- Options name no known algorithm. -/
  | unknown (name : String)
  /-- Options name an algorithm that would need an output length. -/
  | variableLength (name : String)
  /-- A digest of no known kind is asked for. -/
  | unsupported (name : String)
  /-- A digest is asked for whose output length is not given. -/
  | missingLength
  deriving DecidableEq, Repr

/-- The wording of an algorithm error. -/
def AlgorithmError.message : AlgorithmError → String
  | unknown name => "Unknown hash algorithm: " ++ name
  | variableLength name => "Variable-length hash algorithm not supported: " ++ name
  | unsupported name => "unsupported hash type " ++ name
  | missingLength => "a digest of variable length needs its length"

namespace Algorithm

/-- Every algorithm. -/
def all : List Algorithm :=
  [md5, sha1, sha224, sha256, sha384, sha512, sha3x224, sha3x256, sha3x384, sha3x512,
    blake2b, blake2s]

/-- The normalized name. -/
def name : Algorithm → String
  | md5 => "md5"
  | sha1 => "sha1"
  | sha224 => "sha224"
  | sha256 => "sha256"
  | sha384 => "sha384"
  | sha512 => "sha512"
  | sha3x224 => "sha3_224"
  | sha3x256 => "sha3_256"
  | sha3x384 => "sha3_384"
  | sha3x512 => "sha3_512"
  | blake2b => "blake2b"
  | blake2s => "blake2s"

/-- Further names, which are known in any mixture of cases. -/
def aliases : Algorithm → List String
  | md5 => ["md5", "ssl3-md5"]
  | sha1 => ["sha1", "sha-1", "ssl3-sha1"]
  | sha224 => ["sha224", "sha-224", "sha2-224"]
  | sha256 => ["sha256", "sha-256", "sha2-256"]
  | sha384 => ["sha384", "sha-384", "sha2-384"]
  | sha512 => ["sha512", "sha-512", "sha2-512"]
  | sha3x224 => ["sha3-224"]
  | sha3x256 => ["sha3-256"]
  | sha3x384 => ["sha3-384"]
  | sha3x512 => ["sha3-512"]
  | blake2b => ["blake2b512", "blake2b-512"]
  | blake2s => ["blake2s256", "blake2s-256"]

/-- Algorithms that need an output length. -/
def variableLengthNames : List String := ["shake_128", "shake_256"]

/-- Further names of algorithms that need an output length, known in any mixture of cases. -/
def variableLengthAliases : List String := ["shake128", "shake-128", "shake256", "shake-256"]

/-- The algorithm with a normalized name. -/
def named? (name : String) : Option Algorithm :=
  all.find? (·.name == name)

/-- The algorithm that options select; the case of the name does not matter. -/
def select (name : String) : Except AlgorithmError Algorithm :=
  let normalized := lowercase name
  if variableLengthNames.contains normalized then .error (.variableLength name)
  else
    match named? normalized with
    | some algorithm => .ok algorithm
    | none => .error (.unknown name)

/-- The algorithm of a single digest, by its normalized name or a further one. -/
def lookUp (name : String) : Except AlgorithmError Algorithm :=
  match named? name with
  | some algorithm => .ok algorithm
  | none =>
    let folded := name.map Char.toLower
    match all.find? (·.aliases.contains folded) with
    | some algorithm => .ok algorithm
    | none =>
      if variableLengthNames.contains name || variableLengthAliases.contains folded then
        .error .missingLength
      else .error (.unsupported name)

/-- The digest of a byte string. -/
def digest : Algorithm → List UInt8 → List UInt8
  | md5 => Digest.Md5.hash
  | sha1 => Digest.Sha1.hash
  | sha224 => Digest.Sha2.hash Digest.Sha2.narrow Digest.Sha2.start224 28
  | sha256 => Digest.Sha2.hash Digest.Sha2.narrow Digest.Sha2.start256 32
  | sha384 => Digest.Sha2.hash Digest.Sha2.wide Digest.Sha2.start384 48
  | sha512 => Digest.Sha2.hash Digest.Sha2.wide Digest.Sha2.start512 64
  | sha3x224 => Digest.Sha3.hash 28
  | sha3x256 => Digest.Sha3.hash 32
  | sha3x384 => Digest.Sha3.hash 48
  | sha3x512 => Digest.Sha3.hash 64
  | blake2b => Digest.Blake2.hash Digest.Blake2.wide
  | blake2s => Digest.Blake2.hash Digest.Blake2.narrow

end Algorithm

end PermissionNames
