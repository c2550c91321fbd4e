import PermissionNames.Text.Hexadecimal

/-! Strict UTF-8 decoding that reports the first malformed sequence, and its inverse. -/

namespace PermissionNames.Utf8

/-- What is wrong with a malformed sequence. -/
inductive Malformation
  | startByte
  | continuationByte
  | truncated
  deriving DecidableEq, Repr

/-- The first malformed sequence of a byte string. -/
structure Fault where
  kind : Malformation
  /-- The bytes of the sequence that were read as far as they agree with the format. -/
  bytes : List UInt8
  /-- The offset of the first of them. -/
  position : Nat
  deriving DecidableEq, Repr

/-- The wording of a decoding fault. -/
def Fault.message (fault : Fault) : String :=
  let reason := match fault.kind with
    | .startByte => "invalid start byte"
    | .continuationByte => "invalid continuation byte"
    | .truncated => "unexpected end of data"
  let place := match fault.bytes with
    | [byte] => 
      "byte 0x" ++ String.ofList (hexDigits 2 byte.toNat) ++ " in position " ++
        Nat.repr fault.position
    | bytes =>
      "bytes in position " ++ Nat.repr fault.position ++ "-" ++
        Nat.repr (fault.position + bytes.length - 1)
  "'utf-8' codec can't decode " ++ place ++ ": " ++ reason

/-- Whether the byte continues a sequence. -/
def isContinuation (byte : UInt8) : Bool :=
  0x80 ≤ byte && byte < 0xC0

/-- The six payload bits of a continuation byte. -/
def payload (byte : UInt8) : Nat :=
  byte.toNat % 64

/-- Whether the second byte of a three-byte sequence avoids overlong forms and surrogates. -/
def allowsSecondOfThree (first second : UInt8) : Bool :=
  isContinuation second && (if second < 0xA0 then first != 0xE0 else first != 0xED)

/-- Whether the second byte of a four-byte sequence avoids overlong forms and points past the last. -/
def allowsSecondOfFour (first second : UInt8) : Bool :=
  isContinuation second && (if second < 0x90 then first != 0xF0 else first != 0xF4)

/-- Decodes a byte string that starts at an offset of the whole. -/
def decodeAt (position : Nat) : List UInt8 → Except Fault (List Char)
  | [] => .ok []
  | a :: rest =>
    if a < 0x80 then
      (decodeAt (position + 1) rest).map (Char.ofNat a.toNat :: ·)
    else if a < 0xC2 || 0xF5 ≤ a then
      .error ⟨.startByte, [a], position⟩
    else
      match rest with
      | [] => .error ⟨.truncated, [a], position⟩
      | b :: rest =>
        if a < 0xE0 then
          if isContinuation b then
            (decodeAt (position + 2) rest).map
              (Char.ofNat ((a.toNat - 0xC0) * 64 + payload b) :: ·)
          else
            .error ⟨.continuationByte, [a], position⟩
        else if a < 0xF0 then
          if allowsSecondOfThree a b then
            match rest with
            | [] => .error ⟨.truncated, [a, b], position⟩
            | c :: rest =>
              if isContinuation c then
                (decodeAt (position + 3) rest).map
                  (Char.ofNat (((a.toNat - 0xE0) * 64 + payload b) * 64 + payload c) :: ·)
              else
                .error ⟨.continuationByte, [a, b], position⟩
          else
            .error ⟨.continuationByte, [a], position⟩
        else if allowsSecondOfFour a b then
          match rest with
          | [] => .error ⟨.truncated, [a, b], position⟩
          | c :: rest =>
            if isContinuation c then
              match rest with
              | [] => .error ⟨.truncated, [a, b, c], position⟩
              | d :: rest =>
                if isContinuation d then
                  (decodeAt (position + 4) rest).map
                    (Char.ofNat
                      ((((a.toNat - 0xF0) * 64 + payload b) * 64 + payload c) * 64 + payload d) :: ·)
                else
                  .error ⟨.continuationByte, [a, b, c], position⟩
            else
              .error ⟨.continuationByte, [a, b], position⟩
        else
          .error ⟨.continuationByte, [a], position⟩

/-- Decodes a whole byte string. -/
def decode (bytes : List UInt8) : Except Fault (List Char) :=
  decodeAt 0 bytes

/-- The bytes of a text. -/
def encode (text : List Char) : List UInt8 :=
  text.flatMap String.utf8EncodeChar

end PermissionNames.Utf8

namespace PermissionNames

/-- Every carriage return, with the newline after it if there is one, becomes a newline. -/
def unifyNewlines : List Char → List Char
  | [] => []
  | '\r' :: '\n' :: rest => '\n' :: unifyNewlines rest
  | c :: rest => (if c = '\r' then '\n' else c) :: unifyNewlines rest

end PermissionNames
