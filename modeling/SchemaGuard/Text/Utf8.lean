/-!
# UTF-8

Decoding byte strings. A character is its first byte and the continuation bytes this calls for; the
first continuation byte has a narrower range after some first bytes, which rules out overlong forms,
surrogates and what lies beyond U+10FFFF. Where a sequence breaks off, the bytes that could still
have begun a character are one error. Strict decoding reports the first error, lossy decoding
replaces each by U+FFFD.
-/

namespace SchemaGuard.Text.Utf8

/-- Why bytes are not a character. -/
inductive Defect where
  | start
  | continuation
  | truncated

def Defect.message : Defect → String
  | start => "invalid start byte"
  | continuation => "invalid continuation byte"
  | truncated => "unexpected end of data"

/-- Bytes that are not a character: where they stand, their number, the first of them, and why. -/
structure Error where
  position : Nat
  length : Nat
  first : UInt8
  defect : Defect

def hexByte (byte : UInt8) : String :=
  String.ofList [Nat.digitChar (byte.toNat / 16), Nat.digitChar (byte.toNat % 16)]

def Error.message (error : Error) : String :=
  let place :=
    if error.length = 1 then s!"byte 0x{hexByte error.first} in position {error.position}"
    else s!"bytes in position {error.position}-{error.position + error.length - 1}"
  s!"'utf-8' codec can't decode {place}: {error.defect.message}"

/-- What a first byte calls for: the bits it gives, how many continuation bytes follow, and the range
of the first of these. -/
def lead? (byte : Nat) : Option (Nat × Nat × Nat × Nat) :=
  if byte < 0x80 then some (byte, 0, 0, 0)
  else if byte < 0xc2 then none
  else if byte < 0xe0 then some (byte - 0xc0, 1, 0x80, 0xbf)
  else if byte == 0xe0 then some (0, 2, 0xa0, 0xbf)
  else if byte == 0xed then some (0xd, 2, 0x80, 0x9f)
  else if byte < 0xf0 then some (byte - 0xe0, 2, 0x80, 0xbf)
  else if byte == 0xf0 then some (0, 3, 0x90, 0xbf)
  else if byte < 0xf4 then some (byte - 0xf0, 3, 0x80, 0xbf)
  else if byte == 0xf4 then some (4, 3, 0x80, 0x8f)
  else none

/-- Reads the continuation bytes that are still owed; `taken` bytes have been read. Gives the code
point and the bytes read, or the bytes at fault. -/
def continue_ (code taken : Nat) : Nat → Nat → Nat → List UInt8 → Except (Nat × Defect) (Nat × Nat)
  | 0, _, _, _ => .ok (code, taken)
  | _ + 1, _, _, [] => .error (taken, .truncated)
  | owed + 1, low, high, byte :: rest =>
    if low ≤ byte.toNat && byte.toNat ≤ high then
      continue_ (code * 64 + byte.toNat % 64) (taken + 1) owed 0x80 0xbf rest
    else
      .error (taken, .continuation)

/-- The first character of a byte string and its length, or the number of bytes at fault. -/
def next (byte : UInt8) (rest : List UInt8) : Except (Nat × Defect) (Char × Nat) :=
  match lead? byte.toNat with
  | none => .error (1, .start)
  | some (bits, owed, low, high) =>
    match continue_ bits 1 owed low high rest with
    | .ok (code, taken) => .ok (Char.ofNat code, taken)
    | .error fault => .error fault

/-- Decodes with the bytes that are still to be passed over, because a character or an error before
them has claimed them; `replace` stands for the bytes of an error. -/
def decodeFrom (replace : List UInt8 → List Char) : Nat → List UInt8 → List Char
  | _, [] => []
  | claimed + 1, _ :: rest => decodeFrom replace claimed rest
  | 0, byte :: rest =>
    match next byte rest with
    | .ok (c, taken) => c :: decodeFrom replace (taken - 1) rest
    | .error (count, _) => replace ((byte :: rest).take count) ++ decodeFrom replace (count - 1) rest

/-- The first error in a byte string. -/
def firstError? (position : Nat) : Nat → List UInt8 → Option Error
  | _, [] => none
  | claimed + 1, _ :: rest => firstError? (position + 1) claimed rest
  | 0, byte :: rest =>
    match next byte rest with
    | .ok (_, taken) => firstError? (position + 1) (taken - 1) rest
    | .error (count, defect) => some ⟨position, count, byte, defect⟩

/-- The text of a byte string. -/
def decode (bytes : List UInt8) : Except Error String :=
  match firstError? 0 0 bytes with
  | some error => .error error
  | none => .ok (String.ofList (decodeFrom (fun _ => []) 0 bytes))

/-- The text of a byte string, with U+FFFD for each sequence of bytes that is no character. -/
def decodeLossy (bytes : List UInt8) : String :=
  String.ofList (decodeFrom (fun _ => ['\ufffd']) 0 bytes)

/-- The text of a byte string, with every byte that is no part of a character by its number. -/
def decodeVisible (bytes : List UInt8) : String :=
  String.ofList (decodeFrom (fun wrong => wrong.flatMap fun byte => '\\' :: 'x' :: (hexByte byte).toList) 0 bytes)

/-- The bytes of a text. -/
def encode (text : String) : List UInt8 := text.toUTF8.toList

end SchemaGuard.Text.Utf8
