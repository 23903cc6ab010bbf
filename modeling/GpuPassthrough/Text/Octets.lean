/-!
# Octets

What the system hands out as file names, link targets and file contents are bytes. Where they are
UTF-8 they are kept as text; other bytes are kept as they are, and shown with the replacement
character U+FFFD for each maximal part that is not UTF-8.
-/

namespace GpuPassthrough.Text

/-- A string of bytes: text, or bytes that are not the UTF-8 of a text. -/
inductive Octets where
  | text (s : String)
  | raw (bytes : List UInt8)
  deriving DecidableEq

/-- A decoder between two bytes: how many more bytes the character needs, the bounds of the next of
them, and the bits read so far. -/
structure Decoder where
  missing : Nat
  low : Nat
  high : Nat
  bits : Nat

/-- A decoder at the start of a character. -/
def Decoder.idle : Decoder := ⟨0, 0x80, 0xBF, 0⟩

/-- The decoder after the first byte of a character of several bytes, if the byte can be one. -/
def Decoder.start? (b : Nat) : Option Decoder :=
  if 0xC2 ≤ b ∧ b ≤ 0xDF then some ⟨1, 0x80, 0xBF, b - 0xC0⟩
  else if b = 0xE0 then some ⟨2, 0xA0, 0xBF, 0⟩
  else if b = 0xED then some ⟨2, 0x80, 0x9F, 13⟩
  else if 0xE1 ≤ b ∧ b ≤ 0xEF then some ⟨2, 0x80, 0xBF, b - 0xE0⟩
  else if b = 0xF0 then some ⟨3, 0x90, 0xBF, 0⟩
  else if b = 0xF4 then some ⟨3, 0x80, 0x8F, 4⟩
  else if 0xF1 ≤ b ∧ b ≤ 0xF3 then some ⟨3, 0x80, 0xBF, b - 0xF0⟩
  else none

/-- What stands for a part that is not UTF-8. -/
def replacement : Char := '\uFFFD'

/-- The characters that a byte completes at the start of a character, and the decoder after it. -/
def Decoder.begin (b : Nat) : List Char × Decoder :=
  if b < 0x80 then ([Char.ofNat b], .idle)
  else match Decoder.start? b with
    | some decoder => ([], decoder)
    | none => ([replacement], .idle)

/-- The characters that a byte completes, and the decoder after it. -/
def Decoder.feed (d : Decoder) (b : Nat) : List Char × Decoder :=
  if d.missing = 0 then Decoder.begin b
  else if d.low ≤ b ∧ b ≤ d.high then
    let bits := d.bits * 64 + (b - 0x80)
    if d.missing = 1 then ([Char.ofNat bits], .idle) else ([], ⟨d.missing - 1, 0x80, 0xBF, bits⟩)
  else
    let (chars, next) := Decoder.begin b
    (replacement :: chars, next)

/-- The characters of bytes, with replacements, after what a decoder has read. -/
def Decoder.decode (d : Decoder) : List UInt8 → List Char
  | [] => if d.missing = 0 then [] else [replacement]
  | b :: rest =>
    let (chars, next) := d.feed b.toNat
    chars ++ next.decode rest

/-- Where bytes stop being UTF-8. -/
structure Utf8Fault where
  /-- The bytes of the whole characters in front. -/
  index : Nat
  /-- The bytes that belong to no character, unless the bytes end inside of one. -/
  length : Option Nat
  deriving DecidableEq

/-- The wording of a fault. -/
def Utf8Fault.message (f : Utf8Fault) : String :=
  match f.length with
  | some n => "invalid utf-8 sequence of " ++ toString n ++ " bytes from index " ++ toString f.index
  | none => "incomplete utf-8 byte sequence from index " ++ toString f.index

/-- The first fault of bytes after what a decoder has read: `index` bytes of whole characters and
`begun` bytes of another one. -/
def Decoder.fault? (d : Decoder) (index begun : Nat) : List UInt8 → Option Utf8Fault
  | [] => if d.missing = 0 then none else some ⟨index, none⟩
  | b :: rest =>
    let n := b.toNat
    if d.missing = 0 then
      if n < 0x80 then Decoder.idle.fault? (index + 1) 0 rest
      else match Decoder.start? n with
        | some next => next.fault? index 1 rest
        | none => some ⟨index, some 1⟩
    else if n < d.low ∨ d.high < n then some ⟨index, some begun⟩
    else if d.missing = 1 then Decoder.idle.fault? (index + begun + 1) 0 rest
    else Decoder.fault? ⟨d.missing - 1, 0x80, 0xBF, d.bits * 64 + (n - 0x80)⟩ index (begun + 1) rest

/-- Bytes as octets: text exactly where they are UTF-8. -/
def Octets.ofBytes (bytes : List UInt8) : Octets :=
  match String.fromUTF8? (ByteArray.mk bytes.toArray) with
  | some s => .text s
  | none => .raw bytes

/-- The octets as text, with replacements for what is not UTF-8. -/
def Octets.lossy : Octets → String
  | .text s => s
  | .raw bytes => String.ofList (Decoder.idle.decode bytes)

/-- The octets as text, if they are. -/
def Octets.text? : Octets → Option String
  | .text s => some s
  | .raw _ => none

/-- The number of bytes. -/
def Octets.size : Octets → Nat
  | .text s => s.utf8ByteSize
  | .raw bytes => bytes.length

end GpuPassthrough.Text
