import GpuPassthrough.Text.Numeral
import GpuPassthrough.Text.Octets

/-!
# Percent Signs

Bytes as text of a smaller alphabet: a percent sign and two hexadecimal digits stand for a byte. A
percent sign that no two digits follow stands for itself.
-/

namespace GpuPassthrough.Text

/-- The percent sign. -/
def percent : UInt8 := 0x25

/-- The byte that two hexadecimal digits of either case give. -/
def hexPair? (high low : UInt8) : Option UInt8 :=
  match digit? 16 (Char.ofNat high.toNat), digit? 16 (Char.ofNat low.toNat) with
  | some h, some l => some (UInt8.ofNat (h * 16 + l))
  | _, _ => none

/-- The bytes that bytes with percent signs stand for. -/
def unescapeBytes : List UInt8 → List UInt8
  | b :: high :: low :: rest =>
    if b = percent then
      match hexPair? high low with
      | some byte => byte :: unescapeBytes rest
      | none => b :: unescapeBytes (high :: low :: rest)
    else b :: unescapeBytes (high :: low :: rest)
  | bytes => bytes

/-- The text that a text with percent signs stands for, unless its bytes are not UTF-8. -/
def unescape (s : String) : Except Utf8Fault String :=
  let bytes := unescapeBytes s.toUTF8.data.toList
  match Decoder.idle.fault? 0 0 bytes with
  | some fault => .error fault
  | none => .ok (Octets.ofBytes bytes).lossy

end GpuPassthrough.Text
