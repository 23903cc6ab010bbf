/-!
# Slices

Parts of a text between two positions that count the bytes of its UTF-8. A slice has to begin and to
end between characters.
-/

namespace GpuPassthrough.Text

/-- The number of bytes of characters in UTF-8. -/
def byteLength (s : List Char) : Nat := s.foldr (fun c bytes => c.utf8Size + bytes) 0

/-- What follows the first bytes of a text, unless they end inside a character or there are
fewer. -/
def dropBytes? : Nat → List Char → Option (List Char)
  | 0, s => some s
  | _ + 1, [] => none
  | n + 1, c :: rest => if c.utf8Size ≤ n + 1 then dropBytes? (n + 1 - c.utf8Size) rest else none

/-- The first bytes of a text, unless they end inside a character or there are fewer. -/
def takeBytes? : Nat → List Char → Option (List Char)
  | 0, _ => some []
  | _ + 1, [] => none
  | n + 1, c :: rest =>
    if c.utf8Size ≤ n + 1 then (takeBytes? (n + 1 - c.utf8Size) rest).map (c :: ·) else none

/-- The part of a text from one position to another. -/
def slice? (s : List Char) (start stop : Nat) : Option (List Char) :=
  (dropBytes? start s).bind (takeBytes? (stop - start))

end GpuPassthrough.Text
