/-! White space in the sense of the Unicode property `White_Space`, and the trimming and padding
of lines. Trimming removes blanks from the ends only; padding counts code points.
-/

namespace AdoptionRecords.Text

/-- A blank is a character with the property `White_Space`. -/
def isBlank (c : Char) : Bool :=
  let n := c.toNat
  (0x09 ≤ n && n ≤ 0x0D) || n == 0x20 || n == 0x85 || n == 0xA0 || n == 0x1680 ||
    (0x2000 ≤ n && n ≤ 0x200A) || n == 0x2028 || n == 0x2029 || n == 0x202F || n == 0x205F ||
    n == 0x3000

/-- The text without the blanks it starts with. -/
def trimStart (cs : List Char) : List Char :=
  cs.dropWhile isBlank

/-- The text without the blanks it ends with. -/
def trimEnd (cs : List Char) : List Char :=
  (cs.reverse.dropWhile isBlank).reverse

/-- The text without the blanks at either end. -/
def trim (cs : List Char) : List Char :=
  trimEnd (trimStart cs)

/-- A line without the blanks it ends with. -/
def trimLine (s : String) : String :=
  String.ofList (trimEnd s.toList)

/-- The spaces that fill a text of the given length up to a width. -/
def filler (width length : Nat) : String :=
  String.ofList (List.replicate (width - length) ' ')

/-- The text at the left of a field of at least the given width. -/
def padRight (width : Nat) (s : String) : String :=
  s ++ filler width s.length

/-- The text at the right of a field of at least the given width. -/
def padLeft (width : Nat) (s : String) : String :=
  filler width s.length ++ s

/-- Whether a text holds the character NUL. -/
def hasNul (s : String) : Bool :=
  s.toList.contains '\x00'

/-- Texts one after another with a separator between neighbours. -/
def joinWith (separator : String) (texts : List String) : String :=
  separator.intercalate texts

end AdoptionRecords.Text
