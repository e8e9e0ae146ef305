/-! Parts of an address in which a percent sign and two digits in base sixteen stand for a byte. -/

namespace AdoptionRecords.Connection

/-- The value of a digit in base sixteen. -/
def hexValue? (c : Char) : Option Nat :=
  if c.isDigit then some (c.toNat - '0'.toNat)
  else if 'a' ≤ c.toLower ∧ c.toLower ≤ 'f' then some (c.toLower.toNat - 'a'.toNat + 10)
  else none

/-- The bytes of a text in which a percent sign and two digits in base sixteen stand for one. -/
def percentBytes : List Char → List UInt8
  | [] => []
  | '%' :: a :: b :: rest =>
      match hexValue? a, hexValue? b with
      | some x, some y => (x * 16 + y).toUInt8 :: percentBytes rest
      | _, _ => "%".toUTF8.toList ++ percentBytes (a :: b :: rest)
  | c :: rest => (String.singleton c).toUTF8.toList ++ percentBytes rest

/-- The text that a part stands for, if its bytes are those of a text. -/
def percentDecoded? (cs : List Char) : Option String :=
  String.fromUTF8? (ByteArray.mk (percentBytes cs).toArray)

/-- Whether the bytes of a part are those of a text. -/
def isText (cs : List Char) : Bool :=
  (percentDecoded? cs).isSome

end AdoptionRecords.Connection
