import AdoptionRecords.Text.Seen

/-! Texts in quotes, for messages. Quotes and backslashes are marked with a backslash, line ends
and tabs are named by letters, and a character that is not seen by itself is named by its number.
-/

namespace AdoptionRecords.Text

/-- A character inside quotes. -/
def quotedChar (c : Char) : List Char :=
  if c = '"' ∨ c = '\\' then ['\\', c]
  else if c = '\n' then ['\\', 'n']
  else if c = '\r' then ['\\', 'r']
  else if c = '\t' then ['\\', 't']
  else if c = '\x00' then ['\\', '0']
  else if isSeen c then [c]
  else ['\\', 'u', '\x7b'] ++ Nat.toDigits 16 c.toNat ++ ['\x7d']

/-- A text in quotes. -/
def inQuotes (s : String) : String :=
  String.ofList ('"' :: (s.toList.flatMap quotedChar ++ ['"']))

end AdoptionRecords.Text
