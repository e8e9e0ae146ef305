import AdoptionRecords.Connection.Letters
import AdoptionRecords.Connection.Numeric
import AdoptionRecords.Text.Direction
import AdoptionRecords.Text.Punycode

/-! Domains: names of hosts as people write them. A domain consists of labels with points between
them. A label may be written in punycode after a mark; then it must stand for characters that are
not all plain.
-/

namespace AdoptionRecords.Connection

open Text

/-- The mark of a label in punycode. -/
def punycodeMark : List Char :=
  "xn--".toList

/-- A domain in its plain form. -/
def plainForm (cs : List Char) : List Char :=
  (cs.filter fun c => !inRanges passedOver c).map plain

/-- The characters that a label in plain form stands for. -/
def labelText? (label : List Char) : Option (List Char) :=
  if punycodeMark.isPrefixOf label then
    match Punycode.decode? (label.drop punycodeMark.length) with
    | some cs =>
        if cs.all (·.toNat < 0x80) || plainForm cs != cs || punycodeMark.isPrefixOf cs then none
        else some cs
    | none => none
  else some label

/-- Whether the characters of a label may stand there. -/
def isLabel (cs : List Char) : Bool :=
  cs.all isFit && !cs.head?.any isMark

/-- Whether a host is a domain, or an address of version 4 if it ends with a number. -/
def isDomain (host : List Char) : Bool :=
  match percentDecoded? host with
  | none => false
  | some text =>
      let domain := plainForm text.toList
      match (domain.splitOn '.').mapM labelText? with
      | none => false
      | some labels =>
          let directions := labels.map (·.map Direction.ofChar)
          domain ≠ [] && labels.all isLabel &&
            (directions.all Direction.fit || !directions.any Direction.isMixed) &&
            (isVersion4 domain || !isNumeric domain)

end AdoptionRecords.Connection
