import SegmentContainer.Text.Numeral

/-!
# JSON documents

The documents that reports are made of, and their two written forms: compact,
without any blank, and pretty, one item a line with an indentation of two.
Objects keep the order of their members.
-/

set_option autoImplicit false

namespace SegmentContainer

/-- A JSON document whose numbers are natural. -/
inductive Json where
  | bool (value : Bool)
  | number (value : Nat)
  | string (value : String)
  | array (items : List Json)
  | object (members : List (String × Json))

namespace Json

/-- One character of a string: quote, backslash and control characters are
escaped, all others stand for themselves. -/
def writtenChar (c : Char) : String :=
  if c = '"' then "\\\""
  else if c = '\\' then "\\\\"
  else if c.toNat = 0x8 then "\\b"
  else if c.toNat = 0xC then "\\f"
  else if c = '\n' then "\\n"
  else if c = '\r' then "\\r"
  else if c = '\t' then "\\t"
  else if c.toNat < 0x20 then "\\u" ++ Numeral.padLeft '0' 4 (Numeral.lowerDigits c.toNat)
  else String.singleton c

def writtenString (text : String) : String :=
  "\"" ++ String.join (text.toList.map writtenChar) ++ "\""

mutual

def compact : Json → String
  | .bool true => "true"
  | .bool false => "false"
  | .number value => toString value
  | .string value => writtenString value
  | .array items => "[" ++ compactItems items ++ "]"
  | .object members => "\x7b" ++ compactMembers members ++ "\x7d"

def compactItems : List Json → String
  | [] => ""
  | [item] => compact item
  | item :: rest => compact item ++ "," ++ compactItems rest

def compactMembers : List (String × Json) → String
  | [] => ""
  | [(key, value)] => writtenString key ++ ":" ++ compact value
  | (key, value) :: rest =>
    writtenString key ++ ":" ++ compact value ++ "," ++ compactMembers rest

end

def newLine (depth : Nat) : String :=
  "\n" ++ String.ofList (List.replicate (2 * depth) ' ')

mutual

def prettyAt : Nat → Json → String
  | _, .bool true => "true"
  | _, .bool false => "false"
  | _, .number value => toString value
  | _, .string value => writtenString value
  | _, .array [] => "[]"
  | depth, .array (item :: rest) =>
    "[" ++ prettyItems (depth + 1) (item :: rest) ++ newLine depth ++ "]"
  | _, .object [] => "\x7b\x7d"
  | depth, .object (member :: rest) =>
    "\x7b" ++ prettyMembers (depth + 1) (member :: rest) ++ newLine depth ++ "\x7d"

def prettyItems : Nat → List Json → String
  | _, [] => ""
  | depth, [item] => newLine depth ++ prettyAt depth item
  | depth, item :: rest =>
    newLine depth ++ prettyAt depth item ++ "," ++ prettyItems depth rest

def prettyMembers : Nat → List (String × Json) → String
  | _, [] => ""
  | depth, [(key, value)] =>
    newLine depth ++ writtenString key ++ ": " ++ prettyAt depth value
  | depth, (key, value) :: rest =>
    newLine depth ++ writtenString key ++ ": " ++ prettyAt depth value ++ ","
      ++ prettyMembers depth rest

end

def pretty (document : Json) : String :=
  prettyAt 0 document

end Json
end SegmentContainer
