import SegmentContainer.Text.Numeral
import SegmentContainer.Text.Printable

/-!
# Quoted text

Messages name a text or a character in quotes.  The quote mark that closes it
and the backslash are escaped, as are line ends, tabs and NUL, and a character
that does not show itself appears as its code point.
-/

set_option autoImplicit false

namespace SegmentContainer.Text

/-- One character inside quotes that the mark `closing` ends. -/
def quotedChar (closing : Char) (c : Char) : String :=
  if c = '\\' then "\\\\"
  else if c = closing then "\\" ++ String.singleton c
  else if c = '\n' then "\\n"
  else if c = '\r' then "\\r"
  else if c = '\t' then "\\t"
  else if c.toNat = 0 then "\\0"
  else if showsItself c then String.singleton c
  else "\\u\x7b" ++ Numeral.lowerDigits c.toNat ++ "\x7d"

def quoted (text : String) : String :=
  "\"" ++ String.join (text.toList.map (quotedChar '"')) ++ "\""

def quotedAlone (c : Char) : String :=
  "'" ++ quotedChar (Char.ofNat 39) c ++ "'"

end SegmentContainer.Text
