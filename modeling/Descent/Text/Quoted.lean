import Descent.Text.Glyphless

/-!
# Quoted text

The notation in which messages show a character or a text: quotation marks around it, a
backslash before the mark and the backslash itself, short escapes for NUL, tab, carriage return
and line feed, and the code point in hexadecimal for a character without a glyph of its own.
Everything else stands for itself.
-/
namespace Descent.Quoted

/-- A code point as lower-case hexadecimal without leading zeros. -/
def hexadecimal (n : Nat) : String :=
  String.ofList (Nat.toDigits 16 n)

/-- One character between marks `mark`. -/
def escape (mark : Char) (c : Char) : String :=
  if c = '\x00' then "\\0"
  else if c = '\t' then "\\t"
  else if c = '\r' then "\\r"
  else if c = '\n' then "\\n"
  else if c = '\\' then "\\\\"
  else if c = mark then "\\" ++ c.toString
  else if CodePoints.glyphless.contains c then "\\u\x7b" ++ hexadecimal c.toNat ++ "\x7d"
  else c.toString

/-- A character between single quotation marks. -/
def char (c : Char) : String :=
  "'" ++ escape '\'' c ++ "'"

/-- A text between double quotation marks. -/
def text (cs : List Char) : String :=
  "\"" ++ String.join (cs.map (escape '"')) ++ "\""

end Descent.Quoted
