import Descent.Cursor
import Descent.Text.Utf8

/-!
# Cursors over text

A cursor over text counts positions in UTF-8 bytes and steps from character to character, so
every place it reaches is a boundary. The end is the place after the last byte and has no form
of its own.
-/
namespace Descent

/-- A place in a text, as an offset in bytes. -/
structure TextCursor where
  source : Source Char
  offset : Nat

namespace TextCursor

/-- The start of a text. -/
def start (s : Source Char) : TextCursor := ⟨s, 0⟩

/-- The text after the cursor, empty if the offset is no boundary. -/
def remaining (c : TextCursor) : List Char :=
  (Utf8.dropBytes? c.offset c.source.elements).getD []

/-- The place `n` bytes further on, the end at most. -/
def skipBytes (c : TextCursor) (n : Nat) : TextCursor :=
  { c with offset := min (c.offset + n) (Utf8.byteSize c.source.elements) }

/-- The place after the next character. -/
def next (c : TextCursor) : TextCursor :=
  match c.remaining with
  | [] => c
  | ch :: _ => c.skipBytes ch.utf8Size

instance : BEq TextCursor :=
  ⟨fun c d => c.source.elements == d.source.elements && c.offset == d.offset⟩

instance : Cursor TextCursor Char where
  value? c := c.remaining.head?
  next := next
  position := offset
  location c := Location.scan Atom.isNewline (Utf8.indexed 0 c.source.elements) c.offset
  remaining := remaining
  source := source
  restart c := start c.source

/-- The fields by name. -/
def debug (c : TextCursor) : String :=
  "StrCursor \x7b text: " ++ Quoted.text c.source.elements ++ ", position: "
    ++ toString c.offset ++ " \x7d"

end TextCursor
end Descent
