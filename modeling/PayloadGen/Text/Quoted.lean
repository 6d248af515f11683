import PayloadGen.Text.Basic
import PayloadGen.Text.Printable
import PayloadGen.Text.Utf8

/-!
# Double-quoted literals

A quoted literal stands on one line: printable characters are shown as they are, and all others are
escaped by a backslash. Error messages show the texts they speak of in this form.
-/

namespace PayloadGen.Text

/-- The escaped form of a character in a quoted literal. -/
def quotedChar (c : Char) : List Char :=
  if c = '"' || c = '\\' then ['\\', c]
  else if isPrintable c then [c]
  else if c = '\x07' then ['\\', 'a']
  else if c = '\x08' then ['\\', 'b']
  else if c = '\x0c' then ['\\', 'f']
  else if c = '\n' then ['\\', 'n']
  else if c = '\r' then ['\\', 'r']
  else if c = '\t' then ['\\', 't']
  else if c = '\x0b' then ['\\', 'v']
  else if c.toNat < 0x20 || c.toNat = 0x7F then ['\\', 'x'] ++ hex 2 c.toNat
  else if c.toNat < 0x10000 then ['\\', 'u'] ++ hex 4 c.toNat
  else ['\\', 'U'] ++ hex 8 c.toNat

/-- A text between double quotes. -/
def quote (s : String) : String :=
  String.ofList ('"' :: s.toList.flatMap quotedChar ++ ['"'])

/-- A byte sequence between double quotes; a byte that is part of no character is shown in
hexadecimal. -/
def quoteBytes (s : Bytes) : String :=
  let piece : Piece → List Char
    | .char c => quotedChar c
    | .stray b => ['\\', 'x'] ++ hex 2 b.toNat
  String.ofList ('"' :: (decode s).flatMap piece ++ ['"'])

end PayloadGen.Text
