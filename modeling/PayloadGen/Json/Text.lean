import PayloadGen.Text.Basic
import PayloadGen.Text.Utf8

/-!
# Text inside JSON strings

Strings are written so that they can stand inside a web page: angle brackets, ampersands and the two
line separators are escaped. `decodeLiteral` is the way back.
-/

namespace PayloadGen.Json

open Text

/-- The characters that would have a meaning where the text is put into a page or a script. -/
def isMarkup (c : Char) : Bool :=
  c = '<' || c = '>' || c = '&' || c = '\u2028' || c = '\u2029'

/-- The characters that are written as four digits, if they have no escape of their own. -/
def isHidden (c : Char) : Bool :=
  c.toNat < 0x20 || isMarkup c

/-- A character inside a string. -/
def escapedChar (c : Char) : List Char :=
  if c = '"' || c = '\\' then ['\\', c]
  else if c = '\n' then ['\\', 'n']
  else if c = '\r' then ['\\', 'r']
  else if c = '\t' then ['\\', 't']
  else if isHidden c then ['\\', 'u'] ++ hex 4 c.toNat
  else [c]

/-- A string between its quotes. -/
def quoted (s : String) : List Char :=
  '"' :: s.toList.flatMap escapedChar ++ ['"']

/-- A byte sequence between quotes; a byte that is part of no character is written as the escaped
replacement character. -/
def quotedBytes (s : Bytes) : List Char :=
  let piece : Piece → List Char
    | .char c => escapedChar c
    | .stray _ => ['\\', 'u', 'f', 'f', 'f', 'd']
  '"' :: (decode s).flatMap piece ++ ['"']

/-- The value of four hexadecimal digits. -/
def hex4? (a b c d : Char) : Option Nat := do
  let a ← hexValue? a
  let b ← hexValue? b
  let c ← hexValue? c
  let d ← hexValue? d
  return ((a * 16 + b) * 16 + c) * 16 + d

/-- Is the number the first half of a surrogate pair? -/
def isHighSurrogate (n : Nat) : Bool :=
  0xD800 ≤ n && n < 0xDC00

/-- Is the number the second half of a surrogate pair? -/
def isLowSurrogate (n : Nat) : Bool :=
  0xDC00 ≤ n && n < 0xE000

/-- The character of a UTF-16 unit that is not part of a pair. -/
def unitChar (n : Nat) : Char :=
  if isHighSurrogate n || isLowSurrogate n then replacement else Char.ofNat n

/-- The character of a pair of surrogates. -/
def pairChar (high low : Nat) : Char :=
  Char.ofNat (0x10000 + (high - 0xD800) * 0x400 + (low - 0xDC00))

/-- The character of a one-letter escape; a letter that is none stands for the null character. -/
def escapeValue : Char → Char
  | '"' => '"'
  | '\\' => '\\'
  | '/' => '/'
  | 'b' => '\x08'
  | 'f' => '\x0c'
  | 'n' => '\n'
  | 'r' => '\r'
  | 't' => '\t'
  | _ => '\x00'

/-- The text of the inside of a string. -/
def decodeLiteral : List Char → List Char
  | '\\' :: 'u' :: a :: b :: c :: d :: '\\' :: 'u' :: e :: f :: g :: h :: r =>
    let high := (hex4? a b c d).getD 0
    let low := (hex4? e f g h).getD 0
    if isHighSurrogate high && isLowSurrogate low then pairChar high low :: decodeLiteral r
    else unitChar high :: decodeLiteral ('\\' :: 'u' :: e :: f :: g :: h :: r)
  | '\\' :: 'u' :: a :: b :: c :: d :: r => unitChar ((hex4? a b c d).getD 0) :: decodeLiteral r
  | '\\' :: c :: r => escapeValue c :: decodeLiteral r
  | c :: r => c :: decodeLiteral r
  | [] => []
termination_by s => s.length

end PayloadGen.Json
