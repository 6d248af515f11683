import PayloadGen.Text.Basic

/-!
# Entities and escapes

A character can be written by its number or its name between `&` and `;`, and a punctuation
character can be written after a backslash. The names are those of Latin-1 and of the most common
signs.
-/

namespace PayloadGen.Markdown

open Text

/-- The names of characters. -/
def entityNames : List (String × Nat) :=
  [("amp", 0x26), ("lt", 0x3C), ("gt", 0x3E), ("quot", 0x22), ("apos", 0x27), ("nbsp", 0xA0),
   ("iexcl", 0xA1), ("cent", 0xA2), ("pound", 0xA3), ("curren", 0xA4), ("yen", 0xA5),
   ("brvbar", 0xA6), ("sect", 0xA7), ("uml", 0xA8), ("copy", 0xA9), ("ordf", 0xAA), ("laquo", 0xAB),
   ("not", 0xAC), ("shy", 0xAD), ("reg", 0xAE), ("macr", 0xAF), ("deg", 0xB0), ("plusmn", 0xB1),
   ("sup2", 0xB2), ("sup3", 0xB3), ("acute", 0xB4), ("micro", 0xB5), ("para", 0xB6),
   ("middot", 0xB7), ("cedil", 0xB8), ("sup1", 0xB9), ("ordm", 0xBA), ("raquo", 0xBB),
   ("frac14", 0xBC), ("frac12", 0xBD), ("frac34", 0xBE), ("iquest", 0xBF), ("times", 0xD7),
   ("divide", 0xF7), ("szlig", 0xDF), ("auml", 0xE4), ("ouml", 0xF6), ("uuml", 0xFC),
   ("Auml", 0xC4), ("Ouml", 0xD6), ("Uuml", 0xDC), ("eacute", 0xE9), ("egrave", 0xE8),
   ("agrave", 0xE0), ("ccedil", 0xE7), ("ntilde", 0xF1), ("hellip", 0x2026), ("ndash", 0x2013),
   ("mdash", 0x2014), ("lsquo", 0x2018), ("rsquo", 0x2019), ("ldquo", 0x201C), ("rdquo", 0x201D),
   ("bull", 0x2022), ("euro", 0x20AC), ("trade", 0x2122), ("larr", 0x2190), ("uarr", 0x2191),
   ("rarr", 0x2192), ("darr", 0x2193), ("le", 0x2264), ("ge", 0x2265), ("ne", 0x2260),
   ("infin", 0x221E)]

/-- How many of the first names may stand without a semicolon, the one for the apostrophe apart. -/
def looseNames : Nat := 52

/-- The character of a number; numbers that no character has give the replacement character. -/
def numberedChar (n : Nat) : Char :=
  if n = 0 || 0x10FFFF < n || (0xD800 ≤ n && n ≤ 0xDFFF) then '\ufffd' else Char.ofNat n

/-- A character that is written by its number after `&#`, and what follows. -/
def numberedEntity? (s : List Char) : Option (Char × List Char) :=
  let isHex := s.head? == some 'x' || s.head? == some 'X'
  let body := if isHex then s.drop 1 else s
  let digits := body.takeWhile fun c => if isHex then (hexValue? c).isSome else isAsciiDigit c
  let value := digits.foldl (fun n c => (if isHex then 16 else 10) * n + (hexValue? c).getD 0) 0
  let rest := body.drop digits.length
  if digits.isEmpty then none
  else some (numberedChar value, if rest.head? == some ';' then rest.drop 1 else rest)

/-- A character that is written by its name after `&`, and what follows. -/
def namedEntity? (s : List Char) : Option (Char × List Char) :=
  let name := s.takeWhile fun c => isAsciiLetter c || isAsciiDigit c
  let rest := s.drop name.length
  match entityNames.findIdx? (·.1.toList == name) with
  | some i =>
    let char := Char.ofNat ((entityNames.getD i ("", 0)).2)
    if rest.head? == some ';' then some (char, rest.drop 1)
    else if i < looseNames && i ≠ 4 then some (char, rest)
    else none
  | none => none

/-- A text with the characters that are written by number or name. -/
def decodeEntities : (fuel : Nat) → List Char → List Char
  | 0, s => s
  | _, [] => []
  | fuel + 1, '&' :: r =>
    let found := match r with
      | '#' :: s => numberedEntity? s
      | _ => namedEntity? r
    match found with
    | some (c, rest) => c :: decodeEntities fuel rest
    | none => '&' :: decodeEntities fuel r
  | fuel + 1, c :: r => c :: decodeEntities fuel r

/-- The characters that may be written after a backslash. -/
def escapable : List Char := "\\`*_\x7b\x7d[]<>()#+-.!|".toList

/-- A text without the backslashes of its escapes. -/
def dropEscapes : List Char → List Char
  | [] => []
  | '\\' :: c :: r =>
    if escapable.contains c then c :: dropEscapes r else '\\' :: dropEscapes (c :: r)
  | c :: r => c :: dropEscapes r

/-- A text without the backslashes of its escapes. -/
def unescaped (s : String) : String :=
  String.ofList (dropEscapes s.toList)

/-- A text with the characters that are written by number or name. -/
def decoded (s : String) : String :=
  String.ofList (decodeEntities (s.length + 1) s.toList)

end PayloadGen.Markdown
