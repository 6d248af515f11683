import PayloadGen.Markdown.Block
import PayloadGen.Markdown.Entity
import PayloadGen.Terminal.Grid

/-!
# Showing a Markdown page in a terminal

Headings and paragraphs are broken to the width of the page, tables are fitted to it. The links of a
table are numbered and listed under it. The page has margins, and its lines are filled up with
blanks.
-/

namespace PayloadGen.Terminal

open Text Markdown

/-- A link that is listed under a table. -/
structure Footnote where
  target : String
  title : String
  content : String
  isImage : Bool
  deriving DecidableEq

/-- The name of the host of an address. -/
def hostOf (address : String) : String :=
  match cut? ':' address.toList with
  | some (_, '/' :: '/' :: rest) =>
    let authority := rest.takeWhile fun c => c != '/' && c != '?' && c != '#'
    let host := if authority.contains '@' then afterLast '@' authority else authority
    String.ofList (host.takeWhile (· != ':'))
  | _ => ""

/-- The target of an address. -/
def addressTarget (address : String) (mail : Bool) : String :=
  if mail then "mailto:" ++ address
  else if startsWith address "www." then "http://" ++ address
  else address

mutual

/-- The links in a piece. -/
def footnotesIn : Span → List Footnote
  | .link target title inner => ⟨target, title, plainOf inner, false⟩ :: footnotesOf inner
  | .image target title inner =>
    let content := plainOf inner
    [⟨target, title, if content = "" then hostOf target else content, true⟩]
  | .address target mail =>
    let target := addressTarget target mail
    [⟨target, "", hostOf target, false⟩]
  | .emphasis _ inner => footnotesOf inner
  | .strike inner => footnotesOf inner
  | .text _ | .code _ | .tag => []

/-- The links in pieces. -/
def footnotesOf : List Span → List Footnote
  | [] => []
  | s :: r => footnotesIn s ++ footnotesOf r

end

/-- The content of a link with its number among the notes. -/
def numbered (notes : List Footnote) (n : Footnote) : String :=
  match notes.findIdx? (· == n) with
  | some i => n.content ++ "[" ++ ofInt ((i : Int) + 1) ++ "]"
  | none => n.content

/-- What a link shows after its content. A target on the same page is not shown. -/
def targetShown (target : String) : String :=
  if startsWith target "#" then "" else " " ++ unescaped target

mutual

/-- A piece as it is shown between marks. In a table links are numbered, elsewhere their targets are
shown. -/
def shownWith (notes : Option (List Footnote)) (mark : String) : Span → String
  | .text s => if s = "" then "" else mark ++ unescaped (decoded s) ++ mark
  | .code s =>
    mark ++ (if notes.isSome || mark ≠ "" then unescaped (decoded s) else decoded s) ++ mark
  | .emphasis strong inner =>
    shownAll notes (if mark ≠ "" then mark else if strong then "**" else "*") inner
  | .strike inner => "~~" ++ unescaped (decoded (plainOf inner)) ++ "~~"
  | .link target title inner =>
    match notes with
    | some notes => mark ++ unescaped (numbered notes ⟨target, title, plainOf inner, false⟩) ++ mark
    | none => mark ++ shownAll none "" inner ++ targetShown target ++ mark
  | .image target title inner =>
    let content := plainOf inner
    match notes with
    | some notes =>
      let content := if content = "" then hostOf target else content
      mark ++ "Image: " ++ numbered notes ⟨target, title, content, true⟩ ++ " →" ++ mark
    | none => mark ++ "Image: " ++ unescaped content ++ " → " ++ unescaped target ++ mark
  | .address address mail =>
    let target := addressTarget address mail
    match notes with
    | some notes => mark ++ unescaped (numbered notes ⟨target, "", hostOf target, false⟩) ++ mark
    | none => mark ++ (if mail then address ++ " " else "") ++ unescaped target ++ mark
  | .tag => ""

/-- Pieces as they are shown between marks. -/
def shownAll (notes : Option (List Footnote)) (mark : String) : List Span → String
  | [] => ""
  | s :: r => shownWith notes mark s ++ shownAll notes mark r

end

/-- The list of the notes under a table. -/
def noteList (width : Nat) (notes : List Footnote) : String :=
  let digits (n : Nat) : Nat := (ofInt n).length
  let line (i : Nat) (n : Footnote) : String :=
    let number := "[" ++ ofInt ((i : Int) + 1) ++ "]: "
    let front := String.ofList (List.replicate (digits notes.length - digits (i + 1)) ' ')
    let text := if n.isImage then number ++ "Image: " ++ unescaped n.content ++ " →"
      else unescaped (front ++ number ++ n.content)
    let room := width - (utf8 text).length - 1
    "\n" ++ text ++ " " ++ unescaped (truncate room "…" n.target)
  if notes.isEmpty then ""
  else "\n" ++ String.join ((List.range notes.length).map fun i =>
    line i (notes.getD i ⟨"", "", "", false⟩))

/-- A block as it is shown on a page of a width. -/
def shownBlock (width : Nat) (isFirst : Bool) : Block → String
  | .heading level content =>
    (if isFirst then "" else "\n") ++
      flow width (String.ofList (List.replicate level '#') ++ " " ++ shownAll none "" content) ++
      "\n"
  | .paragraph content =>
    let text := trim (shownAll none "" content)
    (if isFirst then "" else "\n") ++
      (if text = "" then "" else flow width (replace text "\n" " ") ++ "\n")
  | .table head rows =>
    let found := footnotesOf (head ++ rows.flatten).flatten
    let links := (found.filter (!·.isImage)).eraseDups
    let images := (found.filter (·.isImage)).eraseDups
    let cell (c : List Span) : String := shownAll (some (links ++ images)) "" c
    let grid : Grid := ⟨head.map cell, rows.map fun r => r.map cell⟩
    "\n" ++ stack (grid.lines width) ++ noteList width links ++ noteList width images ++ "\n"

/-- The margin on either side of a page. -/
def margin : Nat := 2

/-- The lines of a text between margins, filled up with blanks. -/
def withMargins (width : Nat) (text : String) : String :=
  let fill (l : List Char) : List Char := List.replicate (width - columns l) ' '
  let front := List.replicate margin ' '
  let lines := List.splitOn '\n' text.toList
  let full := lines.dropLast.flatMap fun l => front ++ l ++ fill l ++ ['\n']
  let last := lines.getLastD []
  String.ofList (full ++ (if last.isEmpty then [] else front ++ last))

/-- A Markdown page as it is shown in a terminal of a width. -/
def preview (width : Int) (page : String) : String :=
  let width := (width - 2 * margin).toNat
  let blocks := Markdown.read page
  let texts := (List.range blocks.length).map fun i =>
    shownBlock width (i = 0) (blocks.getD i (.paragraph []))
  "\n" ++ withMargins width (String.join texts) ++ "\n"

end PayloadGen.Terminal
