import PayloadGen.Markdown.Inline

/-!
# The blocks of a Markdown page

A page of headings, paragraphs and tables. Blocks are separated by empty lines; a heading is a line
of its own. A paragraph whose second line rules off columns is a table.
-/

namespace PayloadGen.Markdown

open Text

/-- A block of a page. -/
inductive Block where
  | heading (level : Nat) (content : List Span)
  | paragraph (content : List Span)
  | table (head : List (List Span)) (rows : List (List (List Span)))

/-- The level and the content of a heading. Number signs at the end do not belong to the content. -/
def heading? (line : String) : Option (Nat × String) :=
  let body := (line.toList.dropWhile (· == ' '))
  let signs := body.takeWhile (· == '#')
  let rest := body.drop signs.length
  if signs.isEmpty || 6 < signs.length ||
      !(rest.isEmpty || rest.head?.any fun c => c == ' ' || c == '\t') then none
  else
    let content := trimWhere isSpace rest
    let bare := trimRightWhere (· == '#') content
    let closed := bare.length < content.length && (bare.isEmpty || bare.getLast?.any isSpace)
    let content := if closed then trimRightWhere isSpace bare else content
    some (signs.length, String.ofList content)

/-- The texts of the cells of a line. A bar after a backslash does not end a cell. -/
def cellTexts (line : List Char) : List (List Char) :=
  let line := trimWhere isSpace line
  let line := if line.head? == some '|' then line.drop 1 else line
  let line := if line.getLast? == some '|' then line.dropLast else line
  if line.isEmpty then [] else (cut none [] line).map (trimWhere isSpace)
where
  /-- The texts between bars. -/
  cut (before : Option Char) (done : List Char) : List Char → List (List Char)
    | [] => [done.reverse]
    | c :: r =>
      if c = '|' && before ≠ some '\\' then
        if r.isEmpty then [done.reverse] else done.reverse :: cut (some c) [] r
      else cut (some c) (c :: done) r

/-- The pieces of a cell. Inside code a bar after a backslash is a bar. -/
def cellSpans (text : List Char) : List Span :=
  (readSpans (String.ofList text)).map fun
    | .code s => .code (replace s "\\|" "|")
    | s => s

/-- Does the text rule off a column? -/
def isRule (text : List Char) : Bool :=
  let dashes := text.dropWhile (· == ':')
  let rest := dashes.dropWhile (· == '-')
  text.length ≤ dashes.length + 1 && dashes.head? == some '-' && (rest.isEmpty || rest == [':'])

/-- The cells of a row, as many as there are columns. -/
def rowCells (columns : Nat) (line : String) : List (List Span) :=
  let cells := ((cellTexts line.toList).map cellSpans).take columns
  cells ++ List.replicate (columns - cells.length) []

/-- The block that the lines of a paragraph make. -/
def ofLines (lines : List String) : List Block :=
  match lines with
  | [] => []
  | head :: rule :: rows =>
    let headCells := cellTexts head.toList
    let rules := cellTexts rule.toList
    if rules.contains [] || !rules.all isRule || rules.length ≠ headCells.length || rules.isEmpty ||
        !rule.toList.contains '|' then
      [.paragraph (readSpans ("\n".intercalate (lines.map trim)))]
    else [.table (headCells.map cellSpans) (rows.map (rowCells headCells.length))]
  | [line] => [.paragraph (readSpans (trim line))]

/-- The blocks of lines, after the lines of a paragraph that are read already. -/
def blocksFrom (paragraph : List String) : List String → List Block
  | [] => ofLines paragraph.reverse
  | line :: rest =>
    if trim line = "" then ofLines paragraph.reverse ++ blocksFrom [] rest
    else match heading? line with
      | some (level, content) =>
        ofLines paragraph.reverse ++ .heading level (readSpans content) :: blocksFrom [] rest
      | none => blocksFrom (line :: paragraph) rest

/-- The blocks of a page. -/
def read (page : String) : List Block :=
  blocksFrom [] ((List.splitOn '\n' page.toList).map String.ofList)

end PayloadGen.Markdown
