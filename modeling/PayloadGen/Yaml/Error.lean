import PayloadGen.Text.Quoted
import PayloadGen.Text.Basic

/-!
# What can be wrong with a YAML document

A text may be no YAML at all (`Problem`, with the line where it shows), it may be YAML that stands
for no value (`Refusal`), or its values may not fit the place that they are read into (`Mismatch`).
Mismatches are collected, so one message can list several of them.
-/

namespace PayloadGen.Yaml

open Text

/-- Why a text is not a YAML document. -/
inductive Problem where
  | controlCharacter
  | noToken
  | entryNotAllowed
  | keyNotAllowed
  | valueNotAllowed
  | noColon
  | tooDeep
  | directiveName
  | directiveLetter
  | directiveUnknown
  | directiveEnd
  | versionMissing
  | versionPoint
  | versionLong
  | tagBlank
  | tagLineEnd
  | tagMark
  | tagClose
  | tagAddress
  | tagEscape
  | tagCharacter
  | tagTail
  | anchorName
  | zeroIndent
  | blockHeader
  | blockTab
  | quotedIndicator
  | quotedEnd
  | quotedEscape
  | quotedHex
  | quotedCode
  | plainTab
  | versionTwice
  | versionOther
  | tagTwice
  | documentStart
  | tagUndefined
  | nodeMissing
  | blockEntryMissing
  | blockKeyMissing
  | flowEntryMissing
  | flowPairMissing

/-- The wording of a problem. -/
def Problem.message : Problem → String
  | controlCharacter => "control characters are not allowed"
  | noToken => "found character that cannot start any token"
  | entryNotAllowed => "block sequence entries are not allowed in this context"
  | keyNotAllowed => "mapping keys are not allowed in this context"
  | valueNotAllowed => "mapping values are not allowed in this context"
  | noColon => "could not find expected ':'"
  | tooDeep => "exceeded max depth of 10000"
  | directiveName => "could not find expected directive name"
  | directiveLetter => "found unexpected non-alphabetical character"
  | directiveUnknown => "found unknown directive name"
  | directiveEnd => "did not find expected comment or line break"
  | versionMissing => "did not find expected version number"
  | versionPoint => "did not find expected digit or '.' character"
  | versionLong => "found extremely long version number"
  | tagBlank => "did not find expected whitespace"
  | tagLineEnd => "did not find expected whitespace or line break"
  | tagMark => "did not find expected '!'"
  | tagClose => "did not find the expected '>'"
  | tagAddress => "did not find expected tag URI"
  | tagEscape => "did not find URI escaped octet"
  | tagCharacter => "found an incorrect leading UTF-8 octet"
  | tagTail => "found an incorrect trailing UTF-8 octet"
  | anchorName => "did not find expected alphabetic or numeric character"
  | zeroIndent => "found an indentation indicator equal to 0"
  | blockHeader => "did not find expected comment or line break"
  | blockTab => "found a tab character where an indentation space is expected"
  | quotedIndicator => "found unexpected document indicator"
  | quotedEnd => "found unexpected end of stream"
  | quotedEscape => "found unknown escape character"
  | quotedHex => "did not find expected hexdecimal number"
  | quotedCode => "found invalid Unicode character escape code"
  | plainTab => "found a tab character that violates indentation"
  | versionTwice => "found duplicate %YAML directive"
  | versionOther => "found incompatible YAML document"
  | tagTwice => "found duplicate %TAG directive"
  | documentStart => "did not find expected <document start>"
  | tagUndefined => "found undefined tag handle"
  | nodeMissing => "did not find expected node content"
  | blockEntryMissing => "did not find expected '-' indicator"
  | blockKeyMissing => "did not find expected key"
  | flowEntryMissing => "did not find expected ',' or ']'"
  | flowPairMissing => "did not find expected ',' or '\x7d'"

/-- Why a document stands for no value. -/
inductive Refusal where
  | unknownAnchor (name : String)
  | selfContaining (anchor : String)
  | excessiveAliasing
  | mergeNeedsMap
  /-- A key that is a collection, as it is shown in messages. -/
  | collectionKey (shown : String)
  /-- A scalar that does not have the form that its tag asks for. -/
  | tagForm (actual text asked : String)
  | badBase64

/-- The wording of a refusal. -/
def Refusal.message : Refusal → String
  | unknownAnchor name => "unknown anchor '" ++ name ++ "' referenced"
  | selfContaining name => "anchor '" ++ name ++ "' value contains itself"
  | excessiveAliasing => "document contains excessive aliasing"
  | mergeNeedsMap => "map merge requires map or sequence of maps as the value"
  | collectionKey shown => "invalid map key: " ++ shown
  | tagForm actual text asked => "cannot decode " ++ actual ++ " `" ++ text ++ "` as a " ++ asked
  | badBase64 => "!!binary value contains invalid base64 data"

/-- A place of a document that does not fit what it is read into. -/
inductive Mismatch where
  /-- A value of the wrong kind; `shown` is its text if it is a scalar. -/
  | kind (line : Nat) (tag : String) (shown : Option String) (expected : String)
  /-- A key that its mapping has already. -/
  | repeatedKey (line : Nat) (key : String) (first : Nat)
  /-- A field that has been set already. -/
  | repeatedField (line : Nat) (field record : String)

/-- How a scalar is shown: between back quotes, cut after seven bytes if it has more than ten. -/
def shownScalar (text : String) : Bytes :=
  let bytes := utf8 text
  if 10 < bytes.length then utf8 " `" ++ bytes.take 7 ++ utf8 "...`"
  else utf8 " `" ++ bytes ++ utf8 "`"

/-- The wording of a mismatch. The cut of a long scalar may fall inside a character, so it is a byte
sequence. -/
def Mismatch.message : Mismatch → Bytes
  | kind line tag shown expected =>
    utf8 ("line " ++ ofInt line ++ ": cannot unmarshal " ++ tag) ++
      (shown.map shownScalar).getD [] ++ utf8 (" into " ++ expected)
  | repeatedKey line key first =>
    utf8 ("line " ++ ofInt line ++ ": mapping key " ++ quote key ++ " already defined at line " ++
      ofInt first)
  | repeatedField line field record =>
    utf8 ("line " ++ ofInt line ++ ": field " ++ field ++ " already set in type " ++ record)

/-- Why a document cannot be read. -/
inductive Error where
  | malformed (line : Option Nat) (problem : Problem)
  | refused (reason : Refusal)
  | mismatched (items : List Mismatch)

/-- The wording of an error. -/
def Error.message : Error → Bytes
  | malformed none p => utf8 ("yaml: " ++ p.message)
  | malformed (some n) p => utf8 ("yaml: line " ++ ofInt n ++ ": " ++ p.message)
  | refused r => utf8 ("yaml: " ++ r.message)
  | mismatched items =>
    utf8 "yaml: unmarshal errors:" ++ items.flatMap fun m => utf8 "\n  " ++ m.message

end PayloadGen.Yaml
