/-!
# Tokens of a YAML text

A text is cut into tokens before its nodes are read. Besides what is written, tokens mark where a
block collection begins and ends, which only the indentation shows.
-/

namespace PayloadGen.Yaml

/-- How a scalar is written. -/
inductive ScalarStyle where
  | plain
  | singleQuoted
  | doubleQuoted
  | literal
  | folded
  deriving DecidableEq

namespace Token

/-- The kinds of tokens. -/
inductive Kind where
  | streamEnd
  | version (major minor : Nat)
  | tagHandle (handle lead : String)
  | documentStart
  | documentEnd
  | blockSequenceStart
  | blockMappingStart
  | blockEnd
  | flowSequenceStart
  | flowSequenceEnd
  | flowMappingStart
  | flowMappingEnd
  | blockEntry
  | flowEntry
  | key
  | value
  | aliasOf (name : String)
  | anchor (name : String)
  | tag (handle suffix : String)
  | scalar (text : String) (style : ScalarStyle)

end Token

/-- A token and the place where it begins, counted from zero. -/
structure Token where
  kind : Token.Kind
  line : Nat
  column : Nat

end PayloadGen.Yaml
