/-!
# TOML documents

A document is a list of lines that say something: entries, and the headers of tables. Of values only
texts are kept whole; the library never needs the others.
-/

namespace PayloadGen.Toml

/-- A value. -/
inductive Value where
  | text (s : String)
  /-- A number, a truth value or a point in time. -/
  | other
  | list (items : List Value)
  | table (entries : List (List String × Value))

/-- A line of a document. -/
inductive Statement where
  | entry (key : List String) (value : Value)
  | header (key : List String)
  /-- The header of one more table of a list of tables. -/
  | listHeader (key : List String)

end PayloadGen.Toml
