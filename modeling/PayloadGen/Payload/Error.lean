import PayloadGen.Text.Quoted

/-!
# Why a specification does not compile

Every reason but a cancelled run is a fault of the schema, and `CompileError.hints` says so.
-/

namespace PayloadGen

/-- A reason why a specification does not compile. -/
inductive CompileError where
  /-- A property of a type that payloads do not support. -/
  | unsupportedType (parent property tag : String)
  /-- A property without a schema. -/
  | missingSchema (parent property : String)
  /-- A class whose schema is not an object; `found` names what it is. -/
  | notAnObject (className found : String)
  /-- A class whose schema admits further properties. -/
  | openObject (className : String)
  /-- An array that must have a negative number of items. -/
  | negativeCount (parent property : String) (count : Int)
  /-- A channel that is neither published nor subscribed. -/
  | missingDirection (topic : String)
  /-- A channel whose operation names no message. -/
  | missingMessageRef (topic : String)
  /-- Two classes of one name. -/
  | nameCollision (className : String)
  /-- A topic bound to a message that the specification does not hold. -/
  | unknownMessage (topic message : String)
  /-- A fault in the payload of a message. -/
  | inMessage (message : String) (cause : CompileError)
  /-- The run was cancelled before it began. -/
  | canceled

namespace CompileError

open Text

/-- The text of a reason: where it lies, and what is wrong. -/
def message : CompileError → String
  | unsupportedType parent property tag =>
    parent ++ "." ++ property ++ ": type " ++ quote tag ++ ": unsupported schema type"
  | missingSchema parent property => parent ++ "." ++ property ++ ": <nil>: unsupported schema type"
  | notAnObject c found =>
    "class " ++ c ++ ": schema is " ++ found ++ ", want an object: invalid schema shape"
  | openObject c => "class " ++ c ++ ": additionalProperties must be false: invalid schema shape"
  | negativeCount parent property n =>
    parent ++ "." ++ property ++ ": negative item count " ++ ofInt n ++ ": invalid schema shape"
  | missingDirection topic => "channel " ++ quote topic ++ ": publish or subscribe not found"
  | missingMessageRef topic => "channel " ++ quote topic ++ ": message reference not found"
  | nameCollision c => "class " ++ c ++ " is derived more than once: class name collision"
  | unknownMessage topic m =>
    "channel " ++ quote topic ++ " references message " ++ quote m ++ ": unknown message"
  | inMessage m cause => "message " ++ quote m ++ ": " ++ cause.message
  | canceled => "context canceled"

/-- What the user can do about it. -/
def hints : CompileError → List String
  | inMessage _ cause => cause.hints
  | canceled => []
  | _ => ["fix the input schema"]

end CompileError

end PayloadGen
