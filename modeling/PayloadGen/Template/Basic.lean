import PayloadGen.Files.Basic
import PayloadGen.Files.Pattern
import PayloadGen.Template.Render

/-!
# Rendering a folder of templates

Every file whose name ends in `.tmpl` is a template, and its output has the name without that
ending. `renderAll` renders them in the order of their names; the first fault ends it.
-/

namespace PayloadGen.Template

open Text

/-- Why the templates of a folder cannot be rendered. -/
inductive FolderFault where
  /-- The name of the file is a malformed pattern. -/
  | badPattern (name : String)
  /-- The file cannot be read. -/
  | unreadable (name : String) (cause : FileError)
  | reading (name : String) (cause : Fault)
  | rendering (name : String) (cause : Fault)

/-- The wording of a fault. -/
def FolderFault.message : FolderFault → String
  | badPattern name => "parsing " ++ name ++ ": syntax error in pattern"
  | unreadable name cause => "parsing " ++ name ++ ": " ++ cause.message
  | reading name cause => "parsing " ++ name ++ ": template: " ++ name ++ ": " ++ cause.message
  | rendering name cause => "rendering " ++ name ++ ": template: " ++ name ++ ": " ++ cause.message

/-- A rendered template. -/
structure Rendered where
  name : String
  content : Bytes

/-- The ending of the names of templates. -/
def ending : String := ".tmpl"

/-- The files that a template is read from: those that its name matches as a pattern. -/
def partsOf (files : FileSource) (name : String) : Except FolderFault (List String) :=
  if !Pattern.isPattern name then .ok [name]
  else match Pattern.read? name with
    | none => .error (.badPattern name)
    | some p => .ok (files.names.filter fun n => p.isMatch n.toList)

/-- A file is read into a set of templates. -/
def readInto (files : FileSource) (name : String) (ts : Templates) (file : String) :
    Except FolderFault Templates := do
  let text ← (files.read file).mapError (.unreadable name ·)
  (ts.read file text).mapError (.reading name ·)

/-- The output of the template of a file. -/
def renderFile (files : FileSource) (data : Value)
    (name : String) : Except FolderFault Rendered := do
  let parts ← partsOf files name
  if parts.isEmpty then throw (.reading name (.undefinedTemplate name))
  let ts ← parts.foldlM (readInto files name) []
  let content ← (ts.render name data).mapError (.rendering name ·)
  return ⟨String.ofList (name.toList.take (name.length - ending.length)), content⟩

/-- The outputs of all templates of a folder, in the order of their names. -/
def renderAll (files : FileSource) (unit : CompiledUnit) : Except FolderFault (List Rendered) :=
  (files.names.filter (endsWith · ending)).mapM (renderFile files (.ofUnit unit))

end PayloadGen.Template
