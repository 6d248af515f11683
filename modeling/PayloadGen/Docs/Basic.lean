import PayloadGen.Dict
import PayloadGen.Docs.Words
import PayloadGen.Files.Basic
import PayloadGen.Log.Basic
import PayloadGen.Text.Quoted

/-!
# Making documentation

The documentation is made by another program. `DocsJob.arguments` is its command line, and
`DocsJob.run` starts it on a system of which only the programs that can be found are known.
-/

namespace PayloadGen

open Text

/-- What documentation to make. -/
structure DocsJob where
  /-- The command line of the program. -/
  command : String
  spec : String
  template : String
  output : String
  version : String
  params : Dict String

/-- Why a program is not found. -/
inductive LookupFault where
  | noProgram
  | notInPath (name : String)
  | unreadable (name : String) (cause : FileError)

/-- The wording of a fault. -/
def LookupFault.message : LookupFault → String
  | noProgram => "no such program"
  | notInPath name => "exec: " ++ quote name ++ ": executable file not found in $PATH"
  | unreadable name cause => "exec: " ++ quote name ++ ": " ++ cause.message

/-- Why documentation cannot be made. -/
inductive DocsError where
  | badCommand (command : String) (cause : Words.Fault)
  | emptyCommand
  | notFound (program : String) (cause : LookupFault)
  | exitStatus (n : Nat)
  | notStarted (cause : LookupFault)
  | startFailed (cause : FileError)

/-- The wording of an error. -/
def DocsError.message : DocsError → String
  | badCommand command cause => "parsing docs command " ++ quote command ++ ": " ++ cause.message
  | emptyCommand => "docs command is empty"
  | notFound program cause => "docs generator " ++ quote program ++ " not found: " ++ cause.message
  | exitStatus n => "docs generator failed: exit status " ++ ofInt n
  | notStarted cause => "docs generator failed: " ++ cause.message
  | startFailed cause => "docs generator failed: " ++ cause.message

/-! ## Programs -/

/-- The programs that the system has. -/
inductive Program where
  | succeed
  | fail
  | echo

namespace Program

/-- The program at a path. -/
def ofPath? : String → Option Program
  | "/bin/true" => some succeed
  | "/bin/false" => some fail
  | "/bin/echo" => some echo
  | _ => none

/-- The value of up to so many digits of a base at the front of a text, and what follows them. -/
def leadingDigits (base : Nat) : (width : Nat) → Nat → List Char → Nat × List Char
  | width + 1, n, c :: r =>
    match hexValue? c with
    | some d => if d < base then leadingDigits base width (base * n + d) r else (n, c :: r)
    | none => (n, c :: r)
  | _, n, r => (n, r)

/-- A text with its escapes replaced; `\c` ends all output. -/
def unescape : (fuel : Nat) → List Char → Bytes × Bool
  | 0, _ => ([], false)
  | _, [] => ([], false)
  | fuel + 1, '\\' :: c :: r =>
    let one (n : Nat) : Bytes × Bool :=
      let (s, ended) := unescape fuel r
      (UInt8.ofNat n :: s, ended)
    let code (base width : Nat) (s : List Char) : Bytes × Bool :=
      let (n, rest) := leadingDigits base width 0 s
      let (t, ended) := unescape fuel rest
      (UInt8.ofNat n :: t, ended)
    match c with
    | 'a' => one 7
    | 'b' => one 8
    | 'c' => ([], true)
    | 'e' => one 27
    | 'f' => one 12
    | 'n' => one 10
    | 'r' => one 13
    | 't' => one 9
    | 'v' => one 11
    | '\\' => one 92
    | '0' => code 8 3 r
    | 'x' =>
      if (r.head?.bind hexValue?).isSome then code 16 2 r
      else
        let (s, ended) := unescape fuel r
        (utf8 "\\x" ++ s, ended)
    | c =>
      if '1' ≤ c && c ≤ '7' then code 8 3 (c :: r)
      else
        let (s, ended) := unescape fuel r
        (utf8 (String.ofList ['\\', c]) ++ s, ended)
  | fuel + 1, c :: r =>
    let (s, ended) := unescape fuel r
    (utf8 (String.singleton c) ++ s, ended)

/-- Words with blanks between them, as `echo` writes them; the flags at the front say how. -/
def echoWords (newline escapes : Bool) : List String → Bytes
  | w :: r =>
    let body := w.toList.drop 1
    if w.toList.head? == some '-' && !body.isEmpty &&
        body.all (fun c => c == 'n' || c == 'e' || c == 'E') then
      echoWords (newline && !body.contains 'n')
        ((body.filter fun c => c == 'e' || c == 'E').getLast?.elim escapes (· == 'e')) r
    else
      let text := " ".intercalate (w :: r)
      if escapes then
        let (s, ended) := unescape (text.length + 1) text.toList
        if ended || !newline then s else s ++ [0x0A]
      else utf8 text ++ (if newline then [0x0A] else [])
  | [] => if newline then [0x0A] else []

/-- What a program writes. -/
def output (p : Program) (args : List String) : Bytes :=
  match p with
  | echo => echoWords true false args
  | _ => []

/-- The exit status of a program. -/
def status : Program → Nat
  | fail => 1
  | _ => 0

end Program

/-- How programs are found. -/
structure ProgramFinder where
  find : String → Except LookupFault String

namespace ProgramFinder

/-- Only the programs of a list are found. -/
def ofDict (programs : Pairs String) : ProgramFinder where
  find name := match programs.find? name with
    | some path => .ok path
    | none => .error .noProgram

/-- A name that is a path is that path; no other program is found. -/
def ofSystem : ProgramFinder where
  find name :=
    if !name.toList.contains '/' then .error (.notInPath name)
    else if (Program.ofPath? name).isSome then .ok name
    else .error (.unreadable name ⟨"stat", name, .noEntry⟩)

end ProgramFinder

namespace DocsJob

/-- The command line of the program that makes the documentation. -/
def arguments (j : DocsJob) : Except DocsError (List String) := do
  let words ← (Words.split j.command).mapError (.badCommand j.command ·)
  if words.isEmpty then throw .emptyCommand
  return words ++ [j.spec, j.template, "--output", j.output, "--force-write"] ++
    (if j.version = "" then [] else ["--param", "version=" ++ j.version]) ++
    j.params.entries.flatMap fun (k, v) => ["--param", k ++ "=" ++ v]

/-- A program is started with arguments: what it writes, and how it ends. -/
def start (path : String) (args : List String) : Bytes × Except DocsError Unit :=
  match Program.ofPath? path with
  | some p => (p.output args, if p.status = 0 then .ok () else .error (.exitStatus p.status))
  | none =>
    if path.toList.contains '/' then ([], .error (.startFailed ⟨"fork/exec", path, .noEntry⟩))
    else ([], .error (.notStarted (.notInPath path)))

/-- The documentation is made: what is logged and written, and how it ends. The command line is
written first. -/
def run (j : DocsJob) (finder : ProgramFinder) : List Log.Entry × Bytes × Except DocsError Unit :=
  match j.arguments with
  | .error e => ([], [], .error e)
  | .ok [] => ([], [], .error .emptyCommand)
  | .ok (name :: args) =>
    match finder.find name with
    | .error e => ([], [], .error (.notFound name e))
    | .ok path =>
      let entry : Log.Entry :=
        ⟨.info, "building docs", [("output", .text j.output), ("template", .text j.template)]⟩
      let (out, result) := start path args
      ([entry], utf8 (Words.join (path :: args) ++ "\n") ++ out, result)

end DocsJob

end PayloadGen
