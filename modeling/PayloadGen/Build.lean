/-!
# The build

Which build of the program this is.
-/

namespace PayloadGen

/-- The facts about a build. -/
structure Build where
  version : String
  commit : String
  date : String
  /-- The version of the tools that made it. -/
  toolchain : String

namespace Build

/-- The version alone. -/
def short (b : Build) : String :=
  b.version

/-- The line that presents a build. -/
def info (b : Build) : String :=
  "asyncgen version " ++ b.version ++ " (commit: " ++ b.commit ++ ", built: " ++ b.date ++
    ", go: " ++ b.toolchain ++ ")"

end Build

end PayloadGen
