import PayloadGen.Command.Basic
import PayloadGen.Config.Basic
import PayloadGen.Format.Basic

/-!
# The commands of the program

The tree of commands with their texts and flags.
-/

namespace PayloadGen.Program

open Command

/-- The name of the program. -/
def programName : String := "asyncgen"

/-- The names of the formats, separated by commas. -/
def formatNames : String :=
  ", ".intercalate (Format.all.map Format.name)

/-- A flag for a text. -/
def textFlag (name : String) (short : Option Char) (standard usage : String) : Flag :=
  ⟨name, short, .text, standard, usage⟩

/-- A flag that is on or off. -/
def switchFlag (name : String) (short : Option Char) (usage : String) : Flag :=
  ⟨name, short, .switch, "false", usage⟩

/-- The flags that hold for all commands. -/
def commonFlags : List Flag :=
  [⟨"verbose", some 'v', .count, "0", "Increase log verbosity (-v info, -vv debug)"⟩,
    switchFlag "log-json" none "Emit logs as JSON"]

/-- A command that does something by itself. -/
def worker (name short long examples : String) (flags : List Flag) : Tree :=
  .mk ⟨name, name, short, long, examples, flags, true, true, false⟩ []

/-- Starts a new project. -/
def initCommand : Tree :=
  worker "init" "Initialize a new asyncgen project"
    ("Initialize a new asyncgen project with an asyncgen.yaml configuration file\n" ++
      "pointing at an existing AsyncAPI document.")
    ("  # Interactive mode\n" ++
      "  asyncgen init\n\n" ++
      "  # Non-interactive\n" ++
      "  asyncgen init --spec mqtt/asyncapi.yml --output mqtt/payloads.py --non-interactive")
    [textFlag "spec" (some 's') Config.standard.spec "Path to the AsyncAPI document",
      textFlag "output" (some 'o') Config.standard.output "Output file",
      textFlag "format" (some 'f') Config.standard.format "Output format",
      textFlag "package" (some 'p') "" "Package or namespace for gotypes, protobuf and avro",
      textFlag "templates" (some 't') "" "Directory of *.tmpl files rendered next to the output",
      switchFlag "non-interactive" none "Run without prompts"]

/-- Generates the files of a project. -/
def generateCommand : Tree :=
  worker "generate" "Generate payload classes from the AsyncAPI document"
    ("Generate payload classes, the topic mapping and handler signatures\n" ++
      "from the AsyncAPI document configured in asyncgen.yaml.\n\n" ++
      "Templates (*.tmpl) in the configured templates directory are rendered\n" ++
      "next to the output file.\n\n" ++
      "Available formats: " ++ formatNames)
    ("  # Generate using asyncgen.yaml settings\n" ++
      "  asyncgen generate\n\n" ++
      "  # Generate Go structs into a package\n" ++
      "  asyncgen generate --format gotypes --output payloads/payloads.go --package payloads\n\n" ++
      "  # Regenerate whenever the document or templates change\n" ++
      "  asyncgen generate --watch")
    [textFlag "format" (some 'f') "" ("Output format (" ++ formatNames ++ "), overrides config"),
      textFlag "output" (some 'o') "" "Output file, overrides config",
      textFlag "package" (some 'p') "" "Package or namespace for gotypes, protobuf and avro",
      ⟨"workers", some 'w', .number, "0", "Compile messages concurrently with this many workers"⟩,
      switchFlag "watch" none "Regenerate when the document or templates change",
      switchFlag "interactive" (some 'i') "Prompt for format and output"]

/-- Lists the topics. -/
def topicsCommand : Tree :=
  worker "topics" "List topics and their payload classes"
    ("List every channel of the AsyncAPI document with the payload class\n" ++
      "bound to it and the handler signature generated for that class.")
    ("  # List topics\n" ++
      "  asyncgen topics\n\n" ++
      "  # As JSON, topic to class\n" ++
      "  asyncgen topics --json")
    [switchFlag "json" none "Print the topic to class mapping as JSON"]

/-- Shows what would be generated. -/
def showCommand : Tree :=
  worker "show" "Preview the generated classes in the terminal"
    ("Compile the AsyncAPI document and render the classes, topics and\n" ++
      "handler signatures as a markdown summary.")
    ("  # Styled preview\n" ++
      "  asyncgen show\n\n" ++
      "  # Plain markdown\n" ++
      "  asyncgen show --raw > PAYLOADS.md")
    [⟨"width", none, .number, "80", "Word wrap width"⟩,
      switchFlag "raw" none "Print markdown without styling"]

/-- Makes the documentation. -/
def docsCommand : Tree :=
  worker "docs" "Build HTML documentation for the AsyncAPI document"
    ("Run the AsyncAPI HTML generator on the configured document.\n\n" ++
      "The version parameter comes from --version, then pyproject.toml\n" ++
      "(tool.poetry.version or project.version), then the document's info.version.")
    ("  # Build docs into the configured directory\n" ++
      "  asyncgen docs\n\n" ++
      "  # Override version and output\n" ++
      "  asyncgen docs --version 1.4.0 --output site")
    [textFlag "version" none "" "Version passed to the template, overrides pyproject.toml",
      textFlag "output" (some 'o') "" "Output directory, overrides config"]

/-- Shows the version of the program. -/
def versionCommand : Tree :=
  worker "version" "Print the asyncgen version" "" ""
    [switchFlag "short" none "Print only the version number"]

/-- Shows help. -/
def helpCommand : Tree :=
  .mk ⟨"help", "help [command]", "Help about any command",
    "Help provides help for any command in the application.\n" ++
      "Simply type asyncgen help [path to command] for full details.", "", [], true, true, true⟩ []

/-- A script for the completion of command lines. -/
def completionScript (shell long : String) (mentionsFlags : Bool) : Tree :=
  .mk ⟨shell, shell, "Generate the autocompletion script for " ++ shell, long, "",
    [switchFlag "no-descriptions" none "disable completion descriptions"], true,
    mentionsFlags, false⟩ []

/-- Scripts for the completion of command lines. -/
def completionCommand : Tree :=
  .mk ⟨"completion", "completion", "Generate the autocompletion script for the specified shell",
    "Generate the autocompletion script for asyncgen for the specified shell.\n" ++
      "See each sub-command's help for details on how to use the generated script.\n", "", [],
      false, true, false⟩
    [completionScript "bash"
      ("Generate the autocompletion script for the bash shell.\n\n" ++
        "This script depends on the 'bash-completion' package.\n" ++
        "If it is not installed already, you can install it via your OS's package manager.\n\n" ++
        "To load completions in your current shell session:\n\n" ++
        "\tsource <(asyncgen completion bash)\n\n" ++
        "To load completions for every new session, execute once:\n\n" ++
        "#### Linux:\n\n" ++
        "\tasyncgen completion bash > /etc/bash_completion.d/asyncgen\n\n" ++
        "#### macOS:\n\n" ++
        "\tasyncgen completion bash > $(brew --prefix)/etc/bash_completion.d/asyncgen\n\n" ++
        "You will need to start a new shell for this setup to take effect.\n") false,
    completionScript "zsh"
      ("Generate the autocompletion script for the zsh shell.\n\n" ++
        "If shell completion is not already enabled in your environment you will need\n" ++
        "to enable it.  You can execute the following once:\n\n" ++
        "\techo \"autoload -U compinit; compinit\" >> ~/.zshrc\n\n" ++
        "To load completions in your current shell session:\n\n" ++
        "\tsource <(asyncgen completion zsh)\n\n" ++
        "To load completions for every new session, execute once:\n\n" ++
        "#### Linux:\n\n" ++
        "\tasyncgen completion zsh > \"$\x7bfpath[1]\x7d/_asyncgen\"\n\n" ++
        "#### macOS:\n\n" ++
        "\tasyncgen completion zsh > $(brew --prefix)/share/zsh/site-functions/_asyncgen\n\n" ++
        "You will need to start a new shell for this setup to take effect.\n") true,
    completionScript "fish"
      ("Generate the autocompletion script for the fish shell.\n\n" ++
        "To load completions in your current shell session:\n\n" ++
        "\tasyncgen completion fish | source\n\n" ++
        "To load completions for every new session, execute once:\n\n" ++
        "\tasyncgen completion fish > ~/.config/fish/completions/asyncgen.fish\n\n" ++
        "You will need to start a new shell for this setup to take effect.\n") true,
    completionScript "powershell"
      ("Generate the autocompletion script for powershell.\n\n" ++
        "To load completions in your current shell session:\n\n" ++
        "\tasyncgen completion powershell | Out-String | Invoke-Expression\n\n" ++
        "To load completions for every new session, add the output of the above command\n" ++
        "to your powershell profile.\n") true]

/-- The command at the top with some commands below it. -/
def topWith (children : List Tree) : Tree :=
  .mk ⟨programName, programName, "Generate payload classes from an AsyncAPI document",
    "asyncgen compiles the message payload schemas of an AsyncAPI document\n" ++
      "into typed classes, a topic to class mapping and handler signatures.", "", commonFlags,
      false, true, false⟩
    children

/-- The commands that do the work of the program. -/
def workers : List Tree :=
  [initCommand, generateCommand, topicsCommand, showCommand, docsCommand, versionCommand]

/-- The commands of the program. -/
def tree : Tree :=
  topWith (workers ++ [helpCommand, completionCommand])

/-- The commands that the manual describes. -/
def manualTree : Tree :=
  topWith (workers ++ [helpCommand])

end PayloadGen.Program
