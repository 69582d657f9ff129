/-
The program as it is called: options for all commands, then a command with its own.

* `consoleLevel` — which level `--verbose` and `--quiet` give;
* `commandAdvice` — which command may have been meant;
* `program` — the whole command line;
* `execute` — how it ends, and what it leaves.

Design notes: the options in front of a command are taken apart before any of them acts. Three
of them act before the others, in the order in which they are given: loading an environment
file, showing the version and showing help. The others may get their values from variables
of that file.
-/
import RegistrySync.CommandLine.Check
import RegistrySync.CommandLine.Run
import RegistrySync.Text.Likeness

namespace RegistrySync.CommandLine

variable {ω : Type}

/-- The version of the program. -/
def version : String := "0.3.0"

/-- The level of the console: most for `--verbose`, little for `--quiet`, and as chosen for
neither or both. -/
def consoleLevel (level : String) (verbose quiet : Bool) : String :=
  if verbose && quiet then level
  else if verbose then "DEBUG"
  else if quiet then "WARNING"
  else level

/-- The options in front of a command. -/
def commonOptions : List OptionSpec :=
  [{ name := "--env-file", takesValue := true },
   { name := "--log-level", takesValue := true },
   { name := "--log-file", takesValue := true },
   { name := "--verbose", letter := some 'v' },
   { name := "--quiet", letter := some 'q' },
   { name := "--version" },
   { name := "--help" }]

/-- The value of an option, or of the variable that stands for it if that is not empty. -/
def optionOrVariable (parsed : Parsed) (env : Environment) (option variableName : String) :
    Option String :=
  parsed.last? option <|> (env.value? variableName).filter (!·.isEmpty)

/-- The names of the commands. -/
def commandNames : List String := ["run", "check"]

/-- A question about the first of the words where a command should stand: whether one with a
name like it was meant. -/
def commandAdvice : List String → String
  | [] => ""
  | word :: _ =>
    let names := Text.likeWords commandNames word
    if names.isEmpty then ""
    else " Did you mean " ++ ", ".intercalate (names.map Text.quoted) ++ "?"

/-- Take a command line apart; tell of an option whose value is missing or unexpected, with the
advice that the words behind it call for. -/
def parseOrExit (specs : List OptionSpec) (mixed : Bool) (words : List String)
    (advice : List String → String := fun _ => "") : Command ω Parsed := do
  match parseWords specs mixed words with
  | .ok parsed => return parsed
  | .error ⟨.unknownOption, _⟩ => Command.misuse
  | .error ⟨fault, behind⟩ =>
    Command.tell (framed (fault.message ++ advice behind))
    Command.stop 2

/-- The options that act before the others, in the order in which they act: as they were
first given, and the environment file last if it was not given. -/
def earlyOptions (parsed : Parsed) : List String :=
  Text.distinct (parsed.given.map (·.name) ++ ["--env-file"])

/-- Let an option act that acts before the others. -/
def actEarly (parsed : Parsed) (option : String) : Command ω Unit := do
  if option = "--version" then
    Command.say (programName ++ " " ++ version ++ "\n")
    Command.stop 0
  else if option = "--help" then Command.help
  else if option = "--env-file" then
    Command.loadEnvFile
      (optionOrVariable parsed (← get).env "--env-file" "BEACHHEAD_ENV_FILE")

/-- The options in front of a command; without any word there is only misuse. -/
def common (words : List String) (advice : List String → String := fun _ => "") :
    Command ω Parsed := do
  if words.isEmpty then Command.misuse
  let parsed ← parseOrExit commonOptions false words advice
  (earlyOptions parsed).forM (actEarly parsed)
  return parsed

/-- What was said about logging. -/
def logChoices (parsed : Parsed) (env : Environment) : LogChoices where
  level := (optionOrVariable parsed env "--log-level" "BEACHHEAD_LOG_LEVEL").getD "INFO"
  file := optionOrVariable parsed env "--log-file" "BEACHHEAD_LOG_FILE"
  verbose := parsed.has "--verbose"
  quiet := parsed.has "--quiet"

/-- Set up logging as it was asked for. -/
def setUpLogging (choices : LogChoices) : Command ω Unit :=
  Command.configureLogging (consoleLevel choices.level choices.verbose choices.quiet) choices.file

/-- Whether a word starts like a name: with a letter or a digit, or with a character beyond
ASCII. Nothing at all can be a name too. -/
def startsLikeName (word : String) : Bool :=
  match word.toList with
  | [] => true
  | c :: _ => c.isAlphanum || 0x80 ≤ c.toNat

/-- The whole command line. Where a word is no command and does not start like the name of one,
it and those behind it are read once more for options that act early. -/
def program (collaborators : Collaborators ω) (words : List String) : Command ω Unit := do
  let parsed ← common words
  let choices := logChoices parsed (← get).env
  match parsed.words with
  | "check" :: rest =>
    setUpLogging choices
    check (← parseOrExit checkOptions true rest)
  | "run" :: rest =>
    setUpLogging choices
    run collaborators choices words (← parseOrExit runOptions true rest)
  | first :: rest =>
    if !startsLikeName first then
      let _ ← common (first :: rest) commandAdvice
    Command.misuse
  | [] => Command.misuse

/-- How a command line ends, and what it leaves. -/
def execute (collaborators : Collaborators ω) (words : List String) (session : Session ω) :
    Exit × Session ω :=
  let (result, after) := (program collaborators words).run session
  (.ofResult result, after)

end RegistrySync.CommandLine
