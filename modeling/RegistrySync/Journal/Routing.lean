/-
Where records go: to the console, to a file, or nowhere.

* `QuietLevels` — the levels of the parts of the program that talk too much;
* `Logging` — the sinks in force, and the levels below which records are dropped;
* `Logging.emit` — what a record leaves on the console and in files;
* `Logging.emit_of_refused` — a record below the threshold leaves nothing.
-/
import RegistrySync.Files.Tree
import RegistrySync.Journal.Record

namespace RegistrySync.Journal

/-- Where lines are written. -/
inductive Sink where
  | console
  | file (place : List String)
  deriving DecidableEq, Repr

/-- A sink and the least level of the records it takes. -/
structure Handler where
  level : Level
  sink : Sink
  deriving DecidableEq, Repr

/-- Whether a handler takes a record. -/
def Handler.takes (handler : Handler) (record : Record) : Bool :=
  handler.level.number ≤ record.level.number

/-- The parts that talk too much. -/
def quietSources : List String := ["docker", "urllib3", "redis"]

/-- Whether a source is this part or belongs to it. -/
def isPartOf (part source : String) : Bool :=
  source == part || (part ++ ".").toList.isPrefixOf source.toList

/-- The levels of their own that the parts have which talk too much. -/
structure QuietLevels where
  docker : Level := .notset
  urllib3 : Level := .notset
  redis : Level := .notset
  deriving DecidableEq, Repr

namespace QuietLevels

/-- Each part is held to warnings. -/
def warnings : QuietLevels := ⟨.warning, .warning, .warning⟩

/-- The parts, each with its level. -/
def parts (levels : QuietLevels) : List (String × Level) :=
  [("docker", levels.docker), ("urllib3", levels.urllib3), ("redis", levels.redis)]

/-- The level that a source has of the part that it belongs to, if that has one. -/
def inherited? (levels : QuietLevels) (source : String) : Option Level :=
  (levels.parts.find? fun part => isPartOf part.1 source && part.2 != .notset).map Prod.snd

theorem inherited?_warnings (source : String) :
    warnings.inherited? source =
      if quietSources.any (isPartOf · source) then some .warning else none := by
  have hset : (Level.warning != .notset) = true := by decide
  simp only [inherited?, parts, warnings, quietSources, hset, Bool.and_true, List.find?_cons,
    List.find?_nil, List.any_cons, List.any_nil, Bool.or_false]
  cases isPartOf "docker" source <;> cases isPartOf "urllib3" source <;>
    cases isPartOf "redis" source <;> rfl

end QuietLevels

/-- The sinks in force, and the levels below which records are dropped. No other parts of the
program than those that talk too much are given levels of their own. -/
structure Logging where
  handlers : List Handler := []
  level : Level := .warning
  quiet : QuietLevels := {}
  deriving DecidableEq, Repr

/-- The moment of a record as it is written: date and time, and the milliseconds. -/
structure Stamp where
  time : String
  millis : String
  deriving DecidableEq, Repr

/-- The console and the files. -/
structure Screen where
  console : String := ""
  files : Files.Tree := {}
  deriving DecidableEq, Repr

/-- The line of a record on the console. -/
def consoleLine (stamp : Stamp) (record : Record) : String :=
  stamp.time ++ " [" ++ record.source ++ "] " ++ record.level.name ++ ": " ++ record.text ++ "\n"

/-- The line of a record in a file. -/
def fileLine (stamp : Stamp) (record : Record) : String :=
  stamp.time ++ "," ++ stamp.millis ++ " " ++ record.level.name ++ " " ++ record.source ++ ": " ++
    record.text ++ "\n"

namespace Logging

/-- The level below which the records of a source are dropped. -/
def threshold (logging : Logging) (source : String) : Level :=
  (logging.quiet.inherited? source).getD logging.level

/-- Whether a record is not dropped. One without a level always is. -/
def accepts (logging : Logging) (record : Record) : Bool :=
  Level.notset.number < record.level.number &&
    (logging.threshold record.source).number ≤ record.level.number

/-- Write a record to a sink. -/
def write (stamp : Stamp) (record : Record) (screen : Screen) : Sink → Screen
  | .console => { screen with console := screen.console ++ consoleLine stamp record }
  | .file place => { screen with files := screen.files.append place (fileLine stamp record) }

/-- What a record leaves while no handler is in force: warnings and worse are told. -/
def lastResort (record : Record) (screen : Screen) : Screen :=
  if Level.warning.number ≤ record.level.number then
    { screen with console := screen.console ++ record.text ++ "\n" }
  else screen

/-- What a record leaves on the console and in files. -/
def emit (logging : Logging) (stamp : Stamp) (record : Record) (screen : Screen) : Screen :=
  if !logging.accepts record then screen
  else if logging.handlers.isEmpty then lastResort record screen
  else
    (logging.handlers.filter (·.takes record)).foldl
      (fun screen handler => write stamp record screen handler.sink) screen

/-- What records leave, one after another. -/
def emitAll (logging : Logging) (stamp : Stamp) (records : List Record) (screen : Screen) :
    Screen :=
  records.foldl (fun screen record => logging.emit stamp record screen) screen

/-- A record below the threshold leaves nothing. -/
theorem emit_of_refused {logging : Logging} {record : Record} (stamp : Stamp) (screen : Screen)
    (h : logging.accepts record = false) : logging.emit stamp record screen = screen := by
  simp [emit, h]

end Logging

end RegistrySync.Journal
