import NotebookEngine.CommandLine.Request

/-!
# Help

The help of the program and of its commands, put together from their levels.
-/

namespace NotebookEngine

namespace CommandLine

/-- Rows of two columns, the second one aligned. -/
def columns (rows : List (String × String)) : List String :=
  let width := (rows.map fun r => r.1.length).foldl max 0
  rows.map fun r => "  " ++ r.1.pushn ' ' (width - r.1.length) ++ "  " ++ r.2

/-- How a switch is written. -/
def Switch.usage (s : Switch) : String :=
  let letter := match s.letter with
    | some c => "-" ++ c.toString ++ ", "
    | none => "    "
  let value := match s.purpose with
    | .value placeholder _ => " <" ++ placeholder ++ ">"
    | _ => ""
  letter ++ "--" ++ s.name ++ value

/-- A part of a help, unless it has no rows. -/
def part (title : String) (rows : List (String × String)) : List String :=
  if rows.isEmpty then [] else ["", title ++ ":"] ++ columns rows

/-- The help of a level. -/
def Level.help (l : Level) (about usage : String) (commands : List (String × String)) : Text :=
  let lines := [about, "", "Usage: " ++ usage]
    ++ part "Commands" commands
    ++ part "Arguments" (l.arguments.map fun a => ("<" ++ a.1 ++ ">", a.2))
    ++ part "Options" (l.switches.map fun s => (s.usage, s.about))
  (lines.flatMap fun line => line.toList ++ ['\n'])

/-- The help of the program. -/
def programHelp : Text :=
  firstLevel.help "Execute polyglot notebook fragments out of process"
    (programName ++ " [OPTIONS] <COMMAND>") (commands.map (fun c => (c.1, c.2.1)) ++ [helpCommand])

/-- The help of a command, or of the program. -/
def helpText (command : Option String) : Text :=
  match command.bind fun c => (commands.lookup c).map (c, ·) with
  | none => programHelp
  | some (name, about, level) =>
    let arguments := level.arguments.map fun a => " <" ++ a.1 ++ ">"
    level.help about (programName ++ " " ++ name ++ " [OPTIONS]" ++ String.join arguments) []

end CommandLine

end NotebookEngine
