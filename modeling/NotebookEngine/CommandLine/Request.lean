import NotebookEngine.CommandLine.Switches

/-!
# Requests

What the command line can be asked for: `run` a fragment, `transform` one, or list the `toolchains`.
`Request.ofWords` is the request of the words of a command line. Two switches are understood both
before and after the command; a value after the command has precedence.
-/

namespace NotebookEngine

namespace CommandLine

/-- What is to be done. -/
inductive Action where
  /-- A fragment is run, and its result shown. -/
  | run (source : Text) (tag : Option Text) (cellId : Text) (asJson : Bool)
  /-- A fragment is shown as it would be run. -/
  | transform (source tag : Text)
  /-- The paths of the toolchains are shown. -/
  | toolchains
deriving DecidableEq, Repr

/-- What is to be done, and with what configuration. -/
structure Request where
  action : Action
  configPath : Option Text
  isVerbose : Bool
deriving DecidableEq, Repr

/-! ### The command line -/

/-- The name of the program. -/
def programName : String :=
  "polycell"

/-- The version of the program. -/
def versionNumber : String :=
  "0.1.0"

/-- The switches of every level. -/
def sharedSwitches : List Switch := [
  ⟨"verbose", some 'v', .setting, "Enable verbose logging"⟩,
  ⟨"config", none, .value "CONFIG" false, "JSON configuration file"⟩]

/-- The switch for help. -/
def helpSwitch : Switch :=
  ⟨"help", some 'h', .help, "Print help"⟩

/-- The argument for the source of a fragment. -/
def sourceArgument : String × String :=
  ("SOURCE", "Source file, or \x60-\x60 for stdin")

/-- The level after `run`. -/
def runLevel : Level where
  switches := sharedSwitches ++ [
    ⟨"lang", some 'l', .value "LANG" true, "Language tag (python, rust, javascript, typescript)"⟩,
    ⟨"cell-id", none, .value "CELL_ID" true, "Cell id echoed back in the result [default: cli]"⟩,
    ⟨"json", none, .setting, "Print the result as JSON"⟩,
    helpSwitch]
  arguments := [sourceArgument]
  commands := []

/-- The level after `transform`. -/
def transformLevel : Level where
  switches := sharedSwitches ++ [
    ⟨"lang", some 'l', .value "LANG" true, "Language tag (js or ts)"⟩,
    helpSwitch]
  arguments := [sourceArgument]
  commands := []

/-- The level after `toolchains`. -/
def toolchainsLevel : Level where
  switches := sharedSwitches ++ [helpSwitch]
  arguments := []
  commands := []

/-- The commands, what they do, and their levels. -/
def commands : List (String × String × Level) := [
  ("run", "Execute a fragment and print its result", runLevel),
  ("transform", "Print a JavaScript or TypeScript fragment after return-wrapping", transformLevel),
  ("toolchains", "Show which executable each toolchain resolves to", toolchainsLevel)]

/-- The command that shows the help of the others. -/
def helpCommand : String × String :=
  ("help", "Print this message or the help of the given subcommand(s)")

/-- The level at which a command line begins. -/
def firstLevel : Level where
  switches := sharedSwitches ++ [helpSwitch, ⟨"version", some 'V', .version, "Print version"⟩]
  arguments := []
  commands := commands.map (·.1) ++ [helpCommand.1]

/-! ### Reading -/

/-- Help is asked for about the commands named. -/
def readHelp : List Text → Stop
  | [] => .help none
  | [name] =>
    match firstLevel.commands.find? fun c => c.toList = name with
    | some c => .help (some c)
    | none => .misuse
  | _ => .misuse

/-- What a command asks for, given what was written after it. -/
def Action.ofGiven? (command : String) (g : Given) : Option Action :=
  match command, g.arguments with
  | "run", [source] =>
    some (.run source (g.values.lookup "lang") ((g.values.lookup "cell-id").getD "cli".toList)
      (g.settings.contains "json"))
  | "transform", [source] => (g.values.lookup "lang").map (.transform source)
  | "toolchains", [] => some .toolchains
  | _, _ => none

/-- What is given after a command. -/
def readAfter (command : String) (words : List Text) : Except Stop Given :=
  match commands.lookup command with
  | none => .error (readHelp words)
  | some (_, level) =>
    match level.read {} words with
    | .error (.help _) => .error (.help (some command))
    | .error s => .error s
    | .ok (r, _) => r.settle.map (·.given)

/-- The request of the words of a command line. -/
def Request.ofWords (words : List Text) : Except Stop Request := do
  let (r, rest) ← firstLevel.read {} words
  match rest with
  | none => .error .misuse
  | some (command, rest) =>
    let after ← readAfter command rest
    let before := (← r.settle).given
    match Action.ofGiven? command after with
    | none => .error .misuse
    | some action =>
      .ok {
        action
        configPath := (after.values.lookup "config").or (before.values.lookup "config")
        isVerbose := (before.settings ++ after.settings).contains "verbose" }

end CommandLine

end NotebookEngine
