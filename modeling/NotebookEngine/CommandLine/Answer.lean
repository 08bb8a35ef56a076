import NotebookEngine.CommandLine.Complaint
import NotebookEngine.CommandLine.Help
import NotebookEngine.Engine
import NotebookEngine.Result.Wire
import NotebookEngine.Script.Program

/-!
# Answers of the command line

What the command line answers on a machine (`answer`): the code with which it ends and what it
writes. A request that cannot be met is refused before anything is started or written. A fragment is
run by an engine of its own, which is shut down before the result is shown. If the engine waits for its
session for ever, there is no answer.
-/

namespace NotebookEngine

namespace CommandLine

open Host (Octets Site Machine)

/-- What the command line comes to. -/
structure Answer where
  code : Nat
  output : Text
  errors : Text
deriving DecidableEq, Repr

/-- Where a request is made, and what can be read from the standard input. -/
structure Setting where
  site : Site
  input : Octets

/-! ### Reading -/

/-- The directory for temporary files where nothing else is set. -/
def temporaryDirectory (site : Site) : Text :=
  match site.environment.lookup "TMPDIR".toList with
  | some path => Octets.toText path
  | none => "/tmp".toList

/-- The configuration of a request. -/
def configuration (site : Site) (m : Machine) : Option Text → Except Complaint Config
  | none => .ok { tempDir := temporaryDirectory site }
  | some path =>
    match Plan.textAt m site path with
    | .error f => .error (.configuration path (.io f))
    | .ok text =>
      match Config.ofText (temporaryDirectory site) text with
      | .error f => .error (.configuration path (.json f))
      | .ok config => .ok config

/-- The text of a source; a dash stands for the standard input. -/
def sourceText (s : Setting) (m : Machine) (source : Text) : Except Complaint Text :=
  if source = ['-'] then
    match Octets.toText? s.input with
    | some t => .ok t
    | none => .error (.input .notUtf8)
  else (Plan.textAt m s.site source).mapError (.unreadable source)

/-- The name of a file without the directories before it. -/
def fileName? (path : Text) : Option Text :=
  let names := (Text.pieces '/' path).filter fun n => !n.isEmpty && n ≠ ['.']
  names.getLast?.filter (· ≠ ['.', '.'])

/-- The extension of a file: what follows the last dot, unless the name begins with it. -/
def extension? (path : Text) : Option Text :=
  (fileName? path).bind fun name =>
    let after := Text.afterLast? ['.'] name
    after.filter fun e => e.length + 1 < name.length

/-- The language of a tag. -/
def taggedLanguage (tag : Text) : Except Complaint Language :=
  match Language.ofTag? tag with
  | some l => .ok l
  | none => .error (.unknownLanguage tag)

/-- The language of a source: that of the tag, or that of its extension. -/
def sourceLanguage (source : Text) : Option Text → Except Complaint Language
  | some tag => taggedLanguage tag
  | none =>
    match (extension? source).bind Language.ofExtension? with
    | some l => .ok l
    | none => .error (.noLanguage source)

/-! ### Showing -/

/-- A text in a style of the terminal. -/
def styled (style : String) (t : Text) : Text :=
  "\x1b[".toList ++ style.toList ++ "m".toList ++ t ++ "\x1b[0m".toList

/-- A text as a line of its own. -/
def line (t : Text) : Text :=
  t ++ ['\n']

/-- A time in seconds, with two places. -/
def seconds (milliseconds : Nat) : Text :=
  let hundredths := (milliseconds + 5) / 10
  let places := hundredths % 100
  Text.ofNat (hundredths / 100) ++ '.' :: Text.ofNat (places / 10) ++ Text.ofNat (places % 10)

/-- What is shown of how a result came about. -/
def conclusion (r : CellResult) (language : Language) (milliseconds : Nat) : Text :=
  match r.failure with
  | none =>
    let value := match r.value with
      | some v => line (styled "1" v)
      | none => []
    let remark := '(' :: language.tag ++ ", ".toList ++ seconds milliseconds ++ "s)".toList
    value ++ line (styled "32" "ok".toList ++ ' ' :: styled "2" remark)
  | some f =>
    let traceback :=
      if f.traceback.isEmpty || f.traceback = r.stderr then []
      else line (Text.trimEnd f.traceback)
    line (styled "31" f.typeName ++ ": ".toList ++ f.message) ++ traceback

/-- What is shown of a result, for readers of a terminal. -/
def summary (r : CellResult) (language : Language) (milliseconds : Nat) : Answer where
  code := if r.isOk then 0 else 1
  output :=
    let written :=
      if r.stdout.isEmpty || Text.endsWith r.stdout ['\n'] then r.stdout else line r.stdout
    written ++ conclusion r language milliseconds
  errors := r.stderr

/-- A result as a document. -/
def document (r : CellResult) : Answer where
  code := if r.isOk then 0 else 1
  output := line r.toJson.pretty
  errors := []

/-- A line for each toolchain with its path. -/
def toolchainLines (find : Toolchain → Option Text) : Text :=
  Toolchain.all.flatMap fun t =>
    let path := (find t).getD (styled "33" "not found".toList)
    line (t.title ++ ": ".toList ++ path)

/-! ### Answering -/

/-- A fragment is run by an engine of its own. -/
def runFragment (config : Config) (s : Setting) (r : Fragment.Request) (m : Machine) :
    Option (CellResult × Machine) :=
  let e := Engine.create config (.system config.toolchains) s.site m
  (e.execute r).bind fun (result, e) => e.shutdown.map fun e => (result, e.hosted.giveUp)

/-- The answer to an action, if it can be met and ends. -/
def perform (config : Config) (s : Setting) (m : Machine) :
    Action → Except Complaint (Option (Answer × Machine))
  | .run source tag cellId asJson => do
    let code ← sourceText s m source
    let language ← sourceLanguage source tag
    .ok <| (runFragment config s ⟨code, cellId, language⟩ m).map fun (result, after) =>
      (if asJson then document result else summary result language (after.now - m.now), after)
  | .transform source tag => do
    let code ← sourceText s m source
    match ← taggedLanguage tag with
    | .javascript => .ok (some (⟨0, line (Script.transformed .plain code), []⟩, m))
    | .typescript => .ok (some (⟨0, line (Script.transformed .typed code), []⟩, m))
    | other => .error (.notTransformed other)
  | .toolchains =>
    let find := (Finder.system config.toolchains).find m.files s.site
    .ok (some (⟨0, toolchainLines find, []⟩, m))

/-- The answer to a request. -/
def Request.answer (r : Request) (s : Setting) (m : Machine) : Option (Answer × Machine) :=
  let done := do
    let config ← configuration s.site m r.configPath
    perform config s m r.action
  match done with
  | .ok a => a
  | .error c => some (⟨1, [], c.rendered⟩, m)

/-- The answer to the words of a command line. -/
def answer (words : List Text) (s : Setting) (m : Machine) : Option (Answer × Machine) :=
  match Request.ofWords words with
  | .ok r => r.answer s m
  | .error (.help command) => some (⟨0, helpText command, []⟩, m)
  | .error .version => some (⟨0, line (programName ++ " " ++ versionNumber).toList, []⟩, m)
  | .error .misuse => some (⟨2, [], programHelp⟩, m)

end CommandLine

end NotebookEngine
