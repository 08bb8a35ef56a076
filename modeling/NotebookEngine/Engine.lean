import NotebookEngine.Backend.Compiled
import NotebookEngine.Backend.Performance
import NotebookEngine.Backend.Scripted
import NotebookEngine.Finder
import NotebookEngine.Language
import NotebookEngine.Session.Hosted

/-!
# The engine

The engine runs fragments by their language: in the persistent session, or by a plan of their own
(`Engine.execute`). A failure of a fragment is always told by its result; the only error of a caller
is a tag that names no language (`Engine.executeTagged`). What waits for the session may wait for
ever, and then nothing comes of it.
-/

namespace NotebookEngine

open Host (Octets Site Machine)

/-- A fragment to be run. -/
structure Fragment.Request where
  code : Text
  cellId : Text
  language : Language
deriving DecidableEq, Repr

/-- An engine: its settings, how it finds toolchains, its session, and how many fragments have had
files of their own. -/
structure Engine where
  config : Config
  finder : Finder
  hosted : Session.Hosted
  staged : Nat := 0

namespace Engine

/-- An engine on a machine. -/
def create (config : Config) (finder : Finder) (site : Site) (machine : Machine) : Engine where
  config := config
  finder := finder
  hosted :=
    { queue := { manager := { config := config.kernel } }
      machine
      site
      scriptDirectory := config.tempDir
      scriptId := "bundle".toList }

/-- The path of a toolchain. -/
def find (e : Engine) (t : Toolchain) : Option Text :=
  e.finder.find e.hosted.machine.files e.hosted.site t

/-- The identifier of the files of a fragment: thirty-two digits. -/
def stagingId (n : Nat) : Text :=
  let ds := Text.ofNat n
  List.replicate (32 - ds.length) '0' ++ ds

/-- The result of what a caller gets of the session for a fragment. -/
def resultOf? (cellId : Text) : Session.Outcome → Option CellResult
  | .answer (.result r) => some r
  | .answer (.failed e) => some (.failedEarly cellId e.failure)
  | .answer .done | .runtime _ => none

/-- The result of a fragment whose interpreter is not found. -/
def withoutInterpreter (cellId : Text) : CellResult :=
  .failedEarly cellId (EngineError.toolchainNotFound .python).failure

/-- The plan of a fragment that has files of its own. -/
def plan? (e : Engine) (r : Fragment.Request) : Option (Plan CellResult) :=
  let id := stagingId e.staged
  match r.language with
  | .python => none
  | .rust => some (Compiled.plan e.config (e.find .rustc) id r.code r.cellId)
  | .javascript => some (Scripted.plainPlan e.config (e.find .javascript) id r.code r.cellId)
  | .typescript => some (Scripted.typedPlan e.config (e.find .typescript) id r.code r.cellId)

/-- The engine after a plan, with the value to which it comes. -/
def perform (e : Engine) (p : Plan CellResult) : CellResult × Engine :=
  let (r, machine) := p.perform e.hosted.site e.hosted.machine
  (r, { e with hosted := { e.hosted with machine }, staged := e.staged + 1 })

/-- What is wanted of the session for a fragment, if it is run there and the interpreter is found. -/
def demand? (e : Engine) (r : Fragment.Request) : Option Session.Demand :=
  (e.find .python).map fun runtime => .operate (.execute r.code r.cellId runtime)

/-- Something is wanted of the session. -/
def call (e : Engine) (d : Session.Demand) : Option (Session.Outcome × Engine) :=
  (e.hosted.call d).map fun (o, hosted) => (o, { e with hosted })

/-- A fragment is run. -/
def execute (e : Engine) (r : Fragment.Request) : Option (CellResult × Engine) :=
  match e.plan? r with
  | some p => some (e.perform p)
  | none =>
    match e.demand? r with
    | none => some (withoutInterpreter r.cellId, e)
    | some d => (e.call d).bind fun (o, e) => (resultOf? r.cellId o).map (·, e)

/-- Two fragments are run at once. In the session they take turns, the first one first; otherwise
neither has to do with the other. -/
def executeBoth (e : Engine) (first second : Fragment.Request) :
    Option (CellResult × CellResult × Engine) :=
  match e.plan? first, e.plan? second, e.demand? first, e.demand? second with
  | none, none, some d, some d' =>
    (({ e.hosted with outcomes := [] }.submit 0 d).submit 1 d').complete.bind fun hosted =>
      ((hosted.outcomes.lookup 0).bind (resultOf? first.cellId)).bind fun a =>
        ((hosted.outcomes.lookup 1).bind (resultOf? second.cellId)).map fun b =>
          (a, b, { e with hosted })
  | _, _, _, _ =>
    (e.execute first).bind fun (a, e) => (e.execute second).map fun (b, e) => (a, b, e)

/-- A fragment is run in the language of a tag; a tag of no language is refused before anything is
done. -/
def executeTagged (e : Engine) (code tag cellId : Text) :
    Option (Except EngineError CellResult × Engine) :=
  match Language.ofTag? tag with
  | none => some (.error (.unknownLanguage tag), e)
  | some language => (e.execute ⟨code, cellId, language⟩).map fun (r, e) => (.ok r, e)

/-- The session is started anew with its runtime. -/
def restartSession (e : Engine) : Option (Except EngineError Unit × Engine) :=
  (e.call (.operate .restart)).bind fun
    | (.answer .done, e) => some (.ok (), e)
    | (.answer (.failed f), e) => some (.error f, e)
    | _ => none

/-- The session is ended. -/
def shutdown (e : Engine) : Option Engine :=
  (e.call (.operate .shutdown)).map Prod.snd

/-- The runtime of the session. -/
def sessionRuntime (e : Engine) : Option (Option Text × Engine) :=
  (e.call .runtime).bind fun
    | (.runtime path, e) => some (path, e)
    | _ => none

end Engine

end NotebookEngine
