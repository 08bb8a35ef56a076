import NotebookEngine.Proofs.Engine.Departure
import NotebookEngine.Proofs.Engine.Results
import NotebookEngine.Proofs.Result.Wire

/-!
# Runs of the command line

What the command line comes to when it is asked to run a fragment (`run_answered`). If the
configuration cannot be loaded, the source cannot be read or no language is known, it complains and
nothing happens on the machine. Otherwise an engine of its own runs the fragment once and is shut down,
the result of this is what is shown, and nothing is left of the engine. There is an answer unless a
line chokes the session of the engine.
-/

namespace NotebookEngine

namespace CommandLine

open Host (Files Machine)
open Json (Written maxDepth)

variable {s : Setting} {m : Machine} {words : List Text} {configPath tag : Option Text}
  {source cellId : Text} {asJson isVerbose : Bool}

/-! ### Refusals -/

/-- Why no fragment is run: the configuration cannot be loaded, the source cannot be read, or no
language can be determined. -/
inductive Refuses (s : Setting) (m : Machine) (configPath : Option Text) (source : Text)
    (tag : Option Text) (c : Complaint) : Prop
  | unloaded (failed : configuration s.site m configPath = .error c)
  | unread (failed : sourceText s m source = .error c)
  | unknown (failed : sourceLanguage source tag = .error c)

/-- A result is shown: the code tells whether it is a success, and a document writes it whole and
nothing else. -/
structure Shows (asJson : Bool) (r : CellResult) (a : Answer) : Prop where
  code : a.code = 0 ∧ r.status = .ok ∨ a.code = 1 ∧ r.status = .error
  document : asJson = true → ∃ t, a.output = t ++ ['\n'] ∧ Written maxDepth r.toJson t
    ∧ CellResult.reader.read a.output = .ok r

/-- The announcer is the interpreter, and the fragment comes from the standard input. -/
def announced : Setting where
  site :=
    { environment := [("POLYCELL_PYTHON".toList, "/announcer".toList), ("TMPDIR".toList, "/".toList)] }
  input := "1 + 1".toList

end CommandLine

end NotebookEngine
