import NotebookEngine.EngineError
import NotebookEngine.Language

/-!
# Complaints

Why a request of the command line cannot be met, apart from failures of the fragment itself. A
complaint is shown with the causes that lie under it (`Complaint.rendered`).
-/

namespace NotebookEngine

namespace CommandLine

/-- Why a request cannot be met. -/
inductive Complaint where
  /-- The configuration cannot be loaded. -/
  | configuration (path : Text) (error : EngineError)
  /-- The source of the fragment cannot be read. -/
  | unreadable (path : Text) (fault : Host.Fault)
  /-- The standard input cannot be read. -/
  | input (fault : Host.Fault)
  /-- The tag names no language. -/
  | unknownLanguage (tag : Text)
  /-- The name of the source does not tell its language. -/
  | noLanguage (path : Text)
  /-- Fragments of the language are not transformed. -/
  | notTransformed (language : Language)
deriving DecidableEq, Repr

namespace Complaint

/-- The wording of a complaint. -/
def message : Complaint → Text
  | .configuration path _ => "failed to load config ".toList ++ path
  | .unreadable path _ => "failed to read ".toList ++ path
  | .input _ => "failed to read stdin".toList
  | .unknownLanguage tag => (EngineError.unknownLanguage tag).message
  | .noLanguage path =>
    "cannot infer language of '".toList ++ path ++ "'; pass --lang".toList
  | .notTransformed language =>
    "transform supports javascript and typescript, not ".toList ++ language.tag

/-- The causes under a complaint, each under the one before. -/
def causes : Complaint → List Text
  | .configuration _ error => error.message :: error.cause?.toList
  | .unreadable _ fault | .input fault => [fault.message]
  | _ => []

/-- Causes as they are listed: numbered if there are several, their further lines indented. -/
def listed (causes : List Text) : Text :=
  let isNumbered := 1 < causes.length
  let indent := if isNumbered then "       ".toList else "    ".toList
  Text.join ['\n'] <| causes.zipIdx.map fun (cause, i) =>
    let first := if isNumbered then "    ".toList ++ Text.ofNat i ++ ": ".toList else indent
    first ++ Text.replaceAll ['\n'] ('\n' :: indent) cause

/-- A complaint as it is shown. -/
def rendered (c : Complaint) : Text :=
  let under :=
    if c.causes.isEmpty then [] else "\n\nCaused by:\n".toList ++ listed c.causes
  "Error: ".toList ++ c.message ++ under ++ ['\n']

end Complaint

end CommandLine

end NotebookEngine
