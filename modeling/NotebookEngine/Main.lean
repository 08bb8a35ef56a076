import NotebookEngine.CommandLine.Answer
import NotebookEngine.Programs.Table

/-!
# The program

The command line with the real standard streams. Requests are answered on a machine of its own, which
is given the files and directories that the words of the command line and the configuration name.
-/

namespace NotebookEngine

namespace CommandLine

open Host (Octets Site Machine)

/-- The mode of a file that is given to a machine. -/
def givenMode : Nat :=
  493

/-- The machine with what the real file system has at a path, if it has anything there. -/
def withReal (site : Site) (m : Machine) (path : Text) : IO Machine := do
  let place := Octets.ofText (site.absolute path)
  try
    let real ← IO.FS.realPath (String.ofList path)
    if ← real.isDir then return { m with files := m.files.withDirectory place }
    let content ← IO.FS.readBinFile real
    return { m with files := m.files.withFile place (Octets.ofBytes content.toList) givenMode }
  catch _ => return m

/-- The paths that a configuration names. -/
def namedPaths (c : Config) : List Text :=
  (Toolchain.all.filterMap c.toolchains.path?) ++ c.kernel.script.toList

/-- The variables of the environment that have a meaning for the command line. -/
def environmentNames : List Text :=
  ["PATH".toList, "HOME".toList, "TMPDIR".toList] ++ Toolchain.all.map Toolchain.environmentName

/-- The real environment, as far as it has a meaning here. -/
def realEnvironment : IO Host.Environment := do
  let given ← environmentNames.mapM fun name => do
    let value ← IO.getEnv (String.ofList name)
    return value.map fun v => (Octets.ofText name, Octets.ofText v.toList)
  return given.filterMap id

/-- All octets that a stream still has. -/
partial def readAll (stream : IO.FS.Stream) (before : ByteArray) : IO ByteArray := do
  let more ← stream.read 65536
  if more.isEmpty then return before
  readAll stream (before ++ more)

/-- Nothing comes any more. -/
partial def waitForEver : IO Answer := do
  IO.sleep 1000
  waitForEver

/-- The words of a command line are answered. -/
def answerReal (words : List Text) : IO Answer := do
  let here ← IO.currentDir
  let directory := Host.Files.names (Octets.ofText here.toString.toList)
  let site : Site := ⟨directory, ← realEnvironment⟩
  let start := Programs.machine
  let m := { start with files := start.files.withDirectory (Octets.ofText (site.absolute [])) }
  let m ← words.foldlM (withReal site) m
  let request := (Request.ofWords words).toOption
  let config := request.bind fun r => (configuration site m r.configPath).toOption
  let m ← (config.map namedPaths |>.getD []).foldlM (withReal site) m
  let input ← if words.contains ['-'] then readAll (← IO.getStdin) ByteArray.empty
    else pure ByteArray.empty
  match answer words ⟨site, Octets.ofBytes input.toList⟩ m with
  | some (a, _) => return a
  | none => waitForEver

end CommandLine

end NotebookEngine

/-- The program: it writes the answer to its words and ends with the code of the answer. -/
def main (words : List String) : IO UInt32 := do
  let a ← NotebookEngine.CommandLine.answerReal (words.map String.toList)
  IO.print (String.ofList a.output)
  IO.eprint (String.ofList a.errors)
  return UInt32.ofNat a.code
