import NotebookEngine.Json.Printer
import NotebookEngine.Script.Imports
import NotebookEngine.Script.Return

/-!
# Generated scripts

The programs that run a script fragment and leave a report in a file. A plain fragment stands in
a file of its own, which an executor script evaluates inside a function (`executor`). A typed
fragment stands in a module, below its imports (`typedModule`). Both report the value of the fragment
or what it threw.
-/

namespace NotebookEngine

namespace Script

/-- The lines, each ended. -/
def endLines (lines : List String) : Text :=
  lines.flatMap fun l => l.toList ++ ['\n']

/-- The script that evaluates the fragment in the file `user` and leaves its report in `result`;
values are printed to a depth. -/
def executor (user result : Text) (depth : Nat) : Text :=
  endLines [
    "const fs = require('fs');",
    "const util = require('util');",
    ""]
  ++ "const resultFile = ".toList ++ Json.string result ++ ";\n".toList
  ++ "const source = fs.readFileSync(".toList ++ Json.string user ++ ", 'utf8');\n".toList
  ++ endLines [
    "const wrapped = `(async () => \x7b\\n$\x7bsource\x7d\\n\x7d)()`;",
    "",
    "(async () => \x7b",
    "    try \x7b",
    "        const value = await eval(wrapped);",
    "        fs.writeFileSync(resultFile, JSON.stringify(\x7b",
    "            status: 'ok',"]
  ++ "            result: value === undefined ? null : util.inspect(value, \x7b depth: ".toList
  ++ Text.ofNat depth
  ++ endLines [
    ", colors: false \x7d)",
    "        \x7d));",
    "    \x7d catch (e) \x7b",
    "        const thrown = e ?? \x7b\x7d;",
    "        fs.writeFileSync(resultFile, JSON.stringify(\x7b",
    "            status: 'error',",
    "            error: \x7b",
    "                name: String(thrown.name || 'Error'),",
    "                message: String(thrown.message || e),",
    "                stack: String(thrown.stack || '')",
    "            \x7d",
    "        \x7d));",
    "    \x7d",
    "\x7d)();"]

/-- The first lines of every module. -/
def moduleHeader : Text :=
  endLines [
    "import \x7b writeFileSync as __polycellWrite \x7d from 'fs';",
    "import \x7b inspect as __polycellInspect \x7d from 'util';"]

/-- The lines between the imports and the body. -/
def modulePrelude (result : Text) : Text :=
  endLines [
    "",
    "const __polycellFail = (e: any) => \x7b",
    "    const thrown = e ?? \x7b\x7d;"]
  ++ "    __polycellWrite(".toList ++ Json.string result
  ++ endLines [
    ", JSON.stringify(\x7b",
    "        status: 'error',",
    "        error: \x7b",
    "            name: String(thrown.name || 'Error'),",
    "            message: String(thrown.message || e),",
    "            stack: String(thrown.stack || '')",
    "        \x7d",
    "    \x7d));",
    "\x7d;",
    "",
    "(async () => \x7b"]

/-- The lines after the body. -/
def moduleEnd (result : Text) (depth : Nat) : Text :=
  endLines [
    "",
    "\x7d)().then((value: unknown) => \x7b"]
  ++ "    __polycellWrite(".toList ++ Json.string result
  ++ endLines [
    ", JSON.stringify(\x7b",
    "        status: 'ok',"]
  ++ "        result: value === undefined ? null : __polycellInspect(value, \x7b depth: ".toList
  ++ Text.ofNat depth
  ++ endLines [
    ", colors: false \x7d)",
    "    \x7d));",
    "\x7d, __polycellFail);"]

/-- The module of a typed fragment, which leaves its report in `result`. -/
def typedModule (code result : Text) (depth : Nat) : Text :=
  let extracted := extractImports code
  moduleHeader
    ++ (extracted.imports.flatMap fun statement => statement ++ ['\n'])
    ++ modulePrelude result
    ++ addReturn .typed extracted.body
    ++ moduleEnd result depth

/-- A fragment as it is run, its imports before all else. -/
def transformed (d : Dialect) (code : Text) : Text :=
  match d with
  | .plain => addReturn .plain code
  | .typed =>
    let extracted := extractImports code
    Text.join ['\n'] (extracted.imports ++ [addReturn .typed extracted.body])

end Script

end NotebookEngine
