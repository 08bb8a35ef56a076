import NotebookEngine.Fragment.Split
import NotebookEngine.Text.Quoted

/-!
# Generated programs

The program around a compiled fragment (`program`): its inner attributes first, then its other
definitions, then an entry point that evaluates the body as a block and writes the value to a file.
A fragment with an entry point of its own is its own program.
-/

namespace NotebookEngine

namespace Fragment

/-- A line of the definitions that must stand at the top of the program. -/
def isInnerAttribute (line : Text) : Bool :=
  Text.startsWith (Text.trimStart line) ['#', '!', '[']

/-- The inner attributes of definitions, each line ended, and the attribute that every generated
program has. -/
def attributeLines (definitions : Text) : Text :=
  (((Text.lines definitions).filter isInnerAttribute).flatMap fun line => line ++ ['\n'])
    ++ "#![allow(unused)]\n".toList

/-- The definitions other than inner attributes. -/
def itemLines (definitions : Text) : Text :=
  Text.join ['\n'] ((Text.lines definitions).filter fun line => !isInnerAttribute line)

/-- The entry point that evaluates a body and writes its value to the file `result`. -/
def entryPoint (body result : Text) : Text :=
  "fn main() \x7b\n    let __polycell_value = \x7b\n".toList
    ++ body
    ++ "\n    \x7d;\n    if let Ok(mut __polycell_out) = std::fs::File::create(".toList
    ++ Text.quote result
    ++ (") \x7b\n        let _ = write!(__polycell_out, \"\x7b:?\x7d\", __polycell_value);\n"
      ++ "    \x7d\n\x7d\n").toList

/-- The program of the parts of a fragment, which leaves its value in the file `result`. -/
def Parts.program (p : Parts) (result : Text) : Text :=
  if p.hasEntryPoint then p.definitions
  else match p.body with
    | none =>
      attributeLines p.definitions ++ '\n' :: itemLines p.definitions
        ++ "\n\nfn main() \x7b\x7d\n".toList
    | some body =>
      attributeLines p.definitions ++ "use std::io::Write as _;\n\n".toList
        ++ itemLines p.definitions ++ ['\n', '\n'] ++ entryPoint body result

end Fragment

end NotebookEngine
