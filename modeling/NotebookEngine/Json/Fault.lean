import NotebookEngine.Text.Quoted

/-!
# Faults of a JSON text

Why a JSON text was refused. A `Flaw` is an error of form: the text is no JSON, or ends too
early. A `Misfit` is an error of meaning: well-formed JSON does not fit the type that is read.
A `Fault` is either with the place where it was met.
-/

namespace NotebookEngine

namespace Json

/-- Errors of form. -/
inductive Flaw where
  | endInList
  | endInObject
  | endInString
  | endInValue
  | colonExpected
  | listCommaExpected
  | objectCommaExpected
  | wordExpected
  | valueExpected
  | badEscape
  | badNumber
  | numberTooLarge
  | controlInString
  | keyExpected
  | loneSurrogate
  | cutSurrogate
  | trailingComma
  | trailingText
  | tooDeep
deriving DecidableEq, Repr

/-- The text ended too early. -/
def Flaw.isEnd : Flaw → Bool
  | .endInList | .endInObject | .endInString | .endInValue => true
  | _ => false

/-- The wording of an error of form. -/
def Flaw.message : Flaw → String
  | .endInList => "EOF while parsing a list"
  | .endInObject => "EOF while parsing an object"
  | .endInString => "EOF while parsing a string"
  | .endInValue => "EOF while parsing a value"
  | .colonExpected => "expected `:`"
  | .listCommaExpected => "expected `,` or `]`"
  | .objectCommaExpected => "expected `,` or `\x7d`"
  | .wordExpected => "expected ident"
  | .valueExpected => "expected value"
  | .badEscape => "invalid escape"
  | .badNumber => "invalid number"
  | .numberTooLarge => "number out of range"
  | .controlInString => "control character (\\u0000-\\u001F) found while parsing a string"
  | .keyExpected => "key must be a string"
  | .loneSurrogate => "lone leading surrogate in hex escape"
  | .cutSurrogate => "unexpected end of hex escape"
  | .trailingComma => "trailing comma"
  | .trailingText => "trailing characters"
  | .tooDeep => "recursion limit exceeded"

/-- What stood in the text where something else was wanted. -/
inductive Found where
  | null
  | boolean (b : Bool)
  | integer (n : Int)
  | floating (written : Text)
  | text (s : Text)
  | sequence
  | map
deriving DecidableEq, Repr

/-- The wording of what was found. -/
def Found.message : Found → Text
  | .null => "null".toList
  | .boolean b => "boolean `".toList ++ (toString b).toList ++ ['`']
  | .integer n => "integer `".toList ++ Text.ofInt n ++ ['`']
  | .floating w => "floating point `".toList ++ w ++ ['`']
  | .text s => "string ".toList ++ Text.quote s
  | .sequence => "sequence".toList
  | .map => "map".toList

/-- Errors of meaning. -/
inductive Misfit where
  | missingField (name : Text)
  | duplicateField (name : Text)
  | unknownVariant (given : Text) (known : List Text)
  | wrongType (found : Found) (wanted : Text)
  | wrongValue (found : Found) (wanted : Text)
  | wrongLength (length : Nat) (wanted : Text)
deriving DecidableEq, Repr

/-- A text between backticks. -/
def ticked (s : Text) : Text :=
  '`' :: s ++ ['`']

/-- The wording of a choice between known names. -/
def oneOf : List Text → Text
  | [] => "there are no variants".toList
  | [a] => "expected ".toList ++ ticked a
  | [a, b] => "expected ".toList ++ ticked a ++ " or ".toList ++ ticked b
  | names => "expected one of ".toList ++ Text.join ", ".toList (names.map ticked)

/-- The wording of an error of meaning. -/
def Misfit.message : Misfit → Text
  | .missingField name => "missing field ".toList ++ ticked name
  | .duplicateField name => "duplicate field ".toList ++ ticked name
  | .unknownVariant given known =>
    "unknown variant ".toList ++ ticked given ++ ", ".toList ++ oneOf known
  | .wrongType found wanted =>
    "invalid type: ".toList ++ found.message ++ ", expected ".toList ++ wanted
  | .wrongValue found wanted =>
    "invalid value: ".toList ++ found.message ++ ", expected ".toList ++ wanted
  | .wrongLength length wanted =>
    "invalid length ".toList ++ Text.ofNat length ++ ", expected ".toList ++ wanted

/-- The cause of a refusal. -/
inductive Cause where
  | flaw (f : Flaw)
  | misfit (m : Misfit)
deriving DecidableEq, Repr

/-- The wording of a cause. -/
def Cause.message : Cause → Text
  | .flaw f => f.message.toList
  | .misfit m => m.message

/-- A line and a column, both counted from one; the column counts octets. -/
structure Place where
  line : Nat
  column : Nat
deriving DecidableEq, Repr

/-- A cause with the place where it was met, if it was met in a text. -/
structure Fault where
  cause : Cause
  place : Option Place
deriving DecidableEq, Repr

/-- The wording of a fault. -/
def Fault.message (f : Fault) : Text :=
  match f.place with
  | none => f.cause.message
  | some p =>
    f.cause.message ++ " at line ".toList ++ Text.ofNat p.line ++ " column ".toList
      ++ Text.ofNat p.column

/-- The number of octets a text takes. -/
def octets (s : Text) : Nat :=
  s.foldl (fun n c => n + c.utf8Size) 0

/-- The place after the first `count` octets of a text. -/
def Place.after (s : Text) (count : Nat) : Place :=
  let go := s.foldl
    (fun (acc : Nat × Nat × Nat) c =>
      let (left, line, column) := acc
      if left = 0 then acc
      else if c = '\n' then (left - 1, line + 1, 0)
      else (left - c.utf8Size, line, column + min left c.utf8Size))
    (count, 1, 0)
  ⟨go.2.1, go.2.2⟩

end Json

end NotebookEngine
