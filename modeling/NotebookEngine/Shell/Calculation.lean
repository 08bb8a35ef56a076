import NotebookEngine.Shell.Source

/-!
# Calculations

The value of an arithmetic expression over the parameters of a shell. Values are words of 64 bits
with a sign. An expression is read and worked out in one pass; what is not reached (`&&`, `||`, the
branch of a choice not taken) is read without effect.
-/

namespace NotebookEngine

namespace Shell

open Host (Octets)

namespace Calculation

/-- Why there is no value. -/
inductive Fault where
  | missingOperand
  | missingEnd
  | missingColon
  | divisionByZero
  | notANumber (text : Octets)
deriving DecidableEq, Repr

/-- The wording of a fault. -/
def Fault.message : Fault → Octets
  | .missingOperand => "arithmetic expression: expecting primary".toList
  | .missingEnd => "arithmetic expression: expecting EOF".toList
  | .missingColon => "arithmetic expression: expecting ':'".toList
  | .divisionByZero => "arithmetic expression: division by zero".toList
  | .notANumber s => "Illegal number: ".toList ++ s

/-- The wording of a fault in an expression. -/
def Fault.messageIn (f : Fault) (expression : Octets) : Octets :=
  match f with
  | .notANumber _ => f.message
  | f => f.message ++ ": \"".toList ++ expression ++ ['"']

/-- What is left of the expression, and the parameters as they stand. -/
structure State where
  rest : Octets
  values : List (Octets × Octets)

/-- A step of a calculation. -/
abbrev Calc := StateT State (Except Fault)

/-- The value of 64 bits. -/
def wrap (n : Int) : Int :=
  Int.bmod n (Nat.pow 2 64)

/-- The greatest value. -/
def greatest : Int :=
  Nat.pow 2 63 - 1

/-- Space between parts. -/
def isSpace (c : Char) : Bool :=
  isBlank c || c = '\n'

/-- Space is taken. -/
def skip : Calc Unit :=
  modify fun s => { s with rest := s.rest.dropWhile isSpace }

/-- A sign is taken if it comes and none of others does that begin with it. -/
def accept (sign : String) (longer : List String) : Calc Bool := do
  skip
  let s ← get
  if Text.startsWith s.rest sign.toList
      && !longer.any fun (l : String) => Text.startsWith s.rest l.toList then
    set { s with rest := s.rest.drop sign.length }
    return true
  return false

/-- The value of a digit. -/
def digitValue (c : Char) : Nat :=
  if c.isDigit then c.toNat - '0'.toNat
  else if 'a' ≤ c && c ≤ 'z' then c.toNat - 'a'.toNat + 10
  else if 'A' ≤ c && c ≤ 'Z' then c.toNat - 'A'.toNat + 10
  else 36

/-- The value of digits in a base, if all are. -/
def inBase? (base : Nat) (s : Octets) : Option Nat :=
  if s.isEmpty || s.any fun c => base ≤ digitValue c then none
  else some (s.foldl (fun n c => n * base + digitValue c) 0)

/-- The number written without a sign, in the base that its beginning tells. -/
def natural? : Octets → Option Nat
  | '0' :: 'x' :: s | '0' :: 'X' :: s => inBase? 16 s
  | '0' :: c :: s => inBase? 8 (c :: s)
  | s => inBase? 10 s

/-- The number in a text. -/
def number? (s : Octets) : Option Int :=
  let s := (s.dropWhile isSpace).reverse.dropWhile isSpace |>.reverse
  match s with
  | [] => some 0
  | '-' :: s => (natural? s).map fun n => -(n : Int)
  | '+' :: s => (natural? s).map Int.ofNat
  | s => (natural? s).map Int.ofNat

/-- The value of a parameter; one without a value counts nothing. -/
def valueOf (name : Octets) : Calc Int := do
  let text := ((← get).values.lookup name).getD []
  match number? text with
  | some n =>
    if -greatest - 1 ≤ n && n ≤ greatest then return n
    throw (.notANumber text)
  | none => throw (.notANumber text)

/-- A parameter gets a value, unless nothing counts. -/
def assign (counts : Bool) (name : Octets) (n : Int) : Calc Int := do
  if counts then
    modify fun s => { s with values := (name, Text.ofInt n) :: s.values }
  return n

/-- The operators between two values, by how tightly they bind, loosest first: each with longer signs
that it is not. -/
def levels : List (List (String × List String)) := [
  [("|", ["||", "|="])],
  [("^", ["^="])],
  [("&", ["&&", "&="])],
  [("==", []), ("!=", [])],
  [("<=", []), (">=", []), ("<", ["<<"]), (">", [">>"])],
  [("<<", ["<<="]), (">>", [">>="])],
  [("+", ["+="]), ("-", ["-="])],
  [("*", ["*="]), ("/", ["/="]), ("%", ["%="])]]

/-- The value of a truth. -/
def truth (b : Bool) : Int :=
  if b then 1 else 0

/-- The value of two values under an operator. -/
def combine (counts : Bool) (operator : String) (a b : Int) : Except Fault Int :=
  let bits (f : UInt64 → UInt64 → UInt64) : Int :=
    wrap (f (UInt64.ofInt a) (UInt64.ofInt b)).toNat
  match operator with
  | "|" => .ok (bits (· ||| ·))
  | "^" => .ok (bits (· ^^^ ·))
  | "&" => .ok (bits (· &&& ·))
  | "==" => .ok (truth (a = b))
  | "!=" => .ok (truth (a ≠ b))
  | "<=" => .ok (truth (a ≤ b))
  | ">=" => .ok (truth (b ≤ a))
  | "<" => .ok (truth (a < b))
  | ">" => .ok (truth (b < a))
  | "<<" => .ok (bits (· <<< ·))
  | ">>" => .ok (a >>> (b % 64).toNat)
  | "+" => .ok (wrap (a + b))
  | "-" => .ok (wrap (a - b))
  | "*" => .ok (wrap (a * b))
  | "/" => if b = 0 then (if counts then .error .divisionByZero else .ok 0) else .ok (wrap (a.tdiv b))
  | "%" => if b = 0 then (if counts then .error .divisionByZero else .ok 0) else .ok (wrap (a.tmod b))
  | _ => .ok b

/-- The operators that assign. -/
def assignments : List String :=
  ["=", "*=", "/=", "%=", "+=", "-=", "<<=", ">>=", "&=", "^=", "|="]

mutual

/-- A number, a parameter, or a part in brackets, with the signs before it. -/
def operand : (steps : Nat) → (counts : Bool) → Calc Int
  | 0, _ => throw .missingOperand
  | n + 1, counts => do
    if ← accept "(" [] then
      let v ← expression n counts
      if ← accept ")" [] then return v
      throw .missingOperand
    if ← accept "!" ["!="] then return truth ((← operand n counts) = 0)
    if ← accept "~" [] then return wrap (-(← operand n counts) - 1)
    if ← accept "-" [] then return wrap (-(← operand n counts))
    if ← accept "+" [] then return ← operand n counts
    let s ← get
    let word := s.rest.takeWhile continuesName
    if word.isEmpty then throw .missingOperand
    set { s with rest := s.rest.drop word.length }
    if word.head?.any Char.isDigit then
      match natural? word with
      | some v => return min v greatest
      | none => throw .missingEnd
    skip
    let r := (← get).rest
    match assignments.find? fun (o : String) =>
        Text.startsWith r o.toList && !Text.startsWith r ['=', '='] with
    | none => valueOf word
    | some o =>
      modify fun s => { s with rest := s.rest.drop o.length }
      let v ← expression n counts
      if o = "=" then assign counts word v
      else
        let old ← valueOf word
        assign counts word (← combine counts (String.ofList o.toList.dropLast) old v)

/-- Values joined by operators at least as tight as a level, after the first. -/
def operators : (steps : Nat) → (counts : Bool) → List (List (String × List String)) → Calc Int
  | 0, _, _ => throw .missingOperand
  | n + 1, counts, [] => operand n counts
  | n + 1, counts, level :: tighter => do
    let first ← operators n counts tighter
    more n counts level tighter first

/-- Operators of a level, and what follows them, after a value. -/
def more : (steps : Nat) → (counts : Bool) → List (String × List String) →
    List (List (String × List String)) → Int → Calc Int
  | 0, _, _, _, _ => throw .missingOperand
  | n + 1, counts, level, tighter, first => do
    skip
    let r := (← get).rest
    match level.find? fun (o, longer) =>
        Text.startsWith r o.toList && !longer.any fun (l : String) => Text.startsWith r l.toList with
    | none => return first
    | some (o, _) =>
      modify fun s => { s with rest := s.rest.drop o.length }
      let second ← operators n counts tighter
      more n counts level tighter (← combine counts o first second)

/-- Values joined by `&&`. -/
def conjunction : (steps : Nat) → (counts : Bool) → Calc Int
  | 0, _ => throw .missingOperand
  | n + 1, counts => do
    let first ← operators n counts levels
    if ← accept "&&" [] then
      let second ← conjunction n (counts && first ≠ 0)
      return truth (first ≠ 0 && second ≠ 0)
    return first

/-- Values joined by `||`. -/
def disjunction : (steps : Nat) → (counts : Bool) → Calc Int
  | 0, _ => throw .missingOperand
  | n + 1, counts => do
    let first ← conjunction n counts
    if ← accept "||" [] then
      let second ← disjunction n (counts && first = 0)
      return truth (first ≠ 0 || second ≠ 0)
    return first

/-- An expression: a choice, or what it would choose by. -/
def expression : (steps : Nat) → (counts : Bool) → Calc Int
  | 0, _ => throw .missingOperand
  | n + 1, counts => do
    let test ← disjunction n counts
    if ← accept "?" [] then
      let yes ← expression n (counts && test ≠ 0)
      if !(← accept ":" []) then throw .missingColon
      let no ← expression n (counts && test = 0)
      return if test ≠ 0 then yes else no
    return test

end

/-- The whole expression. -/
def whole (steps : Nat) : Calc Int := do
  skip
  if (← get).rest.isEmpty then return 0
  let v ← expression steps true
  skip
  if (← get).rest.isEmpty then return v
  throw .missingEnd

/-- The value of an expression, and the parameters after it. -/
def run (text : Octets) (values : List (Octets × Octets)) :
    Except Fault (Int × List (Octets × Octets)) :=
  ((whole (16 * (text.length + 8))).run ⟨text, values⟩).map fun (v, s) => (v, s.values)

end Calculation

end Shell

end NotebookEngine
