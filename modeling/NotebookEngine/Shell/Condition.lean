import NotebookEngine.Shell.State
import NotebookEngine.Shell.Calculation

/-!
# Conditions

The conditions of `test`: about texts, about numbers and about files, joined by negation,
conjunction, disjunction and brackets.
-/

namespace NotebookEngine

namespace Shell

open Host (Octets)

namespace Condition

/-- A condition that holds or not, or why it makes no sense. -/
abbrev Check (α : Type) := List Octets → Run (Except Octets (α × List Octets))

/-- The operators on one operand. -/
def unary : List String :=
  ["-b", "-c", "-d", "-e", "-f", "-g", "-h", "-k", "-L", "-n", "-O", "-G", "-p", "-r", "-s", "-S",
    "-t", "-u", "-w", "-x", "-z"]

/-- The operators between two operands. -/
def binary : List String :=
  ["=", "!=", "<", ">", "-eq", "-ne", "-gt", "-ge", "-lt", "-le", "-nt", "-ot", "-ef"]

/-- The argument is an operator on one operand. -/
def isUnary (a : Octets) : Bool :=
  unary.any fun (o : String) => o.toList = a

/-- The argument is an operator between two operands. -/
def isBinary (a : Octets) : Bool :=
  binary.any fun (o : String) => o.toList = a

/-- A condition on one operand. -/
def holds (operator : Octets) (a : Octets) : Run Bool := do
  match String.ofList operator with
  | "-n" => return !a.isEmpty
  | "-z" => return a.isEmpty
  | "-t" => return false
  | operator =>
    match ← host (.inspect a) with
    | .error _ => return false
    | .ok node =>
      match operator, node with
      | "-e", _ => return true
      | "-r", _ | "-w", _ | "-O", _ | "-G", _ => return true
      | "-d", .directory | "-x", .directory | "-s", .directory => return true
      | "-f", .file _ _ | "-f", .program _ => return true
      | "-s", .file _ content => return !content.isEmpty
      | "-x", .file mode _ => return Host.Files.isRunnable mode
      | "-x", .program _ | "-s", .program _ => return true
      | "-c", .device _ => return true
      | _, _ => return false

/-- The number in an operand. -/
def number (a : Octets) : Except Octets Int :=
  let t := (a.dropWhile Calculation.isSpace).reverse.dropWhile Calculation.isSpace |>.reverse
  let (negative, ds) :=
    match t with
    | '-' :: t => (true, t)
    | '+' :: t => (false, t)
    | t => (false, t)
  match Calculation.inBase? 10 ds with
  | some n => .ok (if negative then -(n : Int) else n)
  | none => .error ("Illegal number: ".toList ++ a)

/-- A condition between two operands. -/
def compare (a operator b : Octets) : Except Octets Bool := do
  match String.ofList operator with
  | "=" => return a = b
  | "!=" => return a ≠ b
  | "<" => return a ≠ b && Octets.precedes a b
  | ">" => return a ≠ b && Octets.precedes b a
  | "-eq" => return (← number a) = (← number b)
  | "-ne" => return (← number a) ≠ (← number b)
  | "-gt" => return (← number b) < (← number a)
  | "-ge" => return (← number b) ≤ (← number a)
  | "-lt" => return (← number a) < (← number b)
  | "-le" => return (← number a) ≤ (← number b)
  | "-ef" => return a = b
  | _ => return false

/-- The first step's value goes to the second, unless it makes no sense. -/
def andThen {α β : Type} (first : Run (Except Octets α)) (second : α → Run (Except Octets β)) :
    Run (Except Octets β) := do
  match ← first with
  | .error e => return .error e
  | .ok a => second a

mutual

/-- Conditions any of which may hold. -/
def anyOf : (steps : Nat) → Check Bool
  | 0, _ => return .error "too long".toList
  | n + 1, as => andThen (allOf n as) fun (v, rest) => do
    match rest with
    | ['-', 'o'] :: rest =>
      andThen (anyOf n rest) fun (w, rest) => return .ok (v || w, rest)
    | _ => return .ok (v, rest)

/-- Conditions all of which must hold. -/
def allOf : (steps : Nat) → Check Bool
  | 0, _ => return .error "too long".toList
  | n + 1, as => andThen (one n as) fun (v, rest) => do
    match rest with
    | ['-', 'a'] :: rest =>
      andThen (allOf n rest) fun (w, rest) => return .ok (v && w, rest)
    | _ => return .ok (v, rest)

/-- One condition. -/
def one : (steps : Nat) → Check Bool
  | 0, _ => return .error "too long".toList
  | n + 1, as => do
    match as with
    | [] => return .error "argument expected".toList
    | [a] => return .ok (!a.isEmpty, [])
    | a :: o :: rest =>
      match rest with
      | b :: after =>
        if isBinary o then
          return (compare a o b).map fun v => (v, after)
        else if a = ['!'] then
          andThen (one n (o :: rest)) fun (v, r) => return .ok (!v, r)
        else if a = ['('] then
          andThen (anyOf n (o :: rest)) fun (v, r) => do
            match r with
            | [')'] :: r => return .ok (v, r)
            | _ => return .error "closing paren expected".toList
        else if isUnary a then return .ok (← holds a o, rest)
        else return .ok (!a.isEmpty, o :: rest)
      | [] =>
        if a = ['!'] then andThen (one n [o]) fun (v, r) => return .ok (!v, r)
        else if isUnary a then return .ok (← holds a o, [])
        else if isBinary o then return .error (o ++ ": argument expected".toList)
        else return .ok (!a.isEmpty, [o])

end

/-- Whether the arguments of `test` hold, or why they make no sense. -/
def evaluate (arguments : List Octets) : Run (Except Octets Bool) := do
  match arguments with
  | [] => return .ok false
  | [a] => return .ok (!a.isEmpty)
  | _ =>
    andThen (anyOf (8 * arguments.length + 8) arguments) fun (v, rest) => do
      match rest with
      | [] => return .ok v
      | a :: _ =>
        let culprit := if isUnary a || isBinary a then a else arguments.head?.getD a
        return .error (culprit ++ ": unexpected operator".toList)

end Condition

end Shell

end NotebookEngine
