import NotebookEngine.Host.Octets

/-!
# Commands of the shell

The commands that a script is made of, and the words in them. A word is a sequence of pieces; a piece
stands for itself, or for what a parameter, the output of commands or a calculation will be.
-/

namespace NotebookEngine

namespace Shell

open Host (Octets)

/-- What stands in for a parameter. -/
inductive Fallback where
  /-- Another word in place of a missing value. -/
  | otherwise
  /-- Another word in place of a missing value, which the parameter then gets. -/
  | assigning
  /-- The end of the shell if the value is missing. -/
  | failing
  /-- Another word unless the value is missing. -/
  | instead
deriving DecidableEq, Repr

/-- What a redirection does with a file. -/
inductive Direction where
  | input
  | output
  | append
deriving DecidableEq, Repr

mutual

/-- A piece of a word. -/
inductive Piece where
  /-- Characters as they stand. -/
  | plain (s : Octets)
  /-- Characters that have lost any meaning of their own. -/
  | quoted (s : Octets)
  | parameter (name : Octets) (use : Use) (inQuotes : Bool)
  /-- What commands write. -/
  | output (body : List Command) (inQuotes : Bool)
  | calculation (expression : List Piece) (inQuotes : Bool)
  /-- The home directory. -/
  | home
  /-- A parameter whose use makes no sense. -/
  | meaningless

/-- What is made of a parameter. -/
inductive Use where
  | value
  | length
  /-- A word for a missing value; with `orEmpty` an empty one counts as missing. -/
  | fallback (kind : Fallback) (orEmpty : Bool) (word : List Piece)
  /-- The value without the part at its beginning or its end that matches. -/
  | trim (atEnd longest : Bool) (pattern : List Piece)

/-- A redirection of a numbered file. -/
inductive Redirection where
  | file (number : Nat) (direction : Direction) (target : List Piece)
  /-- The number leads where another does, or nowhere. -/
  | copy (number : Nat) (target : List Piece)
  | document (number : Nat) (content : List Piece)

/-- A command. -/
inductive Command where
  /-- Assignments, words and redirections, with the line they stand in. -/
  | simple (line : Nat) (assignments : List (Octets × List Piece)) (words : List (List Piece))
      (redirections : List Redirection)
  | redirected (body : Command) (line : Nat) (redirections : List Redirection)
  | group (body : List Command)
  | subshell (body : List Command)
  | choice (test yes no : List Command)
  /-- Repetition while the test succeeds, or until it does. -/
  | loop (untilSuccess : Bool) (test body : List Command)
  /-- Repetition for every word, or for every argument. -/
  | iterate (name : Octets) (words : Option (List (List Piece))) (body : List Command)
  | select (subject : List Piece) (arms : List (List (List Piece) × List Command))
  | define (name : Octets) (body : Command)
  | pipeline (stages : List Command)
  | negated (body : Command)
  | both (first second : Command)
  | either (first second : Command)
  | background (body : Command)

end

/-- A word of a script. -/
abbrev Word := List Piece

/-- The parts of a `case` command. -/
abbrev Arm := List Word × List Command

/-- The piece has been in quotes, at least in part. -/
def Piece.isQuoted : Piece → Bool
  | .quoted _ => true
  | .parameter _ _ inQuotes | .output _ inQuotes | .calculation _ inQuotes => inQuotes
  | _ => false

/-- The characters of a word that holds nothing but plain ones. -/
def plainText? : Word → Option Octets
  | [] => some []
  | .plain s :: w => (plainText? w).map (s ++ ·)
  | _ :: _ => none

end Shell

end NotebookEngine
