import NotebookEngine.Text.Basic

/-!
# Faults of the host

Why an operation on files or processes was refused. Most faults have the number and the wording
of the system; a few arise before the system is asked.
-/

namespace NotebookEngine

namespace Host

/-- The cause of a refusal by the host. -/
inductive Fault where
  | notFound
  | argumentsTooLong
  | badExecutable
  | badDescriptor
  | accessDenied
  | exists
  | notDirectory
  | isDirectory
  | nameTooLong
  | notEmpty
  | brokenPipe
  | invalidArgument
  /-- A file read as text is not UTF-8. -/
  | notUtf8
  /-- A path holds a null character. -/
  | nullInPath
  /-- A command holds a null character. -/
  | nullInCommand
deriving DecidableEq, Repr

namespace Fault

/-- The number of a fault of the system. -/
def number? : Fault → Option Nat
  | .notFound => some 2
  | .argumentsTooLong => some 7
  | .badExecutable => some 8
  | .badDescriptor => some 9
  | .accessDenied => some 13
  | .exists => some 17
  | .notDirectory => some 20
  | .isDirectory => some 21
  | .nameTooLong => some 36
  | .notEmpty => some 39
  | .brokenPipe => some 32
  | .invalidArgument => some 22
  | .notUtf8 | .nullInPath | .nullInCommand => none

/-- The wording of a fault without its number. -/
def words : Fault → Text
  | .notFound => "No such file or directory".toList
  | .argumentsTooLong => "Argument list too long".toList
  | .badExecutable => "Exec format error".toList
  | .badDescriptor => "Bad file descriptor".toList
  | .accessDenied => "Permission denied".toList
  | .exists => "File exists".toList
  | .notDirectory => "Not a directory".toList
  | .isDirectory => "Is a directory".toList
  | .nameTooLong => "File name too long".toList
  | .notEmpty => "Directory not empty".toList
  | .brokenPipe => "Broken pipe".toList
  | .invalidArgument => "Invalid argument".toList
  | .notUtf8 => "stream did not contain valid UTF-8".toList
  | .nullInPath => "file name contained an unexpected NUL byte".toList
  | .nullInCommand => "nul byte found in provided data".toList

/-- The wording of a fault, with its number if it has one. -/
def message (f : Fault) : Text :=
  match f.number? with
  | some n => f.words ++ " (os error ".toList ++ Text.ofNat n ++ [')']
  | none => f.words

end Fault

end Host

end NotebookEngine
