import NotebookEngine.Host.Fault
import NotebookEngine.Host.Octets

/-!
# Reading a stream to its end

A stream is read until it ends, no more than `readSize` octets at a time. How many come at once is
up to the host, and may cut a character in two (`Cutting`). What has come is kept as it is
(`capture`), and becomes text only at the end.
-/

namespace NotebookEngine

namespace Host

/-- How many octets are asked for at a time. -/
def readSize : Nat :=
  8192

/-- How streams come: in which reads, none of them empty or too long, and all of the stream. -/
structure Cutting where
  reads : Octets → List Octets
  bounded : ∀ stream, ∀ read ∈ reads stream, read ≠ [] ∧ read.length ≤ readSize
  whole : ∀ stream, (reads stream).flatten = stream

/-- The answers to the reads of a stream. An empty one tells that the stream is over. -/
def Cutting.answers (cutting : Cutting) (stream : Octets) : List (Except Fault Octets) :=
  (cutting.reads stream).map .ok ++ [.ok []]

/-- What is kept of a stream after further answers: all until it is over or cannot be read. -/
def capture (kept : Octets) : List (Except Fault Octets) → Octets
  | [] => kept
  | .error _ :: _ => kept
  | .ok read :: answers => if read.isEmpty then kept else capture (kept ++ read) answers

/-- Reads that take as much as they may, at most so many. -/
def fullReads : Nat → Octets → List Octets
  | 0, _ => []
  | fuel + 1, stream =>
    if stream.isEmpty then []
    else stream.take readSize :: fullReads fuel (stream.drop readSize)

/-- No read is empty or too long. -/
theorem fullReads_bounded {fuel : Nat} {stream read : Octets}
    (among : read ∈ fullReads fuel stream) :
  read ≠ [] ∧ read.length ≤ readSize
  := by
  induction fuel generalizing stream with
  | zero => cases among
  | succ fuel ih =>
      rw [fullReads] at among
      split at among
      case isTrue => cases among
      case isFalse more =>
        rcases List.mem_cons.mp among with rfl | later
        · refine ⟨?_, List.length_take_le _ _⟩
          simpa [readSize] using more
        · exact ih later

/-- With a read for each octet there are enough. -/
theorem flatten_fullReads {fuel : Nat} {stream : Octets} (enough : stream.length ≤ fuel) :
  (fullReads fuel stream).flatten = stream
  := by
  induction fuel generalizing stream with
  | zero => simpa [fullReads, eq_comm] using enough
  | succ fuel ih =>
      rw [fullReads]
      split
      case isTrue done => exact (List.isEmpty_iff.mp done).symm
      case isFalse more =>
        rw [List.flatten_cons, ih, List.take_append_drop]
        rw [List.length_drop, readSize]
        omega

/-- Each read takes as much as it may. -/
def Cutting.full : Cutting where
  reads stream := fullReads stream.length stream
  bounded _ _ := fullReads_bounded
  whole _ := flatten_fullReads (Nat.le_refl _)

end Host

end NotebookEngine
