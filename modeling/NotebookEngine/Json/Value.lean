import NotebookEngine.Json.Decimal
import NotebookEngine.Json.Fault

/-!
# JSON values

The value of a JSON text, with the members of an object in the order of the text. `sorted` puts
members in the order of their names and keeps the last of those with one name, so that the order
of a text no longer shows.
-/

namespace NotebookEngine

namespace Json

/-- A number is an integer of 64 bits, signed or not, or a double, kept by its bits. -/
inductive Number where
  | whole (n : Int)
  | double (bits : UInt64)
deriving DecidableEq, Repr

/-- A JSON value. -/
inductive Value where
  | null
  | boolean (b : Bool)
  | number (n : Number)
  | text (s : Text)
  | list (vs : List Value)
  | object (ms : List (Text × Value))
deriving Repr

/-- A member of an object. -/
abbrev Member := Text × Value

/-- How a number is named when another type is wanted. -/
def Number.found : Number → Found
  | .whole n => .integer n
  | .double b => .floating (renderDouble b)

/-- How a value is named when another type is wanted. -/
def Value.found : Value → Found
  | .null => .null
  | .boolean b => .boolean b
  | .number n => n.found
  | .text s => .text s
  | .list _ => .sequence
  | .object _ => .map

/-- The order of names, by code points. -/
def nameLt : Text → Text → Bool
  | _, [] => false
  | [], _ :: _ => true
  | a :: s, b :: t => a < b || (a = b && nameLt s t)

/-- A member takes its place by name, and replaces one of the same name. -/
def insertMember (m : Member) : List Member → List Member
  | [] => [m]
  | n :: ms =>
    if m.1 = n.1 then m :: ms
    else if nameLt m.1 n.1 then m :: n :: ms
    else n :: insertMember m ms

/-- The members by name, the last of each name only. -/
def sortMembers (ms : List Member) : List Member :=
  ms.foldl (fun sorted m => insertMember m sorted) []

mutual

/-- The value with the members of all its objects sorted. -/
def Value.sorted : Value → Value
  | .list vs => .list (Value.sortedList vs)
  | .object ms => .object (sortMembers (Value.sortedMembers ms))
  | v => v

/-- The values, each sorted. -/
def Value.sortedList : List Value → List Value
  | [] => []
  | v :: vs => v.sorted :: Value.sortedList vs

/-- The members, each with its value sorted. -/
def Value.sortedMembers : List (Text × Value) → List (Text × Value)
  | [] => []
  | (name, v) :: ms => (name, v.sorted) :: Value.sortedMembers ms

end

/-- The value of the member of a name; of several the last. -/
def Value.member? (name : Text) : Value → Option Value
  | .object ms => (ms.reverse.find? fun m => m.1 = name).map Prod.snd
  | _ => none

/-- The text a value holds. -/
def Value.text? : Value → Option Text
  | .text s => some s
  | _ => none

end Json

end NotebookEngine
