import NotebookEngine.Json.Scan

/-!
# Typed readers

A `Reader` reads values of one type in two ways: from a text as it arrives (`scan`), where the
first problem in the order of the text is the one reported, and from a value already read
(`take`). Readers are put together from texts, words, options, lists, choices between names, and
records.

A record is read from an object, with unknown members passed over and no known one twice, or from
a list of its fields in order. Its fields fill a draft; closing the draft supplies what may be
left out and names what may not.
-/

namespace NotebookEngine

namespace Json

/-- How surplus elements of a list are worded. -/
structure Manner where
  surplus : (wanted : Nat) → Text

/-- A reader of values of a type. -/
structure Reader (α : Type) where
  /-- The reading of a text; so many more brackets may open within each other. -/
  scan : (depth : Nat) → Scan α
  /-- The reading of a value. -/
  take : Manner → Value → Except Misfit α

/-- The stop at a value of another type than the one wanted, which is read as far as it takes to
name it. -/
def misplaced (wanted : Text) (s : Text) : Stop :=
  let wrong (found : Found) (rest : Text) : Stop := misfitAt (.wrongType found wanted) rest
  let word (w : Text) (found : Found) (r : Text) : Stop :=
    match scanWord w r with
    | .ok rest => wrong found rest
    | .error e => e
  let number (positive : Bool) (r : Text) : Stop :=
    match scanNumber positive r with
    | .ok (n, rest) => wrong n.found rest
    | .error e => e
  match s with
  | 'n' :: r => word ['u', 'l', 'l'] .null r
  | 't' :: r => word ['r', 'u', 'e'] (.boolean true) r
  | 'f' :: r => word ['a', 'l', 's', 'e'] (.boolean false) r
  | '-' :: r => number false r
  | '"' :: r =>
    match scanString r with
    | .ok (t, rest) => wrong (.text t) rest
    | .error e => e
  | '[' :: _ => wrong .sequence s
  | '\x7b' :: _ => wrong .map s
  | c :: _ => if c.isDigit then number true s else stopPast .valueExpected s
  | [] => stopPast .valueExpected []

/-- The reader with another function on its values. -/
def Reader.map {α β : Type} (f : α → β) (r : Reader α) : Reader β where
  scan depth s := (r.scan depth s).map fun p => (f p.1, p.2)
  take m v := (r.take m v).map f

/-- Any value. -/
def Reader.value : Reader Value where
  scan := scanValue
  take _ v := .ok v

/-- A text, under the name that an error gives the type. -/
def Reader.text (wanted : Text) : Reader Text where
  scan _ s :=
    match skipGap s with
    | [] => .error (stopPast .endInValue [])
    | '"' :: r => scanString r
    | s => .error (misplaced wanted s)
  take _ v :=
    match v with
    | .text s => .ok s
    | v => .error (.wrongType v.found wanted)

/-- A number as an unsigned integer of so many bits. -/
def wordOf (bits : Nat) (n : Number) : Except Misfit Nat :=
  let wanted := 'u' :: Text.ofNat bits
  match n with
  | .whole n =>
    if 0 ≤ n && n < Nat.pow 2 bits then .ok n.toNat else .error (.wrongValue (.integer n) wanted)
  | n => .error (.wrongType n.found wanted)

/-- An unsigned integer of so many bits. -/
def Reader.word (bits : Nat) : Reader Nat where
  scan _ s :=
    let finish (read : Except Stop (Number × Text)) : Except Stop (Nat × Text) :=
      match read with
      | .error e => .error e
      | .ok (n, rest) =>
        match wordOf bits n with
        | .ok n => .ok (n, rest)
        | .error m => .error (misfitAt m rest)
    match skipGap s with
    | [] => .error (stopPast .endInValue [])
    | '-' :: r => finish (scanNumber false r)
    | c :: r =>
      if c.isDigit then finish (scanNumber true (c :: r))
      else .error (misplaced ('u' :: Text.ofNat bits) (c :: r))
  take _ v :=
    match v with
    | .number n => wordOf bits n
    | v => .error (.wrongType v.found ('u' :: Text.ofNat bits))

/-- The null value. -/
def Reader.unit : Reader Unit where
  scan _ s :=
    match skipGap s with
    | [] => .error (stopPast .endInValue [])
    | 'n' :: r => (scanWord ['u', 'l', 'l'] r).map fun rest => ((), rest)
    | s => .error (misplaced "unit".toList s)
  take _ v :=
    match v with
    | .null => .ok ()
    | v => .error (.wrongType v.found "unit".toList)

/-- Null for nothing, or a value. -/
def Reader.optional {α : Type} (r : Reader α) : Reader (Option α) where
  scan depth s :=
    match skipGap s with
    | 'n' :: rest => (scanWord ['u', 'l', 'l'] rest).map fun rest => (none, rest)
    | s => (r.scan depth s).map fun p => (some p.1, p.2)
  take m v :=
    match v with
    | .null => .ok none
    | v => (r.take m v).map some

/-- A list of values. -/
def Reader.list {α : Type} (r : Reader α) : Reader (List α) where
  scan depth s :=
    match skipGap s with
    | [] => .error (stopPast .endInValue [])
    | '[' :: rest =>
      match depth with
      | 0 => .error (stopPast .tooDeep ('[' :: rest))
      | depth + 1 => scanElements (r.scan depth) (rest.length + 1) true [] rest
    | s => .error (misplaced "a sequence".toList s)
  take m v :=
    match v with
    | .list vs => vs.mapM (r.take m)
    | v => .error (.wrongType v.found "a sequence".toList)

/-! ### Choices between names -/

/-- The value that a name stands for. -/
def named {α : Type} (choices : List (Text × α)) (name : Text) : Except Misfit α :=
  match choices.find? fun c => c.1 = name with
  | some c => .ok c.2
  | none => .error (.unknownVariant name (choices.map Prod.fst))

/-- A name of a choice. -/
def scanName {α : Type} (choices : List (Text × α)) : Scan α := fun s =>
  match skipGap s with
  | [] => .error (stopPast .endInValue [])
  | '"' :: r =>
    match scanString r with
    | .error e => .error e
    | .ok (name, rest) =>
      match named choices name with
      | .ok a => .ok (a, rest)
      | .error m => .error (misfitAt m rest)
  | s => .error (misplaced "variant identifier".toList s)

/-- One of several values, each by its name, or by an object whose only member has that name and
is null. -/
def Reader.choice {α : Type} (choices : List (Text × α)) : Reader α where
  scan depth s :=
    match skipGap s with
    | [] => .error (stopPast .endInValue [])
    | '"' :: r => scanName choices ('"' :: r)
    | '\x7b' :: r =>
      match depth with
      | 0 => .error (stopPast .tooDeep ('\x7b' :: r))
      | depth + 1 =>
        match scanName choices r with
        | .error e => .error e
        | .ok (a, rest) =>
          match scanColon rest >>= Reader.unit.scan depth with
          | .error e => .error e
          | .ok ((), rest) =>
            match skipGap rest with
            | [] => .error (stopAt .endInObject [])
            | '\x7d' :: rest => .ok (a, rest)
            | rest => .error (stopAt .valueExpected rest)
    | s => .error (stopPast .valueExpected s)
  take m v :=
    match v with
    | .text name => named choices name
    | .object [(name, v)] =>
      match named choices name with
      | .ok a => (Reader.unit.take m v).map fun _ => a
      | .error e => .error e
    | .object _ => .error (.wrongValue .map "map with a single key".toList)
    | v => .error (.wrongType v.found "string or map".toList)

/-! ### Records -/

/-- A field of a record whose draft has type `σ`. -/
structure Field (σ : Type) where
  name : Text
  /-- The field may not be left out. -/
  required : Bool
  /-- The draft has the field already. -/
  filled : σ → Bool
  /-- The reading of the field, as what it does to the draft. -/
  read : Reader (σ → σ)

/-- A record type by its fields in order. -/
structure Record (σ α : Type) where
  /-- The name that an error gives the type. -/
  title : Text
  fields : List (Field σ)
  empty : σ
  /-- The record of a draft, or the field it lacks. -/
  close : σ → Except Misfit α

/-- The name of a record type with the number of its fields. -/
def Record.counted {σ α : Type} (r : Record σ α) : Text :=
  r.title ++ " with ".toList ++ Text.ofNat r.fields.length
    ++ (if r.fields.length = 1 then " element".toList else " elements".toList)

/-- A list that ends before the field at a place is too short if a required field follows. -/
def Record.shortAt {σ α : Type} (r : Record σ α) (index : Nat) (left : List (Field σ)) :
    Option Misfit :=
  (left.findIdx? Field.required).map fun k => .wrongLength (index + k) r.counted

/-- A value for a field that must not be left out. -/
def need {α : Type} (name : String) : Option α → Except Misfit α
  | some a => .ok a
  | none => .error (.missingField name.toList)

/-- The fields of a record from the elements of a list. -/
def Record.scanFields {σ α : Type} (r : Record σ α) (depth : Nat) :
    (fields : List (Field σ)) → (index : Nat) → σ → Scan σ
  | [], _, draft, s => .ok (draft, s)
  | f :: fs, index, draft, s =>
    match nextElement? (index = 0) s with
    | .error e => .error e
    | .ok none =>
      match r.shortAt index (f :: fs) with
      | some m => .error (misfitAt m ((skipGap s).drop 1))
      | none => .ok (draft, s)
    | .ok (some s) =>
      match f.read.scan depth s with
      | .error e => .error e
      | .ok (set, rest) => Record.scanFields r depth fs (index + 1) (set draft) rest

/-- The fields of a record from the members of an object, up to the closing brace. -/
def Record.scanNamed {σ α : Type} (r : Record σ α) (depth : Nat) :
    (fuel : Nat) → (first : Bool) → σ → Scan σ
  | 0, _, _, s => .error (stopPast .endInObject s)
  | fuel + 1, first, draft, s =>
    match nextKey? first s with
    | .error e => .error e
    | .ok none => .ok (draft, s)
    | .ok (some (name, rest)) =>
      match r.fields.find? fun f => f.name = name with
      | none =>
        match scanColon rest >>= skipValue with
        | .error e => .error e
        | .ok rest => Record.scanNamed r depth fuel false draft rest
      | some f =>
        if f.filled draft then .error (misfitAt (.duplicateField name) (skipGap rest))
        else
          match scanColon rest >>= f.read.scan depth with
          | .error e => .error e
          | .ok (set, rest) => Record.scanNamed r depth fuel false (set draft) rest

theorem Record.scanNamed_end {σ α : Type} {r : Record σ α} {depth fuel : Nat} {first : Bool} {draft : σ}
    {s : Text} (ends : nextKey? first s = .ok none) :
  r.scanNamed depth (fuel + 1) first draft s = .ok (draft, s)
  := by
  rw [Record.scanNamed, ends]

/-- The fields of a record from the values of a list. -/
def Record.takeFields {σ α : Type} (r : Record σ α) (m : Manner) :
    (fields : List (Field σ)) → (index : Nat) → σ → List Value → Except Misfit (σ × List Value)
  | [], _, draft, vs => .ok (draft, vs)
  | f :: fs, index, draft, [] =>
    match r.shortAt index (f :: fs) with
    | some e => .error e
    | none => .ok (draft, [])
  | f :: fs, index, draft, v :: vs =>
    match f.read.take m v with
    | .error e => .error e
    | .ok set => Record.takeFields r m fs (index + 1) (set draft) vs

/-- The fields of a record from the members of an object. -/
def Record.takeNamed {σ α : Type} (r : Record σ α) (m : Manner) : σ → List Member → Except Misfit σ
  | draft, [] => .ok draft
  | draft, (name, v) :: ms =>
    match r.fields.find? fun f => f.name = name with
    | none => Record.takeNamed r m draft ms
    | some f =>
      if f.filled draft then .error (.duplicateField name)
      else
        match f.read.take m v with
        | .error e => .error e
        | .ok set => Record.takeNamed r m (set draft) ms

/-- A record from a list or an object. -/
def Record.take {σ α : Type} (r : Record σ α) (m : Manner) (v : Value) : Except Misfit α :=
  match v with
  | .list vs =>
    match r.takeFields m r.fields 0 r.empty vs with
    | .error e => .error e
    | .ok (draft, left) =>
      match r.close draft with
      | .error e => .error e
      | .ok a =>
        if left.isEmpty then .ok a
        else .error (.wrongLength vs.length (m.surplus r.fields.length))
  | .object ms => r.takeNamed m r.empty ms >>= r.close
  | v => .error (.wrongType v.found r.title)

/-- The reader of a record. -/
def Record.reader {σ α : Type} (r : Record σ α) : Reader α where
  scan depth s :=
    match skipGap s with
    | [] => .error (stopPast .endInValue [])
    | '[' :: rest =>
      match depth with
      | 0 => .error (stopPast .tooDeep ('[' :: rest))
      | depth + 1 =>
        match r.scanFields depth r.fields 0 r.empty rest with
        | .error e => .error e
        | .ok (draft, rest) =>
          match endList rest, r.close draft with
          | .ok rest, .ok a => .ok (a, rest)
          | .ok rest, .error m => .error (misfitAt m rest)
          | .error e, _ => .error e
    | '\x7b' :: rest =>
      match depth with
      | 0 => .error (stopPast .tooDeep ('\x7b' :: rest))
      | depth + 1 =>
        match r.scanNamed depth (rest.length + 1) true r.empty rest with
        | .error e => .error e
        | .ok (draft, rest) =>
          match endObject rest, r.close draft with
          | .ok rest, .ok a => .ok (a, rest)
          | .ok rest, .error m => .error (misfitAt m rest)
          | .error e, _ => .error e
    | s => .error (misplaced r.title s)
  take := r.take

/-! ### Whole texts -/

/-- Elements may nest to this depth. -/
def maxDepth : Nat :=
  127

/-- Lists of values may have fewer elements than a record has fields, never more. -/
def Manner.array : Manner :=
  ⟨fun _ => "fewer elements in array".toList⟩

/-- As `array`, where an error names the number of fields. -/
def Manner.sequence : Manner :=
  ⟨fun n => Text.ofNat n
    ++ (if n = 1 then " element in sequence".toList else " elements in sequence".toList)⟩

/-- The fault of a stop within a text. -/
def Stop.fault (whole : Text) (s : Stop) : Fault :=
  ⟨s.cause, s.unread.map fun n => Place.after whole (octets whole - n)⟩

/-- A text holds one value and nothing after it. -/
def Reader.read {α : Type} (r : Reader α) (s : Text) : Except Fault α :=
  match r.scan maxDepth s with
  | .error e => .error (e.fault s)
  | .ok (a, rest) =>
    match skipGap rest with
    | [] => .ok a
    | rest => .error ((stopPast .trailingText rest).fault s)

/-- The typed reading of a value, its members by name. -/
def Reader.fit {α : Type} (r : Reader α) (v : Value) : Except Fault α :=
  match r.take .array v.sorted with
  | .ok a => .ok a
  | .error m => .error ⟨.misfit m, none⟩

end Json

end NotebookEngine
