import NotebookEngine.Programs.Basic

/-!
# Programs on files and directories

Programs that list directories, make, remove, copy, rename and mark files.
-/

namespace NotebookEngine

namespace Programs

open Host (Octets Act Request)

/-- Something is done with each operand; what is refused is complained of. -/
def forOperands (program : String) (operands : List Octets) (wording : Octets → Octets)
    (act : Octets → Act (Except Host.Fault Unit)) : Act Nat := do
  if operands.isEmpty then
    complain program "missing operand".toList
    Act.write 2 ("Try '".toList ++ program.toList ++ " --help' for more information.\n".toList)
    return 1
  let mut ok := true
  for a in operands do
    match ← act a with
    | .ok _ => pure ()
    | .error f =>
      complain program (wording a ++ ": ".toList ++ f.words)
      ok := false
  return codeOf ok

/-- A path within a directory. -/
def within (directory name : Octets) : Octets :=
  if Text.endsWith directory ['/'] then directory ++ name else directory ++ '/' :: name

/-- The last name of a path. -/
def lastName (path : Octets) : Octets :=
  let p := Host.Files.withoutEndSlashes path
  if p = ['/'] then p else (Text.afterLast? ['/'] p).getD p

/-! ### Listing -/

/-- The names of a directory that are shown. -/
def shown (o : Options) (names : List Octets) : List Octets :=
  let listed := if o.has 'a' then [['.'], ['.', '.']] ++ names else names
  let visible := listed.filter fun n => o.has 'a' || o.has 'A' || n.head? ≠ some '.'
  let sorted := Octets.sort visible
  if o.has 'r' then sorted.reverse else sorted

/-- Lists directories and files. -/
def ls : Utility := fun arguments => do
  let o := Options.ofArguments "aA1dlrCFhtRp" "" arguments
  understanding "ls" o do
    let operands := if o.operands.isEmpty then [['.']] else Octets.sort o.operands
    let mut files : List Octets := []
    let mut directories : List (Octets × List Octets) := []
    let mut ok := true
    for a in operands do
      match ← Act.ask (.inspect a) with
      | .error f =>
        complain "ls" ("cannot access ".toList ++ quoted a ++ ": ".toList ++ f.words)
        ok := false
      | .ok .directory =>
        if o.has 'd' then files := files ++ [a]
        else match ← Act.ask (.list a) with
          | .ok names => directories := directories ++ [(a, names)]
          | .error _ => ok := false
      | .ok _ => files := files ++ [a]
    for a in files do
      putLine a
    let titled := 1 < operands.length
    let mut isFirst := files.isEmpty
    for (a, names) in directories do
      if titled then put ((if isFirst then [] else ['\n']) ++ a ++ ":\n".toList)
      for n in shown o names do
        putLine n
      isFirst := false
    return if ok then 0 else 2

/-! ### Making and removing -/

/-- Makes directories. -/
def mkdir : Utility := fun arguments => do
  let o := Options.ofArguments "pv" "m" arguments
  understanding "mkdir" o do
    forOperands "mkdir" o.operands (fun a => "cannot create directory ".toList ++ quoted a)
      fun a => do
        if o.has 'p' then
          let ancestors := (List.range a.length).filterMap fun i =>
            if 0 < i && a[i]? = some '/' then some (a.take i) else none
          for p in ancestors do
            let _ ← Act.ask (.makeDirectory p)
          match ← Act.ask (.makeDirectory a) with
          | .error .exists =>
            match ← Act.ask (.inspect a) with
            | .ok .directory => return .ok ()
            | _ => return .error .exists
          | r => return r
        Act.ask (.makeDirectory a)

/-- Removes empty directories. -/
def rmdir : Utility := fun arguments => do
  let o := Options.ofArguments "pv" "" arguments
  understanding "rmdir" o do
    forOperands "rmdir" o.operands (fun a => "failed to remove ".toList ++ quoted a) fun a =>
      Act.ask (.removeDirectory a)

/-- A path is removed with all below it, so many levels deep at most. -/
def removeTree : (depth : Nat) → (path : Octets) → Act (Except Host.Fault Unit)
  | 0, _ => return .error .nameTooLong
  | n + 1, path => do
    match ← Act.ask (.inspect path) with
    | .ok .directory =>
      match ← Act.ask (.list path) with
      | .ok names =>
        for name in names do
          let _ ← removeTree n (within path name)
        Act.ask (.removeDirectory path)
      | .error f => return .error f
    | .ok _ => Act.ask (.remove path)
    | .error f => return .error f

/-- Removes files, and directories if asked to. -/
def rm : Utility := fun arguments => do
  let o := Options.ofArguments "frRivd" "" arguments
  understanding "rm" o do
    if o.operands.isEmpty && o.has 'f' then return 0
    forOperands "rm" o.operands (fun a => "cannot remove ".toList ++ quoted a) fun a => do
      let r ← if o.has 'r' || o.has 'R' then removeTree 100 a else Act.ask (.remove a)
      match r with
      | .error .notFound => return if o.has 'f' then .ok () else .error .notFound
      | r => return r

/-- Removes one file. -/
def unlink : Utility := fun arguments =>
  forOperands "unlink" arguments (fun a => "cannot unlink ".toList ++ quoted a) fun a =>
    Act.ask (.remove a)

/-- Makes files that are missing. -/
def touch : Utility := fun arguments => do
  let o := Options.ofArguments "acm" "dtr" arguments
  understanding "touch" o do
    forOperands "touch" o.operands (fun a => "cannot touch ".toList ++ quoted a) fun a => do
      match ← Act.ask (.inspect a) with
      | .ok _ => return .ok ()
      | .error f =>
        if o.has 'c' then return .ok ()
        if f ≠ .notFound then return .error f
        match ← Act.ask (.openFile a .appending) with
        | .ok file =>
          let _ ← Act.ask (.close file)
          return .ok ()
        | .error f => return .error f

/-! ### Modes -/

/-- The bits of a mode that letters of a class name: user, group, others. -/
def classBits (who : List Char) (bits : Nat) : Nat :=
  let every := who.isEmpty || who.contains 'a'
  (if every || who.contains 'u' then bits * 64 else 0)
    + (if every || who.contains 'g' then bits * 8 else 0)
    + (if every || who.contains 'o' then bits else 0)

/-- A mode after one clause such as `u+x`. -/
def clause? (clause : Octets) (mode : Nat) : Option Nat :=
  let who := clause.takeWhile "ugoa".toList.contains
  match clause.drop who.length with
  | sign :: letters =>
    let bit (c : Char) : Option Nat := match c with
      | 'r' => some 4
      | 'w' => some 2
      | 'x' | 'X' => some 1
      | _ => none
    match letters.mapM bit with
    | none => none
    | some bits =>
      let named := classBits who (bits.foldl (· ||| ·) 0)
      match sign with
      | '+' => some (mode ||| named)
      | '-' => some (mode - (mode &&& named))
      | '=' => some ((mode - (mode &&& classBits who 7)) ||| named)
      | _ => none
  | [] => none

/-- The mode that a word makes of a mode. -/
def modeOf? (word : Octets) (mode : Nat) : Option Nat :=
  if !word.isEmpty && word.all fun c => '0' ≤ c && c ≤ '7' then
    some (word.foldl (fun n c => n * 8 + (c.toNat - '0'.toNat)) 0)
  else (Text.pieces ',' word).foldlM (fun mode clause => clause? clause mode) mode

/-- Changes the modes of files. -/
def chmod : Utility := fun arguments => do
  let (word, operands) :=
    match arguments with
    | ['-', 'R'] :: w :: as | ['-', 'f'] :: w :: as | w :: as => (w, as)
    | [] => ([], [])
  if (modeOf? word 0).isNone && !word.isEmpty then
    complain "chmod" ("invalid mode: ".toList ++ quoted word)
    return 1
  forOperands "chmod" operands (fun a => "cannot access ".toList ++ quoted a) fun a => do
    match ← Act.ask (.inspect a) with
    | .ok (.file mode _) => Act.ask (.changeMode a ((modeOf? word mode).getD mode))
    | .ok _ => return .ok ()
    | .error f => return .error f

/-! ### Copying and renaming -/

/-- The path at which something lies that is put at a path, or into the directory there. -/
def destination (source target : Octets) : Act Octets := do
  match ← Act.ask (.inspect target) with
  | .ok .directory => return within target (lastName source)
  | _ => return target

/-- A path is copied, with all below it if asked to, so many levels deep at most. -/
def copyTree (deep : Bool) : (depth : Nat) → (source target : Octets) →
    Act (Except Host.Fault Unit)
  | 0, _, _ => return .error .nameTooLong
  | n + 1, source, target => do
    match ← Act.ask (.inspect source) with
    | .ok .directory =>
      if !deep then return .error .isDirectory
      let _ ← Act.ask (.makeDirectory target)
      match ← Act.ask (.list source) with
      | .ok names =>
        for name in names do
          let _ ← copyTree deep n (within source name) (within target name)
        return .ok ()
      | .error f => return .error f
    | .ok node =>
      match ← readFile source with
      | .error f => return .error f
      | .ok s =>
        match ← Act.ask (.openFile target .writing) with
        | .error f => return .error f
        | .ok file =>
          Act.write file s
          let _ ← Act.ask (.close file)
          match node with
          | .file mode _ => Act.ask (.changeMode target mode)
          | _ => return .ok ()
    | .error f => return .error f

/-- Copies files. -/
def cp : Utility := fun arguments => do
  let o := Options.ofArguments "rRpaf" "" arguments
  understanding "cp" o do
    let target := o.operands.getLast?.getD []
    forOperands "cp" o.operands.dropLast (fun a => "cannot stat ".toList ++ quoted a) fun a => do
      copyTree (o.has 'r' || o.has 'R' || o.has 'a') 100 a (← destination a target)

/-- Renames files. -/
def mv : Utility := fun arguments => do
  let o := Options.ofArguments "fn" "" arguments
  understanding "mv" o do
    let target := o.operands.getLast?.getD []
    forOperands "mv" o.operands.dropLast (fun a => "cannot stat ".toList ++ quoted a) fun a => do
      Act.ask (.rename a (← destination a target))

/-! ### Names -/

/-- Writes the last name of a path. -/
def basename : Utility := fun arguments => do
  match arguments with
  | [] =>
    complain "basename" "missing operand".toList
    return 1
  | path :: rest =>
    let name := lastName path
    let name := match rest with
      | [] => name
      | suffix :: _ =>
        if name = suffix then name else (Text.stripSuffix? suffix name).getD name
    putLine name
    return 0

/-- Writes the path of what a path lies in. -/
def dirname : Utility := fun arguments => do
  for path in arguments do
    let p := Host.Files.withoutEndSlashes path
    let name := lastName p
    let up := p.take (p.length - name.length)
    putLine <|
      if up.isEmpty then (if p = ['/'] then ['/'] else ['.'])
      else Host.Files.withoutEndSlashes up
  return codeOf !arguments.isEmpty

end Programs

end NotebookEngine
