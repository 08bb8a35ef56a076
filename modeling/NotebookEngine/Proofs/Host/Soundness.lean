import NotebookEngine.Host.Bounded
import NotebookEngine.Proofs.Host.Clock
import NotebookEngine.Proofs.Host.Paths

/-!
# Sound files

In sound files no two entries lead to the same node, and none to a node that is yet to be
(`Files.Sound`). Every operation on files keeps them sound, and so does whatever a machine does
(`Machine.GoesOn.sound`, `Machine.runBounded_sound`).
-/

namespace NotebookEngine

namespace Host

namespace Files

variable {f g : Files} {here : Path} {path content : Octets} {mode : Nat}

/-! ### Sound files -/

/-- No two entries lead to the same node, and none to a node that is yet to be. -/
structure Sound (f : Files) : Prop where
  numbered : ∀ e ∈ f.entries, e.2 < f.nodes.size
  unshared : (f.entries.map Prod.snd).Nodup

instance : Decidable f.Sound :=
  decidable_of_iff ((∀ e ∈ f.entries, e.2 < f.nodes.size) ∧ (f.entries.map Prod.snd).Nodup)
    ⟨fun ⟨numbered, unshared⟩ => ⟨numbered, unshared⟩,
      fun sound => ⟨sound.numbered, sound.unshared⟩⟩

namespace Sound

theorem empty :
  Sound {}
  := ⟨nofun, List.nodup_nil⟩

theorem drop (sound : f.Sound) (p : Path) :
  (f.drop p).Sound
  := by
  constructor
  · intro e stays
    apply sound.numbered e (List.mem_of_mem_filter stays)
  · apply sound.unshared.sublist (List.filter_sublist.map _)

theorem put (sound : f.Sound) (p : Path) (n : Node) :
  (f.put p n).Sound
  := by
  have numbered : ∀ e ∈ f.entries.filter (fun e => e.1 ≠ p), e.2 < f.nodes.size :=
    (sound.drop p).numbered
  constructor
  · intro e stands
    rw [Files.put, Array.size_push]
    rcases List.mem_cons.mp stands with rfl | stays
    · apply Nat.lt_succ_self
    · apply Nat.lt_succ_of_lt (numbered e stays)
  · rw [Files.put, List.map_cons, List.nodup_cons]
    refine ⟨?_, (sound.drop p).unshared⟩
    rw [List.mem_map]
    rintro ⟨e, stays, same⟩
    apply Nat.lt_irrefl f.nodes.size
    calc f.nodes.size = e.2 := same.symm
      _ < f.nodes.size := numbered e stays

theorem setNode (sound : f.Sound) (number : Nat) (n : Node) :
  (f.setNode number n).Sound
  := by
  constructor
  · rw [Files.setNode, Array.size_setIfInBounds]
    exact sound.numbered
  · exact sound.unshared

theorem makeDirectory (sound : f.Sound) (made : f.makeDirectory here path = .ok g) :
  g.Sound
  := by
  unfold Files.makeDirectory at made
  split at made
  · cases made
  · obtain ⟨p, -, made⟩ := bind_eq_ok_iff.mp made
    split at made
    · cases made
    · split at made <;> cases made
      apply sound.put

theorem openForWriting {empty : Bool} {target : Target} (sound : f.Sound)
    (opened : f.openForWriting here path mode empty = .ok (g, target)) :
  g.Sound
  := by
  obtain ⟨p, -, opened⟩ := bind_eq_ok_iff.mp opened
  split at opened
  · cases opened
  · cases opened
    exact sound
  · cases opened
    split
    · apply sound.setNode
    · exact sound
  · cases opened
  · split at opened
    · cases opened
      apply sound.put
    · split at opened <;> cases opened

theorem write (sound : f.Sound) (written : f.write here path content mode = .ok g) :
  g.Sound
  := by
  obtain ⟨⟨f', target⟩, opened, written⟩ := bind_eq_ok_iff.mp written
  have sound' : f'.Sound := sound.openForWriting opened
  dsimp only at written
  split at written
  · cases written
    exact sound'
  · split at written <;> cases written
    · apply sound'.setNode
    · exact sound'

theorem remove (sound : f.Sound) (removed : f.remove here path = .ok g) :
  g.Sound
  := by
  obtain ⟨⟨p, n⟩, -, removed⟩ := bind_eq_ok_iff.mp removed
  split at removed <;> cases removed
  apply sound.drop

theorem removeDirectory (sound : f.Sound) (removed : f.removeDirectory here path = .ok g) :
  g.Sound
  := by
  obtain ⟨⟨p, n⟩, -, removed⟩ := bind_eq_ok_iff.mp removed
  split at removed
  · split at removed <;> cases removed
    apply sound.drop
  · cases removed

theorem changeMode (sound : f.Sound) (changed : f.changeMode here path mode = .ok g) :
  g.Sound
  := by
  obtain ⟨⟨p, n⟩, -, changed⟩ := bind_eq_ok_iff.mp changed
  split at changed
  case h_1 q m octets same =>
    cases changed
    cases f.number? q with
    | none => exact sound
    | some number => apply sound.setNode
  case h_2 =>
    cases changed
    exact sound

/-- To move entries leaves what they lead to. -/
theorem move (sound : f.Sound) (p q : Path) :
  Sound { f with
    entries := (f.drop q).entries.map fun (r, number) =>
      if p.isPrefixOf r then (q ++ r.drop p.length, number) else (r, number) }
  := by
  have leads (e : Path × Nat) : (if p.isPrefixOf e.1 then (q ++ e.1.drop p.length, e.2) else e).2
      = e.2 := by
    split <;> rfl
  constructor
  · intro e stays
    obtain ⟨e', stays', rfl⟩ := List.mem_map.mp stays
    rw [leads e']
    apply (sound.drop q).numbered e' stays'
  · rw [List.map_map]
    apply (congrArg List.Nodup (List.map_congr_left fun e _ => leads e)).mpr
    exact (sound.drop q).unshared

theorem rename {target : Octets} (sound : f.Sound) (renamed : f.rename here path target = .ok g) :
  g.Sound
  := by
  obtain ⟨⟨p, n⟩, -, renamed⟩ := bind_eq_ok_iff.mp renamed
  obtain ⟨q, -, renamed⟩ := bind_eq_ok_iff.mp renamed
  dsimp only at renamed
  generalize (if (f.isDirectoryAt q && decide (n ≠ .directory)) = true then q ++ p.getLast?.toList
    else q) = q at renamed
  split at renamed
  · cases renamed
  · split at renamed <;> cases renamed
    · exact sound
    · apply sound.move

end Sound

end Files

/-! ### Machines with sound files -/

namespace Machine

variable {m m₁ : Machine} {p : Process}

@[simp]
theorem deliver_files (p : Process) (signal : Nat) :
  (m.deliver p signal).files = m.files
  := by
  unfold deliver
  split
  · rfl
  · split
    · rfl
    · split
      · rfl
      · rfl
      · split <;> rfl

@[simp]
theorem kill_files (id : Nat) :
  (m.kill id).files = m.files
  := by
  unfold kill
  split
  · split
    · rfl
    · apply deliver_files
  · rfl

@[simp]
theorem goOn_files (id : Nat) (b : Behaviour) :
  (m.goOn id b).files = m.files
  := by
  unfold goOn
  split
  · rfl
  · split <;> rfl

theorem readFrom_files {h : Handle} {line : Bool} {a : Except Fault Octets}
    (read : m.readFrom h line = some (a, m₁)) :
  m₁.files = m.files
  := by
  unfold readFrom at read
  split at read
  case h_4 n =>
    dsimp only at read
    split at read <;> cases read
    rfl
  case h_5 n =>
    split at read
    · split at read
      · cases read
        rfl
      · split at read <;> cases read <;> rfl
    · cases read
      rfl
  all_goals
    cases read
    rfl

theorem waitFor_files {id : Nat} {child : Option Nat} {a : Option (Nat × ExitStatus)}
    (waited : m.waitFor id child = some (a, m₁)) :
  m₁.files = m.files
  := by
  simp only [waitFor] at waited
  split at waited
  · cases waited
    rfl
  · split at waited <;> cases waited
    rfl

theorem writeTo_sound {h : Handle} {octets : Octets} {a : Except Fault Unit}
    (sound : m.files.Sound) (written : m.writeTo h octets = (a, m₁)) :
  m₁.files.Sound
  := by
  unfold writeTo at written
  split at written
  case h_3 n => split at written <;> cases written <;> exact sound
  case h_4 n =>
    split at written
    · split at written
      · cases written
        exact sound
      · split at written <;> cases written
        · apply sound.setNode
        · exact sound
    · cases written
      exact sound
  all_goals
    cases written
    exact sound

theorem openAt_sound {here : Path} {path : Octets} {access : Access} {h : Handle}
    (sound : m.files.Sound) (opened : m.openAt here path access = .ok (m₁, h)) :
  m₁.files.Sound
  := by
  unfold openAt at opened
  dsimp only at opened
  split at opened
  · obtain ⟨⟨p, n⟩, -, opened⟩ := bind_eq_ok_iff.mp opened
    split at opened
    · cases opened
      exact sound
    · split at opened <;> cases opened
      exact sound
  · obtain ⟨⟨files, target⟩, opens, opened⟩ := bind_eq_ok_iff.mp opened
    dsimp only at opened
    split at opened <;> cases opened
    · exact sound
    · exact sound.openForWriting opens

theorem changed_sound {files : Except Fault Files} {a : Except Fault Unit}
    (sound : m.files.Sound) (sound' : ∀ f, files = .ok f → f.Sound)
    (changes : m.changed files = (a, m₁)) :
  m₁.files.Sound
  := by
  cases files with
  | error fault =>
      cases changes
      exact sound
  | ok f =>
      cases changes
      exact sound' f rfl

/-- To serve a request leaves the files sound. -/
theorem serve_sound {r : Request} {a : r.Answer} (sound : m.files.Sound)
    (served : m.serve p r = some (a, m₁)) :
  m₁.files.Sound
  := by
  cases r <;> simp only [serve] at served
  case read file line =>
    split at served
    · cases served
      exact sound
    · exact readFrom_files served ▸ sound
  case write file octets =>
    split at served
    · cases served
      exact sound
    · exact writeTo_sound sound (Option.some.inj served)
  case openFile path access =>
    split at served
    · cases served
      exact sound
    · rename_i m' h opened
      cases served
      have sound' : m'.files.Sound := openAt_sound sound opened
      exact sound'
  case wait child => exact waitFor_files served ▸ sound
  case signal id number =>
    split at served <;> cases served
    · exact sound
    · split
      · exact sound
      · rwa [deliver_files]
  case makeDirectory path =>
    exact changed_sound sound (fun _ => sound.makeDirectory) (Option.some.inj served)
  case removeDirectory path =>
    exact changed_sound sound (fun _ => sound.removeDirectory) (Option.some.inj served)
  case remove path => exact changed_sound sound (fun _ => sound.remove) (Option.some.inj served)
  case rename source target =>
    exact changed_sound sound (fun _ => sound.rename) (Option.some.inj served)
  case changeMode path mode =>
    exact changed_sound sound (fun _ => sound.changeMode) (Option.some.inj served)
  case close | sleep | dispose | caughtSignals | pipe | self | inspect | currentDirectory =>
    cases served
    exact sound
  case execute | copyTo | keep | list | changeDirectory =>
    split at served <;> cases served <;> exact sound

theorem attend_sound {r : Request} {next : r.Answer → Behaviour} (sound : m.files.Sound)
    (attended : m.attend p r next = some m₁) :
  m₁.files.Sound
  := by
  unfold attend at attended
  split at attended
  · rename_i answer m' served
    cases attended
    rw [goOn_files]
    exact serve_sound sound served
  · split at attended
    · obtain ⟨b, -, rfl⟩ := Option.map_eq_some_iff.mp attended
      exact sound
    · cases attended

/-- What a process does leaves the files sound. -/
theorem step_sound (sound : m.files.Sound) (step : m.step p = some m₁) :
  m₁.files.Sound
  := by
  unfold Machine.step at step
  split at step
  · cases step
  · split at step
    · cases step
      exact sound
    · cases step
      exact sound
    · cases step
    · cases step
      exact sound
    · split at step
      · cases step
        exact sound
      · split at step <;> cases step
        exact sound
    · split at step
      · rename_i m' served
        have sound' := serve_sound sound served
        split at step <;> cases step
        · exact sound'
        · rwa [goOn_files]
      · rename_i m' _ served
        cases step
        rw [goOn_files]
        exact serve_sound sound served
      · cases step
    · exact attend_sound sound step

/-- The files of a machine that goes on stay sound. -/
theorem GoesOn.sound (goes : m.GoesOn m₁) (sound : m.files.Sound) :
  m₁.files.Sound
  := by
  induction goes with
  | here => exact sound
  | acts _ acted ih =>
      obtain ⟨p, -, step⟩ := Option.bind_eq_some_iff.mp acted
      exact step_sound ih step
  | passes _ _ ih => exact ih

theorem start_files {here : Path} {environment : Environment} {fed : Bool} {program : Octets}
    {arguments : List Octets} {s : Started}
    (started : m.start here environment fed program arguments = .ok (m₁, s)) :
  m₁.files = m.files
  := by
  simp only [start] at started
  split at started
  · cases started
  · obtain ⟨path, -, started⟩ := bind_eq_ok_iff.mp started
    obtain ⟨behaviour, -, started⟩ := bind_eq_ok_iff.mp started
    cases started
    rfl

theorem drain_sound (sound : m.files.Sound) (cutting : Cutting) (n : Nat) :
  (m.drain cutting n).2.files.Sound
  := (waitUntil_goesOn _ _).sound sound

theorem finishWithin_sound (sound : m.files.Sound) (id limit : Nat) :
  (m.finishWithin id limit).2.files.Sound
  := by
  have waited : (if limit = 0 then m
      else m.waitUntil (some (m.now + limit)) fun m => (m.statusOf id).isSome).files.Sound := by
    split
    · exact sound
    · exact (waitUntil_goesOn _ _).sound sound
  unfold finishWithin
  dsimp only
  split
  · exact waited
  · rw [forget, kill_files]
    exact waited

/-- A command that is run leaves the files sound. -/
theorem runBounded_sound (sound : m.files.Sound) (site : Site) (program : Text)
    (arguments : List Text) (limit : Nat) :
  (m.runBounded site program arguments limit).2.files.Sound
  := by
  unfold runBounded runCut
  split
  · exact sound
  · rename_i m' s started
    have sound' : m'.files.Sound := (start_files started).symm ▸ sound
    have ended := finishWithin_sound sound' s.process limit
    exact drain_sound (drain_sound ended .full s.output) .full s.errors

end Machine

end Host

end NotebookEngine
