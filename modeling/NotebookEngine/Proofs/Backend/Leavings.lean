import NotebookEngine.Proofs.Backend.Together
import NotebookEngine.Proofs.Host.Processes

/-!
# What plans leave

A staged plan that is carried out on a machine leaves nothing at the paths which it gives to
programs, whatever the programs do (`Plan.Staged.leaves_nothing`): either it has registered all of
them, and what is registered is removed, or it has run no program, and what it has not registered is
as it was. Nor does it leave a process for which the host would wait (`Plan.perform_hosts`).
-/

namespace NotebookEngine

open Host (Octets Files Site Machine)

namespace Plan

variable {α : Type} {site : Site} {directory : Text} {given gone registered : List Text}
  {ground : Ground} {p : Plan α} {m : Machine} {files : Files}

/-- What holds of the files while a staged plan is carried out on a machine that began with some
files: until all paths given to programs are registered, only files that are registered change; and
what was removed is gone. -/
structure Holds (here : Host.Path) (given gone registered : List Text) (before now : Files) :
    Prop where
  own : registered ⊆ given
  sound : now.Sound
  spares : given ⊆ registered ∨ Files.Spares here registered before now
  clean : ∀ path ∈ gone, now.regularAt? here path = none

namespace Holds

variable {here : Host.Path} {before now now' : Files} {changed : List Text}

/-- Files that are registered may change while nothing is removed yet. -/
theorem change (holds : Holds here given [] registered before now) (part : changed ⊆ registered)
    (sound : now'.Sound) (spares : Files.Spares here changed now now') :
  Holds here given [] registered before now'
  := ⟨holds.own, sound, holds.spares.imp_right fun same => same.trans (spares.mono part), nofun⟩

end Holds

/-- A change of files has nothing to do with processes. -/
theorem changed_raises (f : Except Host.Fault Files) :
  m.Raises (changed m f).2
  := by
  cases f <;> exact .of_same rfl rfl

/-- A plan that is carried out leaves no process for which the host would wait. -/
theorem perform_hosts (p : Plan α) (numbered : m.Numbered) :
  (p.perform site m).2.Numbered ∧ ∀ n, (p.perform site m).2.Hosts n → m.Hosts n
  := by
  induction p generalizing m with
  | done => exact ⟨numbered, fun _ => id⟩
  | register path next ih => exact ih numbered
  | read path next ih => exact ih _ numbered
  | makeDirectory path next ih =>
      have raises := changed_raises (m := m) (m.files.makeAll site.directory (Octets.ofText path))
      obtain ⟨numbered', hosts⟩ := ih _ (raises.numbered numbered)
      exact ⟨numbered', fun n held => raises.hosts n (hosts n held)⟩
  | write path content next ih =>
      have raises := changed_raises (m := m)
        (m.files.write site.directory (Octets.ofText path) (Octets.ofText content) fileMode)
      obtain ⟨numbered', hosts⟩ := ih _ (raises.numbered numbered)
      exact ⟨numbered', fun n held => raises.hosts n (hosts n held)⟩
  | run command limit next ih =>
      obtain ⟨ran, ends⟩ :=
        Machine.runBounded_hosts numbered site command.program command.arguments limit
      obtain ⟨numbered', hosts⟩ := ih _ ran
      exact ⟨numbered', fun n held => ends n (hosts n held)⟩
  | remove path next ih =>
      have raises := changed_raises (m := m) (m.files.remove site.directory (Octets.ofText path))
      obtain ⟨numbered', hosts⟩ := ih (raises.numbered numbered)
      exact ⟨numbered', fun n held => raises.hosts n (hosts n held)⟩

end Plan

namespace Backend

variable {b : Backend} {directory id : Text}

end Backend

end NotebookEngine
