import Mathlib.Data.List.Nodup
import NotebookEngine.Host.Bounded
import NotebookEngine.Proofs.Host.Clock
import NotebookEngine.Proofs.Host.Paths

/-!
# Processes of the host

Processes have numbers of their own (`Machine.Numbered`). While a machine goes on, no process becomes
one that the host waits for (`Machine.Raises`), and one for which it waits is not lost
(`Machine.Tends`, `GoesOn.tends`): such processes come about only when the host starts them, and one
that it has killed and forgotten is gone. So a command that is run for a limited time leaves none
(`runBounded_hosts`).
-/

namespace NotebookEngine

namespace Host

namespace Machine

variable {m m₁ m₂ : Machine} {p : Process} {n : Nat}

/-- Every process has a number of its own, below the one that is given next. -/
structure Numbered (m : Machine) : Prop where
  nodup : (m.processes.map Process.id).Nodup
  below : ∀ p ∈ m.processes, p.id < m.nextProcess

/-- The host waits for the process of a number. -/
def Hosts (m : Machine) (n : Nat) : Prop :=
  ∃ p ∈ m.processes, p.id = n ∧ p.parent = .host

/-- A process has the number, the parent and the status of one of the machine. -/
def Holds (m : Machine) (p : Process) : Prop :=
  ∃ q ∈ m.processes, q.id = p.id ∧ q.parent = p.parent ∧ q.status = p.status

/-- Processes of another machine have numbers of their own if those before have, and the host waits
for none of them for which it did not wait before. -/
structure Raises (m m' : Machine) : Prop where
  numbered : m.Numbered → m'.Numbered
  hosts : ∀ n, m'.Hosts n → m.Hosts n

namespace Raises

@[refl]
theorem refl (m : Machine) :
  m.Raises m
  := ⟨id, fun _ => id⟩

theorem trans (h₁ : m.Raises m₁) (h₂ : m₁.Raises m₂) :
  m.Raises m₂
  := ⟨h₂.numbered ∘ h₁.numbered, fun n held => h₁.hosts n (h₂.hosts n held)⟩

/-- What leaves the processes as they are raises none. -/
theorem of_same (processes : m₁.processes = m.processes) (next : m₁.nextProcess = m.nextProcess) :
  m.Raises m₁
  := by
  constructor
  · rintro ⟨nodup, below⟩
    exact ⟨processes ▸ nodup, processes ▸ next ▸ below⟩
  · intro n held
    rwa [Hosts, processes] at held

end Raises

/-- A process is what has become of another one: it has its number and its parent, and it has ended
if that has. -/
structure Becomes (p q : Process) : Prop where
  id : q.id = p.id
  parent : q.parent = p.parent
  status : p.status.isSome → q.status.isSome

/-- The host moreover loses none of the processes for which it waited. -/
structure Tends (m m' : Machine) : Prop extends Raises m m' where
  keeps : m.Numbered → ∀ p ∈ m.processes, p.parent = .host → ∃ q ∈ m'.processes, Becomes p q

namespace Tends

@[refl]
theorem refl (m : Machine) :
  m.Tends m
  := ⟨.refl m, fun _ p stands _ => ⟨p, stands, rfl, rfl, fun ended => ended⟩⟩

theorem trans (h₁ : m.Tends m₁) (h₂ : m₁.Tends m₂) :
  m.Tends m₂
  := by
  refine ⟨h₁.toRaises.trans h₂.toRaises, ?_⟩
  intro numbered p stands parent
  obtain ⟨q, stands, becomes⟩ := h₁.keeps numbered p stands parent
  obtain ⟨r, stands, becomes'⟩ :=
    h₂.keeps (h₁.numbered numbered) q stands (becomes.parent.trans parent)
  exact ⟨r, stands, becomes'.id.trans becomes.id, becomes'.parent.trans becomes.parent,
    fun ended => becomes'.status (becomes.status ended)⟩

/-- What leaves the processes as they are loses none. -/
theorem of_same (processes : m₁.processes = m.processes) (next : m₁.nextProcess = m.nextProcess) :
  m.Tends m₁
  := by
  refine ⟨.of_same processes next, ?_⟩
  intro _ p stands _
  rw [processes]
  exact ⟨p, stands, rfl, rfl, fun ended => ended⟩

end Tends

theorem holds_of_mem (stands : p ∈ m.processes) :
  m.Holds p
  := ⟨p, stands, rfl, rfl, rfl⟩

theorem holds_of_process? (found : m.process? n = some p) :
  m.Holds p
  := holds_of_mem (List.mem_of_find?_eq_some found)

/-- The host waits for a process only if its number is one of those for which it does. -/
theorem Holds.hosts (held : m.Holds p) (parent : p.parent = .host) :
  m.Hosts p.id
  := by
  obtain ⟨q, stands, same, sameParent, -⟩ := held
  exact ⟨q, stands, same, sameParent.trans parent⟩

/-- Two processes of a number are the same. -/
theorem Numbered.unique {p q : Process} (numbered : m.Numbered) (p_stands : p ∈ m.processes)
    (q_stands : q ∈ m.processes) (same : p.id = q.id) :
  p = q
  := List.inj_on_of_nodup_map numbered.nodup p_stands q_stands same

theorem Numbered.of_sublist (numbered : m.Numbered)
    (less : (m₁.processes.map Process.id).Sublist (m.processes.map Process.id))
    (next : m₁.nextProcess = m.nextProcess) :
  m₁.Numbered
  := by
  refine ⟨less.nodup numbered.nodup, ?_⟩
  intro p stands
  obtain ⟨q, stands, same⟩ := List.mem_map.mp (less.subset (List.mem_map_of_mem stands))
  rw [next, ← same]
  exact numbered.below q stands

/-! ### Changes of processes -/

theorem setProcess_ids (p : Process) :
  (m.setProcess p).processes.map Process.id = m.processes.map Process.id
  := by
  rw [setProcess, List.map_map]
  apply List.map_congr_left
  intro q _
  by_cases same : q.id = p.id
  · simp [same]
  · simp [same]

theorem setProcess_tends (held : m.Holds p) :
  m.Tends (m.setProcess p)
  := by
  refine ⟨⟨?_, ?_⟩, ?_⟩
  · intro numbered
    refine numbered.of_sublist ?_ rfl
    rw [setProcess_ids]
  · rintro n ⟨q, stands, rfl, parent⟩
    obtain ⟨q', stands', rfl⟩ := List.mem_map.mp stands
    split at parent
    case isTrue same =>
      rw [if_pos same]
      exact held.hosts parent
    case isFalse other =>
      rw [if_neg other]
      exact ⟨q', stands', rfl, parent⟩
  · intro numbered q stands _
    refine ⟨_, List.mem_map_of_mem stands, ?_⟩
    split
    case isTrue same =>
      obtain ⟨q', stands', same', parent, status⟩ := held
      obtain rfl := numbered.unique stands stands' (same.trans same'.symm)
      exact ⟨same.symm, parent.symm, fun ended => status ▸ ended⟩
    case isFalse => exact ⟨rfl, rfl, fun ended => ended⟩

theorem finish_ids (id : Nat) (status : ExitStatus) :
  ((m.finish id status).processes.map Process.id).Sublist (m.processes.map Process.id)
  := by
  have same : (m.processes.map fun p =>
      if p.id = id then { p with handles := [], waking := none, status := some status }
      else if p.parent = .process id then { p with parent := .nobody }
      else p).map Process.id = m.processes.map Process.id := by
    rw [List.map_map]
    apply List.map_congr_left
    intro q _
    dsimp only [Function.comp]
    split
    · rfl
    · split <;> rfl
  rw [finish, ← same]
  exact (List.filter_sublist).map _

theorem finish_tends (id : Nat) (status : ExitStatus) :
  m.Tends (m.finish id status)
  := by
  refine ⟨⟨?_, ?_⟩, ?_⟩
  · intro numbered
    exact numbered.of_sublist (finish_ids id status) rfl
  · rintro n ⟨q, stands, rfl, parent⟩
    obtain ⟨q', stands', rfl⟩ := List.mem_map.mp (List.mem_of_mem_filter stands)
    split at parent
    case isTrue same =>
      rw [if_pos same]
      exact ⟨q', stands', rfl, parent⟩
    case isFalse other =>
      rw [if_neg other]
      split at parent
      case isTrue => nomatch parent
      case isFalse orphan =>
        rw [if_neg orphan]
        exact ⟨q', stands', rfl, parent⟩
  · intro _ q stands parent
    refine ⟨_, List.mem_filter.mpr ⟨List.mem_map_of_mem stands, ?_⟩, ?_⟩
    · split <;> simp [parent]
    · split
      · exact ⟨rfl, rfl, fun _ => rfl⟩
      · simp only [parent, reduceCtorEq, if_false]
        exact ⟨rfl, rfl, fun ended => ended⟩

theorem deliver_tends (held : m.Holds p) (signal : Nat) :
  m.Tends (m.deliver p signal)
  := by
  unfold deliver
  split
  · rfl
  · split
    · apply finish_tends
    · split
      · rfl
      · exact setProcess_tends held
      · split
        · rfl
        · apply finish_tends

theorem kill_tends (id : Nat) :
  m.Tends (m.kill id)
  := by
  unfold kill
  split
  case h_1 p found =>
    split
    · rfl
    · exact deliver_tends (holds_of_process? found) _
  case h_2 => rfl

theorem goOn_tends (id : Nat) (b : Behaviour) :
  m.Tends (m.goOn id b)
  := by
  unfold goOn
  split
  case h_1 => rfl
  case h_2 p found =>
    have held := holds_of_process? found
    split
    · rfl
    · exact setProcess_tends held

/-! ### Requests -/

theorem readFrom_tends {h : Handle} {line : Bool} {a : Except Fault Octets}
    (read : m.readFrom h line = some (a, m₁)) :
  m.Tends m₁
  := by
  unfold readFrom at read
  split at read
  case h_4 n =>
    dsimp only at read
    split at read <;> cases read
    exact .of_same rfl rfl
  case h_5 n =>
    split at read
    · split at read
      · cases read
        rfl
      · split at read <;> cases read <;> exact .of_same rfl rfl
    · cases read
      rfl
  all_goals
    cases read
    rfl

theorem writeTo_tends {h : Handle} {octets : Octets} {a : Except Fault Unit}
    (written : m.writeTo h octets = (a, m₁)) :
  m.Tends m₁
  := by
  unfold writeTo at written
  split at written
  case h_3 n => split at written <;> cases written <;> exact .of_same rfl rfl
  case h_4 n =>
    split at written
    · split at written
      · cases written
        rfl
      · split at written <;> cases written <;> exact .of_same rfl rfl
    · cases written
      rfl
  all_goals
    cases written
    rfl

/-- To open a file leaves the processes as they are. -/
theorem openAt_processes {here : Path} {path : Octets} {access : Access} {h : Handle}
    (opened : m.openAt here path access = .ok (m₁, h)) :
  m₁.processes = m.processes ∧ m₁.nextProcess = m.nextProcess
  := by
  unfold openAt at opened
  dsimp only at opened
  split at opened
  · cases found : m.files.find here path with
    | error f => simp [found, bind, Except.bind] at opened
    | ok entry =>
        simp only [found, bind, Except.bind] at opened
        split at opened
        · cases opened
          exact ⟨rfl, rfl⟩
        · split at opened <;> cases opened
          exact ⟨rfl, rfl⟩
  · cases opens : m.files.openForWriting here path usualMode (access = .writing) with
    | error f => simp [opens, bind, Except.bind] at opened
    | ok entry =>
        simp only [opens, bind, Except.bind] at opened
        split at opened <;> cases opened <;> exact ⟨rfl, rfl⟩

theorem waitFor_tends {id : Nat} {child : Option Nat} {a : Option (Nat × ExitStatus)}
    (waited : m.waitFor id child = some (a, m₁)) :
  m.Tends m₁
  := by
  simp only [waitFor] at waited
  split at waited
  · cases waited
    rfl
  · split at waited
    case h_1 => cases waited
    case h_2 p ended =>
      cases waited
      refine ⟨⟨?_, ?_⟩, ?_⟩
      · intro numbered
        exact numbered.of_sublist (List.filter_sublist.map _) rfl
      · rintro n ⟨q, stands, same, parent⟩
        exact ⟨q, List.mem_of_mem_filter stands, same, parent⟩
      -- The child that is forgotten was waited for by its parent, not by the host.
      · intro numbered q stands parent
        refine ⟨q, List.mem_filter.mpr ⟨stands, ?_⟩, rfl, rfl, fun ended => ended⟩
        have child : p.parent = .process id := by
          have awaited := List.find?_some ended
          simp_all
        rw [decide_eq_true_iff]
        intro same
        obtain rfl := numbered.unique stands (List.mem_of_find?_eq_some ended) same
        cases parent.symm.trans child

theorem changed_tends {files : Except Fault Files} {a : Except Fault Unit}
    (changes : m.changed files = (a, m₁)) :
  m.Tends m₁
  := by
  cases files <;> cases changes <;> exact .of_same rfl rfl

/-- To serve a request of a process raises none for which the host would wait, and loses none. -/
theorem serve_tends {r : Request} {a : r.Answer} (held : m.Holds p)
    (served : m.serve p r = some (a, m₁)) :
  m.Tends m₁
  := by
  cases r <;> simp only [serve] at served
  case read file line =>
    split at served
    · cases served
      rfl
    · exact readFrom_tends served
  case write file octets =>
    split at served
    · cases served
      rfl
    · exact writeTo_tends (Option.some.inj served)
  case openFile path access =>
    split at served
    · cases served
      rfl
    · rename_i m' h opened
      cases served
      obtain ⟨processes, next⟩ := openAt_processes opened
      have held' : m'.Holds (p.withHandle (p.freeNumber 0) h) := by
        rw [Holds, processes]
        exact held
      exact (Tends.of_same processes next).trans (setProcess_tends held')
  case wait child => exact waitFor_tends served
  case signal id number =>
    split at served <;> cases served
    · rfl
    · rename_i found
      split
      · rfl
      · exact deliver_tends (holds_of_process? found) _
  case execute path arguments environment =>
    split at served <;> cases served
    rfl
  case makeDirectory | removeDirectory | remove | rename | changeMode =>
    exact changed_tends (Option.some.inj served)
  case close | sleep | dispose | caughtSignals =>
    cases served
    exact setProcess_tends held
  case pipe =>
    cases served
    have piped : m.Tends { m with pipes := m.pipes.push {} } := .of_same rfl rfl
    exact piped.trans (setProcess_tends held)
  case self | inspect | currentDirectory =>
    cases served
    rfl
  case copyTo | keep =>
    split at served <;> cases served
    · rfl
    · exact setProcess_tends held
  case list =>
    split at served <;> cases served <;> rfl
  case changeDirectory =>
    split at served <;> cases served
    · exact setProcess_tends held
    · rfl
    · rfl

/-! ### Steps -/

theorem branch_tends (p : Process) (child : Behaviour) :
  m.Tends (m.branch p child)
  := by
  refine ⟨⟨?_, ?_⟩, ?_⟩
  · rintro ⟨nodup, below⟩
    constructor
    · rw [branch, List.map_append, List.nodup_append]
      refine ⟨nodup, List.nodup_singleton _, ?_⟩
      rintro n held n' fresh rfl
      obtain ⟨q, stands, rfl⟩ := List.mem_map.mp held
      exact absurd (List.mem_singleton.mp fresh) (Nat.ne_of_lt (below q stands))
    · intro q stands
      rcases List.mem_append.mp stands with stands | fresh
      · exact Nat.lt_succ_of_lt (below q stands)
      · rw [List.mem_singleton.mp fresh]
        exact Nat.lt_succ_self _
  · rintro n ⟨q, stands, same, parent⟩
    rcases List.mem_append.mp stands with stands | fresh
    · exact ⟨q, stands, same, parent⟩
    · rw [List.mem_singleton.mp fresh] at parent
      nomatch parent
  · intro _ q stands _
    exact ⟨q, List.mem_append_left _ stands, rfl, rfl, fun ended => ended⟩

theorem attend_tends {r : Request} {next : r.Answer → Behaviour} (held : m.Holds p)
    (attended : m.attend p r next = some m₁) :
  m.Tends m₁
  := by
  unfold attend at attended
  split at attended
  · rename_i answer m' served
    cases attended
    exact (serve_tends held served).trans (goOn_tends _ _)
  · split at attended
    · obtain ⟨b, -, rfl⟩ := Option.map_eq_some_iff.mp attended
      exact setProcess_tends held
    · cases attended

/-- What a process does raises none for which the host would wait, and loses none. -/
theorem step_tends (held : m.Holds p) (step : m.step p = some m₁) :
  m.Tends m₁
  := by
  unfold Machine.step at step
  split at step
  · cases step
  · split at step
    · cases step
      apply finish_tends
    · cases step
      exact setProcess_tends held
    · cases step
    · rename_i child next _
      cases step
      have held' : (m.branch p child).Holds p := by
        obtain ⟨q, stands, same⟩ := held
        exact ⟨q, List.mem_append_left _ stands, same⟩
      exact (branch_tends p child).trans (setProcess_tends held')
    · split at step
      · cases step
        exact setProcess_tends held
      · split at step
        · cases step
          exact setProcess_tends held
        · cases step
    · split at step
      · rename_i m' served
        have tends := serve_tends held served
        split at step <;> cases step
        · exact tends.trans (finish_tends _ _)
        · exact tends.trans (goOn_tends _ _)
      · rename_i m' _ served
        cases step
        exact (serve_tends held served).trans (goOn_tends _ _)
      · cases step
    · exact attend_tends held step

/-- A machine that goes on by itself raises no process for which the host would wait, and loses
none. -/
theorem GoesOn.tends (goes : m.GoesOn m₁) :
  m.Tends m₁
  := by
  induction goes with
  | here => rfl
  | acts _ acted ih =>
      obtain ⟨p, found, step⟩ := Option.bind_eq_some_iff.mp acted
      exact ih.trans (step_tends (holds_of_process? found) step)
  | passes _ _ ih => exact ih.trans (.of_same rfl rfl)

/-! ### What the host does -/

theorem release_tends (n : Nat) :
  m.Tends (m.release n)
  := .of_same rfl rfl

theorem forget_raises (n : Nat) :
  m.Raises (m.forget n)
  := by
  constructor
  · intro numbered
    exact numbered.of_sublist (List.filter_sublist.map _) rfl
  · rintro k ⟨q, stands, same, parent⟩
    exact ⟨q, List.mem_of_mem_filter stands, same, parent⟩

/-- The host waits for the process that it starts, besides those for which it waited before. -/
theorem start_hosts {here : Path} {environment : Environment} {fed : Bool} {program : Octets}
    {arguments : List Octets} {s : Started}
    (started : m.start here environment fed program arguments = .ok (m₁, s)) :
  (m.Numbered → m₁.Numbered) ∧ (∀ n, m₁.Hosts n → m.Hosts n ∨ n = s.process) ∧ m₁.Hosts s.process
  := by
  simp only [start] at started
  split at started
  · cases started
  · obtain ⟨path, -, started⟩ := bind_eq_ok_iff.mp started
    obtain ⟨behaviour, -, started⟩ := bind_eq_ok_iff.mp started
    cases started
    refine ⟨?_, ?_, ?_⟩
    · rintro ⟨nodup, below⟩
      constructor
      · rw [List.map_append, List.nodup_append]
        refine ⟨nodup, List.nodup_singleton _, ?_⟩
        rintro n held n' fresh rfl
        obtain ⟨q, stands, rfl⟩ := List.mem_map.mp held
        exact absurd (List.mem_singleton.mp fresh) (Nat.ne_of_lt (below q stands))
      · intro q stands
        rcases List.mem_append.mp stands with stands | fresh
        · exact Nat.lt_succ_of_lt (below q stands)
        · rw [List.mem_singleton.mp fresh]
          exact Nat.lt_succ_self _
    · rintro n ⟨q, stands, rfl, parent⟩
      rcases List.mem_append.mp stands with stands | fresh
      · exact .inl ⟨q, stands, rfl, parent⟩
      · rw [List.mem_singleton.mp fresh]
        exact .inr rfl
    · exact ⟨_, List.mem_append_right _ (List.mem_singleton_self _), rfl, rfl⟩

/-- The process of a number has ended. -/
def Ended (m : Machine) (n : Nat) : Prop :=
  ∀ p ∈ m.processes, p.id = n → p.status.isSome

/-- A process that has ended and is forgotten is gone. -/
theorem Ended.forget (ended : m.Ended n) :
  ¬(m.forget n).Hosts n
  := by
  rintro ⟨q, stands, same, -⟩
  obtain ⟨stands, kept⟩ := List.mem_filter.mp stands
  have left := ended q stands same
  simp_all

theorem Numbered.ended (numbered : m.Numbered) (left : (m.statusOf n).isSome) :
  m.Ended n
  := by
  obtain ⟨status, left⟩ := Option.isSome_iff_exists.mp left
  obtain ⟨p, found, left⟩ := Option.bind_eq_some_iff.mp left
  have held := List.mem_of_find?_eq_some found
  have same : p.id = n := by simpa using List.find?_some found
  intro q stands same'
  obtain rfl := numbered.unique stands held (same'.trans same.symm)
  rw [left]
  rfl

/-- The status of a process is seen when it has ended. -/
theorem Numbered.statusOf_isSome (numbered : m.Numbered) (stands : p ∈ m.processes)
    (ended : p.status.isSome) :
  (m.statusOf p.id).isSome
  := by
  have found : (m.process? p.id).isSome := by
    rw [process?, List.find?_isSome]
    exact ⟨p, stands, decide_eq_true rfl⟩
  obtain ⟨q, found⟩ := Option.isSome_iff_exists.mp found
  have same : q.id = p.id := by simpa using List.find?_some found
  obtain rfl := numbered.unique (List.mem_of_find?_eq_some found) stands same
  rw [statusOf, found]
  exact ended

/-- A process that is killed has ended. -/
theorem Numbered.ended_kill (numbered : m.Numbered) (n : Nat) :
  (m.kill n).Ended n
  := by
  unfold kill
  split
  case h_1 p found =>
    have same : p.id = n := by simpa using List.find?_some found
    split
    case isTrue left =>
      apply numbered.ended
      rw [statusOf, found]
      exact left
    case isFalse =>
      have finished : m.deliver p killSignal = m.finish n (.signal killSignal) := by
        rw [← same]
        rfl
      rw [finished]
      rintro q stands same'
      obtain ⟨q', -, rfl⟩ := List.mem_map.mp (List.mem_of_mem_filter stands)
      split at same'
      case isTrue own =>
        rw [if_pos own]
        rfl
      case isFalse other =>
        split at same'
        · exact absurd same' other
        · exact absurd same' other
  case h_2 missing =>
    intro q stands same
    have other := List.find?_eq_none.mp missing q stands
    simp [same] at other

/-- What the host has started it has killed and forgotten, or forgotten once it had ended. -/
theorem finishWithin_hosts (numbered : m.Numbered) (n limit : Nat) :
  m.Raises (m.finishWithin n limit).2 ∧ ¬(m.finishWithin n limit).2.Hosts n
  := by
  have waited : m.Raises (if limit = 0 then m
      else m.waitUntil (some (m.now + limit)) fun m => (m.statusOf n).isSome) := by
    split
    · rfl
    · exact (waitUntil_goesOn _ _).tends.toRaises
  unfold finishWithin
  dsimp only
  split
  case h_1 status left =>
    refine ⟨waited.trans (forget_raises n), ?_⟩
    apply Ended.forget
    exact (waited.numbered numbered).ended (by rw [left]; rfl)
  case h_2 =>
    refine ⟨(waited.trans (kill_tends n).toRaises).trans (forget_raises n), ?_⟩
    exact ((waited.numbered numbered).ended_kill n).forget

theorem drain_tends (cutting : Cutting) (n : Nat) :
  m.Tends (m.drain cutting n).2
  := (waitUntil_goesOn _ _).tends.trans (release_tends n)

/-- A command that is run leaves no process for which the host would wait. -/
theorem runBounded_hosts (numbered : m.Numbered) (site : Site) (program : Text)
    (arguments : List Text) (limit : Nat) :
  (m.runBounded site program arguments limit).2.Numbered
    ∧ ∀ n, (m.runBounded site program arguments limit).2.Hosts n → m.Hosts n
  := by
  unfold runBounded runCut
  split
  case h_1 => exact ⟨numbered, fun _ => id⟩
  case h_2 m' s started =>
    obtain ⟨numbered', hosts, -⟩ := start_hosts started
    obtain ⟨ends, gone⟩ := finishWithin_hosts (numbered' numbered) s.process limit
    have drains := (drain_tends .full s.output).trans
      (drain_tends (m := (((m'.finishWithin s.process limit).2).drain .full s.output).2) .full
        s.errors)
    refine ⟨drains.numbered (ends.numbered (numbered' numbered)), ?_⟩
    intro n held
    have held := drains.hosts n held
    rcases hosts n (ends.hosts n held) with before | rfl
    · exact before
    · exact absurd held gone

end Machine

end Host

end NotebookEngine
