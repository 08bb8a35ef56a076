import NotebookEngine.Proofs.Host.Clock
import NotebookEngine.Session.Hosted

/-!
# Steps on a machine

`Hosted.Goes` lists what a queue and its machine do next. To go on is to take steps until nobody is
served (`Hosted.goOn_eq_some_iff`), so that whatever every step keeps is kept when somebody is served
(`Hosted.call_keeps`).
-/

namespace NotebookEngine

namespace Session

open Host (Octets Machine)

namespace Hosted

variable {x y z : Hosted}

/-! ### What comes next -/

/-- What comes of the writing of a line: it is over, or the input of the process has taken some of it
and is full. -/
inductive Pours (x : Hosted) : Hosted → Prop
  | ended {m : Machine} {ok : Bool} (later : x.machine.Later m) :
    Pours x ({ x with unwritten := none, machine := m }.hear (.written ok))
  | full {m : Machine} {all rest : Octets} (later : x.machine.Later m) (before : x.unwritten = some all)
      (shorter : rest.length < all.length) : Pours x { x with unwritten := some rest, machine := m }

theorem pours_of_pour? (pours : x.pour? = some y) :
  (∃ rest, x.unwritten = some rest) ∧ x.Pours y
  := by
  unfold pour? at pours
  split at pours
  case h_1 => cases pours
  case h_2 rest unwritten started =>
    obtain rfl := Option.some.inj pours
    exact ⟨⟨_, unwritten⟩, .ended (.refl _)⟩
  case h_3 rest s unwritten started =>
    refine ⟨⟨_, unwritten⟩, ?_⟩
    dsimp only at pours
    split at pours
    · obtain rfl := Option.some.inj pours
      exact .ended (.refl _)
    · split at pours
      · obtain rfl := Option.some.inj pours
        exact .ended (Machine.setPipe_later _ _)
      · rename_i long
        split at pours
        · cases pours
        · rename_i room
          obtain rfl := Option.some.inj pours
          refine .full (Machine.setPipe_later _ _) unwritten ?_
          rw [List.length_drop]
          omega

/-- What is left of a line waits because the input of the process is full. -/
theorem full_of_pour? {rest : Octets} {s : Machine.Started} (stuck : x.pour? = none)
    (unwritten : x.unwritten = some rest) (started : x.started = some s) :
  rest ≠ [] ∧ Machine.pipeCapacity ≤ (x.machine.pipe s.input).content.length
    ∧ x.machine.isDrained s.input = true
  := by
  simp only [pour?, unwritten, started] at stuck
  split at stuck
  · cases stuck
  · rename_i drained
    split at stuck
    · cases stuck
    · rename_i long
      split at stuck
      · rename_i room
        refine ⟨?_, Nat.sub_eq_zero_iff_le.mp room, by simpa using drained⟩
        rintro rfl
        exact long (Nat.zero_le _)
      · cases stuck

/-- What the queue and its machine do next. -/
inductive Goes (x : Hosted) : Hosted → Prop
  | performed {e : Effect} {es : List Effect} (pending : x.pending = e :: es) :
    Goes x ({ x with pending := es }.perform e)
  | proceeded {s : Queue × List Effect} (pending : x.pending = [])
      (proceeds : x.queue.proceed = some s) : Goes x (x.step s)
  | poured {y : Hosted} (pending : x.pending = []) (pours : x.pour? = some y) : Goes x y
  | told {n : Nat × Output × Machine} (pending : x.pending = []) (serving : x.queue.serving ≠ none)
      (waits : x.queue.proceed = none) (stuck : x.pour? = none)
      (noticed : x.noticed? true x.machine = some n) : Goes x (x.tell n)
  | expired (pending : x.pending = []) (serving : x.queue.serving ≠ none)
      (waits : x.queue.proceed = none) (late : x.isLate = true) : Goes x (x.hear .expired)
  | passed (pending : x.pending = []) (serving : x.queue.serving ≠ none)
      (waits : x.queue.proceed = none) (still : x.stir? = none) (early : x.isLate = false) :
    Goes x x.pass

theorem goes_of_next (next : x.next = some y) :
  x.Goes y
  := by
  unfold Hosted.next at next
  split at next
  case h_1 e es pending =>
    obtain rfl := Option.some.inj next
    exact .performed pending
  case h_2 pending =>
    split at next
    case h_1 s proceeds =>
      obtain rfl := Option.some.inj next
      exact .proceeded pending proceeds
    case h_2 waits =>
      split at next
      case isTrue => cases next
      case isFalse busy =>
        have serving : x.queue.serving ≠ none := by simpa using busy
        split at next
        case h_1 z stirs =>
          obtain rfl := Option.some.inj next
          unfold stir? at stirs
          split at stirs
          case h_1 pours =>
            obtain rfl := Option.some.inj stirs
            exact .poured pending pours
          case h_2 stuck =>
            obtain ⟨n, noticed, rfl⟩ := Option.map_eq_some_iff.mp stirs
            exact .told pending serving waits stuck noticed
        case h_2 still =>
          split at next
          case isTrue late =>
            obtain rfl := Option.some.inj next
            exact .expired pending serving waits late
          case isFalse early =>
            dsimp only at next
            split at next
            · cases next
            · obtain rfl := Option.some.inj next
              exact .passed pending serving waits still (Bool.eq_false_iff.mpr early)

/-- While time passes, the machine goes on. -/
theorem pass_goesOn (x : Hosted) :
  x.machine.GoesOn x.pass.machine
  := (Machine.waitUntil_goesOn _ _).passes (Nat.le_max_left _ _)

/-! ### Steps until nobody is served -/

/-- So many steps, unless nothing comes any more. -/
def steps : Nat → Hosted → Hosted
  | 0, x => x
  | n + 1, x =>
    match x.next with
    | some y => steps n y
    | none => x

theorem steps_succ (n : Nat) (next : x.next = some y) :
  x.steps (n + 1) = y.steps n
  := by
  rw [steps, next]

/-- When nothing comes any more, no step is taken. -/
theorem steps_of_last (last : x.next = none) (n : Nat) :
  x.steps n = x
  := by
  cases n with
  | zero => rfl
  | succ k => rw [steps, last]

theorem steps_add (n k : Nat) (x : Hosted) :
  x.steps (n + k) = (x.steps n).steps k
  := by
  induction n generalizing x with
  | zero => rw [Nat.zero_add, steps]
  | succ n ih =>
      cases next : x.next with
      | none => rw [steps_of_last next, steps_of_last next, steps_of_last next]
      | some y => rw [Nat.succ_add, steps_succ _ next, steps_succ _ next, ih]

/-- To go on is to take some number of steps, after which nothing comes and nobody is served. -/
theorem goOn_eq_some_iff :
  x.goOn = some y ↔ ∃ n, x.steps n = y ∧ y.next = none ∧ y.queue.serving = none
  := by
  constructor
  · refine goOn.partial_correctness (fun x y => ∃ n, x.steps n = y ∧ y.next = none
      ∧ y.queue.serving = none) ?_ x y
    intro goOn ih x y goes
    split at goes
    case h_1 z next =>
      obtain ⟨n, rfl, last⟩ := ih z y goes
      exact ⟨n + 1, steps_succ n next, last⟩
    case h_2 last =>
      split at goes
      case isTrue free =>
        obtain rfl := Option.some.inj goes
        exact ⟨0, rfl, last, Option.isNone_iff_eq_none.mp free⟩
      case isFalse => cases goes
  · rintro ⟨n, rfl, last, free⟩
    induction n generalizing x with
    | zero =>
        have last : x.next = none := last
        have free : x.queue.serving = none := free
        rw [goOn, last, free]
        rfl
    | succ k ih =>
        cases next : x.next with
        | none =>
            rw [steps_of_last next] at free
            rw [steps_of_last next, goOn, next, free]
            rfl
        | some y =>
            rw [steps_succ k next] at last free ⊢
            rw [goOn, next]
            exact ih last free

/-! ### What steps keep -/

/-- What every step keeps is kept when steps are taken. -/
theorem steps_keeps {P : Hosted → Prop} (next : ∀ x y, P x → x.next = some y → P y) (n : Nat)
    (holds : P x) :
  P (x.steps n)
  := by
  induction n generalizing x with
  | zero => exact holds
  | succ k ih =>
      unfold steps
      split
      case h_1 y goes => exact ih (next x y holds goes)
      case h_2 => exact holds

theorem listen_keeps {P : Hosted → Prop} {withExit : Bool}
    (told : ∀ x n, P x → x.noticed? withExit x.machine = some n → P (x.tell n)) (holds : P x) :
  P (x.listen withExit)
  := by
  unfold listen
  generalize x.unheard = things
  induction things generalizing x with
  | zero => exact holds
  | succ k ih =>
      unfold listenFor
      split
      case h_1 => exact holds
      case h_2 n noticed => exact ih (told x n holds noticed)

/-- What every step keeps is kept while callers are served. -/
theorem complete_keeps {P : Hosted → Prop} (next : ∀ x y, P x → x.next = some y → P y)
    (told : ∀ x n, P x → x.noticed? false x.machine = some n → P (x.tell n))
    (completes : x.complete = some y) (holds : P x) :
  P y
  := by
  obtain ⟨z, goes, rfl⟩ := Option.map_eq_some_iff.mp completes
  obtain ⟨n, rfl, -⟩ := goOn_eq_some_iff.mp goes
  exact listen_keeps told (steps_keeps next n holds)

/-- A caller is served with the outcome that he has when everybody is. -/
theorem call_eq_some_iff {d : Demand} {o : Outcome} :
  x.call d = some (o, y)
    ↔ ({ x with outcomes := [] }.submit 0 d).complete = some y ∧ y.outcomes.lookup 0 = some o
  := by
  rw [call, Option.bind_eq_some_iff]
  constructor
  · rintro ⟨z, completes, same⟩
    obtain ⟨o', given, same⟩ := Option.map_eq_some_iff.mp same
    obtain ⟨rfl, rfl⟩ := Prod.mk.inj same
    exact ⟨completes, given⟩
  · rintro ⟨completes, given⟩
    exact ⟨y, completes, by rw [given]; rfl⟩

/-- What a caller gets is seen after enough steps. -/
theorem call_of_steps (x : Hosted) (d : Demand) (n : Nat) {o : Outcome}
    (last : (({ x with outcomes := [] }.submit 0 d).steps n).next.isNone = true)
    (free : (({ x with outcomes := [] }.submit 0 d).steps n).queue.serving = none)
    (given : ((({ x with outcomes := [] }.submit 0 d).steps n).listen false).outcomes.lookup 0 = some o) :
  x.call d = some (o, (({ x with outcomes := [] }.submit 0 d).steps n).listen false)
  := by
  apply call_eq_some_iff.mpr ⟨?_, given⟩
  rw [complete, goOn_eq_some_iff.mpr ⟨n, rfl, Option.isNone_iff_eq_none.mp last, free⟩,
    Option.map_some]

end Hosted

end Session

end NotebookEngine
