import Mathlib.Data.List.Induction
import Mathlib.Tactic.Common
import NotebookEngine.Session.Queue

/-!
# Histories of a manager

A history lists the moves that were made from a new manager on, oldest first, each with the manager
before and after it and with what it did (`Entry`). `Run c h m` says that `h` is a history of a
manager with the settings `c` that has become `m`. The moves come in any order: operations, lines
of any octets, ends of output, exits, the parts in which an exit is recorded, ends of writes and
ends of the time allowed. Only the processes are told apart by their numbers.

What the theorems speak of is read off the entries: the operation that is taken up (`call?`), the
answer that is given (`answer?`), the process that is started (`started?`) or found to have left
(`reaped?`) with an exit that is recorded to its end (`recorded?`), the request that goes to a
process (`request?`), and the result that comes from one (`reply?`).
-/

namespace NotebookEngine

namespace Session

/-! ### Moves -/

deriving instance DecidableEq for Event

/-- What may come next to a manager. -/
inductive Move where
  | hear (e : Event)
  /-- The operation under way goes on by itself. -/
  | proceed
deriving DecidableEq

/-- A move by which an operation may go on by itself. The end of the time allowed is one, for what
has come already counts first. -/
def Move.IsOwn (mv : Move) : Prop :=
  mv = .proceed ∨ mv = .hear .expired

/-- The step of a move, if it can be made. -/
def Manager.move? (m : Manager) : Move → Option Manager.Step
  | .hear e => some (m.receive e)
  | .proceed => m.proceed

/-- The result that an output brings, as long as the output is read. -/
def Live.heard? (l : Live) : Output → Option CellResult
  | .line octets =>
    match l.reader, (Utf8.decode? octets).map Message.ofLine with
    | .reading, some (.ok (.result x)) => some x
    | _, _ => none
  | _ => none

/-! ### Entries -/

/-- A move that was made. -/
structure Entry where
  before : Manager
  move : Move
  after : Manager
  actions : List Action

/-- The moves that were made, oldest first. -/
abbrev History := List Entry

namespace Entry

/-- The operation that is taken up. -/
def call? (e : Entry) : Option Operation :=
  match e.move, e.before.stage with
  | .hear (.call op), .idle => some op
  | _, _ => none

/-- The answer that is given. -/
def answer? (e : Entry) : Option Answer :=
  answerAmong? e.actions

/-- The process that is started. -/
def started? (e : Entry) : Option Nat :=
  match e.move, e.before.stage with
  | .hear (.spawned (.ok n)), .spawning _ _ => some n
  | _, _ => none

/-- The code with which a process is found to have left, when it is reaped. -/
def reaped? (n : Nat) (e : Entry) : Option (Option Int) :=
  match e.move, e.before.session? with
  | .hear (.output k (.exited code)), some l =>
    if k = n ∧ l.process = n ∧ l.reader = .reaping then some code else none
  | _, _ => none

/-- The code of the exit of a process, when the last of its parts is recorded. -/
def recorded? (n : Nat) (e : Entry) : Option (Option Int) :=
  match e.move, e.before.session? with
  | .hear (.output k .recorded), some l =>
    match l.reader with
    | .recording code [_] => if k = n ∧ l.process = n then some code else none
    | _ => none
  | _, _ => none

/-- The cell of the call that is begun on a process. -/
def request? (n : Nat) (e : Entry) : Option Text :=
  match e.before.stage, e.after.stage, e.before.live with
  | .calling _ cellId, .sending, some l => if l.process = n then some cellId else none
  | _, _, _ => none

/-- The result that is dispatched from a process to the session. -/
def reply? (n : Nat) (e : Entry) : Option CellResult :=
  match e.move, e.before.live with
  | .hear (.output k o), some l => if k = n ∧ l.process = n then l.heard? o else none
  | _, _ => none

/-- The operation under way after the entry, if `op` was before it. -/
def carry (op : Option Operation) (e : Entry) : Option Operation :=
  if e.answer?.isSome then none else e.call?.or op

end Entry

namespace History

/-- The processes that were started. -/
def started (h : History) : List Nat :=
  h.filterMap Entry.started?

/-- The cells of the calls that were begun on a process. -/
def requests (n : Nat) (h : History) : List Text :=
  h.filterMap (Entry.request? n)

/-- The results that were dispatched from a process. -/
def replies (n : Nat) (h : History) : List CellResult :=
  h.filterMap (Entry.reply? n)

/-- The operation under way. -/
def operation? (h : History) : Option Operation :=
  h.foldl Entry.carry none

end History

/-! ### What entries show -/

theorem Move.IsOwn.no_output {mv : Move} (own : mv.IsOwn) (n : Nat) (o : Output) :
  mv ≠ .hear (.output n o)
  := by
  rcases own with rfl | rfl <;> nofun

namespace Entry

variable {e : Entry}

/-- An operation is taken up by an idle manager that is called. -/
theorem call?_eq_some_iff {op : Operation} :
  e.call? = some op ↔ e.move = .hear (.call op) ∧ e.before.stage = .idle
  := by
  constructor
  · intro called
    unfold call? at called
    split at called
    case h_1 op' move idle =>
      obtain rfl := Option.some.inj called
      exact ⟨move, idle⟩
    case h_2 => cases called
  · rintro ⟨move, idle⟩
    simp only [call?, move, idle]

/-- An own move takes up nothing. -/
theorem call?_of_own (own : e.move.IsOwn) :
  e.call? = none
  := by
  obtain ⟨m, mv, m', actions⟩ := e
  rcases own with rfl | rfl <;> rfl

/-- A busy manager takes up nothing. -/
theorem call?_of_busy (busy : ∀ op, e.move = .hear (.call op) → e.before.stage ≠ .idle) :
  e.call? = none
  := by
  unfold call?
  split
  case h_1 op move stage => cases busy op move stage
  case h_2 => rfl

/-- An own move starts no process. -/
theorem started?_of_own (own : e.move.IsOwn) :
  e.started? = none
  := by
  obtain ⟨m, mv, m', actions⟩ := e
  rcases own with rfl | rfl <;> rfl

/-- No process is started where none is waited for. -/
theorem started?_of_unasked
    (unasked : ∀ n runtime purpose, e.move = .hear (.spawned (.ok n)) →
      e.before.stage ≠ .spawning runtime purpose) :
  e.started? = none
  := by
  unfold started?
  split
  case h_1 n runtime purpose move stage => cases unasked n runtime purpose move stage
  case h_2 => rfl

/-- A process is only reaped when it does something. -/
theorem reaped?_of_no_output (silent : ∀ k o, e.move ≠ .hear (.output k o)) (n : Nat) :
  e.reaped? n = none
  := by
  unfold reaped?
  split
  case h_1 k code l move live => cases silent k _ move
  case h_2 => rfl

/-- No part of an exit is recorded by a move of another kind. -/
theorem recorded?_of_no_output (silent : ∀ k o, e.move ≠ .hear (.output k o)) (n : Nat) :
  e.recorded? n = none
  := by
  unfold recorded?
  split
  case h_1 k l move live => cases silent k _ move
  case h_2 => rfl

/-- The last part of an exit is recorded in the session of the process. -/
theorem last_of_recorded? {n : Nat} {code : Option Int} (recorded : e.recorded? n = some code) :
  e.move = .hear (.output n .recorded)
    ∧ ∃ l p, e.before.session? = some l ∧ l.process = n ∧ l.reader = .recording code [p]
  := by
  unfold recorded? at recorded
  split at recorded
  case h_1 k l move session =>
    split at recorded
    case h_1 code' p reader =>
      split at recorded
      case isTrue same =>
        obtain ⟨rfl, process⟩ := same
        obtain rfl := Option.some.inj recorded
        exact ⟨move, l, p, session, process, reader⟩
      case isFalse => cases recorded
    case h_2 => cases recorded
  case h_2 => cases recorded

/-- A result only comes when a process does something. -/
theorem reply?_of_no_output (silent : ∀ k o, e.move ≠ .hear (.output k o)) (n : Nat) :
  e.reply? n = none
  := by
  unfold reply?
  split
  case h_1 k o l move live => cases silent k o move
  case h_2 => rfl

/-- A result comes from what the process of the session does. -/
theorem heard_of_reply? {n : Nat} {x : CellResult} (reply : e.reply? n = some x) :
  ∃ o l, e.move = .hear (.output n o) ∧ e.before.live = some l ∧ l.process = n
    ∧ l.heard? o = some x
  := by
  unfold reply? at reply
  split at reply
  case h_1 k o l move live =>
    split at reply
    case isTrue same =>
      obtain ⟨rfl, process⟩ := same
      exact ⟨o, l, move, live, process, reply⟩
    case isFalse => cases reply
  case h_2 => cases reply

/-- A call only begins in the stage for it. -/
theorem request?_of_stage (stage : ∀ code cellId, e.before.stage ≠ .calling code cellId) (n : Nat) :
  e.request? n = none
  := by
  unfold request?
  split
  case h_1 code cellId l hstage after live => cases stage code cellId hstage
  case h_2 => rfl

/-- An answer ends the operation under way. -/
theorem carry_of_answer {op : Option Operation} {a : Answer} (answer : e.answer? = some a) :
  e.carry op = none
  := by
  simp only [carry, answer, Option.isSome_some, if_true]

/-- Without an answer, the operation under way is the one taken up, or the one before. -/
theorem carry_of_no_answer {op : Option Operation} (answer : e.answer? = none) :
  e.carry op = e.call?.or op
  := by
  simp only [carry, answer, Option.isSome_none, Bool.false_eq_true, if_false]

end Entry

/-- The entry answers an operation that was under way after a history, or that it took up itself. -/
structure Entry.Returns (e : Entry) (h : History) (op : Operation) (a : Answer) : Prop where
  operation : e.call?.or h.operation? = some op
  answer : e.answer? = some a

/-- The entry takes up nothing, answers nothing, starts no process and begins no call. -/
structure Entry.Quiet (e : Entry) : Prop where
  call : e.call? = none
  answer : e.answer? = none
  started : e.started? = none
  request : ∀ n, e.request? n = none

/-! ### Runs -/

/-- The entry may come after a history: its move can be made, and a process that it starts is told
apart from those before. -/
structure Entry.Follows (e : Entry) (h : History) : Prop where
  possible : e.before.move? e.move = some (e.after, e.actions)
  fresh : ∀ n, e.started? = some n → n ∉ h.started

/-- A history of a manager that was new with the settings `c`. -/
inductive Run (c : KernelConfig) : History → Manager → Prop
  | new : Run c [] { config := c }
  | move {h : History} {e : Entry} :
    Run c h e.before → e.Follows h → Run c (h ++ [e]) e.after

namespace History

@[simp]
theorem started_append (h h' : History) :
  (h ++ h').started = h.started ++ h'.started
  := List.filterMap_append

@[simp]
theorem requests_append (n : Nat) (h h' : History) :
  (h ++ h').requests n = h.requests n ++ h'.requests n
  := List.filterMap_append

@[simp]
theorem replies_append (n : Nat) (h h' : History) :
  (h ++ h').replies n = h.replies n ++ h'.replies n
  := List.filterMap_append

/-- A history is what comes before a place, the entry there, and what comes after. -/
theorem split_at_place {h : History} {i : Nat} {e : Entry} (he : h[i]? = some e) :
  h = h.take i ++ e :: h.drop (i + 1)
  := by
  obtain ⟨hi, rfl⟩ := List.getElem?_eq_some_iff.mp he
  rw [List.getElem_cons_drop, List.take_append_drop]

theorem started_concat (h : History) (e : Entry) :
  started (h ++ [e]) = h.started ++ e.started?.toList
  := by
  rw [started_append]
  cases hn : e.started? <;> simp [started, hn]

theorem replies_concat (n : Nat) (h : History) (e : Entry) :
  replies n (h ++ [e]) = h.replies n ++ (e.reply? n).toList
  := by
  rw [replies_append]
  cases hn : e.reply? n <;> simp [replies, hn]

theorem operation?_concat (h : History) (e : Entry) :
  operation? (h ++ [e]) = e.carry h.operation?
  := by
  simp only [operation?, List.foldl_append, List.foldl_cons, List.foldl_nil]

/-- The operation under way stays so while nothing is taken up or answered. -/
theorem operation?_append {h h' : History}
    (quiet : ∀ e ∈ h', e.call? = none ∧ e.answer? = none) :
  operation? (h ++ h') = h.operation?
  := by
  induction h' using List.reverseRecOn with
  | nil => rw [List.append_nil]
  | append_singleton h' e ih =>
      obtain ⟨hcall, hanswer⟩ := quiet e (by simp)
      rw [← List.append_assoc, operation?_concat, Entry.carry, hanswer, hcall]
      apply ih
      intro d hd
      apply quiet d (List.mem_append_left _ hd)

end History

namespace Run

variable {c : KernelConfig} {h h' : History} {m m' : Manager} {e : Entry}

/-- The last entry of a history leads to the manager, and what comes before it is a history. -/
theorem concat_iff :
  Run c (h ++ [e]) m ↔ Run c h e.before ∧ e.Follows h ∧ m = e.after
  := by
  constructor
  · intro run
    generalize hh : h ++ [e] = h₁ at run
    cases run with
    | new => simp at hh
    | move run follows =>
        obtain ⟨rfl, heq⟩ := List.append_inj' hh rfl
        obtain rfl := List.head_eq_of_cons_eq heq
        exact ⟨run, follows, rfl⟩
  · rintro ⟨run, follows, rfl⟩
    apply Run.move run follows

/-- A history determines the manager. -/
theorem unique (run : Run c h m) (run' : Run c h m') :
  m = m'
  := by
  cases run with
  | new =>
      generalize hh : ([] : History) = h₁ at run'
      cases run' with
      | new => rfl
      | move => simp at hh
  | move _ _ => rw [(concat_iff.mp run').2.2]

/-- The beginning of a history is a history. -/
theorem of_append (run : Run c (h ++ h') m) :
  ∃ m₀, Run c h m₀
  := by
  induction h' using List.reverseRecOn generalizing m with
  | nil =>
      use m
      rwa [List.append_nil] at run
  | append_singleton h' e ih =>
      rw [← List.append_assoc] at run
      apply ih (concat_iff.mp run).1

/-- The history before an entry leads to the manager before it. -/
theorem at_entry (run : Run c (h ++ e :: h') m) :
  Run c h e.before ∧ e.Follows h
  := by
  rw [List.append_cons] at run
  obtain ⟨m₀, run₀⟩ := run.of_append
  obtain ⟨hbefore, hfollows, -⟩ := concat_iff.mp run₀
  exact ⟨hbefore, hfollows⟩

/-- What comes before a place in a history leads to the manager before the entry there. -/
theorem at_place (run : Run c h m) {i : Nat} (he : h[i]? = some e) :
  Run c (h.take i) e.before ∧ e.Follows (h.take i)
  := by
  rw [History.split_at_place he] at run
  exact run.at_entry

end Run

/-! ### Playing moves -/

/-- The history of moves that are made one after the other; those that cannot be made are left
out. -/
def Manager.play (m : Manager) : List Move → History
  | [] => []
  | mv :: mvs =>
    match m.move? mv with
    | none => m.play mvs
    | some (m', actions) => ⟨m, mv, m', actions⟩ :: m'.play mvs

/-- The history of moves that are made from a new manager on. -/
def History.played (c : KernelConfig) (mvs : List Move) : History :=
  Manager.play { config := c } mvs

/-- Playing moves goes on with a history if it starts no process twice. -/
theorem Run.play {c : KernelConfig} {h : History} {m : Manager} (run : Run c h m)
    {mvs : List Move} (fresh : (h ++ m.play mvs).started.Nodup) :
  ∃ m', Run c (h ++ m.play mvs) m'
  := by
  induction mvs generalizing h m with
  | nil =>
      use m
      rwa [Manager.play, List.append_nil]
  | cons mv mvs ih =>
      unfold Manager.play at fresh ⊢
      split
      case h_1 stuck =>
        simp only [stuck] at fresh
        apply ih run fresh
      case h_2 m' actions possible =>
        simp only [possible] at fresh
        rw [List.append_cons] at fresh ⊢
        refine ih (run.move ⟨possible, ?_⟩) fresh
        intro n started earlier
        rw [History.started_append, History.started_concat, started, List.append_assoc] at fresh
        exact (List.nodup_append.mp fresh).2.2 n earlier n (by simp) rfl

theorem Run.played (c : KernelConfig) (mvs : List Move)
    (fresh : (History.played c mvs).started.Nodup) :
  ∃ m, Run c (History.played c mvs) m
  := Run.new.play fresh

instance (e : Entry) (h : History) (op : Operation) (a : Answer) : Decidable (e.Returns h op a) :=
  decidable_of_iff (e.call?.or h.operation? = some op ∧ e.answer? = some a)
    ⟨fun ⟨operation, answer⟩ => ⟨operation, answer⟩, fun ⟨operation, answer⟩ => ⟨operation, answer⟩⟩

/-- A process writes a line. -/
def Move.line (n : Nat) (s : String) : Move :=
  .hear (.output n (.line (Utf8.encode s.toList)))

/-- A session is started with the process `n` to execute a cell. -/
def Move.starting (n : Nat) (cellId : Text) : List Move :=
  [.hear (.call (.execute "1".toList cellId "python".toList)), .proceed,
    .hear (.prepared (.ok "kernel.py".toList)), .hear (.spawned (.ok n))]

/-- A session announces itself, and the call that it was started for is begun. -/
def Move.beginning (n : Nat) : List Move :=
  [.line n "\x7b\"status\": \"ready\"\x7d", .proceed, .proceed, .hear (.written true)]

end Session

end NotebookEngine
