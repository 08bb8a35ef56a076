import Mathlib.Data.List.Basic
import NotebookEngine.Proofs.Session.Processes
import NotebookEngine.Session.Hosted

/-!
# Lines that are no message

A line that is a text and no message is noise. Whoever hears it stays as he was, so a run with noise
put in or left out, wherever it may be, is a run to the same manager, and its other entries are the
same (`Run.with_noise`, `Run.eq_of_noise`). In the pipe of a process, noise is taken from before
the next line (`Hosted.Offers.tell_noise`).

A line that is no text is not noise. It is the last one that its session reads
(`Entry.Follows.deafened`): the slot stays as it is, but no later line of the process is dispatched
(`Run.deaf`).
-/

namespace NotebookEngine

namespace Session

variable {m m' : Manager} {mv : Move} {actions : List Action} {c : KernelConfig} {h h' : History}
  {e : Entry} {l : Live} {n : Nat} {octets : Bytes}

/-- The octets are a text that is no message. -/
def isNoise (octets : Bytes) : Bool :=
  match (Utf8.decode? octets).map Message.ofLine with
  | some (.error _) => true
  | _ => false

/-- The octets are no message, whether they are a text or not. -/
def isMute (octets : Bytes) : Bool :=
  match (Utf8.decode? octets).map Message.ofLine with
  | some (.ok _) => false
  | _ => true

/-- A process writes a line of a kind. -/
def Move.brings (kind : Bytes → Bool) : Move → Bool
  | .hear (.output _ (.line octets)) => kind octets
  | _ => false

/-- The moves that bring no line of a kind. -/
def Move.without (kind : Bytes → Bool) (mvs : List Move) : List Move :=
  mvs.filter fun mv => !mv.brings kind

namespace History

/-- The moves that were made. -/
def moves (h : History) : List Move :=
  h.map Entry.move

/-- The answers that were given. -/
def answers (h : History) : List Answer :=
  h.filterMap Entry.answer?

/-- The entries that bring no line of a kind. -/
def without (kind : Bytes → Bool) (h : History) : History :=
  h.filter fun e => !e.move.brings kind

/-- The moves of the entries that bring no line of a kind are the moves that bring none. -/
theorem moves_without (kind : Bytes → Bool) (h : History) :
  (h.without kind).moves = Move.without kind h.moves
  := by
  rw [moves, moves, without, Move.without, List.filter_map]
  rfl

end History

/-- Two runs are alike: the sessions are as ready and have the same call, and the same answers were
given and the same results dispatched. -/
structure Alike (h : History) (m : Manager) (h' : History) (m' : Manager) : Prop where
  ready : m'.isReady = m.isReady
  call : m'.live.map (·.slot.call) = m.live.map (·.slot.call)
  answers : h'.answers = h.answers
  replies : ∀ n, h'.replies n = h.replies n

/-- Runs that differ in lines of a kind only are alike. -/
def Unseen (c : KernelConfig) (kind : Bytes → Bool) : Prop :=
  ∀ h m h' m', Run c h m → Run c h' m' →
    Move.without kind h'.moves = Move.without kind h.moves → Alike h m h' m'

/-! ### Hearing noise -/

theorem isNoise_iff :
  isNoise octets = true
    ↔ ∃ line f, Utf8.decode? octets = some line ∧ Message.ofLine line = .error f
  := by
  unfold isNoise
  cases Utf8.decode? octets with
  | none => simp
  | some line => cases reads : Message.ofLine line <;> simp [reads]

/-- A session that hears noise stays as it was. -/
theorem Live.hear_noise (noise : isNoise octets = true) :
  l.hear n (.line octets) = l
  := by
  obtain ⟨line, f, decodes, reads⟩ := isNoise_iff.mp noise
  unfold hear
  split
  case isFalse => rfl
  case isTrue =>
    simp only [notice, decodes]
    split
    case h_1 reading same =>
      obtain rfl := Option.some.inj same
      simp only [Slot.readLine, reads]
    case h_2 same => cases same
    case h_3 => rfl

/-- A manager that hears noise stays as it was. -/
theorem Manager.notice_noise (noise : isNoise octets = true) :
  m.notice n (.line octets) = m
  := by
  apply notice_eq_self
  intro l _
  apply Live.hear_noise noise

/-- Noise can come at any time, and does nothing. -/
theorem Manager.move?_of_noise (noise : mv.brings isNoise = true) :
  m.move? mv = some (m, [])
  := by
  unfold Move.brings at noise
  split at noise
  case h_1 n octets => rw [move?, receive, notice_noise noise]
  case h_2 => cases noise

/-- An entry that brings a line starts no process. -/
theorem Entry.started?_of_brings {kind : Bytes → Bool} (brings : e.move.brings kind = true) :
  e.started? = none
  := by
  apply started?_of_unasked
  intro n runtime purpose move
  rw [move] at brings
  cases brings

/-- The entry of noise leaves the manager as it was. -/
theorem Entry.Follows.noise (follows : e.Follows h) (noise : e.move.brings isNoise = true) :
  e.after = e.before ∧ e.actions = []
  := by
  have possible := follows.possible
  rw [Manager.move?_of_noise noise] at possible
  obtain ⟨after, actions⟩ := Prod.mk.inj (Option.some.inj possible)
  exact ⟨after.symm, actions.symm⟩

/-! ### Runs with and without noise -/

namespace History

/-- What no line of a kind shows is read off the other entries. -/
theorem filterMap_without {α : Type} {kind : Bytes → Bool} {f : Entry → Option α}
    (silent : ∀ e ∈ h, e.move.brings kind = true → f e = none) :
  (h.without kind).filterMap f = h.filterMap f
  := by
  rw [without, List.filterMap_filter]
  apply List.filterMap_congr
  intro e he
  cases brings : e.move.brings kind with
  | false => rfl
  | true => exact (silent e he brings).symm

/-- Lines start no process. -/
theorem started_without (kind : Bytes → Bool) (h : History) :
  (h.without kind).started = h.started
  := filterMap_without fun _ _ => Entry.started?_of_brings

theorem without_concat_of_brings {kind : Bytes → Bool} (brings : e.move.brings kind = true) :
  without kind (h ++ [e]) = h.without kind
  := by
  simp [without, brings]

theorem without_concat_of_not_brings {kind : Bytes → Bool} (brings : e.move.brings kind = false) :
  without kind (h ++ [e]) = h.without kind ++ [e]
  := by
  simp [without, brings]

end History

namespace Run

/-- The moves that were made determine the history. -/
theorem eq_of_moves (run : Run c h m) (run' : Run c h' m') (same : h'.moves = h.moves) :
  h' = h ∧ m' = m
  := by
  induction run generalizing h' m' with
  | new =>
      obtain rfl := List.map_eq_nil_iff.mp same
      exact ⟨rfl, run'.unique .new⟩
  | @move h e run follows ih =>
      rw [History.moves, History.moves, List.map_append] at same
      obtain ⟨h₀, tail, rfl, same₀, last⟩ := List.map_eq_append_iff.mp same
      obtain ⟨e', rfl, move⟩ := List.map_eq_singleton_iff.mp last
      obtain ⟨before, follows', rfl⟩ := concat_iff.mp run'
      obtain ⟨rfl, sameBefore⟩ := ih before same₀
      have possible := follows'.possible
      rw [move, sameBefore, follows.possible] at possible
      obtain ⟨after, actions⟩ := Prod.mk.inj (Option.some.inj possible)
      obtain ⟨m₀, mv₀, m₁, as⟩ := e
      obtain ⟨m₀', mv₀', m₁', as'⟩ := e'
      simp_all

/-- A run without its noise is a run to the same manager. -/
theorem without_noise (run : Run c h m) :
  Run c (h.without isNoise) m
  := by
  induction run with
  | new => exact .new
  | @move h e run follows ih =>
      cases noise : e.move.brings isNoise with
      | true =>
          rw [History.without_concat_of_brings noise, (follows.noise noise).1]
          exact ih
      | false =>
          rw [History.without_concat_of_not_brings noise]
          apply ih.move ⟨follows.possible, _⟩
          rw [History.started_without]
          exact follows.fresh

/-- Noise may be put into a run without any, at any places. -/
theorem with_noise (run : Run c h m) {mvs : List Move}
    (same : Move.without isNoise mvs = h.moves) :
  ∃ h', Run c h' m ∧ h'.moves = mvs ∧ h'.without isNoise = h
  := by
  induction mvs using List.reverseRecOn generalizing h m with
  | nil =>
      obtain rfl := List.map_eq_nil_iff.mp same.symm
      exact ⟨[], run, rfl, rfl⟩
  | append_singleton mvs mv ih =>
      cases noise : mv.brings isNoise with
      | true =>
          have fewer : Move.without isNoise (mvs ++ [mv]) = Move.without isNoise mvs := by
            simp [Move.without, noise]
          obtain ⟨h', run', moves, rest⟩ := ih run (fewer.symm.trans same)
          have follows : Entry.Follows ⟨m, mv, m, []⟩ h' := by
            refine ⟨Manager.move?_of_noise noise, ?_⟩
            intro n started
            cases (Entry.started?_of_brings noise).symm.trans started
          refine ⟨_, run'.move follows, ?_, ?_⟩
          · simpa [History.moves] using moves
          · rw [History.without_concat_of_brings noise, rest]
      | false =>
          have both : Move.without isNoise (mvs ++ [mv]) = Move.without isNoise mvs ++ [mv] := by
            simp [Move.without, noise]
          obtain ⟨h₀, tail, rfl, same₀, last⟩ :=
            List.map_eq_append_iff.mp (same.symm.trans both)
          obtain ⟨e, rfl, rfl⟩ := List.map_eq_singleton_iff.mp last
          obtain ⟨before, follows, rfl⟩ := concat_iff.mp run
          obtain ⟨h', run', moves, rfl⟩ := ih before same₀.symm
          have follows' : e.Follows h' := by
            refine ⟨follows.possible, ?_⟩
            rw [← History.started_without isNoise h']
            exact follows.fresh
          refine ⟨_, run'.move follows', ?_, ?_⟩
          · simpa [History.moves] using moves
          · rw [History.without_concat_of_not_brings noise]

/-- Noise brings no result and no answer. -/
theorem silent_noise (run : Run c h m) (he : e ∈ h) (noise : e.move.brings isNoise = true) :
  e.answer? = none ∧ ∀ n, e.reply? n = none
  := by
  obtain ⟨h₁, h₂, rfl⟩ := List.append_of_mem he
  obtain ⟨-, follows⟩ := run.at_entry
  refine ⟨by rw [Entry.answer?, (follows.noise noise).2]; rfl, ?_⟩
  intro n
  cases reply : e.reply? n with
  | none => rfl
  | some x =>
      obtain ⟨o, l, move, -, -, heard⟩ := Entry.heard_of_reply? reply
      rw [move] at noise
      cases o with
      | line octets =>
          obtain ⟨line, f, decodes, reads⟩ := isNoise_iff.mp noise
          simp [Live.heard?, decodes, reads] at heard
      | ended | exited _ | recorded => cases noise

/-- Runs that differ in noise only end in the same manager, and their other entries are the same. -/
theorem eq_of_noise (run : Run c h m) (run' : Run c h' m')
    (same : Move.without isNoise h'.moves = Move.without isNoise h.moves) :
  m' = m ∧ h'.without isNoise = h.without isNoise
  := by
  rw [← History.moves_without, ← History.moves_without] at same
  obtain ⟨rest, last⟩ := run.without_noise.eq_of_moves run'.without_noise same
  exact ⟨last, rest⟩

/-- Runs that differ in noise only are alike. -/
theorem alike_of_noise (run : Run c h m) (run' : Run c h' m')
    (same : Move.without isNoise h'.moves = Move.without isNoise h.moves) :
  Alike h m h' m'
  := by
  obtain ⟨rfl, rest⟩ := run.eq_of_noise run' same
  refine ⟨rfl, rfl, ?_, ?_⟩
  · calc h'.answers
      _ = (h'.without isNoise).answers :=
        (History.filterMap_without fun e he noise => (run'.silent_noise he noise).1).symm
      _ = (h.without isNoise).answers := by rw [rest]
      _ = h.answers := History.filterMap_without fun e he noise => (run.silent_noise he noise).1
  · intro n
    calc h'.replies n
      _ = (h'.without isNoise).replies n :=
        (History.filterMap_without fun e he noise => (run'.silent_noise he noise).2 n).symm
      _ = (h.without isNoise).replies n := by rw [rest]
      _ = h.replies n := History.filterMap_without fun e he noise => (run.silent_noise he noise).2 n

end Run

/-! ### Lines that are no text -/

/-- A reader that has stopped does not start again. -/
theorem Reader.Step.ne_reading {r r' : Reader} (step : r.Step e n r') (stopped : r ≠ .reading) :
  r' ≠ .reading
  := by
  cases step with
  | same => exact stopped
  | stopped | reaped | recorded => nofun

/-- A session whose output is not read stays as it was, whatever the line. -/
theorem Live.hear_line_of_ne_reading (stopped : l.reader ≠ .reading) :
  l.hear n (.line octets) = l
  := by
  obtain ⟨runtime, process, reader, slot⟩ := l
  cases reader with
  | reading => cases stopped rfl
  | reaping | recording code left => simp [hear, notice]

/-- A line that is no text stops the reading, and nothing else. -/
theorem Live.hear_line_of_not_text (text : Utf8.decode? octets = none) :
  l.hear l.process (.line octets) = { l with reader := l.reader.stop }
  := by
  obtain ⟨runtime, process, reader, slot⟩ := l
  cases reader <;> simp [hear, notice, text, Reader.stop]

/-- The line is the last one that the session of its process reads. -/
theorem Entry.Follows.deafened (follows : e.Follows h) (session : e.before.session? = some l)
    (move : e.move = .hear (.output l.process (.line octets))) (text : Utf8.decode? octets = none) :
  e.actions = [] ∧ e.after.session? = some { l with reader := l.reader.stop }
  := by
  have possible := follows.possible
  rw [move] at possible
  obtain ⟨after, actions⟩ := Prod.mk.inj (Option.some.inj possible)
  refine ⟨actions.symm, ?_⟩
  rw [← after, Manager.notice_session?, session, Option.map_some, Live.hear_line_of_not_text text]

/-- Once the output of a session is not read any more, no line of its process does anything. -/
theorem Run.deaf (run : Run c h m) (run' : Run c (h ++ h') m') (session : m.session? = some l)
    (stopped : l.reader ≠ .reading) (octets : Bytes) :
  m'.notice l.process (.line octets) = m'
  := by
  apply Manager.notice_eq_self
  intro l' session'
  by_cases same : l'.process = l.process
  · apply Live.hear_line_of_ne_reading
    apply run.session_stays _ run' session session' same stopped
    intro e k k' before _ step
    exact (step.reader before).ne_reading
  · rw [Live.hear, if_neg same]

/-! ### Lines in a pipe -/

/-- The octets of a line without a carriage return at its end. -/
def trimmed (line : Host.Octets) : Bytes :=
  Host.Octets.toBytes ((Text.stripSuffix? ['\r'] line).getD line)

namespace Hosted

open Host (Octets Machine)

variable {x : Hosted} {s : Machine.Started} {line rest : Octets} {withExit : Bool}

/-- The line `line` is the first one in the output of the process of the session, which is read, and
`rest` comes after it. -/
structure Offers (x : Hosted) (l : Live) (s : Machine.Started) (line rest : Octets) : Prop where
  session : x.queue.manager.session? = some l
  started : x.started = some s
  process : l.process = s.process
  reader : l.reader = .reading
  content : (x.machine.pipe s.output).content = line ++ '\n' :: rest
  whole : '\n' ∉ line

/-- The hosted session with something else in the output of its process. -/
def offering (x : Hosted) (s : Machine.Started) (rest : Octets) : Hosted :=
  { x with machine :=
      x.machine.setPipe s.output { x.machine.pipe s.output with content := rest } }

/-- The first line is what is noticed next, and what comes after it stays. -/
theorem Offers.noticed (offers : x.Offers l s line rest) :
  x.noticed? withExit x.machine
    = some (s.process, .line (trimmed line), (x.offering s rest).machine)
  := by
  obtain ⟨session, started, process, reader, content, whole⟩ := offers
  have first : (line ++ '\n' :: rest).takeWhile (· ≠ '\n') = line := by
    rw [List.takeWhile_append_of_pos]
    · simp
    · intro a ha
      simpa using fun same : a = '\n' => whole (same ▸ ha)
  have after : (line ++ '\n' :: rest).drop (line.length + 1) = rest := by simp
  have more : line.length < (line ++ '\n' :: rest).length := by simp
  simp only [noticed?, session, started, nextOutput, process, ne_eq, not_true_eq_false, if_false,
    reader, content, first, after, more, if_true, Option.map_some, trimmed, offering]

/-- Noise is taken out of the output, and nothing else is done. -/
theorem Offers.tell_noise (offers : x.Offers l s line rest) (noise : isNoise (trimmed line) = true) :
  (x.noticed? withExit x.machine).map x.tell = some (x.offering s rest)
  := by
  have heard : x.queue.hear (.output s.process (.line (trimmed line))) = (x.queue, []) := by
    rw [Queue.hear, Manager.receive, Manager.notice_noise noise]
    simp [Queue.after, answerAmong?]
  simp only [offers.noticed, Option.map_some, tell, heard, List.append_nil, offering]

end Hosted

/-! ### What is seen of lines that are no message -/

/-- Of the lines that are no message:
a run with texts among them put in or left out, at any places, is a run to the same manager, its
other entries are the same, and it gives the same answers and dispatches the same results;
a text among them is only taken out of the output of its process;
and one that is no text leaves the slot as it is, but no later line of its process does anything. -/
theorem Run.invisible (run : Run c h m) :
  (∀ mvs, Move.without isNoise mvs = Move.without isNoise h.moves →
      ∃ h', Run c h' m ∧ h'.moves = mvs)
    ∧ (∀ h' m', Run c h' m' → Move.without isNoise h'.moves = Move.without isNoise h.moves →
      m' = m ∧ h'.without isNoise = h.without isNoise ∧ Alike h m h' m')
    ∧ (∀ (x : Hosted) (l : Live) (s : Host.Machine.Started) (line rest : Host.Octets)
      (withExit : Bool), x.queue.manager = m → x.Offers l s line rest →
      isNoise (trimmed line) = true →
      (x.noticed? withExit x.machine).map x.tell = some (x.offering s rest))
    ∧ (∀ (h₁ : History) (e : Entry) (h₂ : History) (l : Live) (octets : Bytes),
      h = h₁ ++ e :: h₂ → e.before.session? = some l → l.reader = .reading →
      e.move = .hear (.output l.process (.line octets)) → Utf8.decode? octets = none →
      e.actions = [] ∧ e.after.session? = some { l with reader := .reaping }
        ∧ ∀ octets', m.notice l.process (.line octets') = m)
  := by
  refine ⟨?_, ?_, ?_, ?_⟩
  · intro mvs same
    rw [← History.moves_without] at same
    obtain ⟨h', run', moves, -⟩ := run.without_noise.with_noise same
    exact ⟨h', run', moves⟩
  · intro h' m' run' same
    obtain ⟨last, rest⟩ := run.eq_of_noise run' same
    exact ⟨last, rest, run.alike_of_noise run' same⟩
  · rintro x l s line rest withExit - offers noise
    exact offers.tell_noise noise
  · rintro h₁ e h₂ l octets rfl session reading move text
    obtain ⟨before, follows⟩ := run.at_entry
    obtain ⟨actions, after⟩ := follows.deafened session move text
    rw [reading, Reader.stop] at after
    refine ⟨actions, after, ?_⟩
    rw [List.append_cons] at run
    exact (before.move follows).deaf (l := { l with reader := .reaping }) run after (by rintro ⟨⟩)

/-- A session is started to execute the cell `a`, and the result comes after some lines. -/
def resultMoves (lines : List Bytes) : List Move :=
  Move.starting 1 "a".toList ++ Move.beginning 1
    ++ lines.map (fun octets => .hear (.output 1 (.line octets)))
    ++ [.line 1 "\x7b\"cell_id\": \"a\", \"status\": \"ok\", \"result\": \"1\"\x7d",
      .hear .expired]

/-- A warning before the result changes nothing; after a line that is no text, no line does
anything. -/
theorem invisible_warning :
  ∃ m, Run {} (.played {} (resultMoves [])) m
    ∧ (∃ h', Run {} h' m ∧ h'.moves = resultMoves [Utf8.encode "warning".toList])
    ∧ ∃ m', Run {} (.played {} (resultMoves [[0xff]])) m'
      ∧ ∀ octets, m'.notice 1 (.line octets) = m'
  := by
  obtain ⟨m, run⟩ := Run.played {} (resultMoves []) (by decide +kernel)
  obtain ⟨m', run'⟩ := Run.played {} (resultMoves [[0xff]]) (by decide +kernel)
  obtain ⟨put, -⟩ := run.invisible
  obtain ⟨-, -, -, deaf⟩ := run'.invisible
  refine ⟨m, run, put _ (by decide +kernel), m', run', ?_⟩
  have broken : ∃ e ∈ (History.played {} (resultMoves [[0xff]]))[8]?,
      e.move = .hear (.output 1 (.line [0xff]))
        ∧ ∃ l ∈ e.before.session?, l.process = 1 ∧ l.reader = .reading := by decide +kernel
  obtain ⟨e, he, move, l, session, process, reading⟩ := broken
  obtain ⟨-, -, nothing⟩ := deaf _ e _ l _ (History.split_at_place he) session reading
    (process ▸ move) (by decide +kernel)
  rw [process] at nothing
  exact nothing

/-- With a line that is no text before the result, the call runs out of time. -/
theorem not_unseen :
  ¬ Unseen {} isMute
  := by
  intro unseen
  obtain ⟨m, run⟩ := Run.played {} (resultMoves []) (by decide +kernel)
  obtain ⟨m', run'⟩ := Run.played {} (resultMoves [[0xff]]) (by decide +kernel)
  have answers := (unseen _ _ _ _ run run' (by decide +kernel)).answers
  revert answers
  decide +kernel

end Session

end NotebookEngine
