import NotebookEngine.Host.Bounded
import NotebookEngine.Proofs.Host.Paths
import NotebookEngine.Proofs.Text.Utf8

/-!
# What is captured of a process

What a process writes is shown as its octets say, in whatever reads they come
(`Machine.runCut_shows`): the characters in their order, and U+FFFD in the place of each maximal
ill-formed part (`Shows`).
-/

namespace NotebookEngine

namespace Host

/-! ### Reads -/

/-- Reads that are not empty are kept. -/
theorem capture_append (kept : Octets) {reads : List Octets} (given : ∀ read ∈ reads, read ≠ [])
    (answers : List (Except Fault Octets)) :
  capture kept (reads.map .ok ++ answers) = capture (kept ++ reads.flatten) answers
  := by
  induction reads generalizing kept with
  | nil => simp
  | cons read reads ih =>
      have some : read.isEmpty = false := by
        simpa using given read List.mem_cons_self
      rw [List.map_cons, List.cons_append, capture, some, if_neg Bool.false_ne_true,
        ih _ fun r among => given r (List.mem_cons_of_mem _ among)]
      simp

/-- In whatever reads a stream comes, it is kept as it is. -/
theorem Cutting.capture_answers (cutting : Cutting) (stream : Octets) :
  capture [] (cutting.answers stream) = stream
  := by
  rw [answers, capture_append [] fun read among => (cutting.bounded stream read among).1,
    cutting.whole]
  rfl

/-! ### Octets as a text -/

theorem Octets.toBytes_ofBytes (bytes : Bytes) :
  toBytes (ofBytes bytes) = bytes
  := by
  rw [toBytes, ofBytes, List.map_map]
  apply List.map_id''
  intro b
  rw [Function.comp, toNat_character, UInt8.ofNat_toNat]

theorem Octets.toText_ofText (s : Text) :
  toText (ofText s) = s
  := by
  rw [toText, ofText, toBytes_ofBytes, Utf8.decodeLossy_encode]

/-- The text shows the stream: its octets are divided into characters and maximal ill-formed parts
in one way, with nothing between them, and the text has each character and a sign for each
ill-formed part. If the stream is the form of a text, it is shown as that. -/
structure Shows (stream : Octets) (text : Text) : Prop where
  lossy : text = Octets.toText stream
  encoded : ∀ s, stream = Octets.ofText s → text = s
  divided : ∃ ps, Utf8.Divides ps stream.toBytes ∧ (∀ qs, Utf8.Divides qs stream.toBytes → qs = ps)
    ∧ ps.flatMap Utf8.Part.octets = stream.toBytes ∧ text = ps.map Utf8.Part.shown

theorem shows_toText (stream : Octets) :
  Shows stream (Octets.toText stream)
  := by
  obtain ⟨ps, divides, -⟩ := Utf8.exists_divides stream.toBytes
  refine ⟨rfl, ?_, ps, divides, ?_, divides.flatMap_octets, Utf8.decodeLossy_of_divides divides⟩
  · rintro s rfl
    exact Octets.toText_ofText s
  · intro qs divides'
    exact divides'.unique divides

/-! ### Commands -/

namespace Machine

/-- However it is cut, all that comes through a pipe is kept. -/
theorem drain_eq (m : Machine) (cutting : Cutting) (n : Nat) :
  m.drain cutting n = (m.received n, (m.outlast n).release n)
  := by
  rw [drain, cutting.capture_answers]

/-- What a command reports is the same in whatever reads its output and its errors come, and shows
all that came. -/
theorem runCut_shows (m : Machine) (output errors : Cutting) (site : Site) (program : Text)
    (arguments : List Text) (limit : Nat) :
  m.runCut output errors site program arguments limit = m.runBounded site program arguments limit
    ∧ ∀ m' s, m.start site.directory site.environment false (Octets.ofText program)
        (arguments.map Octets.ofText) = .ok (m', s) →
      ∃ report, (m.runCut output errors site program arguments limit).1 = .ok report
        ∧ Shows ((m'.finishWithin s.process limit).2.received s.output) report.stdout
        ∧ Shows (((m'.finishWithin s.process limit).2.drain output s.output).2.received s.errors)
            report.stderr
  := by
  constructor
  · simp only [runBounded, runCut, drain_eq]
  · intro m' s started
    rw [runCut, started]
    simp only [drain_eq, Except.ok.injEq, exists_eq_left']
    exact ⟨shows_toText _, shows_toText _⟩

/-! ### A character cut in two -/

/-- Each octet comes by itself. -/
def octetwise : Cutting where
  reads stream := stream.map fun c => [c]
  bounded stream read among := by
    obtain ⟨c, -, rfl⟩ := List.mem_map.mp among
    exact ⟨List.cons_ne_nil _ _, Nat.succ_le_succ (Nat.zero_le _)⟩
  whole stream := by
    induction stream with
    | nil => rfl
    | cons c stream ih => rw [List.map_cons, List.flatten_cons, ih, List.singleton_append]

/-- A program that writes a character in two parts, and then an octet that begins no character
before the beginning of one. -/
def stammerer : Behaviour :=
  .ask (.write 1 (Octets.ofBytes [0xC3])) fun _ =>
    .ask (.write 1 (Octets.ofBytes [0xA9, 0x21, 0xFF, 0xE2, 0x82])) fun _ =>
      .ended 0

/-- A machine whose only program is the stammerer. -/
def stammering : Machine where
  files := ({} : Files).put ["stammerer".toList] (.program "stammerer".toList)
  programs := fun _ _ _ => stammerer

/-- The character comes in two reads and is shown whole; each of the ill-formed parts is shown by
one sign. -/
theorem runCut_shows_stammering :
  ∃ m' s report, stammering.start [] [] false (Octets.ofText "/stammerer".toList) [] = .ok (m', s)
    ∧ (stammering.runCut octetwise .full {} "/stammerer".toList [] 1000).1 = .ok report
    ∧ Shows ((m'.finishWithin s.process 1000).2.received s.output) report.stdout
    ∧ report = ⟨.exited (.code 0), "é!\uFFFD\uFFFD".toList, []⟩
  := by
  obtain ⟨-, shows⟩ := runCut_shows stammering octetwise .full {} "/stammerer".toList [] 1000
  have starts :
      (stammering.start [] [] false (Octets.ofText "/stammerer".toList) []).isOk = true := by
    decide +kernel
  have reported : (stammering.runCut octetwise .full {} "/stammerer".toList [] 1000).1
      = .ok ⟨.exited (.code 0), "é!\uFFFD\uFFFD".toList, []⟩ := by
    decide +kernel
  cases started : stammering.start [] [] false (Octets.ofText "/stammerer".toList) [] with
  | error fault =>
      rw [started] at starts
      cases starts
  | ok a =>
      obtain ⟨report, ran, output, -⟩ := shows a.1 a.2 started
      exact ⟨a.1, a.2, report, rfl, ran, output, Except.ok.inj (ran.symm.trans reported)⟩

end Machine

end Host

end NotebookEngine
