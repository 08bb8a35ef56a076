import NotebookEngine.CommandLine.Answer
import NotebookEngine.Proofs.Json.Settings

/-!
# Configuration files

The settings in a configuration file, those of the engine and within them those of the toolchains and
of the interpreter session, by their schemata. A file that holds an object of typed members gives the
defaults with the members in the place of what they give, in whatever order they come and whatever
stands between them; an object that gives a setting twice, on any of the levels, is refused
(`configuration_of_holds`).
-/

namespace NotebookEngine

open Json

/-! ### Toolchains -/

namespace Overrides

/-- The name of the path of a toolchain. -/
def name : Toolchain → String
  | .python => "python"
  | .rustc => "rustc"
  | .javascript => "javascript"
  | .typescript => "typescript"

/-- The paths with that of a toolchain replaced. -/
def put (t : Toolchain) (p : Option Text) (o : Overrides) : Overrides :=
  match t with
  | .python => { o with python := p }
  | .rustc => { o with rustc := p }
  | .javascript => { o with javascript := p }
  | .typescript => { o with typescript := p }

/-- The paths of the toolchains. -/
def schema : Schema Overrides Toolchain where
  keys := Toolchain.all
  name := name
  Value _ := Option Text
  get t o := o.path? t
  put := put
  reader _ := pathReader.optional
  Denotes _ := DenotesOptional
  levels := 0
  complete t := by cases t <;> decide
  distinct := by
    intro t u same
    cases t <;> cases u <;> first | rfl | exact absurd same (by decide)
  get_put t _ _ := by cases t <;> rfl
  get_put_of_ne := by
    intro t u p o other
    cases t <;> cases u <;> first | rfl | exact absurd rfl other
  ext := by
    intro o o' same
    cases o
    cases o'
    rw [mk.injEq]
    exact ⟨same .python, same .rustc, same .javascript, same .typescript⟩
  measured _ := (exact_text _).optional
  reads denotes depth _ := denotes.reads _ depth

theorem reader_eq :
  reader = (schema.record "struct ToolchainOverrides" {}).reader
  := rfl

theorem exact_reader :
  reader.Exact
  := by
  rw [reader_eq]
  apply Schema.exact_reader

end Overrides

/-! ### The interpreter session -/

namespace KernelConfig

/-- A setting of the session. -/
inductive Key where
  | script
  | interpreterArguments
  | requestTimeout
  | startupTimeout
  | shutdownGrace
deriving DecidableEq

/-- The type of a setting. -/
def Key.Value : Key → Type
  | .script => Option Text
  | .interpreterArguments => List Text
  | .requestTimeout | .startupTimeout | .shutdownGrace => Nat

/-- The settings of the session. -/
def schema : Schema KernelConfig Key where
  keys := [.script, .interpreterArguments, .requestTimeout, .startupTimeout, .shutdownGrace]
  name
    | .script => "script"
    | .interpreterArguments => "interpreter_args"
    | .requestTimeout => "request_timeout"
    | .startupTimeout => "startup_timeout"
    | .shutdownGrace => "shutdown_grace"
  Value := Key.Value
  get
    | .script, c => c.script
    | .interpreterArguments, c => c.interpreterArguments
    | .requestTimeout, c => c.requestTimeout
    | .startupTimeout, c => c.startupTimeout
    | .shutdownGrace, c => c.shutdownGrace
  put
    | .script, p, c => { c with script := p }
    | .interpreterArguments, l, c => { c with interpreterArguments := l }
    | .requestTimeout, n, c => { c with requestTimeout := n }
    | .startupTimeout, n, c => { c with startupTimeout := n }
    | .shutdownGrace, n, c => { c with shutdownGrace := n }
  reader
    | .script => pathReader.optional
    | .interpreterArguments => (Reader.text "a string".toList).list
    | .requestTimeout | .startupTimeout | .shutdownGrace => millisecondsReader
  Denotes
    | .script => DenotesOptional
    | .interpreterArguments => DenotesTexts
    | .requestTimeout | .startupTimeout | .shutdownGrace => DenotesWord 64
  levels := 1
  complete k := by cases k <;> decide
  distinct := by
    intro k l same
    cases k <;> cases l <;> first | rfl | exact absurd same (by decide)
  get_put k _ _ := by cases k <;> rfl
  get_put_of_ne := by
    intro k l v c other
    cases k <;> cases l <;> first | rfl | exact absurd rfl other
  ext := by
    intro c c' same
    cases c
    cases c'
    rw [mk.injEq]
    exact ⟨same .script, same .interpreterArguments, same .requestTimeout, same .startupTimeout,
      same .shutdownGrace⟩
  measured
    | .script => (exact_text _).optional
    | .interpreterArguments => (exact_text _).list
    | .requestTimeout | .startupTimeout | .shutdownGrace => exact_word 64
  reads := by
    intro k t v denotes depth deep
    obtain ⟨depth, rfl⟩ := Nat.exists_eq_add_one.mpr deep
    cases k with
    | script => exact DenotesOptional.reads denotes _ _
    | interpreterArguments => exact DenotesTexts.reads denotes _ depth
    | requestTimeout | startupTimeout | shutdownGrace => exact DenotesWord.reads denotes le_rfl _

theorem reader_eq :
  reader = (schema.record "struct KernelConfig" {}).reader
  := rfl

theorem exact_reader :
  reader.Exact
  := by
  rw [reader_eq]
  apply Schema.exact_reader

end KernelConfig

/-! ### The engine -/

namespace Config

/-- A setting of the engine. -/
inductive Key where
  | tempDir
  | runTimeout
  | compileTimeout
  | rustEdition
  | inspectDepth
  | toolchains
  | kernel
deriving DecidableEq

/-- The type of a setting. -/
def Key.Value : Key → Type
  | .tempDir | .rustEdition => Text
  | .runTimeout | .compileTimeout | .inspectDepth => Nat
  | .toolchains => Overrides
  | .kernel => KernelConfig

/-- The settings of the engine. Those of the toolchains and of the session are objects themselves. -/
def schema : Schema Config Key where
  keys := [.tempDir, .runTimeout, .compileTimeout, .rustEdition, .inspectDepth, .toolchains, .kernel]
  name
    | .tempDir => "temp_dir"
    | .runTimeout => "run_timeout"
    | .compileTimeout => "compile_timeout"
    | .rustEdition => "rust_edition"
    | .inspectDepth => "inspect_depth"
    | .toolchains => "toolchains"
    | .kernel => "kernel"
  Value := Key.Value
  get
    | .tempDir, c => c.tempDir
    | .runTimeout, c => c.runTimeout
    | .compileTimeout, c => c.compileTimeout
    | .rustEdition, c => c.rustEdition
    | .inspectDepth, c => c.inspectDepth
    | .toolchains, c => c.toolchains
    | .kernel, c => c.kernel
  put
    | .tempDir, p, c => { c with tempDir := p }
    | .runTimeout, n, c => { c with runTimeout := n }
    | .compileTimeout, n, c => { c with compileTimeout := n }
    | .rustEdition, s, c => { c with rustEdition := s }
    | .inspectDepth, n, c => { c with inspectDepth := n }
    | .toolchains, o, c => { c with toolchains := o }
    | .kernel, k, c => { c with kernel := k }
  reader
    | .tempDir => pathReader
    | .runTimeout | .compileTimeout => millisecondsReader
    | .rustEdition => Reader.text "a string".toList
    | .inspectDepth => Reader.word 32
    | .toolchains => Overrides.reader
    | .kernel => KernelConfig.reader
  Denotes
    | .tempDir | .rustEdition => DenotesText
    | .runTimeout | .compileTimeout => DenotesWord 64
    | .inspectDepth => DenotesWord 32
    | .toolchains => Overrides.schema.Describes {}
    | .kernel => KernelConfig.schema.Describes {}
  levels := 2
  complete k := by cases k <;> decide
  distinct := by
    intro k l same
    cases k <;> cases l <;> first | rfl | exact absurd same (by decide)
  get_put k _ _ := by cases k <;> rfl
  get_put_of_ne := by
    intro k l v c other
    cases k <;> cases l <;> first | rfl | exact absurd rfl other
  ext := by
    intro c c' same
    cases c
    cases c'
    rw [mk.injEq]
    exact ⟨same .tempDir, same .runTimeout, same .compileTimeout, same .rustEdition,
      same .inspectDepth, same .toolchains, same .kernel⟩
  measured
    | .tempDir | .rustEdition => exact_text _
    | .runTimeout | .compileTimeout => exact_word 64
    | .inspectDepth => exact_word 32
    | .toolchains => Overrides.exact_reader
    | .kernel => KernelConfig.exact_reader
  reads := by
    intro k t v denotes depth deep
    obtain ⟨depth, rfl⟩ := Nat.exists_eq_add_of_le' (Nat.le_of_succ_le deep)
    cases k with
    | tempDir | rustEdition => exact DenotesText.reads denotes _ _
    | runTimeout | compileTimeout => exact DenotesWord.reads denotes le_rfl _
    | inspectDepth => exact DenotesWord.reads denotes (by decide) _
    | toolchains => exact Schema.Describes.reads denotes (Nat.zero_le _) _
    | kernel => exact Schema.Describes.reads denotes (Nat.le_of_succ_le_succ deep) _

theorem reader_eq (tempDir : Text) :
  reader tempDir = (schema.record "struct EngineConfig" { tempDir }).reader
  := rfl

theorem exact_reader (tempDir : Text) :
  (reader tempDir).Exact
  := by
  rw [reader_eq]
  apply Schema.exact_reader

/-- Some setting is given twice, on one of the levels. -/
inductive Repeats (bs : List Binding) : Prop
  | here (twice : schema.Repeats bs)
  | toolchains {b : Binding} (among : b ∈ bs) (names : schema.Names b .toolchains)
    (twice : Overrides.schema.RepeatsIn b.item.text)
  | kernel {b : Binding} (among : b ∈ bs) (names : schema.Names b .kernel)
    (twice : KernelConfig.schema.RepeatsIn b.item.text)

variable {bs : List Binding} {before after closing : Text}

/-- The text of an object of typed members gives the defaults with what the members give. -/
theorem ofText_of_typed (typed : schema.Typed bs) (leading : Gap before) (blank : Gap closing)
    (trailing : Gap after) (tempDir : Text) :
  ∃ c, schema.Replaced { tempDir } bs c
    ∧ ofText tempDir (before ++ (objectText bs closing ++ after)) = .ok c
  := by
  obtain ⟨c, replaced, reads⟩ :=
    typed.reads (show 2 ≤ 126 by decide) "struct EngineConfig" { tempDir } blank
  exact ⟨c, replaced, Reads.read reads leading trailing⟩

/-- No text of an object that gives a setting twice is read. -/
theorem ofText_of_repeats (wellFormed : ∀ b ∈ bs, WellFormed b.item.text) (repeats : Repeats bs)
    (leading : Gap before) (blank : Gap closing) (trailing : Gap after) (tempDir : Text) :
  ∃ fault, ofText tempDir (before ++ (objectText bs closing ++ after)) = .error fault
  := by
  cases read : ofText tempDir (before ++ (objectText bs closing ++ after)) with
  | error fault => exact ⟨fault, rfl⟩
  | ok c =>
      exfalso
      have accepts := (exact_reader tempDir).accepts (.object wellFormed blank) leading trailing read
      rw [reader_eq] at accepts
      obtain ⟨once, given⟩ := Schema.of_accepts wellFormed blank accepts
      cases repeats with
      | here twice => exact once twice
      | toolchains among names twice =>
          obtain ⟨o, accepts⟩ := given _ among _ names
          exact twice.refused accepts
      | kernel among names twice =>
          obtain ⟨k, accepts⟩ := given _ among _ names
          exact twice.refused accepts

end Config

/-! ### Files -/

namespace CommandLine

open Host (Files Machine Octets Site)

/-- A file holds an object of the members, and nothing else. -/
def Holds (site : Site) (m : Machine) (path : Text) (bs : List Binding) : Prop :=
  ∃ before closing after, Gap before ∧ Gap closing ∧ Gap after
    ∧ Plan.textAt m site path = .ok (before ++ (objectText bs closing ++ after))

variable {site : Site} {m : Machine} {path : Text} {bs : List Binding}

theorem configuration_of_typed (holds : Holds site m path bs) (typed : Config.schema.Typed bs) :
  ∃ c, Config.schema.Replaced { tempDir := temporaryDirectory site } bs c
    ∧ configuration site m (some path) = .ok c
  := by
  obtain ⟨before, closing, after, leading, blank, trailing, file⟩ := holds
  obtain ⟨c, replaced, read⟩ :=
    Config.ofText_of_typed typed leading blank trailing (temporaryDirectory site)
  refine ⟨c, replaced, ?_⟩
  simp only [configuration, file, read]

/-- A configuration file that holds an object of typed members gives the defaults with the members in
the place of what they give, those of the toolchains and of the session likewise. It is the same for
any other file whose members give the same, whatever their order and whatever unknown ones there are.
If a setting is given twice, on any of the levels, the file is refused. -/
theorem configuration_of_holds (holds : Holds site m path bs) :
  (Config.schema.Typed bs →
      (∃ c, Config.schema.Replaced { tempDir := temporaryDirectory site } bs c
        ∧ configuration site m (some path) = .ok c)
      ∧ ∀ m' path' bs', Holds site m' path' bs' → Config.schema.Typed bs' →
        (∀ k v, Config.schema.Assigns bs k v ↔ Config.schema.Assigns bs' k v) →
        configuration site m' (some path') = configuration site m (some path))
    ∧ ((∀ b ∈ bs, WellFormed b.item.text) → Config.Repeats bs →
      ∃ fault, configuration site m (some path) = .error (.configuration path (.json fault)))
  := by
  constructor
  · intro typed
    obtain ⟨c, replaced, loaded⟩ := configuration_of_typed holds typed
    refine ⟨⟨c, replaced, loaded⟩, ?_⟩
    intro m' path' bs' holds' typed' same
    obtain ⟨c', replaced', loaded'⟩ := configuration_of_typed holds' typed'
    rw [loaded, loaded', (replaced.congr same).unique replaced']
  · intro wellFormed repeats
    obtain ⟨before, closing, after, leading, blank, trailing, file⟩ := holds
    obtain ⟨fault, refused⟩ :=
      Config.ofText_of_repeats wellFormed repeats leading blank trailing (temporaryDirectory site)
    refine ⟨fault, ?_⟩
    simp only [configuration, file, refused]

/-! ### Two files -/

/-- The characters of a text that stand for themselves in a string. -/
def plainly (s : Text) : List Glyph :=
  s.filterMap fun c =>
    if free : c ≠ '"' ∧ c ≠ '\\' ∧ 0x20 ≤ c.toNat then some (.plain c free) else none

/-- A member on a line of its own. -/
def row (name : List Glyph) (value : Text) : Binding where
  before := ['\n']
  name := name
  between := []
  item := ⟨[' '], value, [], List.forall_mem_singleton.mpr rfl, gap_nil⟩
  gapBefore := List.forall_mem_singleton.mpr rfl
  gapBetween := gap_nil

/-- A value of an object whose only name is half of a pair of code units. -/
def oddity : Text :=
  objectText [row [Glyph.unit 'd' '8' '0' '0' 0xD800 rfl] (listText [] [])] []

/-- Three settings, one of them as great as can be, and a member that nobody knows. -/
def sparse : List Binding := [
  row (plainly "kernel".toList)
    (objectText [row (plainly "shutdown_grace".toList) (Text.ofNat (2 ^ 64 - 1))] []),
  row (plainly "unseen".toList) oddity,
  row (plainly "run_timeout".toList) (Text.ofNat 1500),
  row (plainly "toolchains".toList)
    (objectText [row (plainly "rustc".toList) (literal (plainly "/opt/rustc".toList))] [])]

/-- A setting of the session twice. -/
def doubled : List Binding := [
  row (plainly "kernel".toList)
    (objectText [row (plainly "script".toList) "null".toList,
      row (plainly "script".toList) "null".toList] [])]

/-- A machine with an object of the members in a file. -/
def holding (bs : List Binding) : Machine where
  files := ({} : Files).put ["engine.json".toList] (.file 420 (Octets.ofText (objectText bs [])))
  programs _ _ _ := .ended 0

theorem wellFormed_oddity :
  WellFormed oddity
  := by
  apply WellFormed.object
  · exact List.forall_mem_singleton.mpr (.list nofun gap_nil)
  · exact gap_nil

theorem typed_sparse :
  Config.schema.Typed sparse
  := by
  have kernel := KernelConfig.schema.describes_singleton (b := row (plainly "shutdown_grace".toList)
    (Text.ofNat (2 ^ 64 - 1))) (k := .shutdownGrace) (v := (2 ^ 64 - 1 : Nat)) (by decide +kernel)
    ⟨by decide, rfl⟩ gap_nil {}
  have unseen : ∀ k, ¬Config.schema.Names (row (plainly "unseen".toList) oddity) k := by
    intro k
    cases k <;> decide +kernel
  have runTimeout : DenotesWord 64 (Text.ofNat 1500) 1500 := ⟨by decide, rfl⟩
  have toolchains := Overrides.schema.describes_singleton (b := row (plainly "rustc".toList)
    (literal (plainly "/opt/rustc".toList))) (k := .rustc) (v := some "/opt/rustc".toList)
    (by decide +kernel) ⟨_, rfl, by decide +kernel⟩ gap_nil {}
  refine .cons_known (k := .kernel) (by decide +kernel) kernel (by decide +kernel) ?_
  refine .cons_unknown (show spelled? _ = some "unseen".toList by decide +kernel) unseen
    wellFormed_oddity ?_
  refine .cons_known (k := .runTimeout) (by decide +kernel) runTimeout (by decide +kernel) ?_
  exact .cons_known (k := .toolchains) (by decide +kernel) toolchains nofun Schema.typed_nil

/-- The first file gives the same with its members in the other order; the second one is refused. -/
theorem configuration_of_holds_sparse :
  (∃ c, Config.schema.Replaced { tempDir := "/tmp".toList } sparse c
      ∧ configuration {} (holding sparse) (some "/engine.json".toList) = .ok c
      ∧ configuration {} (holding sparse.reverse) (some "/engine.json".toList) = .ok c
      ∧ c = ⟨"/tmp".toList, 1500, defaultTimeout, "2021".toList, 5,
        { rustc := some "/opt/rustc".toList }, { shutdownGrace := 2 ^ 64 - 1 }⟩)
    ∧ ∃ fault, configuration {} (holding doubled) (some "/engine.json".toList)
      = .error (.configuration "/engine.json".toList (.json fault))
  := by
  have holds (bs : List Binding)
      (file : Plan.textAt (holding bs) {} "/engine.json".toList = .ok (objectText bs [])) :
      Holds {} (holding bs) "/engine.json".toList bs := by
    refine ⟨[], [], [], gap_nil, gap_nil, gap_nil, ?_⟩
    rw [file, List.nil_append, List.append_nil]
  constructor
  · obtain ⟨⟨c, replaced, loaded⟩, same⟩ :=
      (configuration_of_holds (holds sparse (by decide +kernel))).1 typed_sparse
    have order := sparse.reverse_perm.symm
    have reversed := same _ _ _ (holds sparse.reverse (by decide +kernel)) (typed_sparse.perm order)
      (Schema.assigns_perm order)
    refine ⟨c, replaced, loaded, reversed.trans loaded, ?_⟩
    apply Except.ok.inj
    rw [← loaded]
    decide +kernel
  · have nulls : ∀ b ∈ [row (plainly "script".toList) "null".toList,
        row (plainly "script".toList) "null".toList], WellFormed b.item.text := by
      simp only [List.forall_mem_cons, row]
      exact ⟨.null, .null, nofun⟩
    apply (configuration_of_holds (holds doubled (by decide +kernel))).2
    · exact List.forall_mem_singleton.mpr (.object nulls gap_nil)
    · refine .kernel List.mem_cons_self (by decide +kernel) ?_
      exact ⟨_, _, gap_nil, rfl, nulls, .script, by decide +kernel⟩

end CommandLine

end NotebookEngine
