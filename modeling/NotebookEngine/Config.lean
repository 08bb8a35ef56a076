import NotebookEngine.Json.Typed
import NotebookEngine.Toolchain

/-!
# Configuration

The settings of the engine (`Config`), of the interpreter session (`KernelConfig`) and the explicit
paths of the toolchains (`Overrides`). A configuration is read from a JSON text in which every field
may be left out; a field left out has its default. Times are in milliseconds.
-/

namespace NotebookEngine

open Json

/-! ### Records of settings -/

/-- Settings that are being read: their values so far, and the names given. -/
structure Settings (α : Type) where
  value : α
  given : List Text

/-- A field of settings, by the reader of its values and what they do. -/
def setting {α β : Type} (name : String) (r : Reader β) (set : β → α → α) : Json.Field (Settings α) where
  name := name.toList
  required := false
  filled s := s.given.contains name.toList
  read := r.map fun b s => ⟨set b s.value, name.toList :: s.given⟩

/-- Settings all of which may be left out. -/
def settingsRecord {α : Type} (title : String) (fields : List (Json.Field (Settings α)))
    (defaults : α) : Record (Settings α) α where
  title := title.toList
  fields := fields
  empty := ⟨defaults, []⟩
  close s := .ok s.value

/-- A path. -/
def pathReader : Reader Text :=
  .text "path string".toList

/-- A number of milliseconds. -/
def millisecondsReader : Reader Nat :=
  .word 64

/-! ### Toolchains -/

/-- Explicit paths of toolchains. -/
structure Overrides where
  python : Option Text := none
  rustc : Option Text := none
  javascript : Option Text := none
  typescript : Option Text := none
deriving DecidableEq, Repr

namespace Overrides

/-- The explicit path of a toolchain. -/
def path? (o : Overrides) : Toolchain → Option Text
  | .python => o.python
  | .rustc => o.rustc
  | .javascript => o.javascript
  | .typescript => o.typescript

/-- The fields of the paths. -/
def fields : List (Json.Field (Settings Overrides)) := [
  setting "python" pathReader.optional fun p o => { o with python := p },
  setting "rustc" pathReader.optional fun p o => { o with rustc := p },
  setting "javascript" pathReader.optional fun p o => { o with javascript := p },
  setting "typescript" pathReader.optional fun p o => { o with typescript := p }]

/-- The reading of explicit paths. -/
def reader : Reader Overrides :=
  (settingsRecord "struct ToolchainOverrides" fields {}).reader

end Overrides

/-! ### The interpreter session -/

/-- The time allowed where nothing else is set. -/
def defaultTimeout : Nat :=
  30000

/-- Settings of the interpreter session. Without a script the bundled one is run. -/
structure KernelConfig where
  script : Option Text := none
  interpreterArguments : List Text := ["-u".toList]
  requestTimeout : Nat := defaultTimeout
  startupTimeout : Nat := defaultTimeout
  shutdownGrace : Nat := 100
deriving DecidableEq, Repr

namespace KernelConfig

/-- The fields of the settings. -/
def fields : List (Json.Field (Settings KernelConfig)) := [
  setting "script" pathReader.optional fun p c => { c with script := p },
  setting "interpreter_args" (Reader.text "a string".toList).list fun l c =>
    { c with interpreterArguments := l },
  setting "request_timeout" millisecondsReader fun n c => { c with requestTimeout := n },
  setting "startup_timeout" millisecondsReader fun n c => { c with startupTimeout := n },
  setting "shutdown_grace" millisecondsReader fun n c => { c with shutdownGrace := n }]

/-- The reading of the settings. -/
def reader : Reader KernelConfig :=
  (settingsRecord "struct KernelConfig" fields {}).reader

end KernelConfig

/-! ### The engine -/

/-- Settings of the engine. -/
structure Config where
  tempDir : Text
  runTimeout : Nat := defaultTimeout
  compileTimeout : Nat := defaultTimeout
  rustEdition : Text := "2021".toList
  inspectDepth : Nat := 5
  toolchains : Overrides := {}
  kernel : KernelConfig := {}
deriving DecidableEq, Repr

namespace Config

/-- The fields of the settings. -/
def fields : List (Json.Field (Settings Config)) := [
  setting "temp_dir" pathReader fun p c => { c with tempDir := p },
  setting "run_timeout" millisecondsReader fun n c => { c with runTimeout := n },
  setting "compile_timeout" millisecondsReader fun n c => { c with compileTimeout := n },
  setting "rust_edition" (Reader.text "a string".toList) fun s c => { c with rustEdition := s },
  setting "inspect_depth" (Reader.word 32) fun n c => { c with inspectDepth := n },
  setting "toolchains" Overrides.reader fun o c => { c with toolchains := o },
  setting "kernel" KernelConfig.reader fun k c => { c with kernel := k }]

/-- The reading of the settings, given the default directory for temporary files. -/
def reader (tempDir : Text) : Reader Config :=
  (settingsRecord "struct EngineConfig" fields { tempDir }).reader

/-- The configuration in a text. -/
def ofText (tempDir text : Text) : Except Fault Config :=
  (reader tempDir).read text

end Config

end NotebookEngine
