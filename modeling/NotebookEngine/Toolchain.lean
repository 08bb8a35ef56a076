import NotebookEngine.Text.Basic

/-!
# Toolchains

The tools that fragments need in order to run, with the names under which each is described,
overridden in the environment, and looked for on the search path.
-/

namespace NotebookEngine

/-- A tool that runs fragments. -/
inductive Toolchain where
  /-- The interpreter of the persistent session. -/
  | python
  /-- The compiler of the compiled backend. -/
  | rustc
  /-- The runtime of plain scripts. -/
  | javascript
  /-- The runtime of typed scripts. -/
  | typescript
deriving DecidableEq, Repr

namespace Toolchain

/-- All toolchains in their usual order. -/
def all : List Toolchain :=
  [.python, .rustc, .javascript, .typescript]

/-- The name under which a toolchain is configured. -/
def key : Toolchain → Text
  | .python => "python".toList
  | .rustc => "rustc".toList
  | .javascript => "javascript".toList
  | .typescript => "typescript".toList

/-- The description of a toolchain. -/
def title : Toolchain → Text
  | .python => "Python interpreter".toList
  | .rustc => "Rust compiler (rustc)".toList
  | .javascript => "JavaScript runtime (bun or node)".toList
  | .typescript => "TypeScript runtime (bun)".toList

/-- The environment variable that overrides the search. -/
def environmentName : Toolchain → Text
  | .python => "POLYCELL_PYTHON".toList
  | .rustc => "POLYCELL_RUSTC".toList
  | .javascript => "POLYCELL_JS_RUNTIME".toList
  | .typescript => "POLYCELL_TS_RUNTIME".toList

/-- The file names looked for on the search path, the preferred one first. -/
def candidates : Toolchain → List Text
  | .python => ["python3".toList, "python".toList]
  | .rustc => ["rustc".toList]
  | .javascript => ["bun".toList, "node".toList]
  | .typescript => ["bun".toList]

end Toolchain

end NotebookEngine
