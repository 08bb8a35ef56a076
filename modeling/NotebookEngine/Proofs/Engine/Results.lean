import NotebookEngine.Engine
import NotebookEngine.Proofs.Session.Results

/-!
# Results of the engine

Every result of the engine is one of the cell that was to be run and is well formed
(`CellResult.WellFormed`), which is to say that normalizing leaves it alone
(`CellResult.wellFormed_iff`). This holds in every run of an engine (`EngineRun`), of every plan
whatever the host answers, and of every execution among callers of a session that come at any time
(`EngineRun.results_wellFormed`).
-/

namespace NotebookEngine

/-! ### Well-formed results -/

/-- What a stream shows, if it holds more than blanks. -/
def CellResult.shown (what : String) (stream : Text) : List SideEffect :=
  if Text.trim stream = [] then [] else [⟨what.toList, Text.trim stream⟩]

/-- The result is one of a cell. A success has no failure; a failure has one, and no value. The side
effects are what its streams show, the output before the diagnostics. -/
structure CellResult.WellFormed (cellId : Text) (r : CellResult) : Prop where
  cell : r.cellId = cellId
  failure_of_ok : r.status = .ok → r.failure = none
  failure_of_error : r.status = .error → r.failure.isSome
  value_of_error : r.status = .error → r.value = none
  effects : r.sideEffects = CellResult.shown "stdout" r.stdout ++ CellResult.shown "stderr" r.stderr

namespace CellResult

variable {cellId : Text} {r : CellResult}

theorem shown_eq (what : String) (stream : Text) :
  (sideEffect? what stream).toList = shown what stream
  := by
  unfold sideEffect? shown
  cases h : Text.trim stream with
  | nil => simp
  | cons c s => simp

theorem sideEffects_eq_shown (stdout stderr : Text) :
  NotebookEngine.sideEffects stdout stderr = shown "stdout" stdout ++ shown "stderr" stderr
  := by
  rw [← shown_eq, ← shown_eq, NotebookEngine.sideEffects]
  cases sideEffect? "stdout" stdout <;> cases sideEffect? "stderr" stderr <;> rfl

theorem IsOf.wellFormed (isOf : r.IsOf cellId) :
  r.WellFormed cellId
  := by
  obtain ⟨cell, effects, ok, value, failure⟩ := isOf
  rw [sideEffects_eq_shown] at effects
  exact ⟨cell, ok, failure, value, effects⟩

/-- The well-formed results of a cell are its results that normalizing leaves alone. -/
theorem wellFormed_iff :
  r.WellFormed cellId ↔ r.cellId = cellId ∧ r.normalize = r
  := by
  rw [normalize_eq_self_iff]
  constructor
  · rintro ⟨cell, ok, failure, value, effects⟩
    rw [← sideEffects_eq_shown] at effects
    exact ⟨cell, effects, ok, value, failure⟩
  · rintro ⟨cell, normal⟩
    apply IsOf.wellFormed ⟨cell, normal⟩

theorem normalize_normalize (r : CellResult) :
  r.normalize.normalize = r.normalize
  := by
  rw [normalize_eq_self_iff]
  apply normal_normalize

end CellResult

/-! ### Runs of an engine -/

/-- An engine is used by one caller after the other, who get what they came for before the next one
comes, and processes and machine do what they do. -/
inductive EngineRun : Engine → Prop
  | created (config : Config) (finder : Finder) (site : Host.Site) (machine : Host.Machine) :
    EngineRun (.create config finder site machine)
  | executed {e e' : Engine} {r : Fragment.Request} {result : CellResult} (run : EngineRun e)
      (ran : e.execute r = some (result, e')) : EngineRun e'
  | bothExecuted {e e' : Engine} {first second : Fragment.Request} {a b : CellResult}
      (run : EngineRun e) (ran : e.executeBoth first second = some (a, b, e')) : EngineRun e'
  /-- The session is started anew or ended, or its runtime is asked for. -/
  | called {e e' : Engine} {d : Session.Demand} {o : Session.Outcome} (run : EngineRun e)
      (called : e.call d = some (o, e')) : EngineRun e'
  | told {e : Engine} (run : EngineRun e) (n : Nat × Session.Output × Host.Machine) :
    EngineRun { e with hosted := e.hosted.tell n }
  | elapsed {e : Engine} (run : EngineRun e) (machine : Host.Machine) :
    EngineRun { e with hosted := { e.hosted with machine } }

namespace Engine

variable {e e' : Engine} {calls : List (Nat × Session.Demand)} {r : Fragment.Request}
  {result : CellResult}

/-- Only fragments of the session have no plan. -/
theorem plan?_eq_none_iff :
  e.plan? r = none ↔ r.language = .python
  := by
  unfold plan?
  cases r.language <;> simp

/-- A plan yields results of the cell. -/
theorem plan?_yields {p : Plan CellResult} (planned : e.plan? r = some p) :
  p.Yields (·.IsOf r.cellId)
  := by
  unfold plan? at planned
  cases language : r.language <;> simp only [language] at planned
  case python => cases planned
  case rust =>
    obtain rfl := Option.some.inj planned
    apply Compiled.plan_yields
  case javascript =>
    obtain rfl := Option.some.inj planned
    apply Scripted.plainPlan_yields
  case typescript =>
    obtain rfl := Option.some.inj planned
    apply Scripted.typedPlan_yields

/-- What a caller gets of a session is a result of his cell, if it suits his execution. -/
theorem isOf_of_suits {code cellId runtime : Text} {o : Session.Outcome}
    (suits : o.Suits (.operate (.execute code cellId runtime))) :
  ∃ result, resultOf? cellId o = some result ∧ result.IsOf cellId
  := by
  cases suits with
  | answer suits =>
      cases suits with
      | done plain => exact absurd rfl (plain _ _ _)
      | failed => exact ⟨_, rfl, CellResult.isOf_failed ..⟩
      | result isOf => exact ⟨_, rfl, isOf⟩

/-- How a fragment is run: by its plan, not at all because the interpreter is not found, or in the
session. -/
inductive Executes (e : Engine) (r : Fragment.Request) : CellResult → Engine → Prop
  | planned {p : Plan CellResult} (planned : e.plan? r = some p) :
    Executes e r (e.perform p).1 (e.perform p).2
  | missing (python : r.language = .python) (missing : e.find .python = none) :
    Executes e r (withoutInterpreter r.cellId) e
  | called {runtime : Text} {o : Session.Outcome} {hosted : Session.Hosted} {result : CellResult}
      (python : r.language = .python) (found : e.find .python = some runtime)
      (called : e.hosted.call (.operate (.execute r.code r.cellId runtime)) = some (o, hosted))
      (shown : resultOf? r.cellId o = some result) : Executes e r result { e with hosted }

theorem execute_eq_some_iff :
  e.execute r = some (result, e') ↔ e.Executes r result e'
  := by
  constructor
  · intro ran
    unfold execute at ran
    split at ran
    case h_1 p planned =>
      obtain ⟨rfl, rfl⟩ := Prod.mk.inj (Option.some.inj ran)
      exact .planned planned
    case h_2 unplanned =>
      have python := plan?_eq_none_iff.mp unplanned
      split at ran
      case h_1 wanted =>
        obtain ⟨rfl, rfl⟩ := Prod.mk.inj (Option.some.inj ran)
        exact .missing python (Option.map_eq_none_iff.mp wanted)
      case h_2 d wanted =>
        obtain ⟨runtime, found, rfl⟩ := Option.map_eq_some_iff.mp wanted
        obtain ⟨⟨o, e₁⟩, calls, shows⟩ := Option.bind_eq_some_iff.mp ran
        obtain ⟨⟨_, hosted⟩, called, ⟨⟩⟩ := Option.map_eq_some_iff.mp calls
        obtain ⟨_, shown, ⟨⟩⟩ := Option.map_eq_some_iff.mp shows
        exact .called python found called shown
  · intro executes
    cases executes with
    | planned planned => simp only [execute, planned]
    | missing python missing =>
        simp only [execute, plan?_eq_none_iff.mpr python, demand?, missing, Option.map_none]
    | called python found called shown =>
        simp only [execute, plan?_eq_none_iff.mpr python, demand?, found, Option.map_some, call,
          called, Option.bind_some, shown]

/-- A fragment that is run gives a result of its cell. -/
theorem Executes.isOf (executes : e.Executes r result e') (pairs : e.hosted.Pairs calls)
    (rests : e.hosted.Rests) :
  result.IsOf r.cellId
  := by
  cases executes with
  | planned planned => exact (plan?_yields planned).perform _ _
  | missing => apply CellResult.isOf_failed
  | called _ _ called shown =>
      obtain ⟨result', shown', isOf⟩ := isOf_of_suits (pairs.call_suits rests called)
      obtain rfl := Option.some.inj (shown.symm.trans shown')
      exact isOf

/-- The session goes on serving its callers, and is at rest. -/
theorem Executes.pairs (executes : e.Executes r result e') (pairs : e.hosted.Pairs calls)
    (rests : e.hosted.Rests) :
  e'.hosted.Rests ∧ ∃ calls', e'.hosted.Pairs calls'
  := by
  cases executes with
  | planned => exact ⟨⟨rests.free, rests.nobody, rests.told⟩, calls, pairs.congr rfl rfl rfl⟩
  | missing => exact ⟨rests, calls, pairs⟩
  | called _ _ called => exact ⟨Session.Hosted.call_rests called, _, pairs.call rests called⟩

/-- Two fragments that are run at once take turns in the session, or the second one is run after the
first. -/
theorem executeBoth_cases {first second : Fragment.Request} {a b : CellResult}
    (ran : e.executeBoth first second = some (a, b, e')) :
  (∃ runtime hosted o o',
      ((Session.Hosted.submit { e.hosted with outcomes := [] } 0
          (.operate (.execute first.code first.cellId runtime))).submit 1
          (.operate (.execute second.code second.cellId runtime))).complete = some hosted
        ∧ hosted.outcomes.lookup 0 = some o ∧ resultOf? first.cellId o = some a
        ∧ hosted.outcomes.lookup 1 = some o' ∧ resultOf? second.cellId o' = some b
        ∧ e' = { e with hosted })
    ∨ ∃ e₁, e.Executes first a e₁ ∧ e₁.Executes second b e'
  := by
  unfold executeBoth at ran
  split at ran
  case h_1 wanted wanted' =>
    left
    obtain ⟨runtime, found, rfl⟩ := Option.map_eq_some_iff.mp wanted
    obtain ⟨runtime', found', rfl⟩ := Option.map_eq_some_iff.mp wanted'
    obtain rfl := Option.some.inj (found.symm.trans found')
    obtain ⟨hosted, completes, shows⟩ := Option.bind_eq_some_iff.mp ran
    obtain ⟨_, showsFirst, shows⟩ := Option.bind_eq_some_iff.mp shows
    obtain ⟨_, showsSecond, ⟨⟩⟩ := Option.map_eq_some_iff.mp shows
    obtain ⟨o, given, shown⟩ := Option.bind_eq_some_iff.mp showsFirst
    obtain ⟨o', given', shown'⟩ := Option.bind_eq_some_iff.mp showsSecond
    exact ⟨runtime, hosted, o, o', completes, given, shown, given', shown', rfl⟩
  case h_2 =>
    right
    obtain ⟨⟨_, e₁⟩, ranFirst, runs⟩ := Option.bind_eq_some_iff.mp ran
    obtain ⟨_, ranSecond, ⟨⟩⟩ := Option.map_eq_some_iff.mp runs
    exact ⟨e₁, execute_eq_some_iff.mp ranFirst, execute_eq_some_iff.mp ranSecond⟩

end Engine

namespace EngineRun

variable {e e' : Engine}

/-- In a run, the session is at rest and serves its callers. -/
theorem pairs (run : EngineRun e) :
  e.hosted.Rests ∧ ∃ calls, e.hosted.Pairs calls
  := by
  induction run with
  | created config finder site machine =>
      refine ⟨⟨rfl, rfl, rfl⟩, [], ⟨none, ?_⟩, rfl, nofun⟩
      exact (Session.QueueRun.new (c := config.kernel)).pairs
  | executed run ran ih =>
      obtain ⟨rests, calls, pairs⟩ := ih
      exact (Engine.execute_eq_some_iff.mp ran).pairs pairs rests
  | bothExecuted run ran ih =>
      obtain ⟨rests, calls, pairs⟩ := ih
      rcases Engine.executeBoth_cases ran with ⟨_, _, _, _, completes, -, -, -, -, rfl⟩ | ⟨e₁, ran, ran'⟩
      · exact ⟨Session.Hosted.complete_rests completes, _,
          (((pairs.forget rests).submit _ _).submit _ _).complete completes⟩
      · obtain ⟨rests', calls', pairs'⟩ := ran.pairs pairs rests
        exact ran'.pairs pairs' rests'
  | called run called ih =>
      obtain ⟨rests, calls, pairs⟩ := ih
      obtain ⟨⟨_, hosted⟩, served, ⟨⟩⟩ := Option.map_eq_some_iff.mp called
      exact ⟨Session.Hosted.call_rests served, _, pairs.call rests served⟩
  | told run n ih =>
      obtain ⟨rests, calls, pairs⟩ := ih
      exact ⟨rests.tell n, calls, pairs.tell n⟩
  | elapsed run machine ih =>
      obtain ⟨rests, calls, pairs⟩ := ih
      exact ⟨⟨rests.free, rests.nobody, rests.told⟩, calls, pairs.congr rfl rfl rfl⟩

/-- In a run, a fragment gives a result of its cell. -/
theorem isOf_execute {r : Fragment.Request} {result : CellResult} (run : EngineRun e)
    (ran : e.execute r = some (result, e')) :
  result.IsOf r.cellId
  := by
  obtain ⟨rests, calls, pairs⟩ := run.pairs
  exact (Engine.execute_eq_some_iff.mp ran).isOf pairs rests

/-- So do two fragments that are run at once. -/
theorem isOf_executeBoth {first second : Fragment.Request} {a b : CellResult} (run : EngineRun e)
    (ran : e.executeBoth first second = some (a, b, e')) :
  a.IsOf first.cellId ∧ b.IsOf second.cellId
  := by
  obtain ⟨rests, calls, pairs⟩ := run.pairs
  rcases Engine.executeBoth_cases ran with
    ⟨runtime, hosted, o, o', completes, given, shown, given', shown', rfl⟩ | ⟨e₁, ran, ran'⟩
  · let d (r : Fragment.Request) : Session.Demand := .operate (.execute r.code r.cellId runtime)
    have served := (((pairs.forget rests).submit 0 (d first)).submit 1 (d second)).complete completes
    obtain ⟨a', same, isOf⟩ :=
      Engine.isOf_of_suits (served.lookup (by simp) (by simp [d]) given : o.Suits (d first))
    obtain ⟨b', same', isOf'⟩ :=
      Engine.isOf_of_suits (served.lookup (by simp) (by simp [d]) given' : o'.Suits (d second))
    obtain rfl := Option.some.inj (shown.symm.trans same)
    obtain rfl := Option.some.inj (shown'.symm.trans same')
    exact ⟨isOf, isOf'⟩
  · obtain ⟨rests', calls', pairs'⟩ := ran.pairs pairs rests
    exact ⟨ran.isOf pairs rests, ran'.isOf pairs' rests'⟩

end EngineRun

/-- The result of every execution is well formed and one of its cell:
in every run of an engine, also of two fragments that are run at once;
of every plan, whatever tools are found and whatever the host answers;
and of callers of a session that come at any time, whatever its processes write.
To normalize twice is to normalize once, and the well-formed results are those that it leaves
alone. -/
theorem EngineRun.results_wellFormed :
  (∀ e, EngineRun e → ∀ r s : Fragment.Request,
      (∀ result e', e.execute r = some (result, e') → result.WellFormed r.cellId)
        ∧ ∀ a b e', e.executeBoth r s = some (a, b, e') →
          a.WellFormed r.cellId ∧ b.WellFormed s.cellId)
    ∧ (∀ (config : Config) (tool : Option Text) (id code cellId : Text),
      (Compiled.plan config tool id code cellId).Yields (·.WellFormed cellId)
        ∧ (Scripted.plainPlan config tool id code cellId).Yields (·.WellFormed cellId)
        ∧ (Scripted.typedPlan config tool id code cellId).Yields (·.WellFormed cellId))
    ∧ (∀ (c : KernelConfig) (h : Session.QueueHistory) (q : Session.Queue), Session.QueueRun c h q →
      ∀ (ticket : Nat) (code cellId runtime : Text) (o : Session.Outcome),
        (ticket, .operate (.execute code cellId runtime)) ∈ h.calls → (ticket, o) ∈ h.outcomes →
        ∃ result, Engine.resultOf? cellId o = some result ∧ result.WellFormed cellId)
    ∧ (∀ r : CellResult, r.normalize.normalize = r.normalize)
    ∧ ∀ (r : CellResult) (cellId : Text),
      r.WellFormed cellId ↔ r.cellId = cellId ∧ r.normalize = r
  := by
  refine ⟨?_, ?_, ?_, CellResult.normalize_normalize, fun r cellId => CellResult.wellFormed_iff⟩
  · intro e run r s
    refine ⟨fun result e' ran => (run.isOf_execute ran).wellFormed, fun a b e' ran => ?_⟩
    obtain ⟨first, second⟩ := run.isOf_executeBoth ran
    exact ⟨first.wellFormed, second.wellFormed⟩
  · intro config tool id code cellId
    have all {p : Plan CellResult} (yields : p.Yields (·.IsOf cellId)) :
        p.Yields (·.WellFormed cellId) :=
      yields.mono fun _ isOf => isOf.wellFormed
    refine ⟨all ?_, all ?_, all ?_⟩
    · apply Compiled.plan_yields
    · apply Scripted.plainPlan_yields
    · apply Scripted.typedPlan_yields
  · intro c h q run ticket code cellId runtime o came given
    obtain ⟨d, came', suits⟩ := run.suits given
    obtain ⟨-, rfl⟩ := Prod.mk.inj (List.inj_on_of_nodup_map run.nodup came came' rfl)
    obtain ⟨result, shown, isOf⟩ := Engine.isOf_of_suits suits
    exact ⟨result, shown, isOf.wellFormed⟩

/-- A program that announces a session and reports a failure with a value, without details and with
side effects that are none. -/
def muddler : Host.Behaviour :=
  .ask (.write 1 "\x7b\"status\": \"ready\"\x7d\n".toList) fun _ =>
    .ask (.read 0 true) fun _ =>
      .ask (.write 1 (("\x7b\"cell_id\": \"c1\", \"status\": \"error\", \"result\": \"1\", ".toList)
        ++ "\"stdout\": \" x\", \"side_effects\": [\x7b\"what\": \"y\", \"content\": \"\"\x7d]\x7d\n".toList))
        fun _ => .ended 0

/-- An engine whose interpreter is the muddler. -/
def muddled : Engine :=
  .create { tempDir := "/".toList, kernel := { script := some "kernel.py".toList } }
    (.fixed { python := some "/muddler".toList }) {}
    { files := ({} : Host.Files).put ["muddler".toList] (.program "muddler".toList)
      programs := fun _ _ _ => muddler }

/-- What the muddler reports comes out well formed. -/
theorem results_wellFormed_muddled :
  EngineRun muddled
    ∧ (∃ result e', muddled.execute ⟨"1".toList, "c1".toList, .python⟩ = some (result, e')
      ∧ result = .failed "c1".toList CellResult.undetailed " x".toList []
      ∧ result.WellFormed "c1".toList)
    ∧ ∀ o, (0, o) ∈ (Session.QueueHistory.played {} Session.overlapMoves).outcomes →
      ∃ result, Engine.resultOf? "a".toList o = some result ∧ result.WellFormed "a".toList
  := by
  have run : EngineRun muddled := .created _ _ _ _
  obtain ⟨q, queueRun⟩ := Session.QueueRun.played {} Session.overlapMoves (by decide +kernel)
    (by decide +kernel)
  refine ⟨run, ?_, ?_⟩
  · have served := muddled.hosted.call_of_steps
      (.operate (.execute "1".toList "c1".toList "/muddler".toList)) 20
      (o := .answer (.result (.failed "c1".toList CellResult.undetailed " x".toList [])))
      (by decide +kernel) (by decide +kernel) (by decide +kernel)
    have ran := Engine.execute_eq_some_iff.mpr (.called (e := muddled)
      (r := ⟨"1".toList, "c1".toList, .python⟩) rfl (by decide +kernel) served rfl)
    exact ⟨_, _, ran, rfl, (EngineRun.results_wellFormed.1 _ run _ ⟨[], [], .rust⟩).1 _ _ ran⟩
  · intro o given
    apply EngineRun.results_wellFormed.2.2.1 _ _ _ queueRun 0 "1".toList _ "python".toList o
      (by decide +kernel) given

end NotebookEngine
