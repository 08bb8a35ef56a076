import NotebookEngine.Session.Manager

/-!
# The queue before a manager

Several callers may want the session at once. Each has a ticket. A caller that comes waits
(`Queue.submit`); when nobody is served, the one that has waited longest comes next
(`Queue.serveNext`) and served until its operation is answered, and every ticket gets one outcome. Events
other than calls go to the manager (`Queue.hear`), and so do the steps it takes by itself
(`Queue.proceed`).
-/

namespace NotebookEngine

namespace Session

/-- What a caller wants of the session. -/
inductive Demand where
  | operate (op : Operation)
  /-- To know the runtime of the session. -/
  | runtime
deriving DecidableEq, Repr

/-- What a caller gets. -/
inductive Outcome where
  | answer (a : Answer)
  | runtime (path : Option Text)
deriving DecidableEq

/-- What comes of a step: something to be done, or the outcome of a ticket. -/
inductive Effect where
  | act (a : Action)
  | outcome (ticket : Nat) (o : Outcome)
deriving DecidableEq

/-- The answer among actions. -/
def answerAmong? : List Action → Option Answer
  | [] => none
  | .answer a :: _ => some a
  | _ :: as => answerAmong? as

/-- A manager, the ticket that is served, and those that wait, the first to be served first. -/
structure Queue where
  manager : Manager
  serving : Option Nat := none
  waiting : List (Nat × Demand) := []

namespace Queue

/-- The queue after a step of its manager. The answer is the outcome of the ticket that is served,
which is served no longer. -/
def after (q : Queue) (step : Manager.Step) : Queue × List Effect :=
  let (m, actions) := step
  match q.serving, answerAmong? actions with
  | some ticket, some a =>
    ({ q with manager := m, serving := none },
      actions.map .act ++ [.outcome ticket (.answer a)])
  | _, _ => ({ q with manager := m }, actions.map .act)

/-- A caller comes, and waits. -/
def submit (q : Queue) (ticket : Nat) (d : Demand) : Queue :=
  { q with waiting := q.waiting ++ [(ticket, d)] }

/-- The first that waits is served, if nobody is. To know the runtime takes no time. -/
def serveNext (q : Queue) : Option (Queue × List Effect) :=
  match q.serving, q.waiting with
  | none, (ticket, .runtime) :: rest =>
    some ({ q with waiting := rest }, [.outcome ticket (.runtime q.manager.runtime)])
  | none, (ticket, .operate op) :: rest =>
    some ({ q with serving := some ticket, waiting := rest }.after (q.manager.receive (.call op)))
  | _, _ => none

/-- Something other than a call happens to the manager. -/
def hear (q : Queue) (e : Event) : Queue × List Effect :=
  q.after (q.manager.receive e)

/-- The next step that need not wait: of the operation that is served, or the service of the next
caller. -/
def proceed (q : Queue) : Option (Queue × List Effect) :=
  match q.serving with
  | none => q.serveNext
  | some _ => q.manager.proceed.map q.after

end Queue

end Session

end NotebookEngine
