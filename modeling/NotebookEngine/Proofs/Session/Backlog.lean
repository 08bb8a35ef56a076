import Mathlib.Data.List.Infix
import NotebookEngine.Proofs.Session.Correlation

/-!
# Sessions that answer in order

A process that reads its requests in order, and answers each of them once and in order, owes the
results of those it has not answered yet (`History.backlog`). Requests of calls that were given up
are among them. Results are told apart by their cells only, so a call is answered with the result
of the first request for its cell that is owed, and that is its own exactly when no earlier one is.
-/

namespace NotebookEngine

namespace Session

variable {c : KernelConfig} {h : History} {m : Manager} {n : Nat} {cellId : Text}

namespace History

/-- The process answers its requests in order, each once and with its cell. -/
def InOrder (n : Nat) (h : History) : Prop :=
  ∀ h' ∈ h.inits, (replies n h').map CellResult.cellId <+: requests n h'

instance (n : Nat) (h : History) : Decidable (h.InOrder n) :=
  inferInstanceAs (Decidable (∀ h' ∈ h.inits, (replies n h').map CellResult.cellId <+: requests n h'))

/-- The cells of the requests whose results are owed, oldest first. -/
def backlog (n : Nat) (h : History) : List Text :=
  (h.requests n).drop (h.replies n).length

theorem InOrder.of_prefix {h' : History} (ordered : h.InOrder n) (starts : h' <+: h) :
  h'.InOrder n
  := by
  intro h'' earlier
  apply ordered
  rw [List.mem_inits] at earlier ⊢
  exact earlier.trans starts

/-- Of a process that answers in order, the beginning of a history shows the answers to the requests
that are not owed. -/
theorem InOrder.append {pre rest : History} (ordered : InOrder n (pre ++ rest)) :
  ∃ answered, pre.requests n = answered ++ pre.backlog n
    ∧ (pre.replies n).map CellResult.cellId = answered
  := by
  have ordered := ordered pre ((List.mem_inits _ _).mpr (List.prefix_append pre rest))
  obtain ⟨owed, split⟩ := ordered
  refine ⟨_, ?_, rfl⟩
  rw [backlog, ← split, List.drop_left' (List.length_map _)]

/-- The results that come after the beginning of a history are those that are owed, and those of
later requests. -/
theorem InOrder.backlog {pre rest : History} (ordered : InOrder n (pre ++ rest)) :
  (rest.replies n).map CellResult.cellId <+: pre.backlog n ++ rest.requests n
  := by
  obtain ⟨answered, requests, replies⟩ := ordered.append
  have all := ordered (pre ++ rest) ((List.mem_inits _ _).mpr (List.prefix_refl _))
  rw [replies_append, requests_append, List.map_append, replies, requests, List.append_assoc] at all
  exact (List.prefix_append_right_inj answered).mp all

end History

/-- The first element of its kind in a list is where it is in every list that goes on from there. -/
theorem idxOf_eq_length_of_prefix {α : Type} [BEq α] [LawfulBEq α] {before after xs : List α} {a : α}
    (starts : before ++ a :: after <+: xs) (others : a ∉ before) :
  xs.idxOf a = before.length
  := by
  obtain ⟨rest, rfl⟩ := starts
  rw [List.append_assoc, List.idxOf_append_of_notMem others, List.cons_append, List.idxOf_cons_self,
    Nat.add_zero]

/-- An element is found at the end of a list exactly if it is not in the list before. -/
theorem idxOf_concat_eq_length_iff {α : Type} [BEq α] [LawfulBEq α] {xs : List α} {a : α} :
  (xs ++ [a]).idxOf a = xs.length ↔ a ∉ xs
  := by
  constructor
  · intro atEnd mem
    rw [List.idxOf_append_of_mem mem] at atEnd
    exact absurd atEnd (Nat.ne_of_lt (List.idxOf_lt_length_of_mem mem))
  · intro others
    rw [List.idxOf_append_of_notMem others, List.idxOf_cons_self, Nat.add_zero]

/-! ### Which request is answered -/

/-- While a call is under way, its request is the only one since the call was begun. -/
theorem Underway.requests {b : Entry} {mid : History} {l : Live}
    (under : Underway b mid cellId l m) :
  History.requests l.process (b :: mid) = [cellId]
  := by
  have none : mid.requests l.process = [] := by
    apply List.filterMap_eq_nil_iff.mpr
    intro e he
    exact (under.quiet e he).request l.process
  rw [History.requests, List.filterMap_cons_some under.begun]
  exact congrArg (cellId :: ·) none

/-- The entry that begins a call dispatches nothing. -/
theorem Entry.Begins.replies {b : Entry} {code : Text} {l : Live} (begins : b.Begins code cellId l)
    (mid : History) :
  History.replies n (b :: mid) = mid.replies n
  := List.filterMap_cons_none (Entry.reply?_of_no_output begins.own.no_output n)

/-- The first result for the cell of a call answers the first request for the cell that is owed. -/
theorem Underway.place {pre mid : History} {b : Entry} {l : Live} {x : CellResult}
    (under : Underway b mid cellId l m) (run : Run c (pre ++ b :: mid) m)
    (ordered : History.InOrder l.process (pre ++ b :: mid))
    (first : firstFor? cellId (mid.replies l.process) = some x) :
  (History.replies l.process (pre ++ b :: mid))[(pre.replies l.process).length
    + (pre.backlog l.process ++ [cellId]).idxOf cellId]? = some x
  := by
  obtain ⟨-, follows⟩ := run.at_entry
  obtain ⟨code, k, -, begins⟩ := follows.begins under.begun
  obtain ⟨rfl, before, after, replies, others⟩ := firstFor?_eq_some_iff.mp first
  have owed := ordered.backlog
  rw [under.requests, begins.replies, replies, List.map_append, List.map_cons] at owed
  have place := idxOf_eq_length_of_prefix owed (by simpa using others)
  rw [place, History.replies_append, begins.replies, replies, List.length_map,
    List.getElem?_append_right (Nat.le_add_right _ _), Nat.add_sub_cancel_left]
  simp

/-- The requests that were made before are those that are answered and those that are owed. -/
theorem History.InOrder.length_requests {pre rest : History} (ordered : InOrder n (pre ++ rest)) :
  (pre.requests n).length = (pre.replies n).length + (pre.backlog n).length
  := by
  obtain ⟨answered, requests, rfl⟩ := ordered.append
  rw [requests, List.length_append, List.length_map]

/-- In a session whose process answers in order, an execution returns the result of the first
request for its cell that was owed when its own was made. It is the result of its own request
exactly if none for the cell was owed. -/
theorem Run.returned_of_backlog (run : Run c h m) (ordered : h.InOrder n) {r : Nat} {e : Entry}
    (he : h[r]? = some e) {code runtime : Text} {y : CellResult}
    (returns : e.Returns (h.take r) (.execute code cellId runtime) (.result y))
    (session : (History.started (h.take r)).getLast? = some n) :
  ∃ b i x, b < r ∧ (∃ d ∈ h[b]?, d.request? n = some cellId) ∧ (∀ d ∈ h.between b r, d.Quiet)
    ∧ History.operation? (h.take b) = some (.execute code cellId runtime)
    ∧ i = (History.replies n (h.take b)).length
      + (History.backlog n (h.take b) ++ [cellId]).idxOf cellId
    ∧ (h.replies n)[i]? = some x ∧ y = x.normalize
    ∧ (i = (History.requests n (h.take b)).length ↔ cellId ∉ History.backlog n (h.take b))
  := by
  obtain ⟨before, follows⟩ := run.at_place he
  obtain ⟨pre, b, mid, l, x, split, under, operation, first, rfl⟩ :=
    before.result_underway follows returns
  obtain rfl := Option.some.inj (session.symm.trans (before.session_last under.session))
  have whole : h.take r ++ h.drop r = h := List.take_append_drop r h
  have hlen := congrArg List.length split
  rw [List.length_take_of_le (Nat.le_of_lt (List.getElem?_eq_some_iff.mp he).1)] at hlen
  have hbr : pre.length < r := by
    rw [hlen, List.length_append, List.length_cons]
    omega
  have hpre : h.take pre.length = pre := by
    rw [← whole, split, List.append_assoc, List.take_left]
  have earlier := ordered.of_prefix (List.take_prefix r h)
  rw [split] at before earlier
  refine ⟨pre.length, _, x, hbr, ⟨b, ?_, under.begun⟩, ?_, ?_, rfl, ?_, rfl, ?_⟩
  · rw [← whole, split]
    simp
  · intro d hd
    apply under.quiet
    rw [History.between, split] at hd
    simpa using hd
  · rw [hpre]
    exact operation
  · have place := under.place before earlier first
    rw [hpre, ← whole, split, History.replies_append]
    rwa [List.getElem?_append_left (List.getElem?_eq_some_iff.mp place).1]
  · rw [hpre, earlier.length_requests, Nat.add_left_cancel_iff]
    apply idxOf_concat_eq_length_iff

/-- Every result that an execution returns is the one that the process answered to its request. -/
def History.AnswersOwn (n : Nat) (h : History) : Prop :=
  ∀ r, ∀ e ∈ h[r]?, ∀ code cellId runtime y,
    e.Returns (h.take r) (.execute code cellId runtime) (.result y) →
    ∀ b < r, (∃ d ∈ h[b]?, d.request? n = some cellId) →
      (∀ d ∈ h.between b r, d.request? n = none) →
      ∃ x, (h.replies n)[(History.requests n (h.take b)).length]? = some x ∧ y = x.normalize

/-- A call for the cell `a` runs out of time, and the cell is executed again before the result of
the first request comes. -/
def rerunMoves : List Move :=
  Move.starting 1 "a".toList ++ Move.beginning 1
    ++ [.hear .expired, .hear (.call (.execute "2".toList "a".toList "python".toList)), .proceed,
      .hear (.written true),
      .line 1 "\x7b\"cell_id\": \"a\", \"status\": \"ok\", \"result\": \"1\"\x7d", .proceed,
      .line 1 "\x7b\"cell_id\": \"a\", \"status\": \"ok\", \"result\": \"2\"\x7d"]

/-- The process answers in order. -/
theorem rerun_inOrder :
  ∃ m, Run {} (.played {} rerunMoves) m ∧ (History.played {} rerunMoves).InOrder 1
  := by
  obtain ⟨m, run⟩ := Run.played {} rerunMoves (by decide +kernel)
  exact ⟨m, run, by decide +kernel⟩

/-- The second call returns the result of the first request. -/
theorem rerun_returns :
  ∃ e ∈ (History.played {} rerunMoves)[13]?,
    e.Returns ((History.played {} rerunMoves).take 13)
      (.execute "2".toList "a".toList "python".toList)
      (.result (.ok "a".toList (some "1".toList) [] []))
  := by
  decide +kernel

/-- The result that is owed to a call which was given up is returned for the next one. -/
theorem returned_of_rerun :
  ∃ m, Run {} (.played {} rerunMoves) m ∧ (History.played {} rerunMoves).InOrder 1
    ∧ ∃ (i : Nat) (x : CellResult), (History.replies 1 (.played {} rerunMoves))[i]? = some x
      ∧ CellResult.ok "a".toList (some "1".toList) [] [] = x.normalize
  := by
  obtain ⟨m, run, ordered⟩ := rerun_inOrder
  obtain ⟨e, he, returns⟩ := rerun_returns
  obtain ⟨b, i, x, -, -, -, -, -, reply, same, -⟩ :=
    run.returned_of_backlog ordered he returns (by decide +kernel)
  exact ⟨m, run, ordered, i, x, reply, same⟩

/-- A process that answers in order is not enough for every call to be answered with its own
result. -/
theorem not_answersOwn :
  ∃ m, Run {} (.played {} rerunMoves) m ∧ (History.played {} rerunMoves).InOrder 1
    ∧ ¬ (History.played {} rerunMoves).AnswersOwn 1
  := by
  obtain ⟨m, run, ordered⟩ := rerun_inOrder
  refine ⟨m, run, ordered, ?_⟩
  intro own
  obtain ⟨e, he, returns⟩ := rerun_returns
  obtain ⟨x, reply, same⟩ :=
    own 13 e he _ _ _ _ returns 10 (by decide) (by decide +kernel) (by decide +kernel)
  have second : (History.replies 1 (.played {} rerunMoves))[(History.requests 1
      ((History.played {} rerunMoves).take 10)).length]?
      = some (.ok "a".toList (some "2".toList) [] []) := by decide +kernel
  obtain rfl := Option.some.inj (reply.symm.trans second)
  revert same
  decide

end Session

end NotebookEngine
