import NotebookEngine.Proofs.Session.Calls

/-!
# Results and the calls they answer

Whatever the processes write, a result that an operation returns is the first one for the cell of
its call that the process of its session wrote since the call was begun. `Resolves` says so of three
entries of a history: one begins the call, one dispatches the result, one returns it.
-/

namespace NotebookEngine

namespace Session

variable {c : KernelConfig} {h : History} {m m' : Manager} {l : Live} {cellId : Text}

/-- The entries after the one at `i` and before the one at `j`. -/
def History.between (h : History) (i j : Nat) : History :=
  (h.take j).drop (i + 1)

/-- The call that the entry at `b` begins for a cell is answered by the result `x` that the entry at
`d` dispatches from the process `n`, and the entry at `r` returns the result. -/
structure Resolves (h : History) (b d r : Nat) (n : Nat) (cellId : Text) (x : CellResult) : Prop where
  begun : ∃ e ∈ h[b]?, e.request? n = some cellId
  dispatched : ∃ e ∈ h[d]?, e.reply? n = some x
      ∧ ∃ l ∈ e.before.live, l.process = n ∧ l.slot.call = .pending cellId
  returned : ∃ e ∈ h[r]?, e.answer? = some (.result x.normalize)
  begun_before : b < d
  before_return : d < r
  cell : x.cellId = cellId
  /-- No result for the cell was dispatched earlier. -/
  first : ∀ y ∈ (h.between b d).replies n, y.cellId ≠ cellId
  quiet : ∀ e ∈ h.between b r, e.Quiet
  /-- The process is that of the session which was started last. -/
  session : (History.started (h.take r)).getLast? = some n

/-! ### Entries by their place -/

namespace History

theorem mem_between {i j k : Nat} {e : Entry} (he : h[k]? = some e) (hik : i < k) (hkj : k < j) :
  e ∈ h.between i j
  := by
  apply List.mem_of_getElem? (i := k - (i + 1))
  rw [between, List.getElem?_drop, Nat.add_sub_cancel' hik, List.getElem?_take_of_lt hkj, he]

end History

/-! ### Results that are returned -/

/-- A result for the cell of a call finds the call pending if none came before it. -/
theorem Underway.pending {b d : Entry} {mid : History} {x : CellResult}
    (under : Underway b mid x.cellId l d.before) (sound : d.before.Sound)
    (reply : d.reply? l.process = some x) (others : ∀ y ∈ mid.replies l.process, y.cellId ≠ x.cellId) :
  l.slot.call = .pending x.cellId
  := by
  obtain ⟨o, k, -, live, -, heard⟩ := d.heard_of_reply? reply
  obtain rfl := Option.some.inj (live.symm.trans under.live)
  obtain ⟨taken, failed⟩ := (under.sound sound).1.sound.alert heard
  have fits := under.call
  cases call : k.slot.call with
  | none =>
      rw [call] at fits
      cases fits
  | pending id =>
      rw [call] at fits
      rw [fits.1]
  | taken => cases taken call
  | answered r =>
      cases r with
      | ok r =>
          rw [call] at fits
          obtain ⟨y, first, -⟩ := fits
          cases (firstFor?_eq_none_iff.mpr others).symm.trans first
      | error e => cases failed e call

/-- A result that is returned for an operation was dispatched to a call of that operation. -/
theorem Run.resolves (run : Run c h m) {r : Nat} {e : Entry} (he : h[r]? = some e)
    {code runtime : Text} {y : CellResult}
    (returns : e.Returns (h.take r) (.execute code cellId runtime) (.result y)) :
  ∃ b d n x, Resolves h b d r n cellId x ∧ y = x.normalize
    ∧ History.operation? (h.take b) = some (.execute code cellId runtime)
  := by
  obtain ⟨before, follows⟩ := run.at_place he
  obtain ⟨pre, b, mid, l, x, split, under, operation, first, rfl⟩ :=
    before.result_underway follows returns
  obtain ⟨rfl, mid₁, d, mid₂, rfl, reply, others⟩ := firstFor?_replies first
  have hlen := congrArg List.length split
  rw [List.length_take_of_le (Nat.le_of_lt (List.getElem?_eq_some_iff.mp he).1)] at hlen
  have hbd : pre.length < (pre ++ b :: mid₁).length := by simp
  have hdr : (pre ++ b :: mid₁).length < r := by
    simp only [List.length_append, List.length_cons] at hlen ⊢
    omega
  have hsplit : h.take r = (pre ++ b :: mid₁) ++ d :: mid₂ := by
    rw [split, List.append_assoc, List.cons_append]
  have hb : h[pre.length]? = some b := by
    rw [← List.getElem?_take_of_lt (Nat.lt_trans hbd hdr), split]
    simp
  have hd : h[(pre ++ b :: mid₁).length]? = some d := by
    rw [← List.getElem?_take_of_lt hdr, hsplit]
    simp
  have early : ∀ i < r, h.take i = (h.take r).take i := by
    intro i hi
    rw [List.take_take, Nat.min_eq_left (Nat.le_of_lt hi)]
  -- The call was pending until the result came.
  have pending : ∃ k ∈ d.before.live, k.process = l.process ∧ k.slot.call = .pending x.cellId := by
    rw [hsplit] at before
    obtain ⟨earlier, -⟩ := before.at_entry
    obtain ⟨k, process, underK⟩ := earlier.underway_of_request under.begun
      fun e he => (under.quiet e (List.mem_append_left _ he)).answer
    refine ⟨k, underK.live, process, underK.pending earlier.sound ?_ ?_⟩
    · rwa [process]
    · rwa [process]
  refine ⟨pre.length, (pre ++ b :: mid₁).length, l.process, x,
    ⟨⟨b, hb, under.begun⟩, ⟨d, hd, reply, pending⟩, ⟨e, he, returns.answer⟩, hbd, hdr, rfl,
      ?_, ?_, ?_⟩, rfl, ?_⟩
  · have between : h.between pre.length (pre ++ b :: mid₁).length = mid₁ := by
      rw [History.between, early _ hdr, hsplit, List.take_left]
      simp
    rwa [between]
  · intro e he
    apply under.quiet
    rw [History.between, split] at he
    simpa using he
  · exact before.session_last under.session
  · rw [early _ (Nat.lt_trans hbd hdr), split]
    simpa using operation

/-- No entry between the beginning of a call and its return begins a call or answers. -/
theorem Resolves.unanswered {b d r : Nat} {n : Nat} {x : CellResult}
    (res : Resolves h b d r n cellId x) {k : Nat} {e : Entry} (he : h[k]? = some e) (hbk : b < k)
    (hkr : k < r) :
  e.answer? = none ∧ ∀ n, e.request? n = none
  := by
  have quiet := res.quiet e (History.mem_between he hbk hkr)
  exact ⟨quiet.answer, quiet.request⟩

/-- A result that is dispatched answers one call at most, and is returned once at most. -/
theorem Resolves.unique {b b' d r r' n n' : Nat} {cellId' : Text} {x x' : CellResult}
    (res : Resolves h b d r n cellId x) (res' : Resolves h b' d r' n' cellId' x') :
  b = b' ∧ r = r'
  := by
  obtain ⟨e, he, request⟩ := res.begun
  obtain ⟨e', he', request'⟩ := res'.begun
  obtain ⟨a, ha, answer⟩ := res.returned
  obtain ⟨a', ha', answer'⟩ := res'.returned
  constructor
  · rcases Nat.lt_trichotomy b b' with lt | rfl | gt
    · have lt' := Nat.lt_trans res'.begun_before res.before_return
      cases ((res.unanswered he' lt lt').2 n').symm.trans request'
    · rfl
    · have lt' := Nat.lt_trans res.begun_before res'.before_return
      cases ((res'.unanswered he gt lt').2 n).symm.trans request
  · rcases Nat.lt_trichotomy r r' with lt | rfl | gt
    · have lt' := Nat.lt_trans res'.begun_before res.before_return
      cases (res'.unanswered ha lt' lt).1.symm.trans answer
    · rfl
    · have lt' := Nat.lt_trans res.begun_before res'.before_return
      cases (res.unanswered ha' lt' gt).1.symm.trans answer'

/-! ### Results that are dropped -/

/-- A result that is not for the cell of a pending call changes nothing in the session. -/
theorem Live.hear_line_of_other {n : Nat} {octets : Bytes} {x : CellResult}
    (line : (Utf8.decode? octets).map Message.ofLine = some (.ok (.result x)))
    (other : l.process = n → l.slot.call ≠ .pending x.cellId) :
  l.hear n (.line octets) = l
  := by
  obtain ⟨text, decodes, message⟩ := Option.map_eq_some_iff.mp line
  unfold hear
  split
  case isFalse => rfl
  case isTrue same =>
    have complete : l.slot.complete x.normalize = l.slot := by
      unfold Slot.complete
      split
      case h_1 id pending =>
        rw [CellResult.normalize_cellId, if_neg]
        rintro rfl
        apply other same pending
      case h_2 => rfl
    simp only [notice, decodes]
    split
    case h_1 reading heq =>
      cases heq
      simp only [Slot.readLine, message, Slot.dispatch, complete]
    case h_2 heq => cases heq
    case h_3 => rfl

/-! ### Correlation -/

/-- Of results and calls, in any run:
every result that an execution returns is, in normal form, the first one for its cell that the
process of the session which was started last wrote after the call was begun, and it found the call
pending; a result is returned for one call at most; a result for a cell without a pending call
changes nothing; and nothing that a process does changes anything once another was started. -/
theorem Run.results_correlate (run : Run c h m) :
  (∀ r e, h[r]? = some e → ∀ code cellId runtime y,
      e.Returns (h.take r) (.execute code cellId runtime) (.result y) →
      ∃ b d n x, Resolves h b d r n cellId x ∧ y = x.normalize
        ∧ History.operation? (h.take b) = some (.execute code cellId runtime))
    ∧ (∀ b b' d r r' n n' cellId cellId' x x', Resolves h b d r n cellId x →
      Resolves h b' d r' n' cellId' x' → b = b' ∧ r = r')
    ∧ (∀ e ∈ h, ∀ n octets x, e.move = .hear (.output n (.line octets)) →
      (Utf8.decode? octets).map Message.ofLine = some (.ok (.result x)) →
      (∀ l ∈ e.before.session?, l.process = n → l.slot.call ≠ .pending x.cellId) →
      e.after = e.before)
    ∧ (∀ (h₁ : History) e h₂ n o, h = h₁ ++ e :: h₂ → e.move = .hear (.output n o) →
      h₁.started.getLast? ≠ some n → e.after = e.before)
  := by
  refine ⟨?_, ?_, ?_, ?_⟩
  · intro r e he code cellId runtime y returns
    exact run.resolves he returns
  · intro b b' d r r' n n' cellId cellId' x x' res res'
    exact res.unique res'
  · intro e he n octets x move line other
    obtain ⟨h₁, h₂, rfl⟩ := List.append_of_mem he
    obtain ⟨-, follows⟩ := run.at_entry
    rw [follows.after_output move]
    apply Manager.notice_eq_self
    intro l session
    exact l.hear_line_of_other line (other l session)
  · rintro h₁ e h₂ n o rfl move last
    obtain ⟨before, follows⟩ := run.at_entry
    rw [follows.after_output move]
    apply Manager.notice_eq_self
    intro l session
    apply if_neg
    rintro rfl
    apply last (before.session_last session)

/-- A call for the cell `a` runs out of time, and its result comes while one for `b` is pending. -/
def lateMoves : List Move :=
  Move.starting 1 "a".toList ++ Move.beginning 1
    ++ [.hear .expired, .hear (.call (.execute "2".toList "b".toList "python".toList)), .proceed,
      .hear (.written true), .line 1 "\x7b\"cell_id\": \"a\", \"status\": \"ok\", \"result\": \"1\"\x7d",
      .line 1 "\x7b\"cell_id\": \"b\", \"status\": \"ok\", \"result\": \"2\"\x7d", .proceed]

/-- The result that comes late is dropped, and the call for `b` is answered with its own. -/
theorem results_correlate_late :
  ∃ m, Run {} (.played {} lateMoves) m
    ∧ (∃ e ∈ (History.played {} lateMoves)[14]?,
      e.Returns ((History.played {} lateMoves).take 14)
        (.execute "2".toList "b".toList "python".toList)
        (.result (.ok "b".toList (some "2".toList) [] [])))
    ∧ ∃ b d n x, Resolves (.played {} lateMoves) b d 14 n "b".toList x
  := by
  obtain ⟨m, run⟩ := Run.played {} lateMoves (by decide +kernel)
  have returns : ∃ e ∈ (History.played {} lateMoves)[14]?,
      e.Returns ((History.played {} lateMoves).take 14)
        (.execute "2".toList "b".toList "python".toList)
        (.result (.ok "b".toList (some "2".toList) [] [])) := by decide +kernel
  obtain ⟨e, he, hreturns⟩ := returns
  obtain ⟨b, d, n, x, resolves, -⟩ := run.results_correlate.1 14 e he _ _ _ _ hreturns
  exact ⟨m, run, ⟨e, he, hreturns⟩, b, d, n, x, resolves⟩

end Session

end NotebookEngine
