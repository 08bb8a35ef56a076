import NotebookEngine.Proofs.Fragment.Items
import NotebookEngine.Proofs.Text.Words

/-!
# Headers of items

An item may begin with a visibility and with qualifiers, before its keyword (`Header`). The splitting sees
such a header if a blank follows the keyword and one qualifier at most precedes it, or if one of the first
two qualifiers names a foreign convention (`Header.startsItem_text`). So a generic implementation, and a
function that is both asynchronous and unsafe, are not seen: the first line of the item becomes the
first line of the body (`Header.split_iff_isSeen`).
-/

namespace NotebookEngine

namespace Text

theorem isIdentifierContinue_of_isLower {c : Char} (lower : c.isLower = true) :
  isIdentifierContinue c = true
  := by
  have alpha : c.isAlpha = true := (Bool.or_eq_true _ _).mpr (.inr lower)
  simp [isIdentifierContinue, isIdentifierStart, alpha]

/-- Blanks between two words. -/
structure Gap where
  text : Text
  some : text ≠ []
  blank : isBlankText text = true

theorem Gap.startsBlank (g : Gap) (t : Text) :
  startsBlank (g.text ++ t) = true
  := by
  obtain ⟨_ | ⟨c, s⟩, some, blank⟩ := g
  · contradiction
  · rw [isBlankText, List.all_cons, Bool.and_eq_true] at blank
    exact blank.1

end Text

namespace Fragment

open Text (Gap IsWord Breaks)

/-! ### What headers are made of -/

/-- A visibility, with the blanks behind it. -/
inductive Visibility where
  | none
  | toAll (gap : Gap)
  | toScope (scope : Text) (closed : ')' ∉ scope) (blanks : Text)
    (blank : Text.isBlankText blanks = true)

/-- The visibility as it is written. -/
def Visibility.text : Visibility → Text
  | none => []
  | toAll gap => "pub".toList ++ gap.text
  | toScope scope _ blanks _ => "pub(".toList ++ scope ++ ')' :: blanks

/-- A qualifier of an item. -/
inductive Qualifier where
  | async
  | unchecked
  | foreign
deriving DecidableEq

/-- The qualifier as it is written. -/
def Qualifier.text : Qualifier → Text
  | async => "async".toList
  | unchecked => "unsafe".toList
  | foreign => "extern \"C\"".toList

/-- Qualifiers, each with the blanks behind it, before other text. -/
def qualified (qualifiers : List (Qualifier × Gap)) (rest : Text) : Text :=
  qualifiers.foldr (fun q rest => q.1.text ++ (q.2.text ++ rest)) rest

/-- The header of an item: a visibility, qualifiers in any order, and a keyword that is a whole word,
with what follows it on the line. -/
structure Header where
  visibility : Visibility
  qualifiers : List (Qualifier × Gap)
  keyword : Text
  after : Text
  isKeyword : keyword ∈ itemKeywords
  whole : ∀ c ∈ after.head?, Text.isIdentifierContinue c = false

namespace Header

/-- What follows the visibility. -/
def words (h : Header) : Text :=
  qualified h.qualifiers (h.keyword ++ h.after)

/-- The header as it is written. -/
def text (h : Header) : Text :=
  h.visibility.text ++ h.words

/-- The splitting takes notice of the header: one of its first two qualifiers names a foreign convention,
or it has one qualifier at most and a blank behind the keyword. -/
def IsSeen (h : Header) : Prop :=
  .foreign ∈ (h.qualifiers.map Prod.fst).take 2
    ∨ h.qualifiers.length ≤ 1 ∧ Text.startsBlank h.after = true

instance (h : Header) : Decidable h.IsSeen :=
  inferInstanceAs (Decidable (_ ∨ _ ∧ _))

end Header

/-! ### Stripping words -/

theorem isSome_stripWord?_iff {word line : Text} :
  (stripWord? word line).isSome = true ↔ ∃ rest, line = word ++ rest ∧ Text.startsBlank rest = true
  := by
  unfold stripWord?
  cases stripped : Text.stripPrefix? word line with
  | none =>
      simp only [Option.isSome_none, Bool.false_eq_true, false_iff, not_exists, not_and]
      intro rest same
      rw [Text.stripPrefix?_eq_some_iff.mpr same] at stripped
      contradiction
  | some rest =>
      rw [Text.stripPrefix?_eq_some_iff] at stripped
      simp only [stripped, Option.isSome_ite, List.append_cancel_left_eq, exists_eq_left']

/-- A word of small letters is stripped if it is the word at the front and a blank follows. -/
theorem isSome_stripWord?_word {word front rest : Text} (isWord : IsWord word) (front_word : IsWord front)
    (breaks : Breaks rest) :
  (stripWord? word (front ++ rest)).isSome = true ↔ word = front ∧ Text.startsBlank rest = true
  := by
  rw [isSome_stripWord?_iff]
  constructor
  · rintro ⟨r, same, blank⟩
    obtain ⟨rfl, rfl⟩ :=
      Text.word_inj front_word isWord breaks (Text.breaks_of_startsBlank blank) same
    exact ⟨rfl, blank⟩
  · rintro ⟨rfl, blank⟩
    exact ⟨rest, rfl, blank⟩

theorem itemKeywords_words :
  ∀ keyword ∈ itemKeywords, IsWord keyword
  := by
  decide

theorem startsKeyword_iff {front rest : Text} (front_word : IsWord front) (breaks : Breaks rest) :
  startsKeyword (front ++ rest) = true ↔ front ∈ itemKeywords ∧ Text.startsBlank rest = true
  := by
  rw [startsKeyword, List.any_eq_true]
  constructor
  · rintro ⟨keyword, isKeyword, starts⟩
    obtain ⟨rfl, blank⟩ :=
      (isSome_stripWord?_word (itemKeywords_words keyword isKeyword) front_word breaks).mp starts
    exact ⟨isKeyword, blank⟩
  · rintro ⟨isKeyword, blank⟩
    exact ⟨front, isKeyword, (isSome_stripWord?_word front_word front_word breaks).mpr ⟨rfl, blank⟩⟩

theorem stripWord?_gap {word rest : Text} (gap : Gap) (begins : Text.startsBlank rest = false) :
  stripWord? word (word ++ (gap.text ++ rest)) = some rest
  := by
  unfold stripWord?
  rw [Text.stripPrefix?_eq_some_iff.mpr rfl]
  simp only [gap.startsBlank rest, ↓reduceIte, Text.trimStart_blank_append gap.blank begins]

/-! ### Stripping a visibility -/

theorem cutFirst?_closing {scope rest : Text} (closed : ')' ∉ scope) :
  Text.cutFirst? [')'] (scope ++ ')' :: rest) = some (scope, rest)
  := by
  induction scope with
  | nil => rfl
  | cons c scope ih =>
      rw [List.mem_cons, not_or] at closed
      rw [List.cons_append, Text.cutFirst?, Text.stripPrefix?, if_neg closed.1]
      simp only [ih closed.2, Option.map_some]

theorem stripVisibility_blank {rest : Text} (blank : Text.startsBlank rest = true) :
  stripVisibility ("pub".toList ++ rest) = Text.trimStart rest
  := by
  rw [stripVisibility, Text.stripPrefix?_eq_some_iff.mpr rfl]
  split
  case h_1 none => nomatch none
  case h_2 same =>
    obtain rfl := Option.some.inj same
    contradiction
  case h_3 same =>
    obtain rfl := Option.some.inj same
    rw [if_pos blank]

theorem stripVisibility_scope {scope rest : Text} (closed : ')' ∉ scope) :
  stripVisibility ("pub(".toList ++ scope ++ ')' :: rest) = Text.trimStart rest
  := by
  have stripped : Text.stripPrefix? "pub".toList ("pub(".toList ++ scope ++ ')' :: rest)
      = some ('(' :: (scope ++ ')' :: rest)) := by
    rw [Text.stripPrefix?_eq_some_iff, List.append_assoc]
    rfl
  rw [stripVisibility, stripped]
  simp only [cutFirst?_closing closed]

/-- A visibility before a small letter other than its own first is stripped. -/
theorem stripVisibility_text (v : Visibility) {c : Char} (rest : Text) (lower : c.isLower = true)
    (other : c ≠ 'p') :
  stripVisibility (v.text ++ c :: rest) = c :: rest
  := by
  have begins : Text.startsBlank (c :: rest) = false := Text.isBlank_of_isLower lower
  cases v with
  | none =>
      have absent : Text.stripPrefix? "pub".toList (c :: rest) = Option.none := if_neg (Ne.symm other)
      rw [Visibility.text, List.nil_append, stripVisibility, absent]
  | toAll gap =>
      rw [Visibility.text, List.append_assoc, stripVisibility_blank (gap.startsBlank _),
        Text.trimStart_blank_append gap.blank begins]
  | toScope scope closed blanks blank =>
      rw [Visibility.text, List.append_assoc, List.cons_append, stripVisibility_scope closed,
        Text.trimStart_blank_append blank begins]

/-! ### Seeing a header -/

/-- What follows a visibility begins with a small letter, which is not the first of a visibility. -/
theorem exists_qualified_eq (qualifiers : List (Qualifier × Gap)) {keyword : Text}
    (isKeyword : keyword ∈ itemKeywords) (after : Text) :
  ∃ c rest, qualified qualifiers (keyword ++ after) = c :: rest ∧ c.isLower = true ∧ c ≠ 'p'
  := by
  cases qualifiers with
  | nil =>
      have first : ∀ keyword ∈ itemKeywords, keyword.head?.any (fun c => c.isLower && c ≠ 'p') = true := by
        decide
      obtain ⟨c, head, letter⟩ := (Option.any_eq_true _ _).mp (first keyword isKeyword)
      obtain ⟨lower, other⟩ := Bool.and_eq_true_iff.mp letter
      obtain ⟨rest, rfl⟩ := List.head?_eq_some_iff.mp head
      exact ⟨c, rest ++ after, rfl, lower, of_decide_eq_true other⟩
  | cons q qualifiers =>
      obtain ⟨_ | _ | _, gap⟩ := q
      · exact ⟨'a', _, rfl, by decide, by decide⟩
      · exact ⟨'u', _, rfl, by decide, by decide⟩
      · exact ⟨'e', _, rfl, by decide, by decide⟩

/-- Of the qualifiers only a foreign convention begins with a keyword. -/
theorem startsKeyword_qualifier {q : Qualifier} (gap : Gap) (rest : Text) :
  startsKeyword (q.text ++ (gap.text ++ rest)) = true ↔ q = .foreign
  := by
  have breaks : Breaks (gap.text ++ rest) := Text.breaks_of_startsBlank (gap.startsBlank rest)
  cases q with
  | async =>
      have absent : "async".toList ∉ itemKeywords := by decide
      have iff := @startsKeyword_iff "async".toList _ (by decide) breaks
      exact iff.trans ⟨fun h => absurd h.1 absent, nofun⟩
  | unchecked =>
      have absent : "unsafe".toList ∉ itemKeywords := by decide
      have iff := @startsKeyword_iff "unsafe".toList _ (by decide) breaks
      exact iff.trans ⟨fun h => absurd h.1 absent, nofun⟩
  | foreign =>
      have present : "extern".toList ∈ itemKeywords := by decide
      have iff := @startsKeyword_iff "extern".toList (" \"C\"".toList ++ (gap.text ++ rest)) (by decide)
        (Text.breaks_of_startsBlank rfl)
      exact iff.trans ⟨fun _ => rfl, fun _ => ⟨present, rfl⟩⟩

/-- A qualifier at the front is stripped if a keyword is seen behind it. -/
theorem startsQualified_qualifier {q : Qualifier} (gap : Gap) {rest : Text}
    (begins : Text.startsBlank rest = false) :
  startsQualified (q.text ++ (gap.text ++ rest)) = true ↔ q = .foreign ∨ startsKeyword rest = true
  := by
  have breaks : Breaks (gap.text ++ rest) := Text.breaks_of_startsBlank (gap.startsBlank rest)
  have starts := startsKeyword_qualifier (q := q) gap rest
  rw [startsQualified, Bool.or_eq_true, starts, or_comm]
  apply or_congr_right'
  intro notForeign
  have stripped : itemQualifiers.findSome? (stripWord? · (q.text ++ (gap.text ++ rest)))
      = some rest := by
    have qualifiers : itemQualifiers
        = ["async".toList, "unsafe".toList, "default".toList, "extern \"C\"".toList] := rfl
    have stripped : stripWord? q.text (q.text ++ (gap.text ++ rest)) = some rest :=
      stripWord?_gap gap begins
    rw [qualifiers, List.findSome?_cons]
    cases q with
    | async =>
        have stripped : stripWord? "async".toList (Qualifier.async.text ++ (gap.text ++ rest))
            = some rest := stripped
        rw [stripped]
    | unchecked =>
        have stripped : stripWord? "unsafe".toList (Qualifier.unchecked.text ++ (gap.text ++ rest))
            = some rest := stripped
        have other := @isSome_stripWord?_word "async".toList "unsafe".toList _ (by decide) (by decide)
          breaks
        have absent : stripWord? "async".toList (Qualifier.unchecked.text ++ (gap.text ++ rest))
            = none := by
          rw [← Option.not_isSome_iff_eq_none]
          exact fun strips => absurd (other.mp strips).1 (by decide)
        rw [absent, List.findSome?_cons, stripped]
    | foreign => contradiction
  unfold stripQualifier?
  simp only [stripped, Option.isSome_ite]

theorem breaks_of_whole {after : Text}
    (whole : ∀ c ∈ after.head?, Text.isIdentifierContinue c = false) :
  Breaks after
  := by
  intro c first
  have other := whole c first
  rw [← Bool.not_eq_true] at other ⊢
  exact fun lower => other (Text.isIdentifierContinue_of_isLower lower)

theorem qualified_cons (q : Qualifier) (gap : Gap) (qualifiers : List (Qualifier × Gap)) (rest : Text) :
  qualified ((q, gap) :: qualifiers) rest = q.text ++ (gap.text ++ qualified qualifiers rest)
  := rfl

theorem startsBlank_qualified (qualifiers : List (Qualifier × Gap)) {keyword : Text}
    (isKeyword : keyword ∈ itemKeywords) (after : Text) :
  Text.startsBlank (qualified qualifiers (keyword ++ after)) = false
  := by
  obtain ⟨c, rest, same, lower, -⟩ := exists_qualified_eq qualifiers isKeyword after
  rw [same]
  exact Text.isBlank_of_isLower lower

section Keyword

variable {keyword after : Text} (isKeyword : keyword ∈ itemKeywords)
  (whole : ∀ c ∈ after.head?, Text.isIdentifierContinue c = false)

include isKeyword whole

theorem startsKeyword_keyword :
  startsKeyword (keyword ++ after) = true ↔ Text.startsBlank after = true
  := (startsKeyword_iff (itemKeywords_words keyword isKeyword) (breaks_of_whole whole)).trans
    (and_iff_right isKeyword)

theorem startsQualified_keyword :
  startsQualified (keyword ++ after) = true ↔ Text.startsBlank after = true
  := by
  rw [startsQualified, Bool.or_eq_true, startsKeyword_keyword isKeyword whole, or_iff_right_iff_imp]
  intro stripped
  unfold stripQualifier? at stripped
  cases found : itemQualifiers.findSome? (stripWord? · (keyword ++ after)) with
  | none =>
      rw [found] at stripped
      nomatch stripped
  | some rest =>
      obtain ⟨word, isQualifier, stripped⟩ := List.exists_of_findSome?_eq_some found
      have qualifiers : ∀ word ∈ itemQualifiers, IsWord word ∧ word ∉ itemKeywords
          ∨ word = "extern".toList ++ " \"C\"".toList := by
        decide
      have breaks := breaks_of_whole whole
      have keyword_word := itemKeywords_words keyword isKeyword
      rcases qualifiers word isQualifier with ⟨isWord, noKeyword⟩ | rfl
      · have same := (isSome_stripWord?_word isWord keyword_word breaks).mp (by rw [stripped]; rfl)
        rw [same.1] at noKeyword
        contradiction
      · obtain ⟨r, same, -⟩ := isSome_stripWord?_iff.mp (show Option.isSome _ = true by rw [stripped]; rfl)
        rw [List.append_assoc] at same
        obtain ⟨-, rfl⟩ := Text.word_inj keyword_word (by decide) breaks
          (Text.breaks_of_startsBlank rfl) same
        rfl

end Keyword

/-- No definition of a macro begins with another short text. -/
theorem startsWith_macro {front : Text} (short : front.length ≤ 12)
    (other : ¬front <+: "macro_rules!".toList) (rest : Text) :
  Text.startsWith (front ++ rest) "macro_rules!".toList = false
  := by
  rw [← Bool.not_eq_true, Text.startsWith, List.isPrefixOf_iff_prefix]
  intro starts
  exact other (List.prefix_of_prefix_length_le (List.prefix_append front rest) starts short)

theorem Header.not_startsWith_macro (h : Header) :
  Text.startsWith h.text "macro_rules!".toList = false
  := by
  obtain ⟨visibility, qualifiers, keyword, after, isKeyword, _⟩ := h
  cases visibility with
  | none =>
      cases qualifiers with
      | nil =>
          have others : ∀ keyword ∈ itemKeywords,
              keyword.length ≤ 12 ∧ ¬keyword <+: "macro_rules!".toList := by
            decide
          obtain ⟨short, other⟩ := others keyword isKeyword
          exact startsWith_macro short other after
      | cons q qualifiers =>
          obtain ⟨_ | _ | _, gap⟩ := q <;> rfl
  | toAll gap => rfl
  | toScope scope closed blanks blank => rfl

/-- Behind a visibility the splitting looks at two words. -/
theorem startsQualified_qualified {qualifiers : List (Qualifier × Gap)} {keyword after : Text}
    (isKeyword : keyword ∈ itemKeywords)
    (whole : ∀ c ∈ after.head?, Text.isIdentifierContinue c = false) :
  startsQualified (qualified qualifiers (keyword ++ after)) = true
    ↔ .foreign ∈ (qualifiers.map Prod.fst).take 2
      ∨ qualifiers.length ≤ 1 ∧ Text.startsBlank after = true
  := by
  match qualifiers with
  | [] => simpa [qualified] using startsQualified_keyword isKeyword whole
  | [(q, gap)] =>
      have begins : Text.startsBlank (keyword ++ after) = false :=
        startsBlank_qualified [] isKeyword after
      have starts := startsQualified_qualifier (q := q) gap begins
      rw [startsKeyword_keyword isKeyword whole] at starts
      simpa [qualified, @eq_comm _ q .foreign] using starts
  | (q, gap) :: (r, next) :: more =>
      have begins : Text.startsBlank (qualified ((r, next) :: more) (keyword ++ after)) = false :=
        startsBlank_qualified _ isKeyword after
      have starts := startsQualified_qualifier (q := q) gap begins
      have second := startsKeyword_qualifier (q := r) next (qualified more (keyword ++ after))
      rw [← qualified_cons] at starts second
      rw [second] at starts
      simpa [@eq_comm _ q .foreign, @eq_comm _ r .foreign] using starts

/-- A header is that of an item for the splitting if and only if it is seen. -/
theorem Header.startsItem_text (h : Header) :
  startsItem h.text = true ↔ h.IsSeen
  := by
  obtain ⟨c, rest, words, lower, other⟩ := exists_qualified_eq h.qualifiers h.isKeyword h.after
  have stripped : stripVisibility h.text = h.words := by
    rw [text, Header.words, words, stripVisibility_text h.visibility rest lower other]
  rw [startsItem, h.not_startsWith_macro, Bool.false_or, stripped]
  exact startsQualified_qualified h.isKeyword h.whole

/-- A header does not begin an attribute. -/
theorem Header.startsAttribute_text (h : Header) :
  startsAttribute h.text = false
  := by
  obtain ⟨c, rest, words, lower, -⟩ := exists_qualified_eq h.qualifiers h.isKeyword h.after
  rw [text, Header.words, words]
  cases h.visibility with
  | none =>
      have other : '#' ≠ c := by
        rintro rfl
        contradiction
      simp [startsAttribute, Text.startsWith, Visibility.text, List.isPrefixOf_cons_cons, other]
  | toAll gap => rfl
  | toScope scope closed blanks blank => rfl

/-! ### Items by their headers -/

section Headed

variable {code first : Text} {more statements : List Text} {h : Header}
  (noEntryPoint : definesEntryPoint (Text.trim code) = false) (headed : Text.trim first = h.text)
  (lines : Text.lines (Text.trim code) = first :: more ++ statements)

include noEntryPoint headed lines

/-- The first line of an item is the first line of the body if its header is not seen. -/
theorem Header.split_of_not_isSeen (unseen : ¬h.IsSeen) :
  ∃ definitions body, split code = Parts.ofLines definitions (first :: body)
  := by
  have plain : ¬IsItemLine first ∧ ¬IsAttributeLine first := by
    rw [IsItemLine, IsAttributeLine, headed, h.startsItem_text, h.startsAttribute_text]
    exact ⟨unseen, Bool.false_ne_true⟩
  have next := Progress.next_statement (p := {}) rfl rfl plain
  use linesOf .definition (placed code),
    linesOf .body ((Progress.next {} first).2.place (more ++ statements))
  have body : linesOf .body (placed code)
      = first :: linesOf .body ((Progress.next {} first).2.place (more ++ statements)) := by
    rw [placed, lines, List.cons_append, linesOf_place_cons, if_pos (by rw [next])]
  rw [← body]
  exact split_eq_ofLines noEntryPoint

/-- An item before statements is recovered if and only if its header is seen and no attribute in it is
left open, unless nothing comes after it. If its header is not seen, the first line of the item is that
of the body. -/
theorem Header.split_iff_isSeen (spans : Spans (first :: more))
    (plain : ∀ line ∈ statements, ¬IsItemLine line ∧ ¬IsAttributeLine line) :
  (split code = Parts.ofLines (first :: more) statements
      ↔ h.IsSeen ∧ (Unclosed (first :: more) → statements = []))
    ∧ (¬h.IsSeen → ∃ definitions body, split code = Parts.ofLines definitions (first :: body))
  := by
  refine ⟨?_, split_of_not_isSeen noEntryPoint headed lines⟩
  have noAttribute : ¬IsAttributeLine first := by
    rw [IsAttributeLine, headed, h.startsAttribute_text]
    exact Bool.false_ne_true
  have front : afterAttributes false (first :: more) = first :: more :=
    afterAttributes_beyond (p := {}) fun within => noAttribute (within.resolve_left Bool.false_ne_true)
  have seen : (∀ line ∈ (first :: more).head?, IsItemLine line) ↔ h.IsSeen := by
    rw [← h.startsItem_text, ← headed]
    simp [IsItemLine]
  rw [split_item_iff noEntryPoint spans lines plain, front, seen]

end Headed

/-- The header of a function with a visibility and two qualifiers. -/
def handlerHeader : Header where
  visibility := .toScope "crate".toList (by decide) " ".toList (by decide)
  qualifiers :=
    [(.unchecked, ⟨" ".toList, by decide, by decide⟩), (.foreign, ⟨"  ".toList, by decide, by decide⟩)]
  keyword := "fn".toList
  after := " handle(x: u8) -> u8".toList
  isKeyword := by decide
  whole c first := by
    obtain rfl := Option.some.inj first
    decide

/-- The first line of a function with that header. -/
def handlerLine : Text :=
  "pub(crate) unsafe extern \"C\"  fn handle(x: u8) -> u8".toList

/-- Its other lines, with an attribute and a brace in a string. -/
def handlerLines : List Text :=
  ["\x7b".toList, "    #[allow(unused)]".toList, "    let y = \"\x7d\";".toList, "    x".toList,
    "\x7d // end".toList]

theorem Header.split_iff_isSeen_handler :
  handlerHeader.IsSeen ∧ Spans (handlerLine :: handlerLines)
    ∧ split (Text.join ['\n'] (handlerLine :: handlerLines ++ ["let v = 2;".toList, "v".toList]))
      = Parts.ofLines (handlerLine :: handlerLines) ["let v = 2;".toList, "v".toList]
  := by
  have seen : handlerHeader.IsSeen := by decide +kernel
  have spans : Spans (handlerLine :: handlerLines) := by decide +kernel
  have headed : Text.trim handlerLine = handlerHeader.text := by decide +kernel
  have lines : Text.lines (Text.trim (Text.join ['\n']
      (handlerLine :: handlerLines ++ ["let v = 2;".toList, "v".toList])))
      = handlerLine :: handlerLines ++ ["let v = 2;".toList, "v".toList] := by
    decide +kernel
  have iff := split_iff_isSeen (by decide +kernel) headed lines spans (by decide +kernel)
  exact ⟨seen, spans, iff.1.mpr ⟨seen, fun unclosed => absurd unclosed (by decide +kernel)⟩⟩

/-- The first line of a generic implementation. -/
def genericLine : Text :=
  "impl<T> Wrap<T> \x7b".toList

/-- Its header. -/
def genericHeader : Header where
  visibility := .none
  qualifiers := []
  keyword := "impl".toList
  after := "<T> Wrap<T> \x7b".toList
  isKeyword := by decide
  whole c first := by
    obtain rfl := Option.some.inj first
    decide

/-- Its other lines. -/
def genericLines : List Text :=
  ["    fn get(&self) -> u8 \x7b".toList, "        1".toList, "    \x7d".toList, "\x7d".toList]

/-- Not every item is recovered, not even without qualifiers: a generic implementation is not. -/
theorem Header.not_always_recovered :
  ¬∀ (h : Header) (code first : Text) (more statements : List Text),
    definesEntryPoint (Text.trim code) = false → Text.trim first = h.text → h.qualifiers = [] →
    Encloses (first :: more) → (∀ line ∈ (first :: more).getLast?, EndsItem line) →
    (∀ line ∈ statements, ¬IsItemLine line ∧ ¬IsAttributeLine line) →
    Text.lines (Text.trim code) = first :: more ++ statements →
    split code = Parts.ofLines (first :: more) statements
  := by
  intro recovered
  have same := recovered genericHeader
    (Text.join ['\n'] (genericLine :: genericLines ++ ["let v = 2;".toList, "v".toList]))
    genericLine genericLines ["let v = 2;".toList, "v".toList]
    (by decide +kernel) (by decide +kernel) rfl (by decide +kernel) (by decide +kernel)
    (by decide +kernel) (by decide +kernel)
  revert same
  decide +kernel

end Fragment

end NotebookEngine
