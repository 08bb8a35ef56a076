import Mathlib.Data.List.Basic
import NotebookEngine.Fragment.Scan

/-!
# Scanning a line

A line is a sequence of lexemes, with or without a comment behind them (`Lexeme`, `lineText`). If no
two of them run together (`Lexeme.Apart`), the scan of the line counts the braces that stand for
themselves and no others, and its code ends where the comment begins, whatever the literals and the
comment hold (`scan_lineText`).
-/

namespace NotebookEngine

namespace Fragment

/-! ### Lexemes -/

/-- The character begins a literal or an escape. -/
def isMark (c : Char) : Bool :=
  c = '"' || c = '\'' || c = '\\'

/-- The character counts for nothing but itself. -/
def isWordChar (c : Char) : Bool :=
  !isMark c && c ≠ '/' && c ≠ '\x7b' && c ≠ '\x7d'

/-- A character of a string literal. Quotes and backslashes are escaped; other characters may be. -/
structure Letter where
  char : Char
  escaped : Bool
  guarded : char = '"' ∨ char = '\\' → escaped = true

/-- The letter as it is written. -/
def Letter.text (l : Letter) : Text :=
  if l.escaped then ['\\', l.char] else [l.char]

/-- A part of a line. -/
inductive Lexeme where
  | string (content : List Letter)
  /-- A character literal without an escape. -/
  | character (c : Char) (plain : c ≠ '\\')
  /-- A character literal with an escape: the character after the backslash, and what belongs to the
  escape beyond it. -/
  | escape (c : Char) (more : Text) (closed : '\'' ∉ more)
  /-- A lifetime or a label. -/
  | lifetime (name : Text) (named : name ≠ []) (plain : ∀ c ∈ name, isWordChar c = true)
  /-- A character that stands for itself. -/
  | other (c : Char) (plain : isMark c = false)

namespace Lexeme

/-- The lexeme as it is written. -/
def text : Lexeme → Text
  | string content => '"' :: (content.flatMap Letter.text ++ ['"'])
  | character c _ => ['\'', c, '\'']
  | escape c more _ => '\'' :: '\\' :: c :: (more ++ ['\''])
  | lifetime name _ _ => '\'' :: name
  | other c _ => [c]

/-- The lexeme is a lifetime or a label. -/
def isLifetime : Lexeme → Bool
  | lifetime .. => true
  | _ => false

/-- The lexeme is a character that stands for itself. -/
def isOther (c : Char) : Lexeme → Bool
  | other d _ => d = c
  | _ => false

/-- The braces that the lexeme opens less those it closes. -/
def depth (l : Lexeme) : Int :=
  if l.isOther '\x7b' then 1 else if l.isOther '\x7d' then -1 else 0

/-- Two lexemes that follow each other do not run together: they make no comment between them, and
a lifetime does not become a literal. -/
structure Apart (l m : Lexeme) : Prop where
  noComment : ¬(l.text.getLast? = some '/' ∧ m.text.head? = some '/')
  noLiteral : l.isLifetime = true → m.text.head? ≠ some '\''

instance (l m : Lexeme) : Decidable (l.Apart m) :=
  decidable_of_iff
    (¬(l.text.getLast? = some '/' ∧ m.text.head? = some '/')
      ∧ (l.isLifetime = true → m.text.head? ≠ some '\''))
    ⟨fun ⟨noComment, noLiteral⟩ => ⟨noComment, noLiteral⟩,
      fun apart => ⟨apart.noComment, apart.noLiteral⟩⟩

/-- A lexeme is read by itself before a text. -/
def Precedes (l : Lexeme) (rest : Text) : Prop :=
  match l with
  | lifetime .. => rest.head? ≠ some '\''
  | other c _ => c = '/' → rest.head? ≠ some '/'
  | _ => True

theorem text_ne_nil (l : Lexeme) :
  l.text ≠ []
  := by
  cases l <;> simp [text]

theorem Apart.precedes {l m : Lexeme} (apart : l.Apart m) (rest : Text) :
  l.Precedes (m.text ++ rest)
  := by
  have head : (m.text ++ rest).head? = m.text.head? := List.head?_append_of_ne_nil _ m.text_ne_nil
  cases l with
  | lifetime name named plain =>
      rw [Precedes, head]
      exact apart.noLiteral rfl
  | other c plain =>
      rw [Precedes, head]
      rintro rfl slash
      exact apart.noComment ⟨rfl, slash⟩
  | _ => trivial

/-- Before the end of the line, or a comment, nothing but a slash could run on. -/
theorem precedes_of_getLast? {l : Lexeme} (noSlash : l.text.getLast? ≠ some '/') {rest : Text}
    (noQuote : rest.head? ≠ some '\'') :
  l.Precedes rest
  := by
  cases l with
  | lifetime => exact noQuote
  | other c plain =>
      rintro rfl
      exact absurd rfl noSlash
  | _ => trivial

end Lexeme

/-! ### Scanning lexemes -/

/-- The scan with a text at the front of its code. -/
def Scan.behind (t : Text) (depth : Int) (s : Scan) : Scan :=
  ⟨depth + s.delta, t ++ s.code⟩

/-- Characters that stand for themselves are passed over. -/
theorem scanFrom_skip (inString : Bool) (t rest : Text) :
  scanFrom inString t.length (t ++ rest) = (scanFrom inString 0 rest).behind t 0
  := by
  induction t with
  | nil => simp [Scan.behind]
  | cons c t ih =>
      rw [List.length_cons, List.cons_append, scanFrom, ih]
      rfl

/-- The letters of a string are passed over up to the quote that closes it. -/
theorem scanFrom_letters (content : List Letter) (rest : Text) :
  scanFrom true 0 (content.flatMap Letter.text ++ '"' :: rest)
    = (scanFrom false 0 rest).behind (content.flatMap Letter.text ++ ['"']) 0
  := by
  induction content with
  | nil => simp [scanFrom, Scan.after, Scan.behind]
  | cons l content ih =>
      rw [List.flatMap_cons, List.append_assoc]
      cases escaped : l.escaped with
      | true =>
          rw [Letter.text, if_pos escaped, List.cons_append, scanFrom, if_pos rfl, List.cons_append,
            scanFrom, List.nil_append, ih]
          simp [Scan.after, Scan.behind]
      | false =>
          have plain : ¬(l.char = '"' ∨ l.char = '\\') := by
            intro marks
            rw [l.guarded marks] at escaped
            contradiction
          rw [not_or] at plain
          rw [Letter.text, escaped, if_neg Bool.false_ne_true, List.cons_append, scanFrom, if_neg plain.2,
            List.nil_append, decide_eq_true plain.1, ih]
          simp [Scan.after, Scan.behind]

theorem charLiteralLength_character {c : Char} (plain : c ≠ '\\') (rest : Text) :
  charLiteralLength (c :: '\'' :: rest) = 2
  := by
  unfold charLiteralLength
  split <;> simp_all

theorem charLiteralLength_escape (c : Char) {more : Text} (closed : '\'' ∉ more) (rest : Text) :
  charLiteralLength ('\\' :: c :: (more ++ '\'' :: rest)) = more.length + 3
  := by
  have ends : (more ++ '\'' :: rest).contains '\'' = true := by simp
  have place : (more ++ '\'' :: rest).idxOf '\'' = more.length := by
    rw [List.idxOf_append_of_notMem closed, List.idxOf_cons_self, Nat.add_zero]
  rw [charLiteralLength, if_pos ends, place]

/-- Where a character is followed by no quote, there is no literal of it. -/
theorem charLiteralLength_lifetime {c : Char} (plain : c ≠ '\\') {rest : Text}
    (noQuote : rest.head? ≠ some '\'') :
  charLiteralLength (c :: rest) = 0
  := by
  unfold charLiteralLength
  split <;> simp_all

/-- The characters of a name are passed over one by one. -/
theorem scanFrom_word {name : Text} (plain : ∀ c ∈ name, isWordChar c = true) (rest : Text) :
  scanFrom false 0 (name ++ rest) = (scanFrom false 0 rest).behind name 0
  := by
  induction name with
  | nil => simp [Scan.behind]
  | cons c name ih =>
      rw [List.forall_mem_cons] at plain
      obtain ⟨own, plain⟩ := plain
      simp only [isWordChar, isMark, Bool.and_eq_true, Bool.not_eq_true', Bool.or_eq_false_iff,
        decide_eq_true_eq, decide_eq_false_iff_not] at own
      obtain ⟨⟨⟨⟨⟨string, quote⟩, -⟩, slash⟩, opening⟩, closing⟩ := own
      rw [List.cons_append, scanFrom, if_neg string, if_neg quote, if_neg (by simp [slash]),
        if_neg opening, if_neg closing, ih plain]
      rfl

/-- A character that stands for itself is counted if it is a brace. -/
theorem scanFrom_other {c : Char} (plain : isMark c = false) {rest : Text}
    (noComment : c = '/' → rest.head? ≠ some '/') :
  scanFrom false 0 (c :: rest) = (scanFrom false 0 rest).behind [c] (Lexeme.other c plain).depth
  := by
  have marks := plain
  simp only [isMark, Bool.or_eq_false_iff, decide_eq_false_iff_not] at marks
  have slashes : ¬((decide (c = '/') && decide (rest.head? = some '/')) = true) := by
    simpa using noComment
  rw [scanFrom, if_neg marks.1.1, if_neg marks.1.2, if_neg slashes]
  simp only [Lexeme.depth, Lexeme.isOther, decide_eq_true_eq]
  split
  · rfl
  · split
    · rfl
    · simp [Scan.after, Scan.behind]

/-- A lexeme is scanned to its end. -/
theorem Lexeme.scanFrom_text {l : Lexeme} {rest : Text} (precedes : l.Precedes rest) :
  scanFrom false 0 (l.text ++ rest) = (scanFrom false 0 rest).behind l.text l.depth
  := by
  have skipped (t : Text) : (scanFrom false t.length (t ++ rest)).after '\''
      = (scanFrom false 0 rest).behind ('\'' :: t) 0 := by
    rw [scanFrom_skip]
    rfl
  cases l with
  | string content =>
      rw [text, List.cons_append, List.append_assoc, List.singleton_append, scanFrom, if_pos rfl,
        scanFrom_letters]
      rfl
  | character c plain =>
      have length : charLiteralLength ([c, '\''] ++ rest) = [c, '\''].length :=
        charLiteralLength_character plain rest
      rw [text, List.cons_append, scanFrom_quote, length, skipped]
      rfl
  | escape c more closed =>
      have length : charLiteralLength ('\\' :: c :: (more ++ ['\'']) ++ rest)
          = ('\\' :: c :: (more ++ ['\''])).length := by
        simpa using charLiteralLength_escape c closed rest
      rw [text, List.cons_append, scanFrom_quote, length, skipped]
      rfl
  | lifetime name named plain =>
      obtain ⟨c, cs, rfl⟩ := List.exists_cons_of_ne_nil named
      have own : c ≠ '\\' := by
        rintro rfl
        exact absurd (plain '\\' List.mem_cons_self) (by decide)
      -- a name of one character is a literal if a quote follows it
      have noQuote : (cs ++ rest).head? ≠ some '\'' := by
        cases cs with
        | nil => exact precedes
        | cons d cs =>
            rintro ⟨⟩
            exact absurd (plain '\'' (by simp)) (by decide)
      rw [text, List.cons_append, scanFrom_quote, List.cons_append,
        charLiteralLength_lifetime own noQuote, ← List.cons_append, scanFrom_word plain]
      rfl
  | other c plain => exact scanFrom_other plain precedes

/-! ### Lines -/

/-- What stands at the end of a line: nothing, or a comment. -/
def commentText : Option Text → Text
  | none => []
  | some t => '/' :: '/' :: t

/-- The lexemes as they are written. -/
def lexemesText (ls : List Lexeme) : Text :=
  ls.flatMap Lexeme.text

/-- The line of some lexemes and a comment. -/
def lineText (ls : List Lexeme) (comment : Option Text) : Text :=
  lexemesText ls ++ commentText comment

/-- The braces that stand for themselves: those that open less those that close. -/
def braces (ls : List Lexeme) : Int :=
  (ls.countP (Lexeme.isOther '\x7b') : Int) - ls.countP (Lexeme.isOther '\x7d')

theorem braces_cons (l : Lexeme) (ls : List Lexeme) :
  braces (l :: ls) = l.depth + braces ls
  := by
  have distinct : l.isOther '\x7b' = true → l.isOther '\x7d' = false := by
    cases l <;> simp_all [Lexeme.isOther]
  simp only [braces, List.countP_cons, Lexeme.depth]
  split
  case isTrue opening =>
    rw [distinct opening]
    simp
    omega
  case isFalse =>
    split
    case isTrue => simp; omega
    case isFalse => simp

theorem scanFrom_commentText (comment : Option Text) :
  scanFrom false 0 (commentText comment) = ⟨0, []⟩
  := by
  cases comment with
  | none => rfl
  | some t => simp [commentText, scanFrom]

theorem head?_commentText (comment : Option Text) :
  (commentText comment).head? ≠ some '\''
  := by
  cases comment <;> simp [commentText]

/-- A lexeme before others, and before the end of the line or a comment, is read by itself. -/
theorem Lexeme.precedes_of_isChain {l : Lexeme} {ls : List Lexeme}
    (apart : (l :: ls).IsChain Lexeme.Apart) {comment : Option Text}
    (ends : comment.isSome = true → (lexemesText (l :: ls)).getLast? ≠ some '/') :
  l.Precedes (lexemesText ls ++ commentText comment)
  := by
  cases ls with
  | cons m ls =>
      rw [lexemesText, List.flatMap_cons, List.append_assoc]
      exact (List.isChain_cons_cons.mp apart).1.precedes _
  | nil =>
      change l.Precedes (commentText comment)
      cases comment with
      | none => cases l <;> simp [Precedes, commentText]
      | some t =>
          rw [lexemesText, List.flatMap_singleton] at ends
          apply precedes_of_getLast? (ends rfl)
          apply head?_commentText

/-- The scan of a line of lexemes that do not run together, with a comment that does not stand
behind a slash, or without one: its braces are those that stand for themselves, and its code is what
stands before the comment. -/
theorem scan_lineText {ls : List Lexeme} (apart : ls.IsChain Lexeme.Apart) {comment : Option Text}
    (ends : comment.isSome = true → (lexemesText ls).getLast? ≠ some '/') :
  scan (lineText ls comment) = ⟨braces ls, lexemesText ls⟩
  := by
  unfold scan lineText
  induction ls with
  | nil => exact scanFrom_commentText comment
  | cons l ls ih =>
      have ends' : comment.isSome = true → (lexemesText ls).getLast? ≠ some '/' := by
        intro commented slash
        apply ends commented
        rw [lexemesText, List.flatMap_cons, List.getLast?_append, ← lexemesText, slash]
        rfl
      have precedes := Lexeme.precedes_of_isChain apart ends
      rw [lexemesText, List.flatMap_cons, List.append_assoc, ← lexemesText,
        Lexeme.scanFrom_text precedes, ih apart.of_cons ends', braces_cons]
      rfl

/-- A labelled block with braces in a string, in character literals and in a comment. -/
def labelled : List Lexeme :=
  [.lifetime ['a'] (List.cons_ne_nil _ _) (List.forall_mem_singleton.mpr rfl), .other ':' rfl,
    .other '\x7b' rfl, .other '/' rfl,
    .string [⟨'\x7d', false, by decide⟩, ⟨'"', true, by decide⟩, ⟨'n', true, by decide⟩],
    .character '\x7d' (by decide), .escape '\'' [] (by decide),
    .escape 'u' "\x7b7d\x7d".toList (by decide)]

theorem scan_lineText_labelled :
  labelled.IsChain Lexeme.Apart
    ∧ (lexemesText labelled).getLast? ≠ some '/'
    ∧ lineText labelled (some ['\x7d'])
      = "'a:\x7b/\"\x7d\\\"\\n\"'\x7d''\\'''\\u\x7b7d\x7d'//\x7d".toList
    ∧ scan (lineText labelled (some ['\x7d'])) = ⟨1, lexemesText labelled⟩
  := by
  have apart : labelled.IsChain Lexeme.Apart := by decide
  have ends : (lexemesText labelled).getLast? ≠ some '/' := by decide
  have line : lineText labelled (some ['\x7d'])
      = "'a:\x7b/\"\x7d\\\"\\n\"'\x7d''\\'''\\u\x7b7d\x7d'//\x7d".toList := by
    decide
  exact ⟨apart, ends, line, scan_lineText apart fun _ => ends⟩

end Fragment

end NotebookEngine
