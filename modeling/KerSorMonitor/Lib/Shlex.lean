import Mathlib.Data.List.Basic

/-!
# Words of a command line (`shlex.split`)

The lexer of `shlex` in POSIX mode, with `whitespace_split` and without comments: a machine over
characters, with one more input at the end.

Result: `split_tabs`: words without special characters, put together with tabs, are split again.
-/

namespace Shlex

/-- Between words, in a word, in quotation marks, or behind a backslash there or in a word. -/
inductive Mode
  | blank
  | word
  | quotation (mark : Char)
  | escape (inMarks : Bool)
  deriving DecidableEq, Repr

/-- The state of the lexer; `quoted` says that the token has had quotation marks. -/
structure Lexer where
  mode : Mode := .blank
  token : List Char := []
  quoted : Bool := false
  tokens : List (List Char) := []
  deriving DecidableEq, Repr

/-- `c in whitespace` -/
def isBlank (c : Char) : Bool := c = ' ' || c = '\t' || c = '\r' || c = '\n'

/-- `c in quotes` -/
def isMark (c : Char) : Bool := c = '\'' || c = '"'

/-- The end of a token: it is one unless it is empty and has no quotation marks. -/
def Lexer.close (l : Lexer) : Lexer :=
  if l.token ≠ [] || l.quoted then { tokens := l.tokens ++ [l.token] } else { tokens := l.tokens }

/-- What a character does. -/
def Lexer.char (l : Lexer) (c : Char) : Lexer :=
  match l.mode with
  | .blank =>
    if isBlank c then l
    else if c = '\\' then { l with mode := .escape false }
    else if isMark c then { l with mode := .quotation c }
    else { l with mode := .word, token := [c] }
  | .word =>
    if isBlank c then l.close
    else if isMark c then { l with mode := .quotation c }
    else if c = '\\' then { l with mode := .escape false }
    else { l with token := l.token ++ [c] }
  | .quotation mark =>
    if c = mark then { l with mode := .word, quoted := true }
    else if c = '\\' && mark = '"' then { l with mode := .escape true, quoted := true }
    else { l with token := l.token ++ [c], quoted := true }
  | .escape inMarks =>
    -- in quotation marks a backslash escapes itself and the mark only
    { l with
      token := if inMarks && c ≠ '\\' && c ≠ '"' then l.token ++ ['\\', c] else l.token ++ [c]
      mode := if inMarks then .quotation '"' else .word }

/-- The end of the text. -/
def Lexer.finish (l : Lexer) : Except String (List (List Char)) :=
  match l.mode with
  | .blank => .ok l.close.tokens
  | .word => .ok l.close.tokens
  | .quotation _ => .error "No closing quotation"
  | .escape _ => .error "No escaped character"

/-- `shlex.split`; an error is a `ValueError`. -/
def split (text : List Char) : Except String (List (List Char)) := (text.foldl Lexer.char {}).finish

/-! ## Plain words -/

/-- A character that stands for itself. -/
def IsPlain (c : Char) : Prop := isBlank c = false ∧ isMark c = false ∧ c ≠ '\\'

theorem foldl_word {word : List Char} (h : ∀ c ∈ word, IsPlain c) (token : List Char)
    (tokens : List (List Char)) :
    word.foldl Lexer.char { mode := .word, token := token, tokens := tokens }
      = { mode := .word, token := token ++ word, tokens := tokens } := by
  induction word generalizing token with
  | nil => rw [List.append_nil]; rfl
  | cons c word ih =>
    obtain ⟨hblank, hmark, hback⟩ := h c List.mem_cons_self
    have hchar : Lexer.char { mode := .word, token := token, tokens := tokens } c
        = { mode := .word, token := token ++ [c], tokens := tokens } := by
      simp [Lexer.char, hblank, hmark, hback]
    rw [List.foldl_cons, hchar, ih fun d hd => h d (List.mem_cons_of_mem _ hd), List.append_assoc]
    rfl

/-- The first word of a text. -/
theorem foldl_first {word : List Char} (hne : word ≠ []) (h : ∀ c ∈ word, IsPlain c)
    (tokens : List (List Char)) :
    word.foldl Lexer.char { tokens := tokens } = { mode := .word, token := word, tokens := tokens } := by
  cases word with
  | nil => exact absurd rfl hne
  | cons c word =>
    obtain ⟨hblank, hmark, hback⟩ := h c List.mem_cons_self
    have hchar : Lexer.char { tokens := tokens } c
        = { mode := .word, token := [c], tokens := tokens } := by
      simp [Lexer.char, hblank, hmark, hback]
    rw [List.foldl_cons, hchar, foldl_word fun d hd => h d (List.mem_cons_of_mem _ hd)]
    rfl

theorem close_word {word : List Char} (hne : word ≠ []) (tokens : List (List Char)) :
    ({ mode := .word, token := word, tokens := tokens } : Lexer).close
      = { tokens := tokens ++ [word] } := by
  simp [Lexer.close, hne]

/-- Words with tabs between them. -/
theorem split_tabs {words : List (List Char)} (hne : words ≠ []) (hwords : ∀ word ∈ words, word ≠ [])
    (hplain : ∀ word ∈ words, ∀ c ∈ word, IsPlain c) :
    split (['\t'].intercalate words) = .ok words := by
  have hrest : ∀ tokens, ((['\t'].intercalate words).foldl Lexer.char { tokens := tokens }).finish
      = .ok (tokens ++ words) := by
    induction words with
    | nil => exact absurd rfl hne
    | cons word words ih =>
      intro tokens
      have hword := hwords word List.mem_cons_self
      have hfirst := foldl_first hword (hplain word List.mem_cons_self) tokens
      cases words with
      | nil =>
        rw [List.intercalate_singleton, hfirst]
        show Except.ok (Lexer.close _).tokens = _
        rw [close_word hword]
      | cons next words =>
        -- the tab ends the word
        have htab : Lexer.char { mode := .word, token := word, tokens := tokens } '\t'
            = { tokens := tokens ++ [word] } := close_word hword tokens
        rw [List.intercalate_cons_cons, List.foldl_append, List.foldl_append, hfirst,
          List.foldl_cons, List.foldl_nil, htab, ih (List.cons_ne_nil _ _)
            (fun word hmem => hwords word (List.mem_cons_of_mem _ hmem))
            (fun word hmem => hplain word (List.mem_cons_of_mem _ hmem)), List.append_assoc]
        rfl
  exact hrest []

end Shlex
