import Sope.Lib.Shell

set_option autoImplicit false

/- How a POSIX shell splits a line into words and operators. On an expansion, a pattern
and a quotation that nothing ends, whose text the line alone does not settle, the lexer
answers `none`. -/
namespace Shell

def singleQuote : Char := Char.ofNat 39

def isBlank (c : Char) : Bool := c == ' ' || c == '\t'

/-- The characters that operators are made of, and the newline. -/
def isOperator (c : Char) : Bool := c ∈ ['|', '&', ';', '<', '>', '(', ')', '\n']

def isPattern (c : Char) : Bool := c ∈ ['*', '?', '[', '~']

/-- What makes an expansion of a `$` before it. -/
def startsExpansion (c : Char) : Bool := isNameStart c || isOneChar c || c == '{' || c == '('

/-- Where the lexer stands in a line. -/
inductive Place where
  | unquoted (inWord : Bool)
  | escaped (inWord : Bool)
  | single
  | double
  | doubleEscaped
  | doubleDollar
  | comment

inductive Piece where
  | char (c : Char)
  -- the start of a quotation, which makes a word even of nothing
  | mark
  | blank
  | operator (c : Char)
deriving DecidableEq

inductive Token where
  | word (text : List Char)
  | operator (c : Char)
deriving DecidableEq

/-- What was read at this place and is not passed on yet. -/
def Place.pending : Place → List Char
  | .escaped _ | .doubleEscaped => [backslash]
  | .doubleDollar => [dollar]
  | _ => []

def Piece.text : Piece → List Char
  | .char c => [c]
  | _ => []

/-- The characters that the pieces hold. -/
def text (ps : List Piece) : List Char := ps.flatMap Piece.text

def Token.text : Token → List Char
  | .word text => text
  | .operator _ => []

/-- Outside quotations the character stands for itself. -/
def isBare (c : Char) : Bool :=
  !(isSpecial c || c == singleQuote || isPattern c || isBlank c || isOperator c || c == '#')

/-- The word is written without quotes. -/
structure Bare (word : List Char) : Prop where
  nonempty : word ≠ []
  bare : ∀ c ∈ word, isBare c = true

def fromUnquoted (inWord : Bool) (c : Char) : Option (Place × List Piece) :=
  if c == backslash then some (.escaped inWord, [])
  else if c == singleQuote then some (.single, [.mark])
  else if c == doubleQuote then some (.double, [.mark])
  else if c == dollar || c == backquote || isPattern c then none
  else if isBlank c then some (.unquoted false, [.blank])
  else if isOperator c then some (.unquoted false, [.operator c])
  else if c == '#' && !inWord then some (.comment, [])
  else some (.unquoted true, [.char c])

def fromDouble (c : Char) : Option (Place × List Piece) :=
  if c == doubleQuote then some (.unquoted true, [])
  else if c == backslash then some (.doubleEscaped, [])
  else if c == dollar then some (.doubleDollar, [])
  else if c == backquote then none
  else some (.double, [.char c])

section Lexer

-- Whether a `$` that begins no expansion stands for itself, which is up to the shell.
variable (lone : Bool)

def lexStep : Place → Char → Option (Place × List Piece)
  | .unquoted inWord, c => fromUnquoted inWord c
  | .escaped inWord, c =>
      if c == '\n' then some (.unquoted inWord, [])
      else some (.unquoted true, [.char c])
  | .single, c =>
      if c == singleQuote then some (.unquoted true, [])
      else some (.single, [.char c])
  | .double, c => fromDouble c
  | .doubleEscaped, c =>
      if isSpecial c then some (.double, [.char c])
      else if c == '\n' then some (.double, [])
      else some (.double, [.char backslash, .char c])
  | .doubleDollar, c =>
      if startsExpansion c || !lone then none
      else (fromDouble c).map fun (next, out) => (next, .char dollar :: out)
  | .comment, c =>
      if c == '\n' then some (.unquoted false, [.operator c])
      else some (.comment, [])

def lexEnd : Place → Option (List Piece)
  | .unquoted _ | .comment => some []
  | _ => none

def pieces : Place → List Char → Option (List Piece)
  | place, [] => lexEnd place
  | place, c :: rest => do
      let (next, out) ← lexStep lone place c
      let more ← pieces next rest
      return out ++ more

def group : Option (List Char) → List Piece → List Token
  | none, [] => []
  | some word, [] => [.word word]
  | word, .char c :: rest => group (some (word.getD [] ++ [c])) rest
  | word, .mark :: rest => group (some (word.getD [])) rest
  | none, .blank :: rest => group none rest
  | some word, .blank :: rest => .word word :: group none rest
  | none, .operator c :: rest => .operator c :: group none rest
  | some word, .operator c :: rest => .word word :: .operator c :: group none rest

/-- A line of words only, of which the first is no reserved word and no assignment, is one
simple command. -/
def tokens (line : List Char) : Option (List Token) :=
  (pieces lone (.unquoted false) line).map (group none)

/-- Between double quotes the character stands for itself before `next`. -/
def stands (c : Char) (next : Option Char) : Bool :=
  if c == doubleQuote || c == backquote then false
  else if c == backslash then next.any fun d => !isSpecial d && d != '\n'
  else if c == dollar then lone && !next.any startsExpansion
  else true

/-- Between double quotes every character of the word stands for itself. -/
def Verbatim : List Char → Prop
  | [] => True
  | c :: rest => stands lone c rest.head? = true ∧ Verbatim rest

/-- The places between double quotes. -/
def Place.Quoted : Place → Prop
  | .double | .doubleEscaped | .doubleDollar => True
  | _ => False

variable {lone}

theorem pieces_cons {place next : Place} {c : Char} {out : List Piece} (rest : List Char)
    (moves : lexStep lone place c = some (next, out)) :
    pieces lone place (c :: rest) = (pieces lone next rest).map (out ++ ·) := by
  simp only [pieces, moves, Option.bind_eq_bind, Option.bind_some, Option.pure_def,
    Option.map_eq_bind, Function.comp_def]

theorem exists_of_pieces_cons {place : Place} {c : Char} {rest : List Char} {ps : List Piece}
    (lexed : pieces lone place (c :: rest) = some ps) :
    ∃ next out more, lexStep lone place c = some (next, out) ∧
      pieces lone next rest = some more ∧ ps = out ++ more := by
  obtain ⟨⟨next, out⟩, moves, more⟩ := Option.bind_eq_some_iff.mp lexed
  obtain ⟨more, rest, same⟩ := Option.bind_eq_some_iff.mp more
  exact ⟨next, out, more, moves, rest, (Option.some.inj same).symm⟩

@[simp] theorem text_nil : text [] = [] := rfl

@[simp] theorem text_cons (piece : Piece) (ps : List Piece) :
    text (piece :: ps) = piece.text ++ text ps := rfl

@[simp] theorem text_append (ps ps' : List Piece) : text (ps ++ ps') = text ps ++ text ps' :=
  List.flatMap_append

@[simp] theorem char_text (c : Char) : (Piece.char c).text = [c] := rfl
@[simp] theorem mark_text : Piece.mark.text = [] := rfl
@[simp] theorem blank_text : Piece.blank.text = [] := rfl
@[simp] theorem operator_text (c : Char) : (Piece.operator c).text = [] := rfl

@[simp] theorem unquoted_pending (inWord : Bool) : (Place.unquoted inWord).pending = [] := rfl
@[simp] theorem escaped_pending (inWord : Bool) :
    (Place.escaped inWord).pending = [backslash] := rfl
@[simp] theorem single_pending : Place.single.pending = [] := rfl
@[simp] theorem double_pending : Place.double.pending = [] := rfl
@[simp] theorem doubleEscaped_pending : Place.doubleEscaped.pending = [backslash] := rfl
@[simp] theorem doubleDollar_pending : Place.doubleDollar.pending = [dollar] := rfl
@[simp] theorem comment_pending : Place.comment.pending = [] := rfl

theorem double_quoted : Place.double.Quoted := trivial
theorem doubleEscaped_quoted : Place.doubleEscaped.Quoted := trivial
theorem doubleDollar_quoted : Place.doubleDollar.Quoted := trivial

/-- The words of the line hold the characters of its pieces. -/
theorem text_group (current : Option (List Char)) (ps : List Piece) :
    (group current ps).flatMap Token.text = current.getD [] ++ text ps := by
  fun_induction group current ps <;> simp_all [Token.text]

/-- Every character read stands in what is passed on or pending at most once. -/
theorem fromUnquoted_le {inWord : Bool} {next : Place} {c : Char} {out : List Piece}
    (moves : fromUnquoted inWord c = some (next, out)) :
    (text out).length + next.pending.length ≤ 1 := by
  unfold fromUnquoted at moves
  split_ifs at moves <;> cases moves <;> simp

theorem fromDouble_le {next : Place} {c : Char} {out : List Piece}
    (moves : fromDouble c = some (next, out)) :
    (text out).length + next.pending.length ≤ 1 := by
  unfold fromDouble at moves
  split_ifs at moves <;> cases moves <;> simp

theorem lexStep_le {place next : Place} {c : Char} {out : List Piece}
    (moves : lexStep lone place c = some (next, out)) :
    (text out).length + next.pending.length ≤ place.pending.length + 1 := by
  cases place with
  | unquoted inWord => exact fromUnquoted_le moves
  | double => exact fromDouble_le moves
  | doubleDollar =>
      simp only [lexStep, Option.ite_none_left_eq_some, Option.map_eq_some_iff] at moves
      obtain ⟨-, ⟨next, out⟩, double, same⟩ := moves
      have room := fromDouble_le double
      cases same
      simp only [text_cons, char_text, List.length_append, List.length_singleton,
        doubleDollar_pending]
      omega
  | escaped | single | doubleEscaped | comment =>
      simp only [lexStep] at moves
      split_ifs at moves <;> cases moves <;> simp

/-- A quote at the end of the line passes on nothing new. -/
theorem closing_le {place next : Place} {out : List Piece}
    (moves : lexStep lone place doubleQuote = some (next, out))
    (ends : lexEnd next ≠ none) : (text out).length ≤ place.pending.length := by
  cases place with
  | unquoted | single | doubleEscaped =>
      cases moves
      exact absurd rfl ends
  | doubleDollar =>
      cases lone <;> cases moves
      exact Nat.le_refl 1
  | escaped | double | comment =>
      cases moves
      simp

theorem length_text_le {place : Place} {body : List Char} {ps : List Piece}
    (lexed : pieces lone place (body ++ [doubleQuote]) = some ps) :
    (text ps).length ≤ place.pending.length + body.length := by
  induction body generalizing place ps with
  | nil =>
      obtain ⟨next, out, more, moves, ends, rfl⟩ := exists_of_pieces_cons lexed
      have closed : lexEnd next = some more := ends
      have first := closing_le moves (by rw [closed]; exact Option.some_ne_none more)
      have nothing : more = [] := by
        cases next <;> cases closed <;> rfl
      rw [nothing, List.append_nil]
      exact first
  | cons c rest ih =>
      obtain ⟨next, out, more, moves, after, rfl⟩ := exists_of_pieces_cons lexed
      have first := lexStep_le moves
      have others := ih after
      simp only [text_append, List.length_append, List.length_cons]
      omega

theorem eq_or_plain (c : Char) :
    c = doubleQuote ∨ c = backslash ∨ c = dollar ∨ c = backquote ∨ isSpecial c = false := by
  by_cases special : isSpecial c = true
  · simp only [isSpecial, Bool.or_eq_true, beq_iff_eq] at special
    tauto
  · simp [special]

theorem stands_of_plain {c : Char} (plain : isSpecial c = false) (next : Option Char) :
    stands lone c next = true := by
  obtain ⟨notDollar, notBackquote, notQuote, notBackslash⟩ := isSpecial_eq_false_iff.mp plain
  simp only [stands, notDollar, notBackquote, notQuote, notBackslash, Bool.or_self,
    Bool.false_eq_true, ↓reduceIte]

theorem fromDouble_of_plain {c : Char} (plain : isSpecial c = false) :
    fromDouble c = some (.double, [.char c]) := by
  obtain ⟨notDollar, notBackquote, notQuote, notBackslash⟩ := isSpecial_eq_false_iff.mp plain
  simp only [fromDouble, notDollar, notBackquote, notQuote, notBackslash, Bool.false_eq_true,
    ↓reduceIte]

/-- A `$` that begins no expansion is passed on, and the next character is read anew. -/
theorem pieces_doubleDollar (c : Char) (rest : List Char) :
    pieces lone .doubleDollar (c :: rest) =
      if startsExpansion c || !lone then none
      else (pieces lone .double (c :: rest)).map (.char dollar :: ·) := by
  simp only [pieces, lexStep]
  split
  · rfl
  · cases fromDouble c with
    | none => rfl
    | some moved =>
        cases lexed : pieces lone moved.1 rest <;> simp [lexed]

theorem stands_dollar (next : Option Char) :
    stands lone dollar next = (lone && !next.any startsExpansion) := rfl

theorem stands_backslash (next : Option Char) :
    stands lone backslash next = next.any fun d => !isSpecial d && d != '\n' := rfl

/-- If the line keeps every character of the word, its first step does. -/
theorem kept_step {place : Place} {c : Char} {rest : List Char} {ps : List Piece}
    (lexed : pieces lone place (c :: (rest ++ [doubleQuote])) = some ps)
    (kept : place.pending.length + (rest.length + 1) ≤ (text ps).length) :
    ∃ next out more, lexStep lone place c = some (next, out) ∧
      pieces lone next (rest ++ [doubleQuote]) = some more ∧
      (text out).length + next.pending.length = place.pending.length + 1 ∧
      next.pending.length + rest.length ≤ (text more).length := by
  obtain ⟨next, out, more, moves, after, rfl⟩ := exists_of_pieces_cons lexed
  have first := lexStep_le moves
  have others := length_text_le after
  rw [text_append, List.length_append] at kept
  exact ⟨next, out, more, moves, after, by omega, by omega⟩

/-- A word between double quotes loses a character unless every one stands for itself. -/
theorem verbatim_of_pieces {place : Place} {word : List Char} {ps : List Piece}
    (quoted : place.Quoted) (lexed : pieces lone place (word ++ [doubleQuote]) = some ps)
    (kept : place.pending.length + word.length ≤ (text ps).length) :
    Verbatim lone (place.pending ++ word) := by
  induction word generalizing place ps with
  | nil =>
      cases place with
      | double => trivial
      | doubleEscaped => cases lexed
      | doubleDollar =>
          cases lone
          · cases lexed
          · exact ⟨rfl, trivial⟩
      | _ => cases quoted
  | cons c rest ih =>
      have inText {ps : List Piece}
          (lexed : pieces lone .double (c :: (rest ++ [doubleQuote])) = some ps)
          (kept : 0 + (rest.length + 1) ≤ (text ps).length) : Verbatim lone (c :: rest) := by
        obtain ⟨next, out, more, moves, after, first, others⟩ := kept_step lexed kept
        rcases eq_or_plain c with rfl | rfl | rfl | rfl | plain
        · cases moves
          cases first
        · cases moves
          exact ih doubleEscaped_quoted after others
        · cases moves
          exact ih doubleDollar_quoted after others
        · cases moves
        · rw [lexStep, fromDouble_of_plain plain] at moves
          cases moves
          exact ⟨stands_of_plain plain _, ih double_quoted after others⟩
      cases place with
      | double => exact inText lexed kept
      | doubleEscaped =>
          obtain ⟨next, out, more, moves, after, first, others⟩ := kept_step lexed kept
          simp only [lexStep] at moves
          split_ifs at moves with special newline
          · cases moves
            cases first
          · cases moves
            cases first
          · cases moves
            have plain : isSpecial c = false := by simpa using special
            have escapes : stands lone backslash (some c) = true := by
              simpa [stands_backslash, plain] using newline
            exact ⟨escapes, stands_of_plain plain _, ih double_quoted after others⟩
      | doubleDollar =>
          rw [List.cons_append, pieces_doubleDollar, Option.ite_none_left_eq_some] at lexed
          obtain ⟨noExpansion, lexed⟩ := lexed
          obtain ⟨ps, inner, rfl⟩ := Option.map_eq_some_iff.mp lexed
          have begins : stands lone dollar (some c) = true := by
            simpa [stands_dollar, and_comm] using noExpansion
          refine ⟨begins, inText inner ?_⟩
          simp only [text_cons, char_text, List.length_append, doubleDollar_pending,
            List.length_cons] at kept
          omega
      | _ => cases quoted

theorem pieces_of_verbatim {place : Place} {word : List Char} (quoted : place.Quoted)
    (verbatim : Verbatim lone (place.pending ++ word)) :
    pieces lone place (word ++ [doubleQuote]) =
      some ((place.pending ++ word).map Piece.char) := by
  induction word generalizing place with
  | nil =>
      cases place with
      | double => rfl
      | doubleEscaped => cases verbatim.1
      | doubleDollar =>
          cases lone
          · cases verbatim.1
          · rfl
      | _ => cases quoted
  | cons c rest ih =>
      have inText (verbatim : Verbatim lone (c :: rest)) :
          pieces lone .double (c :: rest ++ [doubleQuote]) = some ((c :: rest).map Piece.char) := by
        rcases eq_or_plain c with rfl | rfl | rfl | rfl | plain
        · cases verbatim.1
        · have opens : lexStep lone .double backslash = some (.doubleEscaped, []) := rfl
          rw [List.cons_append, pieces_cons _ opens, ih doubleEscaped_quoted verbatim]
          rfl
        · have opens : lexStep lone .double dollar = some (.doubleDollar, []) := rfl
          rw [List.cons_append, pieces_cons _ opens, ih doubleDollar_quoted verbatim]
          rfl
        · cases verbatim.1
        · have moves : lexStep lone .double c = some (.double, [.char c]) :=
            fromDouble_of_plain plain
          rw [List.cons_append, pieces_cons _ moves, ih double_quoted verbatim.2]
          rfl
      cases place with
      | double => exact inText verbatim
      | doubleEscaped =>
          obtain ⟨escapes, -, others⟩ := verbatim
          have moves : lexStep lone .doubleEscaped c =
              some (.double, [.char backslash, .char c]) := by
            have plain : isSpecial c = false ∧ c ≠ '\n' := by
              simpa [stands_backslash] using escapes
            simp [lexStep, plain]
          rw [List.cons_append, pieces_cons _ moves, ih double_quoted others]
          rfl
      | doubleDollar =>
          obtain ⟨begins, others⟩ := verbatim
          have noExpansion : ¬ (startsExpansion c || !lone) = true := by
            simpa [stands_dollar, and_comm] using begins
          rw [List.cons_append, pieces_doubleDollar, if_neg noExpansion]
          rw [← List.cons_append, inText others]
          rfl
      | _ => cases quoted

theorem group_chars (soFar word : List Char) (ps : List Piece) :
    group (some soFar) (word.map Piece.char ++ ps) = group (some (soFar ++ word)) ps := by
  induction word generalizing soFar with
  | nil => simp
  | cons c rest ih => simp [group, ih]

/-- A quoted word is one word of its own characters exactly if they all stand for
themselves. -/
theorem quoted_iff (word : List Char) :
    (pieces lone .double (word ++ [doubleQuote])).map (group (some [])) = some [.word word] ↔
      Verbatim lone word := by
  constructor
  · intro grouped
    obtain ⟨ps, lexed, one⟩ := Option.map_eq_some_iff.mp grouped
    have same : word = text ps := by
      have texts := text_group (some []) ps
      rw [one] at texts
      simpa [Token.text] using texts
    exact verbatim_of_pieces double_quoted lexed (by simp [← same])
  · intro verbatim
    have chars := group_chars [] word []
    rw [List.append_nil] at chars
    rw [pieces_of_verbatim double_quoted verbatim, Option.map_some, double_pending,
      List.nil_append, chars]
    rfl

theorem fromUnquoted_of_bare {c : Char} (bare : isBare c = true) (inWord : Bool) :
    fromUnquoted inWord c = some (.unquoted true, [.char c]) := by
  simp only [isBare, Bool.not_eq_true', Bool.or_eq_false_iff, isSpecial_eq_false_iff] at bare
  obtain ⟨⟨⟨⟨⟨⟨notDollar, notBackquote, notQuote, notBackslash⟩, notSingle⟩, notPattern⟩, notBlank⟩,
    notOperator⟩, notComment⟩ := bare
  simp only [fromUnquoted, notDollar, notBackquote, notQuote, notBackslash, notSingle, notPattern,
    notBlank, notOperator, notComment, Bool.or_self, Bool.false_and, Bool.false_eq_true,
    ↓reduceIte]

theorem tokens_blank (rest : List Char) : tokens lone (' ' :: rest) = tokens lone rest := by
  have skips : lexStep lone (.unquoted false) ' ' = some (.unquoted false, [.blank]) := rfl
  rw [tokens, pieces_cons _ skips, Option.map_map]
  rfl

theorem tokens_doubleQuote (rest : List Char) :
    tokens lone (doubleQuote :: rest) = (pieces lone .double rest).map (group (some [])) := by
  have opens : lexStep lone (.unquoted false) doubleQuote = some (.double, [.mark]) := rfl
  rw [tokens, pieces_cons _ opens, Option.map_map]
  rfl

theorem pieces_bare {word : List Char} (bare : ∀ c ∈ word, isBare c = true) (inWord : Bool)
    (rest : List Char) :
    pieces lone (.unquoted inWord) (word ++ ' ' :: rest) =
      (pieces lone (.unquoted false) rest).map (word.map Piece.char ++ .blank :: ·) := by
  induction word generalizing inWord with
  | nil =>
      have skips : lexStep lone (.unquoted inWord) ' ' = some (.unquoted false, [.blank]) := rfl
      rw [List.nil_append, pieces_cons _ skips]
      rfl
  | cons c word ih =>
      have moves : lexStep lone (.unquoted inWord) c = some (.unquoted true, [.char c]) :=
        fromUnquoted_of_bare (bare c List.mem_cons_self) inWord
      rw [List.cons_append, pieces_cons _ moves,
        ih (fun d member => bare d (List.mem_cons_of_mem c member)), Option.map_map]
      rfl

theorem Bare.tokens {word : List Char} (bare : Bare word) (rest : List Char) :
    tokens lone (word ++ ' ' :: rest) = (tokens lone rest).map (.word word :: ·) := by
  have grouped (ps : List Piece) :
      group none (word.map Piece.char ++ .blank :: ps) = .word word :: group none ps := by
    obtain ⟨c, others, rfl⟩ := List.exists_cons_of_ne_nil bare.nonempty
    rw [List.map_cons, List.cons_append, group, group_chars]
    rfl
  rw [Shell.tokens, pieces_bare bare.bare, Option.map_map, Shell.tokens, Option.map_map]
  congr 1
  funext ps
  exact grouped ps

theorem tokens_words {words : List (List Char)} (bare : ∀ word ∈ words, Bare word)
    (rest : List Char) :
    tokens lone (words.flatMap (· ++ [' ']) ++ rest) =
      (tokens lone rest).map (words.map Token.word ++ ·) := by
  induction words with
  | nil => simp
  | cons word words ih =>
      have first : Bare word := bare word List.mem_cons_self
      rw [List.flatMap_cons, List.append_assoc, List.append_assoc, List.singleton_append,
        first.tokens, ih fun other member => bare other (List.mem_cons_of_mem word member),
        Option.map_map]
      rfl

/-- A command line of bare words and one quoted word. -/
theorem tokens_quoted_iff {words : List (List Char)} (bare : ∀ word ∈ words, Bare word)
    (word : List Char) :
    tokens lone (words.flatMap (· ++ [' ']) ++ ' ' :: doubleQuote :: (word ++ [doubleQuote])) =
        some (words.map Token.word ++ [.word word]) ↔
      Verbatim lone word := by
  rw [tokens_words bare, tokens_blank, tokens_doubleQuote, ← quoted_iff, Option.map_eq_some_iff]
  constructor
  · rintro ⟨ts, quoted, same⟩
    rw [quoted, List.append_cancel_left same]
  · intro quoted
    exact ⟨[.word word], quoted, rfl⟩

end Lexer

/-- An escape, a quotation and an operator, in `a\b "c d"'e';f`. -/
example :
    tokens true (['a', backslash, 'b', ' ', doubleQuote, 'c', ' ', 'd', doubleQuote, singleQuote,
      'e', singleQuote, ';', 'f']) =
      some [.word ['a', 'b'], .word ['c', ' ', 'd', 'e'], .operator ';', .word ['f']] := by
  decide

end Shell
