import Mathlib.Data.List.Basic

set_option autoImplicit false

/- How a POSIX shell expands the text between two double quotes: `$`, the
backquote, `"` and `\` are special, every other character stands for itself. The
expander handles escapes and parameters. On command substitution, arithmetic,
operators in braces, an unescaped `"`, and a `$` or `\` that nothing completes,
it answers `none`. -/
namespace Shell

def dollar : Char := '$'
def backquote : Char := Char.ofNat 96
def doubleQuote : Char := Char.ofNat 34
def backslash : Char := Char.ofNat 92

def isSpecial (c : Char) : Bool :=
  c == dollar || c == backquote || c == doubleQuote || c == backslash

theorem isSpecial_eq_false_iff {c : Char} :
    isSpecial c = false ↔
      (c == dollar) = false ∧ (c == backquote) = false ∧ (c == doubleQuote) = false ∧
        (c == backslash) = false := by
  simp only [isSpecial, Bool.or_eq_false_iff, and_assoc]

/-- No character of the word is special. -/
def Plain (word : List Char) : Prop := ∀ c ∈ word, isSpecial c = false

theorem Plain.append {word rest : List Char} (left : Plain word) (right : Plain rest) :
    Plain (word ++ rest) := by
  intro c member
  rcases List.mem_append.mp member with inWord | inRest
  · exact left c inWord
  · exact right c inRest

def isNameStart (c : Char) : Bool := c.isAlpha || c == '_'

def isNameChar (c : Char) : Bool := c.isAlphanum || c == '_'

/-- The parameters of one character that is no letter. -/
def isOneChar (c : Char) : Bool := c.isDigit || c ∈ ['@', '*', '#', '?', '-', '$', '!']

/-- What may stand between braces here: a name or a position. -/
def isParameter (name : List Char) : Bool :=
  match name with
  | [] => false
  | c :: _ => isNameStart c || name.all Char.isDigit

/-- Where the expander stands in a word. -/
inductive Mode where
  | text
  | escaped
  | parameter
  | name (soFar : List Char)
  | braced (soFar : List Char)

section Expander

-- The value of each parameter, empty for one that is not set.
variable (value : List Char → List Char)

/-- The next mode and the text produced, for a character that begins something new. -/
def fromText (c : Char) : Option (Mode × List Char) :=
  if c == backslash then some (.escaped, [])
  else if c == dollar then some (.parameter, [])
  else if c == backquote || c == doubleQuote then none
  else some (.text, [c])

def step : Mode → Char → Option (Mode × List Char)
  | .text, c => fromText c
  | .escaped, c =>
      if isSpecial c then some (.text, [c])
      else if c == '\n' then some (.text, [])
      else some (.text, [backslash, c])
  | .parameter, c =>
      if isNameStart c then some (.name [c], [])
      else if isOneChar c then some (.text, value [c])
      else if c == '{' then some (.braced [], [])
      else none
  | .name soFar, c =>
      if isNameChar c then some (.name (soFar ++ [c]), [])
      else do
        -- the name ends before this character
        let (mode, text) ← fromText c
        return (mode, value soFar ++ text)
  | .braced soFar, c =>
      if isNameChar c then some (.braced (soFar ++ [c]), [])
      else if c == '}' && isParameter soFar then some (.text, value soFar)
      else none

def finish : Mode → Option (List Char)
  | .text => some []
  | .name soFar => some (value soFar)
  | _ => none

def expandFrom : Mode → List Char → Option (List Char)
  | mode, [] => finish value mode
  | mode, c :: rest => do
      let (mode, text) ← step value mode c
      let more ← expandFrom mode rest
      return text ++ more

/-- The text that the word stands for. -/
def expand (word : List Char) : Option (List Char) := expandFrom value .text word

variable {value}

theorem expandFrom_cons {mode next : Mode} {c : Char} {text : List Char} (rest : List Char)
    (moves : step value mode c = some (next, text)) :
    expandFrom value mode (c :: rest) = (expandFrom value next rest).map (text ++ ·) := by
  simp only [expandFrom, moves, Option.bind_eq_bind, Option.bind_some, Option.pure_def,
    Option.map_eq_bind, Function.comp_def]

theorem fromText_of_plain {c : Char} (plain : isSpecial c = false) :
    fromText c = some (.text, [c]) := by
  obtain ⟨notDollar, notBackquote, notQuote, notBackslash⟩ := isSpecial_eq_false_iff.mp plain
  simp only [fromText, notDollar, notBackquote, notQuote, notBackslash, Bool.or_self,
    Bool.false_eq_true, ↓reduceIte]

/-- A plain word stands for itself, whatever the parameters are. -/
theorem expand_plain {word : List Char} (plain : Plain word) : expand value word = some word := by
  induction word with
  | nil => rfl
  | cons c rest ih =>
      have first : isSpecial c = false := plain c List.mem_cons_self
      have others : expandFrom value .text rest = some rest :=
        ih fun d member => plain d (List.mem_cons_of_mem c member)
      have moves : step value .text c = some (.text, [c]) := fromText_of_plain first
      rw [expand, expandFrom_cons rest moves, others]
      rfl

theorem expandFrom_name {soFar word : List Char} (inName : ∀ c ∈ word, isNameChar c = true) :
    expandFrom value (.name soFar) word = some (value (soFar ++ word)) := by
  induction word generalizing soFar with
  | nil => rw [List.append_nil]; rfl
  | cons c rest ih =>
      have first : isNameChar c = true := inName c List.mem_cons_self
      have moves : step value (.name soFar) c = some (.name (soFar ++ [c]), []) := by
        simp only [step, first, ↓reduceIte]
      rw [expandFrom_cons rest moves,
        ih fun d member => inName d (List.mem_cons_of_mem c member), List.append_assoc]
      rfl

/-- A name takes in every letter and digit that follows it. -/
theorem expand_parameter {c : Char} {word : List Char} (start : isNameStart c = true)
    (inName : ∀ c ∈ word, isNameChar c = true) :
    expand value (dollar :: c :: word) = some (value (c :: word)) := by
  have named : expandFrom value (.name [c]) word = some (value ([c] ++ word)) :=
    expandFrom_name inName
  have opens : step value .text dollar = some (.parameter, []) := rfl
  have begins : step value .parameter c = some (.name [c], []) := by
    simp only [step, start, ↓reduceIte]
  rw [expand, expandFrom_cons _ opens, expandFrom_cons _ begins, named]
  rfl

end Expander

/-- In `a$x1.b` the name ends at the dot. -/
example : expand (fun _ => []) ['a', '$', 'x', '1', '.', 'b'] = some ['a', '.', 'b'] := by decide

section Echo

/-- Where an `echo` in the XSI style stands in its operand. -/
inductive EchoMode where
  | text
  | escaped
  | octal (left value : Nat)

/-- The character behind a backslash, if the two stand for one. -/
def echoSequence (c : Char) : Option Char :=
  if c == backslash then some backslash
  else if c == 'a' then some (Char.ofNat 7)
  else if c == 'b' then some (Char.ofNat 8)
  else if c == 't' then some '\t'
  else if c == 'n' then some '\n'
  else if c == 'v' then some (Char.ofNat 11)
  else if c == 'f' then some (Char.ofNat 12)
  else if c == 'r' then some '\r'
  else none

def isOctal (c : Char) : Bool := '0' ≤ c && c ≤ '7'

def echoFrom : EchoMode → List Char → List Char
  | .text, [] => []
  | .escaped, [] => [backslash]
  | .octal _ value, [] => [Char.ofNat (value % 256)]
  | .text, c :: rest => if c == backslash then echoFrom .escaped rest else c :: echoFrom .text rest
  | .escaped, c :: rest =>
      -- nothing is printed from `c` on
      if c == 'c' then []
      else if c == '0' then echoFrom (.octal 3 0) rest
      else
        match echoSequence c with
        | some d => d :: echoFrom .text rest
        | none => backslash :: c :: echoFrom .text rest
  | .octal left value, c :: rest =>
      if left != 0 && isOctal c then
        echoFrom (.octal (left - 1) (8 * value + (c.toNat - '0'.toNat))) rest
      else
        Char.ofNat (value % 256) ::
          if c == backslash then echoFrom .escaped rest else c :: echoFrom .text rest

/-- What `echo -n` prints in a shell whose `echo` knows the sequences of XSI. -/
def xsiEcho (operand : List Char) : List Char := echoFrom .text operand

theorem xsiEcho_verbatim {operand : List Char} (none : backslash ∉ operand) :
    xsiEcho operand = operand := by
  induction operand with
  | nil => rfl
  | cons c rest ih =>
      rw [List.mem_cons, not_or] at none
      have other : (c == backslash) = false := beq_eq_false_iff_ne.mpr (Ne.symm none.1)
      have others : echoFrom .text rest = rest := ih none.2
      simp only [xsiEcho, echoFrom, other, others, Bool.false_eq_true, ↓reduceIte]

end Echo

end Shell
