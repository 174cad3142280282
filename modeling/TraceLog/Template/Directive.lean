import TraceLog.Number.Reading

/-!
# Templates

A template is a text of literal characters and directives. A directive is a percent sign
followed by an optional key in round brackets, flags, an optional width, an optional
precision behind a point, an optional length letter, which means nothing, and a conversion
letter. Two percent signs side by side are one literal percent sign. Width and precision
are digits, or a star for a number taken from the arguments.

A template is cut into its pieces without regard to the arguments; a directive that the text
ends in has no conversion letter and is always the last piece.

## Main definitions

* `Piece`, `Directive`: the pieces of a template.
* `pieces`: the pieces of a text.
-/

namespace TraceLog.Template

open Number

/-- The key of a directive. -/
inductive Key where
  | absent
  | named (name : List Char)
  /-- The text ends inside the brackets. -/
  | unclosed
  deriving DecidableEq, Repr

/-- A width or a precision. -/
inductive Size where
  | absent
  | given (n : Nat)
  | star
  deriving DecidableEq, Repr

/-- The flags of a directive. -/
structure Flags where
  /-- Pad on the right. -/
  left : Bool := false
  /-- Show the sign of positive numbers. -/
  plus : Bool := false
  /-- Show a blank for the sign of positive numbers. -/
  blank : Bool := false
  /-- Use the alternate form. -/
  alternate : Bool := false
  /-- Pad numbers with zeros. -/
  zero : Bool := false
  deriving DecidableEq, Repr

/-- A directive; `position` is that of its conversion letter in the text, and `behindDigit`
tells whether a digit of the width or of the precision stands right before that letter. -/
structure Directive where
  key : Key
  flags : Flags
  width : Size
  precision : Size
  conversion : Option Char
  position : Nat
  behindDigit : Bool
  deriving DecidableEq, Repr

/-- A piece of a template. -/
inductive Piece where
  | literal (c : Char)
  | directive (d : Directive)
  deriving DecidableEq, Repr

/-! ### Reading a directive -/

/-- The text up to the bracket that closes the `depth` open ones, and the text after it. -/
def closeBrackets? : Nat → List Char → Option (List Char × List Char)
  | 0, s => some ([], s)
  | _ + 1, [] => none
  | depth + 1, c :: s =>
    let next := if c = '(' then depth + 2 else if c = ')' then depth else depth + 1
    if next = 0 then some ([], s)
    else (closeBrackets? next s).map fun (name, rest) => (c :: name, rest)

/-- The key at the front of a text, and the rest. -/
def readKey : List Char → Key × List Char
  | '(' :: s =>
    match closeBrackets? 1 s with
    | some (name, rest) => (.named name, rest)
    | none => (.unclosed, [])
  | s => (.absent, s)

/-- Whether a character is a flag. -/
def isFlag (c : Char) : Bool :=
  c == '-' || c == '+' || c == ' ' || c == '#' || c == '0'

/-- The flags among some characters. -/
def flagsOf (s : List Char) : Flags where
  left := s.contains '-'
  plus := s.contains '+'
  blank := s.contains ' '
  alternate := s.contains '#'
  zero := s.contains '0'

/-- The size at the front of a text, `missing` standing for no digits, and the rest. -/
def readSize (missing : Size) : List Char → Size × List Char
  | '*' :: s => (.star, s)
  | s =>
    match s.takeWhile isAsciiDigit with
    | [] => (missing, s)
    | digits => (.given (naturalOf digits), s.dropWhile isAsciiDigit)

/-- The precision at the front of a text, and the rest. -/
def readPrecision : List Char → Size × List Char
  | '.' :: s => readSize (.given 0) s
  | s => (.absent, s)

/-- The text after a length letter. -/
def dropLength : List Char → List Char
  | c :: s => if c = 'h' ∨ c = 'l' ∨ c = 'L' then s else c :: s
  | [] => []

/-- The directive whose text, without the percent sign, `s` starts with, and the rest; the
whole template has `total` characters. -/
def readDirective (total : Nat) (s : List Char) : Directive × List Char :=
  let (key, s₁) := readKey s
  let flags := flagsOf (s₁.takeWhile isFlag)
  let sizes := s₁.dropWhile isFlag
  let (width, s₂) := readSize .absent sizes
  let (precision, s₃) := readPrecision s₂
  let s₄ := dropLength s₃
  let behindDigit := (sizes.take (sizes.length - s₄.length)).getLast?.any isAsciiDigit
  (⟨key, flags, width, precision, s₄.head?, total - s₄.length, behindDigit⟩, s₄.drop 1)

/-! ### The rest is no longer than the text -/

/-- What is behind closed brackets is no longer than the whole. -/
theorem length_closeBrackets? {depth : Nat} {s name rest : List Char}
    (h : closeBrackets? depth s = some (name, rest)) : rest.length ≤ s.length := by
  induction s generalizing depth name with
  | nil =>
    cases depth with
    | zero => simp_all [closeBrackets?]
    | succ => simp [closeBrackets?] at h
  | cons c s ih =>
    cases depth with
    | zero =>
      simp only [closeBrackets?, Option.some.injEq, Prod.mk.injEq] at h
      simp [← h.2]
    | succ depth =>
      simp only [closeBrackets?] at h
      generalize (if c = '(' then depth + 2 else if c = ')' then depth else depth + 1) = next
        at h
      split at h
      · simp only [Option.some.injEq, Prod.mk.injEq] at h
        simp [← h.2]
      · obtain ⟨⟨name', rest'⟩, hn, he⟩ := Option.map_eq_some_iff.1 h
        obtain ⟨-, rfl⟩ := Prod.mk.inj he
        exact Nat.le_succ_of_le (ih hn)

/-- What is behind a key is no longer than the whole. -/
theorem length_readKey (s : List Char) : (readKey s).2.length ≤ s.length := by
  unfold readKey
  split
  · split
    · next h => exact Nat.le_succ_of_le (length_closeBrackets? h)
    · simp
  · simp

/-- What is behind a run is no longer than the whole. -/
theorem length_dropWhile_le {p : Char → Bool} (s : List Char) :
    (s.dropWhile p).length ≤ s.length :=
  (List.dropWhile_sublist p).length_le

/-- What is behind a size is no longer than the whole. -/
theorem length_readSize (missing : Size) (s : List Char) :
    (readSize missing s).2.length ≤ s.length := by
  unfold readSize
  split
  · simp
  · split
    · simp
    · exact length_dropWhile_le _

/-- What is behind a precision is no longer than the whole. -/
theorem length_readPrecision (s : List Char) : (readPrecision s).2.length ≤ s.length := by
  unfold readPrecision
  split
  · exact Nat.le_succ_of_le (length_readSize _ _)
  · simp

/-- What is behind a length modifier is no longer than the whole. -/
theorem length_dropLength (s : List Char) : (dropLength s).length ≤ s.length := by
  unfold dropLength
  split
  · split <;> simp
  · simp

/-- Reading a directive takes characters off the front of the text. -/
theorem length_readDirective (total : Nat) (s : List Char) :
    (readDirective total s).2.length ≤ s.length := by
  have h₁ := length_readKey s
  have h₂ := length_readSize .absent ((readKey s).2.dropWhile isFlag)
  have h₂' := length_dropWhile_le (p := isFlag) (readKey s).2
  have h₃ := length_readPrecision (readSize .absent ((readKey s).2.dropWhile isFlag)).2
  have h₄ := length_dropLength
    (readPrecision (readSize .absent ((readKey s).2.dropWhile isFlag)).2).2
  simp only [readDirective, List.length_drop]
  omega

/-! ### The pieces -/

/-- The pieces of the text `s`, the last part of a template of `total` characters. -/
def piecesFrom (total : Nat) : List Char → List Piece
  | [] => []
  | c :: s =>
    if c = '%' then
      match s with
      | '%' :: rest => .literal '%' :: piecesFrom total rest
      | s =>
        .directive (readDirective total s).1 :: piecesFrom total (readDirective total s).2
    else .literal c :: piecesFrom total s
  termination_by s => s.length
  decreasing_by
    · simp only [List.length_cons]; omega
    · have := length_readDirective total s
      simp only [List.length_cons]; omega
    · simp

/-- The pieces of a template. -/
def pieces (s : List Char) : List Piece :=
  piecesFrom s.length s

end TraceLog.Template
