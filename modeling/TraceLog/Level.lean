import TraceLog.Template.Filling
import TraceLog.Value.Whole

/-!
# Levels

Levels are the integers from 1 on; a record passes a threshold when its level is at least as
great. Fourteen names are accepted, in any case and with blanks around them: those of the
standard scale, and the host's own ones, some of which share a number. A number may be
written in digits of any script. The level `off` is above every level of ordinary use; as a
threshold it disables all output.

## Main definitions

* `Level.parse`: the level that a value means.
* `Level.name`: the display name of a level.
* `Level.display`: what is shown for any value in place of a level.
-/

namespace TraceLog.Level

open Number

/-- The lowest level. -/
def lowest : Int := 1

/-- The level of a record that is given none. -/
def standard : Int := 20

/-- The level that disables all output when it is the threshold. -/
def off : Int := 9223372036854775807

/-- The accepted names, in alphabetical order. -/
def named : Table String Int :=
  [("ALL", lowest), ("CONFIG", 15), ("CRITICAL", 50), ("DEBUG", 10), ("ERROR", 40),
    ("FATAL", 50), ("FINE", 10), ("FINER", 7), ("FINEST", 3), ("INFO", standard), ("OFF", off),
    ("SEVERE", 40), ("WARN", 30), ("WARNING", 30)]

/-- The display names; of several names for one number the standard one is shown. -/
def displayed : Table Int String :=
  [(0, "NOTSET"), (lowest, "ALL"), (3, "FINEST"), (7, "FINER"), (10, "DEBUG"), (15, "CONFIG"),
    (standard, "INFO"), (30, "WARNING"), (40, "ERROR"), (50, "CRITICAL"), (off, "OFF")]

/-- The refusal of a level text. -/
def unknown (value : Value) : Fault :=
  .refuse "level" value (.unknownLevel (named.map (·.1)))

/-- The level that a text means: a name, or a number of at least the lowest level. -/
def parseText (s : String) : Except Fault Int :=
  let word := Text.capitals (Text.trim s.toList)
  match named.find? (String.ofList word) with
  | some level => .ok level
  | none =>
    if word ≠ [] ∧ word.all Text.isDigit then
      match Value.integerOfText word with
      | .ok level => if lowest ≤ level then .ok level else .error (unknown (.text s))
      | .error fault => .error (.number fault)
    else .error (unknown (.text s))

/-- The level that a value means. Truth values are no levels. -/
def parse : Value → Except Fault Int
  | .int n =>
    if n < lowest then .error (.refuse "level" (.int n) (.belowLowestLevel lowest)) else .ok n
  | .text s => parseText s
  | v => .error (.refuse "level" v .notLevel)

/-- The level of a record that is made without a name for it. -/
def ofRecord (level : Value) : Except Fault Int :=
  match level.integer? with
  | some n => .ok n
  | none => .error .levelNotInteger

/-- The display name of a level; a number without one is shown as such. -/
def name (level : Int) : Except Fault String :=
  match displayed.find? level with
  | some s => .ok s
  | none =>
    match Value.intText? level with
    | some s => .ok s!"Level {s}"
    | none => .error (.number .tooLongToWrite)

/-- The numbers behind the display names, and behind their other spellings. -/
def numbered : Table String Int :=
  displayed.map (fun entry => (entry.2, entry.1)) ++ [("WARN", 30), ("FATAL", 50)]

/-- What is shown for any value in place of a level: the name of a number, the number of a
name, and the value itself behind the word for a level. -/
def display (level : Value) : Except Fault Value :=
  match level.notKey?, level with
  | some kind, _ => .error (.notKey kind)
  | none, .text s =>
    match numbered.find? s with
    | some n => .ok (.int n)
    | none => other
  | none, _ =>
    match List.find? (fun entry => Value.sameKey level (.int entry.1)) displayed with
    | some (_, name) => .ok (.text name)
    | none => other
where
  /-- The value behind the word for a level. -/
  other : Except Fault Value :=
    Value.remainder (.text "Level %s") level

/-- A text means a level as one of the names, or as a number. -/
theorem named_or_number {s : String} {level : Int} (h : parseText s = .ok level) :
    let word := Text.capitals (Text.trim s.toList)
    named.find? (String.ofList word) = some level ∨
      word ≠ [] ∧ (∀ c ∈ word, Text.isDigit c = true) ∧ Value.integerOfText word = .ok level ∧
        lowest ≤ level := by
  rw [parseText] at h
  split at h
  · next hnamed =>
    obtain rfl := Except.ok.inj h
    exact .inl hnamed
  · split at h
    · next hword =>
      split at h
      · next n hread =>
        split at h
        · next hle =>
          obtain rfl := Except.ok.inj h
          exact .inr ⟨hword.1, List.all_eq_true.mp hword.2, hread, hle⟩
        · simp at h
      · simp at h
    · simp at h

/-- An accepted level is at least the lowest one. -/
theorem lowest_le_of_parse {v : Value} {level : Int} (h : parse v = .ok level) :
    lowest ≤ level := by
  cases v with
  | int n =>
      simp only [parse] at h
      split at h
      · simp at h
      · obtain rfl := Except.ok.inj h
        omega
  | text s =>
      rw [parse] at h
      rcases named_or_number h with hnamed | ⟨-, -, -, hle⟩
      · have hall : ∀ entry ∈ named, lowest ≤ entry.2 := by decide
        exact hall _ (Table.mem_of_find? hnamed)
      · exact hle
  | _ => simp [parse] at h

end TraceLog.Level
