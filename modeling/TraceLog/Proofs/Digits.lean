import Mathlib.Tactic.Ring
import TraceLog.Level

/-!
# Integers Within the Limit on Digits

An integer has a text only as long as it is written with at most `Value.digitLimit` digits.
`Value.IsShort` is that bound, and this module follows it through levels: a level that is
read from a text is short by itself, because longer texts are refused, so a level is long only
when it was given as a long integer. A short level has a display name.

## Main results

* `naturalOf_lt`: the value of digits is bounded by their number.
* `Level.isShort_of_parse`: an accepted level is short unless it was given as a long integer.
* `Level.name_of_isShort`: the display name of a short level.
-/

namespace TraceLog

open Number

/-- An integer with no more digits than are written: the integers that have a text. -/
def Value.IsShort (n : Int) : Prop :=
  n.natAbs < 10 ^ Value.digitLimit

/-- A value that, if it is an integer, is a short one. -/
def Value.IsShortLevel (v : Value) : Prop :=
  ∀ n, v = .int n → Value.IsShort n

/-- The text of a short integer. -/
theorem Value.intText?_of_isShort {n : Int} (h : Value.IsShort n) :
    Value.intText? n = some (toString n) := by
  have hbound : n.natAbs < 10 ^ Value.digitLimit := h
  rw [Value.intText?, Nat.pow_eq, if_pos hbound]

/-- Integers of a few digits are short. -/
theorem Value.isShort_of_lt {n : Int} (h : n.natAbs < 10 ^ 20) : Value.IsShort n := by
  have hle : 10 ^ 20 ≤ 10 ^ Value.digitLimit :=
    Nat.pow_le_pow_right (by decide) (by decide)
  exact lt_of_lt_of_le h hle

/-- A natural number below a short one is short. -/
theorem Value.isShort_of_le {m n : Nat} (hle : m ≤ n) (h : Value.IsShort (n : Int)) :
    Value.IsShort (m : Int) :=
  lt_of_le_of_lt hle h

/-! ### Reading digits -/

/-- The value of digits, on top of those in front of them. -/
theorem Number.foldl_digits_lt {digits : List Nat} (h : ∀ d ∈ digits, d < 10) (n : Nat) :
    digits.foldl (fun n d => n * 10 + d) n < (n + 1) * 10 ^ digits.length := by
  induction digits generalizing n with
  | nil => simp
  | cons d digits ih =>
      have hd : d < 10 := h d (by simp)
      have hrest := ih (fun e he => h e (by simp [he])) (n * 10 + d)
      calc (d :: digits).foldl (fun n d => n * 10 + d) n
          < (n * 10 + d + 1) * 10 ^ digits.length := hrest
        _ ≤ ((n + 1) * 10) * 10 ^ digits.length := Nat.mul_le_mul_right _ (by omega)
        _ = (n + 1) * 10 ^ (d :: digits).length := by rw [List.length_cons]; ring

/-- An ASCII digit stands for less than ten. -/
theorem Number.toNat_sub_lt_of_isAsciiDigit {c : Char} (h : isAsciiDigit c = true) :
    c.toNat - 48 < 10 := by
  simp only [isAsciiDigit, Bool.and_eq_true, decide_eq_true_eq] at h
  have hle : c.toNat ≤ '9'.toNat := h.2
  have h9 : '9'.toNat = 57 := rfl
  omega

/-- The value of ASCII digits is bounded by their number. -/
theorem Number.naturalOf_lt {s : List Char} (h : ∀ c ∈ s, isAsciiDigit c = true) :
    naturalOf s < 10 ^ s.length := by
  have hdigits : ∀ d ∈ s.map fun c => c.toNat - 48, d < 10 := by
    intro d hd
    obtain ⟨c, hc, rfl⟩ := List.mem_map.mp hd
    exact toNat_sub_lt_of_isAsciiDigit (h c hc)
  have hlt := foldl_digits_lt hdigits 0
  rw [List.length_map] at hlt
  simpa [naturalOf, naturalOfDigits] using hlt

/-- Dropping underscores keeps only characters that were there, and no underscore. -/
theorem Number.mem_of_dropUnderscores? {previous : Char} {s digits : List Char}
    (h : dropUnderscores? previous s = some digits) {c : Char} (hc : c ∈ digits) :
    c ∈ s ∧ c ≠ '_' := by
  induction s generalizing previous digits with
  | nil =>
      simp only [dropUnderscores?] at h
      split at h
      · simp at h
      · obtain rfl := Option.some.inj h
        simp at hc
  | cons d s ih =>
      rw [dropUnderscores?] at h
      by_cases hd : d = '_'
      · rw [if_pos hd] at h
        split at h
        · exact ⟨List.mem_cons_of_mem _ (ih h hc).1, (ih h hc).2⟩
        · simp at h
      · rw [if_neg hd] at h
        split at h
        · simp at h
        · obtain ⟨rest, hrest, rfl⟩ := Option.map_eq_some_iff.mp h
          rcases List.mem_cons.mp hc with rfl | hc
          · exact ⟨by simp, hd⟩
          · exact ⟨List.mem_cons_of_mem _ (ih hrest hc).1, (ih hrest hc).2⟩

/-- An integer that is read is short: a longer run of digits is refused. -/
theorem Value.isShort_of_readInteger {quoted : String} {s : List Char} {n : Int}
    (h : Value.readInteger quoted s = .ok n) : Value.IsShort n := by
  rw [Value.readInteger] at h
  split at h
  next negative digits? _ =>
  dsimp only at h
  split at h
  · simp at h
  · next digits hdrop =>
    split at h
    · simp at h
    · next hlength =>
      split at h
      · have hdigits : ∀ c ∈ digits, isAsciiDigit c = true := by
          intro c hc
          obtain ⟨hmem, hne⟩ := mem_of_dropUnderscores? hdrop hc
          have hin := List.all_eq_true.mp List.all_takeWhile c hmem
          simpa [hne] using hin
        have hlt : naturalOf digits < 10 ^ Value.digitLimit :=
          lt_of_lt_of_le (naturalOf_lt hdigits)
            (Nat.pow_le_pow_right (by decide) (not_lt.mp hlength))
        obtain rfl := Except.ok.inj h
        rw [Value.IsShort]
        split
        · simpa using hlt
        · simpa using hlt
      · simp at h

/-! ### Levels -/

namespace Level

/-- The levels that have a name are short. -/
theorem isShort_of_named {word : String} {level : Int} (h : named.find? word = some level) :
    Value.IsShort level := by
  have hall : ∀ entry ∈ named, entry.2.natAbs < 10 ^ 20 := by decide
  exact Value.isShort_of_lt (hall _ (Table.mem_of_find? h))

/-- A level that is read from a text is short. -/
theorem isShort_of_parseText {s : String} {level : Int} (h : parseText s = .ok level) :
    Value.IsShort level := by
  rcases named_or_number h with hnamed | ⟨-, -, hread, -⟩
  · exact isShort_of_named hnamed
  · exact Value.isShort_of_readInteger hread

/-- An accepted level is short, unless it was given as an integer that is not. -/
theorem isShort_of_parse {v : Value} {level : Int} (h : parse v = .ok level)
    (hshort : v.IsShortLevel) : Value.IsShort level := by
  cases v with
  | int n =>
      simp only [parse] at h
      split at h
      · simp at h
      · obtain rfl := Except.ok.inj h
        exact hshort n rfl
  | text s =>
      rw [parse] at h
      exact isShort_of_parseText h
  | _ => simp [parse] at h

/-- What is shown for a short level: its name, or its number behind a word. -/
def shown (level : Int) : String :=
  (displayed.find? level).getD s!"Level {toString level}"

/-- A short level has a display name. -/
theorem name_of_isShort {level : Int} (h : Value.IsShort level) :
    name level = .ok (shown level) := by
  rw [name, shown]
  split
  · next hfind => simp [hfind]
  · next hfind => simp [hfind, Value.intText?_of_isShort h]

end Level

end TraceLog
