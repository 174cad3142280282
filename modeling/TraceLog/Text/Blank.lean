/-!
# Blank Characters

Which characters separate words, and how a text is trimmed and cut at them. Texts are
handled as lists of characters; `strip` is the same trimming on `String`.

The blank characters are the white space of the Unicode tables together with the four
information separators U+001C to U+001F. The end-of-line characters are blank as well.

## Main definitions

* `isBlank`: the character class.
* `trim`, `strip`: a text without the blanks at its two ends.
* `nextWord?`: the first word of a text and what follows it.
-/

namespace TraceLog.Text

/-- A blank character: a tab or any of the four line-break controls that follow it, an
information separator, a space, or one of the wide and narrow spaces beyond ASCII. -/
def isBlank (c : Char) : Bool :=
  let n := c.toNat
  (0x09 ≤ n && n ≤ 0x0D) || (0x1C ≤ n && n ≤ 0x20) || n == 0x85 || n == 0xA0 ||
    n == 0x1680 || (0x2000 ≤ n && n ≤ 0x200A) || n == 0x2028 || n == 0x2029 ||
    n == 0x202F || n == 0x205F || n == 0x3000

/-- The text from its first character that is not blank. -/
def trimStart (s : List Char) : List Char :=
  s.dropWhile isBlank

/-- The text up to its last character that is not blank. -/
def trimEnd (s : List Char) : List Char :=
  (s.reverse.dropWhile isBlank).reverse

/-- The text without the blanks at either end. -/
def trim (s : List Char) : List Char :=
  trimEnd (trimStart s)

/-- `trim` on strings. -/
def strip (s : String) : String :=
  String.ofList (trim s.toList)

/-- The first word of a text, a maximal run of characters that are not blank, and the
text after it. There is none when the text is all blank. -/
def nextWord? (s : List Char) : Option (List Char × List Char) :=
  match trimStart s with
  | [] => none
  | c :: rest => some ((c :: rest).takeWhile (!isBlank ·), (c :: rest).dropWhile (!isBlank ·))

/-! ### Laws of trimming -/

/-- Nothing is left of a text from its first other character exactly when it is all blank. -/
theorem trimStart_eq_nil_iff {s : List Char} :
    trimStart s = [] ↔ ∀ c ∈ s, isBlank c = true := by
  induction s with
  | nil => simp [trimStart]
  | cons c s ih =>
    unfold trimStart at ih ⊢
    by_cases h : isBlank c = true
    · rw [List.dropWhile_cons_of_pos h, ih]
      simp [h]
    · simp [h]

/-- Trimming the front of a text leaves it empty or starting with a character that is not
blank. -/
theorem isBlank_of_trimStart_eq_cons {s rest : List Char} {c : Char}
    (h : trimStart s = c :: rest) : isBlank c = false := by
  induction s with
  | nil => simp [trimStart] at h
  | cons d s ih =>
    by_cases hd : isBlank d = true
    · exact ih (by simpa [trimStart, List.dropWhile_cons, hd] using h)
    · simp only [trimStart, List.dropWhile_cons, hd] at h
      obtain ⟨rfl, -⟩ := List.cons.inj h
      simpa using hd

/-- Nothing is left of a trimmed text exactly when it is all blank. -/
theorem trim_eq_nil_iff {s : List Char} : trim s = [] ↔ ∀ c ∈ s, isBlank c = true := by
  rw [← trimStart_eq_nil_iff, trim, trimEnd, List.reverse_eq_nil_iff]
  change trimStart (trimStart s).reverse = [] ↔ _
  rw [trimStart_eq_nil_iff]
  constructor
  · intro h
    match hs : trimStart s with
    | [] => rfl
    | c :: rest =>
      have hc := h c (by simp [hs])
      simp [isBlank_of_trimStart_eq_cons hs] at hc
  · intro h
    simp [h]

end TraceLog.Text
