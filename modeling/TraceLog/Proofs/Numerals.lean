import Mathlib.Data.List.TakeWhile
import TraceLog.Proofs.Digits

/-!
# Levels That Look Like Numbers

A text that is no name is read as a number when it consists of digits, and digits in the wider
sense count for that: a superscript is one, and has no value. So there are texts that look like a
number to the function that reads levels and write none, and those with more digits than are read.
`Level.MissesNumber` describes them. They are the only texts on which a fault of reading numbers
comes in place of the refusal of a level.

## Main results

* `Value.integerOfText_of_digits`: what digits are read as.
* `Level.parse_text_cases`, `Level.missesNumber_iff`: a text means a level, is refused, or misses a
  number.
-/

namespace TraceLog

open Number

/-! ### Digits in capitals -/

namespace Text

/-- The places of the blanks, as ranges with both ends included. -/
def blankPlaces : List (Nat × Nat) :=
  [(0x09, 0x0D), (0x1C, 0x20), (0x85, 0x85), (0xA0, 0xA0), (0x1680, 0x1680), (0x2000, 0x200A),
    (0x2028, 0x2029), (0x202F, 0x202F), (0x205F, 0x205F), (0x3000, 0x3000)]

/-- The places of all digits, as ranges with both ends included. -/
def digitPlaces : List (Nat × Nat) :=
  digitZeros.map (fun first => (first, first + 9)) ++ ornamentalDigits

variable {c : Char} {s : List Char}

/-- A digit stands at one of the listed places. -/
theorem exists_digitPlace (h : isDigit c = true) :
    ∃ range ∈ digitPlaces, range.1 ≤ c.toNat ∧ c.toNat ≤ range.2 := by
  rw [isDigit, Bool.or_eq_true] at h
  rcases h with hvalue | hornament
  · obtain ⟨d, hd⟩ := Option.isSome_iff_exists.mp hvalue
    obtain ⟨first, hfirst, -⟩ := Option.map_eq_some_iff.mp hd
    have hheld := List.find?_some hfirst
    simp only [Bool.and_eq_true, decide_eq_true_eq] at hheld
    refine ⟨(first, first + 9), List.mem_append_left _ ?_, hheld.1, Nat.lt_succ_iff.mp hheld.2⟩
    exact List.mem_map_of_mem (List.mem_of_find?_eq_some hfirst)
  · obtain ⟨range, hmem, hheld⟩ := List.any_eq_true.mp hornament
    simp only [Bool.and_eq_true, decide_eq_true_eq] at hheld
    exact ⟨range, List.mem_append_right _ hmem, hheld⟩

/-- A blank stands at one of the listed places. -/
theorem exists_blankPlace (h : isBlank c = true) :
    ∃ range ∈ blankPlaces, range.1 ≤ c.toNat ∧ c.toNat ≤ range.2 := by
  simp only [isBlank, Bool.or_eq_true, Bool.and_eq_true, decide_eq_true_eq, beq_iff_eq] at h
  simp [blankPlaces]
  omega

/-- A digit is no blank. -/
theorem isBlank_of_isDigit (h : isDigit c = true) : isBlank c = false := by
  by_contra hblank
  obtain ⟨digits, hdigits, hlow, hhigh⟩ := exists_digitPlace h
  obtain ⟨blanks, hblanks, hlow', hhigh'⟩ := exists_blankPlace (by simpa using hblank)
  -- both tables are short, and no range of one meets a range of the other
  have hapart : ∀ digits ∈ digitPlaces, ∀ blanks ∈ blankPlaces,
      digits.2 < blanks.1 ∨ blanks.2 < digits.1 := by
    decide +kernel
  rcases hapart digits hdigits blanks hblanks with hbefore | hbehind
  · omega
  · omega

/-- A digit of ASCII is a decimal one. -/
theorem digitValue?_of_isDigit (h : isDigit c = true) (hascii : c.toNat < 127) :
    digitValue? c = some (c.toNat - 48) ∧ 48 ≤ c.toNat ∧ c.toNat ≤ 57 := by
  obtain ⟨range, hmem, hlow, hhigh⟩ := exists_digitPlace h
  have hfirst : ∀ range ∈ digitPlaces, range = (48, 57) ∨ 127 ≤ range.1 := by decide +kernel
  rcases hfirst range hmem with rfl | hbeyond
  · refine ⟨?_, hlow, hhigh⟩
    rw [digitValue?, digitZeros, List.find?_cons_of_pos]
    · rfl
    · simp only [Bool.and_eq_true, decide_eq_true_eq]
      omega
  · omega

/-- A digit is spelled as the digit of ASCII with its value, and as a question mark if it has
none. -/
theorem asciiSpelling_of_isDigit (h : isDigit c = true) :
    asciiSpelling c = match digitValue? c with
      | some d => Char.ofNat (48 + d)
      | none => '?' := by
  rw [asciiSpelling]
  split
  · next hascii =>
    obtain ⟨hvalue, hlow, -⟩ := digitValue?_of_isDigit h hascii
    rw [hvalue]
    simp only [Nat.add_sub_cancel' hlow, Char.ofNat_toNat]
  · rw [isBlank_of_isDigit h]
    rfl

/-- A digit is spelled as a digit of ASCII or as a question mark. -/
theorem asciiSpelling_cases (h : isDigit c = true) :
    isAsciiDigit (asciiSpelling c) = true ∨ asciiSpelling c = '?' := by
  rw [asciiSpelling_of_isDigit h]
  rcases hvalue : digitValue? c with - | d
  · exact .inr rfl
  · have hall : ∀ d < 10, isAsciiDigit (Char.ofNat (48 + d)) = true := by decide
    exact .inl (hall d (digitValue?_lt hvalue))

/-- It is spelled as a question mark exactly when it has no value. -/
theorem asciiSpelling_eq_mark_iff (h : isDigit c = true) :
    asciiSpelling c = '?' ↔ digitValue? c = none := by
  rw [asciiSpelling_of_isDigit h]
  rcases hvalue : digitValue? c with - | d
  · simp
  · have hall : ∀ d < 10, Char.ofNat (48 + d) ≠ '?' := by decide
    simpa using hall d (digitValue?_lt hvalue)

end Text

/-! ### Integers -/

/-- Characters that are decimal digits of ASCII have no underscores to drop. -/
theorem Number.dropUnderscores?_of_digits {previous : Char} {s : List Char}
    (hprevious : previous ≠ '_') (h : ∀ c ∈ s, isAsciiDigit c = true) :
    dropUnderscores? previous s = some s := by
  induction s generalizing previous with
  | nil => rw [dropUnderscores?, if_neg hprevious]
  | cons c s ih =>
      obtain ⟨hc, hrest⟩ := List.forall_mem_cons.mp h
      have hne : c ≠ '_' := by
        rintro rfl
        revert hc
        decide
      rw [dropUnderscores?, if_neg hne, if_neg (by simp [hprevious]), ih hne hrest]
      rfl

/-- Where there is no underscore, a number goes as far as its digits. -/
theorem Number.span_of_plain {s : List Char} (h : '_' ∉ s) :
    s.takeWhile (fun c => isAsciiDigit c || c == '_') = s.takeWhile isAsciiDigit ∧
      s.dropWhile (fun c => isAsciiDigit c || c == '_') = s.dropWhile isAsciiDigit := by
  induction s with
  | nil => exact ⟨rfl, rfl⟩
  | cons c s ih =>
      obtain ⟨hne, hrest⟩ := not_or.mp (List.mem_cons.not.mp h)
      obtain ⟨htake, hdrop⟩ := ih hrest
      rcases hdigit : isAsciiDigit c with - | -
      · simp [hdigit, Ne.symm hne]
      · simp [hdigit, htake, hdrop]

namespace Value

/-- A digit of ASCII is no blank and no sign. -/
theorem plain_of_isAsciiDigit {c : Char} (h : isAsciiDigit c = true) :
    isLayoutBlank c = false ∧ c ≠ '-' ∧ c ≠ '+' := by
  simp only [isAsciiDigit, Bool.and_eq_true, decide_eq_true_eq] at h
  have hlow : 48 ≤ c.toNat := h.1
  refine ⟨?_, ?_, ?_⟩
  · have hspace : c ≠ ' ' := by
      rintro rfl
      exact absurd hlow (by decide)
    simp only [isLayoutBlank, Bool.or_eq_false_iff, beq_eq_false_iff_ne, Bool.and_eq_false_iff,
      decide_eq_false_iff_not]
    exact ⟨hspace, .inr (by omega)⟩
  · rintro rfl
    exact absurd hlow (by decide)
  · rintro rfl
    exact absurd hlow (by decide)

/-- How characters are read as an integer that start with no blank and no sign, and among which
there is no underscore. -/
theorem readInteger_of_plain (quoted : String) {s : List Char}
    (hhead : ∀ c ∈ s.head?, isLayoutBlank c = false ∧ c ≠ '-' ∧ c ≠ '+') (hplain : '_' ∉ s) :
    readInteger quoted s =
      if digitLimit < (s.takeWhile isAsciiDigit).length then
        .error (.tooManyDigits (s.takeWhile isAsciiDigit).length)
      else if s.takeWhile isAsciiDigit ≠ [] ∧ (s.dropWhile isAsciiDigit).all isLayoutBlank then
        .ok (naturalOf (s.takeWhile isAsciiDigit))
      else .error (.notInteger quoted) := by
  obtain ⟨htake, hdrop⟩ := span_of_plain hplain
  have hdropped : dropUnderscores? ' ' (s.takeWhile isAsciiDigit) =
      some (s.takeWhile isAsciiDigit) :=
    dropUnderscores?_of_digits (by decide) fun c hc => List.mem_takeWhile_imp hc
  cases s with
  | nil => rfl
  | cons c s =>
      obtain ⟨hblank, hminus, hplus⟩ := hhead c rfl
      have hstart : (c :: s).dropWhile isLayoutBlank = c :: s :=
        List.dropWhile_cons_of_neg (by simp [hblank])
      rw [readInteger, hstart]
      split
      next negative rest hsign =>
      split at hsign
      · next heq => exact absurd (List.cons.inj heq).1 hminus
      · next heq => exact absurd (List.cons.inj heq).1 hplus
      · obtain ⟨rfl, rfl⟩ := Prod.mk.inj hsign
        simp only [htake, hdrop, hdropped, Bool.false_eq_true, if_false]

/-- What digits of ASCII are read as among which there may be question marks. -/
theorem readInteger_of_marked (quoted : String) {s : List Char} (hne : s ≠ [])
    (hs : ∀ c ∈ s, isAsciiDigit c = true ∨ c = '?') :
    (∃ cause, readInteger quoted s = .error cause) ↔ '?' ∈ s ∨ digitLimit < s.length := by
  have hplain : '_' ∉ s := fun hmem => absurd (hs '_' hmem) (by decide)
  have hhead : ∀ c ∈ s.head?, isLayoutBlank c = false ∧ c ≠ '-' ∧ c ≠ '+' := by
    intro c hc
    rcases hs c (List.mem_of_mem_head? hc) with hdigit | rfl
    · exact plain_of_isAsciiDigit hdigit
    · decide
  rw [readInteger_of_plain quoted hhead hplain]
  by_cases hmark : '?' ∈ s
  -- the digits end at the question mark at the latest, and only blanks may stand behind them
  · have hrest : '?' ∈ s.dropWhile isAsciiDigit := by
      rw [← List.takeWhile_append_dropWhile (p := isAsciiDigit) (l := s)] at hmark
      refine (List.mem_append.mp hmark).resolve_left fun htaken => ?_
      exact absurd (List.mem_takeWhile_imp htaken) (by decide)
    have hbad : (s.dropWhile isAsciiDigit).all isLayoutBlank = false :=
      List.all_eq_false.mpr ⟨'?', hrest, by decide⟩
    simp only [hmark, hbad, Bool.false_eq_true, and_false, if_false, true_or, iff_true]
    split
    · exact ⟨_, rfl⟩
    · exact ⟨_, rfl⟩
  · have hall : ∀ c ∈ s, isAsciiDigit c = true := fun c hc =>
      (hs c hc).resolve_right fun heq => hmark (heq ▸ hc)
    rw [List.takeWhile_eq_self_iff.mpr hall, List.dropWhile_eq_nil_iff.mpr hall]
    by_cases hlong : digitLimit < s.length
    · simp [hlong]
    · simp [hlong, hmark, hne]

/-- **What digits are read as**: an integer, unless one of them has no value or there are too many
of them. -/
theorem integerOfText_of_digits {word : List Char} (hne : word ≠ [])
    (hdigits : ∀ c ∈ word, Text.isDigit c = true) :
    (∃ cause, integerOfText word = .error cause) ↔
      (∃ c ∈ word, Text.digitValue? c = none) ∨ digitLimit < word.length := by
  have hspelled : ∀ d ∈ word.map asciiSpelling, isAsciiDigit d = true ∨ d = '?' := by
    intro d hd
    obtain ⟨c, hc, rfl⟩ := List.mem_map.mp hd
    exact Text.asciiSpelling_cases (hdigits c hc)
  have hmark : '?' ∈ word.map asciiSpelling ↔ ∃ c ∈ word, Text.digitValue? c = none := by
    rw [List.mem_map]
    exact exists_congr fun c => and_congr_right fun hc =>
      Text.asciiSpelling_eq_mark_iff (hdigits c hc)
  rw [integerOfText, readInteger_of_marked _ (by simpa using hne) hspelled, hmark,
    List.length_map]

end Value

/-! ### Levels -/

namespace Level

/-- The text looks like a number and is none: it consists of digits, in any case and with blanks
around it, and one of them has no value or there are more than are read. -/
def MissesNumber (s : String) : Prop :=
  let word := Text.capitals (Text.trim s.toList)
  word ≠ [] ∧ (∀ c ∈ word, Text.isDigit c = true) ∧
    ((∃ c ∈ word, Text.digitValue? c = none) ∨ Value.digitLimit < word.length)

/-- No name consists of digits. -/
theorem find?_named_of_digits {word : List Char} (hdigits : ∀ c ∈ word, Text.isDigit c = true) :
    named.find? (String.ofList word) = none := by
  rcases hfind : named.find? (String.ofList word) with - | level
  · rfl
  · have hnamed : ∀ entry ∈ named, entry.1.toList.all Text.isDigit = false := by decide
    have hletter := hnamed _ (Table.mem_of_find? hfind)
    rw [String.toList_ofList, List.all_eq_true.mpr hdigits] at hletter
    simp at hletter

/-- **A text means a level, is refused, or misses a number.** -/
theorem parse_text_cases (s : String) :
    (∃ level, parse (.text s) = .ok level) ∧ ¬ MissesNumber s ∨
      parse (.text s) = .error (unknown (.text s)) ∧ ¬ MissesNumber s ∨
      (∃ cause, parse (.text s) = .error (.number cause)) ∧ MissesNumber s := by
  rw [parse, parseText]
  by_cases hword : Text.capitals (Text.trim s.toList) ≠ [] ∧
      (Text.capitals (Text.trim s.toList)).all Text.isDigit = true
  · obtain ⟨hne, hall⟩ := hword
    have hdigits := List.all_eq_true.mp hall
    have hread := Value.integerOfText_of_digits hne hdigits
    rw [find?_named_of_digits hdigits]
    simp only [hne, hall, ne_eq, not_false_eq_true, and_self, if_true]
    have hmisses : MissesNumber s ↔
        ∃ cause, Value.integerOfText (Text.capitals (Text.trim s.toList)) = .error cause := by
      rw [hread]
      exact ⟨fun h => h.2.2, fun h => ⟨hne, hdigits, h⟩⟩
    rw [hmisses]
    rcases Value.integerOfText (Text.capitals (Text.trim s.toList)) with cause | n
    · exact .inr (.inr ⟨⟨cause, rfl⟩, cause, rfl⟩)
    · by_cases hlow : lowest ≤ n
      · exact .inl ⟨⟨n, if_pos hlow⟩, by simp⟩
      · exact .inr (.inl ⟨if_neg hlow, by simp⟩)
  · have hreads : ¬ MissesNumber s := fun hmiss =>
      hword ⟨hmiss.1, List.all_eq_true.mpr hmiss.2.1⟩
    simp only [hword, if_false]
    split
    · next level _ => exact .inl ⟨⟨level, rfl⟩, hreads⟩
    · exact .inr (.inl ⟨rfl, hreads⟩)

/-- The refusal of a text shows the text. -/
theorem unknown_text (s : String) : unknown (.text s) =
    .configuration "level" (.text s) (.unknownLevel (named.map (·.1))) :=
  rfl

/-- A text misses a number when the fault of reading one comes instead of a refusal. -/
theorem missesNumber_iff {s : String} :
    MissesNumber s ↔ ∃ cause, parse (.text s) = .error (.number cause) := by
  rcases parse_text_cases s with ⟨⟨level, hparse⟩, hreads⟩ | ⟨hparse, hreads⟩ | ⟨hparse, hmisses⟩
  · simp [hparse, hreads]
  · simp [hparse, hreads, unknown_text]
  · exact iff_of_true hmisses hparse

end Level

end TraceLog
