import Mathlib.Data.List.Forall2
import Mathlib.Data.List.Induction
import Mathlib.Data.Nat.Digits.Defs
import TraceLog.Proofs.Numerals

/-!
# Values That Mean Levels

A level is asked for as a value of any kind. `Level.Means` tells which values mean one, and which:
integers from the lowest level on, and texts that are a name or a number between blanks. Every other
value is to be refused, but not all of them are. A text may look like a number and be none
(`Level.MissesNumber`); and a refusal shows the value that is refused, which cannot be done for an
integer with more digits than are written, nor for a value that holds one (`Value.HoldsLong`).
`Level.Unjudged` takes these together: for them, and for no others, a fault of numbers comes in
place of a level or a refusal.

## Main results

* `Value.quoted?_eq_none_iff`: the values that cannot be shown.
* `Value.integerOfText_eq_ok_iff`: digits as a number.
* `Level.parse_eq_ok_iff`: the values that mean levels.
* `Level.level_or_refusal`: what becomes of each value.
-/

namespace TraceLog

open Number

/-! ### Values that cannot be shown -/

namespace Value

/-- The value is an integer with more digits than are written, or holds one. -/
inductive HoldsLong : Value → Prop
  | int {n : Int} : ¬ IsShort n → HoldsLong (.int n)
  | list {items : List Value} {v : Value} : v ∈ items → HoldsLong v → HoldsLong (.list items)
  | tuple {items : List Value} {v : Value} : v ∈ items → HoldsLong v → HoldsLong (.tuple items)
  | key {entries : List (Value × Value)} {entry : Value × Value} : entry ∈ entries →
      HoldsLong entry.1 → HoldsLong (.dict entries)
  | item {entries : List (Value × Value)} {entry : Value × Value} : entry ∈ entries →
      HoldsLong entry.2 → HoldsLong (.dict entries)

/-- A list holds what its items hold. -/
theorem holdsLong_list_iff {items : List Value} :
    HoldsLong (.list items) ↔ ∃ v ∈ items, HoldsLong v := by
  constructor
  · rintro (_ | ⟨hmem, h⟩)
    exact ⟨_, hmem, h⟩
  · rintro ⟨v, hmem, h⟩
    exact .list hmem h

/-- So does a tuple. -/
theorem holdsLong_tuple_iff {items : List Value} :
    HoldsLong (.tuple items) ↔ ∃ v ∈ items, HoldsLong v := by
  constructor
  · rintro (_ | _ | ⟨hmem, h⟩)
    exact ⟨_, hmem, h⟩
  · rintro ⟨v, hmem, h⟩
    exact .tuple hmem h

/-- A dictionary holds what its keys and values hold. -/
theorem holdsLong_dict_iff {entries : List (Value × Value)} :
    HoldsLong (.dict entries) ↔ ∃ entry ∈ entries, HoldsLong entry.1 ∨ HoldsLong entry.2 := by
  constructor
  · intro h
    cases h with
    | key hmem h => exact ⟨_, hmem, .inl h⟩
    | item hmem h => exact ⟨_, hmem, .inr h⟩
  · rintro ⟨entry, hmem, h | h⟩
    · exact .key hmem h
    · exact .item hmem h

/-- An integer holds itself. -/
theorem holdsLong_int_iff {n : Int} : HoldsLong (.int n) ↔ ¬ IsShort n := by
  constructor
  · rintro (h | _)
    exact h
  · exact .int

mutual

/-- **The values that cannot be shown** are those that hold an integer with too many digits. -/
theorem quoted?_eq_none_iff : ∀ v : Value, quoted? v = none ↔ HoldsLong v
  | .null => iff_of_false (by simp [quoted?]) (by rintro ⟨⟩)
  | .bool b => iff_of_false (by simp [quoted?]) (by rintro ⟨⟩)
  | .real x => iff_of_false (by simp [quoted?]) (by rintro ⟨⟩)
  | .text s => iff_of_false (by simp [quoted?]) (by rintro ⟨⟩)
  | .bytes bs => iff_of_false (by simp [quoted?]) (by rintro ⟨⟩)
  | .int n => by
      rw [holdsLong_int_iff, quoted?, intText?, Nat.pow_eq, IsShort]
      simp
  | .list items => by
      rw [holdsLong_list_iff, quoted?, Option.map_eq_none_iff, quotedItems?_eq_none_iff items]
  | .tuple items => by
      rw [holdsLong_tuple_iff, quoted?, Option.map_eq_none_iff, quotedItems?_eq_none_iff items]
  | .dict entries => by
      rw [holdsLong_dict_iff, quoted?, Option.map_eq_none_iff, quotedEntries?_eq_none_iff entries]

/-- Items have no text exactly when one of them holds a long integer. -/
theorem quotedItems?_eq_none_iff :
    ∀ items : List Value, quotedItems? items = none ↔ ∃ v ∈ items, HoldsLong v
  | [] => by simp [quotedItems?]
  | item :: items => by
      have hitem := quoted?_eq_none_iff item
      have hitems := quotedItems?_eq_none_iff items
      rw [quotedItems?, List.exists_mem_cons_iff, ← hitem, ← hitems]
      cases quoted? item <;> cases quotedItems? items <;> simp

/-- So do entries. -/
theorem quotedEntries?_eq_none_iff :
    ∀ entries : List (Value × Value), quotedEntries? entries = none ↔
      ∃ entry ∈ entries, HoldsLong entry.1 ∨ HoldsLong entry.2
  | [] => by simp [quotedEntries?]
  | (key, item) :: entries => by
      have hkey := quoted?_eq_none_iff key
      have hitem := quoted?_eq_none_iff item
      have hentries := quotedEntries?_eq_none_iff entries
      rw [quotedEntries?, List.exists_mem_cons_iff, ← hkey, ← hitem, ← hentries]
      cases quoted? key <;> cases quoted? item <;> cases quotedEntries? entries <;> simp

end

end Value

/-- The refusal of a value shows the value; where that cannot be done there is a fault of numbers
instead. -/
theorem Fault.refuse_cases (option : String) (v : Value) (refusal : Refusal) :
    ¬ v.HoldsLong ∧ refuse option v refusal = .configuration option v refusal ∨
      v.HoldsLong ∧ refuse option v refusal = .number .tooLongToWrite := by
  rw [refuse, ← Value.quoted?_eq_none_iff]
  cases v.quoted? with
  | none => simp
  | some shown => simp

/-! ### Digits and their capitals -/

namespace Text

/-- The places of the characters that have other capitals, as ranges with both ends included. -/
def letterPlaces : List (Nat × Nat) :=
  [(0x61, 0x7A), (0xDF, 0xDF), (0x131, 0x131), (0x17F, 0x17F), (0xFB00, 0xFB06)]

variable {c : Char} {s : List Char}

/-- A character is its own capital, or its capitals are capitals of ASCII. -/
theorem capital_cases (c : Char) : capital c = [c] ∨
    (∃ range ∈ letterPlaces, range.1 ≤ c.toNat ∧ c.toNat ≤ range.2) ∧
      ∃ d ∈ capital c, 65 ≤ d.toNat ∧ d.toNat ≤ 90 := by
  rw [capital]
  split
  · next hsmall =>
    have hlow : 97 ≤ c.toNat := hsmall.1
    have hhigh : c.toNat ≤ 122 := hsmall.2
    have hall : ∀ n < 123, 97 ≤ n →
        65 ≤ (Char.ofNat (n - 32)).toNat ∧ (Char.ofNat (n - 32)).toNat ≤ 90 := by decide
    exact .inr ⟨⟨(0x61, 0x7A), by decide, hlow, hhigh⟩, _, List.mem_singleton_self _,
      hall _ (Nat.lt_succ_of_le hhigh) hlow⟩
  · split
    case h_11 => exact .inl rfl
    all_goals
      next hplace => exact .inr ⟨by rw [hplace]; decide, _, List.mem_cons_self, by decide⟩

/-- A digit is its own capital. -/
theorem capital_of_isDigit (h : isDigit c = true) : capital c = [c] := by
  rcases capital_cases c with hself | ⟨⟨letters, hletters, hlow, hhigh⟩, -⟩
  · exact hself
  obtain ⟨digits, hdigits, hlow', hhigh'⟩ := exists_digitPlace h
  -- no letter with another capital stands among the digits
  have hapart : ∀ letters ∈ letterPlaces, ∀ digits ∈ digitPlaces,
      letters.2 < digits.1 ∨ digits.2 < letters.1 := by
    decide +kernel
  rcases hapart letters hletters digits hdigits with hbefore | hbehind
  · omega
  · omega

/-- Only a digit has digits for capitals. -/
theorem capital_eq_self_of_digits (h : ∀ d ∈ capital c, isDigit d = true) : capital c = [c] := by
  rcases capital_cases c with hself | ⟨-, d, hmem, hlow, hhigh⟩
  · exact hself
  · obtain ⟨-, -, hdigit⟩ := digitValue?_of_isDigit (h d hmem) (by omega)
    omega

/-- A text of characters that are their own capitals is its own. -/
theorem capitals_eq_self (h : ∀ c ∈ s, capital c = [c]) : capitals s = s := by
  induction s with
  | nil => rfl
  | cons c s ih =>
      obtain ⟨hc, hs⟩ := List.forall_mem_cons.mp h
      rw [capitals, List.flatMap_cons, hc]
      exact congrArg (c :: ·) (ih hs)

/-- **Digits are their own capitals**, and those of no other text. -/
theorem capitals_eq_self_of_digits (h : ∀ d ∈ capitals s, isDigit d = true) : capitals s = s :=
  capitals_eq_self fun c hc => capital_eq_self_of_digits fun d hd =>
    h d (List.mem_flatMap.mpr ⟨c, hc, hd⟩)

end Text

/-! ### Digits as a number -/

/-- The characters are decimal digits with these values. -/
abbrev Text.WritesDigits (word : List Char) (digits : List Nat) : Prop :=
  List.Forall₂ (fun c d => Text.digitValue? c = some d) word digits

variable {word : List Char} {digits : List Nat}

/-- A word that writes digits consists of digits. -/
theorem Text.WritesDigits.isDigit (h : Text.WritesDigits word digits) :
    ∀ c ∈ word, Text.isDigit c = true := by
  induction h with
  | nil => simp
  | cons hc _ ih => exact List.forall_mem_cons.mpr ⟨Text.isDigit_of_digitValue? hc, ih⟩

/-- All characters of a word that writes digits have values. -/
theorem Text.WritesDigits.value_ne_none (h : Text.WritesDigits word digits) :
    ∀ c ∈ word, Text.digitValue? c ≠ none := by
  induction h with
  | nil => simp
  | cons hc _ ih => exact List.forall_mem_cons.mpr ⟨by simp [hc], ih⟩

/-- A word whose characters have values writes digits. -/
theorem Text.exists_writesDigits (h : ∀ c ∈ word, Text.digitValue? c ≠ none) :
    ∃ digits, Text.WritesDigits word digits := by
  induction word with
  | nil => exact ⟨[], .nil⟩
  | cons c word ih =>
      obtain ⟨hc, hword⟩ := List.forall_mem_cons.mp h
      obtain ⟨d, hd⟩ := Option.ne_none_iff_exists'.mp hc
      obtain ⟨digits, hdigits⟩ := ih hword
      exact ⟨d :: digits, .cons hd hdigits⟩

/-- The value of digits, the most significant of which comes first. -/
theorem Number.naturalOfDigits_eq (digits : List Nat) :
    naturalOfDigits digits = Nat.ofDigits 10 digits.reverse := by
  induction digits using List.reverseRecOn with
  | nil => rfl
  | append_singleton digits d ih =>
      rw [naturalOfDigits, List.foldl_append, ← naturalOfDigits, ih, List.reverse_append,
        List.reverse_singleton, List.singleton_append, Nat.ofDigits_cons]
      simp only [List.foldl_cons, List.foldl_nil]
      omega

/-- Decimal digits of any script have the value of the same digits of ASCII. -/
theorem Number.naturalOf_asciiSpelling (h : Text.WritesDigits word digits) :
    naturalOf (word.map asciiSpelling) = Nat.ofDigits 10 digits.reverse := by
  have hvalues : (word.map asciiSpelling).map (fun c => c.toNat - 48) = digits := by
    induction h with
    | nil => rfl
    | @cons c d word digits hc _ ih =>
        have hall : ∀ d < 10, (Char.ofNat (48 + d)).toNat - 48 = d := by decide
        rw [List.map_cons, List.map_cons, ih,
          Text.asciiSpelling_of_isDigit (Text.isDigit_of_digitValue? hc), hc]
        exact congrArg (· :: digits) (hall d (Text.digitValue?_lt hc))
  rw [naturalOf, hvalues, naturalOfDigits_eq]

namespace Value

/-- What digits of ASCII are read as. -/
theorem readInteger_of_asciiDigits (quoted : String) (hne : word ≠ [])
    (hdigits : ∀ c ∈ word, isAsciiDigit c = true) (hshort : word.length ≤ digitLimit) :
    readInteger quoted word = .ok (naturalOf word) := by
  have hplain : '_' ∉ word := fun hmem => absurd (hdigits '_' hmem) (by decide)
  have hhead : ∀ c ∈ word.head?, isLayoutBlank c = false ∧ c ≠ '-' ∧ c ≠ '+' := fun c hc =>
    plain_of_isAsciiDigit (hdigits c (List.mem_of_mem_head? hc))
  rw [readInteger_of_plain quoted hhead hplain, List.takeWhile_eq_self_iff.mpr hdigits,
    List.dropWhile_eq_nil_iff.mpr hdigits, if_neg (Nat.not_lt.mpr hshort), if_pos ⟨hne, rfl⟩]

/-- Only texts that are no numbers, and those with too many digits, are no integers. -/
theorem title_of_readInteger {quoted : String} {cause : NumberFault}
    (h : readInteger quoted word = .error cause) : cause.title = "ValueError" := by
  rw [readInteger] at h
  split at h
  next negative rest _ =>
  dsimp only at h
  split at h
  · obtain rfl := Except.error.inj h
    rfl
  · split at h
    · obtain rfl := Except.error.inj h
      rfl
    · split at h
      · simp at h
      · obtain rfl := Except.error.inj h
        rfl

/-- **Digits as a number**: decimal digits of any script have the value of the same digits of ASCII,
if there are some, and not too many of them. -/
theorem integerOfText_eq_ok_iff {n : Int} (hdigits : ∀ c ∈ word, Text.isDigit c = true)
    (hne : word ≠ []) : integerOfText word = .ok n ↔
      ∃ digits, Text.WritesDigits word digits ∧ word.length ≤ digitLimit ∧
        n = (Nat.ofDigits 10 digits.reverse : Nat) := by
  have hread : ∀ {digits}, Text.WritesDigits word digits → word.length ≤ digitLimit →
      integerOfText word = .ok (Nat.ofDigits 10 digits.reverse : Nat) := by
    intro digits hwritten hshort
    have hascii : ∀ d ∈ word.map asciiSpelling, isAsciiDigit d = true := by
      intro d hd
      obtain ⟨c, hc, rfl⟩ := List.mem_map.mp hd
      refine (Text.asciiSpelling_cases (hdigits c hc)).resolve_right fun hmark => ?_
      exact hwritten.value_ne_none c hc ((Text.asciiSpelling_eq_mark_iff (hdigits c hc)).mp hmark)
    rw [integerOfText,
      readInteger_of_asciiDigits _ (by simpa using hne) hascii (by simpa using hshort),
      naturalOf_asciiSpelling hwritten]
  constructor
  · intro h
    have hfault := (integerOfText_of_digits hne hdigits).not.mp (by simp [h])
    obtain ⟨hvalues, hlong⟩ := not_or.mp hfault
    obtain ⟨digits, hwritten⟩ := Text.exists_writesDigits fun c hc hnone => hvalues ⟨c, hc, hnone⟩
    have hshort := Nat.not_lt.mp hlong
    rw [hread hwritten hshort] at h
    exact ⟨digits, hwritten, hshort, (Except.ok.inj h).symm⟩
  · rintro ⟨digits, hwritten, hshort, rfl⟩
    exact hread hwritten hshort

end Value

/-! ### Levels -/

namespace Level

variable {v : Value} {s : String} {level : Int}

/-- The level that a value means: an integer of at least the lowest level; or a text that is, with
blanks around it, one of the names in any case, or the digits of such an integer, in any scripts and
not too many. -/
inductive Means : Value → Int → Prop
  | number {n : Int} : lowest ≤ n → Means (.int n) n
  | name {s name : String} {level : Int} : (name, level) ∈ named →
      Text.capitals (Text.trim s.toList) = name.toList → Means (.text s) level
  | digits {s : String} {digits : List Nat} : Text.WritesDigits (Text.trim s.toList) digits →
      digits.length ≤ Value.digitLimit → 0 < Nat.ofDigits 10 digits.reverse →
      Means (.text s) (Nat.ofDigits 10 digits.reverse : Nat)

/-- A name has one level. -/
theorem find?_named_eq_some_iff {name : String} :
    named.find? name = some level ↔ (name, level) ∈ named := by
  have hall : ∀ entry ∈ named, named.find? entry.1 = some entry.2 := by decide
  exact ⟨Table.mem_of_find?, hall (name, level)⟩

/-- A text that is parsed to a level means it. -/
theorem means_of_parseText (h : parseText s = .ok level) : Means (.text s) level := by
  rcases named_or_number h with hnamed | ⟨hne, hall, hread, hle⟩
  · exact .name (find?_named_eq_some_iff.mp hnamed) (String.toList_ofList).symm
  · obtain ⟨digits, hwritten, hshort, rfl⟩ := (Value.integerOfText_eq_ok_iff hall hne).mp hread
    rw [Text.capitals_eq_self_of_digits hall] at hwritten hshort
    rw [lowest] at hle
    exact .digits hwritten (hwritten.length_eq ▸ hshort) (by omega)

/-- A text that means a level is parsed to it. -/
theorem parseText_of_means (h : Means (.text s) level) : parseText s = .ok level := by
  cases h with
  | name hmem hname =>
      simp only [parseText, hname, String.ofList_toList, find?_named_eq_some_iff.mpr hmem]
  | @digits _ digits hwritten hshort hpos =>
      have hne : Text.trim s.toList ≠ [] := by
        intro hnil
        rw [hnil, Text.WritesDigits, List.forall₂_nil_left_iff] at hwritten
        simp [hwritten] at hpos
      have hself : Text.capitals (Text.trim s.toList) = Text.trim s.toList :=
        Text.capitals_eq_self fun c hc => Text.capital_of_isDigit (hwritten.isDigit c hc)
      have hread := (Value.integerOfText_eq_ok_iff hwritten.isDigit hne).mpr
        ⟨digits, hwritten, hwritten.length_eq ▸ hshort, rfl⟩
      have hle : lowest ≤ (Nat.ofDigits 10 digits.reverse : Nat) := by
        rw [lowest]
        omega
      simp only [parseText, hself, find?_named_of_digits hwritten.isDigit, hread, hle, if_true]
      rw [if_pos ⟨hne, List.all_eq_true.mpr hwritten.isDigit⟩]

/-- **The values that mean levels** are accepted, and no others. -/
theorem parse_eq_ok_iff : parse v = .ok level ↔ Means v level := by
  cases v with
  | int n =>
      rw [parse]
      split
      · next hlow =>
        refine iff_of_false (by simp) ?_
        rintro ⟨hle⟩
        omega
      · next hle =>
        constructor
        · intro h
          obtain rfl := Except.ok.inj h
          exact .number (by omega)
        · rintro ⟨-⟩
          rfl
  | text s =>
      rw [parse]
      exact ⟨means_of_parseText, parseText_of_means⟩
  | _ => exact iff_of_false (by simp [parse]) (by rintro ⟨⟩)

/-- The value can be neither accepted nor refused: it is a text that misses a number, or it would
have to be refused and cannot be shown. -/
inductive Unjudged : Value → Prop
  | missesNumber {s : String} : MissesNumber s → Unjudged (.text s)
  | notShown {v : Value} : v.HoldsLong → (∀ level, ¬ Means v level) → Unjudged v

/-- Integers below the lowest level and values of other kinds are refused, if they can be shown. -/
theorem parse_eq_refuse (hmeans : ∀ level, ¬ Means v level) (htext : ∀ s, v ≠ .text s) :
    ∃ refusal, parse v = .error (.refuse "level" v refusal) := by
  cases v with
  | int n =>
      rw [parse]
      split
      · exact ⟨_, rfl⟩
      · next hle => exact absurd (.number (by omega)) (hmeans n)
  | text s => exact absurd rfl (htext s)
  | _ => exact ⟨_, rfl⟩

/-- A number in a text that cannot be read is an error of a value. -/
theorem title_of_parse_text {cause : NumberFault} (h : parse (.text s) = .error (.number cause)) :
    cause.title = "ValueError" := by
  rw [parse, parseText] at h
  split at h
  · simp at h
  · split at h
    · split at h
      · split at h
        · simp at h
        · simp [unknown_text] at h
      · next fault hread =>
        obtain rfl := Fault.number.inj (Except.error.inj h)
        exact Value.title_of_readInteger hread
    · simp [unknown_text] at h

/-- A value that means a level is judged. -/
theorem not_unjudged_of_means (h : Means v level) : ¬ Unjudged v := by
  rintro (hmisses | ⟨-, hmeans⟩)
  · obtain ⟨cause, hparse⟩ := missesNumber_iff.mp hmisses
    simp [parse_eq_ok_iff.mpr h] at hparse
  · exact hmeans level h

/-- A text can be shown, so that it is judged unless it misses a number. -/
theorem unjudged_text_iff : Unjudged (.text s) ↔ MissesNumber s := by
  constructor
  · rintro (hmisses | ⟨⟨⟩, -⟩)
    exact hmisses
  · exact .missesNumber

/-- **What becomes of each value** that is given as a level.

* It is accepted when it means a level, which is then an integer from the lowest level on.
* It is refused when it means none, with a fault that names the option and shows the value.
* It is different only for a value that can be neither accepted nor refused: there is a fault of
  numbers for it. Among texts, those are the ones that look like a number and are none, because one
  of their digits has no value or because they are too long. -/
theorem level_or_refusal (v : Value) :
    (∃ level, parse v = .ok level ∧ Means v level ∧ lowest ≤ level) ∧ ¬ Unjudged v ∨
      (∃ refusal, parse v = .error (.configuration "level" v refusal)) ∧
        (∀ level, ¬ Means v level) ∧ ¬ Unjudged v ∨
      (∃ cause : NumberFault, parse v = .error (.number cause) ∧ cause.title = "ValueError") ∧
        (∀ level, ¬ Means v level) ∧ Unjudged v := by
  by_cases hmeans : ∃ level, Means v level
  · obtain ⟨level, h⟩ := hmeans
    have hparse := parse_eq_ok_iff.mpr h
    exact .inl ⟨⟨level, hparse, h, lowest_le_of_parse hparse⟩, not_unjudged_of_means h⟩
  have hnone : ∀ level, ¬ Means v level := fun level h => hmeans ⟨level, h⟩
  refine .inr ?_
  by_cases htext : ∃ s, v = .text s
  · obtain ⟨s, rfl⟩ := htext
    rw [unjudged_text_iff]
    rcases parse_text_cases s with
      ⟨⟨level, hparse⟩, -⟩ | ⟨hparse, hreads⟩ | ⟨⟨cause, hparse⟩, hmisses⟩
    · exact absurd (parse_eq_ok_iff.mp hparse) (hnone level)
    · rw [unknown_text] at hparse
      exact .inl ⟨⟨_, hparse⟩, hnone, hreads⟩
    · exact .inr ⟨⟨cause, hparse, title_of_parse_text hparse⟩, hnone, hmisses⟩
  · have hother : ∀ s, v ≠ .text s := fun s hs => htext ⟨s, hs⟩
    obtain ⟨refusal, hparse⟩ := parse_eq_refuse hnone hother
    rcases Fault.refuse_cases "level" v refusal with ⟨hshown, hrefuse⟩ | ⟨hlong, hrefuse⟩
    · rw [hrefuse] at hparse
      refine .inl ⟨⟨refusal, hparse⟩, hnone, ?_⟩
      rintro (hmisses | ⟨hlong, -⟩)
      · exact hother _ rfl
      · exact hshown hlong
    · rw [hrefuse] at hparse
      exact .inr ⟨⟨_, hparse, rfl⟩, hnone, .notShown hlong hnone⟩

/-- A superscript is neither accepted as a level nor refused as one. -/
theorem superscript_not_refused :
    ¬ ((∃ level, parse (.text "²") = .ok level ∧ lowest ≤ level) ∨
      ∃ refusal, parse (.text "²") = .error (.configuration "level" (.text "²") refusal)) := by
  have hdigits : ∀ c ∈ Text.trim "²".toList, Text.isDigit c = true :=
    List.all_eq_true.mp (by decide)
  have hmisses : MissesNumber "²" := ⟨by decide, hdigits, .inl ⟨'²', by decide, by decide⟩⟩
  obtain ⟨cause, hparse⟩ := missesNumber_iff.mp hmisses
  simp [hparse]

end Level

end TraceLog
