import Mathlib.Data.List.Forall2
import TraceLog.Proofs.Trimming
import TraceLog.Proofs.Attempt

/-!
# The Grammar of Formats

A format text lists selectors: segments with one separator between them, in each of them a name
between blanks, and behind the last one separators and blanks. `FormatSpec.Lists` is this grammar,
together with the selectors that a text lists, and `FormatSpec.Refused` tells what is wrong with
every other text. Both start from `FormatSpec.Leads`, the segments at the front of a text that are
good: what is refused is the first segment behind them.

A table may have any names in it. A name with a separator in it, or with blanks at its ends, is not
reached by any text.

## Main results

* `FormatSpec.segments_append_separator`: the segments of a text, one after the other.
* `FormatSpec.parseText_eq_ok_iff`, `FormatSpec.parseText_eq_error_iff`: the texts that are
  accepted, and what the others are refused for.
* `FormatSpec.accepts_exactly_grammar`: both, and the changes that a text may undergo.
-/

namespace TraceLog.FormatSpec

variable {α : Type} {table : Table String α} {s t front segment word gap rest tail : List Char}
  {selectors : List (String × α)}

/-! ### The grammar -/

/-- The selector that a word of a format text names. -/
def selectorOf (word : List Char) : String :=
  canonical (String.ofList word)

/-- A name as it stands in a format text: it is not empty, holds no separator, and has no blank at
either end. -/
structure IsName (word : List Char) : Prop where
  ne_nil : word ≠ []
  separator_notMem : separator ∉ word
  trimmed : Text.IsTrimmed word

instance (word : List Char) : Decidable (IsName word) :=
  decidable_of_iff (word ≠ [] ∧ separator ∉ word ∧ Text.IsTrimmed word)
    ⟨fun h => ⟨h.1, h.2.1, h.2.2⟩, fun h => ⟨h.ne_nil, h.separator_notMem, h.trimmed⟩⟩

/-- A segment of a format text with this word in it: the word is a name, and stands between
blanks. -/
structure Names (segment word : List Char) : Prop where
  isName : IsName word
  blanks : ∃ before after, Text.IsGap before ∧ Text.IsGap after ∧
    segment = before ++ (word ++ after)

/-- What may stand behind the last segment: any mix of separators and blanks. -/
def IsTail (s : List Char) : Prop :=
  ∀ c ∈ s, c = separator ∨ Text.isBlank c = true

/-- Good segments, each with a separator behind it, and the selectors that they name. -/
inductive Leads (table : Table String α) : List Char → List (String × α) → Prop
  | nil : Leads table [] []
  | cons {segment word front : List Char} {accessor : α} {selectors : List (String × α)} :
      Names segment word → table.find? (selectorOf word) = some accessor →
      Leads table front selectors →
      Leads table (segment ++ separator :: front) ((selectorOf word, accessor) :: selectors)

/-- The format text lists these selectors: good segments with a separator behind each, a last one,
and a tail. -/
inductive Lists (table : Table String α) : List Char → List (String × α) → Prop
  | intro {front segment word tail : List Char} {accessor : α} {selectors : List (String × α)} :
      Leads table front selectors → Names segment word →
      table.find? (selectorOf word) = some accessor → IsTail tail →
      Lists table (front ++ (segment ++ tail)) (selectors ++ [(selectorOf word, accessor)])

/-- What is wrong with a format text: there is no segment; or behind good segments there is an empty
one that does not belong to the tail; or there is one behind them with a name that the table does
not have. -/
inductive Refused (table : Table String α) : List Char → Refusal → Prop
  | noSelector {s : List Char} : IsTail s → Refused table s .noSelector
  | emptySelector {front gap rest : List Char} {selectors : List (String × α)} :
      Leads table front selectors → Text.IsGap gap → ¬ IsTail rest →
      Refused table (front ++ (gap ++ separator :: rest)) (.emptySelector (selectors.length + 1))
  | unknownSelector {front segment word rest : List Char} {selectors : List (String × α)} :
      Leads table front selectors → Names segment word → table.find? (selectorOf word) = none →
      (∀ c ∈ rest.head?, c = separator) →
      Refused table (front ++ (segment ++ rest))
        (.unknownSelector (String.ofList word) (knownNames table))

/-- A text differs from another one in a way that leaves its selectors: it has a longer tail, or one
of its segments names the same selector by another word or between other blanks. -/
inductive Respells : List Char → List Char → Prop
  | tail {s tail : List Char} : IsTail tail → Respells s (s ++ tail)
  | first {segment segment' word word' rest : List Char} : Names segment word →
      Names segment' word' → selectorOf word' = selectorOf word →
      (∀ c ∈ rest.head?, c = separator) → Respells (segment ++ rest) (segment' ++ rest)
  | behind {piece s t : List Char} : separator ∉ piece → Respells s t →
      Respells (piece ++ separator :: s) (piece ++ separator :: t)

/-! ### Words between blanks -/

/-- The separator is no blank. -/
theorem isBlank_separator : Text.isBlank separator = false := by
  decide

/-- There is no separator in a gap. -/
theorem separator_notMem_of_isGap (h : Text.IsGap gap) : separator ∉ gap := by
  intro hmem
  have hblank := h separator hmem
  rw [isBlank_separator] at hblank
  simp at hblank

/-- The word in a segment is what trimming leaves of it. -/
theorem Names.trim (h : Names segment word) : Text.trim segment = word := by
  obtain ⟨before, after, hbefore, hafter, rfl⟩ := h.blanks
  exact Text.trim_gaps hbefore h.isName.trimmed hafter

/-- There is no separator in a segment that names a word. -/
theorem Names.separator_notMem (h : Names segment word) : separator ∉ segment := by
  obtain ⟨before, after, hbefore, hafter, rfl⟩ := h.blanks
  simp only [List.mem_append, not_or]
  exact ⟨separator_notMem_of_isGap hbefore, h.isName.separator_notMem,
    separator_notMem_of_isGap hafter⟩

/-- A piece of a text is blank, or a segment with a word in it. -/
theorem names_trim (h : separator ∉ segment) (hne : Text.trim segment ≠ []) :
    Names segment (Text.trim segment) := by
  obtain ⟨before, after, hbefore, hafter, hs⟩ := Text.exists_gaps_append_trim segment
  refine ⟨⟨hne, fun hmem => h ?_, Text.isTrimmed_trim segment⟩, before, after, hbefore, hafter, ?_⟩
  · rw [hs]
    simp [hmem]
  · rw [← List.append_assoc]
    exact hs

/-- Nothing is left of a gap when it is trimmed. -/
theorem trim_of_isGap (h : Text.IsGap gap) : Text.trim gap = [] :=
  Text.trim_eq_nil_iff.mpr h

/-- A tail without separators is a gap. -/
theorem isGap_of_isTail (h : IsTail s) (hplain : separator ∉ s) : Text.IsGap s := by
  intro c hc
  refine (h c hc).resolve_left ?_
  rintro rfl
  exact hplain hc

/-- A tail with a separator in it is a gap, and a tail behind it. -/
theorem isTail_append_separator_iff (hplain : separator ∉ gap) :
    IsTail (gap ++ separator :: rest) ↔ Text.IsGap gap ∧ IsTail rest := by
  constructor
  · intro h
    obtain ⟨hgap, hrest⟩ := List.forall_mem_append.mp h
    exact ⟨isGap_of_isTail hgap hplain, (List.forall_mem_cons.mp hrest).2⟩
  · rintro ⟨hgap, hrest⟩
    exact List.forall_mem_append.mpr
      ⟨fun c hc => .inr (hgap c hc), List.forall_mem_cons.mpr ⟨.inl rfl, hrest⟩⟩

/-! ### Segments -/

/-- The segments of a text without a separator. -/
theorem segments_of_not_mem (h : separator ∉ s) :
    segments s = if Text.trim s = [] then [] else [Text.trim s] := by
  rw [segments, Text.splitOn_of_not_mem h]
  rcases htrim : Text.trim s with - | ⟨c, word⟩
  · simp [htrim]
  · simp [htrim]

/-- **The segments of a text** are its first one and those of the rest; it counts for nothing if it
is empty and none comes behind it. -/
theorem segments_append_separator (h : separator ∉ segment) (rest : List Char) :
    segments (segment ++ separator :: rest) =
      if Text.trim segment = [] ∧ segments rest = [] then []
      else Text.trim segment :: segments rest := by
  simp only [segments, Text.splitOn_append_cons h, List.map_cons, List.reverse_cons,
    List.dropWhile_append, List.reverse_eq_nil_iff]
  rcases hrest : ((Text.splitOn separator rest).map Text.trim).reverse.dropWhile List.isEmpty with
    - | ⟨last, more⟩
  · rcases htrim : Text.trim segment with - | ⟨c, word⟩
    · simp
    · simp
  · simp

/-- A segment that names a word gives that word, in front of those behind the separator. -/
theorem segments_names (h : Names segment word) (rest : List Char) :
    segments (segment ++ separator :: rest) = word :: segments rest := by
  rw [segments_append_separator h.separator_notMem, h.trim, if_neg]
  exact fun hnil => h.isName.ne_nil hnil.1

/-- There are no segments in a tail, and in nothing else. -/
theorem segments_eq_nil_iff : segments s = [] ↔ IsTail s := by
  induction s using Text.piece_induction separator with
  | last piece hpiece =>
      rw [segments_of_not_mem hpiece]
      constructor
      · intro h
        have htrim : Text.trim piece = [] := by
          by_contra hne
          simp [hne] at h
        exact fun c hc => .inr (Text.trim_eq_nil_iff.mp htrim c hc)
      · intro h
        rw [if_pos (trim_of_isGap (isGap_of_isTail h hpiece))]
  | cons piece rest hpiece ih =>
      rw [segments_append_separator hpiece, isTail_append_separator_iff hpiece, ← ih,
        Text.IsGap, ← Text.trim_eq_nil_iff]
      constructor
      · intro h
        by_contra hne
        simp [hne] at h
      · intro h
        rw [if_pos h]

/-- A tail behind a text adds no segment to it. -/
theorem segments_append_tail (s : List Char) (htail : IsTail tail) :
    segments (s ++ tail) = segments s := by
  induction s using Text.piece_induction separator with
  | last piece hpiece =>
      rw [segments_of_not_mem hpiece]
      by_cases hmem : separator ∈ tail
      · obtain ⟨gap, rest, rfl, hplain⟩ := List.eq_append_cons_of_mem hmem
        obtain ⟨hgap, hrest⟩ := (isTail_append_separator_iff hplain).mp htail
        rw [← List.append_assoc, segments_append_separator (by simp [hpiece, hplain]),
          Text.trim_append_gap piece hgap, segments_eq_nil_iff.mpr hrest]
        simp
      · have hgap := isGap_of_isTail htail hmem
        rw [segments_of_not_mem (by simp [hpiece, hmem]), Text.trim_append_gap piece hgap]
  | cons piece rest hpiece ih =>
      rw [List.append_assoc, List.cons_append, segments_append_separator hpiece, ih,
        segments_append_separator hpiece]

/-- The segments of what stands in front of a separator or the end. -/
theorem segments_names_append (h : Names segment word) (hrest : ∀ c ∈ rest.head?, c = separator) :
    ∃ more, segments (segment ++ rest) = word :: more := by
  cases rest with
  | nil =>
      rw [List.append_nil, segments_of_not_mem h.separator_notMem, h.trim,
        if_neg h.isName.ne_nil]
      exact ⟨[], rfl⟩
  | cons c rest =>
      obtain rfl := hrest c rfl
      exact ⟨segments rest, segments_names h rest⟩

/-! ### Reading the segments -/

/-- An empty word in front is refused. -/
theorem resolve_nil_cons (position : Nat) (parts : List (List Char)) :
    resolve table position ([] :: parts) = .error (.emptySelector position) := by
  rw [resolve, if_pos rfl]

/-- An unknown word in front is refused. -/
theorem resolve_cons_of_none (hne : word ≠ []) (hfind : table.find? (selectorOf word) = none)
    (position : Nat) (parts : List (List Char)) :
    resolve table position (word :: parts) =
      .error (.unknownSelector (String.ofList word) (knownNames table)) := by
  rw [selectorOf] at hfind
  rw [resolve, if_neg hne, hfind]

/-- A known word in front gives its accessor, if the others are resolved. -/
theorem resolve_cons_of_some {accessor : α} (hne : word ≠ [])
    (hfind : table.find? (selectorOf word) = some accessor) (position : Nat)
    (parts : List (List Char)) :
    resolve table position (word :: parts) =
      (resolve table (position + 1) parts).map ((selectorOf word, accessor) :: ·) := by
  rw [selectorOf] at hfind
  rw [resolve, if_neg hne, hfind]
  cases resolve table (position + 1) parts <;> rfl

/-- **Good segments are read as the selectors that they name**, and reading goes on behind them. -/
theorem Leads.resolve (h : Leads table front selectors) (s : List Char) (position : Nat) :
    FormatSpec.resolve table position (segments (front ++ s)) =
      (FormatSpec.resolve table (position + selectors.length) (segments s)).map
        (selectors ++ ·) := by
  induction h generalizing position with
  | nil =>
      rw [List.nil_append, List.length_nil, Nat.add_zero]
      cases FormatSpec.resolve table position (segments s) <;> rfl
  | @cons segment word front accessor selectors hnames hfind _ ih =>
      have hposition : position + (selectors.length + 1) = position + 1 + selectors.length := by
        omega
      rw [List.append_assoc, List.cons_append, segments_names hnames,
        resolve_cons_of_some hnames.isName.ne_nil hfind, ih, List.length_cons, hposition]
      cases FormatSpec.resolve table (position + 1 + selectors.length) (segments s) <;> rfl

/-- The specification that consists of these selectors. -/
def ofSelectors (selectors : List (String × α)) : FormatSpec α :=
  ⟨selectors.map (·.1), selectors.map (·.2)⟩

/-- A tail selects nothing. -/
theorem parseText_of_tail (h : IsTail s) : parseText table s = .error .noSelector := by
  rw [parseText, segments_eq_nil_iff.mpr h]

/-- Where there are segments, a text means what they are read as. -/
theorem parseText_of_segments (h : segments s ≠ []) :
    parseText table s = (resolve table 1 (segments s)).map ofSelectors := by
  rw [parseText]
  split
  · next hnil => exact absurd hnil h
  · cases resolve table 1 (segments s) <;> rfl

/-- A text that is in the grammar means the selectors that it lists. -/
theorem parseText_of_lists (h : Lists table s selectors) :
    parseText table s = .ok (ofSelectors selectors) := by
  cases h with
  | @intro front segment word tail accessor selectors hleads hnames hfind htail =>
      have hlast : segments (segment ++ tail) = [word] := by
        rw [segments_append_tail segment htail, segments_of_not_mem hnames.separator_notMem,
          hnames.trim, if_neg hnames.isName.ne_nil]
      have hresolve := hleads.resolve (segment ++ tail) 1
      rw [hlast, resolve_cons_of_some hnames.isName.ne_nil hfind] at hresolve
      have hne : segments (front ++ (segment ++ tail)) ≠ [] := by
        intro hnil
        simp [hnil, resolve, Except.map] at hresolve
      rw [parseText_of_segments hne, hresolve]
      rfl

/-- A text with something wrong is refused for it. -/
theorem parseText_of_refused {refusal : Refusal} (h : Refused table s refusal) :
    parseText table s = .error refusal := by
  -- behind good segments the first one that is bad decides
  have hbad : ∀ {front s : List Char} {selectors : List (String × α)}, Leads table front selectors →
      resolve table (1 + selectors.length) (segments s) = .error refusal →
      parseText table (front ++ s) = .error refusal := by
    intro front s selectors hleads hrefusal
    have hresolve := hleads.resolve s 1
    rw [hrefusal] at hresolve
    have hne : segments (front ++ s) ≠ [] := by
      intro hnil
      simp [hnil, resolve, Except.map] at hresolve
    rw [parseText_of_segments hne, hresolve]
    rfl
  cases h with
  | noSelector htail => exact parseText_of_tail htail
  | @emptySelector front gap rest selectors hleads hgap hrest =>
      refine hbad hleads ?_
      rw [segments_append_separator (separator_notMem_of_isGap hgap), trim_of_isGap hgap,
        if_neg fun hnil => hrest (segments_eq_nil_iff.mp hnil.2), resolve_nil_cons, Nat.add_comm]
  | @unknownSelector front segment word rest selectors hleads hnames hfind hrest =>
      refine hbad hleads ?_
      obtain ⟨more, hsegments⟩ := segments_names_append hnames hrest
      rw [hsegments, resolve_cons_of_none hnames.isName.ne_nil hfind]

/-- Each selector in front is named by a word, and the table has it. -/
theorem Leads.of_mem (h : Leads table front selectors) {selector : String × α}
    (hmem : selector ∈ selectors) : ∃ word, IsName word ∧ selector.1 = selectorOf word ∧
      table.find? selector.1 = some selector.2 := by
  induction h with
  | nil => simp at hmem
  | cons hnames hfind _ ih =>
      rcases List.mem_cons.mp hmem with rfl | hmem
      · exact ⟨_, hnames.isName, rfl, hfind⟩
      · exact ih hmem

/-- Each selector that a text lists is named by a word, and the table has it. -/
theorem Lists.of_mem (h : Lists table s selectors) {selector : String × α}
    (hmem : selector ∈ selectors) : ∃ word, IsName word ∧ selector.1 = selectorOf word ∧
      table.find? selector.1 = some selector.2 := by
  cases h with
  | intro hleads hnames hfind _ =>
      rcases List.mem_append.mp hmem with hmem | hmem
      · exact hleads.of_mem hmem
      · obtain rfl := List.mem_singleton.mp hmem
        exact ⟨_, hnames.isName, rfl, hfind⟩

/-- A good segment in front of a text that is in the grammar. -/
theorem Lists.cons {accessor : α} (hnames : Names segment word)
    (hfind : table.find? (selectorOf word) = some accessor) (h : Lists table s selectors) :
    Lists table (segment ++ separator :: s) ((selectorOf word, accessor) :: selectors) := by
  cases h with
  | @intro front last lastWord tail found selectors hleads hlast hfound htail =>
      have hlists := Lists.intro (.cons hnames hfind hleads) hlast hfound htail
      rwa [List.append_assoc, List.cons_append, List.cons_append] at hlists

/-- What the first piece of a text can be: a gap, a bad segment, or a good one. -/
theorem piece_cases (table : Table String α) (hpiece : separator ∉ segment)
    (hrest : ∀ c ∈ rest.head?, c = separator) :
    Text.IsGap segment ∨ (∃ refusal, Refused table (segment ++ rest) refusal) ∨
      ∃ word accessor, Names segment word ∧ table.find? (selectorOf word) = some accessor := by
  by_cases htrim : Text.trim segment = []
  · exact .inl (Text.trim_eq_nil_iff.mp htrim)
  have hnames := names_trim hpiece htrim
  rcases hfind : table.find? (selectorOf (Text.trim segment)) with - | accessor
  · exact .inr (.inl ⟨_, .unknownSelector .nil hnames hfind hrest⟩)
  · exact .inr (.inr ⟨_, accessor, hnames, hfind⟩)

/-- A good segment in front of a text with something wrong, unless there is nothing in that. -/
theorem Refused.cons {accessor : α} {refusal : Refusal} (hnames : Names segment word)
    (hfind : table.find? (selectorOf word) = some accessor) (h : Refused table s refusal)
    (hs : ¬ IsTail s) : ∃ refusal, Refused table (segment ++ separator :: s) refusal := by
  cases h with
  | noSelector htail => exact absurd htail hs
  | emptySelector hleads hgap hrest =>
      have hrefused := Refused.emptySelector (.cons hnames hfind hleads) hgap hrest
      rw [List.append_assoc, List.cons_append] at hrefused
      exact ⟨_, hrefused⟩
  | unknownSelector hleads hword hnone hrest =>
      have hrefused := Refused.unknownSelector (.cons hnames hfind hleads) hword hnone hrest
      rw [List.append_assoc, List.cons_append] at hrefused
      exact ⟨_, hrefused⟩

/-- **A text is in the grammar, or something is wrong with it.** -/
theorem lists_or_refused (table : Table String α) (s : List Char) :
    (∃ selectors, Lists table s selectors) ∨ ∃ refusal, Refused table s refusal := by
  induction s using Text.piece_induction separator with
  | last piece hpiece =>
      rw [← List.append_nil piece]
      have hend : ∀ c ∈ ([] : List Char).head?, c = separator := by simp
      rcases piece_cases table hpiece hend with hgap | hrefused | ⟨word, accessor, hnames, hfind⟩
      · refine .inr ⟨_, .noSelector fun c hc => .inr (hgap c ?_)⟩
        rwa [List.append_nil] at hc
      · exact .inr hrefused
      · exact .inl ⟨_, .intro .nil hnames hfind (by simp [IsTail])⟩
  | cons piece rest hpiece ih =>
      have hseparator : ∀ c ∈ (separator :: rest).head?, c = separator := by simp
      rcases piece_cases table hpiece hseparator with
        hgap | hrefused | ⟨word, accessor, hnames, hfind⟩
      · by_cases htail : IsTail rest
        · exact .inr ⟨_, .noSelector ((isTail_append_separator_iff hpiece).mpr ⟨hgap, htail⟩)⟩
        · exact .inr ⟨_, .emptySelector .nil hgap htail⟩
      · exact .inr hrefused
      · by_cases htail : IsTail rest
        · exact .inl ⟨_, .intro .nil hnames hfind (List.forall_mem_cons.mpr ⟨.inl rfl, htail⟩)⟩
        -- behind a good segment the rest is as good or as bad as it is alone
        · rcases ih with ⟨selectors, hlists⟩ | ⟨refusal, hrefused⟩
          · exact .inl ⟨_, hlists.cons hnames hfind⟩
          · exact .inr (hrefused.cons hnames hfind htail)

/-- **The texts that are accepted** are those of the grammar. -/
theorem parseText_eq_ok_iff {spec : FormatSpec α} : parseText table s = .ok spec ↔
    ∃ selectors, Lists table s selectors ∧ spec = ofSelectors selectors := by
  constructor
  · intro h
    rcases lists_or_refused table s with ⟨selectors, hlists⟩ | ⟨refusal, hrefused⟩
    · rw [parseText_of_lists hlists] at h
      exact ⟨selectors, hlists, (Except.ok.inj h).symm⟩
    · simp [parseText_of_refused hrefused] at h
  · rintro ⟨selectors, hlists, rfl⟩
    exact parseText_of_lists hlists

/-- **What a text is refused for** is wrong with it. -/
theorem parseText_eq_error_iff {refusal : Refusal} :
    parseText table s = .error refusal ↔ Refused table s refusal := by
  constructor
  · intro h
    rcases lists_or_refused table s with ⟨selectors, hlists⟩ | ⟨refusal', hrefused⟩
    · simp [parseText_of_lists hlists] at h
    · rw [parseText_of_refused hrefused] at h
      obtain rfl := Except.error.inj h
      exact hrefused
  · exact parseText_of_refused

/-! ### Other spellings -/

/-- Two words that are both empty, or name one selector. -/
def Alike (word word' : List Char) : Prop :=
  (word' = [] ↔ word = []) ∧ selectorOf word' = selectorOf word

/-- Words that are named alike stand for the same selector. -/
theorem Names.alike {word' : List Char} {segment' : List Char} (h : Names segment word)
    (h' : Names segment' word') (hsame : selectorOf word' = selectorOf word) : Alike word word' :=
  ⟨iff_of_false h'.isName.ne_nil h.isName.ne_nil, hsame⟩

/-- A text that is respelled has words that are alike. -/
theorem Respells.segments (h : Respells s t) :
    List.Forall₂ Alike (FormatSpec.segments s) (FormatSpec.segments t) := by
  have hrefl : ∀ parts : List (List Char), List.Forall₂ Alike parts parts := fun parts =>
    List.forall₂_same.mpr fun _ _ => ⟨Iff.rfl, rfl⟩
  induction h with
  | @tail s tail htail =>
      rw [segments_append_tail s htail]
      exact hrefl _
  | @first segment segment' word word' rest hnames hnames' hsame hrest =>
      have halike := hnames.alike hnames' hsame
      cases rest with
      | nil =>
          rw [List.append_nil, List.append_nil, segments_of_not_mem hnames.separator_notMem,
            segments_of_not_mem hnames'.separator_notMem, hnames.trim, hnames'.trim,
            if_neg hnames.isName.ne_nil, if_neg hnames'.isName.ne_nil]
          exact .cons halike .nil
      | cons c rest =>
          obtain rfl := hrest c rfl
          rw [segments_names hnames, segments_names hnames']
          exact .cons halike (hrefl _)
  | @behind piece s t hpiece _ ih =>
      have hempty : FormatSpec.segments t = [] ↔ FormatSpec.segments s = [] := by
        rw [← List.length_eq_zero_iff, ← List.length_eq_zero_iff, ih.length_eq]
      rw [segments_append_separator hpiece, segments_append_separator hpiece]
      simp only [hempty]
      split
      · exact .nil
      · exact .cons ⟨Iff.rfl, rfl⟩ ih

/-- Words that are alike are read as the same selectors, if they are read at all. -/
theorem resolve_alike {parts parts' : List (List Char)} (h : List.Forall₂ Alike parts parts')
    (position : Nat) : resolve table position parts' = .ok selectors ↔
      resolve table position parts = .ok selectors := by
  induction h generalizing position selectors with
  | nil => exact Iff.rfl
  | @cons word word' parts parts' halike _ ih =>
      by_cases hne : word = []
      · rw [halike.1.mpr hne, hne, resolve_nil_cons, resolve_nil_cons]
      have hne' : word' ≠ [] := fun hnil => hne (halike.1.mp hnil)
      rcases hfind : table.find? (selectorOf word) with - | accessor
      · have hfind' : table.find? (selectorOf word') = none := by rw [halike.2, hfind]
        rw [resolve_cons_of_none hne hfind, resolve_cons_of_none hne' hfind']
        simp
      · have hfind' : table.find? (selectorOf word') = some accessor := by rw [halike.2, hfind]
        rw [resolve_cons_of_some hne hfind, resolve_cons_of_some hne' hfind', halike.2,
          map_eq_ok, map_eq_ok]
        exact exists_congr fun more => and_congr_left' (ih _)

/-- **Another spelling of a text means the same.** -/
theorem Respells.parseText (h : Respells s t) (spec : FormatSpec α) :
    FormatSpec.parseText table t = .ok spec ↔ FormatSpec.parseText table s = .ok spec := by
  have hsegments := h.segments
  by_cases hnone : FormatSpec.segments s = []
  · rw [hnone, List.forall₂_nil_left_iff] at hsegments
    rw [parseText_of_tail (segments_eq_nil_iff.mp hnone),
      parseText_of_tail (segments_eq_nil_iff.mp hsegments)]
  · have hsome : FormatSpec.segments t ≠ [] := by
      intro hnone'
      rw [hnone', List.forall₂_nil_right_iff] at hsegments
      exact hnone hsegments
    rw [parseText_of_segments hnone, parseText_of_segments hsome, map_eq_ok, map_eq_ok]
    exact exists_congr fun selectors => and_congr_left' (resolve_alike hsegments 1)

/-! ### Format values -/

/-- A format is parsed when its text is. -/
theorem parse_text_eq_ok_iff {s : String} {spec : FormatSpec α} :
    parse table (.text s) = .ok spec ↔ FormatSpec.parseText table s.toList = .ok spec := by
  rw [parse]
  split
  · next spec' htext => simp [htext]
  · next refusal htext => simp [htext]

/-- A format is refused with the refusal of its text. -/
theorem parse_text_eq_error_iff {s : String} {fault : Fault} :
    parse table (.text s) = .error fault ↔
      ∃ refusal, fault = .configuration "format" (.text s) refusal ∧
        FormatSpec.parseText table s.toList = .error refusal := by
  rw [parse]
  split
  · next spec htext => simp [htext]
  · next refusal htext =>
    rw [htext]
    constructor
    · intro h
      exact ⟨refusal, (Except.error.inj h).symm, rfl⟩
    · rintro ⟨refusal', rfl, h⟩
      obtain rfl := Except.error.inj h
      rfl

/-- **A format text is accepted exactly when it is in the grammar.**

* It is accepted when it lists selectors, and means those: the current spellings of its words, in
  order. There are as many accessors as names, and each is the entry of the table under the name.
* Naming a selector by another word, other blanks around the words and a longer tail change nothing
  in that.
* Any other text is refused as a value for the format, for what is wrong with it: that it is all
  tail, or else the first segment that is bad, by its place if it is empty, and by its name if the
  table does not have it. -/
theorem accepts_exactly_grammar (table : Table String α) (s : String) :
    (∀ spec, parse table (.text s) = .ok spec ↔
      ∃ selectors, Lists table s.toList selectors ∧ spec = ofSelectors selectors) ∧
    (∀ spec, parse table (.text s) = .ok spec →
      List.Forall₂ (fun name accessor => table.find? name = some accessor) spec.names
        spec.accessors) ∧
    (∀ t : String, Respells s.toList t.toList → ∀ spec,
      parse table (.text t) = .ok spec ↔ parse table (.text s) = .ok spec) ∧
    (∀ fault, parse table (.text s) = .error fault ↔
      ∃ refusal, fault = .configuration "format" (.text s) refusal ∧
        Refused table s.toList refusal) := by
  refine ⟨fun spec => ?_, fun spec hparse => ?_, fun t hrespells spec => ?_, fun fault => ?_⟩
  · rw [parse_text_eq_ok_iff, parseText_eq_ok_iff]
  · rw [parse_text_eq_ok_iff, parseText_eq_ok_iff] at hparse
    obtain ⟨selectors, hlists, rfl⟩ := hparse
    rw [ofSelectors, List.forall₂_map_left_iff, List.forall₂_map_right_iff, List.forall₂_same]
    intro selector hmem
    obtain ⟨word, -, -, hfind⟩ := hlists.of_mem hmem
    exact hfind
  · rw [parse_text_eq_ok_iff, parse_text_eq_ok_iff, hrespells.parseText]
  · rw [parse_text_eq_error_iff]
    exact exists_congr fun refusal => and_congr_right fun _ => parseText_eq_error_iff

/-- A text with an older spelling, other blanks and a tail, for a table with a blank inside a
name. -/
theorem accepts_exactly_grammar_of_older_spelling :
    let table : Table String Nat := [("level", 1), ("a b", 2)]
    Respells "getLevel;a b".toList " level ;a b".toList ∧
      parse table (.text "getLevel;a b") = .ok ⟨["level", "a b"], [1, 2]⟩ ∧
      parse table (.text " level ;a b") = .ok ⟨["level", "a b"], [1, 2]⟩ ∧
      List.Forall₂ (fun name accessor => table.find? name = some accessor) ["level", "a b"]
        [1, 2] := by
  intro table
  have hold : Names "getLevel".toList "getLevel".toList :=
    ⟨by decide, [], [], by decide, by decide, rfl⟩
  have hcurrent : Names " level ".toList "level".toList :=
    ⟨by decide, [' '], [' '], by decide, by decide, rfl⟩
  have hrest : ∀ c ∈ (";a b".toList).head?, c = separator := fun c hc =>
    (Option.some.inj hc).symm
  have hrespells : Respells "getLevel;a b".toList " level ;a b".toList :=
    .first hold hcurrent (by decide) hrest
  have hparse : parse table (.text "getLevel;a b") = .ok ⟨["level", "a b"], [1, 2]⟩ := rfl
  obtain ⟨-, hfound, hsame, -⟩ := accepts_exactly_grammar table "getLevel;a b"
  exact ⟨hrespells, hparse, (hsame _ hrespells _).mpr hparse, hfound _ hparse⟩

end TraceLog.FormatSpec
