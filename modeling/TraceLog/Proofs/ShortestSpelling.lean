import TraceLog.Proofs.Grammar

/-!
# The Shortest Spelling of a Format

A format text may use older spellings, blanks and a tail; its specification joins the current names
again without any of that. This module proves that the shorter text means the same, against the same
table. What carries the proof is that each name in a specification is a word that stands for itself
(`FormatSpec.Lists.standsForItself`): it comes from a word of the text, and the spellings that
replace older ones are replaced by none.

So two specifications with one text are equal, and to shorten a text twice is to shorten it once.

## Main results

* `FormatSpec.lists_names`: names that stand for themselves, one after the other.
* `FormatSpec.shortest_spelling_means_same`: the shortest spelling of a format.
-/

namespace TraceLog.FormatSpec

variable {α : Type} {table : Table String α} {s : List Char} {word : List Char}
  {selectors : List (String × α)}

/-- What replaces older spellings is a name, and is not replaced itself. -/
theorem current_of_aliases :
    ∀ entry ∈ aliases, IsName entry.2.toList ∧ aliases.find? entry.2 = none := by
  decide

/-- An alias stands for its name. -/
theorem canonical_eq_of_find? {name current : String} (h : aliases.find? name = some current) :
    canonical name = current := by
  rw [canonical, h, Option.getD_some]

/-- Every other name stands for itself. -/
theorem canonical_eq_self {name : String} (h : aliases.find? name = none) :
    canonical name = name := by
  rw [canonical, h, Option.getD_none]

/-- The current spelling of a selector is its own current spelling. -/
theorem canonical_canonical (name : String) : canonical (canonical name) = canonical name := by
  rcases hfind : aliases.find? name with - | current
  · rw [canonical_eq_self hfind, canonical_eq_self hfind]
  · obtain ⟨-, hnone⟩ := current_of_aliases _ (Table.mem_of_find? hfind)
    rw [canonical_eq_of_find? hfind, canonical_eq_self hnone]

/-- What a word stands for can stand in a format text itself. -/
theorem isName_selectorOf (h : IsName word) : IsName (selectorOf word).toList := by
  rcases hfind : aliases.find? (String.ofList word) with - | current
  · rw [selectorOf, canonical_eq_self hfind, String.toList_ofList]
    exact h
  · rw [selectorOf, canonical_eq_of_find? hfind]
    exact (current_of_aliases _ (Table.mem_of_find? hfind)).1

/-- A selector whose name can stand in a format text, where it stands for itself, and is found in
the table. -/
structure StandsForItself (table : Table String α) (selector : String × α) : Prop where
  isName : IsName selector.1.toList
  current : selectorOf selector.1.toList = selector.1
  found : table.find? selector.1 = some selector.2

/-- The selectors that a text lists stand for themselves. -/
theorem Lists.standsForItself (h : Lists table s selectors) :
    ∀ selector ∈ selectors, StandsForItself table selector := by
  intro selector hmem
  obtain ⟨word, hword, hname, hfind⟩ := h.of_mem hmem
  refine ⟨?_, ?_, hfind⟩
  · rw [hname]
    exact isName_selectorOf hword
  · rw [selectorOf, String.ofList_toList, hname, selectorOf, canonical_canonical]

/-- A format lists at least one selector. -/
theorem Lists.ne_nil (h : Lists table s selectors) : selectors ≠ [] := by
  cases h with
  | intro => simp

/-- A name alone is a segment. -/
theorem IsName.names (h : IsName word) : Names word word :=
  ⟨h, [], [], by simp [Text.IsGap], by simp [Text.IsGap], by simp⟩

/-- **Names that stand for themselves**, with a separator between each two, list their
selectors. -/
theorem lists_names (hne : selectors ≠ [])
    (h : ∀ selector ∈ selectors, StandsForItself table selector) :
    Lists table ([separator].intercalate (selectors.map fun selector => selector.1.toList))
      selectors := by
  induction selectors with
  | nil => exact absurd rfl hne
  | cons selector selectors ih =>
      obtain ⟨hselector, hrest⟩ := List.forall_mem_cons.mp h
      have hfind : table.find? (selectorOf selector.1.toList) = some selector.2 := by
        rw [hselector.current]
        exact hselector.found
      cases selectors with
      | nil =>
          have htail : IsTail [] := by simp [IsTail]
          have hlists := Lists.intro .nil hselector.isName.names hfind htail
          rw [hselector.current] at hlists
          simpa using hlists
      | cons next selectors =>
          have hlists := (ih (by simp) hrest).cons hselector.isName.names hfind
          rw [hselector.current] at hlists
          rw [List.map_cons, List.map_cons, List.intercalate_cons_cons, List.append_assoc]
          exact hlists

/-- The text of a specification is its names, with a separator between each two. -/
theorem toList_toText_ofSelectors (selectors : List (String × α)) :
    (ofSelectors selectors).toText.toList =
      [separator].intercalate (selectors.map fun selector => selector.1.toList) := by
  rw [toText, String.toList_intercalate, ofSelectors, List.map_map]
  rfl

/-- The text of a parsed format is parsed to the same. -/
theorem parse_toText {s : String} {spec : FormatSpec α} (h : parse table (.text s) = .ok spec) :
    parse table (.text spec.toText) = .ok spec := by
  rw [parse_text_eq_ok_iff, parseText_eq_ok_iff] at h
  obtain ⟨selectors, hlists, rfl⟩ := h
  rw [parse_text_eq_ok_iff, parseText_eq_ok_iff, toList_toText_ofSelectors]
  exact ⟨selectors, lists_names hlists.ne_nil hlists.standsForItself, rfl⟩

/-- **The shortest spelling of a format means the same.** Let a text be accepted against a table.

* The names of its specification, joined again, are accepted against the table, and mean an equal
  specification. So they are their own shortest spelling.
* No other specification that a text means against the table is joined to the same text. -/
theorem shortest_spelling_means_same {s : String} {spec : FormatSpec α}
    (h : parse table (.text s) = .ok spec) :
    parse table (.text spec.toText) = .ok spec ∧
      (parse table (.text spec.toText)).map toText = .ok spec.toText ∧
      ∀ (s' : String) (spec' : FormatSpec α), parse table (.text s') = .ok spec' →
        spec'.toText = spec.toText → spec' = spec := by
  have hback := parse_toText h
  refine ⟨hback, by rw [hback]; rfl, fun s' spec' h' hsame => ?_⟩
  have hback' := parse_toText h'
  rw [hsame, hback] at hback'
  exact (Except.ok.inj hback').symm

/-- Older spellings and a tail, for a table that has a name with a separator and one of the older
spellings as names of its own. -/
theorem shortest_spelling_means_same_of_older_spelling :
    let table : Table String Nat := [("level", 1), ("a;b", 2), ("getLevel", 3)]
    parse table (.text "getLevel ; level;;") = .ok ⟨["level", "level"], [1, 1]⟩ ∧
      parse table (.text "level;level") = .ok ⟨["level", "level"], [1, 1]⟩ := by
  intro table
  have hparse : parse table (.text "getLevel ; level;;") = .ok ⟨["level", "level"], [1, 1]⟩ := rfl
  exact ⟨hparse, (shortest_spelling_means_same hparse).1⟩

end TraceLog.FormatSpec
