import TraceLog.Proofs.LevelValues
import TraceLog.Proofs.Trimming

/-!
# Spellings of Levels

A level can be spelled in many ways. The digits of a number may have zeros in front of them and may
belong to any script. A name may be written in either case. Blanks may stand around both. None of
that changes the level.

`Text.SpelledAlike` relates two texts that differ only in the blanks around them and in the case of
letters of ASCII. The level of a text, and the kind of fault where there is none, depend on the
capitals of the trimmed text alone, and these agree for texts that are spelled alike
(`Text.SpelledAlike.capitals_eq`).

## Main results

* `Text.capitals_map_toLower`, `Text.trim_map_toLower`: what cases come to.
* `Level.outcome_of_capitals`: what the level of a text depends on.
* `Level.parse_of_spelling`: the level does not depend on its spelling.
-/

namespace TraceLog

/-! ### Texts that are spelled alike -/

namespace Text

variable {s t : List Char}

/-- Two texts that differ at most in the blanks around them and in the case of letters of ASCII. -/
inductive SpelledAlike : List Char → List Char → Prop
  | between {before before' core core' after after' : List Char} :
      IsGap before → IsGap before' → IsGap after → IsGap after' →
      core.map Char.toLower = core'.map Char.toLower →
      SpelledAlike (before ++ core ++ after) (before' ++ core' ++ after')

/-- Only the capitals of ASCII have another small form, so that they alone have to be tried. -/
theorem apply_toLower {α : Type} {f : Char → α}
    (h : ∀ n < 91, 65 ≤ n → f (Char.ofNat n).toLower = f (Char.ofNat n)) (c : Char) :
    f c.toLower = f c := by
  by_cases hcapital : 65 ≤ c.toNat ∧ c.toNat ≤ 90
  · have hletter := h c.toNat (by omega) hcapital.1
    rwa [Char.ofNat_toNat] at hletter
  · have hother : ¬(c.val ≥ 'A'.val ∧ c.val ≤ 'Z'.val) := hcapital
    exact congrArg f (dif_neg hother)

/-- Small letters are blanks where the capitals are. -/
theorem isBlank_toLower (c : Char) : isBlank c.toLower = isBlank c :=
  apply_toLower (by decide) c

/-- A small letter has the capital of its character. -/
theorem capital_toLower (c : Char) : capital c.toLower = capital c :=
  apply_toLower (by decide) c

/-- Small letters have the same capitals. -/
theorem capitals_map_toLower (s : List Char) : capitals (s.map Char.toLower) = capitals s := by
  rw [capitals, List.flatMap_map, capitals]
  exact congrArg (s.flatMap ·) (funext capital_toLower)

/-- Trimming does not depend on cases. -/
theorem trim_map_toLower (s : List Char) :
    trim (s.map Char.toLower) = (trim s).map Char.toLower := by
  have hblank : isBlank ∘ Char.toLower = isBlank := funext isBlank_toLower
  rw [trim, trimEnd, trimStart, List.dropWhile_map, hblank, ← List.map_reverse, List.dropWhile_map,
    hblank, ← List.map_reverse]
  rfl

/-- **Texts that are spelled alike** have the same capitals when they are trimmed. -/
theorem SpelledAlike.capitals_eq (h : SpelledAlike s t) :
    capitals (trim s) = capitals (trim t) := by
  obtain ⟨hbefore, hbefore', hafter, hafter', hcore⟩ := h
  next core core' _ _ =>
  rw [trim_between hbefore core hafter, trim_between hbefore' core' hafter',
    ← capitals_map_toLower (trim core), ← trim_map_toLower, hcore, trim_map_toLower,
    capitals_map_toLower]

end Text

/-! ### Levels -/

namespace Level

/-- The level of a text, and the kind of fault if there is none, depend on the capitals of the
trimmed text alone. -/
theorem outcome_of_capitals {s t : String}
    (h : Text.capitals (Text.trim s.toList) = Text.capitals (Text.trim t.toList)) :
    (parse (.text s)).mapError Fault.title = (parse (.text t)).mapError Fault.title := by
  simp only [parse, parseText, h]
  split
  · rfl
  · split
    · split
      · split
        · rfl
        · rw [unknown_text, unknown_text]
          rfl
      · rfl
    · rw [unknown_text, unknown_text]
      rfl

/-- **The level does not depend on its spelling.** A positive integer means itself, and so does a
text of its digits, in any script, with any zeros in front of them and any blanks around all. Two
texts that are spelled alike mean the same level, or both mean none, with faults of the same
class. -/
theorem parse_of_spelling :
    (∀ n : Nat, 0 < n →
      parse (.int n) = .ok n ∧
      ∀ (zeros : Nat) (before word after : List Char), Text.IsGap before → Text.IsGap after →
        Text.WritesDigits word (List.replicate zeros 0 ++ (Nat.digits 10 n).reverse) →
        word.length ≤ Value.digitLimit →
        parse (.text (String.ofList (before ++ word ++ after))) = .ok n) ∧
    ∀ s t : String, Text.SpelledAlike s.toList t.toList →
      (parse (.text s)).mapError Fault.title = (parse (.text t)).mapError Fault.title := by
  refine ⟨fun n hn => ⟨?_, ?_⟩, fun s t h => outcome_of_capitals h.capitals_eq⟩
  · exact parse_eq_ok_iff.mpr (.number (by rw [lowest]; omega))
  · intro zeros before word after hbefore hafter hwritten hshort
    have hvalue : Nat.ofDigits 10
        (List.replicate zeros 0 ++ (Nat.digits 10 n).reverse).reverse = n := by
      rw [List.reverse_append, List.reverse_reverse, List.reverse_replicate,
        Nat.ofDigits_append_replicate_zero, Nat.ofDigits_digits]
    have hplain : ∀ c ∈ word, Text.isBlank c = false := fun c hc =>
      Text.isBlank_of_isDigit (hwritten.isDigit c hc)
    have htrimmed : Text.IsTrimmed word :=
      ⟨fun c hc => hplain c (List.mem_of_mem_head? hc),
        fun c hc => hplain c (List.mem_of_getLast? hc)⟩
    have hmeans : Means (.text (String.ofList (before ++ word ++ after)))
        (Nat.ofDigits 10 (List.replicate zeros 0 ++ (Nat.digits 10 n).reverse).reverse : Nat) := by
      refine .digits ?_ (hwritten.length_eq ▸ hshort) (hvalue.symm ▸ hn)
      rwa [String.toList_ofList, List.append_assoc, Text.trim_gaps hbefore htrimmed hafter]
    rwa [hvalue, ← parse_eq_ok_iff] at hmeans

/-- Arabic digits with zeros in front of them, and a name between blanks in mixed case. -/
theorem parse_of_spelling_arabic :
    parse (.text " \t٠٠15\u3000") = .ok 15 ∧
    (parse (.text "\n cOnFiG ")).mapError Fault.title =
      (parse (.text "CONFIG")).mapError Fault.title := by
  obtain ⟨hdigits, halike⟩ := parse_of_spelling
  have hconfig : Text.SpelledAlike "\n cOnFiG ".toList "CONFIG".toList :=
    @Text.SpelledAlike.between ['\n', ' '] [] "cOnFiG".toList "CONFIG".toList [' '] []
      (by decide) (by decide) (by decide) (by decide) (by decide)
  refine ⟨?_, halike _ _ hconfig⟩
  exact (hdigits 15 (by decide)).2 2 [' ', '\t'] ['٠', '٠', '1', '5'] ['\u3000']
    (by decide) (by decide) (by decide) (by decide)

end Level

end TraceLog
