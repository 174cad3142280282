import TraceLog.Diagnostics
import TraceLog.Proofs.Digits

/-!
# Which Loggers Belong to the Tree

A module's logger is named by `Diagnostics.loggerName`, which puts the root's name and a point in
front of the module's name. Two kinds of loggers stay outside of the tree all the same.

* A name that starts with that of the root by itself is kept, also when it goes on with something
  else than a point. A logger of such a name is no logger below the root.
* The logger above is looked for at the points of a name, and of two points in a row the first one
  is passed over. So a name with two points behind that of the root leads past the root, unless a
  logger was asked for by the name that ends between them. `Diagnostics.Leads` counts this off: the
  points behind the root's name decide alone whether a logger belongs to the tree
  (`Diagnostics.inTree_loggerName_iff`).

Configurations come one after the other (`Diagnostics.configureEach`), and one that is refused
leaves everything as it was. A record that reaches the level chosen last is written once if its
logger belongs to the tree, and no other record is written at all.

## Main results

* `Diagnostics.configureEach_eq`: what configurations come to.
* `Diagnostics.inTree_loggerName_iff`, `Diagnostics.leads_iff_odd`: the loggers of the tree.
* `Diagnostics.written_once_in_tree`: what becomes of a record.
-/

namespace TraceLog.Diagnostics

/-! ### Configurations one after the other -/

/-- The diagnostics configured with levels one after the other. -/
def configureEach (diagnostics : Diagnostics) : List Value → Diagnostics
  | [] => diagnostics
  | level :: levels =>
    match diagnostics.configure level with
    | .ok next => next.configureEach levels
    | .error _ => diagnostics.configureEach levels

/-- The level that was chosen last, if one was. -/
def chosen? (levels : List Value) : Option Int :=
  (levels.filterMap fun level => (levelOf level).toOption).getLast?

/-- **Configurations one after the other** come to the last one that succeeds. -/
theorem configureEach_eq (diagnostics : Diagnostics) (levels : List Value) :
    diagnostics.configureEach levels =
      match chosen? levels with
      | some n => { level := n, handlers := 1, propagate := false }
      | none => diagnostics := by
  induction levels generalizing diagnostics with
  | nil => rfl
  | cons level levels ih =>
      rcases hlevel : levelOf level with fault | n
      · have hrefused : diagnostics.configure level = .error fault := by
          rw [configure, hlevel]
          rfl
        have hsame : chosen? (level :: levels) = chosen? levels := by
          rw [chosen?, List.filterMap_cons_none (by rw [hlevel]; rfl), ← chosen?]
        simp only [configureEach, hrefused, ih, hsame]
      · have htaken : diagnostics.configure level =
            .ok { level := n, handlers := 1, propagate := false } := by
          rw [configure, hlevel]
          rfl
        have hlast : chosen? (level :: levels) = some ((chosen? levels).getD n) := by
          rw [chosen?, List.filterMap_cons_some (by rw [hlevel]; rfl), List.getLast?_cons,
            ← chosen?]
        simp only [configureEach, htaken, ih, hlast]
        cases chosen? levels with
        | none => rfl
        | some m => rfl

/-- No level below zero can be chosen. -/
theorem nonneg_of_levelOf {level : Value} {n : Int} (h : levelOf level = .ok n) : 0 ≤ n := by
  have hall : ∀ entry ∈ facility, ∀ n, entry.2 = .level n → 0 ≤ n := by
    simp [facility]
  cases level with
  | text s =>
      simp only [levelOf] at h
      split at h
      · next m hfind =>
          obtain rfl := Except.ok.inj h
          exact hall _ (Table.mem_of_find? hfind) _ rfl
      · simp at h
      · simp at h
      · obtain rfl := Except.ok.inj h
        decide
  | _ => simp [levelOf] at h

/-- A level that is chosen is not negative. -/
theorem nonneg_of_chosen? {levels : List Value} {n : Int} (h : chosen? levels = some n) :
    0 ≤ n := by
  obtain ⟨level, -, hlevel⟩ := List.mem_filterMap.mp (List.mem_of_getLast? h)
  rcases hof : levelOf level with fault | m
  · simp [hof, Except.toOption] at hlevel
  · rw [hof] at hlevel
    obtain rfl := Option.some.inj hlevel
    exact nonneg_of_levelOf hof

/-! ### Points -/

/-- Points in a row. -/
def points (n : Nat) : String :=
  String.ofList (List.replicate n '.')

/-- The number of points right behind the root's name. -/
def pointsBehind (name : String) : Nat :=
  ((name.toList.drop root.length).takeWhile (· == '.')).length

/-- From the root's name with this many points behind it the loggers above lead up to the root. The
next logger above is the one with a point less, if it was made, and otherwise it is looked for with
two points less. -/
inductive Leads (made : List String) : Nat → Prop
  | single : Leads made 1
  | near {n : Nat} : root ++ points (n + 1) ∈ made → Leads made (n + 1) → Leads made (n + 2)
  | far {n : Nat} : root ++ points (n + 1) ∉ made → Leads made n → Leads made (n + 2)

/-- As long as no logger was asked for by the root's name and points alone, an odd number of points
leads up to the root. -/
theorem leads_iff_odd {made : List String} (h : ∀ n, root ++ points n ∉ made) (n : Nat) :
    Leads made n ↔ n % 2 = 1 := by
  induction n using Nat.twoStepInduction with
  | zero => exact iff_of_false (by rintro ⟨⟩) (by decide)
  | one => exact iff_of_true .single rfl
  | more n ih _ =>
      rw [Nat.add_mod_right, ← ih]
      constructor
      · rintro (_ | ⟨hmade, -⟩ | ⟨-, hleads⟩)
        · exact absurd hmade (h _)
        · exact hleads
      · exact .far (h _)

/-! ### Names from the back -/

section

variable {made : List String} {s t : List Char}

/-- A name from the back is among those that were made. -/
theorem contains_reversed_iff (made : List String) (n : Nat) :
    (made.map fun other => other.toList.reverse).contains
        (List.replicate n '.' ++ root.toList.reverse) = true ↔ root ++ points n ∈ made := by
  have hpoints : List.replicate n '.' ++ root.toList.reverse =
      (root ++ points n).toList.reverse := by
    rw [String.toList_append, points, String.toList_ofList, List.reverse_append,
      List.reverse_replicate]
  rw [List.contains_iff_mem, hpoints]
  constructor
  · intro hmem
    obtain ⟨other, hother, heq⟩ := List.mem_map.mp hmem
    rwa [← String.toList_inj.mp (List.reverse_inj.mp heq)]
  · exact List.mem_map_of_mem

/-- What stands behind the points of a name does not matter, unless it starts with a point. -/
theorem leadsUp_append (made : List (List Char)) (ht : root.length ≤ t.length) :
    ∀ {s : List Char}, (∀ c ∈ s.getLast?, c ≠ '.') → leadsUp made (s ++ t) = leadsUp made t
  | [], _ => rfl
  | [c], hs => by
      have hc : c ≠ '.' := hs c rfl
      cases t with
      | nil => rfl
      | cons d front => rw [List.singleton_append, leadsUp, if_neg hc]
  | c :: d :: s, hs => by
      have hlast : ∀ e ∈ (d :: s).getLast?, e ≠ '.' := by
        rwa [List.getLast?_cons_cons] at hs
      have hnext := leadsUp_append made ht hlast
      have hroot : d :: (s ++ t) ≠ root.toList.reverse := by
        intro heq
        have hlength := congrArg List.length heq
        rw [List.length_cons, List.length_append, List.length_reverse,
          String.length_toList] at hlength
        omega
      rw [List.cons_append, List.cons_append, leadsUp, if_neg hroot]
      rw [List.cons_append] at hnext
      split
      · split
        · exact hnext
        · refine leadsUp_append made ht fun e he => ?_
          cases s with
          | nil => simp at he
          | cons f s => exact hlast e (by rwa [List.getLast?_cons_cons])
      · exact hnext

/-- **The points behind the root's name** lead up to the root as they are counted off. -/
theorem leadsUp_points_iff (made : List String) (n : Nat) :
    leadsUp (made.map fun other => other.toList.reverse)
        (List.replicate n '.' ++ root.toList.reverse) = true ↔ Leads made n := by
  induction n using Nat.twoStepInduction with
  | zero =>
      have hroot : root.toList.reverse = ['g', 'o', 'l', 'm', 'i', 's'] := rfl
      exact iff_of_false (by simp [hroot, leadsUp]) (by rintro ⟨⟩)
  | one => exact iff_of_true rfl .single
  | more n ih ihnext =>
      have hroot : '.' :: (List.replicate n '.' ++ root.toList.reverse) ≠ root.toList.reverse := by
        intro heq
        have hlength := congrArg List.length heq
        rw [List.length_cons, List.length_append] at hlength
        omega
      have hcontains := contains_reversed_iff made (n + 1)
      rw [List.replicate_succ, List.cons_append] at hcontains ihnext
      rw [List.replicate_succ, List.replicate_succ, List.cons_append, List.cons_append, leadsUp,
        if_pos rfl, if_neg hroot]
      by_cases hmade : root ++ points (n + 1) ∈ made
      · rw [if_pos (hcontains.mpr hmade), ihnext]
        constructor
        · exact .near hmade
        · rintro (_ | ⟨-, hleads⟩ | ⟨hnot, -⟩)
          · exact hleads
          · exact absurd hmade hnot
      · rw [if_neg (hcontains.not.mpr hmade), ih]
        constructor
        · exact .far hmade
        · rintro (_ | ⟨hyes, -⟩ | ⟨-, hleads⟩)
          · exact absurd hyes hmade
          · exact hleads

end

/-! ### The loggers of the tree -/

/-- Every logger's name starts with that of the root. -/
theorem exists_tail_loggerName (name : String) :
    ∃ tail, (loggerName name).toList = root.toList ++ tail := by
  rw [loggerName]
  split
  · next hstarts => exact (List.isPrefixOf_iff_prefix.mp hstarts).imp fun _ h => h.symm
  · exact ⟨('.' :: name.toList), by simp [String.toList_append]⟩

/-- **The loggers of the tree** are the root and those that the points behind its name lead up to
it. -/
theorem inTree_loggerName_iff (made : List String) (name : String) :
    inTree made (loggerName name) = true ↔
      loggerName name = root ∨ Leads made (pointsBehind (loggerName name)) := by
  obtain ⟨tail, htail⟩ := exists_tail_loggerName name
  have hcount : pointsBehind (loggerName name) = (tail.takeWhile (· == '.')).length := by
    rw [pointsBehind, htail, ← String.length_toList, List.drop_left]
  rw [inTree, Bool.or_eq_true, beq_iff_eq, hcount]
  refine or_congr_right ?_
  have hpoints : tail.takeWhile (· == '.') =
      List.replicate (tail.takeWhile (· == '.')).length '.' :=
    List.eq_replicate_of_mem fun c hc => by
      simpa using List.all_eq_true.mp List.all_takeWhile c hc
  have hsplit : (loggerName name).toList.reverse = (tail.dropWhile (· == '.')).reverse ++
      (List.replicate (tail.takeWhile (· == '.')).length '.' ++ root.toList.reverse) := by
    rw [← List.reverse_replicate, ← hpoints, ← List.append_assoc, ← List.reverse_append,
      List.takeWhile_append_dropWhile, htail, List.reverse_append]
  rw [hsplit, leadsUp_append, leadsUp_points_iff]
  · rw [List.length_append, List.length_reverse, String.length_toList]
    omega
  · rw [List.getLast?_reverse]
    intro c hc
    have hhead := List.head?_dropWhile_not (· == '.') tail
    rw [Option.mem_def.mp hc] at hhead
    simpa using hhead

/-! ### What becomes of a record -/

/-- What is reported outside of the tree is not written. -/
theorem output_of_outside (diagnostics : Diagnostics) {made : List String} {notice : Notice}
    (time : String) (h : inTree made notice.source = false) :
    diagnostics.output made time notice = .ok "" := by
  rw [output, if_neg fun hreached => absurd hreached.2.2 (by simp [h])]

/-- **A record** that reaches the level chosen last is written once if its logger belongs to the
tree, whenever its level has a name, and short levels have one. Below that level nothing is written,
and outside of the tree nothing is either. Which loggers belong to the tree depends on the points
behind the root's name, and on the loggers named by the root's name and points alone. -/
theorem written_once_in_tree {levels : List Value} {n : Int} (hchosen : chosen? levels = some n)
    (hn : n ≠ 0) (diagnostics : Diagnostics) (made : List String) (time name message : String)
    (level : Int) :
    let source := loggerName name
    let notice : Notice := ⟨level, source, message⟩
    let written := (diagnostics.configureEach levels).output made time notice
    (level < n → written = .ok "") ∧
    (n ≤ level → inTree made source = true →
      written = (Level.name level).map (line time notice) ∧
      (Value.IsShort level → written = .ok (line time notice (Level.shown level)))) ∧
    (inTree made source = false → written = .ok "") ∧
    (inTree made source = true ↔ source = root ∨ Leads made (pointsBehind source)) ∧
    ((∀ k, root ++ points k ∉ made) →
      (inTree made source = true ↔ source = root ∨ pointsBehind source % 2 = 1)) := by
  intro source notice written
  have hpositive : 0 < n := lt_of_le_of_ne (nonneg_of_chosen? hchosen) (Ne.symm hn)
  have hconfigured : diagnostics.configureEach levels =
      { level := n, handlers := 1, propagate := false } := by
    rw [configureEach_eq, hchosen]
  have hwritten : written = if 0 < level ∧ n ≤ level ∧ inTree made source = true then
      (Level.name level).map (line time notice) else .ok "" := by
    simp only [written, hconfigured, output, effectiveLevel, if_neg hn]
    refine if_congr Iff.rfl ?_ rfl
    cases Level.name level with
    | error fault => rfl
    | ok shown => simp [bind, Except.bind, pure, Except.pure, Except.map, notice]
  refine ⟨fun hbelow => ?_, fun hreached hin => ?_, fun hout => ?_,
    inTree_loggerName_iff made name, fun hbare => ?_⟩
  · rw [hwritten, if_neg fun h => absurd h.2.1 (not_le.mpr hbelow)]
  · have honce : written = (Level.name level).map (line time notice) := by
      rw [hwritten, if_pos ⟨lt_of_lt_of_le hpositive hreached, hreached, hin⟩]
    refine ⟨honce, fun hshort => ?_⟩
    rw [honce, Level.name_of_isShort hshort]
    rfl
  · exact output_of_outside _ time hout
  · rw [inTree_loggerName_iff, leads_iff_odd hbare]

/-- A refused level between two that are taken does not change the one chosen last. -/
theorem written_once_in_tree_gate :
    let levels : List Value := [.text "debug", .text "basic_format", .text "Warning", .int 3]
    let notice : Notice := ⟨40, "simlog.gate", "closed"⟩
    chosen? levels = some 30 ∧ (30 : Int) ≠ 0 ∧ inTree [] "simlog.gate" = true ∧
    (({} : Diagnostics).configureEach levels).output [] "12:00" notice =
      .ok "12:00 | ERROR    | simlog.gate | closed\n" := by
  intro levels notice
  have hchosen : chosen? levels = some 30 := by decide +kernel
  have hin : inTree [] "simlog.gate" = true := by decide +kernel
  have hname : loggerName "gate" = "simlog.gate" := by decide +kernel
  obtain ⟨-, hwritten, -⟩ :=
    written_once_in_tree hchosen (by decide) {} [] "12:00" "gate" "closed" 40
  rw [hname] at hwritten
  refine ⟨hchosen, by decide, hin, ((hwritten (by decide) hin).2 ?_).trans ?_⟩
  · exact Value.isShort_of_lt (by decide)
  · cbv

/-- A name that goes on right behind that of the root keeps its logger out of the tree, and so does
one that starts with a point: what is reported there is not written. -/
theorem not_written_outside_tree :
    (({} : Diagnostics).configureEach [.text "INFO"]).output [] "12:00"
        ⟨20, loggerName "simlogx", "lost"⟩ = .ok "" ∧
    (({} : Diagnostics).configureEach [.text "INFO"]).output [] "12:00"
        ⟨20, loggerName ".x", "lost"⟩ = .ok "" := by
  have houtside (name : String) (h : ¬(loggerName name = root ∨
      pointsBehind (loggerName name) % 2 = 1)) : inTree [] (loggerName name) = false := by
    rw [← Bool.not_eq_true, inTree_loggerName_iff, leads_iff_odd (by simp)]
    exact h
  constructor
  · exact output_of_outside _ "12:00" (houtside "simlogx" (by decide +kernel))
  · exact output_of_outside _ "12:00" (houtside ".x" (by decide +kernel))

end TraceLog.Diagnostics
