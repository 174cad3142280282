import Mathlib.Data.List.Induction
import TraceLog.Proofs.LoggerTree

/-!
# Configuring the Root Again

A configuration makes several updates to one logger, and a fault between two of them would leave
the logger half configured: with a new level and the old handler, with no handler at all, or with
two of them. The order of the updates rules this out. Only setting the level can fail, and it comes
first (`RootLogger.applyAll_eq_self_of_fault`). So a call either does everything or changes nothing,
whatever the logger was like before.

Calls come one after the other. Each makes a handler of its own, and the handlers are told apart by
the numbers of the calls, so that "the handler is as it was" means the same handler and not only one
handler still.

## Main results

* `refusal?_eq_none_iff_text`: which calls return.
* `RootLogger.call_eq_self_of_fault`, `RootLogger.call_of_ok`: a call that raises, and one that
  returns.
* `RootLogger.configure_counted`: with the handlers counted, a call is `Diagnostics.configure`.
* `Calls.configured_by_last_return`: the logger after any number of calls.
-/

namespace TraceLog.Diagnostics

variable {level : Value} {n : Int} {fault : Fault}

/-! ### What a value names -/

/-- The level that a value chooses is what it names, if that is a level. -/
theorem levelOf_eq (level : Value) : levelOf level = (lookUp level).bind Named.toLevel := by
  cases level with
  | text s =>
      simp only [levelOf, lookUp, Except.bind]
      cases facility.find? (String.ofList (Text.capitals s.toList)) with
      | none => rfl
      | some named => cases named <;> rfl
  | _ => rfl

/-- A text that is, in capitals, a name of the facility chooses what is a level under that name. -/
theorem levelOf_of_find? {s : String} (named : Named)
    (h : facility.find? (String.ofList (Text.capitals s.toList)) = some named) :
    levelOf (.text s) = named.toLevel := by
  rw [levelOf_eq, lookUp, h]
  rfl

/-- The fault of a call with this value, if it raises. -/
def refusal? (level : Value) : Option Fault :=
  match levelOf level with
  | .ok _ => none
  | .error fault => some fault

/-- A level is not refused exactly if it has a number. -/
theorem refusal?_eq_none_iff : refusal? level = none ↔ ∃ n, levelOf level = .ok n := by
  rw [refusal?]
  cases levelOf level <;> simp

/-- **A call returns** exactly if its value is a text that is not, in capitals, one of the two names
which the facility has for something else. -/
theorem refusal?_eq_none_iff_text : refusal? level = none ↔
    ∃ s, level = .text s ∧
      String.ofList (Text.capitals s.toList) ∉ ["BASIC_FORMAT", "_STYLES"] := by
  rw [refusal?_eq_none_iff]
  cases level with
  | text s =>
      simp only [levelOf_eq, lookUp, Except.bind, Value.text.injEq, exists_eq_left']
      generalize String.ofList (Text.capitals s.toList) = name
      rcases hfound : facility.find? name with - | named
      · have hnot : name ∉ ["BASIC_FORMAT", "_STYLES"] := by
          intro hmem
          obtain rfl | rfl : name = "BASIC_FORMAT" ∨ name = "_STYLES" := by simpa using hmem
          · exact absurd hfound (by decide +kernel)
          · exact absurd hfound (by decide +kernel)
        exact iff_of_true ⟨_, rfl⟩ hnot
      · have hall : ∀ entry ∈ facility,
            (∃ n, entry.2.toLevel = .ok n) ↔ entry.1 ∉ ["BASIC_FORMAT", "_STYLES"] := by
          simp [facility, Named.toLevel]
        exact hall _ (Table.mem_of_find? hfound)
  | _ => simp [levelOf]

/-- Only a level is taken for one. -/
theorem Named.toLevel_eq_ok_iff {named : Named} : named.toLevel = .ok n ↔ named = .level n := by
  cases named <;> simp [Named.toLevel]

/-- A value that chooses a level names it. -/
theorem lookUp_of_levelOf (h : levelOf level = .ok n) : lookUp level = .ok (.level n) := by
  rw [levelOf_eq] at h
  rcases hnamed : lookUp level with refused | named
  · simp [hnamed, Except.bind] at h
  · rw [hnamed] at h
    rw [Named.toLevel_eq_ok_iff.mp h]

namespace RootLogger

variable {logger : RootLogger} {update : Update} {updates : List Update} {handler : Nat}

/-! ### Updates -/

/-- An update that sets no level does not fail. -/
theorem apply_ok (hlevel : ∀ named, update ≠ .setLevel named) (logger : RootLogger) :
    ∃ next, logger.apply update = .ok next := by
  cases update with
  | setLevel named => exact absurd rfl (hlevel named)
  | clearHandlers => exact ⟨_, rfl⟩
  | addHandler handler =>
      rw [apply]
      split
      · exact ⟨_, rfl⟩
      · exact ⟨_, rfl⟩
  | endPropagation => exact ⟨_, rfl⟩

/-- Updates that set no level do not fail one after the other. -/
theorem fault_applyAll (hlevel : ∀ update ∈ updates, ∀ named, update ≠ .setLevel named)
    (logger : RootLogger) : (logger.applyAll updates).2 = none := by
  induction updates generalizing logger with
  | nil => rfl
  | cons update updates ih =>
      obtain ⟨hfirst, hrest⟩ := List.forall_mem_cons.mp hlevel
      obtain ⟨next, hnext⟩ := apply_ok hfirst logger
      simp only [applyAll, hnext]
      exact ih hrest next

/-- **All or nothing**: where only the first update may set a level, a fault leaves the logger as it
was. -/
theorem applyAll_eq_self_of_fault (hlevel : ∀ update ∈ updates, ∀ named, update ≠ .setLevel named)
    (hfault : (logger.applyAll (update :: updates)).2 = some fault) :
    (logger.applyAll (update :: updates)).1 = logger := by
  rcases hfirst : logger.apply update with refused | next
  · simp only [applyAll, hfirst]
  · simp only [applyAll, hfirst, fault_applyAll hlevel] at hfault
    simp at hfault

/-- With the level set later, a refused one leaves the logger without a handler. -/
example : ({ level := 20, handlers := [0], propagate := false } : RootLogger).applyAll
    [.clearHandlers, .setLevel (.text "%s"), .addHandler 1, .endPropagation] =
      ({ level := 20, handlers := [], propagate := false },
        some (.unknownDiagnosticLevel "%s")) := rfl

/-! ### One call -/

/-- Whether a call raises, and what, depends on its value alone. -/
theorem fault_call (logger : RootLogger) (handler : Nat) (level : Value) :
    (logger.call handler level).2 = refusal? level := by
  rw [refusal?, levelOf_eq, call]
  rcases lookUp level with refused | named
  · rfl
  · cases named <;> rfl

/-- A call that raises leaves the logger as it was. -/
theorem call_eq_self_of_fault (hfault : (logger.call handler level).2 = some fault) :
    (logger.call handler level).1 = logger := by
  rcases hnamed : lookUp level with refused | named
  · simp only [call, hnamed]
  · simp only [call, hnamed] at hfault ⊢
    exact applyAll_eq_self_of_fault (by simp) hfault

/-- A call with a level that is refused changes nothing. -/
theorem call_of_error (h : levelOf level = .error fault) (logger : RootLogger) (handler : Nat) :
    logger.call handler level = (logger, some fault) := by
  have hfault : (logger.call handler level).2 = some fault := by
    rw [fault_call, refusal?, h]
  exact Prod.ext (call_eq_self_of_fault hfault) hfault

/-- **A call that returns** sets everything, whatever the logger was like before. -/
theorem call_of_ok (h : levelOf level = .ok n) (logger : RootLogger) (handler : Nat) :
    logger.call handler level =
      ({ level := n, handlers := [handler], propagate := false }, none) := by
  rw [call, lookUp_of_levelOf h]
  rfl

/-- With the handlers counted, a call is a configuration of the diagnostics. -/
theorem configure_counted (logger : RootLogger) (handler : Nat) (level : Value) :
    logger.counted.configure level =
      match logger.call handler level with
      | (next, none) => .ok next.counted
      | (_, some fault) => .error fault := by
  rcases hlevel : levelOf level with fault | n
  · rw [call_of_error hlevel, configure, hlevel]
    rfl
  · rw [call_of_ok hlevel, configure, hlevel]
    rfl

end RootLogger

/-! ### Calls one after the other -/

/-- What calls one after the other leave: the logger, and for each call its fault if it raised. -/
structure Calls where
  logger : RootLogger := {}
  faults : List (Option Fault) := []

namespace Calls

/-- One more call. Its handler bears the number of calls before it. -/
def next (calls : Calls) (level : Value) : Calls :=
  let (logger, fault?) := calls.logger.call calls.faults.length level
  { logger, faults := calls.faults ++ [fault?] }

/-- Calls with these values, from the start. -/
def ofLevels (levels : List Value) : Calls :=
  levels.foldl next {}

/-- A call that is refused leaves the logger to the earlier ones. -/
theorem next_of_error (h : levelOf level = .error fault) (calls : Calls) :
    calls.next level = { calls with faults := calls.faults ++ [some fault] } := by
  rw [next, RootLogger.call_of_error h]

/-- A call that is not refused sets its level, and has the only handler. -/
theorem next_of_ok (h : levelOf level = .ok n) (calls : Calls) :
    calls.next level =
      { logger := { level := n, handlers := [calls.faults.length], propagate := false }
        faults := calls.faults ++ [none] } := by
  rw [next, RootLogger.call_of_ok h]

/-- Calls with levels are made one after the other. -/
theorem ofLevels_concat (levels : List Value) (level : Value) :
    ofLevels (levels ++ [level]) = (ofLevels levels).next level := by
  rw [ofLevels, List.foldl_append]
  rfl

/-- Which calls raise depends on their values alone. -/
theorem faults_ofLevels (levels : List Value) :
    (ofLevels levels).faults = levels.map refusal? := by
  induction levels using List.reverseRecOn with
  | nil => rfl
  | append_singleton levels level ih =>
      rw [ofLevels_concat, List.map_append, ← ih, List.map_singleton,
        ← RootLogger.fault_call (ofLevels levels).logger (ofLevels levels).faults.length]
      rfl

/-- There is an outcome of each call. -/
theorem length_faults_ofLevels (levels : List Value) :
    (ofLevels levels).faults.length = levels.length := by
  rw [faults_ofLevels, List.length_map]

/-- As long as all calls have raised, the logger is as at the start. -/
theorem logger_of_all_raised {levels : List Value} (h : none ∉ (ofLevels levels).faults) :
    (ofLevels levels).logger = {} := by
  induction levels using List.reverseRecOn with
  | nil => rfl
  | append_singleton levels level ih =>
      rw [ofLevels_concat] at h ⊢
      rcases hlevel : levelOf level with fault | n
      · rw [next_of_error hlevel] at h ⊢
        exact ih fun hearlier => h (List.mem_append_left _ hearlier)
      · rw [next_of_ok hlevel] at h
        exact absurd (List.mem_append_right _ (List.mem_singleton_self _)) h

/-- Once a call has returned, the logger is as the last such call left it. -/
theorem logger_of_last_return {levels : List Value} {front back : List (Option Fault)}
    (hsplit : (ofLevels levels).faults = front ++ none :: back) (hback : none ∉ back) :
    ∃ level n, levels[front.length]? = some level ∧ levelOf level = .ok n ∧
      (ofLevels levels).logger =
        { level := n, handlers := [front.length], propagate := false } := by
  induction levels using List.reverseRecOn generalizing back with
  | nil => simp [ofLevels] at hsplit
  | append_singleton levels level ih =>
      rw [ofLevels_concat] at hsplit ⊢
      rcases hlevel : levelOf level with fault | n
      · -- the call that returned last is one of those before
        rw [next_of_error hlevel] at hsplit ⊢
        rcases List.eq_nil_or_concat back with rfl | ⟨back, last, rfl⟩
        · exact absurd (List.append_inj' hsplit rfl).2 (by simp)
        · rw [List.concat_eq_append] at hsplit hback
          rw [← List.cons_append, ← List.append_assoc] at hsplit
          obtain ⟨hearlier, -⟩ := List.append_inj' hsplit rfl
          obtain ⟨level', m, hthere, hm, hlogger⟩ :=
            ih hearlier fun hmem => hback (List.mem_append_left _ hmem)
          obtain ⟨hlength, -⟩ := List.getElem?_eq_some_iff.mp hthere
          exact ⟨level', m, by rw [List.getElem?_append_left hlength, hthere], hm, hlogger⟩
      · -- this is the call that returned last
        rw [next_of_ok hlevel] at hsplit ⊢
        rcases List.eq_nil_or_concat back with rfl | ⟨back, last, rfl⟩
        · obtain ⟨hfront, -⟩ := List.append_inj' hsplit rfl
          have hlength : levels.length = front.length := by
            rw [← hfront, length_faults_ofLevels]
          refine ⟨level, n, ?_, hlevel, by rw [hfront]⟩
          rw [← hlength, List.getElem?_concat_length]
        · rw [List.concat_eq_append] at hsplit hback
          rw [← List.cons_append, ← List.append_assoc] at hsplit
          obtain ⟨-, hlast⟩ := List.append_inj' hsplit rfl
          exact absurd (List.mem_append_right _ (hlast ▸ List.mem_singleton_self _)) hback

/-- With the handlers counted, calls one after the other are configurations one after the other. -/
theorem counted_foldl_next (calls : Calls) (levels : List Value) :
    (levels.foldl next calls).logger.counted = calls.logger.counted.configureEach levels := by
  induction levels generalizing calls with
  | nil => rfl
  | cons level levels ih =>
      rw [List.foldl_cons, ih, configureEach, RootLogger.configure_counted _ calls.faults.length]
      rcases hlevel : levelOf level with fault | n
      · rw [RootLogger.call_of_error hlevel, next_of_error hlevel]
      · rw [RootLogger.call_of_ok hlevel, next_of_ok hlevel]

/-- **The root of the tree after calls one after the other.** Until a call returns it has no
handler and the level zero, and hands records on. From then on it has exactly one handler, that of
the last call that returned, has the level which that call chose, and hands nothing on. A call that
raises, on whatever logger, leaves it as it is. A call returns exactly if its value is a text that
is not, in capitals, one of two names. With the handlers counted all this is what configurations
one after the other come to. -/
theorem configured_by_last_return (levels : List Value) :
    let after := ofLevels levels
    (none ∉ after.faults →
      after.logger = { level := 0, handlers := [], propagate := true }) ∧
    (∀ front back, after.faults = front ++ none :: back → none ∉ back →
      ∃ level n, levels[front.length]? = some level ∧ levelOf level = .ok n ∧
        after.logger = { level := n, handlers := [front.length], propagate := false }) ∧
    (∀ (logger : RootLogger) (handler : Nat) (level : Value) (fault : Fault),
      (logger.call handler level).2 = some fault → (logger.call handler level).1 = logger) ∧
    (∀ (k : Nat) (level : Value), levels[k]? = some level →
      (after.faults[k]? = some none ↔ ∃ s, level = .text s ∧
        String.ofList (Text.capitals s.toList) ∉ ["BASIC_FORMAT", "_STYLES"])) ∧
    after.logger.counted = ({} : Diagnostics).configureEach levels := by
  intro after
  refine ⟨logger_of_all_raised, fun _ _ => logger_of_last_return,
    fun _ _ _ _ => RootLogger.call_eq_self_of_fault, fun k level hlevel => ?_,
    counted_foldl_next {} levels⟩
  rw [faults_ofLevels, List.getElem?_map, hlevel, Option.map_some, Option.some.injEq,
    refusal?_eq_none_iff_text]

/-- Among calls that raise the third and the fifth return: at first there is nothing, and in the end
there is what the fifth call set. -/
theorem configured_by_last_return_among_refusals :
    let levels : List Value :=
      [.int 3, .text "basic_format", .text "debug", .null, .text "Warning", .bytes [73]]
    let front : List (Option Fault) := [some (.noAttribute "int" "upper"),
      some (.unknownDiagnosticLevel "%(levelname)s:%(name)s:%(message)s"), none,
      some (.noAttribute "NoneType" "upper")]
    let back : List (Option Fault) := [some (.attributeNotText "bytes")]
    let start := ofLevels (levels.take 2)
    let after := ofLevels levels
    none ∉ start.faults ∧ start.logger = { level := 0, handlers := [], propagate := true } ∧
    after.faults = front ++ none :: back ∧ none ∉ back ∧
    after.logger = { level := 30, handlers := [4], propagate := false } := by
  intro levels front back start after
  have hformat : levelOf (.text "basic_format") =
      .error (.unknownDiagnosticLevel "%(levelname)s:%(name)s:%(message)s") :=
    levelOf_of_find? (.text "%(levelname)s:%(name)s:%(message)s") (by decide +kernel)
  have hdebug : levelOf (.text "debug") = .ok 10 :=
    levelOf_of_find? (.level 10) (by decide +kernel)
  have hwarning : levelOf (.text "Warning") = .ok 30 :=
    levelOf_of_find? (.level 30) (by decide +kernel)
  have hstart : start.faults = front.take 2 := by
    simp only [start, levels, front, faults_ofLevels, List.take_succ_cons, List.take_zero,
      List.map_cons, List.map_nil, refusal?, hformat]
    rfl
  have hsplit : after.faults = front ++ none :: back := by
    simp only [after, levels, front, faults_ofLevels, List.map_cons, List.map_nil, refusal?,
      hformat, hdebug, hwarning]
    rfl
  have hnone : none ∉ start.faults := by simp [hstart, front]
  have hback : none ∉ back := by simp [back]
  obtain ⟨hunset, -⟩ := configured_by_last_return (levels.take 2)
  obtain ⟨-, hreturned, -⟩ := configured_by_last_return levels
  obtain ⟨level, n, hlevel, hn, hlogger⟩ := hreturned front back hsplit hback
  obtain rfl : .text "Warning" = level := Option.some.inj hlevel
  obtain rfl : 30 = n := Except.ok.inj (hwarning.symm.trans hn)
  exact ⟨hnone, hunset hnone, hsplit, hback, hlogger⟩

end Calls

end TraceLog.Diagnostics
