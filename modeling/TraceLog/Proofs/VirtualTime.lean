import Mathlib.Data.List.Chain
import TraceLog.Proofs.Run

/-!
# Virtual Time Along a Run

A manual clock refuses to go back: it compares the time it is asked for with the one it shows, and
with nothing else. Numbers are in a total order, so that what holds of neighbours holds of a whole
run, but nothing is below or above a time that is not a number. Such a time is taken, and so is any
number behind it. Hence the time that a clock shows goes back over a time that is not a number, and
never otherwise.

## Main results

* `Number.Binary64.lt_or_lt_of_lt`: a number splits what is below another.
* `Session.moves_step`: a call that moves the clock.
* `Session.goes_back_only_over_nan`: the readings of a run of such calls.
-/

namespace TraceLog

open Number

/-! ### Times in a row -/

namespace Number.Binary64

variable {x y z : Binary64}

/-- Of two numbers in order, every third one is above the first or below the second. -/
theorem lt_or_lt_of_lt (h : lt x z = true) (hy : y ≠ .nan) : lt x y = true ∨ lt y z = true := by
  cases y with
  | nan => exact absurd rfl hy
  | infinite negative =>
      cases negative with
      | false => cases x <;> cases z <;> simp_all [lt]
      | true => cases x <;> cases z <;> simp_all [lt]
  | finite negative units =>
      cases x <;> cases z <;> simp_all [lt]
      omega

/-- None of these times is below the one in front of it. -/
def InOrder (times : List Binary64) : Prop :=
  times.IsChain fun earlier later => later.lt earlier = false

/-- Of times that are in order with their neighbours, a later one is below an earlier one only if
one in between is not a number. -/
theorem InOrder.exists_nan {times : List Binary64} (h : InOrder times) {i distance : Nat}
    {earlier later : Binary64} (hi : times[i]? = some earlier)
    (hj : times[i + 1 + distance]? = some later) (hlt : later.lt earlier = true) :
    ∃ k, i < k ∧ k < i + 1 + distance ∧ times[k]? = some .nan := by
  -- the time behind the earlier one takes its place, unless it is not a number
  induction distance generalizing i earlier with
  | zero =>
      obtain ⟨hlength, rfl⟩ := List.getElem?_eq_some_iff.mp hj
      obtain ⟨_, rfl⟩ := List.getElem?_eq_some_iff.mp hi
      have hnext := List.isChain_iff_getElem.mp h i hlength
      simp only [Nat.add_zero] at hlt
      rw [hnext] at hlt
      simp at hlt
  | succ distance ih =>
      obtain ⟨hlength, -⟩ := List.getElem?_eq_some_iff.mp hj
      obtain ⟨_, hearlier⟩ := List.getElem?_eq_some_iff.mp hi
      have hthere : i + 1 < times.length := by omega
      have hnext := List.isChain_iff_getElem.mp h i hthere
      rw [hearlier] at hnext
      by_cases hnan : times[i + 1] = .nan
      · exact ⟨i + 1, by omega, by omega, List.getElem?_eq_some_iff.mpr ⟨hthere, hnan⟩⟩
      · rcases lt_or_lt_of_lt hlt hnan with hlt' | hback
        · rw [← Nat.add_assoc, Nat.add_right_comm] at hj
          obtain ⟨k, hik, hkj, hk⟩ := ih (List.getElem?_eq_getElem hthere) hj hlt'
          exact ⟨k, by omega, by omega, hk⟩
        · rw [hnext] at hback
          simp at hback

end Number.Binary64

/-! ### Moves of the clock -/

/-- Where a step asks a clock that shows `time` to go, if it asks the clock to move. -/
def Step.target? (time : Binary64) : Step → Option (Except Fault Binary64)
  | .setClock value => some value.toReal
  | .advanceClock delta => some (delta.addTo time)
  | _ => none

/-- A step that asks the clock to move. -/
def Step.movesClock : Step → Bool
  | .setClock _ | .advanceClock _ => true
  | _ => false

/-- How a call ends that asks a clock that shows `time` to move, and what the clock shows then. -/
inductive Step.Moves (time : Binary64) : Step → StepEnd → Binary64 → Prop
  /-- The clock was set to the time that is asked for. -/
  | set {value : Value} {next : Binary64} : value.toReal = .ok next → next.lt time = false →
      Moves time (.setClock value) (.answered .nothing) next
  /-- The clock was advanced, and its new time is returned. -/
  | advanced {delta : Value} {next : Binary64} : delta.addTo time = .ok next →
      next.lt time = false →
      Moves time (.advanceClock delta) (.answered (.value (.real next))) next
  /-- What is asked for is no time. -/
  | unread {step : Step} {fault : Fault} : step.target? time = some (.error fault) →
      Moves time step (.raised fault) time
  /-- What is asked for is before the time. -/
  | refused {step : Step} {next : Binary64} : step.target? time = some (.ok next) →
      next.lt time = true →
      Moves time step (.raised (.timeBackwards next.shortText time.shortText)) time

/-- No move ends at a time below the one that the clock showed. -/
theorem Step.Moves.not_lt {step : Step} {ending : StepEnd} {time next : Binary64}
    (h : step.Moves time ending next) : next.lt time = false := by
  cases h with
  | set _ hnext => exact hnext
  | advanced _ hnext => exact hnext
  | unread => exact Binary64.lt_irrefl time
  | refused => exact Binary64.lt_irrefl time

/-- The course of a run of moves from this time on: how each call ends, and what the clock shows
behind it. -/
inductive Course : Binary64 → List Step → List StepEnd → List Binary64 → Prop
  | nil {time : Binary64} : Course time [] [] []
  | cons {time next : Binary64} {step : Step} {ending : StepEnd} {steps : List Step}
      {endings : List StepEnd} {times : List Binary64} : step.Moves time ending next →
      Course next steps endings times →
      Course time (step :: steps) (ending :: endings) (next :: times)

/-- No time of a course is below the one in front of it. -/
theorem Course.inOrder {time : Binary64} {steps : List Step} {endings : List StepEnd}
    {times : List Binary64} (h : Course time steps endings times) :
    Binary64.InOrder (time :: times) := by
  induction h with
  | nil => exact List.isChain_singleton _
  | cons hmoves _ ih => exact List.isChain_cons_cons.mpr ⟨hmoves.not_lt, ih⟩

/-! ### Runs -/

namespace Session

variable {session : Session} {time : Binary64} {count : Nat} {step : Step} {steps : List Step}

/-- What the host's clock shows when it is read: before a run, and behind each of its steps. -/
def readings (session : Session) (steps : List Step) : List (Option (Except Fault Value)) :=
  (session :: (session.run steps).map Prod.fst).map fun state =>
    state.scene.clock.map fun clock => clock.read.1

/-- A move of a manual clock to a target: there is none, it is before the time, or it is the time
that the clock shows then. -/
theorem moves_moveClock {target : Except Fault Binary64} {move : Clock → Except Fault Clock}
    {answer : Clock → Answer} (hclock : session.scene.clock = some ⟨.manual time, count⟩)
    (htarget : step.target? time = some target)
    (hmove : move ⟨.manual time, count⟩ = target >>= (⟨.manual time, count⟩ : Clock).moveTo time)
    (hmoved : ∀ next, target = .ok next → next.lt time = false →
      step.Moves time (.answered (answer ⟨.manual next, count⟩)) next) (name : String) :
    ∃ next, step.Moves time (session.moveClock name move answer).2 next ∧
      (session.moveClock name move answer).1.scene.clock = some ⟨.manual next, count⟩ ∧
      (session.moveClock name move answer).2.goesOn = true := by
  rcases target with fault | next
  · have hfailed : move ⟨.manual time, count⟩ = .error fault := hmove
    simp only [moveClock, hclock, hfailed]
    exact ⟨time, .unread htarget, rfl, rfl⟩
  · have hasked : move ⟨.manual time, count⟩ =
        (⟨.manual time, count⟩ : Clock).moveTo time next := hmove
    rcases hback : next.lt time with - | -
    · simp only [moveClock, hclock, hasked, Clock.moveTo, hback]
      exact ⟨next, hmoved next rfl hback, rfl, rfl⟩
    · simp only [moveClock, hclock, hasked, Clock.moveTo, hback, if_true]
      exact ⟨time, .refused htarget hback, rfl, rfl⟩

/-- **A call that asks a manual clock to move** leaves a manual clock, and goes on. -/
theorem moves_step (hclock : session.scene.clock = some ⟨.manual time, count⟩)
    (hmoves : step.movesClock = true) :
    ∃ next, step.Moves time (session.step step).2 next ∧
      (session.step step).1.scene.clock = some ⟨.manual next, count⟩ ∧
      (session.step step).2.goesOn = true := by
  cases step with
  | setClock value => exact moves_moveClock hclock rfl rfl (fun _ => .set) "set"
  | advanceClock delta => exact moves_moveClock hclock rfl rfl (fun _ => .advanced) "advance"
  | _ => simp [Step.movesClock] at hmoves

/-- **A run of moves has a course**, and its times are what the clock shows. -/
theorem course_run (hclock : session.scene.clock = some ⟨.manual time, count⟩)
    (hmoves : ∀ step ∈ steps, step.movesClock = true) :
    ∃ times, Course time steps ((session.run steps).map Prod.snd) times ∧
      session.readings steps = (time :: times).map fun time => some (.ok (.real time)) := by
  induction steps generalizing session time with
  | nil => exact ⟨[], .nil, by simp [Session.readings, hclock]⟩
  | cons step steps ih =>
      obtain ⟨hfirst, hrest⟩ := List.forall_mem_cons.mp hmoves
      obtain ⟨next, hstep, hnext, hgoes⟩ := moves_step hclock hfirst
      obtain ⟨times, hcourse, hreadings⟩ := ih hnext hrest
      refine ⟨next :: times, ?_, ?_⟩
      · rw [run_cons hgoes, List.map_cons]
        exact .cons hstep hcourse
      · have htail : session.readings (step :: steps) =
            some (.ok (.real time)) :: (session.step step).1.readings steps := by
          simp only [Session.readings, run_cons hgoes, List.map_cons, hclock, Option.map_some,
            Clock.read_manual]
        rw [htail, hreadings]
        rfl

/-- **The clock goes back over a time that is not a number, and never otherwise.** Take a manual
clock with any start, and any run of calls that set or advance it to any values.

* Each call either sets the clock to the time that is asked for, or to the one that is returned, or
  it raises a fault and leaves the time as it was.
* A later reading is below an earlier one only if a reading in between is not a number. -/
theorem goes_back_only_over_nan {start : Value} {clock : Clock}
    (hstart : Clock.startingAt start = .ok clock) (hclock : session.scene.clock = some clock)
    (hmoves : ∀ step ∈ steps, step.movesClock = true) :
    ∃ first times, start.toReal = .ok first ∧
      session.readings steps = (first :: times).map (fun time => some (.ok (.real time))) ∧
      Course first steps ((session.run steps).map Prod.snd) times ∧
      ∀ (i j : Nat) (earlier later : Binary64), i < j → (first :: times)[i]? = some earlier →
        (first :: times)[j]? = some later → later.lt earlier = true →
        ∃ k, i < k ∧ k < j ∧ (first :: times)[k]? = some .nan := by
  rcases hread : start.toReal with fault | first
  · simp [Clock.startingAt, hread, Except.map] at hstart
  · simp only [Clock.startingAt, hread, Except.map, Except.ok.injEq] at hstart
    subst hstart
    obtain ⟨times, hcourse, hreadings⟩ := course_run hclock hmoves
    refine ⟨first, times, rfl, hreadings, hcourse, fun i j earlier later hij hi hj hlt => ?_⟩
    obtain ⟨distance, rfl⟩ := Nat.exists_eq_add_of_le (Nat.succ_le_of_lt hij)
    exact hcourse.inOrder.exists_nan hi hj hlt

/-- A clock at five that refuses to be set to one, and takes it behind a time that is not a
number. -/
theorem goes_back_only_over_nan_of_reset :
    let five : Binary64 := .finite false (5 * Binary64.unitsPerOne)
    let one : Binary64 := .finite false Binary64.unitsPerOne
    let session : Session := { scene := { clock := some (Clock.manual five) } }
    let steps : List Step := [.setClock (.real one), .setClock (.real .nan), .setClock (.real one)]
    one.lt five = true ∧ (session.readings steps)[1]? = some (some (.ok (.real five))) ∧
      (session.readings steps)[3]? = some (some (.ok (.real one))) ∧
      ∃ k, 1 < k ∧ k < 3 ∧ (session.readings steps)[k]? = some (some (.ok (.real .nan))) := by
  intro five one session steps
  have hback : one.lt five = true := by decide +kernel
  have hmoves : ∀ step ∈ steps, step.movesClock = true := by
    simp [steps, Step.movesClock]
  have hstart : Clock.startingAt (.real five) = .ok (Clock.manual five) := rfl
  have hclock : session.scene.clock = some (Clock.manual five) := rfl
  obtain ⟨first, times, -, hreadings, -, hbetween⟩ :=
    goes_back_only_over_nan hstart hclock hmoves
  have hshown : session.readings steps = [some (.ok (.real five)), some (.ok (.real five)),
      some (.ok (.real .nan)), some (.ok (.real one))] := by
    simp only [Session.readings, run, steps, Session.step, session, moveClock, Clock.manual,
      Clock.set, Value.toReal_real, bind, Except.bind, Clock.moveTo, hback, if_true]
    rfl
  have hinjective : Function.Injective fun time : Binary64 =>
      (some (.ok (.real time)) : Option (Except Fault Value)) := fun _ _ h => by simpa using h
  have htimes : first :: times = [five, five, .nan, one] :=
    List.map_injective_iff.mpr hinjective (hreadings.symm.trans hshown)
  rw [htimes] at hbetween
  obtain ⟨k, hlow, hhigh, hnan⟩ := hbetween 1 3 five one (by decide) rfl rfl hback
  refine ⟨hback, by rw [hshown]; rfl, by rw [hshown]; rfl, k, hlow, hhigh, ?_⟩
  rw [hreadings, List.getElem?_map, htimes, hnan]
  rfl

/-- A clock that is set from five to a time that is not a number, and then to one: both calls
succeed, and the last reading is below the first. -/
theorem time_goes_back :
    let five : Binary64 := .finite false (5 * Binary64.unitsPerOne)
    let one : Binary64 := .finite false Binary64.unitsPerOne
    let session : Session := { scene := { clock := some (Clock.manual five) } }
    let steps : List Step := [.setClock (.real .nan), .setClock (.real one)]
    Clock.startingAt (.real five) = .ok (Clock.manual five) ∧
      (session.run steps).map Prod.snd = [.answered .nothing, .answered .nothing] ∧
      session.readings steps =
        [some (.ok (.real five)), some (.ok (.real .nan)), some (.ok (.real one))] ∧
      one.lt five = true := by
  refine ⟨rfl, rfl, rfl, ?_⟩
  decide +kernel

end Session

end TraceLog
