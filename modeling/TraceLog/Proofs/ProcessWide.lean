import TraceLog.Proofs.Attempt

/-!
# The Gate of the Process

The functions that configure the process and give its logger behave as one gate, although the gate
is built anew by each configuration until one succeeds: before that a call does what it does on a
gate of its own, which has the collaborators that this very call passes (`ProcessGate.own`), and
nothing of earlier calls; afterwards all calls give the logger that the first success committed.

A call of a process is described with the scene that it finds, whatever happened in between. A
call that gives an argument twice cannot be made (`ProcessGate.repeated?`). But what a call hands
on to the gate can name the gate itself, which it gets already. Such a call fails even when the
process has its logger, so that not all arguments are ignored then.

## Main results

* `ProcessGate.invoke_of_unconfigured`, `ProcessGate.invoke_eq_of_committed`: a call before and
  after the first success.
* `ProcessGate.behaves_as_one_gate`: sequences of calls.
-/

namespace TraceLog

/-- A call of the functions of the process: a configuration with the scene that it finds, or a
request for the logger. -/
inductive ProcessCall where
  | configure (passed : Passed) (call : Invocation) (scene : Scene)
  | current

/-- A call that gives no long integer for a level. -/
def ProcessCall.GivesShortLevels : ProcessCall → Prop
  | .configure _ call _ =>
    (∀ given, call.options = some given → given.HasShortLevel) ∧
      Options.GiveShortLevels call.named
  | .current => True

/-- Whether an invocation names the gate as an argument. -/
def Invocation.namesGate (call : Invocation) : Bool :=
  List.any call.named fun argument => argument.1 == "self"

namespace ProcessGate

variable {platform : Platform} {gate : Gate} {gate? : Option Gate} {logger : Logger}
  {passed : Passed} {call : Invocation} {fault : Fault}

/-! ### One call -/

/-- The fault of a call that gives an argument twice. -/
def repeated? (passed : Passed) (call : Invocation) : Option Fault :=
  match List.find? (fun argument => passed.names.contains argument.1) call.named with
  | some argument => some (.repeatedName "simlog.gate.configure" argument.1)
  | none => call.collision? "configure" []

/-- A gate of a call's own, with the collaborators that the call passes. -/
def own (passed : Passed) (call : Invocation) : Gate where
  clock := (passed.orNamed call.named).clock.getD .absent
  hostLogger := (passed.orNamed call.named).hostLogger.getD .absent
  policy := (passed.orNamed call.named).policy.getD .abort

/-- What a call hands on to a gate: the options, and the arguments that are no collaborators. -/
def rest (call : Invocation) : Invocation :=
  { call with named := call.overrides (parameters.drop 1) }

/-- A call that gives an argument twice does not reach a gate. -/
theorem invoke_of_repeated (h : repeated? passed call = some fault) (platform : Platform)
    (gate? : Option Gate) (scene : Scene) :
    invoke platform gate? passed call scene =
      { gate := gate?.getD {}, scene, raised := some fault } := by
  rcases hfind : List.find? (fun argument => passed.names.contains argument.1) call.named with
    - | argument
  · simp only [repeated?, hfind] at h
    simp only [invoke, hfind, h]
  · simp only [repeated?, hfind, Option.some.injEq] at h
    simp only [invoke, hfind, h]

/-- A call that gives no argument twice neither names what is passed nor gives options twice. -/
theorem of_repeated?_eq_none (h : repeated? passed call = none) :
    List.find? (fun argument => passed.names.contains argument.1) call.named = none ∧
      call.collision? "configure" [] = none := by
  rcases hfind : List.find? (fun argument => passed.names.contains argument.1) call.named with
    - | argument
  · simp only [repeated?, hfind] at h
    exact ⟨hfind, h⟩
  · simp only [repeated?, hfind, reduceCtorEq] at h

/-- Any other call is handed on to the gate until now, or to one of its own. -/
theorem invoke_of_not_repeated (h : repeated? passed call = none) (platform : Platform)
    (gate? : Option Gate) (scene : Scene) :
    invoke platform gate? passed call scene =
      (gateFor gate? (own passed call).clock (own passed call).hostLogger
        (own passed call).policy).invoke platform (rest call) scene := by
  obtain ⟨hfind, hcollision⟩ := of_repeated?_eq_none h
  simp only [invoke, hfind, hcollision]
  rfl

/-- There is no gate yet, or one without a logger. -/
def Unconfigured (gate? : Option Gate) : Prop :=
  ∀ gate, gate? = some gate → gate.committed = none

/-- Where there is no gate nothing is configured. -/
theorem unconfigured_none : Unconfigured none := by
  intro gate hgate
  simp at hgate

/-- Nor is it by a gate that has not committed. -/
theorem unconfigured_some (h : gate.committed = none) : Unconfigured (some gate) := by
  intro other hother
  obtain rfl := Option.some.inj hother
  exact h

/-- Where nothing is configured there is no current logger. -/
theorem current_of_unconfigured (h : Unconfigured gate?) :
    current gate? = .error .notConfigured := by
  rcases gate? with - | gate
  · rfl
  · rw [current, Gate.current, h gate rfl]

/-- **A call before the first success** does what it does on a gate of its own. -/
theorem invoke_of_unconfigured (h : Unconfigured gate?) (hrepeated : repeated? passed call = none)
    (platform : Platform) (scene : Scene) :
    invoke platform gate? passed call scene =
      (own passed call).invoke platform (rest call) scene := by
  have hgate : gateFor gate? (own passed call).clock (own passed call).hostLogger
      (own passed call).policy = own passed call := by
    rcases gate? with - | gate
    · rfl
    · simp only [gateFor, h gate rfl]
      rfl
  rw [invoke_of_not_repeated hrepeated, hgate]

/-- A call that gives no argument twice collides with those of the gate only by naming the gate. -/
theorem collision?_rest (h : repeated? passed call = none) :
    (rest call).collision? "ConfigurationGate.configure" ["self"] =
      if call.namesGate then some (.repeatedArgument "ConfigurationGate.configure" "self")
      else none := by
  obtain ⟨-, hcollision⟩ := of_repeated?_eq_none h
  have hoptions : ∀ argument ∈ call.named, call.options.isSome = true → argument.1 ≠ "options" := by
    intro argument hmem hsome
    have hnot := List.find?_eq_none.mp (Option.map_eq_none_iff.mp hcollision) argument hmem
    simpa [hsome] using hnot
  have htaken : ∀ argument ∈ (rest call).named,
      (["self"] ++ if call.options.isSome then ["options"] else []).contains argument.1 = true ↔
        argument.1 = "self" := by
    intro argument hmem
    have hnot := hoptions argument (List.mem_filter.mp hmem).1
    rcases hsome : call.options.isSome with - | -
    · simp
    · simp [hnot hsome]
  rcases hnames : call.namesGate with - | -
  · have hnone : ∀ argument ∈ call.named, argument.1 ≠ "self" := by
      simpa [Invocation.namesGate] using hnames
    refine Option.map_eq_none_iff.mpr (List.find?_eq_none.mpr fun argument hmem hself => ?_)
    exact hnone argument (List.mem_filter.mp hmem).1 ((htaken argument hmem).mp hself)
  · obtain ⟨argument, hmem, hself⟩ : ∃ argument ∈ call.named, argument.1 = "self" := by
      simpa [Invocation.namesGate] using hnames
    have hhanded : argument ∈ (rest call).named := by
      refine List.mem_filter.mpr ⟨hmem, ?_⟩
      rw [hself]
      decide
    have hsome : (List.find? (fun argument =>
        (["self"] ++ if call.options.isSome then ["options"] else []).contains argument.1)
        (rest call).named).isSome :=
      List.find?_isSome.mpr ⟨argument, hhanded, (htaken argument hhanded).mpr hself⟩
    obtain ⟨found, hfound⟩ := Option.isSome_iff_exists.mp hsome
    have hheld := List.find?_some hfound
    have hnamed : found.1 = "self" :=
      (htaken found (List.mem_of_find?_eq_some hfound)).mp hheld
    refine (congrArg (Option.map _) hfound).trans ?_
    rw [Option.map_some, hnamed]
    rfl

/-- **A call behind the first success** leaves a notice and nothing else, unless it names the
gate. -/
theorem invoke_eq_of_committed (h : gate.committed = some logger)
    (hrepeated : repeated? passed call = none) (platform : Platform) (scene : Scene) :
    invoke platform (some gate) passed call scene =
      if call.namesGate then
        { gate, scene, raised := some (.repeatedArgument "ConfigurationGate.configure" "self") }
      else
        { gate
          scene := scene.notify (.debug Gate.noticeSource
            "Logger already configured; ignoring configure() call") } := by
  have hgate : ∀ clock hostLogger policy,
      gateFor (some gate) clock hostLogger policy = gate := by
    intro clock hostLogger policy
    simp [gateFor, h]
  rw [invoke_of_not_repeated hrepeated, hgate, Gate.invoke_of_committed h,
    collision?_rest hrepeated]
  cases call.namesGate with
  | true => rfl
  | false => rfl

/-- A call behind the first success leaves the gate alone, and everything but notices. -/
theorem invoke_of_committed (h : gate.committed = some logger) (platform : Platform)
    (passed : Passed) (call : Invocation) (scene : Scene) :
    (invoke platform (some gate) passed call scene).gate = gate ∧
      ∃ notices, (invoke platform (some gate) passed call scene).scene =
        { scene with notices } := by
  rcases hrepeated : repeated? passed call with - | fault
  · rw [invoke_eq_of_committed h hrepeated]
    split
    · exact ⟨rfl, scene.notices, rfl⟩
    · exact ⟨rfl, _, rfl⟩
  · rw [invoke_of_repeated hrepeated]
    exact ⟨rfl, scene.notices, rfl⟩

/-! ### One call after the other -/

/-- The gate of the process behind a call. -/
def next (platform : Platform) (gate? : Option Gate) : ProcessCall → Option Gate
  | .configure passed call scene => some (invoke platform gate? passed call scene).gate
  | .current => gate?

/-- The gate of a process that begins without one. -/
def after (platform : Platform) (calls : List ProcessCall) : Option Gate :=
  calls.foldl (next platform) none

/-- The logger that a call returns from a gate of its own. -/
def returned? (platform : Platform) : ProcessCall → Option Logger
  | .configure passed call scene =>
    match repeated? passed call, ((own passed call).invoke platform (rest call) scene).raised with
    | none, none => ((own passed call).invoke platform (rest call) scene).gate.committed
    | _, _ => none
  | .current => none

/-- An invocation on a gate without a logger commits one, or raises and leaves the gate so. -/
theorem committed_invoke (call : Invocation) (hgate : gate.committed = none)
    (hoptions : ∀ given, call.options = some given → given.HasShortLevel)
    (hnamed : Options.GiveShortLevels call.named) (platform : Platform) (scene : Scene) :
    (gate.invoke platform call scene).gate.committed.isSome ↔
      (gate.invoke platform call scene).raised = none := by
  rw [Gate.invoke_of_unconfigured hgate]
  rcases harguments : call.arguments with fault | ⟨options, overrides⟩
  · simp [hgate]
  · dsimp only
    obtain ⟨hshort, hshorts⟩ := Invocation.short_of_arguments harguments hoptions hnamed
    constructor
    · intro hsome
      rcases hraised : (gate.configure platform options overrides scene).raised with - | fault
      · rfl
      · rw [Gate.gate_eq_of_raised hgate hshort hshorts hraised, hgate] at hsome
        simp at hsome
    · exact Gate.committed_of_raised_eq_none hgate

/-- A call commits the logger that it returns from a gate of its own, or leaves the process without
one. -/
theorem next_of_unconfigured (h : Unconfigured gate?) {call : ProcessCall}
    (hshort : call.GivesShortLevels) (platform : Platform) :
    match returned? platform call with
    | none => Unconfigured (next platform gate? call)
    | some logger =>
      ∃ gate, next platform gate? call = some gate ∧ gate.committed = some logger := by
  cases call with
  | current => exact h
  | configure passed call scene =>
      obtain ⟨hoptions, hnamed⟩ := hshort
      rcases hrepeated : repeated? passed call with - | fault
      · have hrest : Options.GiveShortLevels (rest call).named :=
          fun v hv => hnamed v (List.mem_filter.mp hv).1
        have hown : (own passed call).committed = none := rfl
        have hiff := committed_invoke (rest call) hown hoptions hrest platform scene
        have hinvoke := invoke_of_unconfigured h hrepeated platform scene
        rcases hraised : ((own passed call).invoke platform (rest call) scene).raised with - | fault
        · obtain ⟨logger, hlogger⟩ := Option.isSome_iff_exists.mp (hiff.mpr hraised)
          simp only [returned?, hrepeated, hraised, hlogger, next, hinvoke]
          exact ⟨_, rfl, hlogger⟩
        · simp only [returned?, hrepeated, hraised, next, hinvoke]
          refine unconfigured_some (Option.not_isSome_iff_eq_none.mp ?_)
          rw [hiff, hraised]
          simp
      · simp only [returned?, hrepeated, next, invoke_of_repeated hrepeated]
        refine unconfigured_some ?_
        rcases gate? with - | gate
        · rfl
        · exact h gate rfl

/-- A call does not change a gate that has its logger. -/
theorem next_of_committed (h : gate.committed = some logger) (platform : Platform)
    (call : ProcessCall) : next platform (some gate) call = some gate := by
  cases call with
  | current => rfl
  | configure passed call scene =>
      exact congrArg some (invoke_of_committed h platform passed call scene).1

/-- A gate that has committed stays as it is, whatever is called. -/
theorem foldl_next_of_committed (h : gate.committed = some logger) (platform : Platform)
    (calls : List ProcessCall) : calls.foldl (next platform) (some gate) = some gate := by
  induction calls with
  | nil => rfl
  | cons call calls ih => rw [List.foldl_cons, next_of_committed h, ih]

/-- The logger of the process is the first one that a call returns from a gate of its own. -/
theorem foldl_next_of_unconfigured (h : Unconfigured gate?) {calls : List ProcessCall}
    (hshort : ∀ call ∈ calls, call.GivesShortLevels) (platform : Platform) :
    match calls.findSome? (returned? platform) with
    | none => Unconfigured (calls.foldl (next platform) gate?)
    | some logger =>
      ∃ gate, calls.foldl (next platform) gate? = some gate ∧ gate.committed = some logger := by
  induction calls generalizing gate? with
  | nil => exact h
  | cons call calls ih =>
      obtain ⟨hfirst, hrest⟩ := List.forall_mem_cons.mp hshort
      have hnext := next_of_unconfigured h hfirst platform
      rw [List.findSome?_cons, List.foldl_cons]
      rcases hreturned : returned? platform call with - | logger
      · rw [hreturned] at hnext
        exact ih hnext hrest
      · rw [hreturned] at hnext
        obtain ⟨gate, hgate, hcommitted⟩ := hnext
        refine ⟨gate, ?_, hcommitted⟩
        rw [hgate, foldl_next_of_committed hcommitted]

/-- **The functions of the process behave as one gate.** Take any sequence of calls, with no long
integer for a level.

* Up to the first call that returns a logger, a request for it is refused, and a call does exactly
  what it does on a gate of its own, with the collaborators that this very call passes.
* From then on a request gives the logger of that call, and a call leaves a notice and nothing
  else, whatever options and collaborators it passes. Only a call that names the gate fails, as it
  would on a gate of its own, and leaves everything as it is. -/
theorem behaves_as_one_gate (platform : Platform) {calls : List ProcessCall}
    (hshort : ∀ call ∈ calls, call.GivesShortLevels) :
    match calls.findSome? (returned? platform) with
    | none =>
      current (after platform calls) = .error .notConfigured ∧
      ∀ passed call scene, repeated? passed call = none →
        invoke platform (after platform calls) passed call scene =
          (own passed call).invoke platform (rest call) scene
    | some logger =>
      ∃ gate, after platform calls = some gate ∧
      current (after platform calls) = .ok logger ∧
      ∀ passed call scene, repeated? passed call = none →
        invoke platform (some gate) passed call scene =
          if call.namesGate then
            { gate, scene
              raised := some (.repeatedArgument "ConfigurationGate.configure" "self") }
          else
            { gate
              scene := scene.notify (.debug Gate.noticeSource
                "Logger already configured; ignoring configure() call") } := by
  have hrun := foldl_next_of_unconfigured unconfigured_none hshort platform
  rcases hfirst : calls.findSome? (returned? platform) with - | logger
  · rw [hfirst] at hrun
    refine ⟨current_of_unconfigured hrun, fun passed call scene hrepeated => ?_⟩
    exact invoke_of_unconfigured hrun hrepeated platform scene
  · rw [hfirst] at hrun
    obtain ⟨gate, hgate, hcommitted⟩ := hrun
    have hcurrent : current (after platform calls) = .ok logger := by
      rw [after, hgate, current, Gate.current, hcommitted]
    refine ⟨gate, hgate, hcurrent, fun passed call scene hrepeated => ?_⟩
    exact invoke_eq_of_committed hcommitted hrepeated platform scene

/-- A call that lacks a clock, a request, a call with a clock, and one whose level is no level. -/
def attempts : List ProcessCall :=
  [.configure {} { options := some { clockPrefix := .bool true } } {}, .current,
    .configure { clock := some .own, policy := some .record }
      { options := some { clockPrefix := .bool true } } { clock := some (.manual .zero) },
    .configure {} { named := [("level", .text "no level")] } {}]

/-- The logger is that of the third call, with the clock and the policy of that call, and one more
call with a level that is no level leaves a notice. -/
theorem behaves_as_one_gate_of_attempts :
    ∃ gate logger, after {} attempts = some gate ∧
      current (after {} attempts) = .ok logger ∧ logger.clock = .own ∧ logger.policy = .record ∧
      (invoke {} (some gate) {} { named := [("level", .bool true)] } {}).raised = none ∧
      (invoke {} (some gate) {} { named := [("level", .bool true)] } {}).scene.outlets = {} := by
  have hshort : ∀ call ∈ attempts, call.GivesShortLevels := by
    simp [attempts, ProcessCall.GivesShortLevels, Options.HasShortLevel, Options.GiveShortLevels,
      Value.IsShortLevel]
  have hone := behaves_as_one_gate {} hshort
  have hsome : (attempts.findSome? (returned? {})).isSome = true := rfl
  obtain ⟨logger, hlogger⟩ := Option.isSome_iff_exists.mp hsome
  rw [hlogger] at hone
  obtain ⟨gate, hgate, hcurrent, hlater⟩ := hone
  have hbrought : (attempts.findSome? (returned? {})).map (fun logger =>
      (logger.clock, logger.policy)) = some (.own, .record) := rfl
  rw [hlogger, Option.map_some] at hbrought
  obtain ⟨hclock, hpolicy⟩ := Prod.mk.inj (Option.some.inj hbrought)
  have hnamed := hlater {} { named := [("level", .bool true)] } {} rfl
  refine ⟨gate, logger, hgate, hcurrent, hclock, hpolicy, ?_, ?_⟩
  · rw [hnamed]
    rfl
  · rw [hnamed]
    rfl

/-- Behind a call that returns a logger, one that names the gate fails. -/
theorem gate_name_not_ignored :
    let calls : List ProcessCall := [.configure {} {} {}]
    let call : Invocation := { named := [("self", .int 1)] }
    (calls.findSome? (returned? {})).isSome = true ∧
      repeated? {} call = none ∧
      (invoke {} (after {} calls) {} call {}).raised =
        some (.repeatedArgument "ConfigurationGate.configure" "self") :=
  ⟨rfl, rfl, rfl⟩

end ProcessGate

end TraceLog
