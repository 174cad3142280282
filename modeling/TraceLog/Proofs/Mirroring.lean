import Mathlib.Data.List.Nodup
import TraceLog.Proofs.Decoding
import TraceLog.Proofs.Isolation

/-!
# Text and Bytes Agree

Sinks that are attached side by side are handed the same texts, as long as the clock does not change
during a call: what comes between them is nothing, so that a fault that ends the call in front of
them stops a text for all of them, and one behind them for none. Hence their streams agree if they
take every text, whether as text or as bytes. A stream of bytes has received the encoding of what a
stream of text has received, with the line ends of the platform. A stream that cannot encode a text
has not received it, and does not agree with the others.

## Main results

* `exists_handOver_block`: sinks side by side are handed the same text.
* `Session.Mirrored.step`, `Session.Mirrored.run`: what steps and runs keep.
* `Session.bytes_mirror_text`: streams of text and of bytes that are attached side by side.
* `Session.ascii_differs_from_bytes`: a stream of text that does not take every text.
-/

namespace TraceLog

open Number

/-! ### Sinks side by side -/

/-- No sink belongs to a stream that is not among theirs. -/
theorem Sink.behind_eq_zero {sinks : List Sink} {handle : Handle}
    (h : ∀ sink ∈ sinks, sink.handle ≠ handle) : Sink.behind sinks handle = 0 := by
  refine List.count_eq_zero.mpr fun hmem => ?_
  obtain ⟨sink, hsink, hhandle⟩ := List.mem_map.mp hmem
  exact h sink hsink hhandle

/-- A record of which no text is made leaves the streams as they are. -/
theorem Delivers.unwritten {lineEnd : List Char} {policy : FailurePolicy}
    {ends : FormattingFault → Bool} {sinks : List Sink} {n : Nat}
    {result : Except FormattingFault String} {outlets last : Outlets} {ending : CallEnd}
    (h : Delivers lineEnd policy ends sinks (List.replicate n result) outlets last ending)
    (hline : policy.line? result = none) : last = outlets := by
  generalize hresults : List.replicate n result = results at h
  induction h generalizing n with
  | done => rfl
  | goesOn hgives _ ih =>
      obtain ⟨n, rfl⟩ := Nat.exists_eq_succ_of_ne_zero (n := n) (by rintro rfl; simp at hresults)
      rw [List.replicate_succ, List.cons.injEq] at hresults
      obtain ⟨rfl, hrest⟩ := hresults
      rw [ih hrest]
      cases hgives with
      | written htext => simp [hline] at htext
      | passedOver => rfl
  | stops hgives =>
      obtain ⟨n, rfl⟩ := Nat.exists_eq_succ_of_ne_zero (n := n) (by rintro rfl; simp at hresults)
      rw [List.replicate_succ, List.cons.injEq] at hresults
      obtain ⟨rfl, hrest⟩ := hresults
      cases hgives with
      | _ => rfl

section

variable {front block back reached rest : List Sink} {outlets last : Outlets} {lineEnd : List Char}
  {line : String}

/-- Sinks from the front on count each sink of a block once, or none of it, unless they end within
the block. -/
theorem exists_behind_reached (hnodup : (block.map Sink.handle).Nodup)
    (hothers : ∀ sink ∈ front ++ back, sink.handle ∉ block.map Sink.handle)
    (hsplit : front ++ (block ++ back) = reached ++ rest)
    (hnext : ∀ sink ∈ rest.head?, sink ∉ block) :
    ∃ count, ∀ sink ∈ block, Sink.behind reached sink.handle = count := by
  have hnone : ∀ {sink : Sink} {sinks : List Sink}, sink ∈ block → sinks ⊆ front ++ back →
      Sink.behind sinks sink.handle = 0 := by
    intro sink sinks hmem hsinks
    refine Sink.behind_eq_zero fun other hother heq => ?_
    exact hothers other (hsinks hother) (heq ▸ List.mem_map_of_mem hmem)
  have hwhole : ∀ later, later ⊆ back → reached = front ++ (block ++ later) →
      ∀ sink ∈ block, Sink.behind reached sink.handle = 1 := by
    rintro later hlater rfl sink hmem
    have hone : Sink.behind block sink.handle = 1 :=
      List.count_eq_one_of_mem hnodup (List.mem_map_of_mem hmem)
    have hbefore : Sink.behind front sink.handle = 0 :=
      hnone hmem fun _ => List.mem_append_left _
    have hbehind : Sink.behind later sink.handle = 0 :=
      hnone hmem fun _ hother => List.mem_append_right _ (hlater hother)
    rw [Sink.behind_append, Sink.behind_append, hbefore, hone, hbehind]
  rcases List.append_eq_append_iff.mp hsplit with ⟨more, hreached, hmore⟩ | ⟨more, hfront, -⟩
  · rcases List.append_eq_append_iff.mp hmore with ⟨later, rfl, hback⟩ | ⟨left, hblock, hrest⟩
    · refine ⟨1, hwhole later (fun _ hmem => ?_) hreached⟩
      rw [hback]
      exact List.mem_append_left _ hmem
    · rcases left with - | ⟨sink, left⟩
      · rw [List.append_nil] at hblock
        exact ⟨1, hwhole [] (List.nil_subset _) (by rw [hreached, hblock, List.append_nil])⟩
      · -- the first sink that was not reached would be one of the block
        refine absurd ?_ (hnext sink (by rw [hrest]; rfl))
        rw [hblock]
        exact List.mem_append_right _ List.mem_cons_self
  · refine ⟨0, fun sink hmem => hnone hmem fun other hother => ?_⟩
    rw [hfront]
    exact List.mem_append_left _ (List.mem_append_left _ hother)

/-- **Sinks side by side are handed the same text**: a line, or nothing when another sink stops it
in front of them. -/
theorem exists_handOver_block (hnodup : (block.map Sink.handle).Nodup)
    (hothers : ∀ sink ∈ front ++ back, sink.handle ∉ block.map Sink.handle)
    (htakes : ∀ sink ∈ block, ∃ stream, outlets.find? sink.handle = some stream ∧
      ∀ s, sink.Feeds s stream) (hsplit : front ++ (block ++ back) = reached ++ rest)
    (hhanded : handOver lineEnd (reached.map (·, line)) outlets = (last, false))
    (hstops : ∀ sink ∈ rest.head?, ∃ fault, sink.write lineEnd line last = .error fault) :
    ∃ s, ∀ sink ∈ block, ∀ stream, outlets.find? sink.handle = some stream →
      last.find? sink.handle = some (stream.fed lineEnd s) := by
  have hgoes : ∀ given ∈ reached.map (·, line), ¬ outlets.Recurses given.1.handle := by
    intro given hmem hrecurses
    have hstopped := (stopped_handOver_iff lineEnd _ outlets).mpr ⟨given, hmem, hrecurses⟩
    rw [hhanded] at hstopped
    exact absurd hstopped (by simp)
  have hsinks : ∀ other ∈ reached, other ∈ block ∨ other ∈ front ++ back := by
    intro other hmem
    have hthere : other ∈ front ++ (block ++ back) := hsplit ▸ List.mem_append_left _ hmem
    simp only [List.mem_append] at hthere ⊢
    tauto
  have hreceived : ∀ sink ∈ block, ∀ stream, outlets.find? sink.handle = some stream →
      last.find? sink.handle =
        some (stream.fed lineEnd (repeated (Sink.behind reached sink.handle) line)) := by
    intro sink hmem stream hfind
    have hlast : (handOver lineEnd (reached.map (·, line)) outlets).1.find? sink.handle =
        some (stream.fed lineEnd (handedTo sink.handle (reached.map (·, line)))) :=
      find?_handOver_of_feeds hfind ?_ hgoes
    · rwa [hhanded, handedTo_map] at hlast
    · intro given hgiven hsame
      obtain ⟨other, hother, rfl⟩ := List.mem_map.mp hgiven
      -- the sink of this stream is the one in the block
      obtain rfl : other = sink := by
        refine (hsinks other hother).elim (fun hinside => ?_) fun houtside => ?_
        · exact List.inj_on_of_nodup_map hnodup hinside hmem hsame
        · exact absurd (hsame ▸ List.mem_map_of_mem hmem) (hothers other houtside)
      obtain ⟨stream', hfind', hfeeds⟩ := htakes other hmem
      obtain rfl : stream' = stream := Option.some.inj (hfind'.symm.trans hfind)
      exact hfeeds line
  obtain ⟨count, hcount⟩ := exists_behind_reached hnodup hothers hsplit fun sink hhead hmem => by
    obtain ⟨stream, hfind, hfeeds⟩ := htakes sink hmem
    obtain ⟨fault, hwrite⟩ := hstops sink hhead
    obtain ⟨next, hnext, -⟩ :=
      ((hfeeds line).fed lineEnd _).write (hreceived sink hmem stream hfind) lineEnd
    simp [hwrite] at hnext
  refine ⟨repeated count line, fun sink hmem stream hfind => ?_⟩
  rw [← hcount sink hmem]
  exact hreceived sink hmem stream hfind

end

/-- A record with one result for all sinks is handed to those from the front on, up to one whose
stream does not take the text. -/
theorem exists_reached {lineEnd : List Char} {policy : FailurePolicy}
    {ends : FormattingFault → Bool} {sinks : List Sink} {result : Except FormattingFault String}
    {outlets last : Outlets} {ending : CallEnd}
    (h : Delivers lineEnd policy ends sinks (List.replicate sinks.length result) outlets last
      ending) {line : String} (hline : policy.line? result = some line) :
    ∃ reached rest, sinks = reached ++ rest ∧
      handOver lineEnd (reached.map (·, line)) outlets = (last, false) ∧
      ∀ sink ∈ rest.head?, ∃ fault, sink.write lineEnd line last = .error fault := by
  by_cases hraised : ∃ fault, ending = .raised fault
  · obtain ⟨fault, rfl⟩ := hraised
    obtain ⟨front, sink, back, rfl, hhanded, hrefused, -⟩ := h.exists_front
    have hlength : front.length < (front ++ sink :: back).length := by
      simp
    rw [FailurePolicy.handed_replicate _ _ front hlength.le, hline] at hhanded
    refine ⟨front, sink :: back, rfl, hhanded, ?_⟩
    rintro first ⟨⟩
    refine hrefused line ?_
    rw [List.getElem?_replicate, if_pos hlength]
    exact hline
  · have hquiet : ∀ fault, ending ≠ .raised fault := fun fault heq => hraised ⟨fault, heq⟩
    obtain ⟨houtlets, hending⟩ := h.handsOver (.inr hquiet)
    rw [FailurePolicy.handed_replicate _ _ sinks le_rfl, hline,
      Option.elim_some] at houtlets hending
    refine ⟨sinks, [], (List.append_nil _).symm, ?_, by simp⟩
    rcases hhanded : handOver lineEnd (sinks.map (·, line)) outlets with ⟨next, - | -⟩
    · rw [houtlets, hhanded]
    · rw [hhanded, endOfHandover] at hending
      exact absurd hending (hquiet _)

/-- Whether an open stream of this kind receives all that is written to it, as text or as bytes. -/
def Device.isFaithful : Device → Bool
  | .text _ | .bare _ | .bytes _ | .raw _ | .crlf _ => true
  | _ => false

/-- Sinks and their streams once all were handed a text. -/
def feedAll (lineEnd : List Char) (s : String) (block : List (Sink × Stream)) :
    List (Sink × Stream) :=
  block.map fun given => (given.1, given.2.fed lineEnd s)

/-- Feeding streams changes no sink. -/
@[simp] theorem map_fst_feedAll (lineEnd : List Char) (s : String) (block : List (Sink × Stream)) :
    (feedAll lineEnd s block).map Prod.fst = block.map Prod.fst := by
  rw [feedAll, List.map_map]
  rfl

/-- An empty text feeds nothing. -/
@[simp] theorem feedAll_empty (lineEnd : List Char) (block : List (Sink × Stream)) :
    feedAll lineEnd "" block = block := by
  simp [feedAll]

/-- Texts are handed over one after the other. -/
theorem feedAll_append (lineEnd : List Char) (s t : String) (block : List (Sink × Stream)) :
    feedAll lineEnd (s ++ t) block = feedAll lineEnd t (feedAll lineEnd s block) := by
  simp [feedAll, Stream.fed_append]

/-! ### Steps -/

/-- A step that belongs to the life of the logger of `owner`, or closes a stream, and that neither
attaches nor closes a stream with one of the names. -/
def Step.LeavesAlone (owner : Owner) (names : List String) : Step → Prop
  | .attach name _ | .close name => name ∉ names
  | step => step.concerns owner = true

/-- Such a step belongs to the logger's life, or closes a stream. -/
theorem Step.LeavesAlone.concerns {step : Step} {owner : Owner} {names : List String}
    (h : step.LeavesAlone owner names) :
    step.concerns owner = true ∨ ∃ name, step = .close name := by
  cases step with
  | attach name device => exact .inl rfl
  | close name => exact .inr ⟨name, rfl⟩
  | _ => exact .inl h

namespace Session

variable {session next : Session} {owner : Owner} {logger : Logger} {block : List (Sink × Stream)}
  {names : List String} {steps : List Step}

/-- An operation on a logger does not change the platform. -/
theorem Operates.platform_eq (h : session.Operates next) : next.platform = session.platform := by
  cases h with
  | scene scene => rfl
  | logger scene _ _ => exact platform_setLogger _ _

/-- Finishing a configuration does not change the platform. -/
theorem platform_finish (session : Session) (owner : Owner) (raised : Option Fault) :
    (session.finish owner raised).1.platform = session.platform := by
  cases raised with
  | none => rfl
  | some fault => rfl

/-- No step changes the platform. -/
theorem platform_step (session : Session) (step : Step) :
    (session.step step).1.platform = session.platform := by
  rcases hstep : step.configures with - | -
  · exact (operates_step session hstep).platform_eq
  · cases step with
    | configure source named =>
        rcases hload : Invocation.load source named with fault | call
        · rw [step_configure_of_error hload]
        · rw [step_configure hload, platform_finish]
    | configureProcess source named passClock passHost =>
        rcases hload : Invocation.load source named with fault | call
        · simp only [Session.step, hload]
        · simp only [Session.step, hload, platform_finish]
    | _ => simp [Step.configures] at hstep

/-- Some sinks of the logger that was returned first stand side by side, each with a stream of its
own that takes all that it is handed. -/
structure Mirrored (owner : Owner) (block : List (Sink × Stream)) (session : Session) : Prop where
  first : session.first = some owner
  logger : ∃ logger front back, session.logger = .ok logger ∧
    logger.sinks = front ++ block.map Prod.fst ++ back ∧
    ∀ sink ∈ front ++ back, sink.handle ∉ (block.map Prod.fst).map Sink.handle
  nodup : ((block.map Prod.fst).map Sink.handle).Nodup
  feeds : ∀ given ∈ block, ∀ s, given.1.Feeds s given.2
  streams : ∀ given ∈ block, session.scene.outlets.find? given.1.handle = some given.2

/-- Sinks side by side stay so when their streams are all handed one text. -/
theorem Mirrored.fed (h : Mirrored owner block session) (lineEnd : List Char) (s : String)
    (hfirst : next.first = session.first)
    (hlogger : ∃ logger front back, next.logger = .ok logger ∧
      logger.sinks = front ++ block.map Prod.fst ++ back ∧
      ∀ sink ∈ front ++ back, sink.handle ∉ (block.map Prod.fst).map Sink.handle)
    (hstreams : ∀ given ∈ block,
      next.scene.outlets.find? given.1.handle = some (given.2.fed lineEnd s)) :
    Mirrored owner (feedAll lineEnd s block) next := by
  refine ⟨hfirst.trans h.first, ?_, ?_, ?_, ?_⟩
  · rw [map_fst_feedAll]
    exact hlogger
  · rw [map_fst_feedAll]
    exact h.nodup
  · intro given hmem t
    obtain ⟨taker, htaker, rfl⟩ := List.mem_map.mp hmem
    exact (h.feeds taker htaker t).fed lineEnd s
  · intro given hmem
    obtain ⟨taker, htaker, rfl⟩ := List.mem_map.mp hmem
    exact hstreams taker htaker

/-- Nothing changes for sinks side by side when their streams are left alone. -/
theorem Mirrored.kept (h : Mirrored owner block session) (hfirst : next.first = session.first)
    (hlogger : next.logger = session.logger)
    (hstreams : ∀ given ∈ block, next.scene.outlets.find? given.1.handle =
      session.scene.outlets.find? given.1.handle) :
    Mirrored owner block next := by
  refine ⟨hfirst.trans h.first, ?_, h.nodup, h.feeds, ?_⟩
  · rw [hlogger]
    exact h.logger
  · intro given hmem
    rw [hstreams given hmem]
    exact h.streams given hmem

/-- **A logging call** hands one text to sinks that stand side by side. -/
theorem Mirrored.log (h : Mirrored owner block session) {call : Logger.Call} {site : CallSite}
    (hsteady : session.Steady (.log call site)) :
    ∃ s, Mirrored owner (feedAll session.platform.lineEnd s block)
      (session.step (.log call site)).1 := by
  obtain ⟨logger, front, back, hlogger, hsinks, hothers⟩ := h.logger
  have hthere : ∀ scene, ({ session with scene } : Session).logger = .ok logger := fun _ => hlogger
  rcases hdraft : logger.draft call site with ⟨taken, fault?⟩ | record
  · rw [step_log_of_unmade hlogger hdraft]
    refine ⟨"", h.fed _ "" (first_setLogger _ _)
      ⟨_, front, back, logger_setLogger hlogger _, hsinks, hothers⟩ fun given hmem => ?_⟩
    rw [scene_setLogger, Stream.fed_empty]
    exact h.streams given hmem
  · obtain ⟨result, hresults⟩ := Logger.results_of_steady (hsteady logger record hlogger hdraft)
    have hdelivers := delivers_deliver session.platform logger record logger.sinks session.scene
    rw [hresults] at hdelivers
    have htakes : ∀ sink ∈ block.map Prod.fst, ∃ stream,
        session.scene.outlets.withoutReports.find? sink.handle = some stream ∧
          ∀ s, sink.Feeds s stream := by
      intro sink hmem
      obtain ⟨taker, htaker, rfl⟩ := List.mem_map.mp hmem
      exact ⟨taker.2, h.streams taker htaker, h.feeds taker htaker⟩
    have hreceived : ∃ s, ∀ given ∈ block,
        (deliver session.platform logger record logger.sinks session.scene).1.outlets.find?
          given.1.handle = some (given.2.fed session.platform.lineEnd s) := by
      rcases hline : logger.policy.line? result with - | line
      · refine ⟨"", fun given hmem => ?_⟩
        rw [Stream.fed_empty, ← Outlets.find?_withoutReports, hdelivers.unwritten hline]
        exact h.streams given hmem
      · obtain ⟨reached, rest, hreached, hhanded, hstops⟩ := exists_reached hdelivers hline
        rw [hsinks, List.append_assoc] at hreached
        obtain ⟨s, hblock⟩ := exists_handOver_block h.nodup hothers htakes hreached hhanded hstops
        exact ⟨s, fun given hmem =>
          hblock given.1 (List.mem_map_of_mem hmem) given.2 (h.streams given hmem)⟩
    obtain ⟨s, hreceived⟩ := hreceived
    rw [step_log_of_made hlogger hdraft]
    refine ⟨s, h.fed _ s (first_setLogger _ _)
      ⟨_, front, back, logger_setLogger (hthere _) _, hsinks, hothers⟩ fun given hmem => ?_⟩
    rw [scene_setLogger]
    exact hreceived given hmem

/-- A move of the clock changes nothing for sinks side by side. -/
theorem Mirrored.moveClock (h : Mirrored owner block session) (name : String)
    (move : Clock → Except Fault Clock) (answer : Clock → Answer) :
    Mirrored owner block (session.moveClock name move answer).1 := by
  obtain ⟨⟨clock, hnext⟩, -⟩ := session.exists_moveClock name move answer
  rw [hnext]
  exact h.kept rfl rfl fun _ _ => rfl

/-- Nor does another stream that is made. -/
theorem Mirrored.ensure (h : Mirrored owner block session) {name : String} (device : Device)
    (hother : ∀ given ∈ block, given.1.handle ≠ .named name) :
    Mirrored owner block (session.ensure name device) := by
  refine h.kept rfl rfl fun given hmem => ?_
  refine (Outlets.find?_ensure _ _ _ _).trans ?_
  rw [if_neg (hother given hmem)]

/-- Nor does another stream that is attached: its sink stands behind the others. -/
theorem Mirrored.attach (h : Mirrored owner block session) {name : String} (device : Device)
    (hother : ∀ given ∈ block, given.1.handle ≠ .named name) :
    Mirrored owner block (session.step (.attach name device)).1 := by
  obtain ⟨logger, front, back, hlogger, hsinks, hothers⟩ := h.logger
  have hready : (session.ensure name device).logger = .ok logger := hlogger
  rw [step_attach_eq hlogger]
  generalize hsink : Sink.forStream (session.scene.outlets.ensure name device) (.named name) =
    attached
  refine ⟨(first_setLogger _ _).trans h.first,
    ⟨_, front, back ++ [attached], logger_setLogger hready _, ?_, ?_⟩, h.nodup, h.feeds, ?_⟩
  · simp only [Logger.attach, hsinks, List.append_assoc]
  · intro sink hmem
    rw [← List.append_assoc] at hmem
    rcases List.mem_append.mp hmem with hmem | hmem
    · exact hothers sink hmem
    · rw [List.mem_singleton.mp hmem, ← hsink, handle_forStream]
      intro hthere
      obtain ⟨sink', hthere, hhandle⟩ := List.mem_map.mp hthere
      obtain ⟨given, hgiven, rfl⟩ := List.mem_map.mp hthere
      exact hother given hgiven hhandle
  · intro given hmem
    rw [scene_setLogger]
    exact (h.ensure device hother).streams given hmem

/-- Nor does another stream that is closed. -/
theorem Mirrored.close (h : Mirrored owner block session) {name : String}
    (hother : ∀ given ∈ block, given.1.handle ≠ .named name) :
    Mirrored owner block (session.step (.close name)).1 := by
  refine (h.ensure (.text "") hother).kept rfl rfl fun given hmem => ?_
  refine (Outlets.find?_close _ _ _).trans ?_
  rw [if_neg (hother given hmem)]

/-- Nor does a further configuration. -/
theorem Mirrored.repeated (h : Mirrored owner block session) {step : Step}
    (hconfigures : step.configures = true) (hconcerns : step.concerns owner = true) :
    Mirrored owner block (session.step step).1 := by
  obtain ⟨logger, -, -, hlogger, -⟩ := h.logger
  obtain ⟨⟨notices, hnext⟩, -⟩ := step_repeated h.first hlogger hconfigures hconcerns
  rw [hnext]
  exact h.kept rfl rfl fun _ _ => rfl

/-- **A step that leaves their streams alone** hands one text to sinks that stand side by side, or
nothing. -/
theorem Mirrored.step {step : Step} (h : Mirrored owner block session)
    (hnames : ∀ given ∈ block, ∃ name ∈ names, given.1.handle = .named name)
    (hstep : step.LeavesAlone owner names) (hsteady : session.Steady step) :
    ∃ s, Mirrored owner (feedAll session.platform.lineEnd s block) (session.step step).1 := by
  have hquiet : Mirrored owner block (session.step step).1 →
      ∃ s, Mirrored owner (feedAll session.platform.lineEnd s block) (session.step step).1 := by
    intro hkept
    refine ⟨"", ?_⟩
    rw [feedAll_empty]
    exact hkept
  have hother : ∀ {name : String}, name ∉ names → ∀ given ∈ block,
      given.1.handle ≠ .named name := by
    intro name hname given hmem heq
    obtain ⟨name', hmem', hhandle⟩ := hnames given hmem
    obtain rfl : name' = name := Handle.named.inj (hhandle.symm.trans heq)
    exact hname hmem'
  cases step with
  | log call site => exact h.log hsteady
  | attach name device => exact hquiet (h.attach device (hother hstep))
  | close name => exact hquiet (h.close (hother hstep))
  | setClock value => exact hquiet (h.moveClock _ _ _)
  | advanceClock delta => exact hquiet (h.moveClock _ _ _)
  | configure source named => exact hquiet (h.repeated rfl hstep)
  | configureProcess source named passClock passHost => exact hquiet (h.repeated rfl hstep)
  | _ => simp [Step.LeavesAlone, Step.concerns] at hstep

/-- **Runs hand the same texts** to sinks that stand side by side. -/
theorem Mirrored.run (h : Mirrored owner block session)
    (hnames : ∀ given ∈ block, ∃ name ∈ names, given.1.handle = .named name)
    (hsteps : ∀ step ∈ steps, step.LeavesAlone owner names)
    (hsteady : session.SteadyAlong steps) :
    ∃ s, Mirrored owner (feedAll session.platform.lineEnd s block) (session.final steps) := by
  induction steps generalizing session block with
  | nil =>
      refine ⟨"", ?_⟩
      rw [feedAll_empty]
      exact h
  | cons step steps ih =>
      obtain ⟨hstep, hrest⟩ := List.forall_mem_cons.mp hsteps
      obtain ⟨hnow, hlater⟩ := hsteady
      obtain ⟨s, hnext⟩ := h.step hnames hstep hnow
      rcases hgoes : (session.step step).2.goesOn with - | -
      · rw [final_cons_of_aborted hgoes]
        exact ⟨s, hnext⟩
      · have hnames' : ∀ given ∈ feedAll session.platform.lineEnd s block,
            ∃ name ∈ names, given.1.handle = .named name := by
          intro given hmem
          obtain ⟨taker, htaker, rfl⟩ := List.mem_map.mp hmem
          exact hnames taker htaker
        obtain ⟨t, hlast⟩ := ih hnext hnames' hrest (hlater hgoes)
        rw [platform_step] at hlast
        rw [final_cons hgoes]
        refine ⟨s ++ t, ?_⟩
        rw [feedAll_append]
        exact hlast

/-! ### Clocks that stand still -/

/-- **A clock that stands still unless it is moved** changes during no step. -/
theorem Mirrored.steadyAlong (h : Mirrored owner block session)
    (hnames : ∀ given ∈ block, ∃ name ∈ names, given.1.handle = .named name)
    (hsteps : ∀ step ∈ steps, step.LeavesAlone owner names)
    (hstands : StandsStill session.scene.clock) : session.SteadyAlong steps := by
  induction steps generalizing session block with
  | nil => trivial
  | cons step steps ih =>
      obtain ⟨hstep, hrest⟩ := List.forall_mem_cons.mp hsteps
      have hsteady : session.Steady step := steady_of_standsStill hstands step
      obtain ⟨s, hnext⟩ := h.step hnames hstep hsteady
      obtain ⟨logger, -, -, hlogger, -⟩ := h.logger
      obtain ⟨hstands', -⟩ := standing_step h.first hlogger hstands hstep.concerns
      refine ⟨hsteady, fun _ => ih hnext ?_ hrest hstands'⟩
      intro given hmem
      obtain ⟨taker, htaker, rfl⟩ := List.mem_map.mp hmem
      exact hnames taker htaker

/-! ### Sinks that are attached -/

/-- The steps that attach sinks to named streams, one behind the other. -/
def attachEach (attached : List (String × Device)) : List Step :=
  attached.map fun given => .attach given.1 given.2

/-- The sink for a stream with this name that is of this kind. -/
def sinkFor (given : String × Device) : Sink :=
  ⟨if given.2.isBinary then .byteStream else .line, .named given.1⟩

/-- Streams that are attached have the names that they are attached under. -/
theorem handle_of_mem_block {attached : List (String × Device)} :
    ∀ taker ∈ attached.map fun given => (sinkFor given, (⟨given.2, false⟩ : Stream)),
      ∃ name ∈ attached.map Prod.fst, taker.1.handle = .named name := by
  intro taker hmem
  obtain ⟨given, hgiven, rfl⟩ := List.mem_map.mp hmem
  exact ⟨given.1, List.mem_map_of_mem hgiven, rfl⟩

/-- An open stream that receives all that is written to it takes what its sink hands it. -/
theorem feeds_sinkFor {given : String × Device} (h : given.2.isFaithful = true) (s : String) :
    (sinkFor given).Feeds s ⟨given.2, false⟩ := by
  obtain ⟨name, device⟩ := given
  cases device with
  | text content => exact rfl
  | bare content => exact trivial
  | bytes content => exact ⟨rfl, .inl ⟨content, rfl⟩⟩
  | raw content => exact ⟨rfl, .inr ⟨content, rfl⟩⟩
  | crlf content => exact rfl
  | _ => simp [Device.isFaithful] at h

/-- A stream that is attached is there, as it was or new, and its sink stands behind the others. -/
theorem step_attach_of_new {name : String} {device : Device} (hlogger : session.logger = .ok logger)
    (hnew : session.scene.outlets.find? (.named name) = none ∨
      session.scene.outlets.find? (.named name) = some ⟨device, false⟩) :
    let next := session.step (.attach name device)
    next.2.goesOn = true ∧ next.1.first = session.first ∧
    next.1.logger = .ok (logger.attach (sinkFor (name, device))) ∧
    ∀ handle, next.1.scene.outlets.find? handle =
      if handle = .named name then some ⟨device, false⟩
      else session.scene.outlets.find? handle := by
  intro next
  have hfind : ∀ handle, (session.scene.outlets.ensure name device).find? handle =
      if handle = .named name then some ⟨device, false⟩
      else session.scene.outlets.find? handle := by
    intro handle
    rw [Outlets.find?_ensure]
    by_cases hself : handle = .named name
    · subst hself
      rcases hnew with hnew | hnew
      · rw [hnew, Option.getD_none]
      · rw [hnew, Option.getD_some]
    · rw [if_neg hself, if_neg hself]
  have hsink : Sink.forStream (session.scene.outlets.ensure name device) (.named name) =
      sinkFor (name, device) := by
    rw [Sink.forStream, hfind, if_pos rfl]
    rfl
  have hready : (session.ensure name device).logger = .ok logger := hlogger
  have hstep : next = _ := step_attach_eq hlogger name device
  rw [hsink] at hstep
  refine ⟨by rw [hstep]; rfl, by rw [hstep, first_setLogger]; rfl,
    by rw [hstep]; exact logger_setLogger hready _, fun handle => ?_⟩
  rw [hstep, scene_setLogger]
  exact hfind handle

/-- Sinks that are attached one behind the other stand behind the others, and their streams have
received nothing yet. -/
theorem exists_attached {attached : List (String × Device)} (hfirst : session.first = some owner)
    (hlogger : session.logger = .ok logger) (hnames : (attached.map Prod.fst).Nodup)
    (hnew : ∀ given ∈ attached, session.scene.outlets.find? (.named given.1) = none ∨
      session.scene.outlets.find? (.named given.1) = some ⟨given.2, false⟩) :
    let next := session.final (attachEach attached)
    (∀ entry ∈ session.run (attachEach attached), entry.2.goesOn = true) ∧
    next.first = some owner ∧ next.platform = session.platform ∧
    (∃ logger', next.logger = .ok logger' ∧
      logger'.sinks = logger.sinks ++ attached.map sinkFor) ∧
    (∀ given ∈ attached, next.scene.outlets.find? (.named given.1) = some ⟨given.2, false⟩) ∧
    ∀ handle, (∀ given ∈ attached, handle ≠ .named given.1) →
      next.scene.outlets.find? handle = session.scene.outlets.find? handle := by
  induction attached generalizing session logger with
  | nil =>
      refine ⟨by simp [attachEach], hfirst, rfl, ⟨logger, hlogger, ?_⟩, by simp, fun _ _ => rfl⟩
      rw [List.map_nil, List.append_nil]
  | cons given attached ih =>
      obtain ⟨name, device⟩ := given
      obtain ⟨hname, hnames⟩ := List.nodup_cons.mp hnames
      obtain ⟨hthere, hnew⟩ := List.forall_mem_cons.mp hnew
      have hother : ∀ given ∈ attached, (Handle.named given.1) ≠ .named name := by
        intro given hmem heq
        have hmem' : given.1 ∈ attached.map Prod.fst := List.mem_map_of_mem hmem
        rw [Handle.named.inj heq] at hmem'
        exact hname hmem'
      obtain ⟨hgoes, hfirst', hlogger', hstreams⟩ := step_attach_of_new hlogger hthere
      have hnew' : ∀ given ∈ attached,
          (session.step (.attach name device)).1.scene.outlets.find? (.named given.1) = none ∨
          (session.step (.attach name device)).1.scene.outlets.find? (.named given.1) =
            some ⟨given.2, false⟩ := by
        intro given hmem
        rw [hstreams, if_neg (hother given hmem)]
        exact hnew given hmem
      obtain ⟨hrun, hfirst, hplatform, ⟨last, hlast, hsinks⟩, hattached, hkept⟩ :=
        ih (hfirst'.trans hfirst) hlogger' hnames hnew'
      have hcons : session.run (attachEach ((name, device) :: attached)) = _ := run_cons hgoes _
      have hfinal : session.final (attachEach ((name, device) :: attached)) = _ :=
        final_cons hgoes _
      rw [hcons, hfinal]
      refine ⟨List.forall_mem_cons.mpr ⟨hgoes, hrun⟩, hfirst, ?_, ⟨last, hlast, ?_⟩, ?_, ?_⟩
      · rw [← platform_step session (.attach name device)]
        exact hplatform
      · rw [hsinks, Logger.attach, List.append_assoc, List.map_cons]
        rfl
      · refine List.forall_mem_cons.mpr ⟨?_, hattached⟩
        refine (hkept _ fun given hmem => (hother given hmem).symm).trans ?_
        rw [hstreams, if_pos rfl]
      · intro handle hhandle
        obtain ⟨hself, hrest⟩ := List.forall_mem_cons.mp hhandle
        refine (hkept handle hrest).trans ?_
        rw [hstreams, if_neg hself]

/-- **Sinks that are attached one behind the other** stand side by side. -/
theorem mirrored_attachEach {attached : List (String × Device)}
    (hfirst : session.first = some owner)
    (hlogger : session.logger = .ok logger) (hnames : (attached.map Prod.fst).Nodup)
    (hdevices : ∀ given ∈ attached, given.2.isFaithful = true)
    (hnew : ∀ given ∈ attached, session.scene.outlets.find? (.named given.1) = none ∨
      session.scene.outlets.find? (.named given.1) = some ⟨given.2, false⟩)
    (hunused : ∀ sink ∈ logger.sinks, ∀ given ∈ attached, sink.handle ≠ .named given.1) :
    Mirrored owner (attached.map fun given => (sinkFor given, ⟨given.2, false⟩))
      (session.final (attachEach attached)) := by
  obtain ⟨-, hfirst', -, ⟨logger', hlogger', hsinks⟩, hstreams, -⟩ :=
    exists_attached hfirst hlogger hnames hnew
  have hblock : (attached.map fun given => (sinkFor given, (⟨given.2, false⟩ : Stream))).map
      Prod.fst = attached.map sinkFor := by
    rw [List.map_map]
    rfl
  have hhandles : (attached.map sinkFor).map Sink.handle =
      (attached.map Prod.fst).map Handle.named := by
    rw [List.map_map, List.map_map]
    rfl
  refine ⟨hfirst', ⟨logger', logger.sinks, [], hlogger', ?_, ?_⟩, ?_, ?_, ?_⟩
  · rw [hblock, hsinks, List.append_nil]
  · intro sink hmem hhandle
    rw [hblock, hhandles, List.map_map] at hhandle
    obtain ⟨given, hgiven, heq⟩ := List.mem_map.mp hhandle
    rw [List.append_nil] at hmem
    exact hunused sink hmem given hgiven heq.symm
  · rw [hblock, hhandles]
    exact hnames.map fun _ _ => Handle.named.inj
  · intro taker hmem s
    obtain ⟨given, hgiven, rfl⟩ := List.mem_map.mp hmem
    exact feeds_sinkFor (hdevices given hgiven) s
  · intro taker hmem
    obtain ⟨given, hgiven, rfl⟩ := List.mem_map.mp hmem
    exact hstreams given hgiven

/-- **Streams of text and of bytes agree.** Let open streams that receive all that is written to
them be attached one behind the other to a logger with any sinks, policy and layout, each under a
name of its own. Let any steps of the logger's life follow that leave them alone and come to no text
with a surrogate, beside a clock that does not change during a call. Then there is one text that the
streams have received since: text as it is, and bytes as its encoding with the line ends of the
platform.

* Where lines end in carriage return and line feed, these are the bytes that a stream of text has
  received which writes line ends so.
* Where they end in a line feed, decoding the bytes gives the text. -/
theorem bytes_mirror_text {attached : List (String × Device)} (hfirst : session.first = some owner)
    (hlogger : session.logger = .ok logger) (hnames : (attached.map Prod.fst).Nodup)
    (hdevices : ∀ given ∈ attached, given.2.isFaithful = true)
    (hnew : ∀ given ∈ attached, session.scene.outlets.find? (.named given.1) = none ∨
      session.scene.outlets.find? (.named given.1) = some ⟨given.2, false⟩)
    (hunused : ∀ sink ∈ logger.sinks, ∀ given ∈ attached, sink.handle ≠ .named given.1)
    (hsteps : ∀ step ∈ steps, step.LeavesAlone owner (attached.map Prod.fst))
    (hsteady : (session.final (attachEach attached)).SteadyAlong steps)
    (_hsettled : (session.final (attachEach attached)).Settled steps) :
    let last := session.final (attachEach attached ++ steps)
    ∃ received : String,
      let bytes := Text.encode (Text.endLinesWith session.platform.lineEnd received.toList)
      (∀ name content, (name, .text content) ∈ attached →
        last.scene.outlets.find? (.named name) = some ⟨.text (content ++ received), false⟩) ∧
      (∀ name content, (name, .bare content) ∈ attached →
        last.scene.outlets.find? (.named name) = some ⟨.bare (content ++ received), false⟩) ∧
      (∀ name content, (name, .bytes content) ∈ attached →
        last.scene.outlets.find? (.named name) = some ⟨.bytes (content ++ bytes), false⟩) ∧
      (∀ name content, (name, .raw content) ∈ attached →
        last.scene.outlets.find? (.named name) = some ⟨.raw (content ++ bytes), false⟩) ∧
      (session.platform.lineEnd = ['\r', '\n'] → ∀ name content, (name, .crlf content) ∈ attached →
        last.scene.outlets.find? (.named name) = some ⟨.crlf (content ++ bytes), false⟩) ∧
      (session.platform.lineEnd = ['\n'] → Text.decode bytes = .ok received.toList) := by
  intro last
  obtain ⟨hgoes, -, hplatform, -⟩ := exists_attached hfirst hlogger hnames hnew
  have hmirrored := mirrored_attachEach hfirst hlogger hnames hdevices hnew hunused
  obtain ⟨received, hlast⟩ := hmirrored.run handle_of_mem_block hsteps hsteady
  rw [hplatform, ← final_append hgoes] at hlast
  have hstream : ∀ name device, (name, device) ∈ attached →
      last.scene.outlets.find? (.named name) =
        some (Stream.fed session.platform.lineEnd received ⟨device, false⟩) := by
    intro name device hmem
    have hfed := hlast.streams _ (List.mem_map_of_mem (List.mem_map_of_mem hmem))
    exact hfed
  refine ⟨received, fun name content => hstream name _, fun name content => hstream name _,
    fun name content => hstream name _, fun name content => hstream name _, ?_, ?_⟩
  · intro hcrlf name content hmem
    rw [hstream name _ hmem, hcrlf]
    rfl
  · intro hlf
    rw [hlf, Text.endLinesWith_lineFeed, Text.decode, Text.decodePrefix_encode]
    rfl

/-- A stream of text that cannot encode a line has not received it, and the stream of bytes beside
it has: there is no one text that both have received. -/
theorem ascii_differs_from_bytes :
    let site : CallSite := { file := "d.py", function := .text "f", line := .int 1 }
    let last := (timed.final [.attach "t" (.ascii []), .attach "b" (.bytes []),
      .log (.print (.text "é") .null) site]).scene.outlets
    ¬ ∃ received, last.find? (.named "t") = some ⟨.ascii (Text.encode received), false⟩ ∧
      last.find? (.named "b") =
        some ⟨.bytes (Text.encode (Text.endLinesWith timed.platform.lineEnd received)), false⟩ := by
  rintro site last ⟨received, htext, hbytes⟩
  have hnothing : last.find? (.named "t") = some ⟨.ascii [], false⟩ := by
    decide +kernel
  have hline : last.find? (.named "b") =
      some ⟨.bytes (Text.encode "0.00\t0\té\n".toList), false⟩ := by
    decide +kernel
  have hencoded : Text.encode received = [] := by
    simpa using htext.symm.trans hnothing
  obtain rfl : received = [] := by
    have hdecoded := Text.decodePrefix_encode 0 received
    rw [hencoded, Text.decodePrefix] at hdecoded
    exact (congrArg Prod.fst hdecoded).symm
  exact absurd (hbytes.symm.trans hline) (by decide +kernel)

/-- A session on a platform that ends lines with carriage return and line feed. Its clock cannot be
shown once it was moved. -/
def startingUp : Session :=
  ({ platform := { lineEnd := ['\r', '\n'] }
     gate :=
       { clock := .own
         renderTime := fun
           | .real time => if time.isZero then .ok "start" else .error (.raised "ValueError" "late")
           | _ => .ok ""
         policy := .record }
     scene := { clock := some (.manual .zero) } } : Session).final
    [.configure (some (.fields [("clock_prefix", .bool true)])) []]

/-- A message with a carriage return, a line feed and a character beyond ASCII, in front of a record
that cannot be formatted. -/
theorem bytes_mirror_text_of_moved_clock :
    let site : CallSite := { file := "d.py", function := .text "f", line := .int 1 }
    let attached : List (String × Device) := [("t", .text ""), ("b", .bytes []), ("c", .crlf [])]
    let steps : List Step := [.log (.print (.text "a\r\né") .null) site, .setClock (.int 1),
      .log (.print (.text "b") .null) site]
    let last := (startingUp.final (attachEach attached ++ steps)).scene
    let bytes := Text.encode "start\tINFO\ta\r\r\né\r\n".toList
    last.outlets.find? (.named "t") = some ⟨.text "start\tINFO\ta\r\né\n", false⟩ ∧
      last.outlets.find? (.named "b") = some ⟨.bytes bytes, false⟩ ∧
      last.outlets.find? (.named "c") = some ⟨.crlf bytes, false⟩ ∧
      last.failures.length = 4 := by
  intro site attached steps last bytes
  have hfirst : startingUp.first = some .host := rfl
  obtain ⟨logger, hlogger, hsinks⟩ : ∃ logger, startingUp.logger = .ok logger ∧
      logger.sinks = [⟨.line, .console⟩] := ⟨_, rfl, rfl⟩
  have hnames : (attached.map Prod.fst).Nodup := by
    decide
  have hdevices : ∀ given ∈ attached, given.2.isFaithful = true := by
    decide
  have hfree : ∀ given ∈ attached, startingUp.scene.outlets.find? (.named given.1) = none := by
    decide +kernel
  have hnew : ∀ given ∈ attached, startingUp.scene.outlets.find? (.named given.1) = none ∨
      startingUp.scene.outlets.find? (.named given.1) = some ⟨given.2, false⟩ :=
    fun given hmem => .inl (hfree given hmem)
  have hunused : ∀ sink ∈ logger.sinks, ∀ given ∈ attached, sink.handle ≠ .named given.1 := by
    simp [hsinks]
  have hsteps : ∀ step ∈ steps, step.LeavesAlone .host (attached.map Prod.fst) := by
    simp [steps, Step.LeavesAlone, Step.concerns]
  have hstands : StandsStill (startingUp.final (attachEach attached)).scene.clock := by
    rintro clock ⟨⟩
    rfl
  have hsteady : (startingUp.final (attachEach attached)).SteadyAlong steps :=
    (mirrored_attachEach hfirst hlogger hnames hdevices hnew hunused).steadyAlong
      handle_of_mem_block hsteps hstands
  obtain ⟨received, htext, -, hbytes, -, hcrlf, -⟩ :=
    bytes_mirror_text hfirst hlogger hnames hdevices hnew hunused hsteps hsteady (by decide +kernel)
  have hshown : last.outlets.find? (.named "t") =
      some ⟨.text "start\tINFO\ta\r\né\n", false⟩ := by
    decide +kernel
  obtain rfl : received = "start\tINFO\ta\r\né\n" := by
    have hsame := (htext "t" "" (by decide)).symm.trans hshown
    simpa using hsame
  exact ⟨hshown, (hbytes "b" [] (by decide)).trans (by decide +kernel),
    (hcrlf rfl "c" [] (by decide)).trans (by decide +kernel), by decide +kernel⟩

end Session

end TraceLog
