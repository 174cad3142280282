import TraceLog.Session
import TraceLog.Proofs.Calls

/-!
# The Transcript of a Run

What a committed logger writes in a run of logging calls, new sinks, clock moves and repeated
configurations is settled by the steps of the run alone. `Logger.transcript` goes through the
steps with the number of the next record and the time of the clock, and collects events: a line
for each call that passes, and a mark for each sink that is attached. `received` is what a
stream has of these events: each line as often as there are sinks behind the stream by then.
The specification mentions no records, and of the outlets only whether they take the lines.

A stream is made when the first sink is attached to it. `Outlets.prepared` has the streams that
the steps of a run will attach sinks to, so that what a run writes can be told of all streams at
once.

## Main results

* `received_append`, `received_of_attached_once`: a sink has the lines from its attachment on.
* `Outlets.Receives.prepared`: streams that are made later receive what comes later.
-/

namespace TraceLog

open Number

/-! ### The transcript -/

/-- What streams see of a run: a line that was logged, or a sink that was attached to one of
them. -/
inductive Event where
  | line (s : String)
  | attached (handle : Handle)
  deriving DecidableEq, Repr

/-- The time of a manual clock after it was moved to a time, if there is one; it does not go
back. -/
def timeAfter (time : Binary64) (next : Except Fault Binary64) : Binary64 :=
  match next with
  | .ok next => if next.lt time then time else next
  | .error _ => time

/-- The events of steps, from the number of the next record and the time of the clock on. -/
def Logger.transcript (logger : Logger) : Nat → Binary64 → List Step → List Event
  | _, _, [] => []
  | sequence, time, .log call site :: steps =>
    match logger.outcome call with
    | .ok (some (level, text)) =>
      .line (logger.lineAt sequence time level text site) ::
        logger.transcript (sequence + 1) time steps
    | _ => logger.transcript sequence time steps
  | sequence, time, .attach stream _ :: steps =>
    .attached (.named stream) :: logger.transcript sequence time steps
  | sequence, time, .setClock value :: steps =>
    logger.transcript sequence (timeAfter time value.toReal) steps
  | sequence, time, .advanceClock delta :: steps =>
    logger.transcript sequence (timeAfter time (delta.addTo time)) steps
  | sequence, time, _ :: steps => logger.transcript sequence time steps

/-- A call that comes to a fault or does not pass is no event. -/
theorem Logger.transcript_of_unwritten {logger : Logger} {call : Logger.Call}
    (h : (∃ fault, logger.outcome call = .error fault) ∨ logger.outcome call = .ok none)
    (sequence : Nat) (time : Binary64) (site : CallSite) (steps : List Step) :
    logger.transcript sequence time (.log call site :: steps) =
      logger.transcript sequence time steps := by
  rcases h with ⟨fault, houtcome⟩ | houtcome
  · simp only [transcript, houtcome]
  · simp only [transcript, houtcome]

/-- A call that passes is a line. -/
theorem Logger.transcript_of_written {logger : Logger} {call : Logger.Call} {level : Int}
    {text : String} (h : logger.outcome call = .ok (some (level, text))) (sequence : Nat)
    (time : Binary64) (site : CallSite) (steps : List Step) :
    logger.transcript sequence time (.log call site :: steps) =
      .line (logger.lineAt sequence time level text site) ::
        logger.transcript (sequence + 1) time steps := by
  simp only [transcript, h]

/-- What a stream receives of events, from the number of sinks behind it on: each line as often
as there are sinks by then. -/
def received (handle : Handle) : Nat → List Event → String
  | _, [] => ""
  | sinks, .line s :: events => repeated sinks s ++ received handle sinks events
  | sinks, .attached other :: events =>
    received handle (if other = handle then sinks + 1 else sinks) events

/-- The lines among events. -/
def lines : List Event → List String
  | [] => []
  | .line s :: events => s :: lines events
  | .attached _ :: events => lines events

/-- The sinks that were attached among events. -/
def attachedSinks : List Event → List Sink
  | [] => []
  | .line _ :: events => attachedSinks events
  | .attached handle :: events => ⟨.line, handle⟩ :: attachedSinks events

/-- Each sink takes the lines that are handed to it: the ones after its attachment. -/
def Outlets.Accepted (outlets : Outlets) : List Sink → List Event → Prop
  | _, [] => True
  | sinks, .line s :: events =>
    (∀ sink ∈ sinks, sink.Takes s outlets) ∧ outlets.Accepted sinks events
  | sinks, .attached handle :: events => outlets.Accepted (sinks ++ [⟨.line, handle⟩]) events

/-! ### What sinks have of the events -/

/-- What comes later is received with the sinks that were attached before. -/
theorem received_append (handle : Handle) (sinks : Nat) (events later : List Event) :
    received handle sinks (events ++ later) = received handle sinks events ++
      received handle (sinks + Sink.behind (attachedSinks events) handle) later := by
  induction events generalizing sinks with
  | nil =>
      rw [List.nil_append, received, String.empty_append]
      rfl
  | cons event events ih =>
      cases event with
      | line s => rw [List.cons_append, received, received, attachedSinks, ih, String.append_assoc]
      | attached other =>
          rw [List.cons_append, received, received, attachedSinks, ih, Sink.behind_cons]
          by_cases hother : other = handle
          · rw [if_pos hother, if_pos hother, Nat.add_right_comm, Nat.add_assoc]
          · rw [if_neg hother, if_neg hother]

/-- A stream that no sink is attached to has each line as often as there are sinks behind it. -/
theorem received_of_not_attached {handle : Handle} {events : List Event}
    (h : Sink.behind (attachedSinks events) handle = 0) (sinks : Nat) :
    received handle sinks events = String.join ((lines events).map (repeated sinks)) := by
  induction events with
  | nil => rfl
  | cons event events ih =>
      cases event with
      | line s =>
          rw [received, lines, List.map_cons, String.join_cons, ih h]
      | attached other =>
          have hother : other ≠ handle := by
            rintro rfl
            rw [attachedSinks, Sink.behind_cons, if_pos rfl] at h
            exact Nat.succ_ne_zero _ h
          rw [attachedSinks, Sink.behind_cons, if_neg hother] at h
          rw [received, lines, if_neg hother, ih h]

/-- Without a sink nothing is received. -/
theorem received_zero_of_not_attached {handle : Handle} {events : List Event}
    (h : Sink.behind (attachedSinks events) handle = 0) : received handle 0 events = "" := by
  induction events with
  | nil => rfl
  | cons event events ih =>
      cases event with
      | line s =>
          rw [received, repeated_zero, String.empty_append]
          exact ih h
      | attached other =>
          have hother : other ≠ handle := by
            rintro rfl
            rw [attachedSinks, Sink.behind_cons, if_pos rfl] at h
            exact Nat.succ_ne_zero _ h
          rw [attachedSinks, Sink.behind_cons, if_neg hother] at h
          rw [received, if_neg hother]
          exact ih h

/-- **A stream with one sink has the lines from its attachment on**, one after the other, and
none from before. -/
theorem received_of_attached_once {handle : Handle} {events later : List Event}
    (hevents : Sink.behind (attachedSinks events) handle = 0)
    (hlater : Sink.behind (attachedSinks later) handle = 0) :
    received handle 0 (events ++ .attached handle :: later) = String.join (lines later) := by
  have hone : repeated 1 = id := by
    funext s
    rw [repeated_succ, repeated_zero, String.append_empty]
    rfl
  rw [received_append, received_zero_of_not_attached hevents, hevents, String.empty_append,
    received, if_pos rfl, received_of_not_attached hlater, hone, List.map_id]

/-- The sinks of a transcript were attached by its steps. -/
theorem Logger.attach_of_mem_transcript {logger : Logger} {sequence : Nat} {time : Binary64}
    {steps : List Step} {sink : Sink}
    (h : sink ∈ attachedSinks (logger.transcript sequence time steps)) :
    ∃ name device, Step.attach name device ∈ steps ∧ sink = ⟨.line, .named name⟩ := by
  induction steps generalizing sequence time with
  | nil => simp [Logger.transcript, attachedSinks] at h
  | cons step steps ih =>
      have hlater : ∀ {sequence time},
          sink ∈ attachedSinks (logger.transcript sequence time steps) →
          ∃ name device, Step.attach name device ∈ step :: steps ∧
            sink = ⟨.line, .named name⟩ := by
        intro sequence time hmem
        obtain ⟨name, device, hattach, hsink⟩ := ih hmem
        exact ⟨name, device, List.mem_cons_of_mem _ hattach, hsink⟩
      cases step with
      | log call site =>
          rw [Logger.transcript] at h
          split at h
          · exact hlater h
          · exact hlater h
      | attach name device =>
          rcases List.mem_cons.mp h with rfl | hmem
          · exact ⟨name, device, List.mem_cons_self, rfl⟩
          · exact hlater hmem
      | _ => exact hlater h

/-- Sinks that take every text take the lines that are handed to them. -/
theorem Outlets.accepted_of_takes {outlets : Outlets} {sinks : List Sink} {events : List Event}
    (h : ∀ sink ∈ sinks ++ attachedSinks events, ∀ s, sink.Takes s outlets) :
    outlets.Accepted sinks events := by
  induction events generalizing sinks with
  | nil => trivial
  | cons event events ih =>
      cases event with
      | line s => exact ⟨fun sink hmem => h sink (List.mem_append_left _ hmem) s, ih h⟩
      | attached handle =>
          refine ih fun sink hmem => h sink ?_
          rw [List.append_assoc] at hmem
          exact hmem

/-- What has been received does not matter for what is accepted. -/
theorem Outlets.Accepted.received {outlets outlets' : Outlets} {sinks : List Sink}
    {events : List Event} (h : outlets.Accepted sinks events) {received : Handle → String}
    (hreceives : outlets.Receives received outlets') : outlets'.Accepted sinks events := by
  induction events generalizing sinks with
  | nil => trivial
  | cons event events ih =>
      cases event with
      | line s =>
          obtain ⟨hsinks, hrest⟩ := h
          exact ⟨fun sink hmem => (hsinks sink hmem).received hreceives, ih hrest⟩
      | attached handle => exact ih h

/-! ### Streams that are made later -/

/-- The outlets with the streams that steps attach sinks to, which are made unless they are
there. -/
def Outlets.prepared (outlets : Outlets) : List Step → Outlets
  | [] => outlets
  | .attach stream device :: steps => (outlets.ensure stream device).prepared steps
  | _ :: steps => outlets.prepared steps

namespace Outlets

variable {outlets outlets' : Outlets}

/-- Preparing streams changes none that is there. -/
theorem find?_prepared_of_some {handle : Handle} {stream : Stream} {steps : List Step}
    (h : outlets.find? handle = some stream) :
    (outlets.prepared steps).find? handle = some stream := by
  induction steps generalizing outlets with
  | nil => exact h
  | cons step steps ih =>
      cases step with
      | attach name device => exact ih (find?_ensure_of_some h name device)
      | _ => exact ih h

/-- Preparing streams changes no file. -/
@[simp] theorem files_prepared (outlets : Outlets) (steps : List Step) :
    (outlets.prepared steps).files = outlets.files := by
  induction steps generalizing outlets with
  | nil => rfl
  | cons step steps ih =>
      cases step with
      | attach name device => exact (ih _).trans (files_ensure outlets name device)
      | _ => exact ih outlets

/-- Preparing streams reports nothing. -/
@[simp] theorem reports_prepared (outlets : Outlets) (steps : List Step) :
    (outlets.prepared steps).reports = outlets.reports := by
  induction steps generalizing outlets with
  | nil => rfl
  | cons step steps ih =>
      cases step with
      | attach name device => exact (ih _).trans (reports_ensure outlets name device)
      | _ => exact ih outlets

/-- A stream that is made later receives what comes after it was made. -/
theorem Receives.ensure {received : Handle → String} (h : outlets.Receives received outlets')
    {name : String} {device : Device}
    (hnew : outlets.find? (.named name) = none → received (.named name) = "") :
    (outlets.ensure name device).Receives received (outlets'.ensure name device) := by
  rcases hfind : outlets.find? (.named name) with - | stream
  · have hfind' : outlets'.find? (.named name) = none := by
      rw [h.streams, hfind]
      rfl
    have hne : ∀ {handle stream}, outlets.find? handle = some stream → handle ≠ .named name := by
      rintro handle stream hthere rfl
      rw [hfind] at hthere
      simp at hthere
    simp only [Outlets.ensure, hfind, hfind']
    refine ⟨h.reports, ?_, ?_, ?_⟩
    · intro handle
      by_cases hhandle : handle = .named name
      · subst hhandle
        rw [find?_put_self, find?_put_self, hnew hfind, Option.map_some, Stream.after_empty]
      · rw [find?_put_of_ne hhandle, find?_put_of_ne hhandle]
        exact h.streams handle
    · intro place hnone
      refine h.kept place fun handle stream hthere => hnone handle stream ?_
      rw [find?_put_of_ne (hne hthere), hthere]
    · intro handle place content hstream hcontent hothers
      by_cases hhandle : handle = .named name
      · subst hhandle
        have hkept := h.kept place fun other stream hthere =>
          hothers other stream (hne hthere) (by rw [find?_put_of_ne (hne hthere), hthere])
        rw [hnew hfind, show Text.encode "".toList = [] from rfl, List.append_nil]
        exact hkept.trans hcontent
      · rw [find?_put_of_ne hhandle] at hstream
        refine h.files handle place content hstream hcontent fun other stream hother hthere => ?_
        refine hothers other stream hother ?_
        rw [find?_put_of_ne (hne hthere), hthere]
  · have hfind' : outlets'.find? (.named name) = some (stream.after (received (.named name))) := by
      rw [h.streams, hfind]
      rfl
    simp only [Outlets.ensure, hfind, hfind']
    exact h

/-- Streams that are made later receive what comes after they were made. -/
theorem Receives.prepared {received : Handle → String} {steps : List Step}
    (h : outlets.Receives received outlets')
    (hnone : ∀ handle, outlets.find? handle = none → received handle = "") :
    (outlets.prepared steps).Receives received (outlets'.prepared steps) := by
  induction steps generalizing outlets outlets' with
  | nil => exact h
  | cons step steps ih =>
      cases step with
      | attach name device =>
          refine ih (h.ensure (hnone (.named name))) fun handle hfind => ?_
          rcases hbefore : outlets.find? handle with - | stream
          · exact hnone handle hbefore
          · rw [find?_ensure_of_some hbefore] at hfind
            simp at hfind
      | _ => exact ih h hnone

end Outlets

end TraceLog
