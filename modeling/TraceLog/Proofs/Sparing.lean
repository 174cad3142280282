import TraceLog.Proofs.Handover

/-!
# Outlets With and Without Some Streams

Two states of the outlets are compared, one of a run with all its sinks and one of the run without
those whose streams have a dropped name. `Outlets.Alike` says that they differ in nothing else: all
other streams are the same, and so are all files that no dropped stream writes to. What is done to
another stream on both sides keeps this, and so does what is done to a dropped stream on the first
side alone.

Handing texts to sinks in the first state, and to those that are not dropped in the second, keeps
it as well (`Outlets.Alike.handOver`). A fault of recursion is the exception: it takes the texts
from the sinks behind, so that no sink which is not dropped may come behind a dropped one that fails
so (`Outlets.Sheltered`).

## Main results

* `Outlets.Alike.write`, `Outlets.Alike.write_dropped`: one text.
* `Outlets.Alike.handOver`: texts that are handed to sinks.
* `Outlets.Alike.ensure`, `Outlets.Alike.close`: streams that are made and closed.
-/

namespace TraceLog

/-- Whether a stream has none of the dropped names. -/
def Handle.isSpared (dropped : List String) : Handle → Bool
  | .named name => !dropped.contains name
  | .console | .opened _ => true

/-- When no name is dropped, every stream is spared. -/
@[simp] theorem Handle.isSpared_nil (handle : Handle) : handle.isSpared [] = true := by
  cases handle with
  | _ => rfl

namespace Stream

/-- A stream that is closed keeps its role. -/
theorem role_closing (stream : Stream) : stream.closing.role = stream.role := by
  obtain ⟨device, closed⟩ := stream
  cases device with
  | _ => rfl

end Stream

namespace FileTree

/-- What is in a file after a write depends on what was in it. -/
theorem content?_writeAt_congr {tree tree' : FileTree} {other : Place}
    (h : tree'.content? other = tree.content? other) (place : Place) (offset : Nat)
    (bytes : List UInt8) :
    (tree'.writeAt place offset bytes).content? other =
      (tree.writeAt place offset bytes).content? other := by
  by_cases hother : other = place
  · subst hother
    rw [writeAt, writeAt, h]
    exact (Table.find?_put_self other _ tree'.files).trans
      (Table.find?_put_self other _ tree.files).symm
  · rw [content?_writeAt_of_ne hother, content?_writeAt_of_ne hother, h]

end FileTree

/-- What is in a file after a line was written depends on what was in it. -/
theorem Sink.content?_filesAfter_congr {files files' : FileTree} {place : Place}
    (h : files'.content? place = files.content? place) (line : String) (sink : Sink)
    (stream : Stream) :
    (sink.filesAfter line stream files').content? place =
      (sink.filesAfter line stream files).content? place := by
  have htext : (stream.filesAfter line files').content? place =
      (stream.filesAfter line files).content? place := by
    rw [Stream.filesAfter, Stream.filesAfter]
    split
    · exact FileTree.content?_writeAt_congr h _ _ _
    · exact h
  rw [filesAfter, filesAfter]
  split
  · exact h
  · exact htext
  · exact htext

namespace Outlets

variable {dropped : List String} {outlets outlets' spared spared' : Outlets} {sink : Sink}
  {lineEnd : List Char} {line : String} {name : String} {handle : Handle}

/-! ### Alike -/

/-- No dropped stream writes to the file at this place. -/
def Shows (dropped : List String) (outlets : Outlets) (place : Place) : Prop :=
  ∀ handle, handle.isSpared dropped = false →
    ∀ recurses, outlets.roles handle ≠ some (recurses, some place)

/-- The second outlets have what the first ones have, dropped streams and their files aside. -/
structure Alike (dropped : List String) (outlets spared : Outlets) : Prop where
  streams : ∀ handle, handle.isSpared dropped = true →
    spared.find? handle = outlets.find? handle
  files : ∀ place, outlets.Shows dropped place →
    spared.files.content? place = outlets.files.content? place

/-- Outlets are like themselves. -/
theorem Alike.refl (dropped : List String) (outlets : Outlets) : Alike dropped outlets outlets :=
  ⟨fun _ _ => rfl, fun _ _ => rfl⟩

/-- Nothing but dropped streams and their files may change on the first side. -/
theorem Alike.change (h : Alike dropped outlets spared)
    (hstreams : ∀ handle, handle.isSpared dropped = true →
      outlets'.find? handle = outlets.find? handle)
    (hfiles : ∀ place, outlets'.Shows dropped place → outlets.Shows dropped place ∧
      outlets'.files.content? place = outlets.files.content? place) :
    Alike dropped outlets' spared where
  streams handle hspared := (h.streams handle hspared).trans (hstreams handle hspared).symm
  files place hshows := (h.files place (hfiles place hshows).1).trans (hfiles place hshows).2.symm

/-- Spared streams fail with a fault of recursion in both or in none. -/
theorem Alike.recurses_iff (h : Alike dropped outlets spared)
    (hspared : handle.isSpared dropped = true) :
    spared.Recurses handle ↔ outlets.Recurses handle := by
  rw [Recurses, Recurses, h.streams handle hspared]

/-- Reports are not compared. -/
theorem alike_withoutReports_iff :
    Alike dropped outlets.withoutReports spared.withoutReports ↔ Alike dropped outlets spared :=
  ⟨fun h => ⟨h.streams, h.files⟩, fun h => ⟨h.streams, h.files⟩⟩

/-- Standard error is never dropped. -/
theorem Alike.console (h : Alike dropped outlets spared) :
    spared.blanks .console = outlets.blanks .console := by
  rw [blanks, blanks, h.streams .console rfl]

/-- Standard error hears all reports in both or in none. -/
theorem Alike.hears_iff (h : Alike dropped outlets spared) : spared.Hears ↔ outlets.Hears :=
  hears_congr h.console

/-! ### Texts -/

/-- **A text that is written to another stream** is written to the same one on both sides. -/
theorem Alike.write (h : Alike dropped outlets spared)
    (hspared : sink.handle.isSpared dropped = true) (lineEnd : List Char) (line : String) :
    (∃ next next', sink.write lineEnd line outlets = .ok next ∧
      sink.write lineEnd line spared = .ok next' ∧ Alike dropped next next') ∨
    ∃ fault, sink.write lineEnd line outlets = .error fault ∧
      sink.write lineEnd line spared = .error fault := by
  have hfind := h.streams sink.handle hspared
  rcases hthere : outlets.find? sink.handle with - | stream
  · refine .inl ⟨outlets, spared, ?_, ?_, h⟩
    · rw [Sink.write_eq, hthere]
    · rw [Sink.write_eq, hfind, hthere]
  have hwrite : ∀ {given : Outlets}, given.find? sink.handle = some stream →
      sink.write lineEnd line given = (sink.streamAfter lineEnd line stream).map fun stream' =>
        ({ given with files := sink.filesAfter line stream given.files } : Outlets).put
          sink.handle stream' := by
    intro given hgiven
    rw [Sink.write_eq, hgiven]
    simp only [Sink.writeTo_eq]
    rcases sink.streamAfter lineEnd line stream with fault | stream'
    · rfl
    · rfl
  have hfirst := hwrite hthere
  have hsecond := hwrite (hfind.trans hthere)
  rcases hafter : sink.streamAfter lineEnd line stream with fault | stream'
  · rw [hafter] at hfirst hsecond
    exact .inr ⟨fault, hfirst, hsecond⟩
  · rw [hafter] at hfirst hsecond
    refine .inl ⟨_, _, hfirst, hsecond, fun handle hhandle => ?_, fun place hshows => ?_⟩
    · by_cases hself : handle = sink.handle
      · rw [hself, find?_put_self, find?_put_self]
      · rw [find?_put_of_ne hself, find?_put_of_ne hself]
        exact h.streams handle hhandle
    · rw [Shows, Sink.roles_write hfirst] at hshows
      exact Sink.content?_filesAfter_congr (h.files place hshows) line sink stream

/-- **A text that is written to a dropped stream** is written on the first side alone. -/
theorem Alike.write_dropped (h : Alike dropped outlets spared)
    (hdropped : sink.handle.isSpared dropped = false)
    (hwrite : sink.write lineEnd line outlets = .ok outlets') : Alike dropped outlets' spared := by
  refine h.change (fun handle hspared => Sink.find?_write_of_ne hwrite ?_) fun place hshows => ?_
  · rintro rfl
    rw [hdropped] at hspared
    exact absurd hspared (by decide)
  · rw [Shows, Sink.roles_write hwrite] at hshows
    refine ⟨hshows, ?_⟩
    have houtcome := Sink.outcome_write lineEnd line sink outlets
    rw [hwrite] at houtcome
    cases houtcome with
    | nowhere => rfl
    | @taken stream stream' hfind hafter =>
        refine Sink.content?_filesAfter_of_ne (fun hplace => ?_) line sink outlets.files
        refine hshows sink.handle hdropped stream.role.1 ?_
        rw [roles, hfind, ← hplace]
        rfl

/-- No sink that is not dropped comes behind a dropped one that fails with a fault of
recursion. -/
def Sheltered (dropped : List String) (outlets : Outlets) (handles : List Handle) : Prop :=
  handles.Pairwise fun first later => outlets.Recurses first → later.isSpared dropped = true →
    first.isSpared dropped = true

instance (dropped : List String) (outlets : Outlets) (handles : List Handle) :
    Decidable (outlets.Sheltered dropped handles) :=
  inferInstanceAs (Decidable (List.Pairwise _ handles))

/-- Whether spared streams are sheltered is settled by the roles. -/
theorem Sheltered.congr {handles : List Handle} (h : outlets.Sheltered dropped handles)
    (hroles : outlets'.roles = outlets.roles) : outlets'.Sheltered dropped handles :=
  h.imp fun himp hrecurses => himp ((recurses_congr hroles _).mp hrecurses)

/-- Behind a dropped stream that fails with a fault of recursion, all are dropped. -/
theorem Sheltered.dropped_of_recurses {handles : List Handle}
    (h : outlets.Sheltered dropped (handle :: handles))
    (hdropped : handle.isSpared dropped = false) (hrecurses : outlets.Recurses handle) :
    ∀ later ∈ handles, later.isSpared dropped = false := by
  intro later hmem
  rcases hspared : later.isSpared dropped with - | -
  · rfl
  · exact ((List.pairwise_cons.mp h).1 later hmem hrecurses hspared).symm.trans hdropped

/-- **Texts that are handed to sinks** keep two outlets alike when they are handed to the sinks
that are not dropped on the second side. -/
theorem Alike.handOver {handed : List (Sink × String)} (h : Alike dropped outlets spared)
    (lineEnd : List Char)
    (hsheltered : outlets.Sheltered dropped (handed.map fun given => given.1.handle)) :
    Alike dropped (handOver lineEnd handed outlets).1
      (handOver lineEnd (handed.filter fun given => given.1.handle.isSpared dropped) spared).1 := by
  induction handed generalizing outlets spared with
  | nil => exact h
  | cons given handed ih =>
      obtain ⟨sink, text⟩ := given
      have hlater : outlets.Sheltered dropped (handed.map fun given => given.1.handle) :=
        (List.pairwise_cons.mp hsheltered).2
      rcases hspared : sink.handle.isSpared dropped with - | -
      · rw [List.filter_cons_of_neg (by simp [hspared])]
        by_cases hrecurses : outlets.Recurses sink.handle
        · have hnone : (handed.filter fun given => given.1.handle.isSpared dropped) = [] := by
            have hall := hsheltered.dropped_of_recurses hspared hrecurses
            refine List.filter_eq_nil_iff.mpr fun given hmem => ?_
            simp [hall _ (List.mem_map_of_mem hmem)]
          rw [handOver_cons_of_recurses hrecurses, hnone]
          exact h
        · rcases hwrite : sink.write lineEnd text outlets with fault | next
          · rw [handOver_cons_of_error hwrite hrecurses]
            exact ih h hlater
          · rw [handOver_cons_of_ok hwrite]
            exact ih (h.write_dropped hspared hwrite) (hlater.congr (Sink.roles_write hwrite))
      · rw [List.filter_cons_of_pos (by simp [hspared])]
        by_cases hrecurses : outlets.Recurses sink.handle
        · rw [handOver_cons_of_recurses hrecurses,
            handOver_cons_of_recurses ((h.recurses_iff hspared).mpr hrecurses)]
          exact h
        · have hrecurses' := (h.recurses_iff hspared).not.mpr hrecurses
          rcases h.write hspared lineEnd text with
            ⟨next, next', hwrite, hwrite', halike⟩ | ⟨fault, hwrite, hwrite'⟩
          · rw [handOver_cons_of_ok hwrite, handOver_cons_of_ok hwrite']
            exact ih halike (hlater.congr (Sink.roles_write hwrite))
          · rw [handOver_cons_of_error hwrite hrecurses, handOver_cons_of_error hwrite' hrecurses']
            exact ih h hlater

/-! ### Streams that are made and closed -/

/-- A stream that is there stays what it is when one is made. -/
theorem roles_ensure_of_some {role : Bool × Option Place} (h : outlets.roles handle = some role)
    (name : String) (device : Device) : (outlets.ensure name device).roles handle = some role := by
  obtain ⟨stream, hfind, rfl⟩ := Option.map_eq_some_iff.mp h
  rw [roles, find?_ensure_of_some hfind]
  rfl

/-- Making a stream makes it where there is none. -/
theorem find?_ensure (outlets : Outlets) (name : String) (device : Device) (handle : Handle) :
    (outlets.ensure name device).find? handle =
      if handle = .named name then some ((outlets.find? handle).getD ⟨device, false⟩)
      else outlets.find? handle := by
  by_cases hhandle : handle = .named name
  · subst hhandle
    rw [if_pos rfl, ensure]
    rcases hfind : outlets.find? (.named name) with - | stream
    · exact find?_put_self _ _ _
    · exact hfind
  · rw [if_neg hhandle, ensure]
    split
    · rfl
    · exact find?_put_of_ne hhandle _ _

/-- Making a stream does not concern standard error. -/
theorem hears_ensure (outlets : Outlets) (name : String) (device : Device) :
    (outlets.ensure name device).Hears ↔ outlets.Hears := by
  refine hears_congr ?_
  rw [blanks, blanks, find?_ensure, if_neg (by simp)]

/-- Nor does closing one that has a name. -/
theorem hears_close (outlets : Outlets) (name : String) :
    (outlets.close (.named name)).Hears ↔ outlets.Hears := by
  refine hears_congr ?_
  rw [blanks, blanks, find?_close, if_neg (by simp)]

/-- Closing a stream changes nothing that never changes about it. -/
theorem roles_close (outlets : Outlets) (handle : Handle) :
    (outlets.close handle).roles = outlets.roles := by
  funext other
  rw [roles, roles, find?_close]
  split
  · rw [Option.map_map]
    congr 1
    funext stream
    exact stream.role_closing
  · rfl

/-- A file that no dropped stream writes to stays such a file when a stream is made. -/
theorem shows_of_ensure {device : Device} {place : Place}
    (h : (outlets.ensure name device).Shows dropped place) : outlets.Shows dropped place :=
  fun handle hdropped recurses hrole =>
    h handle hdropped recurses (roles_ensure_of_some hrole name device)

/-- A stream that is made on both sides. -/
theorem Alike.ensure (h : Alike dropped outlets spared) (name : String) (device : Device) :
    Alike dropped (outlets.ensure name device) (spared.ensure name device) where
  streams handle hspared := by
    rw [find?_ensure, find?_ensure, h.streams handle hspared]
  files place hshows := by
    rw [files_ensure, files_ensure]
    exact h.files place (shows_of_ensure hshows)

/-- A dropped stream that is made on the first side alone. -/
theorem Alike.ensure_dropped (h : Alike dropped outlets spared)
    (hdropped : (Handle.named name).isSpared dropped = false) (device : Device) :
    Alike dropped (outlets.ensure name device) spared := by
  refine h.change (fun handle hspared => ?_) fun place hshows => ⟨shows_of_ensure hshows, ?_⟩
  · rw [find?_ensure, if_neg]
    rintro rfl
    rw [hdropped] at hspared
    exact absurd hspared (by decide)
  · rw [files_ensure]

/-- A stream that is closed on both sides. -/
theorem Alike.close (h : Alike dropped outlets spared) (handle : Handle) :
    Alike dropped (outlets.close handle) (spared.close handle) where
  streams other hspared := by
    rw [find?_close, find?_close, h.streams other hspared]
  files place hshows := by
    rw [Shows, roles_close] at hshows
    rw [files_close, files_close]
    exact h.files place hshows

end Outlets

end TraceLog
