import TraceLog.Outlets

/-!
# What Opening Leaves Alone

Opening a file for writing empties that file, or makes it, and adds one stream under a new
handle. No other file and no other stream is changed.

## Main results

* `Outlets.openFile_eq_ok_iff`: what opening a file gives.
* `Outlets.content?_openFile`, `Outlets.find?_openFile_of_ne`: the files and streams afterwards.
-/

namespace TraceLog

/-- A stream that was closed. Something that can only be written to cannot be closed. -/
def Stream.closing (stream : Stream) : Stream :=
  match stream.device with
  | .bare _ => stream
  | _ => { stream with closed := true }

namespace FileTree

variable {tree tree' : FileTree}

/-- The content of the files after one was opened. -/
theorem content?_of_openEmpty {place : Place} (h : tree.openEmpty place = .ok tree')
    (other : Place) :
    tree'.content? other = if other = place then some [] else tree.content? other := by
  by_cases hother : other = place
  · subst hother
    rw [if_pos rfl]
    exact content?_openEmpty h
  · rw [if_neg hother]
    exact content?_openEmpty_of_ne h hother

end FileTree

namespace Outlets

variable {outlets outlets' : Outlets}

/-- Storing a stream where it is already changes nothing. -/
theorem put_eq_self {handle : Handle} {stream : Stream} (h : outlets.find? handle = some stream) :
    outlets.put handle stream = outlets := by
  have htable : ∀ streams : Table Handle Stream, Table.find? handle streams = some stream →
      Table.put handle stream streams = streams := by
    intro streams
    induction streams with
    | nil => simp [Table.find?]
    | cons entry streams ih =>
        obtain ⟨key, there⟩ := entry
        intro hfind
        by_cases hkey : key = handle
        · simp only [Table.find?, hkey, if_true, Option.some.injEq] at hfind
          simp only [Table.put, hkey, hfind, if_true]
        · simp only [Table.find?, hkey, if_false] at hfind
          simp only [Table.put, hkey, if_false, ih hfind]
  rw [put, htable _ h]

/-- Storing a stream changes no file. -/
@[simp] theorem files_put (outlets : Outlets) (handle : Handle) (stream : Stream) :
    (outlets.put handle stream).files = outlets.files := rfl

/-- A stream that is opened gets the next number. -/
@[simp] theorem fst_openStream (outlets : Outlets) (device : Device) :
    (outlets.openStream device).1 = .opened outlets.opened := rfl

/-- Opening a stream changes no file. -/
@[simp] theorem files_openStream (outlets : Outlets) (device : Device) :
    (outlets.openStream device).2.files = outlets.files := rfl

/-- The streams after one was opened. -/
theorem find?_openStream (outlets : Outlets) (device : Device) (handle : Handle) :
    (outlets.openStream device).2.find? handle =
      if handle = .opened outlets.opened then some ⟨device, false⟩
      else outlets.find? handle := by
  by_cases hhandle : handle = .opened outlets.opened
  · subst hhandle
    rw [if_pos rfl]
    exact find?_put_self outlets _ _
  · rw [if_neg hhandle]
    exact find?_put_of_ne hhandle outlets _

/-- A stream that is asked for by its name is there. -/
theorem known_ensure (outlets : Outlets) (name : String) (device : Device) :
    ((outlets.ensure name device).find? (.named name)).isSome := by
  rcases hfind : outlets.find? (.named name) with - | stream
  · simp [ensure, hfind]
  · simp [ensure, hfind]

/-- A named stream is made without a file. -/
@[simp] theorem files_ensure (outlets : Outlets) (name : String) (device : Device) :
    (outlets.ensure name device).files = outlets.files := by
  rcases hfind : outlets.find? (.named name) with - | stream
  · simp [ensure, hfind]
  · simp [ensure, hfind]

/-- A named stream is made without a report. -/
@[simp] theorem reports_ensure (outlets : Outlets) (name : String) (device : Device) :
    (outlets.ensure name device).reports = outlets.reports := by
  rcases hfind : outlets.find? (.named name) with - | stream
  · simp only [ensure, hfind]
    rfl
  · simp only [ensure, hfind]

/-- Closing a stream changes no file. -/
@[simp] theorem files_close (handle : Handle) (outlets : Outlets) :
    (outlets.close handle).files = outlets.files := by
  rcases hfind : outlets.find? handle with - | stream
  · simp only [close, hfind]
  · simp only [close, hfind]
    split
    · rfl
    · rfl

/-- The streams after one was closed. -/
theorem find?_close (outlets : Outlets) (handle other : Handle) :
    (outlets.close handle).find? other =
      if other = handle then (outlets.find? other).map Stream.closing else outlets.find? other := by
  rcases hfind : outlets.find? handle with - | ⟨device, closed⟩
  · by_cases hother : other = handle
    · simp only [close, hother, hfind, if_true, Option.map_none]
    · simp only [close, hfind, if_neg hother]
  · have hput : outlets.close handle = outlets.put handle (Stream.closing ⟨device, closed⟩) ∨
        outlets.close handle = outlets ∧ Stream.closing ⟨device, closed⟩ = ⟨device, closed⟩ := by
      simp only [close, hfind]
      cases device with
      | bare content => exact .inr ⟨rfl, rfl⟩
      | _ => exact .inl rfl
    by_cases hother : other = handle
    · rcases hput with hclose | ⟨hclose, hself⟩
      · rw [hclose, hother, find?_put_self, if_pos rfl, hfind, Option.map_some]
      · rw [hclose, hother, if_pos rfl, hfind, Option.map_some, hself]
    · rw [if_neg hother]
      rcases hput with hclose | ⟨hclose, -⟩
      · rw [hclose, find?_put_of_ne hother]
      · rw [hclose]

/-- A stream that is there is not made again. -/
theorem find?_ensure_of_some {handle : Handle} {stream : Stream}
    (h : outlets.find? handle = some stream) (name : String) (device : Device) :
    (outlets.ensure name device).find? handle = some stream := by
  rcases hfind : outlets.find? (.named name) with - | there
  · have hne : handle ≠ .named name := by
      rintro rfl
      rw [hfind] at h
      simp at h
    simp only [ensure, hfind]
    rw [find?_put_of_ne hne, h]
  · simp only [ensure, hfind]
    exact h

/-- Standard error shows its lines alone when nothing was reported. -/
theorem errorText_of_text {content : String} {closed : Bool}
    (hconsole : outlets.find? .console = some ⟨.text content, closed⟩)
    (hreports : outlets.reports = []) : outlets.errorText = content := by
  simp only [errorText, hconsole, hreports, weave, String.ofList_toList]

/-- Opening a file empties it in the file tree, and opens a stream on it. -/
theorem openFile_eq_ok_iff {place : Place} {handle : Handle} :
    outlets.openFile place = .ok (handle, outlets') ↔
      ∃ files, outlets.files.openEmpty place = .ok files ∧
        ({ outlets with files } : Outlets).openStream (.file place 0) = (handle, outlets') := by
  rcases hopen : outlets.files.openEmpty place with fault | files
  · simp [openFile, hopen, bind, Except.bind]
  · simp [openFile, hopen, bind, Except.bind, pure, Except.pure]

/-- The content of the files after one was opened. -/
theorem content?_openFile {place : Place} {handle : Handle}
    (h : outlets.openFile place = .ok (handle, outlets')) (other : Place) :
    outlets'.files.content? other =
      if other = place then some [] else outlets.files.content? other := by
  obtain ⟨files, hopen, hstream⟩ := openFile_eq_ok_iff.mp h
  obtain rfl : _ = outlets' := congrArg Prod.snd hstream
  exact FileTree.content?_of_openEmpty hopen other

/-- Opening a file reports nothing. -/
theorem reports_openFile {place : Place} {handle : Handle}
    (h : outlets.openFile place = .ok (handle, outlets')) : outlets'.reports = outlets.reports := by
  obtain ⟨files, -, hstream⟩ := openFile_eq_ok_iff.mp h
  obtain ⟨rfl, rfl⟩ := Prod.mk.inj hstream
  rfl

/-- The streams after a file was opened. -/
theorem find?_openFile {place : Place} {handle : Handle}
    (h : outlets.openFile place = .ok (handle, outlets')) (other : Handle) :
    outlets'.find? other =
      if other = .opened outlets.opened then some ⟨.file place 0, false⟩
      else outlets.find? other := by
  obtain ⟨files, -, hstream⟩ := openFile_eq_ok_iff.mp h
  obtain rfl : _ = outlets' := congrArg Prod.snd hstream
  exact find?_openStream _ _ _

/-- The handle of a file that was opened. -/
theorem handle_openFile {place : Place} {handle : Handle}
    (h : outlets.openFile place = .ok (handle, outlets')) :
    handle = .opened outlets.opened ∧ outlets'.opened = outlets.opened + 1 := by
  obtain ⟨files, -, hstream⟩ := openFile_eq_ok_iff.mp h
  obtain ⟨rfl, rfl⟩ := Prod.mk.inj hstream
  exact ⟨rfl, rfl⟩

end Outlets

end TraceLog
