/-
# Sessions

The file methods of the plugin are virtual functions, and nothing in them depends on the order in
which they are called.  A session is a sequence of calls, by any caller and in any order, on a new
plugin object, up to the call that ends the process.

The calls of a session communicate through the members of the object.  The results of this file
remove the object from the picture: what a call does follows from the calls made before it and
from how they have ended.

* `session_outcomes`: how each call ends is a function of the call, of the array that the schema
  was made for, and of the stream that is open.
* `session_streams`: every Arrow call is made on the stream that is open, and a stream that has
  been closed or replaced is not used again.
* `session_undefined_iff` says which calls run into undefined behaviour.
-/
import ADPluginArrow.Faults
import ADPluginArrow.Sequence
import ADPluginArrow.Lib.Handles

namespace ADPluginArrow

open CLang Runs

/-! ### The system -/

/-- A call of a file method, with what the Arrow calls in it report. -/
inductive Call where
  | openFile (fileName : String) (openMode : NDFileOpenMode) (pArray : NDArray) (opened : Status)
  | readFile
  | writeFile (fileFormat : ℤ) (reply : Replies) (pArray : NDArray)
  | closeFile (closed : Status)
deriving DecidableEq, Repr

/-- What a call does on an object, where the streams are numbered as they are opened. -/
def Call.effect (L : Library) (self : NDFileArrow) (nextStream : Stream) : Call → Effect
  | openFile fileName openMode pArray opened =>
    ADPluginArrow.openFile L (openResult opened nextStream) self fileName openMode pArray
  | readFile => ADPluginArrow.readFile self
  | writeFile fileFormat reply pArray => ADPluginArrow.writeFile L fileFormat reply self pArray
  | closeFile closed => ADPluginArrow.closeFile closed self

/-- A call that has been made, and the number that its stream has if it opens one. -/
structure Record where
  call : Call
  stream : Stream
  effect : Effect
deriving DecidableEq, Repr

/-- What becomes of the stream of the object: a successful `openFile` replaces it, a successful
`closeFile` gives it up. -/
def Record.op (r : Record) : Handles.Op Stream :=
  match r.call, r.effect.outcome with
  | .openFile .., .asynSuccess => .acquire r.stream
  | .closeFile _, .asynSuccess => .release
  | _, _ => .keep

/-- The streams that the Arrow calls of a call work on, and what becomes of the stream. -/
def Record.move (r : Record) : Handles.Move Stream :=
  ⟨r.effect.calls.filterMap ArrowCall.stream, r.op⟩

/-- The plugin object, the number of the next stream, the calls made so far, and whether the
process has ended. -/
structure Session where
  self : NDFileArrow
  nextStream : Stream
  history : List Record
  ended : Bool

/-- The record of a call. -/
def Session.record (L : Library) (c : Session) (call : Call) : Record :=
  ⟨call, c.nextStream, call.effect L c.self c.nextStream⟩

/-- The number of the next stream. -/
def Record.nextStream (r : Record) : Stream :=
  match r.op with
  | .acquire s => s + 1
  | _ => r.stream

/-- The session after a call. -/
def Session.after (c : Session) (r : Record) : Session where
  self := r.effect.self
  nextStream := r.nextStream
  history := c.history ++ [r]
  ended := r.effect.outcome.ends

/-- The system: any call, until the process has ended. -/
def Session.Step (L : Library) (c : Session) (call : Call) (c' : Session) : Prop :=
  c.ended = false ∧ c' = c.after (c.record L call)

/-- A new plugin object. -/
def Session.start : Session := ⟨{}, 0, [], false⟩

/-! ### What a caller can tell -/

/-- The array that the schema was made for, with the type of its elements.  The schema is also
replaced by an `openFile` that ends the process. -/
def Record.array (r : Record) (array : Option (NDArray × CType)) : Option (NDArray × CType) :=
  match r.call, r.effect.outcome with
  | .openFile _ _ pArray _, .asynSuccess => pArray.dataType.ctype.map (pArray, ·)
  | .openFile _ _ pArray _, .terminates => pArray.dataType.ctype.map (pArray, ·)
  | _, _ => array

/-- The array that the schema was made for, after some calls. -/
def fileArray (past : List Record) : Option (NDArray × CType) :=
  past.foldl (fun array r => r.array array) none

/-- The stream that is open, after some calls. -/
def fileStream (past : List Record) : Option Stream := Handles.held (past.map Record.move)

/-- The file format that a value of the parameter `ARROW_FILE_FORMAT` stands for. -/
def formatOf (fileFormat : ℤ) : Option NDArrowFileFormat :=
  if fileFormat = NDArrowFileFormat.PARQUET.value then some .PARQUET
  else if fileFormat = NDArrowFileFormat.IPC.value then some .IPC
  else if fileFormat = NDArrowFileFormat.CSV.value then some .CSV
  else none

/-- How writing a table to an open stream ends in a file format. -/
def formatOutcome (reply : Replies) : NDArrowFileFormat → Outcome
  | .PARQUET => checkStatus reply.parquetWriteTable
  | .CSV | .IPC =>
    if reply.makeWriter ≠ .OK then .terminates
    else if reply.writeTable = .OK then checkStatus reply.closeWriter
    else checkStatus reply.writeTable

/-- How writing a table ends, for the stream that is open. -/
def writersOutcome (fileFormat : ℤ) (reply : Replies) (stream : Option Stream) : Outcome :=
  match formatOf fileFormat with
  | none => .asynError (some "Unsupported Arrow file format for writing!")
  | some format => if stream = none then .undefined .nullPointer else formatOutcome reply format

/-- How `writeFile` ends, for the array that the schema was made for and the stream that is
open. -/
def writeOutcome (L : Library) (fileFormat : ℤ) (reply : Replies) (pArray : NDArray)
    (array : Option (NDArray × CType)) (stream : Option Stream) : Outcome :=
  match array with
  | none => .undefined .nullPointer
  | some (B, t) =>
    match tableFailure L B t pArray with
    | some outcome => outcome
    | none => writersOutcome fileFormat reply stream

/-- How `closeFile` ends. -/
def closeOutcome (closed : Status) (stream : Option Stream) : Outcome :=
  match stream, closed with
  | some _, .error _ message =>
    .asynError (some ("Failed to close Arrow output file: " ++ message))
  | _, _ => .asynSuccess

/-- How a call ends, for the array that the schema was made for and the stream that is open. -/
def Call.outcome (L : Library) (array : Option (NDArray × CType)) (stream : Option Stream) :
    Call → Outcome
  | openFile _ openMode pArray opened => openOutcome L openMode pArray opened
  | readFile => .asynSuccess
  | writeFile fileFormat reply pArray => writeOutcome L fileFormat reply pArray array stream
  | closeFile closed => closeOutcome closed stream

/-! ### The methods -/

/-- The members of an object, as the calls made so far account for them. -/
structure Agrees (L : Library) (object : NDFileArrow) (array : Option (NDArray × CType))
    (stream : Option Stream) : Prop where
  outfile : object.outfile = stream
  schema : match array with
    | none => object.schema = none
    | some (B, t) => B.dataType.ctype = some t ∧ (L.getInfo B).colorMode.Supported ∧
      object.schema = some (schemaFor (L.getInfo B) t)

/-- A call ends as it should, works on no stream but the one that is open, and leaves an object
that the calls account for. -/
structure Record.Accounted (L : Library) (array : Option (NDArray × CType))
    (stream : Option Stream) (r : Record) : Prop where
  outcome : r.effect.outcome = r.call.outcome L array stream
  uses : ∀ s ∈ r.move.uses, stream = some s
  agrees : Agrees L r.effect.self (r.array array) (r.op.apply stream)

section Methods

variable {L : Library} {self : NDFileArrow} {array : Option (NDArray × CType)}
  {stream : Option Stream}

/-- A call that leaves the object and the stream alone, and makes no Arrow call. -/
lemma Record.accounted_of_unchanged (h : Agrees L self array stream) {r : Record}
    (heffect : r.effect = ⟨r.call.outcome L array stream, self, []⟩) (hop : r.op = .keep)
    (harray : r.array array = array) : r.Accounted L array stream where
  outcome := congrArg Effect.outcome heffect
  uses s hs := absurd hs (by simp [Record.move, heffect])
  agrees := by
    rw [heffect, hop, harray]
    exact h

lemma accounted_openFile (h : Agrees L self array stream) (fileName : String)
    (openMode : NDFileOpenMode) (A : NDArray) (opened : Status) (next : Stream) :
    Record.Accounted L array stream ⟨.openFile fileName openMode A opened, next,
      openFile L (openResult opened next) self fileName openMode A⟩ := by
  rcases openFile_cases L self fileName openMode A opened next with
    ⟨t, ht, hmode, houtcome, heq⟩ | ⟨t, ht, hmode, houtcome, heq⟩ | ⟨hfailed, heq⟩
  · rw [heq]
    refine ⟨houtcome.symm, ?_, rfl, ?_⟩
    · intro s hs
      exact absurd hs (by simp [Record.move, ArrowCall.stream])
    · simp [Record.array, ht, hmode]
  · -- the schema is the one of the new array, the stream is still the old one
    rw [heq]
    refine ⟨houtcome.symm, ?_, h.outfile, ?_⟩
    · intro s hs
      exact absurd hs (by simp [Record.move, ArrowCall.stream])
    · simp [Record.array, ht, hmode]
  · rw [heq]
    refine Record.accounted_of_unchanged h rfl ?_ ?_
    · rcases hfailed with ⟨log, hlog⟩ | ⟨what, hwhat⟩
      · simp [Record.op, hlog]
      · simp [Record.op, hwhat]
    · rcases hfailed with ⟨log, hlog⟩ | ⟨what, hwhat⟩
      · simp [Record.array, hlog]
      · simp [Record.array, hwhat]

lemma formatOf_eq_some_iff {fileFormat : ℤ} {format : NDArrowFileFormat} :
    formatOf fileFormat = some format ↔ format.value = fileFormat := by
  constructor
  · intro h
    rw [formatOf] at h
    split_ifs at h with hparquet hipc hcsv
    · exact Option.some.inj h ▸ hparquet.symm
    · exact Option.some.inj h ▸ hipc.symm
    · exact Option.some.inj h ▸ hcsv.symm
  · rintro rfl
    cases format <;> rfl

lemma formatOf_eq_none_iff {fileFormat : ℤ} :
    formatOf fileFormat = none ↔ fileFormat ≠ 0 ∧ fileFormat ≠ 1 ∧ fileFormat ≠ 2 := by
  have hvalues : NDArrowFileFormat.PARQUET.value = 0 ∧ NDArrowFileFormat.CSV.value = 1 ∧
      NDArrowFileFormat.IPC.value = 2 := ⟨rfl, rfl, rfl⟩
  rw [formatOf]
  split_ifs
  · exact iff_of_false (by simp) (by omega)
  · exact iff_of_false (by simp) (by omega)
  · exact iff_of_false (by simp) (by omega)
  · exact iff_of_true rfl (by omega)

/-- A writer that is made, written to and closed works on the stream that it was made for. -/
lemma writeWith_spec (kind : WriterKind) (reply : Replies) (s : Stream) (table : Table) :
    (writeWith kind reply (some s) table).2 = formatOutcome reply .IPC ∧
      ∀ s' ∈ (writeWith kind reply (some s) table).1.filterMap ArrowCall.stream,
        some s = some s' := by
  rw [writeWith, formatOutcome]
  split_ifs <;> simp [ArrowCall.stream]

lemma writeTable_spec (fileFormat : ℤ) (reply : Replies) (stream : Option Stream) (table : Table) :
    (writeTable fileFormat reply stream table).2 = writersOutcome fileFormat reply stream ∧
      ∀ s ∈ (writeTable fileFormat reply stream table).1.filterMap ArrowCall.stream,
        stream = some s := by
  rw [writersOutcome]
  cases hformat : formatOf fileFormat with
  | none =>
    obtain ⟨hparquet, hcsv, hipc⟩ := formatOf_eq_none_iff.mp hformat
    have hnone : writeTable fileFormat reply stream table
        = ([], .asynError (some "Unsupported Arrow file format for writing!")) := by
      simp [writeTable, NDArrowFileFormat.value, hparquet, hcsv, hipc]
    rw [hnone]
    exact ⟨rfl, by simp⟩
  | some format =>
    obtain rfl := formatOf_eq_some_iff.mp hformat
    cases stream with
    | none => cases format <;> exact ⟨rfl, by simp [writeTable, writeWith, NDArrowFileFormat.value]⟩
    | some s =>
      cases format with
      | PARQUET => exact ⟨rfl, by simp [writeTable, ArrowCall.stream]⟩
      | CSV => exact writeWith_spec .csv reply s table
      | IPC => exact writeWith_spec .ipc reply s table

lemma accounted_writeFile (h : Agrees L self array stream) (fileFormat : ℤ) (reply : Replies)
    (A : NDArray) (next : Stream) :
    Record.Accounted L array stream ⟨.writeFile fileFormat reply A, next,
      writeFile L fileFormat reply self A⟩ := by
  have hself := writeFile_self L fileFormat reply self A
  obtain ⟨schema, outfile⟩ := self
  obtain ⟨rfl, hschema⟩ := h
  -- where no table is built, nothing happens
  have hfailed : ∀ outcome, buildTable L schema A = .error outcome →
      writeOutcome L fileFormat reply A array outfile = outcome →
      Record.Accounted L array outfile ⟨.writeFile fileFormat reply A, next,
        writeFile L fileFormat reply ⟨schema, outfile⟩ A⟩ := by
    rintro outcome hbuild rfl
    rw [writeFile_of_error hbuild]
    exact Record.accounted_of_unchanged ⟨rfl, hschema⟩ rfl rfl rfl
  cases array with
  | none =>
    obtain rfl : schema = none := hschema
    exact hfailed _ rfl rfl
  | some p =>
    obtain ⟨B, t⟩ := p
    obtain ⟨ht, hmode, hsome⟩ := hschema
    obtain rfl : schema = some (schemaFor (L.getInfo B) t) := hsome
    have hbuild := buildTable_total (A := A) (t := t) hmode
    cases hfailure : tableFailure L B t A with
    | some outcome =>
      rw [hfailure] at hbuild
      refine hfailed outcome hbuild ?_
      rw [writeOutcome, hfailure]
    | none =>
      rw [hfailure] at hbuild
      obtain ⟨columns, hbuilt, -⟩ := hbuild
      rw [writeFile_of_ok hbuilt]
      obtain ⟨houtcome, huses⟩ := writeTable_spec fileFormat reply outfile
        ⟨schemaFor (L.getInfo B) t, columns⟩
      refine ⟨?_, huses, rfl, ht, hmode, rfl⟩
      rw [Call.outcome, writeOutcome, hfailure]
      exact houtcome

lemma accounted_closeFile (h : Agrees L self array stream) (closed : Status) (next : Stream) :
    Record.Accounted L array stream ⟨.closeFile closed, next, closeFile closed self⟩ := by
  obtain ⟨rfl, hschema⟩ := h
  rw [closeFile]
  cases houtfile : self.outfile with
  | none => exact ⟨rfl, by simp [Record.move], houtfile, hschema⟩
  | some s =>
    cases closed with
    | OK => exact ⟨rfl, by simp [Record.move, ArrowCall.stream], rfl, hschema⟩
    | error code message =>
      exact ⟨rfl, by simp [Record.move, ArrowCall.stream], houtfile, hschema⟩

lemma accounted (h : Agrees L self array stream) (call : Call) (next : Stream) :
    Record.Accounted L array stream ⟨call, next, call.effect L self next⟩ := by
  cases call with
  | openFile fileName openMode A opened =>
    exact accounted_openFile h fileName openMode A opened next
  | readFile => exact Record.accounted_of_unchanged h rfl rfl rfl
  | writeFile fileFormat reply A => exact accounted_writeFile h fileFormat reply A next
  | closeFile closed => exact accounted_closeFile h closed next

end Methods

/-! ### Whole sessions -/

/-- The calls made so far account for the object and for each other. -/
structure Session.Inv (L : Library) (c : Session) : Prop where
  agrees : Agrees L c.self (fileArray c.history) (fileStream c.history)
  outcomes : Throughout (fun past r =>
    r.effect.outcome = r.call.outcome L (fileArray past) (fileStream past)) c.history
  disciplined : Handles.Disciplined (c.history.map Record.move)
  increasing : (Handles.acquired (c.history.map Record.move)).Pairwise (· < ·)
  below : ∀ s ∈ Handles.acquired (c.history.map Record.move), s < c.nextStream

namespace Session

variable {L : Library} {c c' : Session} {calls calls' : List Call}

lemma inv_start (L : Library) : start.Inv L where
  agrees := ⟨rfl, rfl⟩
  outcomes := throughout_nil _
  disciplined := throughout_nil _
  increasing := List.Pairwise.nil
  below := by simp [start, Handles.acquired]

lemma inv_step (c : Session) (call : Call) (c' : Session) (h : c.Inv L)
    (hstep : Session.Step L c call c') : c'.Inv L := by
  obtain ⟨-, rfl⟩ := hstep
  have hr : (c.record L call).Accounted L (fileArray c.history) (fileStream c.history) :=
    accounted h.agrees call c.nextStream
  have hmoves : (c.history ++ [c.record L call]).map Record.move
      = c.history.map Record.move ++ [(c.record L call).move] := by simp
  have harray : fileArray (c.history ++ [c.record L call])
      = (c.record L call).array (fileArray c.history) := by simp [fileArray]
  have hstream : fileStream (c.history ++ [c.record L call])
      = (c.record L call).op.apply (fileStream c.history) := by
    rw [fileStream, hmoves, Handles.held_append_singleton]
    rfl
  -- a stream that is opened has the next number
  have hacquired : (c.record L call).op.acquired = none ∧
        (c.record L call).nextStream = c.nextStream ∨
      (c.record L call).op.acquired = some c.nextStream ∧
        (c.record L call).nextStream = c.nextStream + 1 := by
    rw [Record.nextStream, Record.op]
    split
    · exact Or.inr ⟨rfl, rfl⟩
    · exact Or.inl ⟨rfl, rfl⟩
    · exact Or.inl ⟨rfl, rfl⟩
  refine ⟨?_, h.outcomes.append_singleton hr.outcome, ?_, ?_, ?_⟩
  · show Agrees L (c.record L call).effect.self (fileArray (c.history ++ [c.record L call]))
      (fileStream (c.history ++ [c.record L call]))
    rw [harray, hstream]
    exact hr.agrees
  · show Handles.Disciplined ((c.history ++ [c.record L call]).map Record.move)
    rw [hmoves]
    exact Throughout.append_singleton h.disciplined hr.uses
  · show (Handles.acquired ((c.history ++ [c.record L call]).map Record.move)).Pairwise _
    rw [hmoves, Handles.acquired_append_singleton]
    rcases hacquired with ⟨hnone, -⟩ | ⟨hsome, -⟩
    · rw [Record.move, hnone, Option.toList_none, List.append_nil]
      exact h.increasing
    · rw [Record.move, hsome, Option.toList_some, List.pairwise_append]
      refine ⟨h.increasing, List.pairwise_singleton _ _, ?_⟩
      intro s hs s' hs'
      rw [List.mem_singleton.mp hs']
      exact h.below s hs
  · show ∀ s ∈ Handles.acquired ((c.history ++ [c.record L call]).map Record.move),
      s < (c.record L call).nextStream
    rw [hmoves, Handles.acquired_append_singleton]
    intro s hs
    rcases hacquired with ⟨hnone, hnext⟩ | ⟨hsome, hnext⟩
    · rw [Record.move, hnone, Option.toList_none, List.append_nil] at hs
      rw [hnext]
      exact h.below s hs
    · rw [Record.move, hsome, Option.toList_some] at hs
      rw [hnext]
      rcases List.mem_append.mp hs with hs | hs
      · exact (h.below s hs).trans (Nat.lt_succ_self _)
      · rw [List.mem_singleton.mp hs]
        exact Nat.lt_succ_self _

/-- The calls of a run are recorded after those that have been made before. -/
lemma history_of_run (hrun : Run (Step L) c calls c') :
    ∃ later, c'.history = c.history ++ later ∧ later.map Record.call = calls := by
  induction hrun with
  | nil c => exact ⟨[], by simp, rfl⟩
  | @cons c c₁ c' call calls hstep _ ih =>
    obtain ⟨-, rfl⟩ := hstep
    obtain ⟨later, hlater, hcalls⟩ := ih
    refine ⟨c.record L call :: later, ?_, ?_⟩
    · rw [hlater, after, List.append_assoc, List.singleton_append]
    · rw [List.map_cons, hcalls]
      rfl

end Session

/-- **The object is accounted for by the calls.**  In every session, each call ends as the call
itself, the array that the schema was made for and the stream that is open call for; these two are
given by the calls before it and by how they have ended. -/
theorem session_outcomes {L : Library} {calls : List Call} {c : Session}
    (hrun : Run (Session.Step L) .start calls c) :
    c.history.map Record.call = calls ∧
      Agrees L c.self (fileArray c.history) (fileStream c.history) ∧
      Throughout (fun past r =>
        r.effect.outcome = r.call.outcome L (fileArray past) (fileStream past)) c.history := by
  have hinv : c.Inv L := hrun.invariant Session.inv_step (Session.inv_start L)
  obtain ⟨later, hlater, hcalls⟩ := Session.history_of_run hrun
  obtain rfl : c.history = later := hlater
  exact ⟨hcalls, hinv.agrees, hinv.outcomes⟩

/-- Opening a file for a single pixel. -/
def openPixel : Call := .openFile "dot" .NDFileModeWrite (pixelOfType .NDUInt8 [7]) .OK

/-- Writing the pixel to the file. -/
def writePixel : Call := .writeFile NDArrowFileFormat.CSV.value .ok (pixelOfType .NDUInt8 [7])

theorem session_outcomes_pixel : ∃ c : Session,
    c.history.map Record.call = [openPixel, writePixel] ∧
      Throughout (fun past r => r.effect.outcome
        = r.call.outcome Library.reference (fileArray past) (fileStream past)) c.history := by
  have hrun : Run (Session.Step Library.reference) .start [openPixel, writePixel] _ :=
    Run.cons ⟨rfl, rfl⟩ (Run.cons ⟨rfl, rfl⟩ (Run.nil _))
  obtain ⟨hcalls, -, houtcomes⟩ := session_outcomes hrun
  exact ⟨_, hcalls, houtcomes⟩

/-! ### Streams -/

/-- The stream that is open is one that has been opened, and neither closed nor replaced since. -/
lemma fileStream_eq_some_iff {past : List Record} {s : Stream} :
    fileStream past = some s ↔ ∃ before opening since, past = before ++ opening :: since ∧
      opening.op = .acquire s ∧ ∀ r ∈ since, r.op = .keep := by
  rw [fileStream, Handles.held_eq_some_iff]
  constructor
  · rintro ⟨before, move, since, heq, hop, hsince⟩
    obtain ⟨before, rest, rfl, rfl, hrest⟩ := List.map_eq_append_iff.mp heq
    obtain ⟨opening, since, rfl, rfl, rfl⟩ := List.map_eq_cons_iff.mp hrest
    exact ⟨before, opening, since, rfl, hop, fun r hr => hsince _ (List.mem_map_of_mem hr)⟩
  · rintro ⟨before, opening, since, rfl, hop, hsince⟩
    refine ⟨before.map Record.move, opening.move, since.map Record.move, by simp, hop, ?_⟩
    intro move hmove
    obtain ⟨r, hr, rfl⟩ := List.mem_map.mp hmove
    exact hsince r hr

/-- The streams that have been opened. -/
def openedStreams (history : List Record) : List Stream :=
  Handles.acquired (history.map Record.move)

lemma mem_uses {r : Record} {call : ArrowCall} {s : Stream} (hcall : call ∈ r.effect.calls)
    (hs : call.stream = some s) : s ∈ r.move.uses :=
  List.mem_filterMap.mpr ⟨call, hcall, hs⟩

/-- **No stream is used before it is opened or after it is given up.**  In every session, each
Arrow call works on the stream that was opened last, with no successful `closeFile` in between;
and however the session goes on, no Arrow call works on a stream that has been opened but is not
open any more. -/
theorem session_streams {L : Library} {calls calls' : List Call} {c c' : Session}
    (hrun : Run (Session.Step L) .start calls c) (hrun' : Run (Session.Step L) c calls' c') :
    (∀ past r future, c.history = past ++ r :: future → ∀ call ∈ r.effect.calls, ∀ s,
      call.stream = some s → ∃ before opening since, past = before ++ opening :: since ∧
        opening.op = .acquire s ∧ ∀ r' ∈ since, r'.op = .keep) ∧
    ∃ later, c'.history = c.history ++ later ∧
      ∀ s ∈ openedStreams c.history, c.self.outfile ≠ some s →
        ∀ r ∈ later, ∀ call ∈ r.effect.calls, call.stream ≠ some s := by
  have hinv : c.Inv L := hrun.invariant Session.inv_step (Session.inv_start L)
  have hinv' : c'.Inv L := hrun'.invariant Session.inv_step hinv
  obtain ⟨later, hlater, -⟩ := Session.history_of_run hrun'
  constructor
  · intro past r future heq call hcall s hs
    refine fileStream_eq_some_iff.mp ?_
    refine hinv.disciplined (past.map Record.move) r.move (future.map Record.move) ?_ s
      (mem_uses hcall hs)
    rw [heq, List.map_append, List.map_cons]
  · refine ⟨later, hlater, ?_⟩
    intro s hs hgone r hr call hcall hcall'
    rw [hinv.agrees.outfile] at hgone
    have hdisciplined := hinv'.disciplined
    have hfresh := hinv'.increasing.imp fun hlt => ne_of_lt hlt
    rw [hlater, List.map_append] at hdisciplined hfresh
    exact hdisciplined.not_used_again hfresh hs hgone r.move (List.mem_map_of_mem hr)
      (mem_uses hcall hcall')

/-- The session in which a file has been opened for the pixel and closed again. -/
def closedSession : Session :=
  let opened := Session.start.after (Session.start.record Library.reference openPixel)
  opened.after (opened.record Library.reference (.closeFile .OK))

lemma run_closedSession :
    Run (Session.Step Library.reference) .start [openPixel, .closeFile .OK] closedSession :=
  Run.cons ⟨rfl, rfl⟩ (Run.cons ⟨rfl, rfl⟩ (Run.nil _))

/-- The record of writing the pixel then. -/
def writeClosed : Record := closedSession.record Library.reference writePixel

lemma run_writeClosed : Run (Session.Step Library.reference) closedSession [writePixel]
    (closedSession.after writeClosed) := Run.cons ⟨rfl, rfl⟩ (Run.nil _)

/-- The session in which another file has been opened for the pixel after that. -/
def reopenedSession : Session :=
  closedSession.after (closedSession.record Library.reference openPixel)

/-- The next table reaches the second stream, and nothing reaches the one that has been closed. -/
theorem session_streams_closed : ∃ c' later,
    Run (Session.Step Library.reference) closedSession [openPixel, writePixel] c' ∧
      c'.history = closedSession.history ++ later ∧
      (∃ r ∈ later, handedStreams r.effect.calls = [1]) ∧
      ∀ r ∈ later, ∀ call ∈ r.effect.calls, call.stream ≠ some 0 := by
  let written := reopenedSession.record Library.reference writePixel
  have hrun' : Run (Session.Step Library.reference) closedSession [openPixel, writePixel]
      (reopenedSession.after written) :=
    Run.cons ⟨rfl, rfl⟩ (Run.cons ⟨rfl, rfl⟩ (Run.nil _))
  obtain ⟨-, later, hlater, hunused⟩ := session_streams run_closedSession hrun'
  obtain ⟨s, -, hself, -, -, hsuccess⟩ := writtenAs_uint8 7 1 "dot" .CSV
  obtain rfl : 1 = s := Option.some.inj hself
  obtain ⟨built, -, hhanded⟩ := writeFile_success hself hsuccess
  have hstreams : handedStreams written.effect.calls = [1] := congrArg (List.map Prod.fst) hhanded
  have hwritten : written ∈ later := by
    have htail : [closedSession.record Library.reference openPixel, written] = later :=
      List.append_cancel_left ((List.append_assoc closedSession.history _ _).symm.trans hlater)
    exact htail ▸ List.mem_cons_of_mem _ (List.mem_singleton.mpr rfl)
  exact ⟨_, later, hrun', hlater, ⟨written, hwritten, hstreams⟩,
    hunused 0 (by decide) (by decide)⟩

/-! ### Undefined behaviour -/

/-- A call that the plugin is prepared for: an array may be written in a file that was opened for
an array that is Mono exactly if it is, if its buffer covers the scan, and while a file is open,
the last two unless the method fails before it comes to them. -/
def Call.Prepared (L : Library) (array : Option (NDArray × CType)) (stream : Option Stream) :
    Call → Prop
  | writeFile fileFormat _ A => ∃ B t, array = some (B, t) ∧
    ((L.getInfo A).colorMode = .NDColorModeMono ↔ (L.getInfo B).colorMode = .NDColorModeMono) ∧
    (t.Switched →
      Covers (Rank.ofWidth (coordTypeOf (L.getInfo B)).width)
        (seenElements (coordTypeOf (L.getInfo B)) (L.getInfo A)) (A.pData.length / t.size) ∧
      (t ≠ .int8_t → (∃ format : NDArrowFileFormat, format.value = fileFormat) → stream ≠ none))
  | _ => True

section Undefined

variable {L : Library}

lemma openOutcome_ne_undefined {openMode : NDFileOpenMode} {A : NDArray} {opened : Status}
    {fault : Fault} : openOutcome L openMode A opened ≠ .undefined fault := by
  rw [openOutcome]
  split_ifs <;> simp

lemma closeOutcome_ne_undefined {closed : Status} {stream : Option Stream} {fault : Fault} :
    closeOutcome closed stream ≠ .undefined fault := by
  cases stream <;> cases closed <;> simp [closeOutcome]

lemma formatOutcome_ne_undefined {reply : Replies} {format : NDArrowFileFormat} {fault : Fault} :
    formatOutcome reply format ≠ .undefined fault := by
  cases format
  · exact checkStatus_ne_undefined
  all_goals
    rw [formatOutcome]
    split_ifs <;> first | exact checkStatus_ne_undefined | simp

/-- A table that has been built is written unless no file is open. -/
lemma writersOutcome_undefined_iff {fileFormat : ℤ} {reply : Replies} {stream : Option Stream} :
    (∃ fault, writersOutcome fileFormat reply stream = .undefined fault) ↔
      ¬ ((∃ format : NDArrowFileFormat, format.value = fileFormat) → stream ≠ none) := by
  rw [writersOutcome]
  cases hformat : formatOf fileFormat with
  | none =>
    refine iff_of_false (by simp) (not_not.mpr ?_)
    rintro ⟨format, hvalue⟩
    rw [formatOf_eq_some_iff.mpr hvalue] at hformat
    exact absurd hformat (by simp)
  | some format =>
    have hknown : ∃ format : NDArrowFileFormat, format.value = fileFormat :=
      ⟨format, formatOf_eq_some_iff.mp hformat⟩
    cases stream with
    | none => exact iff_of_true ⟨.nullPointer, rfl⟩ (by simp [hknown])
    | some s =>
      refine iff_of_false ?_ (by simp)
      rintro ⟨fault, hfault⟩
      exact formatOutcome_ne_undefined hfault

/-- Writing an array in a file that was opened for `B` is undefined where its pixel column is
missing, its buffer does not cover the scan, or no file is open. -/
lemma writeOutcome_undefined_iff {fileFormat : ℤ} {reply : Replies} {stream : Option Stream}
    {A B : NDArray} {t : CType} :
    (∃ fault, writeOutcome L fileFormat reply A (some (B, t)) stream = .undefined fault) ↔
      ¬ (((L.getInfo A).colorMode = .NDColorModeMono ↔
          (L.getInfo B).colorMode = .NDColorModeMono) ∧
        (t.Switched →
          Covers (Rank.ofWidth (coordTypeOf (L.getInfo B)).width)
            (seenElements (coordTypeOf (L.getInfo B)) (L.getInfo A)) (A.pData.length / t.size) ∧
          (t ≠ .int8_t →
            (∃ format : NDArrowFileFormat, format.value = fileFormat) → stream ≠ none))) := by
  unfold writeOutcome tableFailure
  by_cases hmono : (L.getInfo A).colorMode = .NDColorModeMono ↔
      (L.getInfo B).colorMode = .NDColorModeMono
  · by_cases hs : t.Switched
    · simp only [if_neg (not_not.mpr hmono), if_neg (not_not.mpr hs)]
      cases hfault : scanFault (Rank.ofWidth (coordTypeOf (L.getInfo B)).width)
          (seenElements (coordTypeOf (L.getInfo B)) (L.getInfo A)) (A.pData.length / t.size) with
      | some fault =>
        refine iff_of_true ⟨fault, rfl⟩ ?_
        rintro ⟨-, h⟩
        rw [scanFault_eq_none_iff.mpr (h hs).1] at hfault
        exact absurd hfault (by simp)
      | none =>
        have hcovers := scanFault_eq_none_iff.mp hfault
        by_cases hint8 : t = .int8_t
        · simp only [if_pos hint8]
          exact iff_of_false (by simp)
            (not_not.mpr ⟨hmono, fun _ => ⟨hcovers, fun hne => absurd hint8 hne⟩⟩)
        · simp only [if_neg hint8]
          refine writersOutcome_undefined_iff.trans (not_congr ⟨?_, ?_⟩)
          · exact fun hopen => ⟨hmono, fun _ => ⟨hcovers, fun _ => hopen⟩⟩
          · exact fun ⟨_, h⟩ => (h hs).2 hint8
    · simp only [if_neg (not_not.mpr hmono), if_pos hs]
      exact iff_of_false (by simp) (not_not.mpr ⟨hmono, fun h => absurd h hs⟩)
  · simp only [if_pos hmono]
    exact iff_of_true ⟨.nullPointer, rfl⟩ fun h => hmono h.1

/-- A call runs into undefined behaviour exactly if the plugin is not prepared for it. -/
lemma Call.undefined_iff {array : Option (NDArray × CType)} {stream : Option Stream}
    (call : Call) :
    (∃ fault, call.outcome L array stream = .undefined fault) ↔
      ¬ call.Prepared L array stream := by
  cases call with
  | openFile fileName openMode A opened =>
    exact iff_of_false (fun ⟨_, h⟩ => openOutcome_ne_undefined h) (not_not.mpr trivial)
  | readFile =>
    exact iff_of_false (fun ⟨_, h⟩ => absurd h (by simp [outcome])) (not_not.mpr trivial)
  | closeFile closed =>
    exact iff_of_false (fun ⟨_, h⟩ => closeOutcome_ne_undefined h) (not_not.mpr trivial)
  | writeFile fileFormat reply A =>
    cases array with
    | none => exact iff_of_true ⟨.nullPointer, rfl⟩ fun ⟨B, t, h, _⟩ => absurd h (by simp)
    | some p =>
      obtain ⟨B, t⟩ := p
      refine writeOutcome_undefined_iff.trans (not_congr ⟨fun h => ⟨B, t, rfl, h⟩, ?_⟩)
      rintro ⟨B', t', heq, h⟩
      obtain ⟨rfl, rfl⟩ := Prod.mk.inj (Option.some.inj heq)
      exact h

end Undefined

/-- **Which calls are undefined.**  In every session, a call runs into undefined behaviour exactly
if the plugin is not prepared for it. -/
theorem session_undefined_iff {L : Library} {calls : List Call} {c : Session}
    (hrun : Run (Session.Step L) .start calls c) :
    Throughout (fun past r => (∃ fault, r.effect.outcome = .undefined fault) ↔
      ¬ r.call.Prepared L (fileArray past) (fileStream past)) c.history := by
  have hinv : c.Inv L := hrun.invariant Session.inv_step (Session.inv_start L)
  intro past r future heq
  rw [hinv.outcomes past r future heq]
  exact r.call.undefined_iff

/-- Writing the pixel after its file has been closed is undefined. -/
theorem session_undefined_closed : ∃ fault, writeClosed.effect.outcome = .undefined fault := by
  refine (session_undefined_iff (run_closedSession.append run_writeClosed) closedSession.history
    writeClosed [] rfl).mpr ?_
  rintro ⟨B, t, heq, -, hopen⟩
  obtain ⟨rfl, rfl⟩ := Prod.mk.inj (Option.some.inj heq)
  exact (hopen (by decide)).2 (by decide) ⟨.CSV, rfl⟩ rfl

end ADPluginArrow
