/-
# Arrays one after the other

The base class opens a file for every array, writes the array to it, and closes it.  Every
step may fail, and the object that a failed step leaves behind is the object that the next
array finds.  `processAll_isolated` says that nothing of it reaches the next file: each array
is written as a new plugin object would write it, to the stream that was opened for it.
-/
import ADPluginArrow.Written
import ADPluginArrow.Lib.Runs

namespace ADPluginArrow

open CLang

/-! ### Processing an array -/

/-- An array to process, with what the Arrow calls made for it report, and whether the file
is closed afterwards. -/
structure Job where
  fileName : String
  openMode : NDFileOpenMode
  array : NDArray
  opened : Status
  fileFormat : ℤ
  reply : Replies
  closed : Option Status
deriving DecidableEq, Repr

/-- What `FileOutputStream::Open` returns, where the streams are numbered as they are
opened. -/
def openResult (status : Status) (nextStream : Stream) : Except Status Stream :=
  match status with
  | .OK => .ok nextStream
  | .error code message => .error (.error code message)

/-- How `openFile` ends. -/
def openOutcome (L : Library) (openMode : NDFileOpenMode) (pArray : NDArray) (opened : Status) :
    Outcome :=
  if openMode.read = true ∨ openMode.append = true then .asynError none
  else if pArray.dataType.ctype = none then
    .throws "Unsupported NDDataType_t for Arrow field creation"
  else if ¬ (L.getInfo pArray).colorMode.Supported then
    .throws "Only Mono and RGB1 color modes are supported!"
  else if opened = .OK then .asynSuccess
  else .terminates

/-- The number of the next stream, after an `openFile`. -/
def streamAfter (opening : Effect) (nextStream : Stream) : Stream :=
  if opening.outcome = .asynSuccess then nextStream + 1 else nextStream

/-- What has been done for an array. -/
structure Processed where
  job : Job
  stream : Stream
  opening : Effect
  writing : Option Effect
  closing : Option Effect
deriving DecidableEq, Repr

/-- The calls made for an array. -/
def Processed.calls (e : Processed) : List ArrowCall :=
  e.opening.calls ++ (e.writing.map Effect.calls).getD [] ++ (e.closing.map Effect.calls).getD []

/-- An outcome after which the process does not go on. -/
def Outcome.ends : Outcome → Bool
  | terminates | undefined _ => true
  | _ => false

/-- The plugin object, the number of the next stream, what has been done so far, and whether
the process has ended. -/
structure World where
  self : NDFileArrow
  nextStream : Stream
  log : List Processed
  ended : Bool
deriving DecidableEq, Repr

/-- The object after opening and writing. -/
def leftBy (opening : Effect) (writing : Option Effect) : NDFileArrow :=
  (writing.map Effect.self).getD opening.self

/-- Whether opening or writing has ended the process. -/
def endedBy (opening : Effect) (writing : Option Effect) : Bool :=
  opening.outcome.ends || (writing.map fun effect => effect.outcome.ends).getD false

/-- Opens a file for an array, writes the array if that succeeds, and closes the file if the
job says so.  An exception is a failure of its step. -/
def processArray (L : Library) (w : World) (job : Job) : Processed :=
  let opening := openFile L (openResult job.opened w.nextStream) w.self job.fileName
    job.openMode job.array
  let writing :=
    if opening.outcome = .asynSuccess then
      some (writeFile L job.fileFormat job.reply opening.self job.array)
    else none
  { job := job
    stream := w.nextStream
    opening := opening
    writing := writing
    closing :=
      if endedBy opening writing then none
      else job.closed.map fun closed => closeFile closed (leftBy opening writing) }

/-- Processes an array, unless the process has ended. -/
def process (L : Library) (w : World) (job : Job) : World :=
  if w.ended then w
  else
    let e := processArray L w job
    { self := (e.closing.map Effect.self).getD (leftBy e.opening e.writing)
      nextStream := streamAfter e.opening w.nextStream
      log := w.log ++ [e]
      ended := endedBy e.opening e.writing }

/-- The streams that have received a table, one entry for each table. -/
def handedStreams (calls : List ArrowCall) : List Stream := (handedOver calls).map Prod.fst

/-- What a new plugin object makes of an array: its file is opened as the given stream, and
the array is written to it. -/
def freshWrite (L : Library) (stream : Stream) (fileName : String) (openMode : NDFileOpenMode)
    (array : NDArray) (fileFormat : ℤ) (reply : Replies) : Effect :=
  writeFile L fileFormat reply (openFile L (.ok stream) {} fileName openMode array).self array

/-- If the file for an array was opened, the array is written as a new plugin object would
write it, and its tables go to the stream that was opened. -/
def Processed.Isolated (L : Library) (e : Processed) : Prop :=
  e.opening.outcome = .asynSuccess →
    e.opening.self.outfile = some e.stream ∧
    e.writing = some (freshWrite L e.stream e.job.fileName e.job.openMode e.job.array
      e.job.fileFormat e.job.reply) ∧
    ∀ s ∈ handedStreams e.calls, s = e.stream

/-! ### What a step does -/

/-- `openFile` opens a file, or ends the process after the schema has been replaced, or leaves
the object alone. -/
lemma openFile_cases (L : Library) (self : NDFileArrow) (fileName : String)
    (openMode : NDFileOpenMode) (A : NDArray) (opened : Status) (next : Stream) :
    (∃ t, A.dataType.ctype = some t ∧ (L.getInfo A).colorMode.Supported ∧
      openOutcome L openMode A opened = .asynSuccess ∧
      openFile L (openResult opened next) self fileName openMode A
        = ⟨.asynSuccess, ⟨some (schemaFor (L.getInfo A) t), some next⟩, [.Open fileName]⟩) ∨
    (∃ t, A.dataType.ctype = some t ∧ (L.getInfo A).colorMode.Supported ∧
      openOutcome L openMode A opened = .terminates ∧
      openFile L (openResult opened next) self fileName openMode A
        = ⟨.terminates, { self with schema := some (schemaFor (L.getInfo A) t) },
          [.Open fileName]⟩) ∨
    ((∃ log, openOutcome L openMode A opened = .asynError log) ∨
        ∃ what, openOutcome L openMode A opened = .throws what) ∧
      openFile L (openResult opened next) self fileName openMode A
        = ⟨openOutcome L openMode A opened, self, []⟩ := by
  by_cases hopenMode : openMode.read = true ∨ openMode.append = true
  · rw [openFile_refused hopenMode, openOutcome, if_pos hopenMode]
    exact Or.inr (Or.inr ⟨Or.inl ⟨none, rfl⟩, rfl⟩)
  obtain ⟨hread, happend⟩ := not_or.mp hopenMode
  have hschema := createSchema_total A.dataType (L.getInfo A).colorMode
    (toInt (L.getInfo A).xSize) (toInt (L.getInfo A).ySize)
  rw [openOutcome, if_neg hopenMode]
  simp only [openFile, if_neg hread, if_neg happend, hschema]
  cases ht : A.dataType.ctype with
  | none => exact Or.inr (Or.inr ⟨Or.inr ⟨_, rfl⟩, rfl⟩)
  | some t =>
    by_cases hmode : (L.getInfo A).colorMode.Supported
    · cases opened with
      | OK =>
        refine Or.inl ⟨t, rfl, hmode, by simp [hmode], ?_⟩
        simp [hmode, openResult, schemaFor, coordTypeOf]
      | error code message =>
        refine Or.inr (Or.inl ⟨t, rfl, hmode, by simp [hmode], ?_⟩)
        simp [hmode, openResult, schemaFor, coordTypeOf]
    · refine Or.inr (Or.inr ⟨Or.inr ⟨"Only Mono and RGB1 color modes are supported!", ?_⟩, ?_⟩)
      · simp [hmode]
      · simp [hmode]

/-- Whether a file is opened does not depend on the object. -/
lemma openFile_outcome (L : Library) (opened : Except Status Stream) (self self' : NDFileArrow)
    (fileName : String) (openMode : NDFileOpenMode) (A : NDArray) :
    (openFile L opened self fileName openMode A).outcome
      = (openFile L opened self' fileName openMode A).outcome := by
  simp only [openFile]
  split_ifs
  · rfl
  · rfl
  · split
    · rfl
    · cases opened <;> rfl

/-- A successful `openFile` leaves nothing of the object that it was called on. -/
lemma openFile_fresh {L : Library} {opened : Except Status Stream} {self : NDFileArrow}
    {fileName : String} {openMode : NDFileOpenMode} {A : NDArray}
    (h : (openFile L opened self fileName openMode A).outcome = .asynSuccess) :
    openFile L opened self fileName openMode A = openFile L opened {} fileName openMode A := by
  obtain ⟨t, s, ht, -, hs, heq⟩ := openFile_inv h
  obtain ⟨t', s', ht', -, hs', heq'⟩ :=
    openFile_inv ((openFile_outcome L opened {} self ..).trans h)
  obtain rfl : t = t' := Option.some.inj (ht.symm.trans ht')
  obtain rfl : s = s' := Except.ok.inj (hs.symm.trans hs')
  rw [heq, heq']

lemma openResult_eq_ok {status : Status} {next s : Stream} (h : openResult status next = .ok s) :
    s = next := by
  cases status with
  | OK => exact (Except.ok.inj h).symm
  | error code message => exact absurd h (by simp [openResult])

lemma handedStreams_append (calls calls' : List ArrowCall) :
    handedStreams (calls ++ calls') = handedStreams calls ++ handedStreams calls' := by
  simp [handedStreams, handedOver]

/-- Opening and closing hand no table over. -/
lemma handedStreams_openFile (L : Library) (opened : Except Status Stream) (self : NDFileArrow)
    (fileName : String) (openMode : NDFileOpenMode) (A : NDArray) :
    handedStreams (openFile L opened self fileName openMode A).calls = [] := by
  simp only [openFile]
  split_ifs
  · rfl
  · rfl
  · split
    · rfl
    · cases opened <;> rfl

lemma handedStreams_closeFile (closed : Status) (self : NDFileArrow) :
    handedStreams (closeFile closed self).calls = [] := by
  rw [closeFile]
  cases self.outfile with
  | none => rfl
  | some stream => cases closed <;> rfl

lemma handedStreams_closing (ended : Bool) (closed : Option Status) (self : NDFileArrow) :
    handedStreams (((if ended then none else closed.map fun closed => closeFile closed self).map
      Effect.calls).getD []) = [] := by
  cases ended with
  | true => rfl
  | false =>
    cases closed with
    | none => rfl
    | some closed => exact handedStreams_closeFile closed self

/-- Writing hands at most one table over, to the file of the object. -/
lemma handedStreams_writeFile {L : Library} {fileFormat : ℤ} {reply : Replies}
    {self : NDFileArrow} {A : NDArray} {s : Stream} (hself : self.outfile = some s) :
    handedStreams (writeFile L fileFormat reply self A).calls = [] ∨
      handedStreams (writeFile L fileFormat reply self A).calls = [s] := by
  cases hbuilt : buildTable L self.schema A with
  | error outcome =>
    rw [writeFile_of_error hbuilt]
    exact Or.inl rfl
  | ok built =>
    rw [writeFile_of_ok hbuilt, hself]
    rcases (writeTable_delivered fileFormat reply s built.table).2 with ⟨hnone, -⟩ | hone
    · exact Or.inl (congrArg (List.map Prod.fst) hnone)
    · exact Or.inr (congrArg (List.map Prod.fst) hone)

/-- Where a file has been opened, it is the next stream, and the object is the one that a new
plugin object would have become. -/
lemma openFile_openResult {L : Library} {status : Status} {next : Stream} {self : NDFileArrow}
    {fileName : String} {openMode : NDFileOpenMode} {A : NDArray}
    (h : (openFile L (openResult status next) self fileName openMode A).outcome = .asynSuccess) :
    openFile L (openResult status next) self fileName openMode A
        = openFile L (.ok next) {} fileName openMode A ∧
      (openFile L (openResult status next) self fileName openMode A).self.outfile = some next := by
  obtain ⟨t, s, -, -, hs, heq⟩ := openFile_inv h
  obtain rfl : s = next := openResult_eq_ok hs
  refine ⟨?_, by rw [heq]⟩
  rw [openFile_fresh h, hs]

section Step

variable (L : Library) (w : World) (job : Job)

lemma processArray_writing
    (h : (processArray L w job).opening.outcome = .asynSuccess) :
    (processArray L w job).writing = some (freshWrite L w.nextStream job.fileName job.openMode
      job.array job.fileFormat job.reply) := by
  have hwriting : (processArray L w job).writing
      = some (writeFile L job.fileFormat job.reply (processArray L w job).opening.self
        job.array) := if_pos h
  have hfresh : (processArray L w job).opening
      = openFile L (.ok w.nextStream) {} job.fileName job.openMode job.array :=
    (openFile_openResult h).1
  rw [hwriting, hfresh]
  rfl

/-- The tables of an array go to the stream opened for it; there is at most one. -/
lemma handedStreams_processArray :
    handedStreams (processArray L w job).calls = [] ∨
      (processArray L w job).opening.outcome = .asynSuccess ∧
        handedStreams (processArray L w job).calls = [w.nextStream] := by
  have hopening : handedStreams (processArray L w job).opening.calls = [] :=
    handedStreams_openFile ..
  have hclosing : handedStreams (((processArray L w job).closing.map Effect.calls).getD []) = [] :=
    handedStreams_closing ..
  rw [Processed.calls, handedStreams_append, handedStreams_append, hopening, hclosing,
    List.nil_append, List.append_nil]
  by_cases h : (processArray L w job).opening.outcome = .asynSuccess
  · have hself : (processArray L w job).opening.self.outfile = some w.nextStream :=
      (openFile_openResult h).2
    have hwriting : (processArray L w job).writing
        = some (writeFile L job.fileFormat job.reply (processArray L w job).opening.self
          job.array) := if_pos h
    rw [hwriting]
    exact (handedStreams_writeFile hself).imp_right fun hone => ⟨h, hone⟩
  · have hwriting : (processArray L w job).writing = none := if_neg h
    rw [hwriting]
    exact Or.inl rfl

/-- Nothing of the object reaches the file of the next array. -/
lemma processArray_isolated : (processArray L w job).Isolated L := by
  intro h
  refine ⟨(openFile_openResult h).2, processArray_writing L w job h, ?_⟩
  rcases handedStreams_processArray L w job with hnone | ⟨-, hone⟩
  · simp [hnone]
  · intro s hs
    exact List.mem_singleton.mp (hone ▸ hs)

end Step

/-! ### Whole runs -/

/-- All the calls of a run. -/
def World.calls (w : World) : List ArrowCall := w.log.flatMap Processed.calls

/-- Every array so far has been isolated, and the streams that have received a table are
numbered in the order of the tables, below the next stream. -/
structure World.Inv (L : Library) (w : World) : Prop where
  isolated : ∀ e ∈ w.log, e.Isolated L
  sorted : (handedStreams w.calls).Pairwise (· < ·)
  below : ∀ s ∈ handedStreams w.calls, s < w.nextStream

lemma process_inv {L : Library} (w : World) (job : Job) (h : w.Inv L) :
    (process L w job).Inv L := by
  rw [process]
  split_ifs with hended
  · exact h
  have hcalls : handedStreams (w.log ++ [processArray L w job] |>.flatMap Processed.calls)
      = handedStreams w.calls ++ handedStreams (processArray L w job).calls := by
    rw [List.flatMap_append, List.flatMap_singleton, handedStreams_append]
    rfl
  have hnext : w.nextStream ≤ streamAfter (processArray L w job).opening w.nextStream := by
    rw [streamAfter]
    split
    · exact Nat.le_succ _
    · exact le_rfl
  constructor
  · intro e he
    rcases List.mem_append.mp he with he | he
    · exact h.isolated e he
    · exact List.mem_singleton.mp he ▸ processArray_isolated L w job
  · show (handedStreams ((w.log ++ [processArray L w job]).flatMap Processed.calls)).Pairwise _
    rw [hcalls]
    rcases handedStreams_processArray L w job with hnone | ⟨-, hone⟩
    · rw [hnone, List.append_nil]
      exact h.sorted
    · rw [hone, List.pairwise_append]
      refine ⟨h.sorted, List.pairwise_singleton _ _, fun s hs s' hs' => ?_⟩
      rw [List.mem_singleton.mp hs']
      exact h.below s hs
  · show ∀ s ∈ handedStreams ((w.log ++ [processArray L w job]).flatMap Processed.calls), _
    rw [hcalls]
    intro s hs
    rcases List.mem_append.mp hs with hs | hs
    · exact (h.below s hs).trans_le hnext
    · rcases handedStreams_processArray L w job with hnone | ⟨hopen, hone⟩
      · exact absurd (hnone ▸ hs) (by simp)
      · show s < streamAfter (processArray L w job).opening w.nextStream
        rw [hone] at hs
        rw [streamAfter, if_pos hopen, List.mem_singleton.mp hs]
        exact Nat.lt_succ_self _

/-- The log has an entry for each array, in order, up to the array that ends the process. -/
lemma log_jobs (L : Library) (self : NDFileArrow) (nextStream : Stream) (jobs : List Job) :
    (jobs.foldl (process L) ⟨self, nextStream, [], false⟩).log.map Processed.job <+: jobs ∧
      ((jobs.foldl (process L) ⟨self, nextStream, [], false⟩).ended = false →
        (jobs.foldl (process L) ⟨self, nextStream, [], false⟩).log.map Processed.job = jobs) := by
  induction jobs using List.reverseRecOn with
  | nil => exact ⟨List.prefix_rfl, fun _ => rfl⟩
  | append_singleton jobs job ih =>
    rw [List.foldl_append, List.foldl_cons, List.foldl_nil]
    generalize jobs.foldl (process L) ⟨self, nextStream, [], false⟩ = w at ih ⊢
    obtain ⟨hlog, hall⟩ := ih
    rw [process]
    split_ifs with hended
    · exact ⟨hlog.trans (List.prefix_append ..), fun hgoing => absurd (hended.symm.trans hgoing)
        (by simp)⟩
    · have hjobs : (w.log ++ [processArray L w job]).map Processed.job = jobs ++ [job] := by
        rw [List.map_append, hall (Bool.eq_false_iff.mpr hended)]
        rfl
      exact ⟨hjobs ▸ List.prefix_rfl, fun _ => hjobs⟩

/-- **No state is carried from one file to the next.**  However a run over any sequence of
arrays goes, the arrays are processed in order up to the one that ends the process, if there is
one; each array for which a file was opened is written as a new plugin object would write it, to
its own stream; and no stream receives two tables. -/
theorem processAll_isolated (L : Library) (self : NDFileArrow) (nextStream : Stream)
    (jobs : List Job) :
    (∀ e ∈ (jobs.foldl (process L) ⟨self, nextStream, [], false⟩).log, e.Isolated L) ∧
      (handedStreams (jobs.foldl (process L) ⟨self, nextStream, [], false⟩).calls).Nodup ∧
      (jobs.foldl (process L) ⟨self, nextStream, [], false⟩).log.map Processed.job <+: jobs ∧
      ((jobs.foldl (process L) ⟨self, nextStream, [], false⟩).ended = false →
        (jobs.foldl (process L) ⟨self, nextStream, [], false⟩).log.map Processed.job = jobs) := by
  have hinit : World.Inv L ⟨self, nextStream, [], false⟩ :=
    ⟨by simp, by simp [World.calls, handedStreams, handedOver],
      by simp [World.calls, handedStreams, handedOver]⟩
  have hinv := Runs.foldl_invariant (process_inv (L := L)) hinit jobs
  exact ⟨hinv.isolated, hinv.sorted.imp fun hlt => ne_of_lt hlt, log_jobs L self nextStream jobs⟩

end ADPluginArrow
