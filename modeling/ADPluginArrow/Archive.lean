/-
# What the files contain

The plugin is an archive: each array that it receives is to be found in a file of its own.

* `processAll_processed` is about a sequence of arrays.  Which of them are processed, which file
  each of them gets, and how the calls for it end, follows from the arrays and from what Arrow
  reports.
* `processAll_archive` says which tables are handed to a writer, and into which files: those of the
  arrays that have a table, in order, each into its own file.
* `run_archived` is about several threads: a file that has been written contains one table, and
  this table decodes to the array.
-/
import ADPluginArrow.Serial
import ADPluginArrow.RoundTrip

namespace ADPluginArrow

open CLang Runs

/-! ### What an array calls for -/

/-- How the calls for an array end: as `openFile` does if it does not succeed, and as `writeFile`
does otherwise. -/
def Job.outcome (L : Library) (job : Job) (stream : Stream) : Outcome :=
  match openOutcome L job.openMode job.array job.opened with
  | .asynSuccess => writeOutcome L job.fileFormat job.reply job.array
      (job.array.dataType.ctype.map (job.array, ·)) (some stream)
  | outcome => outcome

/-- How the calls that have been made for an array have ended. -/
def Processed.outcome (e : Processed) : Outcome :=
  (e.writing.map Effect.outcome).getD e.opening.outcome

/-- The calls for an array end the process: the file is not opened although there is a schema, or
the scan of the buffer commits a fault, or no writer is made for the table. -/
def Job.Fatal (L : Library) (job : Job) : Prop :=
  ¬ (job.openMode.read = true ∨ job.openMode.append = true) ∧
  (L.getInfo job.array).colorMode.Supported ∧
  ∃ t, job.array.dataType.ctype = some t ∧ (job.opened ≠ .OK ∨ t.Switched ∧
    (¬ Covers (Rank.ofWidth (coordTypeOf (L.getInfo job.array)).width)
        (seenElements (coordTypeOf (L.getInfo job.array)) (L.getInfo job.array))
        (job.array.pData.length / t.size) ∨
      t ≠ .int8_t ∧ (job.fileFormat = NDArrowFileFormat.CSV.value ∨
        job.fileFormat = NDArrowFileFormat.IPC.value) ∧ job.reply.makeWriter ≠ .OK))

/-- A table is handed to a writer: the file format is a known one, and its writer can be made.
Whether the writer succeeds is another matter. -/
def HandedToWriter (fileFormat : ℤ) (reply : Replies) : Prop :=
  fileFormat = NDArrowFileFormat.PARQUET.value ∨
    (fileFormat = NDArrowFileFormat.CSV.value ∨ fileFormat = NDArrowFileFormat.IPC.value) ∧
      reply.makeWriter = .OK

instance (fileFormat : ℤ) (reply : Replies) : Decidable (HandedToWriter fileFormat reply) :=
  inferInstanceAs (Decidable (_ ∨ _))

/-- The file of an array is opened. -/
def Job.Opens (L : Library) (job : Job) : Prop :=
  openOutcome L job.openMode job.array job.opened = .asynSuccess

instance (L : Library) (job : Job) : Decidable (job.Opens L) :=
  inferInstanceAs (Decidable (_ = _))

/-- The table of an array is handed to a writer. -/
def Job.HandsOver (L : Library) (job : Job) : Prop :=
  job.Opens L ∧ job.array.dataType ∈ ([.NDUInt8, .NDInt16, .NDUInt16, .NDInt32, .NDFloat32,
    .NDFloat64] : List NDDataType) ∧ HandedToWriter job.fileFormat job.reply

instance (L : Library) (job : Job) : Decidable (job.HandsOver L) :=
  inferInstanceAs (Decidable (_ ∧ _ ∧ _))

/-! ### Which outcomes end the process -/

section Ends

variable {L : Library} {fileFormat : ℤ} {reply : Replies} {s : Stream}

@[simp] lemma ends_checkStatus (status : Status) : (checkStatus status).ends = false := by
  cases status <;> rfl

/-- Writing a table to an open file ends the process where no writer is made. -/
lemma ends_writersOutcome_iff :
    (writersOutcome fileFormat reply (some s)).ends = true ↔
      (fileFormat = NDArrowFileFormat.CSV.value ∨ fileFormat = NDArrowFileFormat.IPC.value) ∧
        reply.makeWriter ≠ .OK := by
  rw [writersOutcome]
  cases hformat : formatOf fileFormat with
  | none =>
    obtain ⟨-, hcsv, hipc⟩ := formatOf_eq_none_iff.mp hformat
    refine iff_of_false (by simp [Outcome.ends]) ?_
    rintro ⟨hvalue | hvalue, -⟩
    · exact hcsv hvalue
    · exact hipc hvalue
  | some format =>
    obtain rfl := formatOf_eq_some_iff.mp hformat
    cases format with
    | PARQUET => exact iff_of_false (by simp [formatOutcome]) fun h => absurd h.1 (by decide)
    | CSV | IPC =>
      by_cases hmake : reply.makeWriter = .OK
      · refine iff_of_false ?_ fun h => h.2 hmake
        by_cases hwrite : reply.writeTable = .OK <;> simp [formatOutcome, hmake, hwrite]
      · simp [formatOutcome, hmake, Outcome.ends]

/-- Writing an array in its own file ends the process where the scan commits a fault, or the table
has been built and no writer is made. -/
lemma ends_writeOutcome_iff {A : NDArray} {t : CType} :
    (writeOutcome L fileFormat reply A (some (A, t)) (some s)).ends = true ↔ t.Switched ∧
      (¬ Covers (Rank.ofWidth (coordTypeOf (L.getInfo A)).width)
          (seenElements (coordTypeOf (L.getInfo A)) (L.getInfo A)) (A.pData.length / t.size) ∨
        t ≠ .int8_t ∧ (fileFormat = NDArrowFileFormat.CSV.value ∨
          fileFormat = NDArrowFileFormat.IPC.value) ∧ reply.makeWriter ≠ .OK) := by
  unfold writeOutcome tableFailure
  simp only [iff_self, not_true_eq_false, if_false]
  by_cases hs : t.Switched
  · simp only [if_neg (not_not.mpr hs)]
    cases hfault : scanFault (Rank.ofWidth (coordTypeOf (L.getInfo A)).width)
        (seenElements (coordTypeOf (L.getInfo A)) (L.getInfo A)) (A.pData.length / t.size) with
    | some fault =>
      refine iff_of_true rfl ⟨hs, Or.inl fun hcovers => ?_⟩
      rw [scanFault_eq_none_iff.mpr hcovers] at hfault
      exact absurd hfault (by simp)
    | none =>
      have hcovers := scanFault_eq_none_iff.mp hfault
      by_cases hint8 : t = .int8_t
      · simp only [if_pos hint8]
        refine iff_of_false (by simp [Outcome.ends]) ?_
        rintro ⟨-, hnot | ⟨hne, -⟩⟩
        · exact hnot hcovers
        · exact hne hint8
      · simp only [if_neg hint8]
        refine ends_writersOutcome_iff.trans ⟨fun h => ⟨hs, Or.inr ⟨hint8, h⟩⟩, ?_⟩
        rintro ⟨-, hnot | ⟨-, h⟩⟩
        · exact absurd hcovers hnot
        · exact h
  · simp only [if_pos hs]
    exact iff_of_false (by simp [Outcome.ends]) fun h => hs h.1

/-- The calls for an array end the process exactly if the array is fatal. -/
lemma Job.ends_iff (job : Job) : (job.outcome L s).ends = true ↔ job.Fatal L := by
  rw [Job.outcome, openOutcome]
  by_cases hopenMode : job.openMode.read = true ∨ job.openMode.append = true
  · simp only [if_pos hopenMode]
    exact iff_of_false (by simp [Outcome.ends]) fun h => h.1 hopenMode
  · simp only [if_neg hopenMode]
    cases ht : job.array.dataType.ctype with
    | none =>
      refine iff_of_false (by simp [Outcome.ends]) ?_
      rintro ⟨-, -, t, ht', -⟩
      exact absurd (ht.symm.trans ht') (by simp)
    | some t =>
      by_cases hmode : (L.getInfo job.array).colorMode.Supported
      · have hfatal : job.Fatal L ↔ (job.opened ≠ .OK ∨
            (writeOutcome L job.fileFormat job.reply job.array (some (job.array, t))
              (some s)).ends = true) := by
          rw [ends_writeOutcome_iff]
          constructor
          · rintro ⟨-, -, t', ht', h⟩
            obtain rfl := Option.some.inj (ht.symm.trans ht')
            exact h
          · exact fun h => ⟨hopenMode, hmode, t, ht, h⟩
        by_cases hopened : job.opened = .OK <;> simp [hfatal, hmode, hopened, Outcome.ends]
      · simp only [hmode, not_false_eq_true, if_true]
        exact iff_of_false (by simp [Outcome.ends]) fun h => hmode h.2.1

instance (L : Library) : DecidablePred (Job.Fatal L) := fun job =>
  decidable_of_iff ((job.outcome L 0).ends = true) job.ends_iff

end Ends

/-! ### One array -/

section Array

variable {L : Library}

lemma handedOver_writeTable (fileFormat : ℤ) (reply : Replies) (s : Stream) (T : Table) :
    handedOver (writeTable fileFormat reply (some s) T).1
      = if HandedToWriter fileFormat reply then [(s, T)] else [] := by
  have hwith : ∀ kind, handedOver (writeWith kind reply (some s) T).1
      = if reply.makeWriter = .OK then [(s, T)] else [] := by
    intro kind
    by_cases hmake : reply.makeWriter = .OK
    · by_cases hwrite : reply.writeTable = .OK
      · simp only [writeWith, hmake, hwrite, ne_eq, not_true_eq_false, if_true, if_false]
        rfl
      · simp only [writeWith, hmake, hwrite, ne_eq, not_true_eq_false, if_true, if_false]
        rfl
    · simp only [writeWith, hmake, ne_eq, not_false_eq_true, if_true, if_false]
      rfl
  rw [writeTable]
  by_cases hparquet : fileFormat = NDArrowFileFormat.PARQUET.value
  · have hhands : HandedToWriter fileFormat reply := Or.inl hparquet
    rw [if_pos hparquet, if_pos hhands]
    rfl
  by_cases hipc : fileFormat = NDArrowFileFormat.IPC.value
  · rw [if_neg hparquet, if_pos hipc, hwith]
    refine if_congr ⟨fun h => Or.inr ⟨Or.inr hipc, h⟩, fun h => ?_⟩ rfl rfl
    exact (h.resolve_left hparquet).2
  by_cases hcsv : fileFormat = NDArrowFileFormat.CSV.value
  · rw [if_neg hparquet, if_neg hipc, if_pos hcsv, hwith]
    refine if_congr ⟨fun h => Or.inr ⟨Or.inl hcsv, h⟩, fun h => ?_⟩ rfl rfl
    exact (h.resolve_left hparquet).2
  · have hnot : ¬ HandedToWriter fileFormat reply := by
      rintro (h | ⟨h | h, -⟩)
      · exact hparquet h
      · exact hcsv h
      · exact hipc h
    rw [if_neg hparquet, if_neg hipc, if_neg hcsv, if_neg hnot]
    rfl

/-- The file of an array is opened and the array is written to it, or nothing is written. -/
lemma processArray_cases (L : Library) (w : World) (job : Job) :
    job.Opens L ∧ (processArray L w job).opening.outcome = .asynSuccess ∧
        (∃ t, job.array.dataType.ctype = some t ∧ (L.getInfo job.array).colorMode.Supported ∧
          (processArray L w job).writing = some (writeFile L job.fileFormat job.reply
            ⟨some (schemaFor (L.getInfo job.array) t), some w.nextStream⟩ job.array)) ∨
      ¬ job.Opens L ∧ (processArray L w job).opening.outcome
          = openOutcome L job.openMode job.array job.opened ∧
        (processArray L w job).writing = none := by
  have hwriting : (processArray L w job).writing
      = if (processArray L w job).opening.outcome = .asynSuccess then
          some (writeFile L job.fileFormat job.reply (processArray L w job).opening.self job.array)
        else none := rfl
  have hopening : (processArray L w job).opening
      = openFile L (openResult job.opened w.nextStream) w.self job.fileName job.openMode
        job.array := rfl
  rcases openFile_cases L w.self job.fileName job.openMode job.array job.opened w.nextStream with
    ⟨t, ht, hmode, houtcome, heq⟩ | ⟨t, ht, hmode, houtcome, heq⟩ | ⟨hfailed, heq⟩
  · rw [heq] at hopening
    rw [hwriting, hopening]
    exact Or.inl ⟨houtcome, rfl, t, ht, hmode, rfl⟩
  · rw [heq] at hopening
    rw [hwriting, hopening, Job.Opens, houtcome]
    exact Or.inr ⟨by simp, rfl, rfl⟩
  · rw [heq] at hopening
    have hnot : openOutcome L job.openMode job.array job.opened ≠ .asynSuccess := by
      rcases hfailed with ⟨log, hlog⟩ | ⟨what, hwhat⟩
      · simp [hlog]
      · simp [hwhat]
    rw [hwriting, hopening]
    exact Or.inr ⟨hnot, rfl, if_neg hnot⟩

/-- The calls for an array end as the array calls for. -/
lemma processArray_outcome (L : Library) (w : World) (job : Job) :
    (processArray L w job).outcome = job.outcome L w.nextStream := by
  rw [Processed.outcome, Job.outcome]
  rcases processArray_cases L w job with ⟨hopens, -, t, ht, hmode, hwriting⟩ |
    ⟨hopens, hopening, hwriting⟩
  · have hagrees : Agrees L ⟨some (schemaFor (L.getInfo job.array) t), some w.nextStream⟩
        (some (job.array, t)) (some w.nextStream) := ⟨rfl, ht, hmode, rfl⟩
    rw [hwriting, show openOutcome L job.openMode job.array job.opened = _ from hopens, ht]
    exact (accounted_writeFile hagrees job.fileFormat job.reply job.array w.nextStream).outcome
  · rw [hwriting, ← hopening]
    cases heq : (processArray L w job).opening.outcome with
    | asynSuccess => exact absurd (hopening.symm.trans heq) hopens
    | _ => rfl

/-- The process ends with the calls for an array exactly if the array is fatal. -/
lemma endedBy_processArray_iff (L : Library) (w : World) (job : Job) :
    endedBy (processArray L w job).opening (processArray L w job).writing = true ↔
      job.Fatal L := by
  have hended : endedBy (processArray L w job).opening (processArray L w job).writing
      = (processArray L w job).outcome.ends := by
    rw [Processed.outcome, endedBy]
    rcases processArray_cases L w job with ⟨-, hopening, t, -, -, hwriting⟩ | ⟨-, -, hwriting⟩
    · rw [hwriting, hopening]
      rfl
    · rw [hwriting]
      exact Bool.or_false _
  rw [hended, processArray_outcome, job.ends_iff]

lemma streamAfter_processArray (L : Library) (w : World) (job : Job) :
    streamAfter (processArray L w job).opening w.nextStream
      = w.nextStream + if job.Opens L then 1 else 0 := by
  rw [streamAfter]
  rcases processArray_cases L w job with ⟨hopens, hopening, -⟩ | ⟨hopens, hopening, -⟩
  · rw [if_pos hopening, if_pos hopens]
  · rw [if_neg (hopening ▸ hopens), if_neg hopens]
    rfl

lemma handedOver_append (calls calls' : List ArrowCall) :
    handedOver (calls ++ calls') = handedOver calls ++ handedOver calls' := List.filterMap_append

/-- Only writing hands a table over. -/
lemma handedOver_processArray (L : Library) (w : World) (job : Job) :
    handedOver (processArray L w job).calls
      = (((processArray L w job).writing.map Effect.calls).map handedOver).getD [] := by
  have hopening : handedOver (processArray L w job).opening.calls = [] :=
    List.map_eq_nil_iff.mp (handedStreams_openFile ..)
  have hclosing : handedOver (((processArray L w job).closing.map Effect.calls).getD []) = [] :=
    List.map_eq_nil_iff.mp (handedStreams_closing ..)
  rw [Processed.calls, handedOver_append, handedOver_append, hopening, hclosing, List.nil_append,
    List.append_nil]
  cases (processArray L w job).writing <;> rfl

/-- The table of an array goes to the file of the array, if it is handed over at all. -/
lemma processArray_handsOver (w : World) {job : Job} (hsized : Sized L job.array) :
    (job.HandsOver L ∧ ∃ t T, job.array.dataType.ctype = some t ∧
        handedOver (processArray L w job).calls = [(w.nextStream, T)] ∧
        Decodes L t job.array T) ∨
      ¬ job.HandsOver L ∧ handedOver (processArray L w job).calls = [] := by
  rw [handedOver_processArray]
  rcases processArray_cases L w job with ⟨hopens, -, t, ht, hmode, hwriting⟩ |
    ⟨hopens, -, hwriting⟩
  · rw [hwriting, Option.map_some, Option.map_some, Option.getD_some, schemaFor]
    by_cases htab : t.Tabulated
    · obtain ⟨columns, hbuild, hview⟩ := buildTable_fits hmode Iff.rfl (hsized.fits ht) htab
      rw [writeFile_of_ok hbuild, handedOver_writeTable]
      by_cases hhands : HandedToWriter job.fileFormat job.reply
      · rw [if_pos hhands]
        exact Or.inl ⟨⟨hopens, (tabulated_iff ht).mp htab, hhands⟩, t, _, ht, rfl,
          hview.decodes hmode rfl⟩
      · rw [if_neg hhands]
        exact Or.inr ⟨fun h => hhands h.2.2, rfl⟩
    · rw [writeFile_of_error (buildTable_not_tabulated hmode Iff.rfl (hsized.fits ht) htab)]
      exact Or.inr ⟨fun h => htab ((tabulated_iff ht).mpr h.2.1), rfl⟩
  · rw [hwriting]
    exact Or.inr ⟨fun h => hopens h.1, rfl⟩

end Array

/-! ### Sequences of arrays -/

/-- What has been done for an array, in terms of the arrays before it: the calls have ended as the
array calls for, and its file is the next one. -/
def Processed.Accounted (L : Library) (past : List Processed) (e : Processed) : Prop :=
  e.outcome = e.job.outcome L e.stream ∧
    e.stream = (past.map Processed.job).countP fun job => job.Opens L

/-- The arrays so far are accounted for, and the next stream counts the files that have been
opened. -/
structure World.Accounted (L : Library) (w : World) : Prop where
  throughout : Throughout (Processed.Accounted L) w.log
  nextStream_eq : w.nextStream = (w.log.map Processed.job).countP fun job => job.Opens L

lemma process_accounted {L : Library} (w : World) (job : Job) (h : w.Accounted L) :
    (process L w job).Accounted L := by
  rw [process]
  split_ifs with hended
  · exact h
  constructor
  · exact h.throughout.append_singleton
      ⟨processArray_outcome L w job, h.nextStream_eq⟩
  · show streamAfter (processArray L w job).opening w.nextStream = _
    rw [streamAfter_processArray, h.nextStream_eq]
    simp [List.countP_append, List.countP_cons, processArray]

lemma processAll_upTo (L : Library) (jobs : List Job) :
    (processAll L jobs).log.map Processed.job = upTo (Job.Fatal L) jobs ∧
      ((processAll L jobs).ended = true ↔ ∃ job ∈ jobs, job.Fatal L) := by
  have hstopped : ∀ (w : World) (job : Job), w.ended = true → process L w job = w := by
    intro w job hended
    rw [process, if_pos hended]
  have hgo : ∀ (w : World) (job : Job), ¬ w.ended = true →
      (∃ e, (process L w job).log = w.log ++ [e] ∧ e.job = job) ∧
        ((process L w job).ended = true ↔ job.Fatal L) := by
    intro w job hended
    rw [process, if_neg hended]
    exact ⟨⟨_, rfl, rfl⟩, endedBy_processArray_iff L w job⟩
  exact foldl_upTo hstopped hgo rfl (by simp) jobs

/-- **Which arrays are processed.**  However long a sequence of arrays is, and whatever Arrow
reports: the arrays up to the first fatal one are processed, the process ends exactly if there is a
fatal one, and for each array that is processed, how its calls end and which file it gets follows
from the arrays up to it. -/
theorem processAll_processed (L : Library) (jobs : List Job) :
    (processAll L jobs).log.map Processed.job = upTo (Job.Fatal L) jobs ∧
      ((processAll L jobs).ended = true ↔ ∃ job ∈ jobs, job.Fatal L) ∧
      Throughout (Processed.Accounted L) (processAll L jobs).log := by
  have hstart : World.Accounted L ⟨{}, 0, [], false⟩ := ⟨throughout_nil _, rfl⟩
  have haccounted := foldl_invariant (process_accounted (L := L)) hstart jobs
  obtain ⟨hlog, hended⟩ := processAll_upTo L jobs
  exact ⟨hlog, hended, haccounted.throughout⟩

/-- Lists of which each has one element or none, one after the other. -/
lemma forall₂_filter_flatMap {α β : Type*} {R : α → β → Prop} {P : α → Prop} [DecidablePred P]
    {values : α → List β} {as : List α}
    (h : ∀ a ∈ as, (P a ∧ ∃ b, values a = [b] ∧ R a b) ∨ ¬ P a ∧ values a = []) :
    List.Forall₂ R (as.filter P) (as.flatMap values) := by
  induction as with
  | nil => exact List.Forall₂.nil
  | cons a as ih =>
    have ih := ih fun a' ha' => h a' (List.mem_cons_of_mem _ ha')
    rw [List.flatMap_cons]
    rcases h a (List.mem_cons_self ..) with ⟨hP, b, hb, hR⟩ | ⟨hP, hb⟩
    · rw [List.filter_cons_of_pos (by simpa using hP), hb]
      exact List.Forall₂.cons hR ih
    · rw [List.filter_cons_of_neg (by simpa using hP), hb]
      exact ih

/-- **What a sequence of arrays leaves behind.**  However long a sequence of arrays of the expected
size is, and whatever Arrow reports: the arrays up to the first fatal one are processed, and of
these exactly the ones whose table can be handed to a writer have one table handed over, in order;
it goes to the file that was opened for the array, and decodes to the array; and no file is used
twice. -/
theorem processAll_archive {L : Library} {jobs : List Job}
    (hsized : ∀ job ∈ jobs, Sized L job.array) :
    (processAll L jobs).log.map Processed.job = upTo (Job.Fatal L) jobs ∧
    List.Forall₂ (fun (e : Processed) (p : Stream × Table) =>
        e.opening.outcome = .asynSuccess ∧ e.opening.self.outfile = some p.1 ∧ p.1 = e.stream ∧
          ∃ t, e.job.array.dataType.ctype = some t ∧ Decodes L t e.job.array p.2)
      ((processAll L jobs).log.filter fun e => e.job.HandsOver L)
      (handedOver (processAll L jobs).calls) ∧
    (handedStreams (processAll L jobs).calls).Pairwise (· < ·) := by
  have hstart : World.Inv L ⟨{}, 0, [], false⟩ :=
    ⟨by simp, by simp [World.calls, handedStreams, handedOver],
      by simp [World.calls, handedStreams, handedOver]⟩
  have hinv : (processAll L jobs).Inv L := foldl_invariant (process_inv (L := L)) hstart jobs
  have hlog := (processAll_upTo L jobs).1
  refine ⟨hlog, ?_, hinv.sorted⟩
  have hentry : ∀ (w : World) (job : Job), (∀ e ∈ w.log, ∃ w', e = processArray L w' e.job) →
      ∀ e ∈ (process L w job).log, ∃ w', e = processArray L w' e.job := by
    intro w job h
    rw [process]
    split_ifs with hended
    · exact h
    · intro e he
      rcases List.mem_append.mp he with he | he
      · exact h e he
      · obtain rfl := List.mem_singleton.mp he
        exact ⟨w, rfl⟩
  have hentries : ∀ e ∈ (processAll L jobs).log, ∃ w, e = processArray L w e.job :=
    foldl_invariant hentry (by simp) jobs
  rw [World.calls, handedOver, List.filterMap_flatMap]
  refine forall₂_filter_flatMap fun e he => ?_
  have hjob : e.job ∈ jobs := by
    have hmem : e.job ∈ upTo (Job.Fatal L) jobs := hlog ▸ List.mem_map_of_mem he
    exact upTo_subset jobs hmem
  obtain ⟨w, heq⟩ := hentries e he
  have hcalls : handedOver e.calls = handedOver (processArray L w e.job).calls :=
    congrArg (fun e => handedOver (Processed.calls e)) heq
  rcases processArray_handsOver w (hsized e.job hjob) with ⟨hhands, t, T, ht, hhanded, hdecodes⟩ |
    ⟨hnot, hnone⟩
  · have hstream : e.stream = w.nextStream := congrArg Processed.stream heq
    have hopened : e.opening.outcome = .asynSuccess := by
      rcases processArray_cases L w e.job with ⟨-, hopened, -⟩ | ⟨hclosed, -⟩
      · exact (congrArg (fun e => e.opening.outcome) heq).trans hopened
      · exact absurd hhands.1 hclosed
    have houtfile := (hinv.isolated e he hopened).1
    exact Or.inl ⟨hhands, (w.nextStream, T), hcalls.trans hhanded,
      hopened, hstream ▸ houtfile, hstream.symm, t, ht, hdecodes⟩
  · exact Or.inr ⟨hnot, hcalls.trans hnone⟩

/-- A pixel that is saved in a Parquet file. -/
def pixelJob : Job :=
  ⟨"dot", .NDFileModeWrite, pixelOfType .NDUInt8 [7], .OK, NDArrowFileFormat.PARQUET.value, .ok,
    some .OK⟩

/-- The image, saved in a CSV file by a writer that reports an error when it is closed. -/
def imageJob : Job :=
  ⟨"spots", .NDFileModeWrite, colorImage, .OK, NDArrowFileFormat.CSV.value,
    ⟨.OK, .OK, .OK, .error 5 "Input/output error"⟩, none⟩

/-- The image, in a file format that there is no writer for. -/
def formatlessJob : Job := { imageJob with fileFormat := 7 }

/-- Of these three arrays, the first and the last one have a table handed over. -/
theorem processAll_archive_three : ∃ (e e' : Processed) (T T' : Table),
    handedOver (processAll Library.reference [pixelJob, formatlessJob, imageJob]).calls
        = [(e.stream, T), (e'.stream, T')] ∧
      e.job = pixelJob ∧ e'.job = imageJob ∧ e.stream < e'.stream ∧
      (∃ t, Decodes Library.reference t (pixelOfType .NDUInt8 [7]) T) ∧
      ∃ t, Decodes Library.reference t colorImage T' := by
  have hsized : ∀ job ∈ [pixelJob, formatlessJob, imageJob],
      Sized Library.reference job.array := by
    intro job hjob
    simp only [List.mem_cons, List.not_mem_nil, or_false] at hjob
    rcases hjob with rfl | rfl | rfl
    · exact sized_uint8 7
    · exact sized_colorImage
    · exact sized_colorImage
  obtain ⟨hlog, harchive, hsorted⟩ := processAll_archive hsized
  have hall : upTo (Job.Fatal Library.reference) [pixelJob, formatlessJob, imageJob]
      = [pixelJob, formatlessJob, imageJob] := by decide
  rw [hall] at hlog
  obtain ⟨e, rest, hentries, hjob, hlog⟩ := List.map_eq_cons_iff.mp hlog
  obtain ⟨e₂, rest, rfl, hjob₂, hlog⟩ := List.map_eq_cons_iff.mp hlog
  obtain ⟨e', rest, rfl, hjob', hlog⟩ := List.map_eq_cons_iff.mp hlog
  obtain rfl := List.map_eq_nil_iff.mp hlog
  have hhands : pixelJob.HandsOver Library.reference := by decide
  have hnot : ¬ formatlessJob.HandsOver Library.reference := by decide
  have hhands' : imageJob.HandsOver Library.reference := by decide
  rw [hentries] at harchive
  simp only [List.filter_cons, hjob, hjob₂, hjob', hhands, hnot, hhands', decide_true, decide_false,
    if_true, Bool.false_eq_true, if_false, List.filter_nil] at harchive
  obtain ⟨⟨s, T⟩, ps, ⟨-, -, rfl, t, -, hdecodes⟩, hrest, hps⟩ :=
    List.forall₂_cons_left_iff.mp harchive
  obtain ⟨⟨s', T'⟩, ps, ⟨-, -, rfl, t', -, hdecodes'⟩, hnil, rfl⟩ :=
    List.forall₂_cons_left_iff.mp hrest
  obtain rfl := List.forall₂_nil_left_iff.mp hnil
  rw [handedStreams, hps] at hsorted
  rw [hjob] at hdecodes
  rw [hjob'] at hdecodes'
  exact ⟨e, e', T, T', hps, hjob, hjob', List.rel_of_pairwise_cons hsorted (by simp),
    ⟨t, hdecodes⟩, t', hdecodes'⟩

/-! ### Threads -/

/-- The tables that a file has received. -/
def contents (calls : List ArrowCall) (s : Stream) : List Table :=
  ((handedOver calls).filter fun p => p.1 = s).map Prod.snd

/-- Where no key occurs twice, there is one pair for each key. -/
lemma filter_fst_eq_singleton {α β : Type*} [DecidableEq α] {ps : List (α × β)} {a : α} {b : β}
    (hnodup : (ps.map Prod.fst).Nodup) (hmem : (a, b) ∈ ps) :
    (ps.filter fun p => p.1 = a) = [(a, b)] := by
  induction ps with
  | nil => exact absurd hmem (by simp)
  | cons p ps ih =>
    obtain ⟨hp, hnodup⟩ := List.nodup_cons.mp hnodup
    rcases List.mem_cons.mp hmem with rfl | hmem
    · have hnone : (ps.filter fun p => p.1 = a) = [] := by
        refine List.filter_eq_nil_iff.mpr fun q hq hqa => hp ?_
        exact List.mem_map.mpr ⟨q, hq, of_decide_eq_true hqa⟩
      rw [List.filter_cons_of_pos (by simp), hnone]
    · have hne : p.1 ≠ a := by
        rintro rfl
        exact hp (List.mem_map.mpr ⟨_, hmem, rfl⟩)
      rw [List.filter_cons_of_neg (by simpa using hne)]
      exact ih hnodup hmem

/-- Where one call has handed a table to a file, the file has received that table and no other. -/
lemma contents_eq_singleton {L : Library} {n : ℕ} {c : Shared n} (hinv : c.Inv L) {event : Event}
    (hmem : event ∈ c.log) {stream : Stream} {T : Table}
    (hhanded : handedOver event.effect.calls = [(stream, T)]) : contents c.calls stream = [T] := by
  have hown : (stream, T) ∈ handedOver event.effect.calls := by simp [hhanded]
  have hone : (stream, T) ∈ handedOver c.calls := by
    rw [Shared.calls, handedOver, List.filterMap_flatMap]
    exact List.mem_flatMap.mpr ⟨event, hmem, hown⟩
  rw [contents, filter_fst_eq_singleton (hinv.sorted.imp fun hlt => ne_of_lt hlt) hone]
  rfl

/-- A new object writes an array only after it has opened a file for it. -/
lemma opened_of_freshWrite {L : Library} {stream : Stream} {fileName : String}
    {openMode : NDFileOpenMode} {A : NDArray} {fileFormat : ℤ} {reply : Replies}
    (h : (freshWrite L stream fileName openMode A fileFormat reply).outcome = .asynSuccess) :
    (openFile L (.ok stream) {} fileName openMode A).outcome = .asynSuccess := by
  rw [freshWrite] at h
  rcases openFile_cases L {} fileName openMode A .OK stream with
    ⟨t, -, -, -, heq⟩ | ⟨t, ht, hmode, houtcome, -⟩ | ⟨-, heq⟩
  · exact congrArg Effect.outcome heq
  · have hopenMode : ¬ (openMode.read = true ∨ openMode.append = true) := by
      intro hopenMode
      rw [openOutcome, if_pos hopenMode] at houtcome
      exact absurd houtcome (by simp)
    exact absurd houtcome (by simp [openOutcome, hopenMode, ht, hmode])
  · -- without a schema there is nothing to write
    have hbuild : buildTable L none A = .error (.undefined .nullPointer) := rfl
    rw [show openFile L (.ok stream) {} fileName openMode A = _ from heq,
      writeFile_of_error hbuild] at h
    exact absurd h (by simp)

/-- **Saved arrays can be read back.**  In every run of any number of threads in which a file is
only opened while every thread is idle: where writing an array of the expected size has succeeded,
its file contains one table, now and however the run goes on, and the table decodes to the
array. -/
theorem run_archived {L : Library} {n : ℕ} {actions : List (Action n)} {c : Shared n}
    (hrun : Run (Guarded (Apart L) (Step L n)) (start n) actions c) {task : Task} {stream : Stream}
    {fileFormat : ℤ} {reply : Replies} {effect : Effect}
    (hmem : .writeFile task stream fileFormat reply effect ∈ c.log)
    (hsuccess : effect.outcome = .asynSuccess) (hsized : Sized L task.array) :
    ∃ t T, task.array.dataType.ctype = some t ∧ contents c.calls stream = [T] ∧
      Decodes L t task.array T := by
  have hinv : c.Inv L := hrun.invariant inv_step (inv_start L n)
  obtain ⟨hfresh, -⟩ := hinv.own _ hmem
  rw [hfresh] at hsuccess
  have hopen := opened_of_freshWrite hsuccess
  obtain ⟨s, t, columns, hs, ht, hmode, hview, hhanded⟩ :=
    exists_handedOver_represents hsized hopen hsuccess
  obtain rfl := Except.ok.inj hs
  have heffect := (congrArg (fun e : Effect => handedOver e.calls) hfresh).trans hhanded
  exact ⟨t, _, ht, contents_eq_singleton hinv hmem heffect, hview.decodes hmode rfl⟩

theorem run_archived_saved : ∃ (c : Shared 2) (t t' : CType) (T T' : Table),
    Run (Guarded (Apart Library.reference) (Step Library.reference 2)) (start 2)
        (save 0 (pixelTask "a" 7) ++ save 1 (imageTask "b")) c ∧
      contents c.calls 0 = [T] ∧ Decodes Library.reference t (pixelOfType .NDUInt8 [7]) T ∧
      contents c.calls 1 = [T'] ∧ Decodes Library.reference t' colorImage T' := by
  obtain ⟨c, effect, effect', hrun, -, -, hsuccess, hsuccess', hmem, hmem'⟩ := exists_run_saved
  have hrun := hrun.mono guarded_apart
  obtain ⟨t, T, -, hcontents, hdecodes⟩ := run_archived hrun hmem hsuccess (sized_uint8 7)
  obtain ⟨t', T', -, hcontents', hdecodes'⟩ := run_archived hrun hmem' hsuccess' sized_colorImage
  exact ⟨c, t, t', T, T', hrun, hcontents, hdecodes, hcontents', hdecodes'⟩

end ADPluginArrow
