/-
# Recovery

Calls fail, files are replaced before anything has been written to them, streams stay open when
they cannot be closed, and arrays are written in the files of other arrays.  `session_saves` says
that the plugin recovers from all of this: in every state that a session reaches, the next array
for which every Arrow call succeeds is saved in a file of its own, and what the other files contain
stays as it is.
-/
import ADPluginArrow.Archive
import ADPluginArrow.Status

namespace ADPluginArrow

open CLang Runs

/-- All the Arrow calls of a session. -/
def Session.calls (c : Session) : List ArrowCall := c.history.flatMap fun r => r.effect.calls

/-- The calls that save the array of a job, and leave its file open. -/
def Job.saving (job : Job) : List Call :=
  [.openFile job.fileName job.openMode job.array job.opened,
    .writeFile job.fileFormat job.reply job.array]

/-- The array of a job can be saved: its file is opened, its data type has a table, and every call
by which a table is written in the file format succeeds. -/
def Job.Saves (L : Library) (job : Job) : Prop :=
  job.Opens L ∧ job.array.dataType ∈ ([.NDUInt8, .NDInt16, .NDUInt16, .NDInt32, .NDFloat32,
    .NDFloat64] : List NDDataType) ∧
    ∃ format : NDArrowFileFormat, format.value = job.fileFormat ∧ AllOK format job.reply

/-! ### What the files of a session contain -/

lemma Session.calls_after (c : Session) (r : Record) :
    (c.after r).calls = c.calls ++ r.effect.calls := by
  simp [calls, after]

/-- Nothing has been written to a stream that has not been opened yet. -/
lemma Session.Inv.contents_nextStream {L : Library} {c : Session} (h : c.Inv L) :
    contents c.calls c.nextStream = [] := by
  have hacquired := (h.disciplined.uses_sorted h.increasing).2
  have huses : (c.history.map Record.move).flatMap Handles.Move.uses
      = c.calls.filterMap ArrowCall.stream := by
    rw [Session.calls, List.filterMap_flatMap, List.flatMap_map]
    rfl
  rw [huses] at hacquired
  refine List.map_eq_nil_iff.mpr (List.filter_eq_nil_iff.mpr fun p hp heq => ?_)
  have hused : p.1 ∈ c.calls.filterMap ArrowCall.stream :=
    (handedStreams_sublist c.calls).subset (List.mem_map_of_mem hp)
  exact absurd (of_decide_eq_true heq) (ne_of_lt (h.below p.1 (hacquired p.1 hused)))

/-- What the two calls that save an array do, whatever the object is like. -/
lemma Job.Saves.saved {L : Library} {job : Job} (hsaves : job.Saves L)
    (hsized : Sized L job.array) (self : NDFileArrow) (next : Stream) {opening writing : Effect}
    (hopening : opening = openFile L (openResult job.opened next) self job.fileName job.openMode
      job.array)
    (hwriting : writing = writeFile L job.fileFormat job.reply opening.self job.array) :
    opening.outcome = .asynSuccess ∧ writing.outcome = .asynSuccess ∧
      writing.self.outfile = some next ∧ handedOver opening.calls = [] ∧
      ∃ t T, job.array.dataType.ctype = some t ∧ handedOver writing.calls = [(next, T)] ∧
        Decodes L t job.array T := by
  obtain ⟨hopens, htype, format, hformat, hok⟩ := hsaves
  have hopened : opening.outcome = .asynSuccess := by
    rw [hopening]
    rcases openFile_cases L self job.fileName job.openMode job.array job.opened next with
      ⟨t, -, -, -, heq⟩ | ⟨t, -, -, houtcome, -⟩ | ⟨-, heq⟩
    · rw [heq]
    · exact absurd (houtcome.symm.trans hopens) (by simp)
    · rw [heq]
      exact hopens
  obtain ⟨t, s, ht, hmode, hs, heq⟩ := openFile_inv (hopening ▸ hopened)
  obtain rfl := openResult_eq_ok hs
  have htab : t.Tabulated := (tabulated_iff ht).mpr htype
  obtain ⟨columns, hbuild, hview⟩ := buildTable_fits hmode Iff.rfl (hsized.fits ht) htab
  have hbuild : buildTable L (some (schemaFor (L.getInfo job.array) t)) job.array = _ := hbuild
  have hwritten : (writeTable format.value job.reply (some s)
      ⟨schemaFor (L.getInfo job.array) t, columns⟩).2 = .asynSuccess := writeTable_of_allOK hok
  rw [hopening, heq, writeFile_of_ok hbuild, ← hformat] at hwriting
  rw [hwriting]
  refine ⟨hopened, hwritten, rfl, ?_, t, _, ht, handedOver_of_writeTable_success hwritten,
    hview.decodes hmode rfl⟩
  rw [hopening]
  exact List.map_eq_nil_iff.mp (handedStreams_openFile ..)

/-- **The plugin recovers.**  In every state that a session reaches and that is not the end of the
process, an array of the expected size that can be saved is saved: both calls succeed, the file of
the array contains its table and nothing else, and all other files contain what they have contained
before. -/
theorem session_saves {L : Library} {calls : List Call} {c : Session}
    (hrun : Run (Session.Step L) .start calls c) (hgoing : c.ended = false) {job : Job}
    (hsized : Sized L job.array) (hsaves : job.Saves L) :
    ∃ c' later t T, Run (Session.Step L) c job.saving c' ∧ c'.history = c.history ++ later ∧
      (∀ r ∈ later, r.effect.outcome = .asynSuccess) ∧ c'.ended = false ∧
      c'.self.outfile = some c.nextStream ∧ job.array.dataType.ctype = some t ∧
      contents c'.calls c.nextStream = [T] ∧ Decodes L t job.array T ∧
      ∀ s, s ≠ c.nextStream → contents c'.calls s = contents c.calls s := by
  have hinv : c.Inv L := hrun.invariant Session.inv_step (Session.inv_start L)
  let opening := c.record L (.openFile job.fileName job.openMode job.array job.opened)
  let writing := (c.after opening).record L (.writeFile job.fileFormat job.reply job.array)
  let saved := (c.after opening).after writing
  obtain ⟨hopened, hwritten, houtfile, hoffered, t, T, ht, hhanded, hdecodes⟩ :=
    hsaves.saved hsized c.self c.nextStream (show opening.effect = _ from rfl)
      (show writing.effect = _ from rfl)
  have hends : ∀ {outcome : Outcome}, outcome = .asynSuccess → outcome.ends = false :=
    fun h => congrArg Outcome.ends h
  have hcalls : handedOver saved.calls = handedOver c.calls ++ [(c.nextStream, T)] := by
    rw [Session.calls_after, Session.calls_after, handedOver_append, handedOver_append, hoffered,
      hhanded, List.append_nil]
  have hcontents : ∀ s, contents saved.calls s
      = contents c.calls s ++ if c.nextStream = s then [T] else [] := by
    intro s
    rw [contents, hcalls, List.filter_append, List.map_append, contents]
    by_cases hs : c.nextStream = s <;> simp [hs]
  refine ⟨saved, [opening, writing], t, T,
    Run.cons ⟨hgoing, rfl⟩ (Run.cons ⟨hends hopened, rfl⟩ (Run.nil _)), ?_, ?_, hends hwritten,
    houtfile, ht, ?_, hdecodes, ?_⟩
  · exact List.append_assoc c.history [opening] [writing]
  · intro r hr
    simp only [List.mem_cons, List.not_mem_nil, or_false] at hr
    rcases hr with rfl | rfl
    · exact hopened
    · exact hwritten
  · rw [hcontents, hinv.contents_nextStream, if_pos rfl, List.nil_append]
  · intro s hs
    rw [hcontents, if_neg (Ne.symm hs), List.append_nil]

/-- After a file has been closed without a table in it, the image is saved in the next one. -/
theorem session_saves_closed : ∃ c' t T, Run (Session.Step Library.reference) closedSession
    (Job.saving { imageJob with reply := .ok }) c' ∧ contents c'.calls 0 = [] ∧
      contents c'.calls 1 = [T] ∧ Decodes Library.reference t colorImage T := by
  have hsaves : Job.Saves Library.reference { imageJob with reply := .ok } :=
    ⟨by decide, by decide, .CSV, rfl, rfl, rfl, rfl⟩
  obtain ⟨c', -, t, T, hrun, -, -, -, -, -, hcontents, hdecodes, hothers⟩ :=
    session_saves run_closedSession rfl sized_colorImage hsaves
  exact ⟨c', t, T, hrun, hothers 0 (by decide), hcontents, hdecodes⟩

end ADPluginArrow
