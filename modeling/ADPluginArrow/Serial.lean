/-
# Serial runs

`Threads` interleaves the calls of several threads, `Sequence` processes whole arrays one after
the other.  `run_serial` connects the two: in a run in which `openFile` is only called while every
thread is idle, and which all threads have finished, the calls are those of processing the arrays
one after the other, in the order in which their files were opened, with the same effects and the
same object at the end.  `run_completes` says that every run of this kind can be continued to one
which all threads have finished.

On the way there the run is ahead of the arrays that have been processed by the calls of at most
one thread (`Shared.Progress`).
-/
import ADPluginArrow.Interleaving

namespace ADPluginArrow

open Runs

variable {n : ℕ}

/-! ### Arrays and calls -/

/-- What the calls made for an array have done, in order. -/
def Processed.effects (e : Processed) : List Effect :=
  e.opening :: (e.writing.toList ++ e.closing.toList)

/-- The array of a job, and where it is saved. -/
def Job.task (job : Job) : Task := ⟨job.fileName, job.openMode, job.array⟩

/-- The job of a thread for its task, with what the Arrow calls made for it report. -/
def Task.job (task : Task) (opened : Status) (fileFormat : ℤ) (reply : Replies)
    (closed : Option Status) : Job :=
  ⟨task.fileName, task.openMode, task.array, opened, fileFormat, reply, closed⟩

/-- The task whose file an event opens. -/
def Event.opening : Event → Option Task
  | openFile task _ _ => some task
  | _ => none

/-- The world after processing some jobs on a new plugin object. -/
def processAll (L : Library) (jobs : List Job) : World :=
  jobs.foldl (process L) ⟨{}, 0, [], false⟩

lemma processAll_append_singleton (L : Library) (jobs : List Job) (job : Job) :
    processAll L (jobs ++ [job]) = process L (processAll L jobs) job := by
  simp [processAll]

section Process

variable {L : Library} {w : World} (job : Job) {opening writing : Effect}

/-- A job whose file is not opened and is not closed either. -/
lemma process_unopened (hended : w.ended = false) (hclosed : job.closed = none)
    (hopening : opening = openFile L (openResult job.opened w.nextStream) w.self job.fileName
      job.openMode job.array) (hfailed : opening.outcome ≠ .asynSuccess) :
    process L w job = ⟨opening.self, streamAfter opening w.nextStream,
      w.log ++ [⟨job, w.nextStream, opening, none, none⟩], opening.outcome.ends⟩ := by
  subst hopening
  simp [process, hended, processArray, hfailed, hclosed, leftBy, endedBy]

/-- A job whose file is opened, but not closed. -/
lemma process_unclosed (hended : w.ended = false) (hclosed : job.closed = none)
    (hopening : opening = openFile L (openResult job.opened w.nextStream) w.self job.fileName
      job.openMode job.array) (hopened : opening.outcome = .asynSuccess)
    (hwriting : writing = writeFile L job.fileFormat job.reply opening.self job.array) :
    process L w job = ⟨writing.self, streamAfter opening w.nextStream,
      w.log ++ [⟨job, w.nextStream, opening, some writing, none⟩], writing.outcome.ends⟩ := by
  subst hopening hwriting
  simp [process, hended, processArray, hopened, hclosed, leftBy, endedBy, Outcome.ends]

lemma process_closed {closed : Status} (hended : w.ended = false)
    (hclosed : job.closed = some closed)
    (hopening : opening = openFile L (openResult job.opened w.nextStream) w.self job.fileName
      job.openMode job.array) (hopened : opening.outcome = .asynSuccess)
    (hwriting : writing = writeFile L job.fileFormat job.reply opening.self job.array)
    (hwritten : writing.outcome = .asynSuccess) :
    process L w job = ⟨(closeFile closed writing.self).self, streamAfter opening w.nextStream,
      w.log ++ [⟨job, w.nextStream, opening, some writing, some (closeFile closed writing.self)⟩],
      false⟩ := by
  subst hopening hwriting
  simp [process, hended, processArray, hopened, hwritten, hclosed, leftBy, endedBy, Outcome.ends]

end Process

/-! ### Progress -/

/-- The calls of the threads are those of the arrays that have been processed, and some more. -/
structure Shared.Ahead (c : Shared n) (w : World) (effects : List Effect) (tasks : List Task) :
    Prop where
  effects_eq : c.log.map Event.effect = w.log.flatMap Processed.effects ++ effects
  tasks_eq : c.log.filterMap Event.opening = w.log.map (fun e => e.job.task) ++ tasks

/-- Every thread is idle, and every array has been processed. -/
structure Shared.Settled (c : Shared n) (w : World) : Prop where
  idle : ∀ thread, c.phase thread = .idle
  self_eq : c.self = w.self
  nextStream_eq : c.nextStream = w.nextStream
  ended_eq : c.ended = w.ended
  ahead : c.Ahead w [] []

/-- A thread has opened the file of an array. -/
structure Shared.Opened (L : Library) (c : Shared n) (w : World) (thread : Fin n) (task : Task)
    (opened : Status) (opening : Effect) : Prop where
  phase : c.phase thread = .opened task w.nextStream
  opening_eq : opening = openFile L (openResult opened w.nextStream) w.self task.fileName
    task.openMode task.array
  outcome : opening.outcome = .asynSuccess
  self_eq : c.self = opening.self
  nextStream_eq : c.nextStream = streamAfter opening w.nextStream
  ended_eq : w.ended = false
  ahead : c.Ahead w [opening] [task]

/-- A thread has opened the file of an array and written the array. -/
structure Shared.Written (L : Library) (c : Shared n) (w : World) (thread : Fin n) (task : Task)
    (opened : Status) (opening : Effect) (fileFormat : ℤ) (reply : Replies) (writing : Effect) :
    Prop where
  phase : c.phase thread = .written task w.nextStream
  opening_eq : opening = openFile L (openResult opened w.nextStream) w.self task.fileName
    task.openMode task.array
  opened_outcome : opening.outcome = .asynSuccess
  writing_eq : writing = writeFile L fileFormat reply opening.self task.array
  outcome : writing.outcome = .asynSuccess
  self_eq : c.self = writing.self
  nextStream_eq : c.nextStream = streamAfter opening w.nextStream
  ended_eq : w.ended = false
  ahead : c.Ahead w [opening, writing] [task]

/-- How far the threads have come: some arrays have been processed, and at most one thread is on
its way with the next one. -/
def Shared.Progress (L : Library) (c : Shared n) : Prop :=
  ∃ jobs, c.Settled (processAll L jobs) ∨
    (∃ thread task opened opening, c.Opened L (processAll L jobs) thread task opened opening) ∨
    ∃ thread task opened opening fileFormat reply writing,
      c.Written L (processAll L jobs) thread task opened opening fileFormat reply writing

section Progress

variable {L : Library} {c : Shared n} {w : World} {thread : Fin n} {task : Task} {opened : Status}
  {opening : Effect} {fileFormat : ℤ} {reply : Replies} {writing : Effect}

lemma phase_after_self {event : Event} {nextStream : Stream} {next : Phase}
    (hsuccess : event.effect.outcome = .asynSuccess) :
    (c.after thread event nextStream next).phase thread = next := by
  simp [Shared.after, hsuccess]

lemma Shared.Ahead.after {effects : List Effect} {tasks : List Task} (h : c.Ahead w effects tasks)
    (event : Event) (nextStream : Stream) (next : Phase) :
    (c.after thread event nextStream next).Ahead w (effects ++ [event.effect])
      (tasks ++ event.opening.toList) where
  effects_eq := by
    rw [Shared.after, List.map_append, h.effects_eq, List.append_assoc]
    rfl
  tasks_eq := by
    rw [Shared.after, List.filterMap_append, h.tasks_eq, List.append_assoc]
    cases event <;> rfl

/-- What a thread has done so far becomes the next array that has been processed. -/
lemma Shared.Ahead.process {effects : List Effect} (h : c.Ahead w effects [task]) {w' : World}
    {e : Processed} (hlog : w'.log = w.log ++ [e]) (heffects : e.effects = effects)
    (htask : e.job.task = task) : c.Ahead w' [] [] where
  effects_eq := by
    rw [h.effects_eq, hlog, List.flatMap_append, List.flatMap_singleton, heffects, List.append_nil]
  tasks_eq := by
    rw [h.tasks_eq, hlog, List.map_append, List.map_singleton, htask, List.append_nil]

lemma Shared.Settled.openFile {jobs : List Job} (h : c.Settled (processAll L jobs))
    (hended : c.ended = false) (thread : Fin n) (task : Task) (opened : Status) :
    (c.after thread
      (.openFile task c.nextStream (openFile L (openResult opened c.nextStream) c.self
        task.fileName task.openMode task.array))
      (streamAfter (openFile L (openResult opened c.nextStream) c.self task.fileName task.openMode
        task.array) c.nextStream) (.opened task c.nextStream)).Progress L := by
  rw [h.self_eq, h.nextStream_eq]
  generalize heq : ADPluginArrow.openFile L (openResult opened (processAll L jobs).nextStream)
    (processAll L jobs).self task.fileName task.openMode task.array = opening
  have hended : (processAll L jobs).ended = false := h.ended_eq.symm.trans hended
  have hahead : (c.after thread (.openFile task (processAll L jobs).nextStream opening)
      (streamAfter opening (processAll L jobs).nextStream)
      (.opened task (processAll L jobs).nextStream)).Ahead (processAll L jobs) [opening] [task] :=
    h.ahead.after _ _ _
  by_cases hopened : opening.outcome = .asynSuccess
  · refine ⟨jobs, Or.inr (Or.inl ⟨thread, task, opened, opening, ?_⟩)⟩
    exact ⟨phase_after_self hopened, heq.symm, hopened, rfl, rfl, hended,
      hahead⟩
  · -- the array has been processed, without a file
    refine ⟨jobs ++ [task.job opened 0 .ok none], Or.inl ?_⟩
    rw [processAll_append_singleton,
      process_unopened (task.job opened 0 .ok none) hended rfl heq.symm hopened]
    refine ⟨?_, rfl, rfl, rfl, hahead.process rfl rfl rfl⟩
    intro thread'
    rcases phase_after (.openFile task (processAll L jobs).nextStream opening)
      (streamAfter opening (processAll L jobs).nextStream)
      (.opened task (processAll L jobs).nextStream) (fun thread'' _ => h.idle thread'') thread' with
      hidle | ⟨-, hsuccess, -⟩
    · exact hidle
    · exact absurd hsuccess hopened

/-- The thread that has opened a file writes its array. -/
lemma Shared.Opened.writeFile {jobs : List Job}
    (h : c.Opened L (processAll L jobs) thread task opened opening)
    (hothers : ∀ thread', thread' ≠ thread → c.phase thread' = .idle) (fileFormat : ℤ)
    (reply : Replies) :
    (c.after thread
      (.writeFile task (processAll L jobs).nextStream fileFormat reply
        (writeFile L fileFormat reply c.self task.array)) c.nextStream
      (.written task (processAll L jobs).nextStream)).Progress L := by
  rw [h.self_eq, h.nextStream_eq]
  generalize heq : ADPluginArrow.writeFile L fileFormat reply opening.self task.array = writing
  have hahead : (c.after thread
      (.writeFile task (processAll L jobs).nextStream fileFormat reply writing)
      (streamAfter opening (processAll L jobs).nextStream)
      (.written task (processAll L jobs).nextStream)).Ahead (processAll L jobs)
        [opening, writing] [task] := h.ahead.after _ _ _
  by_cases hwritten : writing.outcome = .asynSuccess
  · refine ⟨jobs, Or.inr (Or.inr
      ⟨thread, task, opened, opening, fileFormat, reply, writing, ?_⟩)⟩
    exact ⟨phase_after_self hwritten, h.opening_eq, h.outcome, heq.symm,
      hwritten, rfl, rfl, h.ended_eq, hahead⟩
  · -- the array has been processed, and its file stays open
    refine ⟨jobs ++ [task.job opened fileFormat reply none], Or.inl ?_⟩
    rw [processAll_append_singleton, process_unclosed (task.job opened fileFormat reply none)
      h.ended_eq rfl h.opening_eq h.outcome heq.symm]
    refine ⟨?_, rfl, rfl, rfl, hahead.process rfl rfl rfl⟩
    intro thread'
    rcases phase_after (.writeFile task (processAll L jobs).nextStream fileFormat reply writing)
      (streamAfter opening (processAll L jobs).nextStream)
      (.written task (processAll L jobs).nextStream) hothers thread' with
      hidle | ⟨-, hsuccess, -⟩
    · exact hidle
    · exact absurd hsuccess hwritten

/-- The thread that has written its array closes the file. -/
lemma Shared.Written.closeFile {jobs : List Job}
    (h : c.Written L (processAll L jobs) thread task opened opening fileFormat reply writing)
    (hothers : ∀ thread', thread' ≠ thread → c.phase thread' = .idle) (closed : Status) :
    (c.after thread
      (.closeFile task (processAll L jobs).nextStream (closeFile closed c.self)) c.nextStream
      .idle).Progress L := by
  rw [h.self_eq, h.nextStream_eq]
  have hahead : (c.after thread (.closeFile task (processAll L jobs).nextStream
      (ADPluginArrow.closeFile closed writing.self))
      (streamAfter opening (processAll L jobs).nextStream) .idle).Ahead (processAll L jobs)
        [opening, writing, ADPluginArrow.closeFile closed writing.self] [task] :=
    h.ahead.after _ _ _
  refine ⟨jobs ++ [task.job opened fileFormat reply (some closed)], Or.inl ?_⟩
  rw [processAll_append_singleton, process_closed (task.job opened fileFormat reply (some closed))
    h.ended_eq rfl h.opening_eq h.opened_outcome h.writing_eq h.outcome]
  refine ⟨?_, rfl, rfl, ?_, hahead.process rfl rfl rfl⟩
  · intro thread'
    rcases phase_after (.closeFile task (processAll L jobs).nextStream
      (ADPluginArrow.closeFile closed writing.self))
      (streamAfter opening (processAll L jobs).nextStream) .idle hothers thread' with
      hidle | ⟨-, -, hidle⟩
    · exact hidle
    · exact hidle
  · -- closing does not end the process
    show (ADPluginArrow.closeFile closed writing.self).outcome.ends = false
    rw [ADPluginArrow.closeFile]
    cases writing.self.outfile with
    | none => rfl
    | some s => cases closed <;> rfl

end Progress

/-- Every step that the guard allows makes progress. -/
lemma progress_step {L : Library} (c : Shared n) (action : Action n) (c' : Shared n)
    (h : c.Inv L ∧ c.Progress L) (hstep : Guarded Alone (Step L n) c action c') :
    c'.Inv L ∧ c'.Progress L := by
  obtain ⟨hinv, jobs, hprogress⟩ := h
  refine ⟨inv_step c action c' hinv (guarded_apart c action c' hstep), ?_⟩
  obtain ⟨halone, hstep⟩ := hstep
  have hended := not_ended_of_step hstep
  have hothers_of : ∀ thread, c.phase thread ≠ .idle →
      ∀ thread', thread' ≠ thread → c.phase thread' = .idle := fun _ => others_idle hinv
  rcases step_cases hstep with ⟨thread, task, opened, rfl, -, effect, rfl, rfl⟩ |
    ⟨thread, fileFormat, reply, task, stream, rfl, hphase, effect, rfl, rfl⟩ |
    ⟨thread, closed, task, stream, rfl, hphase, effect, rfl, rfl⟩
  · rcases hprogress with hsettled | ⟨thread', _, _, _, hopened⟩ |
      ⟨thread', _, _, _, _, _, _, hwritten⟩
    · exact hsettled.openFile hended thread task opened
    · exact absurd ((halone thread').symm.trans hopened.phase) (by simp)
    · exact absurd ((halone thread').symm.trans hwritten.phase) (by simp)
  · have hothers := hothers_of thread (by rw [hphase]; simp)
    rcases hprogress with hsettled | ⟨thread', task', opened, opening, hopened⟩ |
      ⟨thread', _, _, _, _, _, _, hwritten⟩
    · exact absurd ((hsettled.idle thread).symm.trans hphase) (by simp)
    · obtain rfl : thread' = thread :=
        hinv.alone thread' thread (by rw [hopened.phase]; simp) (by rw [hphase]; simp)
      obtain ⟨rfl, rfl⟩ := Phase.opened.inj (hopened.phase.symm.trans hphase)
      exact hopened.writeFile hothers fileFormat reply
    · obtain rfl : thread' = thread :=
        hinv.alone thread' thread (by rw [hwritten.phase]; simp) (by rw [hphase]; simp)
      exact absurd (hwritten.phase.symm.trans hphase) (by simp)
  · have hothers := hothers_of thread (by rw [hphase]; simp)
    rcases hprogress with hsettled | ⟨thread', _, _, _, hopened⟩ |
      ⟨thread', task', opened, opening, fileFormat, reply, writing, hwritten⟩
    · exact absurd ((hsettled.idle thread).symm.trans hphase) (by simp)
    · obtain rfl : thread' = thread :=
        hinv.alone thread' thread (by rw [hopened.phase]; simp) (by rw [hphase]; simp)
      exact absurd (hopened.phase.symm.trans hphase) (by simp)
    · obtain rfl : thread' = thread :=
        hinv.alone thread' thread (by rw [hwritten.phase]; simp) (by rw [hphase]; simp)
      obtain ⟨rfl, rfl⟩ := Phase.written.inj (hwritten.phase.symm.trans hphase)
      exact hwritten.closeFile hothers closed

/-! ### Serial runs -/

/-- **Runs without overlapping files are serial.**  Where all threads have finished a run in which
`openFile` is only called while every thread is idle, the run has processed the arrays one after the
other, in the order in which their files were opened. -/
theorem run_serial {L : Library} {actions : List (Action n)} {c : Shared n}
    (hrun : Run (Guarded Alone (Step L n)) (start n) actions c)
    (hidle : ∀ thread, c.phase thread = .idle) :
    ∃ jobs, c.self = (processAll L jobs).self ∧ c.nextStream = (processAll L jobs).nextStream ∧
      c.ended = (processAll L jobs).ended ∧
      c.log.map Event.effect = (processAll L jobs).log.flatMap Processed.effects ∧
      c.log.filterMap Event.opening = (processAll L jobs).log.map fun e => e.job.task := by
  have hstart : (start n).Inv L ∧ (start n).Progress L :=
    ⟨inv_start L n, [], Or.inl ⟨fun _ => rfl, rfl, rfl, rfl, rfl, rfl⟩⟩
  obtain ⟨-, jobs, hsettled | ⟨thread, _, _, _, hopened⟩ | ⟨thread, _, _, _, _, _, _, hwritten⟩⟩ :=
    hrun.invariant progress_step hstart
  · have heffects := hsettled.ahead.effects_eq
    have htasks := hsettled.ahead.tasks_eq
    rw [List.append_nil] at heffects htasks
    exact ⟨jobs, hsettled.self_eq, hsettled.nextStream_eq, hsettled.ended_eq, heffects, htasks⟩
  · exact absurd ((hidle thread).symm.trans hopened.phase) (by simp)
  · exact absurd ((hidle thread).symm.trans hwritten.phase) (by simp)

/-- **Threads can finish.**  From every state that a run reaches in which `openFile` is only called
while every thread is idle, the thread that is on its way with an array can finish with it, whatever
Arrow reports; so every such run is the beginning of a serial one. -/
theorem run_completes {L : Library} {actions : List (Action n)} {c : Shared n}
    (hrun : Run (Guarded Alone (Step L n)) (start n) actions c) (hgoing : c.ended = false)
    (fileFormat : ℤ) (reply : Replies) (closed : Status) :
    ∃ actions' c', Run (Guarded Alone (Step L n)) (start n) (actions ++ actions') c' ∧
      (∀ thread, c'.phase thread = .idle) ∧ c.log <+: c'.log ∧
      ∀ action ∈ actions', ∃ thread, action = .writeFile thread fileFormat reply ∨
        action = .closeFile thread closed := by
  have hinv : c.Inv L := (hrun.mono guarded_apart).invariant inv_step (inv_start L n)
  by_cases hidle : ∀ thread, c.phase thread = .idle
  · exact ⟨[], c, by simpa using hrun, hidle, List.prefix_rfl, by simp⟩
  obtain ⟨thread, hbusy⟩ := not_forall.mp hidle
  have hothers := others_idle hinv hbusy
  -- closing a file leaves all threads idle
  have hclose : ∀ (c₁ : Shared n) (task : Task) (stream : Stream), c₁.ended = false →
      c₁.phase thread = .written task stream →
      (∀ thread', thread' ≠ thread → c₁.phase thread' = .idle) →
      ∃ c', Guarded Alone (Step L n) c₁ (.closeFile thread closed) c' ∧
        (∀ thread', c'.phase thread' = .idle) ∧ c₁.log <+: c'.log := by
    intro c₁ task stream hgoing₁ hphase₁ hothers₁
    refine ⟨_, ⟨trivial, step_closeFile task stream closed hgoing₁ hphase₁⟩, ?_,
      List.prefix_append ..⟩
    intro thread'
    rcases phase_after (.closeFile task stream (closeFile closed c₁.self)) c₁.nextStream .idle
      hothers₁ thread' with h | ⟨-, -, h⟩
    · exact h
    · exact h
  cases hphase : c.phase thread with
  | idle => exact absurd hphase hbusy
  | written task stream =>
    obtain ⟨c', hstep, hidle', hlog⟩ := hclose c task stream hgoing hphase hothers
    exact ⟨[.closeFile thread closed], c', hrun.append (Run.cons hstep (Run.nil _)), hidle', hlog,
      by simp⟩
  | opened task stream =>
    obtain ⟨event, hwrite⟩ : ∃ event, Step L n c (.writeFile thread fileFormat reply)
        (c.after thread event c.nextStream (.written task stream)) :=
      ⟨_, step_writeFile task stream fileFormat reply hgoing hphase⟩
    have hafter := phase_after event c.nextStream (.written task stream) hothers
    by_cases hwritten : event.effect.outcome = .asynSuccess
    · obtain ⟨c', hstep, hidle', hlog⟩ := hclose _ task stream (congrArg Outcome.ends hwritten)
        (phase_after_self hwritten) fun thread' hne =>
          (hafter thread').resolve_right fun h => hne h.1
      refine ⟨[.writeFile thread fileFormat reply, .closeFile thread closed], c',
        hrun.append (Run.cons ⟨trivial, hwrite⟩ (Run.cons hstep (Run.nil _))), hidle', ?_, by simp⟩
      exact (List.prefix_append ..).trans hlog
    · refine ⟨[.writeFile thread fileFormat reply], _,
        hrun.append (Run.cons ⟨trivial, hwrite⟩ (Run.nil _)), ?_, List.prefix_append .., by simp⟩
      exact fun thread' => (hafter thread').resolve_right fun h => hwritten h.2.1

/-! ### A run -/

/-- Two threads save an array each, one after the other. -/
lemma exists_run_saved : ∃ (c : Shared 2) (effect effect' : Effect),
    Run (Guarded Alone (Step Library.reference 2)) (start 2)
        (save 0 (pixelTask "a" 7) ++ save 1 (imageTask "b")) c ∧
      (∀ thread, c.phase thread = .idle) ∧ handedStreams c.calls = [0, 1] ∧
      effect.outcome = .asynSuccess ∧ effect'.outcome = .asynSuccess ∧
      .writeFile (pixelTask "a" 7) 0 NDArrowFileFormat.PARQUET.value .ok effect ∈ c.log ∧
      .writeFile (imageTask "b") 1 NDArrowFileFormat.PARQUET.value .ok effect' ∈ c.log := by
  obtain ⟨c₁, effect, hrun₁, hidle₁, hgoing₁, hnext₁, hstreams₁, -, hsuccess, hmem⟩ :=
    exists_run_save (c := start 2) rfl (fun _ => rfl) 0 (opens_pixelTask "a" 7) (sized_uint8 7)
      (by decide)
  obtain ⟨c, effect', hrun, hidle, -, -, hstreams, hlog, hsuccess', hmem'⟩ :=
    exists_run_save hgoing₁ hidle₁ 1 (opens_imageTask "b") sized_colorImage (by decide)
  rw [hnext₁] at hstreams hmem'
  refine ⟨c, effect, effect', hrun₁.append hrun, hidle, ?_, hsuccess, hsuccess',
    hlog.subset hmem, hmem'⟩
  rw [hstreams, hstreams₁]
  rfl

theorem run_serial_saved : ∃ (c : Shared 2) (jobs : List Job),
    Run (Guarded Alone (Step Library.reference 2)) (start 2)
        (save 0 (pixelTask "a" 7) ++ save 1 (imageTask "b")) c ∧
      handedStreams c.calls = [0, 1] ∧
      c.log.map Event.effect
        = (processAll Library.reference jobs).log.flatMap Processed.effects := by
  obtain ⟨c, -, -, hrun, hidle, hstreams, -⟩ := exists_run_saved
  obtain ⟨jobs, -, -, -, heffects, -⟩ := run_serial hrun hidle
  exact ⟨c, jobs, hrun, hstreams, heffects⟩

theorem run_completes_opened : ∃ (actions' : List (Action 2)) (c' : Shared 2),
    Run (Guarded Alone (Step Library.reference 2)) (start 2)
      (.openFile (Fin.last 1) (pixelTask "a" 7) .OK :: actions') c' ∧
        ∀ thread, c'.phase thread = .idle := by
  have hopen : Guarded Alone (Step Library.reference 2) (start 2)
      (.openFile (Fin.last 1) (pixelTask "a" 7) .OK) _ := ⟨fun _ => rfl, rfl⟩
  have hgoing := congrArg Outcome.ends (openFile_uint8 7 0 {} "a")
  obtain ⟨actions', c', hrun, hidle, -⟩ :=
    run_completes (Run.cons hopen (Run.nil _)) hgoing NDArrowFileFormat.PARQUET.value .ok .OK
  exact ⟨actions', c', hrun, hidle⟩

end ADPluginArrow
