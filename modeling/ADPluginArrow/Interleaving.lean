/-
# Threads without a guard

The results of `Threads` are about runs in which the files of two threads do not overlap.  Nothing
in the plugin sees to that.  Without the guard, arrays end up in the files of other threads, but
not everything is lost: the calls of the threads, in the order in which they are made, are still
the calls of a session, and what holds of every session holds of every interleaving.

* `run_session` is the simulation of the threads by a session.
* `run_streams` is what follows for the streams: no thread uses one that any thread has closed or
  replaced, and the tables never go back to an earlier stream.
-/
import ADPluginArrow.Session
import ADPluginArrow.Threads

namespace ADPluginArrow

open Runs

variable {n : ℕ}

/-! ### The session of a run -/

/-- The record of the call that an event is about. -/
def Event.Recorded : Event → Record → Prop
  | .openFile task stream effect, r => ∃ opened,
    r = ⟨.openFile task.fileName task.openMode task.array opened, stream, effect⟩
  | .writeFile task _ fileFormat reply effect, r => ∃ next,
    r = ⟨.writeFile fileFormat reply task.array, next, effect⟩
  | .closeFile _ _ effect, r => ∃ closed next, r = ⟨.closeFile closed, next, effect⟩

/-- A session has made the calls of the threads, on the same object. -/
structure Shared.Follows (c : Shared n) (s : Session) : Prop where
  self_eq : s.self = c.self
  nextStream_eq : s.nextStream = c.nextStream
  ended_eq : s.ended = c.ended
  history : List.Forall₂ Event.Recorded c.log s.history

/-- What an event does with streams. -/
def Event.move (event : Event) : Handles.Move Stream where
  uses := event.effect.calls.filterMap ArrowCall.stream
  op :=
    match event, event.effect.outcome with
    | .openFile _ stream _, .asynSuccess => .acquire stream
    | .closeFile .., .asynSuccess => .release
    | _, _ => .keep

lemma Event.Recorded.effect_eq {event : Event} {r : Record} (h : event.Recorded r) :
    r.effect = event.effect := by
  cases event with
  | openFile task stream effect => obtain ⟨opened, rfl⟩ := h; rfl
  | writeFile task stream fileFormat reply effect => obtain ⟨next, rfl⟩ := h; rfl
  | closeFile task stream effect => obtain ⟨closed, next, rfl⟩ := h; rfl

lemma Event.Recorded.move_eq {event : Event} {r : Record} (h : event.Recorded r) :
    r.move = event.move := by
  cases event with
  | openFile task stream effect =>
    obtain ⟨opened, rfl⟩ := h
    cases houtcome : effect.outcome <;>
      simp [Record.move, Record.op, Event.move, Event.effect, houtcome]
  | writeFile task stream fileFormat reply effect =>
    obtain ⟨next, rfl⟩ := h
    simp [Record.move, Record.op, Event.move, Event.effect]
  | closeFile task stream effect =>
    obtain ⟨closed, next, rfl⟩ := h
    cases houtcome : effect.outcome <;>
      simp [Record.move, Record.op, Event.move, Event.effect, houtcome]

lemma map_move_eq {log : List Event} {history : List Record}
    (h : List.Forall₂ Event.Recorded log history) :
    history.map Record.move = log.map Event.move := by
  induction h with
  | nil => rfl
  | cons hr _ ih => rw [List.map_cons, List.map_cons, hr.move_eq, ih]

/-- A session that follows the threads so far goes on with the call of the next step. -/
lemma Shared.Follows.step {L : Library} (c : Shared n) (action : Action n) (c' : Shared n)
    (s : Session) (h : c.Follows s) (hstep : Step L n c action c') :
    ∃ calls s', Run (Session.Step L) s calls s' ∧ c'.Follows s' := by
  have hended : s.ended = false := h.ended_eq.trans (not_ended_of_step hstep)
  -- one call is enough, if its record is the one of the event
  have hcall : ∀ (call : Call) (thread : Fin n) (event : Event) (nextStream : Stream)
      (next : Phase), event.Recorded (s.record L call) →
      (s.record L call).nextStream = nextStream →
      c' = c.after thread event nextStream next →
      ∃ calls s', Run (Session.Step L) s calls s' ∧ c'.Follows s' := by
    rintro call thread event nextStream next hrecorded hnext rfl
    refine ⟨[call], s.after (s.record L call), Run.cons ⟨hended, rfl⟩ (Run.nil _), ?_⟩
    have heffect := hrecorded.effect_eq
    refine ⟨congrArg Effect.self heffect, hnext, ?_, ?_⟩
    · exact congrArg (fun effect : Effect => effect.outcome.ends) heffect
    · exact List.rel_append h.history (List.Forall₂.cons hrecorded List.Forall₂.nil)
  obtain ⟨hself, hstream, -, -⟩ := h
  rcases step_cases hstep with ⟨thread, task, opened, rfl, -, effect, rfl, hc'⟩ |
    ⟨thread, fileFormat, reply, task, stream, rfl, -, effect, rfl, hc'⟩ |
    ⟨thread, closed, task, stream, rfl, -, effect, rfl, hc'⟩
  · have hrecord : s.record L (.openFile task.fileName task.openMode task.array opened)
        = ⟨.openFile task.fileName task.openMode task.array opened, c.nextStream,
          openFile L (openResult opened c.nextStream) c.self task.fileName task.openMode
            task.array⟩ := by
      rw [Session.record, Call.effect, hself, hstream]
    refine hcall (.openFile task.fileName task.openMode task.array opened) thread _ _ _ ?_ ?_ hc'
    · exact ⟨opened, hrecord⟩
    · rw [hrecord, Record.nextStream, Record.op, streamAfter]
      cases (openFile L (openResult opened c.nextStream) c.self task.fileName task.openMode
        task.array).outcome <;> simp
  · have hrecord : s.record L (.writeFile fileFormat reply task.array)
        = ⟨.writeFile fileFormat reply task.array, c.nextStream,
          writeFile L fileFormat reply c.self task.array⟩ := by
      rw [Session.record, Call.effect, hself, hstream]
    refine hcall (.writeFile fileFormat reply task.array) thread _ _ _ ?_ ?_ hc'
    · exact ⟨c.nextStream, hrecord⟩
    · rw [hrecord]
      rfl
  · have hrecord : s.record L (.closeFile closed)
        = ⟨.closeFile closed, c.nextStream, closeFile closed c.self⟩ := by
      rw [Session.record, Call.effect, hself, hstream]
    refine hcall (.closeFile closed) thread _ _ _ ?_ ?_ hc'
    · exact ⟨closed, c.nextStream, hrecord⟩
    · rw [hrecord, Record.nextStream, Record.op]
      cases (closeFile closed c.self).outcome <;> rfl

lemma follows_start (n : ℕ) : (start n).Follows .start := ⟨rfl, rfl, rfl, List.Forall₂.nil⟩

/-- **Every interleaving is a session.**  In every run of any number of threads, with no guard, the
calls of the threads are the calls of a session on the same object. -/
theorem run_session {L : Library} {actions : List (Action n)} {c : Shared n}
    (hrun : Run (Step L n) (start n) actions c) :
    ∃ calls s, Run (Session.Step L) .start calls s ∧ c.Follows s :=
  hrun.simulate Shared.Follows.step (follows_start n)

/-! ### Streams -/

/-- The streams that receive tables are among those that are used. -/
lemma handedStreams_sublist (calls : List ArrowCall) :
    (handedStreams calls).Sublist (calls.filterMap ArrowCall.stream) := by
  induction calls with
  | nil => exact List.Sublist.slnil
  | cons call calls ih =>
    cases call <;>
      simp only [handedStreams, handedOver, List.filterMap_cons, ArrowCall.handed,
        ArrowCall.stream, List.map_cons] at ih ⊢
    all_goals first | exact ih.cons_cons _ | exact ih.cons _ | exact ih

/-- **Streams in any interleaving.**  In every run of any number of threads, with no guard, an
Arrow call works on the stream that was opened last by any thread, with no successful `closeFile`
of any thread in between; no stream is opened twice; and the streams that receive the tables are
numbered in the order of the tables. -/
theorem run_streams {L : Library} {actions : List (Action n)} {c : Shared n}
    (hrun : Run (Step L n) (start n) actions c) :
    (∀ past event future, c.log = past ++ event :: future → ∀ call ∈ event.effect.calls, ∀ s,
      call.stream = some s → ∃ before opening since, past = before ++ opening :: since ∧
        opening.move.op = .acquire s ∧ ∀ event' ∈ since, event'.move.op = .keep) ∧
    (Handles.acquired (c.log.map Event.move)).Nodup ∧ (handedStreams c.calls).Pairwise (· ≤ ·) := by
  obtain ⟨calls, s, hsession, hfollows⟩ := hrun.simulate Shared.Follows.step (follows_start n)
  have hinv : s.Inv L := hsession.invariant Session.inv_step (Session.inv_start L)
  have hdisciplined := hinv.disciplined
  have hincreasing := hinv.increasing
  rw [map_move_eq hfollows.history] at hdisciplined hincreasing
  refine ⟨?_, hincreasing.imp fun hlt => ne_of_lt hlt, ?_⟩
  · intro past event future heq call hcall s hs
    have hheld : Handles.held (past.map Event.move) = some s := by
      refine hdisciplined (past.map Event.move) event.move (future.map Event.move) ?_ s
        (List.mem_filterMap.mpr ⟨call, hcall, hs⟩)
      rw [heq, List.map_append, List.map_cons]
    obtain ⟨before, move, since, hmap, hop, hsince⟩ := Handles.held_eq_some_iff.mp hheld
    obtain ⟨before, rest, rfl, rfl, hrest⟩ := List.map_eq_append_iff.mp hmap
    obtain ⟨opening, since, rfl, rfl, rfl⟩ := List.map_eq_cons_iff.mp hrest
    exact ⟨before, opening, since, rfl, hop,
      fun event' hmem => hsince _ (List.mem_map_of_mem hmem)⟩
  · have hsorted := (hdisciplined.uses_sorted hincreasing).1
    refine hsorted.sublist ?_
    have huses : (c.log.map Event.move).flatMap Handles.Move.uses
        = c.calls.filterMap ArrowCall.stream := by
      rw [Shared.calls, List.filterMap_flatMap, List.flatMap_map]
      rfl
    rw [huses]
    exact handedStreams_sublist c.calls

/-! ### Overlapping files -/

/-- Two threads open a file each before the first one writes. -/
def overlapping : List (Action 2) :=
  [.openFile 0 (pixelTask "a" 7) .OK, .openFile 1 (pixelTask "b" 9) .OK,
    .writeFile 0 NDArrowFileFormat.PARQUET.value .ok,
    .writeFile 1 NDArrowFileFormat.PARQUET.value .ok]

/-- Both arrays reach the file of the second thread. -/
lemma exists_run_overlapping :
    ∃ c : Shared 2, Run (Step Library.reference 2) (start 2) overlapping c ∧
      handedStreams c.calls = [1, 1] := by
  -- the object holds the file that a thread would have opened for either array
  have hholds : ∀ value self, self = (openFile Library.reference (.ok 1) {} "b" .NDFileModeWrite
      (pixelOfType .NDUInt8 [9])).self → Holds Library.reference self (pixelTask "b" value) 1 :=
    fun value self hself => ⟨openFile_uint8 value 1 {} "b", hself⟩
  obtain ⟨hsuccess, hhanded⟩ := writeFile_of_holds (hholds 7 _ rfl) (sized_uint8 7)
    (by decide) .PARQUET
  have hself := writeFile_self Library.reference NDArrowFileFormat.PARQUET.value .ok
    (openFile Library.reference (.ok 1) {} "b" .NDFileModeWrite (pixelOfType .NDUInt8 [9])).self
    (pixelOfType .NDUInt8 [7])
  obtain ⟨hsuccess', hhanded'⟩ := writeFile_of_holds (hholds 9 _ hself) (sized_uint8 9)
    (by decide) .PARQUET
  refine ⟨_, Run.cons rfl (Run.cons rfl (Run.cons rfl (Run.cons
    (step_writeFile (pixelTask "b" 9) 1 _ _ (congrArg Outcome.ends hsuccess) rfl)
      (Run.nil _)))), ?_⟩
  rw [handedStreams_after, handedStreams_after]
  exact congrArg₂ (· ++ ·) hhanded hhanded'

theorem run_session_overlapping : ∃ (c : Shared 2) (calls : List Call) (s : Session),
    Run (Step Library.reference 2) (start 2) overlapping c ∧
      Run (Session.Step Library.reference) .start calls s ∧ c.Follows s := by
  obtain ⟨c, hrun, -⟩ := exists_run_overlapping
  obtain ⟨calls, s, hsession, hfollows⟩ := run_session hrun
  exact ⟨c, calls, s, hrun, hsession, hfollows⟩

theorem run_streams_overlapping : ∃ c : Shared 2,
    Run (Step Library.reference 2) (start 2) overlapping c ∧
      (Handles.acquired (c.log.map Event.move)).Nodup ∧ handedStreams c.calls = [1, 1] ∧
      (handedStreams c.calls).Pairwise (· ≤ ·) := by
  obtain ⟨c, hrun, hstreams⟩ := exists_run_overlapping
  obtain ⟨-, hnodup, hsorted⟩ := run_streams hrun
  exact ⟨c, hrun, hnodup, hstreams, hsorted⟩

end ADPluginArrow
