/-
# Several threads

The base class runs the plugin with up to `maxThreads` threads.  A thread opens a file for an
array, writes the array if that succeeds, and closes the file if that succeeds; each of these
calls is atomic, but the calls of different threads are interleaved in any order.  The schema
and the stream of a file live in the object, which all threads share.

`run_unmixed` says that the arrays stay apart in every run in which a file is only opened
while no other thread is between opening and closing one; a single thread satisfies this by
itself (`run_unmixed_single`).  Calls of `openFile` that open no file are free to come at any
time.
-/
import ADPluginArrow.Sequence
import ADPluginArrow.Conformance

namespace ADPluginArrow

open Runs

/-! ### The system -/

/-- An array to save, and where. -/
structure Task where
  fileName : String
  openMode : NDFileOpenMode
  array : NDArray
deriving DecidableEq, Repr

/-- Where a thread is in its sequence of calls. -/
inductive Phase where
  | idle
  | opened (task : Task) (stream : Stream)
  | written (task : Task) (stream : Stream)
deriving DecidableEq, Repr

/-- A call that a thread has made for its task, whose file it had opened as the given
stream. -/
inductive Event where
  | openFile (task : Task) (stream : Stream) (effect : Effect)
  | writeFile (task : Task) (stream : Stream) (fileFormat : ℤ) (reply : Replies) (effect : Effect)
  | closeFile (task : Task) (stream : Stream) (effect : Effect)
deriving DecidableEq, Repr

/-- What the call has done. -/
def Event.effect : Event → Effect
  | openFile _ _ effect => effect
  | writeFile _ _ _ _ effect => effect
  | closeFile _ _ effect => effect

/-- The object, the number of the next stream, the phases of `n` threads, the calls made so
far, and whether the process has ended. -/
structure Shared (n : ℕ) where
  self : NDFileArrow
  nextStream : Stream
  phase : Fin n → Phase
  log : List Event
  ended : Bool

/-- The call that a thread makes next, and what the Arrow calls in it report. -/
inductive Action (n : ℕ) where
  | openFile (thread : Fin n) (task : Task) (opened : Status)
  | writeFile (thread : Fin n) (fileFormat : ℤ) (reply : Replies)
  | closeFile (thread : Fin n) (closed : Status)
deriving DecidableEq, Repr

variable {n : ℕ}

/-- The state after a call of a thread: the thread goes on to `next` if the call has
succeeded, and is idle otherwise. -/
def Shared.after (c : Shared n) (thread : Fin n) (event : Event) (nextStream : Stream)
    (next : Phase) : Shared n where
  self := event.effect.self
  nextStream := nextStream
  phase := Function.update c.phase thread
    (if event.effect.outcome = .asynSuccess then next else .idle)
  log := c.log ++ [event]
  ended := event.effect.outcome.ends

/-- One call of one thread; there is no step for a call that the thread does not make in its
phase. -/
def step (L : Library) (c : Shared n) : Action n → Option (Shared n)
  | .openFile thread task opened =>
    if c.ended then none
    else
      match c.phase thread with
      | .idle =>
        let effect := ADPluginArrow.openFile L (openResult opened c.nextStream) c.self
          task.fileName task.openMode task.array
        some (c.after thread (.openFile task c.nextStream effect)
          (streamAfter effect c.nextStream) (.opened task c.nextStream))
      | _ => none
  | .writeFile thread fileFormat reply =>
    if c.ended then none
    else
      match c.phase thread with
      | .opened task stream =>
        let effect := ADPluginArrow.writeFile L fileFormat reply c.self task.array
        some (c.after thread (.writeFile task stream fileFormat reply effect) c.nextStream
          (.written task stream))
      | _ => none
  | .closeFile thread closed =>
    if c.ended then none
    else
      match c.phase thread with
      | .written task stream =>
        some (c.after thread (.closeFile task stream (ADPluginArrow.closeFile closed c.self))
          c.nextStream .idle)
      | _ => none

/-- The system of `n` threads. -/
def Step (L : Library) (n : ℕ) (c : Shared n) (action : Action n) (c' : Shared n) : Prop :=
  step L c action = some c'

/-- A new plugin object and `n` idle threads. -/
def start (n : ℕ) : Shared n := ⟨{}, 0, fun _ => .idle, [], false⟩

/-- The call of `openFile` for a task opens a file: its mode is accepted, there is a schema for
the array, and `FileOutputStream::Open` succeeds. -/
def Task.Opens (L : Library) (task : Task) (opened : Status) : Prop :=
  ¬ (task.openMode.read = true ∨ task.openMode.append = true) ∧
    (∃ t, task.array.dataType.ctype = some t) ∧ (L.getInfo task.array).colorMode.Supported ∧
      opened = .OK

/-- A call of `openFile` that opens a file is made only while every thread is idle. -/
def Apart (L : Library) (c : Shared n) : Action n → Prop
  | .openFile _ task opened => task.Opens L opened → ∀ thread, c.phase thread = .idle
  | _ => True

/-- Every call of `openFile` is made only while every thread is idle, also one that is refused: no
call comes between the calls of another thread. -/
def Alone (c : Shared n) : Action n → Prop
  | .openFile _ _ _ => ∀ thread, c.phase thread = .idle
  | _ => True

/-! ### What the threads should do -/

/-- A thread writes its array as a new plugin object would write it to the stream that the
thread has opened, and closes this stream. -/
def Event.Own (L : Library) : Event → Prop
  | .openFile _ _ _ => True
  | .writeFile task stream fileFormat reply effect =>
    effect = freshWrite L stream task.fileName task.openMode task.array fileFormat reply ∧
      ∀ s ∈ handedStreams effect.calls, s = stream
  | .closeFile _ stream effect => effect.calls = [.Close stream]

/-- All the Arrow calls of a run. -/
def Shared.calls (c : Shared n) : List ArrowCall := c.log.flatMap fun event => event.effect.calls

/-- Every call of every thread is about the file of its own array, and no stream receives two
tables. -/
def Unmixed (L : Library) (c : Shared n) : Prop :=
  (∀ event ∈ c.log, event.Own L) ∧ (handedStreams c.calls).Nodup

/-! ### The invariant -/

/-- The object is the one that opening a file for the task as the stream makes of a new
object. -/
def Holds (L : Library) (self : NDFileArrow) (task : Task) (stream : Stream) : Prop :=
  (openFile L (.ok stream) {} task.fileName task.openMode task.array).outcome = .asynSuccess ∧
    self = (openFile L (.ok stream) {} task.fileName task.openMode task.array).self

/-- At most one thread is not idle, and, unless the process has ended, the object holds the file
of its task; the streams that have received a table are numbered in the order of the tables,
below the next stream and below the one that is open for writing. -/
structure Shared.Inv (L : Library) (c : Shared n) : Prop where
  own : ∀ event ∈ c.log, event.Own L
  alone : ∀ thread thread', c.phase thread ≠ .idle → c.phase thread' ≠ .idle → thread = thread'
  opened : c.ended = false → ∀ thread task stream, c.phase thread = .opened task stream →
    Holds L c.self task stream ∧ stream < c.nextStream ∧ ∀ s ∈ handedStreams c.calls, s < stream
  written : c.ended = false → ∀ thread task stream, c.phase thread = .written task stream →
    Holds L c.self task stream
  sorted : (handedStreams c.calls).Pairwise (· < ·)
  below : ∀ s ∈ handedStreams c.calls, s < c.nextStream

lemma inv_start (L : Library) (n : ℕ) : (start n).Inv L where
  own := by simp [start]
  alone thread thread' h := absurd rfl h
  opened _ thread task stream h := absurd h (by simp [start])
  written _ thread task stream h := absurd h (by simp [start])
  sorted := by simp [start, Shared.calls, handedStreams, handedOver]
  below := by simp [start, Shared.calls, handedStreams, handedOver]

/-! ### What a step does -/

/-- The three kinds of steps. -/
lemma step_cases {L : Library} {c c' : Shared n} {action : Action n} (h : Step L n c action c') :
    (∃ thread task opened, action = .openFile thread task opened ∧ c.phase thread = .idle ∧
      ∃ effect, effect = openFile L (openResult opened c.nextStream) c.self task.fileName
          task.openMode task.array ∧
        c' = c.after thread (.openFile task c.nextStream effect) (streamAfter effect c.nextStream)
          (.opened task c.nextStream)) ∨
    (∃ thread fileFormat reply task stream, action = .writeFile thread fileFormat reply ∧
      c.phase thread = .opened task stream ∧
      ∃ effect, effect = writeFile L fileFormat reply c.self task.array ∧
        c' = c.after thread (.writeFile task stream fileFormat reply effect) c.nextStream
          (.written task stream)) ∨
    ∃ thread closed task stream, action = .closeFile thread closed ∧
      c.phase thread = .written task stream ∧
      ∃ effect, effect = closeFile closed c.self ∧
        c' = c.after thread (.closeFile task stream effect) c.nextStream .idle := by
  rw [Step] at h
  cases action with
  | openFile thread task opened =>
    left
    simp only [step] at h
    split at h
    · exact absurd h (by simp)
    · split at h
      · rename_i hphase
        exact ⟨thread, task, opened, rfl, hphase, _, rfl, (Option.some.inj h).symm⟩
      · exact absurd h (by simp)
  | writeFile thread fileFormat reply =>
    right; left
    simp only [step] at h
    split at h
    · exact absurd h (by simp)
    · split at h
      · rename_i task stream hphase
        exact ⟨thread, fileFormat, reply, task, stream, rfl, hphase, _, rfl,
          (Option.some.inj h).symm⟩
      · exact absurd h (by simp)
  | closeFile thread closed =>
    right; right
    simp only [step] at h
    split at h
    · exact absurd h (by simp)
    · split at h
      · rename_i task stream hphase
        exact ⟨thread, closed, task, stream, rfl, hphase, _, rfl, (Option.some.inj h).symm⟩
      · exact absurd h (by simp)

lemma not_ended_of_step {L : Library} {c c' : Shared n} {action : Action n}
    (h : Step L n c action c') : c.ended = false := by
  by_contra hended
  rw [Bool.not_eq_false] at hended
  cases action <;> simp [Step, step, hended] at h

lemma step_openFile {L : Library} {c : Shared n} {thread : Fin n} (task : Task) (opened : Status)
    (hended : c.ended = false) (hphase : c.phase thread = .idle) {effect : Effect}
    (heffect : effect = openFile L (openResult opened c.nextStream) c.self task.fileName
      task.openMode task.array) :
    Step L n c (.openFile thread task opened) (c.after thread (.openFile task c.nextStream effect)
      (streamAfter effect c.nextStream) (.opened task c.nextStream)) := by
  simp [Step, step, hended, hphase, heffect]

lemma step_writeFile {L : Library} {c : Shared n} {thread : Fin n} (task : Task) (stream : Stream)
    (fileFormat : ℤ) (reply : Replies) (hended : c.ended = false)
    (hphase : c.phase thread = .opened task stream) :
    Step L n c (.writeFile thread fileFormat reply)
      (c.after thread (.writeFile task stream fileFormat reply
        (writeFile L fileFormat reply c.self task.array)) c.nextStream (.written task stream)) := by
  simp [Step, step, hended, hphase]

lemma step_closeFile {L : Library} {c : Shared n} {thread : Fin n} (task : Task) (stream : Stream)
    (closed : Status) (hended : c.ended = false) (hphase : c.phase thread = .written task stream) :
    Step L n c (.closeFile thread closed)
      (c.after thread (.closeFile task stream (closeFile closed c.self)) c.nextStream .idle) := by
  simp [Step, step, hended, hphase]

section Preservation

variable {L : Library} {c : Shared n} {thread : Fin n}

lemma handedStreams_after (event : Event) (nextStream : Stream) (next : Phase) :
    handedStreams (c.after thread event nextStream next).calls
      = handedStreams c.calls ++ handedStreams event.effect.calls := by
  rw [Shared.calls, Shared.after, List.flatMap_append, List.flatMap_singleton,
    handedStreams_append]
  rfl

lemma own_after (h : c.Inv L) {event : Event} (hevent : event.Own L) (nextStream : Stream)
    (next : Phase) : ∀ event' ∈ (c.after thread event nextStream next).log, event'.Own L := by
  intro event' hmem
  rcases List.mem_append.mp hmem with hmem | hmem
  · exact h.own event' hmem
  · exact List.mem_singleton.mp hmem ▸ hevent

/-- If the other threads are idle, they are idle after a step, too. -/
lemma phase_after (event : Event) (nextStream : Stream) (next : Phase)
    (hothers : ∀ thread', thread' ≠ thread → c.phase thread' = .idle) (thread' : Fin n) :
    (c.after thread event nextStream next).phase thread' = .idle ∨
      thread' = thread ∧ event.effect.outcome = .asynSuccess ∧
        (c.after thread event nextStream next).phase thread' = next := by
  by_cases heq : thread' = thread
  · subst heq
    by_cases hsuccess : event.effect.outcome = .asynSuccess
    · exact Or.inr ⟨rfl, hsuccess, by simp [Shared.after, hsuccess]⟩
    · exact Or.inl (by simp [Shared.after, hsuccess])
  · exact Or.inl (by simp [Shared.after, heq, hothers thread' heq])

/-- After such a step at most one thread is not idle. -/
lemma alone_after (event : Event) (nextStream : Stream) (next : Phase)
    (hothers : ∀ thread', thread' ≠ thread → c.phase thread' = .idle) (thread₁ thread₂ : Fin n)
    (h₁ : (c.after thread event nextStream next).phase thread₁ ≠ .idle)
    (h₂ : (c.after thread event nextStream next).phase thread₂ ≠ .idle) : thread₁ = thread₂ := by
  rcases phase_after event nextStream next hothers thread₁ with hidle | ⟨heq₁, -, -⟩
  · exact absurd hidle h₁
  · rcases phase_after event nextStream next hothers thread₂ with hidle | ⟨heq₂, -, -⟩
    · exact absurd hidle h₂
    · rw [heq₁, heq₂]

lemma others_idle (h : c.Inv L) (hphase : c.phase thread ≠ .idle) (thread' : Fin n)
    (hne : thread' ≠ thread) : c.phase thread' = .idle := by
  by_contra hbusy
  exact hne (h.alone thread' thread hbusy hphase)

lemma Holds.outfile {self : NDFileArrow} {task : Task} {stream : Stream}
    (h : Holds L self task stream) : self.outfile = some stream := by
  obtain ⟨t, s, -, -, hs, heq⟩ := openFile_inv h.1
  rw [h.2, heq, Except.ok.inj hs]

/-- Opening a file while every thread is idle keeps the invariant. -/
lemma inv_openFile (h : c.Inv L) (hidle : ∀ thread, c.phase thread = .idle) (task : Task)
    (opened : Status) {effect : Effect}
    (heffect : effect = openFile L (openResult opened c.nextStream) c.self task.fileName
      task.openMode task.array) :
    (c.after thread (.openFile task c.nextStream effect) (streamAfter effect c.nextStream)
      (.opened task c.nextStream)).Inv L := by
  have hothers : ∀ thread', thread' ≠ thread → c.phase thread' = .idle :=
    fun thread' _ => hidle thread'
  have hcalls : handedStreams effect.calls = [] := heffect ▸ handedStreams_openFile ..
  have hstreams : handedStreams (c.after thread (.openFile task c.nextStream effect)
      (streamAfter effect c.nextStream) (.opened task c.nextStream)).calls
      = handedStreams c.calls := by
    rw [handedStreams_after, Event.effect, hcalls, List.append_nil]
  have hown : (Event.openFile task c.nextStream effect).Own L := trivial
  refine ⟨own_after h hown _ _, alone_after _ _ _ hothers, ?_, ?_, ?_, ?_⟩
  · -- the thread that has opened its file: the object now holds this file
    intro _ thread' task' stream hphase
    rcases phase_after (.openFile task c.nextStream effect) (streamAfter effect c.nextStream)
      (.opened task c.nextStream) hothers thread' with hidle | ⟨-, hsuccess, hopened⟩
    · exact absurd (hidle.symm.trans hphase) (by simp)
    · obtain ⟨rfl, rfl⟩ := Phase.opened.inj (hopened.symm.trans hphase)
      have hsuccess : effect.outcome = .asynSuccess := hsuccess
      rw [hstreams]
      subst heffect
      have hfresh := (openFile_openResult hsuccess).1
      refine ⟨⟨hfresh ▸ hsuccess, congrArg Effect.self hfresh⟩, ?_, h.below⟩
      show c.nextStream < streamAfter _ c.nextStream
      rw [streamAfter, if_pos hsuccess]
      exact Nat.lt_succ_self _
  · intro _ thread' task' stream hphase
    rcases phase_after (.openFile task c.nextStream effect) (streamAfter effect c.nextStream)
      (.opened task c.nextStream) hothers thread' with hidle | ⟨-, -, hopened⟩
    · exact absurd (hidle.symm.trans hphase) (by simp)
    · exact absurd (hopened.symm.trans hphase) (by simp)
  · rw [hstreams]
    exact h.sorted
  · -- the stream may have been used up
    rw [hstreams]
    intro s hs
    refine (h.below s hs).trans_le ?_
    show c.nextStream ≤ streamAfter effect c.nextStream
    rw [streamAfter]
    split
    · exact Nat.le_succ _
    · exact le_rfl

lemma Task.opens_iff {task : Task} {opened : Status} :
    task.Opens L opened ↔ openOutcome L task.openMode task.array opened = .asynSuccess := by
  rw [Task.Opens, openOutcome, ← Option.ne_none_iff_exists']
  split_ifs with hopenMode htype hmode hopened <;> simp [*]

/-- A call of `openFile` that opens no file leaves the object alone, or ends the process. -/
lemma openFile_unopened {task : Task} {opened : Status} (hnot : ¬ task.Opens L opened)
    (self : NDFileArrow) (next : Stream) {effect : Effect}
    (heffect : effect = openFile L (openResult opened next) self task.fileName task.openMode
      task.array) :
    effect.outcome ≠ .asynSuccess ∧ (effect.outcome.ends = true ∨ effect.self = self) := by
  rcases openFile_cases L self task.fileName task.openMode task.array opened next with
    ⟨t, -, -, houtcome, -⟩ | ⟨t, -, -, -, heq⟩ | ⟨hfailed, heq⟩
  · exact absurd (Task.opens_iff.mpr houtcome) hnot
  · rw [heffect, heq]
    exact ⟨by simp, Or.inl rfl⟩
  · rw [heffect, heq]
    refine ⟨?_, Or.inr rfl⟩
    rcases hfailed with ⟨log, hlog⟩ | ⟨what, hwhat⟩
    · simp [hlog]
    · simp [hwhat]

/-- A call of `openFile` that opens no file keeps the invariant, whatever the other threads are
at. -/
lemma inv_openFile_unopened (h : c.Inv L) (hgoing : c.ended = false)
    (hphase : c.phase thread = .idle) {task : Task} {opened : Status}
    (hnot : ¬ task.Opens L opened) {effect : Effect}
    (heffect : effect = openFile L (openResult opened c.nextStream) c.self task.fileName
      task.openMode task.array) :
    (c.after thread (.openFile task c.nextStream effect) (streamAfter effect c.nextStream)
      (.opened task c.nextStream)).Inv L := by
  obtain ⟨hfailed, hself⟩ := openFile_unopened hnot c.self c.nextStream heffect
  have hcalls : handedStreams effect.calls = [] := heffect ▸ handedStreams_openFile ..
  have hstreams : handedStreams (c.after thread (.openFile task c.nextStream effect)
      (streamAfter effect c.nextStream) (.opened task c.nextStream)).calls
      = handedStreams c.calls := by
    rw [handedStreams_after, Event.effect, hcalls, List.append_nil]
  have hnext : streamAfter effect c.nextStream = c.nextStream := if_neg hfailed
  -- the thread is idle again
  have hphases : (c.after thread (.openFile task c.nextStream effect)
      (streamAfter effect c.nextStream) (.opened task c.nextStream)).phase = c.phase := by
    show Function.update c.phase thread (if effect.outcome = .asynSuccess then _ else .idle) = _
    rw [if_neg hfailed, ← hphase, Function.update_eq_self]
  have hown : (Event.openFile task c.nextStream effect).Own L := trivial
  have hsame : (c.after thread (.openFile task c.nextStream effect)
      (streamAfter effect c.nextStream) (.opened task c.nextStream)).ended = false →
      effect.self = c.self :=
    fun hended => hself.resolve_left fun hends => absurd (hends.symm.trans hended) (by simp)
  refine ⟨own_after h hown _ _, ?_, ?_, ?_, ?_, ?_⟩
  · rw [hphases]
    exact h.alone
  · intro hended thread' task' stream hphase'
    rw [hphases] at hphase'
    obtain ⟨hholds, hlt, hbefore⟩ := h.opened hgoing thread' task' stream hphase'
    rw [hstreams]
    refine ⟨?_, ?_, hbefore⟩
    · show Holds L effect.self task' stream
      rwa [hsame hended]
    · show stream < streamAfter effect c.nextStream
      rwa [hnext]
  · intro hended thread' task' stream hphase'
    rw [hphases] at hphase'
    show Holds L effect.self task' stream
    rw [hsame hended]
    exact h.written hgoing thread' task' stream hphase'
  · rw [hstreams]
    exact h.sorted
  · rw [hstreams]
    show ∀ s ∈ handedStreams c.calls, s < streamAfter effect c.nextStream
    rw [hnext]
    exact h.below

/-- Writing the array of a thread that has opened its file keeps the invariant. -/
lemma inv_writeFile (h : c.Inv L) (hgoing : c.ended = false) {task : Task} {stream : Stream}
    (hphase : c.phase thread = .opened task stream) (fileFormat : ℤ) (reply : Replies)
    {effect : Effect} (heffect : effect = writeFile L fileFormat reply c.self task.array) :
    (c.after thread (.writeFile task stream fileFormat reply effect) c.nextStream
      (.written task stream)).Inv L := by
  obtain ⟨hholds, hnext, hbefore⟩ := h.opened hgoing thread task stream hphase
  have hothers : ∀ thread', thread' ≠ thread → c.phase thread' = .idle :=
    others_idle h (by rw [hphase]; simp)
  have hself : effect.self = c.self := heffect ▸ writeFile_self ..
  have hcalls : handedStreams effect.calls = [] ∨ handedStreams effect.calls = [stream] :=
    heffect ▸ handedStreams_writeFile hholds.outfile
  have hown : (Event.writeFile task stream fileFormat reply effect).Own L := by
    refine ⟨?_, ?_⟩
    · rw [heffect, hholds.2]
      rfl
    · intro s hs
      rcases hcalls with hnone | hone
      · exact absurd (hnone ▸ hs) (by simp)
      · exact List.mem_singleton.mp (hone ▸ hs)
  have hstreams : handedStreams (c.after thread (.writeFile task stream fileFormat reply effect)
      c.nextStream (.written task stream)).calls
      = handedStreams c.calls ++ handedStreams effect.calls := handedStreams_after ..
  have hnow : ∀ s ∈ handedStreams effect.calls, s = stream := hown.2
  refine ⟨own_after h hown _ _, alone_after _ _ _ hothers, ?_, ?_, ?_, ?_⟩
  · intro _ thread' task' stream' hphase'
    rcases phase_after (.writeFile task stream fileFormat reply effect) c.nextStream
      (.written task stream) hothers thread' with hidle | ⟨-, -, hwritten⟩
    · exact absurd (hidle.symm.trans hphase') (by simp)
    · exact absurd (hwritten.symm.trans hphase') (by simp)
  · intro _ thread' task' stream' hphase'
    rcases phase_after (.writeFile task stream fileFormat reply effect) c.nextStream
      (.written task stream) hothers thread' with hidle | ⟨-, -, hwritten⟩
    · exact absurd (hidle.symm.trans hphase') (by simp)
    · -- writing leaves the object as it is
      obtain ⟨rfl, rfl⟩ := Phase.written.inj (hwritten.symm.trans hphase')
      show Holds L effect.self task stream
      rwa [hself]
  · -- the stream of the file is above all those that have received a table
    rw [hstreams, List.pairwise_append]
    refine ⟨h.sorted, ?_, ?_⟩
    · rcases hcalls with hnone | hone
      · exact hnone.symm ▸ List.Pairwise.nil
      · exact hone.symm ▸ List.pairwise_singleton _ _
    · intro s hs s' hs'
      exact (hnow s' hs').symm ▸ hbefore s hs
  · rw [hstreams]
    intro s hs
    rcases List.mem_append.mp hs with hs | hs
    · exact h.below s hs
    · exact (hnow s hs).symm ▸ hnext

/-- Closing the file of a thread that has written its array keeps the invariant. -/
lemma inv_closeFile (h : c.Inv L) (hgoing : c.ended = false) {task : Task} {stream : Stream}
    (hphase : c.phase thread = .written task stream) (closed : Status) {effect : Effect}
    (heffect : effect = closeFile closed c.self) :
    (c.after thread (.closeFile task stream effect) c.nextStream .idle).Inv L := by
  have hholds := h.written hgoing thread task stream hphase
  have hothers : ∀ thread', thread' ≠ thread → c.phase thread' = .idle :=
    others_idle h (by rw [hphase]; simp)
  have hcalls : effect.calls = [.Close stream] := by
    rw [heffect, closeFile, hholds.outfile]
    cases closed <;> rfl
  have hstreams : handedStreams (c.after thread (.closeFile task stream effect) c.nextStream
      .idle).calls = handedStreams c.calls := by
    rw [handedStreams_after, Event.effect, hcalls]
    exact List.append_nil _
  -- whether closing succeeds or not, nobody is between two calls afterwards
  have hidle : ∀ thread', (c.after thread (.closeFile task stream effect) c.nextStream
      .idle).phase thread' = .idle := by
    intro thread'
    rcases phase_after (.closeFile task stream effect) c.nextStream .idle hothers thread' with
      hidle | ⟨-, -, hidle⟩
    · exact hidle
    · exact hidle
  have hown : (Event.closeFile task stream effect).Own L := hcalls
  refine ⟨own_after h hown _ _, alone_after _ _ _ hothers, ?_, ?_, ?_, ?_⟩
  · intro _ thread' task' stream' hphase'
    exact absurd ((hidle thread').symm.trans hphase') (by simp)
  · intro _ thread' task' stream' hphase'
    exact absurd ((hidle thread').symm.trans hphase') (by simp)
  · rw [hstreams]
    exact h.sorted
  · rw [hstreams]
    exact h.below

end Preservation

lemma inv_step {L : Library} (c : Shared n) (action : Action n) (c' : Shared n) (h : c.Inv L)
    (hstep : Guarded (Apart L) (Step L n) c action c') : c'.Inv L := by
  obtain ⟨hapart, hstep⟩ := hstep
  have hgoing := not_ended_of_step hstep
  rcases step_cases hstep with ⟨thread, task, opened, rfl, hphase, effect, heffect, rfl⟩ |
    ⟨thread, fileFormat, reply, task, stream, rfl, hphase, effect, heffect, rfl⟩ |
    ⟨thread, closed, task, stream, rfl, hphase, effect, heffect, rfl⟩
  · by_cases hopens : task.Opens L opened
    · exact inv_openFile h (hapart hopens) task opened heffect
    · exact inv_openFile_unopened h hgoing hphase hopens heffect
  · exact inv_writeFile h hgoing hphase fileFormat reply heffect
  · exact inv_closeFile h hgoing hphase closed heffect

/-! ### Runs -/

/-- **The files of different threads are not mixed up while they do not overlap.**  In every
run of any number of threads in which a file is only opened while every thread is idle, each
call is about the file of its own array. -/
theorem run_unmixed {L : Library} {actions : List (Action n)} {c : Shared n}
    (hrun : Run (Guarded (Apart L) (Step L n)) (start n) actions c) : Unmixed L c := by
  have hinv : c.Inv L := hrun.invariant inv_step (inv_start L n)
  exact ⟨hinv.own, hinv.sorted.imp fun hlt => ne_of_lt hlt⟩

/-- A single thread does not overlap with another one. -/
theorem run_unmixed_single {L : Library} {actions : List (Action 1)} {c : Shared 1}
    (hrun : Run (Step L 1) (start 1) actions c) : Unmixed L c := by
  have hguard : ∀ (c : Shared 1) (action : Action 1) (c' : Shared 1), Step L 1 c action c' →
      Guarded (Apart L) (Step L 1) c action c' := by
    intro c action c' hstep
    refine ⟨?_, hstep⟩
    rcases step_cases hstep with ⟨thread, task, opened, rfl, hidle, -⟩ |
      ⟨thread, fileFormat, reply, task, stream, rfl, -⟩ | ⟨thread, closed, task, stream, rfl, -⟩
    · intro _ thread'
      rw [Subsingleton.elim thread' thread, hidle]
    · trivial
    · trivial
  have hinv : c.Inv L := (hrun.mono hguard).invariant inv_step (inv_start L 1)
  exact ⟨hinv.own, hinv.sorted.imp fun hlt => ne_of_lt hlt⟩

/-! ### Saving arrays -/

section Saving

variable {L : Library} {c : Shared n} {thread : Fin n} {task : Task}

/-- Where the object holds the file of a task, the array is written to this file, if its data type
has a table and Arrow reports no error. -/
lemma writeFile_of_holds {self : NDFileArrow} {stream : Stream} (hholds : Holds L self task stream)
    (hsized : Sized L task.array)
    (htype : task.array.dataType ∈ ([.NDUInt8, .NDInt16, .NDUInt16, .NDInt32, .NDFloat32,
      .NDFloat64] : List NDDataType)) (fileFormat : NDArrowFileFormat) :
    (writeFile L fileFormat.value .ok self task.array).outcome = .asynSuccess ∧
      handedStreams (writeFile L fileFormat.value .ok self task.array).calls = [stream] := by
  obtain ⟨t, -, ht, -, -, -⟩ := openFile_inv hholds.1
  obtain ⟨s, -, hself, -, -, hsuccess⟩ :=
    writtenAs_of_tabulated hholds.1 hsized ht ((tabulated_iff ht).mpr htype) fileFormat
  rw [← hholds.2] at hself hsuccess
  obtain rfl : s = stream := Option.some.inj (hself.symm.trans hholds.outfile)
  obtain ⟨built, -, hhanded⟩ := writeFile_success hself hsuccess
  exact ⟨hsuccess, congrArg (List.map Prod.fst) hhanded⟩

/-- The object holds the file that has been opened. -/
lemma exists_step_openFile (thread : Fin n) (hgoing : c.ended = false)
    (hphase : c.phase thread = .idle) (hopens : task.Opens L .OK) :
    ∃ c', Step L n c (.openFile thread task .OK) c' ∧
      Holds L c'.self task c.nextStream ∧
      c'.phase = Function.update c.phase thread (.opened task c.nextStream) ∧ c'.ended = false ∧
      c'.nextStream = c.nextStream + 1 ∧ handedStreams c'.calls = handedStreams c.calls ∧
      c.log <+: c'.log := by
  obtain ⟨hopenMode, ⟨t, ht⟩, hmode, -⟩ := hopens
  generalize heffect : openFile L (openResult .OK c.nextStream) c.self task.fileName
    task.openMode task.array = effect
  have hsuccess : effect.outcome = .asynSuccess := by
    rw [← heffect, openResult, openFile_accepted hopenMode ht hmode]
  have hfresh : effect = openFile L (.ok c.nextStream) {} task.fileName task.openMode task.array :=
    heffect ▸ (openFile_openResult (heffect ▸ hsuccess)).1
  refine ⟨_, step_openFile task .OK hgoing hphase heffect.symm, ⟨hfresh ▸ hsuccess, ?_⟩, ?_, ?_, ?_,
    ?_, List.prefix_append ..⟩
  · exact congrArg Effect.self hfresh
  · exact congrArg (Function.update c.phase thread) (if_pos hsuccess)
  · exact congrArg Outcome.ends hsuccess
  · exact if_pos hsuccess
  · rw [handedStreams_after, Event.effect, ← heffect, handedStreams_openFile, List.append_nil]

/-- A call of `openFile` in a mode that is refused changes nothing but the log. -/
lemma exists_step_refused (thread : Fin n) (task : Task) (hgoing : c.ended = false)
    (hphase : c.phase thread = .idle)
    (hrefused : task.openMode.read = true ∨ task.openMode.append = true) (opened : Status) :
    ∃ c', Guarded (Apart L) (Step L n) c (.openFile thread task opened) c' ∧ c'.self = c.self ∧
      c'.phase = c.phase ∧ c'.ended = false ∧ c'.nextStream = c.nextStream ∧
      handedStreams c'.calls = handedStreams c.calls := by
  have heffect : (⟨.asynError none, c.self, []⟩ : Effect) = openFile L
      (openResult opened c.nextStream) c.self task.fileName task.openMode task.array :=
    (openFile_refused hrefused).symm
  refine ⟨_, ⟨fun hopens => absurd hrefused hopens.1,
    step_openFile task opened hgoing hphase heffect⟩, rfl, ?_, rfl, rfl, ?_⟩
  · exact (congrArg (Function.update c.phase thread) hphase.symm).trans (Function.update_eq_self ..)
  · rw [handedStreams_after]
    exact List.append_nil _

/-- A thread that has opened the file of an array writes the array and closes the file. -/
lemma exists_run_finish {stream : Stream} (hgoing : c.ended = false)
    (hphase : c.phase thread = .opened task stream) (hholds : Holds L c.self task stream)
    (hsized : Sized L task.array)
    (htype : task.array.dataType ∈ ([.NDUInt8, .NDInt16, .NDUInt16, .NDInt32, .NDFloat32,
      .NDFloat64] : List NDDataType)) (fileFormat : NDArrowFileFormat) :
    ∃ c' effect, Run (Guarded Alone (Step L n)) c
        [.writeFile thread fileFormat.value .ok, .closeFile thread .OK] c' ∧
      c'.phase = Function.update c.phase thread .idle ∧ c'.ended = false ∧
      c'.nextStream = c.nextStream ∧
      handedStreams c'.calls = handedStreams c.calls ++ [stream] ∧ c.log <+: c'.log ∧
      effect.outcome = .asynSuccess ∧
      .writeFile task stream fileFormat.value .ok effect ∈ c'.log := by
  obtain ⟨hsuccess, hhanded⟩ := writeFile_of_holds hholds hsized htype fileFormat
  have hwrite := step_writeFile (L := L) task stream fileFormat.value .ok hgoing hphase
  have hself : (writeFile L fileFormat.value .ok c.self task.array).self = c.self :=
    writeFile_self ..
  generalize writeFile L fileFormat.value .ok c.self task.array = effect at *
  have hphase₁ : (c.after thread (.writeFile task stream fileFormat.value .ok effect) c.nextStream
      (.written task stream)).phase = Function.update c.phase thread (.written task stream) :=
    congrArg (Function.update c.phase thread) (if_pos hsuccess)
  have hwritten : (c.after thread (.writeFile task stream fileFormat.value .ok effect) c.nextStream
      (.written task stream)).phase thread = .written task stream := by
    rw [hphase₁, Function.update_self]
  have hclose := step_closeFile (L := L) task stream .OK (congrArg Outcome.ends hsuccess) hwritten
  have hclosing : closeFile .OK c.self
      = ⟨.asynSuccess, { c.self with outfile := none }, [.Close stream]⟩ := by
    rw [closeFile, hholds.outfile]
  refine ⟨_, effect, Run.cons ⟨trivial, hwrite⟩ (Run.cons ⟨trivial, hclose⟩ (Run.nil _)), ?_, ?_,
    rfl, ?_, ?_, hsuccess, ?_⟩
  · show Function.update (c.after thread _ _ _).phase thread (ite _ _ _) = _
    rw [hphase₁, ite_self, Function.update_idem]
  · show (closeFile .OK effect.self).outcome.ends = false
    rw [hself, hclosing]
    rfl
  · rw [handedStreams_after, handedStreams_after, Event.effect, Event.effect,
      handedStreams_closeFile, hhanded, List.append_nil]
  · exact (List.prefix_append ..).trans (List.prefix_append ..)
  · exact List.mem_append_left _ (List.mem_append_right _ (List.mem_singleton.mpr rfl))

/-- The calls of a thread that saves an array in a Parquet file. -/
def save (thread : Fin n) (task : Task) : List (Action n) :=
  [.openFile thread task .OK, .writeFile thread NDArrowFileFormat.PARQUET.value .ok,
    .closeFile thread .OK]

/-- While every thread is idle, a thread saves an array. -/
lemma exists_run_save (hgoing : c.ended = false) (hidle : ∀ thread, c.phase thread = .idle)
    (thread : Fin n) (hopens : task.Opens L .OK) (hsized : Sized L task.array)
    (htype : task.array.dataType ∈ ([.NDUInt8, .NDInt16, .NDUInt16, .NDInt32, .NDFloat32,
      .NDFloat64] : List NDDataType)) :
    ∃ c' effect, Run (Guarded Alone (Step L n)) c (save thread task) c' ∧
      (∀ thread, c'.phase thread = .idle) ∧ c'.ended = false ∧ c'.nextStream = c.nextStream + 1 ∧
      handedStreams c'.calls = handedStreams c.calls ++ [c.nextStream] ∧ c.log <+: c'.log ∧
      effect.outcome = .asynSuccess ∧
      .writeFile task c.nextStream NDArrowFileFormat.PARQUET.value .ok effect ∈ c'.log := by
  obtain ⟨c₁, hopen, hholds, hphase₁, hgoing₁, hnext₁, hstreams₁, hlog₁⟩ :=
    exists_step_openFile thread hgoing (hidle thread) hopens
  obtain ⟨c₂, effect, hrun, hphase₂, hgoing₂, hnext₂, hstreams₂, hlog₂, hsuccess, hmem⟩ :=
    exists_run_finish hgoing₁ (by rw [hphase₁, Function.update_self]) hholds hsized htype .PARQUET
  refine ⟨c₂, effect, Run.cons ⟨hidle, hopen⟩ hrun, ?_, hgoing₂, hnext₂.trans hnext₁,
    hstreams₁ ▸ hstreams₂, hlog₁.trans hlog₂, hsuccess, hmem⟩
  intro thread'
  rw [hphase₂, hphase₁, Function.update_idem]
  by_cases heq : thread' = thread
  · rw [heq, Function.update_self]
  · rw [Function.update_of_ne heq, hidle]

end Saving

/-! ### Two threads -/

/-- Saving a single pixel of a given value. -/
def pixelTask (fileName : String) (value : BitVec 8) : Task :=
  ⟨fileName, .NDFileModeWrite, pixelOfType .NDUInt8 [value]⟩

lemma opens_pixelTask (fileName : String) (value : BitVec 8) :
    (pixelTask fileName value).Opens Library.reference .OK :=
  ⟨by simp [pixelTask, NDFileOpenMode.NDFileModeWrite], ⟨.uint8_t, rfl⟩, Or.inl rfl, rfl⟩

/-- Saving the image. -/
def imageTask (fileName : String) : Task := ⟨fileName, .NDFileModeWrite, colorImage⟩

lemma opens_imageTask (fileName : String) : (imageTask fileName).Opens Library.reference .OK :=
  ⟨by simp [imageTask, NDFileOpenMode.NDFileModeWrite], ⟨.uint16_t, rfl⟩, Or.inr rfl, rfl⟩

/-- The stronger guard allows fewer steps. -/
lemma guarded_apart {L : Library} (c : Shared n) (action : Action n) (c' : Shared n)
    (hstep : Guarded Alone (Step L n) c action c') : Guarded (Apart L) (Step L n) c action c' := by
  refine ⟨?_, hstep.2⟩
  cases action with
  | openFile thread task opened => exact fun _ => hstep.1
  | writeFile thread fileFormat reply => trivial
  | closeFile thread closed => trivial

/-- One thread saves a pixel, and another one saves the image afterwards.  In between, the other
thread asks for its file to be appended to, which is refused. -/
def interrupted (thread thread' : Fin n) : List (Action n) :=
  .openFile thread (pixelTask "a" 7) .OK ::
    .openFile thread' { imageTask "b" with openMode := ⟨false, true, true, false⟩ } .OK ::
    ([.writeFile thread NDArrowFileFormat.CSV.value .ok, .closeFile thread .OK] ++
      save thread' (imageTask "b"))

theorem run_unmixed_interrupted : ∃ c : Shared 2,
    Run (Guarded (Apart Library.reference) (Step Library.reference 2)) (start 2)
        (interrupted 0 1) c ∧
      handedStreams c.calls = [0, 1] ∧ Unmixed Library.reference c := by
  obtain ⟨c₁, hopen, hholds₁, hphase₁, hgoing₁, hnext₁, hstreams₁, -⟩ :=
    exists_step_openFile (c := start 2) 0 rfl rfl (opens_pixelTask "a" 7)
  obtain ⟨c₂, hrefused, hself₂, hphase₂, hgoing₂, hnext₂, hstreams₂⟩ :=
    exists_step_refused (L := Library.reference) 1
      { imageTask "b" with openMode := ⟨false, true, true, false⟩ } hgoing₁
      (by rw [hphase₁]; rfl) (Or.inr rfl) .OK
  obtain ⟨c₃, -, hfinish, hphase₃, hgoing₃, hnext₃, hstreams₃, -, -, -⟩ :=
    exists_run_finish hgoing₂ (by rw [hphase₂, hphase₁, Function.update_self]) (hself₂ ▸ hholds₁)
      (sized_uint8 7) (by decide) .CSV
  have hidle : ∀ thread, c₃.phase thread = .idle := by
    rw [hphase₃, hphase₂, hphase₁, Function.update_idem]
    decide
  obtain ⟨c, -, hsave, -, -, -, hstreams, -, -, -⟩ :=
    exists_run_save hgoing₃ hidle 1 (opens_imageTask "b") sized_colorImage (by decide)
  have hrun : Run (Guarded (Apart Library.reference) (Step Library.reference 2)) (start 2)
      (interrupted 0 1) c :=
    Run.cons ⟨fun _ _ => rfl, hopen⟩ (Run.cons hrefused
      ((hfinish.mono guarded_apart).append (hsave.mono guarded_apart)))
  refine ⟨c, hrun, ?_, run_unmixed hrun⟩
  rw [hstreams, hstreams₃, hstreams₂, hstreams₁, hnext₃, hnext₂, hnext₁]
  rfl

/-- Two threads open a file each before the first one writes: its array goes to the stream
that the second one has opened. -/
theorem run_mixed :
    ∃ c : Shared 2, Run (Step Library.reference 2) (start 2)
        [.openFile 0 (pixelTask "a" 7) .OK, .openFile 1 (pixelTask "b" 9) .OK,
          .writeFile 0 NDArrowFileFormat.PARQUET.value .ok] c ∧
      ¬ Unmixed Library.reference c := by
  refine ⟨_, Run.cons rfl (Run.cons rfl (Run.cons rfl (Run.nil _))), ?_⟩
  rintro ⟨hown, -⟩
  have hwrite := hown _ (List.mem_append_right _ (List.mem_singleton.mpr rfl))
  have hholds : Holds Library.reference _ (pixelTask "b" 7) 1 := ⟨openFile_uint8 7 1 {} "b", rfl⟩
  have hstream : (1 : Stream) ∈ handedStreams (writeFile Library.reference
      NDArrowFileFormat.PARQUET.value .ok (openFile Library.reference (.ok 1) {} "b"
        .NDFileModeWrite (pixelOfType .NDUInt8 [7])).self (pixelOfType .NDUInt8 [7])).calls :=
    (writeFile_of_holds hholds (sized_uint8 7) (by decide) .PARQUET).2 ▸ List.mem_singleton.mpr rfl
  exact absurd (hwrite.2 1 hstream) (by decide)

end ADPluginArrow
