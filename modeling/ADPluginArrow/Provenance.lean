/-
# Where a table comes from

In a session the calls come in any order, and arrays are written in files that were opened for
other arrays.  The results of this file say what a file can contain all the same.

* `session_provenance` names the two calls that a table comes from: the `writeFile` of the array
  whose cells it holds, and the `openFile` of the array whose schema it has, which is also the call
  that has opened its file.
* `run_schemas` says that the tables of a file have one schema, however the calls of several threads
  are interleaved.
-/
import ADPluginArrow.Interleaving

namespace ADPluginArrow

open Runs

/-- The table of an array `A` in a file that was opened for an array `B` with elements of
type `t`. -/
structure TableOf (L : Library) (B : NDArray) (t : CType) (A : NDArray) (T : Table) : Prop where
  schema_eq : T.schema = schemaFor (L.getInfo B) t
  columns_eq : T.columns.map Column.view = imageColumns (coordTypeOf (L.getInfo B)) t A
    (seenCells L (coordTypeOf (L.getInfo B)) t A)

/-- The call that a record is about has opened a file as the given stream, for an array with
elements of the given type. -/
structure Record.Opened (r : Record) (s : Stream) (B : NDArray) (t : CType) : Prop where
  call_eq : ∃ fileName openMode opened, r.call = .openFile fileName openMode B opened
  op_eq : r.op = .acquire s
  type_eq : B.dataType.ctype = some t

/-! ### The tables of a call -/

section Methods

variable {L : Library} {self : NDFileArrow} {array : Option (NDArray × CType)}
  {stream : Option Stream}

/-- A table that a call hands over goes to the stream that is open, and is the table of the array
of the call under the schema of the object. -/
lemma handedOver_effect (h : Agrees L self array stream) (call : Call) (next : Stream) :
    ∀ p ∈ handedOver (call.effect L self next).calls, stream = some p.1 ∧
      ∃ fileFormat reply A B t, call = .writeFile fileFormat reply A ∧ array = some (B, t) ∧
        TableOf L B t A p.2 := by
  rintro ⟨s, T⟩ hp
  have hmem : ∀ calls : List ArrowCall, (s, T) ∈ handedOver calls → s ∈ handedStreams calls :=
    fun _ hmem => List.mem_map_of_mem hmem
  have hstream : stream = some s :=
    (accounted h call next).uses s ((handedStreams_sublist _).subset (hmem _ hp))
  refine ⟨hstream, ?_⟩
  have hnone : ∀ calls : List ArrowCall, handedStreams calls = [] → (s, T) ∉ handedOver calls :=
    fun calls hcalls hp => absurd (hmem calls hp) (by simp [hcalls])
  cases call with
  | openFile fileName openMode A opened =>
    exact absurd hp (hnone _ (handedStreams_openFile ..))
  | readFile => exact absurd hp (by simp [Call.effect, readFile, handedOver])
  | closeFile closed => exact absurd hp (hnone _ (handedStreams_closeFile ..))
  | writeFile fileFormat reply A =>
    obtain ⟨built, hbuilt, heq⟩ := mem_handedOver_writeFile (h.outfile.trans hstream) hp
    obtain rfl : T = built.table := congrArg Prod.snd heq
    have hschema := h.schema
    cases array with
    | none =>
      rw [show self.schema = none from hschema] at hbuilt
      exact absurd hbuilt (by simp [buildTable])
    | some q =>
      obtain ⟨B, t⟩ := q
      obtain ⟨ht, hmode, hsome⟩ := hschema
      have hbuild := buildTable_total (A := A) (t := t) hmode
      rw [hsome] at hbuilt
      cases hfailure : tableFailure L B t A with
      | some outcome =>
        rw [hfailure] at hbuild
        exact absurd (hbuilt.symm.trans hbuild) (by simp)
      | none =>
        rw [hfailure] at hbuild
        obtain ⟨columns, hok, hview⟩ := hbuild
        obtain rfl := Except.ok.inj (hbuilt.symm.trans hok)
        exact ⟨fileFormat, reply, A, B, t, rfl, rfl, rfl, hview⟩

end Methods

/-! ### Sessions -/

/-- Every call has been made by a process that goes on, and every table comes from the call that
has handed it over and from the array that the schema was made for. -/
structure Session.Sound (L : Library) (c : Session) : Prop where
  inv : c.Inv L
  going : c.ended = false → ∀ r ∈ c.history, r.effect.outcome.ends = false
  throughout : Throughout (fun past r => (∀ r' ∈ past, r'.effect.outcome.ends = false) ∧
    ∀ p ∈ handedOver r.effect.calls, fileStream past = some p.1 ∧
      ∃ fileFormat reply A B t, r.call = .writeFile fileFormat reply A ∧
        fileArray past = some (B, t) ∧ TableOf L B t A p.2) c.history

lemma sound_start (L : Library) : Session.start.Sound L where
  inv := Session.inv_start L
  going := by simp [Session.start]
  throughout := throughout_nil _

lemma sound_step {L : Library} (c : Session) (call : Call) (c' : Session) (h : c.Sound L)
    (hstep : Session.Step L c call c') : c'.Sound L := by
  have hinv := Session.inv_step c call c' h.inv hstep
  obtain ⟨hended, rfl⟩ := hstep
  refine ⟨hinv, ?_, ?_⟩
  · intro hgoing r hr
    rcases List.mem_append.mp hr with hr | hr
    · exact h.going hended r hr
    · rw [List.mem_singleton.mp hr]
      exact hgoing
  · exact h.throughout.append_singleton
      ⟨h.going hended, handedOver_effect h.inv.agrees call c.nextStream⟩

lemma Record.array_of_keep {r : Record} (hop : r.op = .keep)
    (hgoing : r.effect.outcome.ends = false) (array : Option (NDArray × CType)) :
    r.array array = array := by
  obtain ⟨call, stream, outcome, self, calls⟩ := r
  cases call with
  | openFile fileName openMode A opened =>
    cases outcome with
    | asynSuccess => exact absurd hop (by simp [Record.op])
    | terminates => exact absurd (show true = false from hgoing) (by simp)
    | _ => rfl
  | _ => rfl

lemma Record.array_of_acquire {r : Record} {s : Stream} (hop : r.op = .acquire s)
    (array : Option (NDArray × CType)) :
    ∃ fileName openMode B opened, r.call = .openFile fileName openMode B opened ∧
      r.array array = B.dataType.ctype.map (B, ·) := by
  obtain ⟨call, stream, outcome, self, calls⟩ := r
  cases call with
  | openFile fileName openMode B opened =>
    cases outcome with
    | asynSuccess => exact ⟨fileName, openMode, B, opened, rfl, rfl⟩
    | _ => exact absurd hop (by simp [Record.op])
  | readFile => exact absurd hop (by simp [Record.op])
  | writeFile fileFormat reply A => exact absurd hop (by simp [Record.op])
  | closeFile closed => cases outcome <;> exact absurd hop (by simp [Record.op])

/-- The schema was made for the array that the open file was opened for. -/
lemma opened_of_fileStream {past : List Record} {s : Stream} {B : NDArray} {t : CType}
    (hgoing : ∀ r ∈ past, r.effect.outcome.ends = false) (hstream : fileStream past = some s)
    (harray : fileArray past = some (B, t)) :
    ∃ before opening since, past = before ++ opening :: since ∧ opening.Opened s B t ∧
      ∀ r ∈ since, r.op = .keep := by
  obtain ⟨before, opening, since, rfl, hop, hsince⟩ := fileStream_eq_some_iff.mp hstream
  refine ⟨before, opening, since, rfl, ?_, hsince⟩
  obtain ⟨fileName, openMode, B', opened, hcall, heq⟩ :=
    Record.array_of_acquire hop (fileArray before)
  have hkept : ∀ (rs : List Record) (array : Option (NDArray × CType)),
      (∀ r ∈ rs, r.op = .keep ∧ r.effect.outcome.ends = false) →
      rs.foldl (fun array r => r.array array) array = array := by
    intro rs array hrs
    induction rs with
    | nil => rfl
    | cons r rs ih =>
      obtain ⟨hop, hr⟩ := hrs r (List.mem_cons_self ..)
      rw [List.foldl_cons, Record.array_of_keep hop hr]
      exact ih fun r' hr' => hrs r' (List.mem_cons_of_mem _ hr')
  have hfold : fileArray (before ++ opening :: since) = opening.array (fileArray before) := by
    rw [fileArray, List.foldl_append, List.foldl_cons]
    exact hkept since _ fun r hr => ⟨hsince r hr, hgoing r (by simp [hr])⟩
  rw [hfold, heq] at harray
  cases ht : B'.dataType.ctype with
  | none => exact absurd harray (by simp [ht])
  | some t' =>
    rw [ht] at harray
    obtain ⟨rfl, rfl⟩ := Prod.mk.inj (Option.some.inj harray)
    exact ⟨⟨fileName, openMode, opened, hcall⟩, hop, ht⟩

/-- **Where a table comes from.**  In every session, whatever calls are made and in whichever order:
a table that is handed over comes from a `writeFile`, whose array gives its cells, and goes to the
stream that was opened last, with no successful `closeFile` in between; and it has the schema made
for the array that this stream was opened for. -/
theorem session_provenance {L : Library} {calls : List Call} {c : Session}
    (hrun : Run (Session.Step L) .start calls c) :
    ∀ past r future, c.history = past ++ r :: future → ∀ p ∈ handedOver r.effect.calls,
      ∃ fileFormat reply A B t before opening since, r.call = .writeFile fileFormat reply A ∧
        past = before ++ opening :: since ∧ opening.Opened p.1 B t ∧
        (∀ r' ∈ since, r'.op = .keep) ∧ TableOf L B t A p.2 := by
  have hsound : c.Sound L := hrun.invariant sound_step (sound_start L)
  intro past r future heq p hp
  obtain ⟨hgoing, hhanded⟩ := hsound.throughout past r future heq
  obtain ⟨hstream, fileFormat, reply, A, B, t, hcall, harray, htable⟩ := hhanded p hp
  obtain ⟨before, opening, since, hpast, hopened, hsince⟩ :=
    opened_of_fileStream hgoing hstream harray
  exact ⟨fileFormat, reply, A, B, t, before, opening, since, hcall, hpast, hopened, hsince, htable⟩

/-- The session in which a file has been opened for the pixel, and the record of writing it. -/
def openedSession : Session :=
  Session.start.after (Session.start.record Library.reference openPixel)

theorem session_provenance_pixel : ∃ p ∈ handedOver
    (openedSession.record Library.reference writePixel).effect.calls, ∃ A B t,
      TableOf Library.reference B t A p.2 := by
  have hrun : Run (Session.Step Library.reference) .start [openPixel, writePixel]
      (openedSession.after (openedSession.record Library.reference writePixel)) :=
    Run.cons ⟨rfl, rfl⟩ (Run.cons ⟨rfl, rfl⟩ (Run.nil _))
  obtain ⟨-, -, -, -, -, hsuccess⟩ := writtenAs_uint8 7 0 "dot" .CSV
  obtain ⟨built, -, hhanded⟩ := writeFile_success (s := 0) rfl hsuccess
  have hp : (0, built.table) ∈ handedOver
      (openedSession.record Library.reference writePixel).effect.calls :=
    hhanded.symm ▸ List.mem_singleton.mpr rfl
  obtain ⟨-, -, A, B, t, -, -, -, -, -, -, -, htable⟩ :=
    session_provenance hrun openedSession.history _ [] rfl (0, built.table) hp
  exact ⟨(0, built.table), hp, A, B, t, htable⟩

/-! ### Threads -/

/-- A stream is opened by one call. -/
lemma eq_of_acquire {history : List Record} {s : Stream} {r r' : Record}
    (hnodup : (Handles.acquired (history.map Record.move)).Nodup) (hr : r ∈ history)
    (hr' : r' ∈ history) (hop : r.op = .acquire s) (hop' : r'.op = .acquire s) : r = r' := by
  induction history with
  | nil => exact absurd hr (by simp)
  | cons first history ih =>
    have hcons : Handles.acquired ((first :: history).map Record.move)
        = first.op.acquired.toList ++ Handles.acquired (history.map Record.move) := by
      rw [List.map_cons, ← List.singleton_append, Handles.acquired_append]
      cases hfirst : first.op <;> simp [Handles.acquired, Record.move, hfirst, Handles.Op.acquired]
    have hacquired : ∀ r ∈ history, r.op = .acquire s →
        s ∈ Handles.acquired (history.map Record.move) := by
      intro r hr hop
      refine List.mem_filterMap.mpr ⟨r.move, List.mem_map_of_mem hr, ?_⟩
      rw [Record.move, hop]
      rfl
    rw [hcons, List.nodup_append] at hnodup
    -- if the first call opens the stream, no later one does
    have hfirst : first.op = .acquire s → ∀ r ∈ history, r.op ≠ .acquire s := by
      intro hfirst r hr hop
      exact hnodup.2.2 s (by simp [hfirst, Handles.Op.acquired]) s (hacquired r hr hop) rfl
    rcases List.mem_cons.mp hr with rfl | hlater
    · rcases List.mem_cons.mp hr' with rfl | hlater'
      · rfl
      · exact absurd hop' (hfirst hop r' hlater')
    · rcases List.mem_cons.mp hr' with rfl | hlater'
      · exact absurd hop (hfirst hop' r hlater)
      · exact ih hnodup.2.1 hlater hlater'

/-- The file of a table has been opened for the array that its schema was made for. -/
lemma exists_opened {L : Library} {c : Session} (hsound : c.Sound L) {p : Stream × Table}
    (hp : p ∈ handedOver (c.history.flatMap fun r => r.effect.calls)) :
    ∃ r ∈ c.history, ∃ B t, r.Opened p.1 B t ∧ p.2.schema = schemaFor (L.getInfo B) t := by
  rw [handedOver, List.filterMap_flatMap] at hp
  obtain ⟨r, hr, hp⟩ := List.mem_flatMap.mp hp
  obtain ⟨past, future, heq⟩ := List.append_of_mem hr
  obtain ⟨hgoing, hhanded⟩ := hsound.throughout past r future heq
  obtain ⟨hstream, _, _, A, B, t, -, harray, htable⟩ := hhanded p hp
  obtain ⟨before, opening, since, rfl, hopened, -⟩ := opened_of_fileStream hgoing hstream harray
  exact ⟨opening, heq ▸ by simp, B, t, hopened, htable.schema_eq⟩

lemma flatMap_calls_eq {log : List Event} {history : List Record}
    (h : List.Forall₂ Event.Recorded log history) :
    (log.flatMap fun event => event.effect.calls) = history.flatMap fun r => r.effect.calls := by
  induction h with
  | nil => rfl
  | cons hr _ ih => rw [List.flatMap_cons, List.flatMap_cons, hr.effect_eq, ih]

/-- **The tables of a file have one schema.**  In every run of any number of threads, with no guard,
two tables that go to the same stream have the same schema. -/
theorem run_schemas {L : Library} {n : ℕ} {actions : List (Action n)} {c : Shared n}
    (hrun : Run (Step L n) (start n) actions c) :
    ∀ p ∈ handedOver c.calls, ∀ p' ∈ handedOver c.calls, p.1 = p'.1 →
      p.2.schema = p'.2.schema := by
  obtain ⟨calls, s, hsession, hfollows⟩ := hrun.simulate Shared.Follows.step (follows_start n)
  have hsound : s.Sound L := hsession.invariant sound_step (sound_start L)
  have hnodup := hsound.inv.increasing.imp fun hlt => ne_of_lt hlt
  rw [Shared.calls, flatMap_calls_eq hfollows.history]
  intro p hp p' hp' heq
  obtain ⟨r, hr, B, t, hopened, hschema⟩ := exists_opened hsound hp
  obtain ⟨r', hr', B', t', hopened', hschema'⟩ := exists_opened hsound hp'
  obtain rfl := eq_of_acquire hnodup hr hr' hopened.op_eq (heq ▸ hopened'.op_eq)
  obtain ⟨_, _, _, hcall⟩ := hopened.call_eq
  obtain ⟨_, _, _, hcall'⟩ := hopened'.call_eq
  obtain ⟨-, -, rfl, -⟩ := Call.openFile.inj (hcall.symm.trans hcall')
  obtain rfl := Option.some.inj (hopened.type_eq.symm.trans hopened'.type_eq)
  rw [hschema, hschema']

/-- The tables of both arrays have the schema of the second file. -/
theorem run_schemas_overlapping : ∃ (c : Shared 2) (T T' : Table),
    Run (Step Library.reference 2) (start 2) overlapping c ∧
      handedOver c.calls = [(1, T), (1, T')] ∧ T.schema = T'.schema := by
  obtain ⟨c, hrun, hstreams⟩ := exists_run_overlapping
  obtain ⟨⟨s, T⟩, ps, hhanded, rfl, hps⟩ := List.map_eq_cons_iff.mp hstreams
  obtain ⟨⟨s', T'⟩, ps', rfl, rfl, hps'⟩ := List.map_eq_cons_iff.mp hps
  obtain rfl := List.map_eq_nil_iff.mp hps'
  refine ⟨c, T, T', hrun, hhanded, ?_⟩
  exact run_schemas hrun (1, T) (by simp [hhanded]) (1, T') (by simp [hhanded]) rfl

end ADPluginArrow
