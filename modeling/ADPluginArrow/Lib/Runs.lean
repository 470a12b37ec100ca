/-
# Runs of transition systems

A transition system is a relation `Step s a s'`: from state `s`, the action `a` leads to
`s'`.  A run is a sequence of actions, each taken from the state that the one before it has
reached.

* `Run.invariant` is the induction over a run: what every step preserves holds in the state
  that the run reaches.
* `Guarded` restricts the actions that may be taken.  A run of a system is a run of every system
  that has its steps (`Run.mono`), as the system with a weaker guard does.
* A deterministic system is the graph of a function, and its runs are folds
  (`run_foldl`, `foldl_invariant`).
* `Run.simulate` is forward simulation: a system whose steps are simulated by runs of another
  one has its runs simulated, too.
* A system that stops after some of its actions handles the actions up to the first of these
  (`upTo`, `foldl_upTo`).
* `Throughout` is a property of every element of a history together with what came before it.
-/
import Mathlib

namespace Runs

variable {σ α : Type*} {Step : σ → α → σ → Prop}

/-- The runs of a transition system. -/
inductive Run (Step : σ → α → σ → Prop) : σ → List α → σ → Prop where
  | nil (s : σ) : Run Step s [] s
  | cons {s s₁ s' : σ} {a : α} {actions : List α} (hstep : Step s a s₁)
      (hrun : Run Step s₁ actions s') : Run Step s (a :: actions) s'

/-- The system in which an action may only be taken in a state that allows it. -/
def Guarded (Guard : σ → α → Prop) (Step : σ → α → σ → Prop) : σ → α → σ → Prop :=
  fun s a s' => Guard s a ∧ Step s a s'

namespace Run

/-- What every step preserves holds after every run. -/
theorem invariant {Inv : σ → Prop} (hstep : ∀ s a s', Inv s → Step s a s' → Inv s') {s s' : σ}
    {actions : List α} (hrun : Run Step s actions s') (hs : Inv s) : Inv s' := by
  induction hrun with
  | nil s => exact hs
  | cons h _ ih => exact ih (hstep _ _ _ hs h)

/-- A run of a system is a run of every system that has its steps. -/
theorem mono {Step' : σ → α → σ → Prop} (hstep : ∀ s a s', Step s a s' → Step' s a s') {s s' : σ}
    {actions : List α} (hrun : Run Step s actions s') : Run Step' s actions s' := by
  induction hrun with
  | nil s => exact Run.nil s
  | cons h _ ih => exact Run.cons (hstep _ _ _ h) ih

/-- A run may be continued by another one. -/
theorem append {s s₁ s' : σ} {actions actions' : List α} (hrun : Run Step s actions s₁)
    (hrun' : Run Step s₁ actions' s') : Run Step s (actions ++ actions') s' := by
  induction hrun with
  | nil s => exact hrun'
  | cons h _ ih => exact Run.cons h (ih hrun')

/-- **Forward simulation.**  Where every step of a system is simulated by a run of another one,
every run of it is. -/
theorem simulate {τ β : Type*} {Step' : τ → β → τ → Prop} {R : σ → τ → Prop}
    (hstep : ∀ s a s' t, R s t → Step s a s' → ∃ actions t', Run Step' t actions t' ∧ R s' t')
    {s s' : σ} {actions : List α} (hrun : Run Step s actions s') {t : τ} (hR : R s t) :
    ∃ actions' t', Run Step' t actions' t' ∧ R s' t' := by
  induction hrun generalizing t with
  | nil s => exact ⟨[], t, Run.nil t, hR⟩
  | cons h _ ih =>
    obtain ⟨actions₁, t₁, hrun₁, hR₁⟩ := hstep _ _ _ _ hR h
    obtain ⟨actions₂, t₂, hrun₂, hR₂⟩ := ih hR₁
    exact ⟨actions₁ ++ actions₂, t₂, hrun₁.append hrun₂, hR₂⟩

end Run

/-- The run of a deterministic system. -/
theorem run_foldl (f : σ → α → σ) (s : σ) (actions : List α) :
    Run (fun s a s' => s' = f s a) s actions (actions.foldl f s) := by
  induction actions generalizing s with
  | nil => exact Run.nil s
  | cons a actions ih => exact Run.cons rfl (ih (f s a))

/-- What every step of a deterministic system preserves holds after every sequence of
actions. -/
theorem foldl_invariant {f : σ → α → σ} {Inv : σ → Prop} (hstep : ∀ s a, Inv s → Inv (f s a))
    {s : σ} (hs : Inv s) (actions : List α) : Inv (actions.foldl f s) :=
  (run_foldl f s actions).invariant (fun s a _ hs heq => heq ▸ hstep s a hs) hs

/-! ### Systems that stop -/

section UpTo

variable {p : α → Prop} [DecidablePred p]

/-- A list up to the first element with a property, and this element. -/
def upTo (p : α → Prop) [DecidablePred p] : List α → List α
  | [] => []
  | a :: as => if p a then [a] else a :: upTo p as

lemma upTo_append_singleton (as : List α) (a : α) :
    upTo p (as ++ [a]) = upTo p as ++ if ∃ b ∈ as, p b then [] else [a] := by
  induction as with
  | nil => simp [upTo]
  | cons b as ih =>
    by_cases hb : p b
    · simp [upTo, hb]
    · simp [upTo, hb, ih]

lemma upTo_subset (as : List α) : upTo p as ⊆ as := by
  induction as with
  | nil => exact List.nil_subset _
  | cons a as ih =>
    rw [upTo]
    split_ifs
    · exact List.cons_subset_cons a (List.nil_subset as)
    · exact List.cons_subset_cons a ih

/-- **A system that stops.**  Where a deterministic system writes its actions down one by one, and
does nothing any more after an action with the property, it has written down the actions up to the
first one with the property. -/
theorem foldl_upTo {β : Type*} {f : σ → α → σ} {log : σ → List β} {action : β → α}
    {stopped : σ → Prop} (hstopped : ∀ s a, stopped s → f s a = s)
    (hgo : ∀ s a, ¬ stopped s →
      (∃ b, log (f s a) = log s ++ [b] ∧ action b = a) ∧ (stopped (f s a) ↔ p a))
    {s : σ} (hlog : log s = []) (hs : ¬ stopped s) (actions : List α) :
    (log (actions.foldl f s)).map action = upTo p actions ∧
      (stopped (actions.foldl f s) ↔ ∃ a ∈ actions, p a) := by
  induction actions using List.reverseRecOn with
  | nil => exact ⟨by simp [hlog, upTo], by simpa using hs⟩
  | append_singleton actions a ih =>
    obtain ⟨ihlog, ihstopped⟩ := ih
    rw [List.foldl_append, List.foldl_cons, List.foldl_nil, upTo_append_singleton]
    by_cases h : stopped (actions.foldl f s)
    · have hp := ihstopped.mp h
      rw [hstopped _ a h, if_pos hp, List.append_nil]
      obtain ⟨b, hb, hpb⟩ := hp
      exact ⟨ihlog, iff_of_true h ⟨b, List.mem_append_left _ hb, hpb⟩⟩
    · have hp := fun hp => h (ihstopped.mpr hp)
      obtain ⟨⟨b, hb, rfl⟩, hiff⟩ := hgo _ a h
      rw [hb, List.map_append, ihlog, if_neg hp, hiff]
      refine ⟨rfl, ?_⟩
      constructor
      · exact fun hpa => ⟨action b, by simp, hpa⟩
      · rintro ⟨a', ha', hpa'⟩
        rcases List.mem_append.mp ha' with ha' | ha'
        · exact absurd ⟨a', ha', hpa'⟩ hp
        · exact List.mem_singleton.mp ha' ▸ hpa'

end UpTo

/-! ### Histories -/

/-- Every element of a history is as the elements before it call for. -/
def Throughout (P : List α → α → Prop) (history : List α) : Prop :=
  ∀ past a future, history = past ++ a :: future → P past a

lemma throughout_nil (P : List α → α → Prop) : Throughout P [] := by
  intro past a future h
  exact absurd h (by simp)

/-- A history is continued by an element that it calls for. -/
lemma Throughout.append_singleton {P : List α → α → Prop} {history : List α} {a : α}
    (h : Throughout P history) (ha : P history a) : Throughout P (history ++ [a]) := by
  intro past b future heq
  rcases List.eq_nil_or_concat future with rfl | ⟨future, b', rfl⟩
  · obtain ⟨rfl, hb⟩ := List.append_inj' heq rfl
    exact List.singleton_inj.mp hb ▸ ha
  · rw [List.concat_eq_append, ← List.cons_append, ← List.append_assoc] at heq
    exact h past b future (List.append_inj' heq rfl).1

/-- The first part of a history. -/
lemma Throughout.left {P : List α → α → Prop} {past future : List α}
    (h : Throughout P (past ++ future)) : Throughout P past := by
  intro past' a future' heq
  exact h past' a (future' ++ future) (by simp [heq])

end Runs
