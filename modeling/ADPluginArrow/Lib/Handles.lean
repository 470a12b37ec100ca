/-
# Handles

A component that works on one handle at a time.  In each of its moves it uses some handles; the
move may acquire a handle, which replaces the one that the component holds, or release it.

* `held` is the handle that a history leaves the component with; `held_eq_some_iff` says in terms
  of the history which one it is.
* In a `Disciplined` history every move uses no handle but the one that is held.
* `Disciplined.not_used_again`: where no handle is acquired twice, a handle that has been given up
  is not used again.
-/
import ADPluginArrow.Lib.Runs

namespace Handles

open Runs

variable {H : Type*}

/-- What becomes of the handle in a move. -/
inductive Op (H : Type*) where
  | acquire (h : H)
  | release
  | keep
deriving DecidableEq, Repr

/-- What becomes of the handle that is held. -/
def Op.apply : Op H → Option H → Option H
  | acquire h, _ => some h
  | release, _ => none
  | keep, held => held

/-- The handle that is acquired. -/
def Op.acquired : Op H → Option H
  | acquire h => some h
  | _ => none

/-- A move: the handles that it uses, and what becomes of the handle afterwards. -/
structure Move (H : Type*) where
  uses : List H
  op : Op H
deriving DecidableEq, Repr

/-- The handle that is held after a history. -/
def held (history : List (Move H)) : Option H :=
  history.foldl (fun handle move => move.op.apply handle) none

/-- The handles that are acquired in a history, in order. -/
def acquired (history : List (Move H)) : List H := history.filterMap fun move => move.op.acquired

variable {history past future : List (Move H)} {move : Move H} {h : H}

@[simp] lemma held_nil : held ([] : List (Move H)) = none := rfl

@[simp] lemma held_append_singleton :
    held (history ++ [move]) = move.op.apply (held history) := by
  simp [held]

lemma acquired_append : acquired (past ++ future) = acquired past ++ acquired future := by
  simp [acquired]

lemma acquired_append_singleton :
    acquired (history ++ [move]) = acquired history ++ move.op.acquired.toList := by
  rw [acquired_append]
  cases hop : move.op <;> simp [acquired, hop, Op.acquired]

/-- A handle is held if it has been acquired and nothing has become of it since. -/
theorem held_eq_some_iff :
    held history = some h ↔ ∃ before move since, history = before ++ move :: since ∧
      move.op = .acquire h ∧ ∀ move' ∈ since, move'.op = .keep := by
  constructor
  · intro hheld
    induction history using List.reverseRecOn with
    | nil => exact absurd hheld (by simp)
    | append_singleton history move ih =>
      rw [held_append_singleton] at hheld
      cases hop : move.op with
      | acquire h' =>
        rw [hop] at hheld
        obtain rfl : h' = h := Option.some.inj hheld
        exact ⟨history, move, [], rfl, hop, by simp⟩
      | release =>
        rw [hop] at hheld
        exact absurd hheld (by simp [Op.apply])
      | keep =>
        rw [hop] at hheld
        obtain ⟨before, opening, since, rfl, hopening, hsince⟩ := ih hheld
        refine ⟨before, opening, since ++ [move], by simp, hopening, ?_⟩
        intro move' hmem
        rcases List.mem_append.mp hmem with hmem | hmem
        · exact hsince move' hmem
        · exact List.mem_singleton.mp hmem ▸ hop
  · rintro ⟨before, move, since, rfl, hop, hsince⟩
    induction since using List.reverseRecOn with
    | nil => simp [held, hop, Op.apply]
    | append_singleton since move' ih =>
      rw [← List.cons_append, ← List.append_assoc, held_append_singleton,
        hsince move' (by simp), Op.apply]
      exact ih fun m hm => hsince m (by simp [hm])

/-- The handle that is held is the last one that has been acquired. -/
lemma le_of_held [Preorder H] (hincreasing : (acquired history).Pairwise (· < ·))
    (hheld : held history = some h) : ∀ h' ∈ acquired history, h' ≤ h := by
  obtain ⟨before, move, since, rfl, hop, hsince⟩ := held_eq_some_iff.mp hheld
  have hnone : acquired since = [] := by
    refine List.filterMap_eq_nil_iff.mpr fun move' hmem => ?_
    rw [hsince move' hmem]
    rfl
  have hlast : acquired (before ++ move :: since) = acquired before ++ [h] := by
    rw [← List.singleton_append, acquired_append, acquired_append, hnone]
    simp [acquired, hop, Op.acquired]
  rw [hlast, List.pairwise_append] at hincreasing
  rw [hlast]
  intro h' hmem
  rcases List.mem_append.mp hmem with hmem | hmem
  · exact (hincreasing.2.2 h' hmem h (List.mem_singleton.mpr rfl)).le
  · exact (List.mem_singleton.mp hmem).le

/-- A handle that is held has been acquired. -/
lemma mem_acquired_of_held (hheld : held history = some h) : h ∈ acquired history := by
  obtain ⟨before, move, since, rfl, hop, -⟩ := held_eq_some_iff.mp hheld
  exact List.mem_filterMap.mpr ⟨move, by simp, by rw [hop]; rfl⟩

/-! ### Discipline -/

/-- Every move uses no handle but the one that is held. -/
def Disciplined (history : List (Move H)) : Prop :=
  Throughout (fun past move => ∀ h ∈ move.uses, held past = some h) history

/-- **A handle that has been given up is not used again.** -/
theorem Disciplined.not_used_again (hdisciplined : Disciplined (past ++ future))
    (hfresh : (acquired (past ++ future)).Nodup) (hacquired : h ∈ acquired past)
    (hgone : held past ≠ some h) : ∀ move ∈ future, h ∉ move.uses := by
  induction future generalizing past with
  | nil => simp
  | cons move future ih =>
    have hsplit : past ++ move :: future = (past ++ [move]) ++ future := by simp
    have hmove : h ∉ move.uses := fun huse => hgone (hdisciplined past move future rfl h huse)
    have hacquired' : h ∈ acquired (past ++ [move]) := by
      rw [acquired_append]
      exact List.mem_append_left _ hacquired
    -- acquiring it again is the only way to hold it again
    have hgone' : held (past ++ [move]) ≠ some h := by
      rw [held_append_singleton]
      cases hop : move.op with
      | acquire h' =>
        rintro ⟨rfl⟩
        rw [acquired_append, List.nodup_append] at hfresh
        exact hfresh.2.2 h hacquired h (by simp [acquired, hop, Op.acquired]) rfl
      | release => simp [Op.apply]
      | keep => exact hgone
    intro move' hmem
    rcases List.mem_cons.mp hmem with rfl | hmem
    · exact hmove
    · exact ih (hsplit ▸ hdisciplined) (hsplit ▸ hfresh) hacquired' hgone' move' hmem

/-- **Handles are used in the order in which they have been acquired.** -/
theorem Disciplined.uses_sorted [Preorder H] (hdisciplined : Disciplined history)
    (hincreasing : (acquired history).Pairwise (· < ·)) :
    (history.flatMap Move.uses).Pairwise (· ≤ ·) ∧
      ∀ h ∈ history.flatMap Move.uses, h ∈ acquired history := by
  induction history using List.reverseRecOn with
  | nil => simp
  | append_singleton history move ih =>
    have hmove : ∀ h ∈ move.uses, held history = some h := hdisciplined history move [] rfl
    rw [acquired_append] at hincreasing ⊢
    have hbefore := (List.pairwise_append.mp hincreasing).1
    obtain ⟨hsorted, hmem⟩ := ih hdisciplined.left hbefore
    rw [List.flatMap_append, List.flatMap_singleton, List.pairwise_append]
    refine ⟨⟨hsorted, ?_, ?_⟩, ?_⟩
    · -- all uses of a move are of one handle
      refine List.pairwise_of_forall_mem_list fun h hh h' hh' => ?_
      exact (Option.some.inj ((hmove h hh).symm.trans (hmove h' hh'))).le
    · intro h hh h' hh'
      exact le_of_held hbefore (hmove h' hh') h (hmem h hh)
    · intro h hh
      refine List.mem_append_left _ ?_
      rcases List.mem_append.mp hh with hh | hh
      · exact hmem h hh
      · exact mem_acquired_of_held (hmove h hh)

end Handles
