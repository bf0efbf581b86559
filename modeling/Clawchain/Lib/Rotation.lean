import Mathlib.Data.List.GetD
import Mathlib.Data.List.Nodup
import Mathlib.Data.List.TakeWhile
import Mathlib.Logic.Function.Iterate
import Mathlib.Tactic.Linarith

/-! Turn taking around a table: the order of the places after a given one, and
queues in which the served member leaves or rejoins at the end. -/
namespace Clawchain.Lib.Rotation
variable {α : Type} [DecidableEq α]

/-- Everything after `x`, then everything before it. -/
def rotateAfter (l : List α) (x : α) : List α :=
  (l.dropWhile (· ≠ x)).tail ++ l.takeWhile (· ≠ x)

theorem rotateAfter_split (before after : List α) (x : α) (absent : x ∉ before) :
    rotateAfter (before ++ x :: after) x = after ++ before := by
  have differ : ∀ y ∈ before, decide (y ≠ x) = true := by
    intro y member
    simp only [decide_eq_true_eq]
    rintro rfl
    exact absent member
  unfold rotateAfter
  rw [List.dropWhile_append_of_pos differ,List.takeWhile_append_of_pos differ]
  simp

theorem rotateAfter_positions (l : List α) (x fallback : α) (i : Nat) (found : l.idxOf? x = some i) :
    (List.range' 1 (l.length - 1)).map (fun offset => l.getD ((i + offset) % l.length) fallback) =
      rotateAfter l x := by
  obtain ⟨inside,here,first⟩ := List.idxOf?_eq_some_iff.mp found
  have member : x ∈ l := by rw [← here]; exact List.getElem_mem inside
  obtain ⟨before,after,rfl,absent⟩ := List.eq_append_cons_of_mem member
  have position : i = before.length := by
    have computed : (before ++ x :: after).idxOf? x = some before.length := by
      rw [List.idxOf?_eq_some_iff]
      refine ⟨by simp,by simp,fun j early => ?_⟩
      rw [List.getElem_append_left early]
      rintro rfl
      exact absent (List.getElem_mem early)
    exact Option.some.inj (found.symm.trans computed)
  subst position
  rw [rotateAfter_split before after x absent]
  apply List.ext_getElem
  · simp
    omega
  · intro j left right
    simp only [List.length_map,List.length_range',List.length_append,List.length_cons] at left
    simp only [List.getElem_map,List.getElem_range',List.length_append,List.length_cons]
    by_cases near : j < after.length
    · rw [Nat.mod_eq_of_lt (by omega),List.getElem_append_left near,
        List.getD_eq_getElem _ _ (by simp; omega),List.getElem_append_right (by omega)]
      simp [show before.length + (1 + j) - before.length = j + 1 by omega]
    · have wrapped : (before.length + (1 + 1 * j)) % (before.length + (after.length + 1)) = j - after.length := by
        rw [Nat.mod_eq_sub_mod (by omega),Nat.mod_eq_of_lt (by omega)]
        omega
      rw [wrapped,List.getElem_append_right (by omega),List.getD_eq_getElem _ _ (by simp; omega),
        List.getElem_append_left (by omega)]

theorem rotateAfter_perm (l : List α) (x : α) (member : x ∈ l) : (x :: rotateAfter l x).Perm l := by
  obtain ⟨before,after,rfl,absent⟩ := List.eq_append_cons_of_mem member
  rw [rotateAfter_split before after x absent]
  exact (List.perm_append_comm.cons x).trans List.perm_middle.symm

theorem rotateAfter_next {l : List α} {x y : α} {skipped later : List α} (distinct : l.Nodup)
    (member : x ∈ l) (ahead : rotateAfter l x = skipped ++ y :: later) :
    rotateAfter l y = later ++ x :: skipped := by
  obtain ⟨before,after,rfl,absent⟩ := List.eq_append_cons_of_mem member
  rw [rotateAfter_split before after x absent] at ahead
  rcases List.append_eq_append_iff.mp ahead with ⟨mid,rfl,tail⟩ | ⟨mid,rfl,tail⟩
  · have split : mid ++ y :: later ++ x :: after = mid ++ y :: (later ++ x :: after) := by simp
    subst tail
    rw [split] at distinct ⊢
    have fresh : y ∉ mid := fun inside =>
      (List.nodup_append.mp distinct).2.2 y inside y List.mem_cons_self rfl
    rw [rotateAfter_split _ _ y fresh]
    simp
  · cases mid with
    | nil =>
      simp only [List.nil_append] at tail
      subst tail
      have split : y :: later ++ x :: (skipped ++ []) = [] ++ y :: (later ++ x :: skipped) := by simp
      rw [split,rotateAfter_split _ _ y List.not_mem_nil]
      simp
    | cons z rest =>
      simp only [List.cons_append,List.cons.injEq] at tail
      obtain ⟨rfl,rfl⟩ := tail
      have split : before ++ x :: (skipped ++ y :: rest) = (before ++ x :: skipped) ++ y :: rest := by simp
      rw [split] at distinct ⊢
      have fresh : y ∉ before ++ x :: skipped := fun inside =>
        (List.nodup_append.mp distinct).2.2 y inside y List.mem_cons_self rfl
      rw [rotateAfter_split _ _ y fresh]
      simp

theorem filter_sorted {β : Type} [LinearOrder β] {l : List β} {x : β} (sorted : l.Pairwise (· < ·)) (member : x ∈ l) :
    l = l.filter (· < x) ++ x :: l.filter (x < ·) ∧ l.filter (x ≤ ·) = x :: l.filter (x < ·) := by
  obtain ⟨before,after,rfl,absent⟩ := List.eq_append_cons_of_mem member
  obtain ⟨_,rest,across⟩ := List.pairwise_append.mp sorted
  have above := (List.pairwise_cons.mp rest).1
  have below : ∀ y ∈ before, y < x := fun y inside => across y inside x List.mem_cons_self
  have greater : (before ++ x :: after).filter (x < ·) = after := by
    rw [List.filter_append,List.filter_eq_nil_iff.mpr (by simpa using fun y inside => (below y inside).le),
      List.filter_cons_of_neg (by simp),List.filter_eq_self.mpr (by simpa using above)]
    rfl
  have smaller : (before ++ x :: after).filter (· < x) = before := by
    rw [List.filter_append,List.filter_eq_self.mpr (by simpa using below),List.filter_cons_of_neg (by simp),
      List.filter_eq_nil_iff.mpr (by simpa using fun y inside => (above y inside).le),List.append_nil]
  have atLeast : (before ++ x :: after).filter (x ≤ ·) = x :: after := by
    rw [List.filter_append,List.filter_eq_nil_iff.mpr (by simpa using below),List.filter_cons_of_pos (by simp),
      List.filter_eq_self.mpr (by simpa using fun y inside => (above y inside).le)]
    rfl
  rw [greater,smaller]
  exact ⟨rfl,atLeast⟩

theorem rotateAfter_sorted {β : Type} [LinearOrder β] {l : List β} {x : β} (sorted : l.Pairwise (· < ·))
    (member : x ∈ l) : rotateAfter l x = l.filter (x < ·) ++ l.filter (· < x) := by
  have absent : x ∉ l.filter (· < x) := by simp
  have split := rotateAfter_split (l.filter (· < x)) (l.filter (x < ·)) x absent
  rwa [← (filter_sorted sorted member).1] at split

/-- The head is served: it rejoins at the end when it stays, else it leaves. -/
def serve {β : Type} (stay : β → Bool) : List β → List β
  | [] => []
  | a :: rest => if stay a then rest ++ [a] else rest

section Queue
variable {β : Type} (stay : β → Bool)

theorem serve_stays {a : β} (rest : List β) (stays : stay a = true) : serve stay (a :: rest) = rest ++ [a] :=
  if_pos stays

theorem serve_leaves {a : β} (rest : List β) (leaves : stay a = false) : serve stay (a :: rest) = rest := by
  simp [serve,leaves]

theorem serve_iterate (queue : List β) (j : Nat) (enough : j ≤ queue.length) :
    (serve stay)^[j] queue = queue.drop j ++ (queue.take j).filter stay := by
  induction j with
  | zero => simp
  | succ j ih =>
    have inside : j < queue.length := by omega
    rw [Function.iterate_succ_apply',ih (by omega),List.drop_eq_getElem_cons inside,
      List.take_succ_eq_append_getElem inside,List.filter_append,List.cons_append]
    cases stays : stay queue[j] with
    | true => rw [serve_stays stay _ stays,List.append_assoc,List.filter_cons_of_pos stays,List.filter_nil]
    | false => rw [serve_leaves stay _ stays,List.filter_cons_of_neg (by simp [stays]),List.filter_nil,List.append_nil]

theorem serve_lap (queue : List β) : (serve stay)^[queue.length] queue = queue.filter stay := by
  rw [serve_iterate stay queue queue.length (le_refl _)]
  simp

theorem serve_filter (queue : List β) : ((serve stay queue).filter stay).length = (queue.filter stay).length := by
  cases queue with
  | nil => rfl
  | cons a rest =>
    cases stays : stay a with
    | true => simp [serve_stays stay rest stays,stays]
    | false => simp [serve_leaves stay rest stays,stays]

theorem serve_subset (queue : List β) : ∀ b ∈ serve stay queue, b ∈ queue := by
  intro b member
  cases queue with
  | nil => exact member
  | cons a rest =>
    cases stays : stay a with
    | true =>
      rw [serve_stays stay rest stays] at member
      simpa [or_comm] using member
    | false =>
      rw [serve_leaves stay rest stays] at member
      exact List.mem_cons_of_mem _ member

theorem serve_length (queue : List β) : (queue.filter stay).length ≤ (serve stay queue).length := by
  rw [← serve_filter stay queue]
  exact List.length_filter_le _ _

/-- Serving stops when the goal comes to the head, when there was one member
left to serve, or when at most one is left together with the `others`. -/
def Halts (goal : β) (others : Nat) (queue : List β) : Prop :=
  (serve stay queue).head? = some goal ∨ queue.length ≤ 1 ∨ others + (serve stay queue).length ≤ 1

/-- Two members that stay, and the goal will not come to the head any more. -/
def Stuck (goal : β) (queue : List β) : Prop :=
  2 ≤ (queue.filter stay).length ∧ (goal ∉ queue ∨ queue.head? = some goal ∧ stay goal = false)

variable {goal : β} {others : Nat}
variable {queue : List β}

theorem reaches_waiting (queue : List β) (waiting : goal ∈ queue.tail) :
    ∃ j < queue.length, (serve stay ((serve stay)^[j] queue)).head? = some goal := by
  cases queue with
  | nil => cases waiting
  | cons a rest =>
    obtain ⟨ahead,behind,rfl⟩ := List.append_of_mem waiting
    refine ⟨ahead.length,by rw [List.length_cons,List.length_append,List.length_cons]; omega,?_⟩
    rw [← Function.iterate_succ_apply' (serve stay),serve_iterate stay _ _ (by simp)]
    simp

theorem reaches_staying_head (rest : List β) (stays : stay goal = true) :
    ∃ j < (goal :: rest).length, (serve stay ((serve stay)^[j] (goal :: rest))).head? = some goal := by
  refine ⟨rest.length,by simp,?_⟩
  rw [← Function.iterate_succ_apply' (serve stay)]
  change ((serve stay)^[(goal :: rest).length] (goal :: rest)).head? = some goal
  rw [serve_lap,List.filter_cons_of_pos stays]
  rfl

theorem reaches_member (queue : List β) (everybody : ∀ b, stay b = true) (member : goal ∈ queue) :
    ∃ j < queue.length, (serve stay ((serve stay)^[j] queue)).head? = some goal := by
  cases queue with
  | nil => cases member
  | cons a rest =>
    rcases List.mem_cons.mp member with rfl | waiting
    · exact reaches_staying_head stay rest (everybody goal)
    · exact reaches_waiting stay (a :: rest) waiting

theorem halts_of_few (queue : List β) (few : (queue.filter stay).length ≤ 1) :
    Halts stay goal others ((serve stay)^[queue.length] queue) := by
  rw [serve_lap]
  exact .inr (.inl few)

theorem halts_of_few_alone (queue : List β) (somebody : queue ≠ []) (few : (queue.filter stay).length ≤ 1) :
    ∃ j < queue.length, Halts stay goal 0 ((serve stay)^[j] queue) := by
  have count := List.length_pos_iff.mpr somebody
  refine ⟨queue.length - 1,by omega,.inr (.inr ?_)⟩
  rw [← Function.iterate_succ_apply' (serve stay),Nat.succ_eq_add_one,Nat.sub_add_cancel count,serve_lap]
  omega

theorem stuck_serve (distinct : queue.Nodup) (stuck : Stuck stay goal queue) :
    goal ∉ serve stay queue ∧ Stuck stay goal (serve stay queue) := by
  obtain ⟨many,gone⟩ := stuck
  have absent : goal ∉ serve stay queue := by
    rcases gone with outside | ⟨front,leaves⟩
    · exact fun member => outside (serve_subset stay queue goal member)
    · cases queue with
      | nil => cases front
      | cons a rest =>
        have same : a = goal := Option.some.inj front
        subst same
        rw [serve_leaves stay rest leaves]
        exact (List.nodup_cons.mp distinct).1
  exact ⟨absent,by rwa [serve_filter],.inl absent⟩

theorem serve_nodup (distinct : queue.Nodup) : (serve stay queue).Nodup := by
  cases queue with
  | nil => exact distinct
  | cons a rest =>
    obtain ⟨fresh,tail⟩ := List.nodup_cons.mp distinct
    cases stays : stay a with
    | true =>
      rw [serve_stays stay rest stays]
      exact List.nodup_append.mpr ⟨tail,List.nodup_singleton a,fun x inside y member same =>
        fresh (List.mem_singleton.mp member ▸ same ▸ inside)⟩
    | false => rwa [serve_leaves stay rest stays]

theorem stuck_never_halts (distinct : queue.Nodup) (stuck : Stuck stay goal queue) (j : Nat) :
    ¬ Halts stay goal others ((serve stay)^[j] queue) := by
  induction j generalizing queue with
  | zero =>
    obtain ⟨absent,_⟩ := stuck_serve stay distinct stuck
    have many := stuck.1
    have longer := serve_length stay queue
    have total := List.length_filter_le stay queue
    change ¬ Halts stay goal others queue
    rintro (front | short | few)
    · exact absent (List.mem_of_mem_head? front)
    · omega
    · omega
  | succ j ih => exact ih (serve_nodup stay distinct) (stuck_serve stay distinct stuck).2

/-- A queue that is not stuck halts within one lap, or at the service after it
when others wait outside the queue. -/
theorem halts_within_iff (distinct : queue.Nodup) (somebody : queue ≠ []) (bound : Nat)
    (enough : queue.length < bound ∨ others = 0 ∧ queue.length ≤ bound) :
    (∃ j < bound, Halts stay goal others ((serve stay)^[j] queue)) ↔ ¬ Stuck stay goal queue := by
  constructor
  · rintro ⟨j,_,halts⟩ stuck
    exact stuck_never_halts stay distinct stuck j halts
  · intro free
    have lap : queue.length ≤ bound := by omega
    by_cases few : (queue.filter stay).length ≤ 1
    · rcases enough with longer | ⟨rfl,_⟩
      · exact ⟨queue.length,longer,halts_of_few stay queue few⟩
      · have alone : ∃ j < queue.length, Halts stay goal 0 ((serve stay)^[j] queue) :=
          halts_of_few_alone stay queue somebody few
        obtain ⟨j,early,halts⟩ := alone
        exact ⟨j,by omega,halts⟩
    · have reachable : ∃ j < queue.length, Halts stay goal others ((serve stay)^[j] queue) := by
        have comes : ¬ (goal ∉ queue ∨ queue.head? = some goal ∧ stay goal = false) := fun gone =>
          free ⟨by omega,gone⟩
        push Not at comes
        obtain ⟨inside,staying⟩ := comes
        cases queue with
        | nil => exact absurd rfl somebody
        | cons a rest =>
          rcases List.mem_cons.mp inside with rfl | waiting
          · obtain ⟨j,early,front⟩ := reaches_staying_head stay rest (by simpa using staying rfl)
            exact ⟨j,early,.inl front⟩
          · obtain ⟨j,early,front⟩ := reaches_waiting stay (a :: rest) waiting
            exact ⟨j,early,.inl front⟩
      obtain ⟨j,early,halts⟩ := reachable
      exact ⟨j,by omega,halts⟩

end Queue
end Clawchain.Lib.Rotation
