import Mathlib.Data.List.Dedup
import Mathlib.Data.List.Induction
import Mathlib.Data.List.Perm.Basic
import Mathlib.Tactic.Push

/-! A list cut into groups by a key, and put together from blocks of one key each. -/
namespace Clawchain.Lib.Groups
variable {α κ : Type} [DecidableEq κ] (key : α → κ)

def group (l : List α) (k : κ) : List α := l.filter fun a => key a = k

def keysOf (l : List α) : List κ := (l.map key).dedup

variable {l : List α}

theorem mem_keysOf {k : κ} : k ∈ keysOf key l ↔ ∃ a ∈ l, key a = k := by
  simp [keysOf]

theorem keysOf_nodup (l : List α) : (keysOf key l).Nodup := List.nodup_dedup _

theorem keysOf_perm {m : List α} (same : l.Perm m) : (keysOf key l).Perm (keysOf key m) :=
  (same.map key).dedup

theorem group_perm {m : List α} (same : l.Perm m) (k : κ) : (group key l k).Perm (group key m k) := same.filter _

theorem flatMap_group_filter {ks : List κ} (distinct : ks.Nodup) (l : List α) :
    (ks.flatMap (group key l)).Perm (l.filter fun a => key a ∈ ks) := by
  induction ks with
  | nil => simp
  | cons k rest ih =>
    obtain ⟨absent,tail⟩ := List.nodup_cons.mp distinct
    have first : (l.filter fun a => key a ∈ k :: rest).filter (fun a => key a = k) = group key l k := by
      rw [List.filter_filter]
      apply List.filter_congr
      intro a _
      by_cases own : key a = k <;> simp [own]
    have others : ((l.filter fun a => key a ∈ k :: rest).filter fun a => !decide (key a = k)) =
        l.filter fun a => key a ∈ rest := by
      rw [List.filter_filter]
      apply List.filter_congr
      intro a _
      by_cases own : key a = k
      · simp [own,absent]
      · simp [own]
    have whole := List.filter_append_perm (fun a => decide (key a = k)) (l.filter fun a => key a ∈ k :: rest)
    rw [first,others] at whole
    rw [List.flatMap_cons]
    exact ((ih tail).append_left _).trans whole

theorem flatMap_group_perm {ks : List κ} (distinct : ks.Nodup) (covers : ∀ a ∈ l, key a ∈ ks) :
    (ks.flatMap (group key l)).Perm l := by
  have same : (l.filter fun a => key a ∈ ks) = l := List.filter_eq_self.mpr fun a inside => by simpa using covers a inside
  rw [← same]
  conv_lhs => rw [same]
  exact flatMap_group_filter key distinct l

theorem group_flatMap {blocks : List (κ × List α)} (distinct : (blocks.map Prod.fst).Nodup)
    (own : ∀ block ∈ blocks, ∀ a ∈ block.2, key a = block.1) {block : κ × List α} (inside : block ∈ blocks) :
    group key (blocks.flatMap Prod.snd) block.1 = block.2 := by
  induction blocks with
  | nil => cases inside
  | cons head rest ih =>
    rw [List.map_cons,List.nodup_cons] at distinct
    have whole {other : κ × List α} (member : other ∈ head :: rest) : group key other.2 other.1 = other.2 :=
      List.filter_eq_self.mpr fun a held => by simpa using own other member a held
    have none_ {other : κ × List α} {k : κ} (member : other ∈ head :: rest) (differ : other.1 ≠ k) :
        group key other.2 k = [] := by
      apply List.filter_eq_nil_iff.mpr
      intro a held
      simpa [own other member a held] using differ
    have split : group key ((head :: rest).flatMap Prod.snd) block.1 =
        group key head.2 block.1 ++ group key (rest.flatMap Prod.snd) block.1 := by
      simp [group,List.flatMap_cons]
    rw [split]
    rcases List.mem_cons.mp inside with rfl | later
    · have others : group key (rest.flatMap Prod.snd) block.1 = [] := by
        apply List.filter_eq_nil_iff.mpr
        intro a held
        obtain ⟨other,member,inner⟩ := List.mem_flatMap.mp held
        have differ : other.1 ≠ block.1 := fun same => distinct.1 (same ▸ List.mem_map_of_mem member)
        simpa [own other (List.mem_cons_of_mem _ member) a inner] using differ
      rw [whole inside,others,List.append_nil]
    · have differ : head.1 ≠ block.1 := fun same => distinct.1 (same ▸ List.mem_map_of_mem later)
      rw [none_ List.mem_cons_self differ,List.nil_append]
      exact ih distinct.2 (fun other member => own other (List.mem_cons_of_mem _ member)) later

theorem keysOf_flatMap (blocks : List (κ × List α)) (distinct : (blocks.map Prod.fst).Nodup)
    (own : ∀ block ∈ blocks, ∀ a ∈ block.2, key a = block.1) (filled : ∀ block ∈ blocks, block.2 ≠ []) :
    (keysOf key (blocks.flatMap Prod.snd)).Perm (blocks.map Prod.fst) := by
  refine (List.perm_ext_iff_of_nodup (keysOf_nodup key _) distinct).mpr fun k => ?_
  rw [mem_keysOf]
  constructor
  · rintro ⟨a,held,rfl⟩
    obtain ⟨block,member,inner⟩ := List.mem_flatMap.mp held
    rw [own block member a inner]
    exact List.mem_map_of_mem member
  · intro listed
    obtain ⟨block,member,rfl⟩ := List.mem_map.mp listed
    obtain ⟨a,rest,shape⟩ := List.exists_cons_of_ne_nil (filled block member)
    have inner : a ∈ block.2 := by simp [shape]
    exact ⟨a,List.mem_flatMap.mpr ⟨block,member,inner⟩,own block member a inner⟩

/-! Lists that are kept by key, in the order in which the keys are first seen. -/
section Gather
variable {κ ν : Type} [DecidableEq κ]
variable {k : κ}

def appendTo (k : κ) (v : ν) : List (κ × List ν) → List (κ × List ν)
  | [] => [(k,[v])]
  | entry :: rest => if entry.1 = k then (k,entry.2 ++ [v]) :: rest else entry :: appendTo k v rest

def gather (pairs : List (κ × ν)) : List (κ × List ν) := pairs.foldl (fun held pair => appendTo pair.1 pair.2 held) []

theorem appendTo_keys (k : κ) (v : ν) (held : List (κ × List ν)) :
    (appendTo k v held).map Prod.fst = if k ∈ held.map Prod.fst then held.map Prod.fst else held.map Prod.fst ++ [k] := by
  induction held with
  | nil => simp [appendTo]
  | cons entry rest ih =>
    by_cases own : entry.1 = k
    · simp [appendTo,own]
    · have here : k ∈ (entry :: rest).map Prod.fst ↔ k ∈ rest.map Prod.fst := by
        rw [List.map_cons,List.mem_cons]
        exact or_iff_right (Ne.symm own)
      rw [appendTo,if_neg own,List.map_cons,ih]
      by_cases later : k ∈ rest.map Prod.fst
      · rw [if_pos later,if_pos (here.mpr later),List.map_cons]
      · rw [if_neg later,if_neg fun known => later (here.mp known),List.map_cons,List.cons_append]

theorem lookup_cons_of_ne {β : Type} {j : κ} {entry : κ × β} (other : j ≠ entry.1) (rest : List (κ × β)) :
    (entry :: rest).lookup j = rest.lookup j := by
  have different : (j == entry.1) = false := by simpa using other
  rw [List.lookup_cons,different]

theorem lookup_appendTo (k : κ) (v : ν) (held : List (κ × List ν)) (j : κ) :
    ((appendTo k v held).lookup j).getD [] = if j = k then (held.lookup j).getD [] ++ [v] else (held.lookup j).getD [] := by
  induction held with
  | nil =>
    by_cases same : j = k
    · simp [appendTo,same]
    · rw [appendTo,lookup_cons_of_ne same,if_neg same]
  | cons entry rest ih =>
    obtain ⟨first,values⟩ := entry
    by_cases own : first = k
    · subst own
      by_cases same : j = first
      · simp [appendTo,same]
      · rw [appendTo,if_pos rfl,if_neg same,lookup_cons_of_ne same,lookup_cons_of_ne same]
    · rw [appendTo,if_neg own]
      by_cases same : j = first
      · subst same
        simp [own]
      · rw [lookup_cons_of_ne same,lookup_cons_of_ne same]
        exact ih

theorem gather_concat (pairs : List (κ × ν)) (pair : κ × ν) :
    gather (pairs ++ [pair]) = appendTo pair.1 pair.2 (gather pairs) := by
  simp [gather]

theorem gather_keys_nodup (pairs : List (κ × ν)) : ((gather pairs).map Prod.fst).Nodup := by
  induction pairs using List.reverseRecOn with
  | nil => exact List.nodup_nil
  | append_singleton pairs pair ih =>
    rw [gather_concat,appendTo_keys]
    split_ifs with known
    · exact ih
    · exact List.Nodup.append ih (List.nodup_singleton _) (by simpa using known)

theorem mem_gather_keys {pairs : List (κ × ν)} : k ∈ (gather pairs).map Prod.fst ↔ k ∈ pairs.map Prod.fst := by
  induction pairs using List.reverseRecOn with
  | nil => rfl
  | append_singleton pairs pair ih =>
    rw [gather_concat,appendTo_keys,List.map_append,List.mem_append,List.map_singleton,List.mem_singleton,← ih]
    split_ifs with known
    · exact ⟨.inl,fun either => either.elim id fun same => same ▸ known⟩
    · rw [List.mem_append,List.mem_singleton]

theorem lookup_gather (pairs : List (κ × ν)) (k : κ) :
    ((gather pairs).lookup k).getD [] = (pairs.filter (·.1 = k)).map Prod.snd := by
  induction pairs using List.reverseRecOn with
  | nil => rfl
  | append_singleton pairs pair ih =>
    rw [gather_concat,lookup_appendTo,List.filter_append,List.map_append,ih]
    by_cases same : k = pair.1
    · simp [same]
    · simp [same,Ne.symm same]

theorem lookup_of_entry {held : List (κ × List ν)} (distinct : (held.map Prod.fst).Nodup) {values : List ν}
    (entry : (k,values) ∈ held) : held.lookup k = some values := by
  induction held with
  | nil => cases entry
  | cons first rest ih =>
    obtain ⟨fresh,distinct⟩ := List.nodup_cons.mp distinct
    rcases List.mem_cons.mp entry with rfl | later
    · simp
    · have other : k ≠ first.1 := by
        rintro rfl
        exact fresh (List.mem_map.mpr ⟨_,later,rfl⟩)
      rw [lookup_cons_of_ne other]
      exact ih distinct later

theorem mem_gather {pairs : List (κ × ν)} {values : List ν} :
    (k,values) ∈ gather pairs ↔ k ∈ pairs.map Prod.fst ∧ values = (pairs.filter (·.1 = k)).map Prod.snd := by
  constructor
  · intro entry
    refine ⟨mem_gather_keys.mp (List.mem_map.mpr ⟨_,entry,rfl⟩),?_⟩
    rw [← lookup_gather,lookup_of_entry (gather_keys_nodup pairs) entry]
    rfl
  · rintro ⟨listed,rfl⟩
    obtain ⟨⟨_,values⟩,entry,rfl⟩ := List.mem_map.mp (mem_gather_keys.mpr listed)
    have same := lookup_gather pairs
    rw [← lookup_gather,lookup_of_entry (gather_keys_nodup pairs) entry]
    exact entry

end Gather
end Clawchain.Lib.Groups
