import Clawchain.Lib.Fallible
import Clawchain.Lib.Texts
import Mathlib.Data.List.Sort
import Mathlib.Tactic.Ring

/-! Reward rows in a payload and in the artifacts of its pages. The rows that are paged come back whatever the order of the
artifacts; a payload's root vouches for the rows that are read, as long as the payload has rows or names pages. -/
namespace Clawchain.Mining.Artifacts
open Clawchain.Lib
variable {Row Rest : Type}

structure PageRef where
  pageIndex : Int
  rowCount : Option Int
  pageRoot : Option String
  deriving DecidableEq, Repr

structure PagePayload (Row : Type) where
  pageIndex : Option Int := none
  rowCount : Option Int := none
  minerRewardRows : Option (List Row) := none
  pageRoot : Option String := none
  deriving DecidableEq

structure Artifact (Row : Type) where
  kind : Option String
  payloadJSON : Option (PagePayload Row)
  deriving DecidableEq

structure Payload (Rest Row : Type) where
  minerRewardRows : Option (List Row) := none
  minerRewardRowsRoot : Option String := none
  artifactPageCount : Option Nat := none
  artifactPages : Option (List PageRef) := none
  rest : Rest
  deriving DecidableEq

def Payload.rows (payload : Payload Rest Row) : List Row := payload.minerRewardRows.getD []

def Payload.pageRefs (payload : Payload Rest Row) : List PageRef := payload.artifactPages.getD []

section Build
variable (hash : List Row → String)

def pageAt (pageIndex : Nat) (rows : List Row) : PagePayload Row where
  pageIndex := some pageIndex
  rowCount := some rows.length
  minerRewardRows := some rows
  pageRoot := some (hash rows)

def pageRefAt (pageIndex : Nat) (rows : List Row) : PageRef := ⟨pageIndex,some rows.length,some (hash rows)⟩

def pageSlices (pageSize : Nat) (rows : List Row) : List (List Row) :=
  (List.range ((rows.length + pageSize - 1) / pageSize)).map fun i => (rows.drop (i * pageSize)).take pageSize

def buildPagedPokerMttProjectionPayload (pageSize : Int) (payload : Payload Rest Row) :
    Except String (Payload Rest Row × List (PagePayload Row)) :=
  let rooted := { payload with minerRewardRowsRoot := some (hash payload.rows) }
  if pageSize ≤ 0 then .error "page_size must be positive"
  else if payload.rows.length ≤ pageSize then .ok ({ rooted with artifactPageCount := some 1 },[])
  else
    let slices := pageSlices pageSize.toNat payload.rows
    .ok
      ({ rooted with
          minerRewardRows := none
          artifactPageCount := some slices.length
          artifactPages := some (slices.mapIdx (pageRefAt hash)) },
        slices.mapIdx (pageAt hash))

variable (pageKind subject : String)

def pagesOf (artifacts : List (Artifact Row)) : List (PagePayload Row) :=
  (artifacts.filter (·.kind = some pageKind)).map fun artifact => artifact.payloadJSON.getD {}

def pageByIndex (artifacts : List (Artifact Row)) (pageIndex : Int) : Option (PagePayload Row) :=
  ((pagesOf pageKind artifacts).filter (·.pageIndex = some pageIndex)).getLast?

def resolvePage (artifacts : List (Artifact Row)) (ref : PageRef) : Except String (List Row) :=
  match pageByIndex pageKind artifacts ref.pageIndex with
  | none => .error (subject ++ " page artifact missing")
  | some page =>
    let rows := page.minerRewardRows.getD []
    if some (hash rows) ≠ ref.pageRoot ∨ some (hash rows) ≠ page.pageRoot then .error (subject ++ " page root mismatch")
    else if (rows.length : Int) ≠ ref.rowCount.getD 0 then .error (subject ++ " page row count mismatch")
    else .ok rows

def checkRoot (expectedRoot : Option String) (rows : List Row) : Except String (List Row) :=
  if expectedRoot.any fun root => root ≠ "" && hash rows ≠ root then .error (subject ++ " miner reward rows root mismatch")
  else .ok rows

def resolveMinerRewardRowsFromArtifacts (payload : Payload Rest Row) (artifacts : List (Artifact Row)) :
    Except String (List Row) :=
  if payload.rows ≠ [] then checkRoot hash subject payload.minerRewardRowsRoot payload.rows
  else if payload.pageRefs = [] then .ok []
  else do
    let slices ← (payload.pageRefs.insertionSort fun a b => a.pageIndex ≤ b.pageIndex).mapM
      (resolvePage hash pageKind subject artifacts)
    checkRoot hash subject payload.minerRewardRowsRoot slices.flatten

def resolvePokerMttProjectionRewardRows (payload : Payload Rest Row) (artifacts : List (Artifact Row)) :
    Except String (List Row) :=
  resolveMinerRewardRowsFromArtifacts hash "poker_mtt_reward_window_projection_page" "poker mtt projection" payload artifacts

end Build

theorem range_slices_flatten (size n : Nat) (rows : List Row) :
    ((List.range n).map fun i => (rows.drop (i * size)).take size).flatten = rows.take (n * size) := by
  induction n with
  | zero => simp
  | succ n ih => rw [List.range_succ,List.map_append,List.flatten_append,ih,Nat.succ_mul,List.take_add]; simp

theorem pageSlices_flatten {pageSize : Nat} (positive : 0 < pageSize) (rows : List Row) :
    (pageSlices pageSize rows).flatten = rows := by
  rw [pageSlices,range_slices_flatten]
  apply List.take_of_length_le
  have whole := Nat.lt_div_mul_add (a := rows.length + pageSize - 1) positive
  omega

theorem getLast?_of_all {α : Type} {l : List α} {a : α} (inside : a ∈ l) (all : ∀ b ∈ l, b = a) : l.getLast? = some a := by
  cases last : l.getLast? with
  | none =>
    rw [List.getLast?_eq_none_iff.mp last] at inside
    cases inside
  | some b => rw [all b (List.mem_of_getLast? last)]

section Resolve
variable {hash : List Row → String} {pageKind subject : String}
variable {artifacts : List (Artifact Row)} {slices : List (List Row)} {rows : List Row} {payload : Payload Rest Row}

theorem pageByIndex_eq (pages : (pagesOf pageKind artifacts).Perm (slices.mapIdx (pageAt hash))) {i : Nat}
    (here : slices[i]? = some rows) : pageByIndex pageKind artifacts i = some (pageAt hash i rows) := by
  have page {other : PagePayload Row} : other ∈ pagesOf pageKind artifacts ↔
      ∃ j rows, slices[j]? = some rows ∧ other = pageAt hash j rows := by
    rw [pages.mem_iff,List.mem_mapIdx]
    constructor
    · rintro ⟨j,bound,rfl⟩
      exact ⟨j,_,List.getElem?_eq_getElem bound,rfl⟩
    · rintro ⟨j,rows,placed,rfl⟩
      obtain ⟨bound,rfl⟩ := List.getElem?_eq_some_iff.mp placed
      exact ⟨j,bound,rfl⟩
  apply getLast?_of_all
  · exact List.mem_filter.mpr ⟨page.mpr ⟨i,rows,here,rfl⟩,by simp [pageAt]⟩
  · intro other inside
    obtain ⟨listed,same⟩ := List.mem_filter.mp inside
    obtain ⟨j,rows',placed,rfl⟩ := page.mp listed
    obtain rfl : j = i := by simpa [pageAt] using same
    rw [here] at placed
    rw [Option.some.inj placed]

theorem resolvePage_eq (pages : (pagesOf pageKind artifacts).Perm (slices.mapIdx (pageAt hash))) {i : Nat}
    (here : slices[i]? = some rows) : resolvePage hash pageKind subject artifacts (pageRefAt hash i rows) = .ok rows := by
  unfold resolvePage
  rw [show (pageRefAt hash i rows).pageIndex = (i : Int) from rfl,pageByIndex_eq pages here]
  simp [pageAt,pageRefAt]

theorem pageRefs_sorted (slices : List (List Row)) :
    (slices.mapIdx (pageRefAt hash)).insertionSort (fun a b => a.pageIndex ≤ b.pageIndex) = slices.mapIdx (pageRefAt hash) := by
  apply List.Pairwise.insertionSort_eq
  rw [List.pairwise_iff_getElem]
  intro i j first second before
  simp only [List.getElem_mapIdx,pageRefAt]
  omega

theorem resolvePages_eq (pages : (pagesOf pageKind artifacts).Perm (slices.mapIdx (pageAt hash))) :
    (slices.mapIdx (pageRefAt hash)).mapM (resolvePage hash pageKind subject artifacts) = .ok slices := by
  apply Fallible.mapM_forall₂
  rw [List.forall₂_iff_get]
  refine ⟨List.length_mapIdx,fun i first second => ?_⟩
  rw [List.get_eq_getElem,List.get_eq_getElem,List.getElem_mapIdx]
  exact resolvePage_eq pages (List.getElem?_eq_getElem second)

theorem checkRoot_own (rows : List Row) : checkRoot hash subject (some (hash rows)) rows = .ok rows := by
  simp [checkRoot]

theorem checkRoot_ok {root : String} (given_ : root ≠ "") {read : List Row}
    (checked : checkRoot hash subject (some root) rows = .ok read) : hash read = root := by
  unfold checkRoot at checked
  split_ifs at checked with differ
  cases checked
  simpa [given_] using differ

theorem resolve_split {pageSize : Nat} (positive : 0 < pageSize) (long : pageSize < payload.rows.length)
    (pages : (pagesOf pageKind artifacts).Perm ((pageSlices pageSize payload.rows).mapIdx (pageAt hash)))
    {paged : Payload Rest Row} (inlined : paged.minerRewardRows = none)
    (rooted : paged.minerRewardRowsRoot = some (hash payload.rows))
    (refs : paged.artifactPages = some ((pageSlices pageSize payload.rows).mapIdx (pageRefAt hash))) :
    resolveMinerRewardRowsFromArtifacts hash pageKind subject paged artifacts = .ok payload.rows := by
  have whole := pageSlices_flatten positive payload.rows
  have empty : paged.rows = [] := by rw [Payload.rows,inlined,Option.getD_none]
  have listed : paged.pageRefs = (pageSlices pageSize payload.rows).mapIdx (pageRefAt hash) := by
    rw [Payload.pageRefs,refs,Option.getD_some]
  have some_ : paged.pageRefs ≠ [] := by
    intro none_
    rw [listed,List.mapIdx_eq_nil_iff] at none_
    rw [← whole,none_] at long
    exact absurd long (Nat.not_lt_zero _)
  unfold resolveMinerRewardRowsFromArtifacts
  rw [if_neg (not_not.mpr empty),if_neg some_,listed,pageRefs_sorted,resolvePages_eq pages,rooted]
  change checkRoot hash subject (some (hash payload.rows)) (pageSlices pageSize payload.rows).flatten = _
  rw [whole,checkRoot_own]

theorem resolve_missing (empty : payload.rows = []) (refs : payload.pageRefs ≠ [])
    (none_ : pagesOf pageKind artifacts = []) (rows : List Row) :
    resolveMinerRewardRowsFromArtifacts hash pageKind subject payload artifacts ≠ .ok rows := by
  unfold resolveMinerRewardRowsFromArtifacts
  rw [if_neg (not_not.mpr empty),if_neg refs]
  cases sorted : payload.pageRefs.insertionSort fun a b => a.pageIndex ≤ b.pageIndex with
  | nil =>
    have perm := List.perm_insertionSort (fun a b : PageRef => a.pageIndex ≤ b.pageIndex) payload.pageRefs
    rw [sorted] at perm
    exact absurd perm.symm.eq_nil refs
  | cons ref rest =>
    have missing : resolvePage hash pageKind subject artifacts ref = .error (subject ++ " page artifact missing") := by
      simp [resolvePage,pageByIndex,none_]
    rw [List.mapM_cons,missing]
    intro done
    cases done

theorem build_resolves {pageSize : Int} (positive : 1 ≤ pageSize) (payload : Payload Rest Row) :
    ∃ paged pages, buildPagedPokerMttProjectionPayload hash pageSize payload = .ok (paged,pages) ∧
      ∀ artifacts, (pagesOf pageKind artifacts).Perm pages →
        (resolveMinerRewardRowsFromArtifacts hash pageKind subject paged artifacts = .ok payload.rows ↔
          payload.rows ≠ [] ∨ payload.pageRefs = []) := by
  unfold buildPagedPokerMttProjectionPayload
  dsimp only
  rw [if_neg (by omega)]
  split_ifs with fits
  · refine ⟨_,_,rfl,fun artifacts pages => ?_⟩
    by_cases empty : payload.rows = []
    · by_cases refs : payload.pageRefs = []
      · refine iff_of_true ?_ (.inr refs)
        unfold resolveMinerRewardRowsFromArtifacts
        exact (if_neg (not_not.mpr empty)).trans ((if_pos refs).trans (congrArg Except.ok empty.symm))
      · refine iff_of_false ?_ fun either => either.elim (absurd empty) refs
        exact resolve_missing (by exact empty) (by exact refs) pages.eq_nil _
    · refine iff_of_true ?_ (.inl empty)
      unfold resolveMinerRewardRowsFromArtifacts
      exact (if_pos empty).trans (checkRoot_own payload.rows)
  · refine ⟨_,_,rfl,fun artifacts pages => iff_of_true ?_ (.inl fun empty => ?_)⟩
    · exact resolve_split (by omega) (by omega) pages rfl rfl rfl
    · rw [empty] at fits
      simp at fits
      omega

theorem resolve_rooted {root : String} (rooted : payload.minerRewardRowsRoot = some root) (given_ : root ≠ "")
    (artifacts : List (Artifact Row)) :
    (∀ rows, resolveMinerRewardRowsFromArtifacts hash pageKind subject payload artifacts = .ok rows → hash rows = root) ↔
      payload.rows ≠ [] ∨ payload.pageRefs ≠ [] ∨ hash [] = root := by
  unfold resolveMinerRewardRowsFromArtifacts
  rw [rooted]
  split_ifs with inlined refs
  · exact iff_of_true (fun rows => checkRoot_ok given_) (.inl inlined)
  · rw [not_not] at inlined
    simp only [inlined,refs,ne_eq,not_true_eq_false,false_or]
    constructor
    · intro same
      exact same [] rfl
    · intro same rows read
      cases read
      exact same
  · refine iff_of_true (fun rows done => ?_) (.inr (.inl refs))
    obtain ⟨slices,-,checked⟩ := Fallible.bind_ok done
    exact checkRoot_ok given_ checked

/-- A payload whose rows are paged gives them back in any order of the pages, unless it has no rows but still names pages;
rows that are read have the payload's root, unless it has neither rows nor pages. -/
theorem pages_faithful (hash : List Row → String) (pageKind subject : String) (payload : Payload Rest Row) :
    (∀ pageSize : Int, 1 ≤ pageSize → ∃ paged pages,
      buildPagedPokerMttProjectionPayload hash pageSize payload = .ok (paged,pages) ∧
        ∀ artifacts, (pagesOf pageKind artifacts).Perm pages →
          (resolveMinerRewardRowsFromArtifacts hash pageKind subject paged artifacts = .ok payload.rows ↔
            payload.rows ≠ [] ∨ payload.pageRefs = [])) ∧
    ∀ root, payload.minerRewardRowsRoot = some root → root ≠ "" → ∀ artifacts,
      ((∀ rows, resolveMinerRewardRowsFromArtifacts hash pageKind subject payload artifacts = .ok rows → hash rows = root) ↔
        payload.rows ≠ [] ∨ payload.pageRefs ≠ [] ∨ hash [] = root) :=
  ⟨fun _ positive => build_resolves positive payload,fun _ rooted given_ => resolve_rooted rooted given_⟩

end Resolve

def plainRoot (rows : List Nat) : String := toString rows

def hollow : Payload Unit Nat := { minerRewardRowsRoot := some (plainRoot [7]), rest := () }

theorem hollow_root_unchecked :
    resolvePokerMttProjectionRewardRows plainRoot hollow [] = .ok [] ∧ hollow.minerRewardRowsRoot = some (plainRoot [7]) ∧
      plainRoot [] ≠ plainRoot [7] := by
  decide +kernel

end Clawchain.Mining.Artifacts
