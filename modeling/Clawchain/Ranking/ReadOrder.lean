import Clawchain.Ranking.Standings
import Mathlib.Data.List.Dedup

/-! A finalization does not depend on the order in which its input is read: not
on that of the members alive, and not on the order in which a map is walked. -/
namespace Clawchain.Ranking
open Clawchain.Lib Clawchain.Lib.Format Clawchain.Lib.Fallible Clawchain.Lib.Sorting

/-- The orders in which the maps made on the way are walked. Those of the input are walked as they are listed. -/
structure Walk where
  (live registration members : OrdMap String Entry → List (String × Entry))
  groups : List FinalRankingRow → List String
  live_whole : ∀ decoded, (live decoded).Perm decoded.entries
  registration_whole : ∀ decoded, (registration decoded).Perm decoded.entries
  members_whole : ∀ decoded, (members decoded).Perm decoded.entries
  groups_whole : ∀ rows, (groups rows).Perm (rows.map FinalRankingRow.unit).dedup

def canonicalKeyValues (walked : List (String × Entry)) : List (String × Entry) :=
  sortBy (fun left right => decide (left.1 < right.1)) walked

def indexesOf (rows : List FinalRankingRow) (unit : String) : List Nat := (groupOf rows unit).map Prod.snd

def collapsed (reentryCount : Nat) (canonicalIndex : Option Nat) (index : Nat) (row : FinalRankingRow) : FinalRankingRow :=
  { row with
    reentryCount := reentryCount
    rankState :=
      if 1 < reentryCount ∧ some index ≠ canonicalIndex ∧ row.rankState = .ranked then .duplicateEntryCollapsed
      else row.rankState }

def collapseGroup (rows : List FinalRankingRow) (indexes : List Nat) : List FinalRankingRow :=
  let canonicalIndex := chooseCanonicalIndex (indexes.filterMap fun index => rows[index]?.map fun row => (row,index))
  indexes.foldl (fun rows index => rows.modify index (collapsed indexes.length canonicalIndex index)) rows

def collapseWalked (units : List String) (rows : List FinalRankingRow) : List FinalRankingRow :=
  (units.map (indexesOf rows)).foldl collapseGroup rows

section Walked

variable (go : Go) (walk : Walk)

def canonicalSnapshotWalked (snapshot : LiveSnapshot) (live registration : OrdMap String Entry) : CanonicalSnapshotPayload :=
  { canonicalSnapshot go snapshot live registration with
    userInfo := canonicalKeyValues (walk.live live)
    registration := canonicalKeyValues (walk.registration registration) }

def pendingWalked (sources : Sources) (seenMembers : List String) : List String :=
  sortBy (memberSortKeyLess go)
    (((walk.members sources.snapshots).map Prod.fst).filter fun memberID => memberID ∉ seenMembers)

def entrantRowsWalked (sources : Sources) (alive : List ZMember) (died : List String) :
    Except Refusal (List FinalRankingRow) := do
  let aliveRows := canonicalAliveRows go alive
  let loop ← died.foldlM (diedStep go sources)
    { ranks := ⟨alive.length,1,none,alive.length⟩
      rows := aliveRows.mapIdx (aliveRow go sources)
      seenMembers := (aliveRows.map fun alive => trimSpace alive.member).filter (· ≠ "") }
  return loop.rows ++ (pendingWalked go walk sources loop.seenMembers).map (pendingRow go sources)

namespace Finalizer

variable (finalizer : Finalizer)

def sourcesWalked (snapshot : LiveSnapshot) (registration : RegistrationSnapshot) : Except Refusal Sources := do
  validateTournament snapshot
  let sourceMTTID := if snapshot.sourceMTTID = "" then snapshot.tournamentID else snapshot.sourceMTTID
  let snapshot := { snapshot with sourceMTTID := sourceMTTID }
  finalizer.validateReadinessBarrier go snapshot
  let decodedLive ← decodeUserInfo go snapshot.userInfo
  let (decodedSnapshots,decodedRegistration) ← decodeRegistration go decodedLive registration.userInfo
  let digest ← hashSnapshot go (canonicalSnapshotWalked go walk snapshot decodedLive decodedRegistration)
  .ok
    { config :=
        { tournamentID := snapshot.tournamentID
          sourceMTTID := sourceMTTID
          snapshotID := Ranking.snapshotID snapshot.tournamentID digest
          snapshotHash := "sha256:" ++ digest
          policyBundleVersion := finalizer.policyBundleVersion
          fieldSizePolicy := finalizer.fieldSizePolicyText }
      snapshots := decodedSnapshots
      live := decodedLive }

def finalizeWalked (snapshot : LiveSnapshot) (registration : RegistrationSnapshot) : Except Refusal Finalization := do
  let sources ← finalizer.sourcesWalked go walk snapshot registration
  let entrants ← entrantRowsWalked go walk sources snapshot.alive snapshot.died
  let rows := sortFinalRows go (assignUniquePayoutRanks go (collapseWalked (walk.groups entrants) entrants))
  finalizer.validateFinalRows go rows
  let root ← hashRows go
    { tournamentID := snapshot.tournamentID
      sourceMTTID := sources.config.sourceMTTID
      policyBundleVersion := finalizer.policyBundleVersion
      rows := rows.map canonicalRow }
  .ok
    { tournamentID := snapshot.tournamentID
      sourceMTTID := sources.config.sourceMTTID
      snapshotID := sources.config.snapshotID
      snapshotHash := sources.config.snapshotHash
      root := root
      policyBundleVersion := finalizer.policyBundleVersion
      rows := rows }

end Finalizer

end Walked

/-! Sorting takes the order of a walk away. -/

theorem canonicalKeyValues_eq {walked : List (String × Entry)} {decoded : OrdMap String Entry}
    (whole : walked.Perm decoded.entries) : canonicalKeyValues walked = decoded.entries := by
  have sorted : (canonicalKeyValues walked).Pairwise fun a b => a.1 ≤ b.1 :=
    sortBy_pairwise Prod.fst fun a _ b _ => decide_eq_true_iff
  have perm : (canonicalKeyValues walked).Perm decoded.entries := (sortBy_perm _ walked).trans whole
  apply perm.eq_of_pairwise _ sorted (decoded.sorted.imp le_of_lt)
  intro a b first second below above
  have key : a.1 = b.1 := le_antisymm below above
  have left := OrdMap.get?_eq_some_iff.mpr (perm.mem_iff.mp first)
  have right := OrdMap.get?_eq_some_iff.mpr second
  rw [key,right] at left
  exact Prod.ext key (Option.some.inj left).symm

variable (go : Go)

theorem pendingWalked_eq (walk : Walk) (sources : Sources) (seenMembers : List String) :
    pendingWalked go walk sources seenMembers = pendingMemberIDs go sources seenMembers :=
  sortBy_eq_of_perm (memberSortKey go) (fun a _ b _ => memberSortKeyLess_iff go a b)
    (fun _ _ _ _ same => memberSortKey_injective go same) (((walk.members_whole sources.snapshots).map Prod.fst).filter _)

/-! Groups are collapsed one after the other, and no group touches the rows of another. -/

section Groups

variable {rows : List FinalRankingRow} {unit : String}

theorem mem_indexesOf {i : Nat} : i ∈ indexesOf rows unit ↔ ∃ row, rows[i]? = some row ∧ row.unit = unit := by
  unfold indexesOf groupOf
  simp [List.mem_zipIdx_iff_getElem?]

theorem indexesOf_nodup : (indexesOf rows unit).Nodup := by
  have all : (rows.zipIdx.map Prod.snd).Nodup := by
    rw [List.zipIdx_map_snd]
    exact List.nodup_range'
  exact all.sublist (List.filter_sublist.map Prod.snd)

theorem getElem?_collapseGroup {indexes : List Nat} (distinct : indexes.Nodup) (i : Nat) :
    (collapseGroup rows indexes)[i]? =
      if i ∈ indexes then
        rows[i]?.map (collapsed indexes.length
          (chooseCanonicalIndex (indexes.filterMap fun index => rows[index]?.map fun row => (row,index))) i)
      else rows[i]? :=
  getElem?_foldl_rewrite distinct _ rows i

theorem groupOf_read {now : List FinalRankingRow} (untouched : ∀ i ∈ indexesOf rows unit, now[i]? = rows[i]?) :
    ((indexesOf rows unit).filterMap fun index => now[index]?.map fun row => (row,index)) = groupOf rows unit := by
  have kept : ∀ place ∈ groupOf rows unit, (now[place.2]?.map fun row => (row,place.2)) = some place := by
    intro place member
    have found : rows[place.2]? = some place.1 := by
      have listed := (List.mem_filter.mp member).1
      rwa [List.mem_zipIdx_iff_getElem?] at listed
    rw [untouched place.2 (List.mem_map_of_mem member),found]
    rfl
  unfold indexesOf
  rw [List.filterMap_map]
  calc (groupOf rows unit).filterMap ((fun index => now[index]?.map fun row => (row,index)) ∘ Prod.snd)
      = (groupOf rows unit).filterMap some := List.filterMap_congr kept
    _ = groupOf rows unit := List.filterMap_some

theorem getElem?_collapseWalked {units : List String} (distinct : units.Nodup) (i : Nat) :
    (collapseWalked units rows)[i]? = rows[i]?.map fun row =>
      if row.unit ∈ units then
        collapsed (groupOf rows row.unit).length (chooseCanonicalIndex (groupOf rows row.unit)) i row
      else row := by
  induction units using List.reverseRecOn generalizing i with
  | nil => simp [collapseWalked]
  | append_singleton units unit ih =>
    obtain ⟨earlier,fresh⟩ : units.Nodup ∧ unit ∉ units := by
      rw [List.nodup_append] at distinct
      exact ⟨distinct.1,fun member => distinct.2.2 unit member unit List.mem_cons_self rfl⟩
    have stepped : collapseWalked (units ++ [unit]) rows = collapseGroup (collapseWalked units rows) (indexesOf rows unit) := by
      simp [collapseWalked]
    have untouched : ∀ i ∈ indexesOf rows unit, (collapseWalked units rows)[i]? = rows[i]? := by
      intro i member
      obtain ⟨row,found,same⟩ := mem_indexesOf.mp member
      rw [ih earlier,found,Option.map_some,if_neg (by rw [same]; exact fresh)]
    rw [stepped,getElem?_collapseGroup indexesOf_nodup,groupOf_read untouched]
    cases found : rows[i]? with
    | none =>
      have outside : i ∉ indexesOf rows unit := by
        intro member
        obtain ⟨row,there,-⟩ := mem_indexesOf.mp member
        rw [found] at there
        cases there
      rw [if_neg outside,ih earlier,found]
      rfl
    | some row =>
      by_cases here : row.unit = unit
      · have member : i ∈ indexesOf rows unit := mem_indexesOf.mpr ⟨row,found,here⟩
        rw [if_pos member,untouched i member,found,Option.map_some,Option.map_some,here]
        simp [indexesOf]
      · have outside : i ∉ indexesOf rows unit := by
          intro member
          obtain ⟨other,there,same⟩ := mem_indexesOf.mp member
          rw [found] at there
          cases there
          exact here same
        rw [if_neg outside,ih earlier,found]
        simp [here]

theorem collapseWalked_eq {units : List String} (whole : units.Perm (rows.map FinalRankingRow.unit).dedup) :
    collapseWalked units rows = collapseDuplicateEconomicUnits rows := by
  apply List.ext_getElem?
  intro i
  rw [getElem?_collapseWalked (whole.nodup_iff.mpr (List.nodup_dedup _)),getElem?_collapse]
  cases found : rows[i]? with
  | none => rfl
  | some row =>
    have member : row.unit ∈ units := by
      rw [whole.mem_iff,List.mem_dedup]
      exact List.mem_map_of_mem (List.mem_of_getElem? found)
    rw [Option.map_some,Option.map_some,if_pos member]
    rfl

end Groups

theorem canonicalSnapshotWalked_eq (walk : Walk) (snapshot : LiveSnapshot) (live registration : OrdMap String Entry) :
    canonicalSnapshotWalked go walk snapshot live registration = canonicalSnapshot go snapshot live registration := by
  unfold canonicalSnapshotWalked
  rw [canonicalKeyValues_eq (walk.live_whole live),canonicalKeyValues_eq (walk.registration_whole registration)]
  rfl

theorem finalizeWalked_eq (walk : Walk) (finalizer : Finalizer) (snapshot : LiveSnapshot) (registration : RegistrationSnapshot) :
    finalizer.finalizeWalked go walk snapshot registration = finalizer.finalizeWithRegistration go snapshot registration := by
  unfold Finalizer.finalizeWalked Finalizer.finalizeWithRegistration Finalizer.sourcesWalked Finalizer.sourcesOf
    entrantRowsWalked entrantRows Finalizer.finalRows
  simp only [canonicalSnapshotWalked_eq,pendingWalked_eq,collapseWalked_eq (walk.groups_whole _)]

/-! Reading the input in another order. -/

structure Apart (names : List String) : Prop where
  named : ∀ name ∈ names, trimSpace name ≠ ""
  distinct : (names.map trimSpace).Nodup

/-- The same snapshot, with its members alive and its map in another order. -/
structure LiveSnapshot.Reordered (snapshot next : LiveSnapshot) : Prop where
  alive : snapshot.alive.Perm next.alive
  userInfo : snapshot.userInfo.Perm next.userInfo
  rest : next = { snapshot with
    alive := next.alive
    userInfo := next.userInfo }

structure RegistrationSnapshot.Reordered (registration next : RegistrationSnapshot) : Prop where
  userInfo : registration.userInfo.Perm next.userInfo
  rest : next = { registration with userInfo := next.userInfo }

variable {userInfo : List (String × String)}

theorem Apart.normalized (apart : Apart (userInfo.map Prod.fst)) {user other : String × String}
    (first : user ∈ userInfo) (second : other ∈ userInfo) (differ : user ≠ other) (entry next : Entry) :
    normalizeMemberID go user.1 entry ≠ normalizeMemberID go other.1 next := by
  have named : ∀ user ∈ userInfo, ∀ entry, normalizeMemberID go user.1 entry = trimSpace user.1 := by
    intro user member entry
    exact if_pos (apart.named user.1 (List.mem_map_of_mem member))
  rw [named user first,named other second]
  intro same
  apply differ
  have distinct := apart.distinct
  rw [List.map_map] at distinct
  exact List.inj_on_of_nodup_map distinct first second same

theorem decodeUserInfo_perm {next : List (String × String)} (apart : Apart (userInfo.map Prod.fst))
    (perm : userInfo.Perm next) : (decodeUserInfo go userInfo).toOption = (decodeUserInfo go next).toOption := by
  apply toOption_foldlM_perm perm
  intro user first other second decoded
  by_cases same : user = other
  · rw [same]
  · cases left : decodeJSONObject go user.2 with
    | error cause => cases right : decodeJSONObject go other.2 <;> rfl
    | ok entry =>
      cases right : decodeJSONObject go other.2 with
      | error cause => rfl
      | ok next =>
        change some _ = some _
        rw [OrdMap.insert_comm decoded entry next (apart.normalized go first second same entry next)]

def register (decoded : OrdMap String Entry × OrdMap String Entry) (memberID : String) (entry : Entry) :
    OrdMap String Entry × OrdMap String Entry :=
  (decoded.1.insert memberID (match decoded.1.get? memberID with
    | some existing => mergeEntries entry existing
    | none => entry),decoded.2.insert memberID entry)

theorem register_comm (decoded : OrdMap String Entry × OrdMap String Entry) {memberID other : String} (entry next : Entry)
    (differ : memberID ≠ other) :
    register (register decoded memberID entry) other next = register (register decoded other next) memberID entry := by
  unfold register
  rw [OrdMap.get?_insert_of_ne decoded.1 _ differ.symm,OrdMap.get?_insert_of_ne decoded.1 _ differ]
  rw [OrdMap.insert_comm decoded.1 _ _ differ,OrdMap.insert_comm decoded.2 entry next differ]

theorem decodeRegistration_perm (live : OrdMap String Entry) {next : List (String × String)}
    (apart : Apart (userInfo.map Prod.fst)) (perm : userInfo.Perm next) :
    (decodeRegistration go live userInfo).toOption = (decodeRegistration go live next).toOption := by
  apply toOption_foldlM_perm perm
  intro user first other second decoded
  by_cases same : user = other
  · rw [same]
  · have differ (entry next : Entry) := apart.normalized go first second same entry next
    have named : ∀ user ∈ userInfo, ∀ entry, normalizeMemberID go user.1 entry ≠ "" := by
      intro user member entry
      unfold normalizeMemberID
      rw [if_pos (apart.named user.1 (List.mem_map_of_mem member))]
      exact apart.named user.1 (List.mem_map_of_mem member)
    cases left : decodeJSONObject go user.2 with
    | error cause =>
      cases right : decodeJSONObject go other.2 with
      | error other => rfl
      | ok next =>
        dsimp only
        rw [if_neg (named other second next)]
        rfl
    | ok entry =>
      cases right : decodeJSONObject go other.2 with
      | error cause =>
        dsimp only
        rw [if_neg (named user first entry)]
        rfl
      | ok next =>
        simp only [if_neg (named user first entry),if_neg (named other second next)]
        exact congrArg some (register_comm decoded entry next (differ entry next))

theorem canonicalAliveRows_eq {alive next : List ZMember} (finite : ∀ member ∈ alive, member.score.isFinite = true)
    (perm : alive.Perm next) : canonicalAliveRows go alive = canonicalAliveRows go next := by
  have sorted := canonicalAliveRows_pairwise go finite
  have sortedToo := canonicalAliveRows_pairwise go fun member inside => finite member (perm.mem_iff.mpr inside)
  have same := (canonicalAliveRows_perm go alive).trans (perm.trans (canonicalAliveRows_perm go next).symm)
  apply same.eq_of_pairwise _ sorted sortedToo
  intro a b first second below above
  have key : scoreKey go a = scoreKey go b := le_antisymm below above
  have finiteA := finite a ((canonicalAliveRows_perm go alive).mem_iff.mp first)
  have finiteB := finite b (perm.mem_iff.mpr ((canonicalAliveRows_perm go next).mem_iff.mp second))
  have names : a.member = b.member := memberSortKey_injective go (congrArg (fun key => (ofLex key).2) key)
  have scores : a.score.rat = b.score.rat := neg_inj.mp (congrArg (fun key => (ofLex key).1) key)
  cases a with
  | mk member score =>
    cases b with
    | mk other value =>
      cases score <;> cases value <;> simp_all [F64.isFinite,F64.rat]

section Reordered

variable {finalizer : Finalizer} {snapshot next : LiveSnapshot} {registration registered : RegistrationSnapshot}

theorem sourcesOf_reordered (reordered : snapshot.Reordered next) (reregistered : registration.Reordered registered)
    (apart : Apart (snapshot.userInfo.map Prod.fst)) (registeredApart : Apart (registration.userInfo.map Prod.fst))
    (finite : ∀ alive ∈ snapshot.alive, alive.score.isFinite = true) :
    (finalizer.sourcesOf go snapshot registration).toOption = (finalizer.sourcesOf go next registered).toOption := by
  have alive := canonicalAliveRows_eq go finite reordered.alive
  have live := decodeUserInfo_perm go apart reordered.userInfo
  have listed (decoded : OrdMap String Entry) := decodeRegistration_perm go decoded registeredApart reregistered.userInfo
  have rest := reordered.rest
  generalize next.alive = alive' at *
  generalize next.userInfo = userInfo' at *
  subst rest
  have payload (sourceMTTID : String) (live registration : OrdMap String Entry) :
      canonicalSnapshot go { snapshot with sourceMTTID := sourceMTTID } live registration =
        canonicalSnapshot go { snapshot with
          sourceMTTID := sourceMTTID
          alive := alive'
          userInfo := userInfo' } live registration := by
    unfold canonicalSnapshot
    simp only [alive]
  unfold Finalizer.sourcesOf
  simp only [toOption_bind]
  rw [live]
  simp only [listed,payload]
  rfl

theorem entrantRows_reordered (sources : Sources) {alive next : List ZMember} (perm : alive.Perm next)
    (finite : ∀ member ∈ alive, member.score.isFinite = true) (died : List String) :
    entrantRows go sources alive died = entrantRows go sources next died := by
  unfold entrantRows
  rw [canonicalAliveRows_eq go finite perm,perm.length_eq]

/-- One finalization for every order of the members alive, and for every order in which a map is walked. -/
theorem finalization_anyOrder (walk other : Walk) (reordered : snapshot.Reordered next)
    (reregistered : registration.Reordered registered) (apart : Apart (snapshot.userInfo.map Prod.fst))
    (registeredApart : Apart (registration.userInfo.map Prod.fst))
    (finite : ∀ alive ∈ snapshot.alive, alive.score.isFinite = true) :
    (finalizer.finalizeWalked go walk snapshot registration).toOption =
      (finalizer.finalizeWalked go other next registered).toOption := by
  rw [finalizeWalked_eq,finalizeWalked_eq]
  have sources : (finalizer.sourcesOf go snapshot registration).toOption = (finalizer.sourcesOf go next registered).toOption :=
    sourcesOf_reordered go reordered reregistered apart registeredApart finite
  have entrants (sources : Sources) (died : List String) :
      entrantRows go sources snapshot.alive died = entrantRows go sources next.alive died :=
    entrantRows_reordered go sources reordered.alive finite died
  have died : next.died = snapshot.died := by rw [reordered.rest]
  have tournamentID : next.tournamentID = snapshot.tournamentID := by rw [reordered.rest]
  unfold Finalizer.finalizeWithRegistration
  simp only [toOption_bind,sources,entrants,died,tournamentID]

end Reordered

def Walk.backwards : Walk where
  live decoded := decoded.entries.reverse
  registration decoded := decoded.entries.reverse
  members decoded := decoded.entries.reverse
  groups rows := (rows.map FinalRankingRow.unit).dedup.reverse
  live_whole _ := List.reverse_perm _
  registration_whole _ := List.reverse_perm _
  members_whole _ := List.reverse_perm _
  groups_whole _ := List.reverse_perm _

def Walk.forwards : Walk where
  live decoded := decoded.entries
  registration decoded := decoded.entries
  members decoded := decoded.entries
  groups rows := (rows.map FinalRankingRow.unit).dedup
  live_whole _ := List.Perm.refl _
  registration_whole _ := List.Perm.refl _
  members_whole _ := List.Perm.refl _
  groups_whole _ := List.Perm.refl _

def LiveSnapshot.backwards (snapshot : LiveSnapshot) : LiveSnapshot :=
  { snapshot with
    alive := snapshot.alive.reverse
    userInfo := snapshot.userInfo.reverse }

theorem LiveSnapshot.backwards_reordered (snapshot : LiveSnapshot) : snapshot.Reordered snapshot.backwards where
  alive := (List.reverse_perm _).symm
  userInfo := (List.reverse_perm _).symm
  rest := rfl

theorem finalization_anyOrder_backwards :
    (Finalizer.finalizeWalked minerGo Walk.forwards {} twoEntries {}).toOption =
      (Finalizer.finalizeWalked minerGo Walk.backwards {} twoEntries.backwards {}).toOption := by
  apply finalization_anyOrder minerGo Walk.forwards Walk.backwards twoEntries.backwards_reordered
  · exact ⟨List.Perm.refl _,rfl⟩
  · exact ⟨by decide +kernel,by decide +kernel⟩
  · exact ⟨by simp,by simp⟩
  · decide

end Clawchain.Ranking
