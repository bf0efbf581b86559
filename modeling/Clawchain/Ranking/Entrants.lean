import Clawchain.Ranking.Standings
import Mathlib.Data.List.Perm.Lattice

/-! Every entrant gets one row: members are named by the key of a snapshot, by
their place among those alive or by a died entry, and an entry that names no
member gets an id that is built from what it has. -/
namespace Clawchain.Ranking
open Clawchain.Lib Clawchain.Lib.Fallible Clawchain.Lib.Format Clawchain.Lib.Sorting

variable (go : Go)

/-- The id of an entry that names no member: its user, under any of the spellings, and its entry number or 0. -/
def builtID (entry : Entry) : String :=
  memberIDOf (normalizeString go (.text (firstString go
      [entry.field "userID",entry.field "userId",entry.field "sourceUserID"])))
    (some ((toInt go (entry.field "entryNumber")).getD 0))

def diedEntries (died : List String) : List Entry := died.filterMap fun raw => (decodeJSONObject go raw).toOption

def diedNamed (died : List String) : List String := ((diedEntries go died).map (diedMember go)).filter (· ≠ "")

def diedBuilt (sources : Sources) (died : List String) : List String :=
  ((diedEntries go died).filter fun entry => diedMember go entry = "").map fun entry =>
    builtID go (mergeEntries (sources.entry "") entry)

def builtIDs (sources : Sources) (died : List String) : List String :=
  diedBuilt go sources died ++ if "" ∈ sources.snapshots.keys then [builtID go (sources.entry "")] else []

def Named (sources : Sources) (snapshot : LiveSnapshot) (memberID : String) : Prop :=
  (∃ alive ∈ snapshot.alive, trimSpace alive.member = memberID) ∨ memberID ∈ diedNamed go snapshot.died ∨
    memberID ≠ "" ∧ memberID ∈ sources.snapshots.keys

/-- No id that is built is built twice, or is the name of a member. -/
def BuiltApart (sources : Sources) (snapshot : LiveSnapshot) : Prop :=
  (builtIDs go sources snapshot.died).Nodup ∧
    ∀ memberID ∈ builtIDs go sources snapshot.died, ¬Named go sources snapshot memberID

/-- Every entrant has a row, and one that is alive has it as alive. -/
structure OneRowEach (snapshot : LiveSnapshot) (registration : RegistrationSnapshot) (rows : List FinalRankingRow) :
    Prop where
  distinct : (rows.map fun row => row.id).Nodup
  live : ∀ user ∈ snapshot.userInfo, ∀ entry, decodeJSONObject go user.2 = .ok entry →
    normalizeMemberID go user.1 entry ≠ "" → ∃ row ∈ rows, row.memberID = normalizeMemberID go user.1 entry
  registered : ∀ user ∈ registration.userInfo, ∀ entry, decodeJSONObject go user.2 = .ok entry →
    ∃ row ∈ rows, row.memberID = normalizeMemberID go user.1 entry
  alive : ∀ member ∈ snapshot.alive, ∃ row ∈ rows, row.memberID = trimSpace member.member ∧ row.status = .alive
  died : ∀ raw ∈ snapshot.died, ∀ entry, decodeJSONObject go raw = .ok entry → diedMember go entry ≠ "" →
    ∃ row ∈ rows, row.memberID = diedMember go entry
  onlyAlive : ∀ member ∈ snapshot.alive, ∀ row ∈ rows, row.memberID = trimSpace member.member → row.status = .alive

theorem memberIDOf_blank (userID : String) (entryNumber : Option Int) :
    trimSpace (memberIDOf userID entryNumber) = "" ↔ memberIDOf userID entryNumber = "" := by
  constructor
  · intro blank
    unfold memberIDOf at blank ⊢
    cases entryNumber with
    | none => rfl
    | some number =>
      by_cases unnamed : userID = ""
      · exact if_pos unnamed
      · simp only [if_neg unnamed] at blank
        have spaces := trimSpace_eq_empty_iff.mp blank ':' (by simp [String.toList_append])
        exact absurd spaces (by decide)
  · intro empty
    rw [empty]
    rfl

theorem normalizeMemberID_blank (memberID : String) (entry : Entry) :
    trimSpace (normalizeMemberID go memberID entry) = "" ↔ normalizeMemberID go memberID entry = "" := by
  unfold normalizeMemberID
  by_cases blank : trimSpace memberID = ""
  · simp only [ne_eq,blank,not_true_eq_false,if_false]
    exact memberIDOf_blank _ _
  · simp only [ne_eq,blank,not_false_eq_true,if_true]
    rw [trimSpace_trimSpace_eq_empty_iff]
    exact iff_of_false blank id

theorem rowIdentity_named (entry : Entry) {memberID : String} (named : trimSpace memberID ≠ "") :
    (rowIdentity go entry memberID).memberID = memberID := if_neg named

theorem rowIdentity_built (entry : Entry) : (rowIdentity go entry "").memberID = builtID go entry := by
  have parsed : parseMemberID go "" = ("",none) := by
    simp [parseMemberID,normalizeString,sprint,trimSpace]
  have blank : trimSpace "" = "" := rfl
  have user (named : String) : (if named = "" then "" else named) = named := by
    split
    · exact Eq.symm ‹_›
    · rfl
  unfold rowIdentity builtID
  dsimp only
  rw [parsed,if_pos blank,user,Option.or_none]

theorem rowID_injective {tournamentID a b : String} (same : rowID tournamentID a = rowID tournamentID b) : a = b :=
  String.append_right_inj _ |>.mp same

def Trimmed (snapshots : OrdMap String Entry) : Prop := ∀ memberID ∈ snapshots.keys, trimSpace memberID = "" → memberID = ""

theorem Trimmed.insert {snapshots : OrdMap String Entry} (trimmed : Trimmed snapshots) (memberID : String)
    (entry decoded : Entry) : Trimmed (snapshots.insert (normalizeMemberID go memberID entry) decoded) := by
  intro key member blank
  rcases OrdMap.mem_keys_insert.mp member with rfl | old
  · exact (normalizeMemberID_blank go memberID entry).mp blank
  · exact trimmed key old blank

theorem decodeUserInfo_keys {userInfo : List (String × String)} {decoded : OrdMap String Entry}
    (done : decodeUserInfo go userInfo = .ok decoded) :
    Trimmed decoded ∧ ∀ user ∈ userInfo, ∀ entry, decodeJSONObject go user.2 = .ok entry →
      normalizeMemberID go user.1 entry ∈ decoded.keys := by
  refine foldlM_ok (fun gone (decoded : OrdMap String Entry) => Trimmed decoded ∧
    ∀ user ∈ gone, ∀ entry, decodeJSONObject go user.2 = .ok entry →
      normalizeMemberID go user.1 entry ∈ decoded.keys) ?_ ?_ done
  · intro gone user before after kept stepped
    cases read : decodeJSONObject go user.2 with
    | error cause =>
      rw [read] at stepped
      cases stepped
    | ok entry =>
      rw [read] at stepped
      cases stepped
      refine ⟨kept.1.insert go user.1 entry entry,?_⟩
      intro other member found same
      rw [OrdMap.mem_keys_insert]
      rcases List.mem_append.mp member with old | new
      · exact .inr (kept.2 other old found same)
      · cases List.mem_singleton.mp new
        cases read.symm.trans same
        exact .inl rfl
  · exact ⟨fun _ member => (by cases member),fun _ member => (by cases member)⟩

theorem decodeRegistration_keys {live snapshots registered : OrdMap String Entry} {userInfo : List (String × String)}
    (done : decodeRegistration go live userInfo = .ok (snapshots,registered)) (trimmed : Trimmed live) :
    Trimmed snapshots ∧ (∀ memberID ∈ live.keys, memberID ∈ snapshots.keys) ∧
      ∀ user ∈ userInfo, ∀ entry, decodeJSONObject go user.2 = .ok entry →
        normalizeMemberID go user.1 entry ≠ "" ∧ normalizeMemberID go user.1 entry ∈ snapshots.keys := by
  refine foldlM_ok (fun gone (decoded : OrdMap String Entry × OrdMap String Entry) => Trimmed decoded.1 ∧
    (∀ memberID ∈ live.keys, memberID ∈ decoded.1.keys) ∧
      ∀ user ∈ gone, ∀ entry, decodeJSONObject go user.2 = .ok entry →
        normalizeMemberID go user.1 entry ≠ "" ∧ normalizeMemberID go user.1 entry ∈ decoded.1.keys) ?_ ?_ done
  · intro gone user before after kept stepped
    cases read : decodeJSONObject go user.2 with
    | error cause =>
      simp only [read] at stepped
      cases stepped
    | ok entry =>
      simp only [read] at stepped
      by_cases unnamed : normalizeMemberID go user.1 entry = ""
      · rw [if_pos unnamed] at stepped
        cases stepped
      · rw [if_neg unnamed] at stepped
        cases stepped
        refine ⟨kept.1.insert go user.1 entry _,?_,?_⟩
        · intro memberID inside
          exact OrdMap.mem_keys_insert.mpr (.inr (kept.2.1 memberID inside))
        · intro other member found same
          rw [OrdMap.mem_keys_insert]
          rcases List.mem_append.mp member with old | new
          · exact ⟨(kept.2.2 other old found same).1,.inr (kept.2.2 other old found same).2⟩
          · cases List.mem_singleton.mp new
            cases read.symm.trans same
            exact ⟨unnamed,.inl rfl⟩
  · exact ⟨trimmed,fun _ inside => inside,fun _ member => (by cases member)⟩

theorem normalizeRow_memberID (config : NormalizeRowConfig) (entry : Entry) (memberID : String)
    (status : StandingStatus) (rank : Option Int) (found : Bool) :
    (normalizeRow go config entry memberID status rank found).memberID = (rowIdentity go entry memberID).memberID := rfl

theorem diedRow_memberID (sources : Sources) (diedEntry : Entry) (displayRank : Int) :
    (diedRow go sources diedEntry (diedMember go diedEntry) displayRank).memberID =
      if diedMember go diedEntry = "" then builtID go (mergeEntries (sources.entry "") diedEntry)
      else diedMember go diedEntry := by
  unfold diedRow
  dsimp only
  rw [normalizeRow_memberID]
  by_cases unnamed : diedMember go diedEntry = ""
  · rw [if_pos unnamed,unnamed,rowIdentity_built]
  · rw [if_neg unnamed,rowIdentity_named]
    exact fun blank => unnamed ((memberIDOf_blank _ _).mp blank)

section Died

variable {go} {sources : Sources}
variable {raw : String} {entry : Entry}

theorem diedEntries_concat (gone : List String) (read : decodeJSONObject go raw = .ok entry)
    : diedEntries go (gone ++ [raw]) = diedEntries go gone ++ [entry] := by
  simp [diedEntries,read,Except.toOption]

theorem diedNamed_concat (gone : List String) (read : decodeJSONObject go raw = .ok entry) : diedNamed go (gone ++ [raw]) =
      diedNamed go gone ++ if diedMember go entry = "" then [] else [diedMember go entry] := by
  rw [diedNamed,diedEntries_concat gone read,List.map_append,List.filter_append,diedNamed]
  by_cases named : diedMember go entry = ""
  · simp [named]
  · simp [named]

theorem diedBuilt_concat (gone : List String) (read : decodeJSONObject go raw = .ok entry)
    : diedBuilt go sources (gone ++ [raw]) =
      diedBuilt go sources gone ++
        if diedMember go entry = "" then [builtID go (mergeEntries (sources.entry "") entry)] else [] := by
  rw [diedBuilt,diedEntries_concat gone read,List.filter_append,List.map_append,diedBuilt]
  by_cases named : diedMember go entry = ""
  · simp [named]
  · simp [named]

structure DiedMembers (go : Go) (sources : Sources) (first gone : List String) (loop : DiedLoop) : Prop where
  distinct : loop.seenMembers.Nodup
  named : "" ∉ loop.seenMembers
  seen : ∀ memberID, memberID ∈ loop.seenMembers ↔ memberID ∈ first ∨ memberID ∈ diedNamed go gone
  members : (loop.rows.map fun row => row.memberID).Perm (loop.seenMembers ++ diedBuilt go sources gone)

theorem DiedMembers.step {first gone : List String} {loop after : DiedLoop}
    (kept : DiedMembers go sources first gone loop) (stepped : diedStep go sources loop raw = .ok after) :
    DiedMembers go sources first (gone ++ [raw]) after := by
  obtain ⟨entry,read,⟨⟨named,known⟩,same⟩ | ⟨fresh,-,rows,seen⟩⟩ := diedStep_cases go sources stepped
  · rw [same]
    refine ⟨kept.distinct,kept.named,?_,?_⟩
    · intro memberID
      rw [diedNamed_concat gone read,if_neg named,List.mem_append,List.mem_singleton,kept.seen]
      constructor
      · rintro (held | held)
        · exact .inl held
        · exact .inr (.inl held)
      · rintro (held | held | rfl)
        · exact .inl held
        · exact .inr held
        · exact (kept.seen _).mp known
    · rw [diedBuilt_concat gone read,if_neg named,List.append_nil]
      exact kept.members
  · by_cases named : diedMember go entry = ""
    · rw [if_neg (not_not_intro named)] at seen
      refine ⟨seen ▸ kept.distinct,seen ▸ kept.named,?_,?_⟩
      · intro memberID
        rw [diedNamed_concat gone read,if_pos named,List.append_nil,seen,kept.seen]
      · rw [rows,seen,diedBuilt_concat gone read,if_pos named,List.map_append,List.map_singleton,diedRow_memberID,
          if_pos named,← List.append_assoc]
        exact kept.members.append_right _
    · have unseen : diedMember go entry ∉ loop.seenMembers := fun known => fresh ⟨named,known⟩
      rw [if_pos named] at seen
      refine ⟨?_,?_,?_,?_⟩
      · rw [seen,List.nodup_append]
        exact ⟨kept.distinct,List.nodup_singleton _,fun a inside b last same => unseen (by
          rw [List.mem_singleton.mp last] at same
          exact same ▸ inside)⟩
      · rw [seen,List.mem_append,List.mem_singleton]
        rintro (held | held)
        · exact kept.named held
        · exact named held.symm
      · intro memberID
        rw [diedNamed_concat gone read,if_neg named,seen,List.mem_append,List.mem_append,kept.seen,or_assoc]
      · rw [rows,seen,diedBuilt_concat gone read,if_neg named,List.map_append,List.map_singleton,diedRow_memberID,
          if_neg named,List.append_nil,List.append_assoc]
        exact (kept.members.append_right _).trans (by
          rw [List.append_assoc]
          exact List.perm_append_comm.append_left _)

end Died

theorem pendingRow_memberID (sources : Sources) {memberID : String} (trimmed : trimSpace memberID = "" → memberID = "") :
    (pendingRow go sources memberID).memberID =
      if memberID = "" then builtID go (sources.entry "") else memberID := by
  unfold pendingRow
  dsimp only
  rw [normalizeRow_memberID]
  by_cases unnamed : memberID = ""
  · rw [if_pos unnamed,unnamed,rowIdentity_built]
  · rw [if_neg unnamed,rowIdentity_named]
    exact fun blank => unnamed (trimmed blank)

theorem aliveRow_memberID (sources : Sources) (index : Nat) {member : ZMember} (named : trimSpace member.member ≠ "") :
    (aliveRow go sources index member).memberID = trimSpace member.member := by
  unfold aliveRow
  dsimp only
  rw [normalizeRow_memberID,rowIdentity_named]
  exact fun blank => named (trimSpace_trimSpace_eq_empty_iff.mp blank)

theorem map_pending_perm {names : List String} (distinct : names.Nodup) (built : String) :
    (names.map fun memberID => if memberID = "" then built else memberID).Perm
      (names.filter (· ≠ "") ++ if "" ∈ names then [built] else []) := by
  induction names with
  | nil => rfl
  | cons name names ih =>
    obtain ⟨fresh,apart⟩ := List.nodup_cons.mp distinct
    have rest := ih apart
    by_cases empty : name = ""
    · subst empty
      rw [if_neg fresh,List.append_nil] at rest
      simpa using (rest.cons built).trans (List.perm_append_singleton built _).symm
    · simpa [empty,Ne.symm empty] using rest

variable {sources : Sources} {rows : List FinalRankingRow} {alive : List ZMember} {died : List String}

theorem entrantRows_members {snapshot : LiveSnapshot} (trimmed : Trimmed sources.snapshots)
    (distinct : (snapshot.alive.map fun alive => trimSpace alive.member).Nodup)
    (named : ∀ alive ∈ snapshot.alive, trimSpace alive.member ≠ "")
    (done : entrantRows go sources snapshot.alive snapshot.died = .ok rows) :
    ∃ names : List String, names.Nodup ∧ (∀ memberID, memberID ∈ names ↔ Named go sources snapshot memberID) ∧
      (rows.map fun row => row.memberID).Perm (names ++ builtIDs go sources snapshot.died) := by
  have listed := canonicalAliveRows_perm go snapshot.alive
  have canonicalNamed : ∀ alive ∈ canonicalAliveRows go snapshot.alive, trimSpace alive.member ≠ "" :=
    fun alive inside => named alive (listed.mem_iff.mp inside)
  generalize first : (canonicalAliveRows go snapshot.alive).map (fun alive => trimSpace alive.member) = aliveNames
  have startNames : aliveNames.filter (· ≠ "") = aliveNames := by
    rw [List.filter_eq_self,← first]
    intro name inside
    obtain ⟨alive,there,rfl⟩ := List.mem_map.mp inside
    exact decide_eq_true (canonicalNamed alive there)
  obtain ⟨loop,looped,rest⟩ := bind_ok done
  rw [first,startNames] at looped
  have kept := foldlM_ok (DiedMembers go sources aliveNames) (fun _ _ _ _ before stepped => before.step stepped) (by
    refine ⟨?_,?_,?_,?_⟩
    · rw [← first]
      exact (listed.map _).nodup_iff.mpr distinct
    · intro inside
      rw [← startNames,List.mem_filter] at inside
      simp at inside
    · intro memberID
      simp [diedNamed,diedEntries]
    · apply List.Perm.of_eq
      rw [← first]
      apply List.ext_getElem
      · simp [diedBuilt,diedEntries]
      · intro i left right
        have bound : i < (canonicalAliveRows go snapshot.alive).length := by simpa using left
        simpa [diedBuilt,diedEntries] using
          aliveRow_memberID go sources i (canonicalNamed _ (List.getElem_mem bound))) looped
  cases rest
  generalize pending : sources.snapshots.keys.filter (fun memberID => memberID ∉ loop.seenMembers) = keys
  have keysDistinct : keys.Nodup := by
    rw [← pending]
    exact (OrdMap.keys_nodup _).filter _
  have emptyKey : "" ∈ keys ↔ "" ∈ sources.snapshots.keys := by
    rw [← pending,List.mem_filter]
    simp [kept.named]
  have pendingMembers : ((pendingMemberIDs go sources loop.seenMembers).map (pendingRow go sources)).map
      (fun row => row.memberID) = (pendingMemberIDs go sources loop.seenMembers).map fun memberID =>
        if memberID = "" then builtID go (sources.entry "") else memberID := by
    rw [List.map_map]
    apply List.map_congr_left
    intro memberID inside
    apply pendingRow_memberID
    apply trimmed
    exact (List.mem_filter.mp (mem_sortBy.mp inside)).1
  refine ⟨loop.seenMembers ++ keys.filter (· ≠ ""),?_,?_,?_⟩
  · rw [List.nodup_append]
    refine ⟨kept.distinct,keysDistinct.filter _,?_⟩
    rintro name seen other inside rfl
    rw [← pending] at inside
    have unseen := (List.mem_filter.mp (List.mem_filter.mp inside).1).2
    simp [seen] at unseen
  · intro memberID
    rw [List.mem_append,List.mem_filter,← pending,List.mem_filter,decide_eq_true_iff,decide_eq_true_iff]
    have alive : memberID ∈ aliveNames ↔ ∃ alive ∈ snapshot.alive, trimSpace alive.member = memberID := by
      rw [← first,(listed.map _).mem_iff,List.mem_map]
    unfold Named
    rw [← alive,← or_assoc,← kept.seen]
    constructor
    · rintro (seen | ⟨⟨inside,-⟩,some_⟩)
      · exact .inl seen
      · exact .inr ⟨some_,inside⟩
    · rintro (seen | ⟨some_,inside⟩)
      · exact .inl seen
      · by_cases seen : memberID ∈ loop.seenMembers
        · exact .inl seen
        · exact .inr ⟨⟨inside,seen⟩,some_⟩
  · rw [List.map_append,pendingMembers]
    have sorted : (pendingMemberIDs go sources loop.seenMembers).Perm keys := by
      rw [← pending]
      exact sortBy_perm _ _
    have built := (sorted.map _).trans (map_pending_perm keysDistinct (builtID go (sources.entry "")))
    unfold builtIDs
    simp only [emptyKey] at built
    refine (kept.members.append built).trans ?_
    rw [List.append_assoc,List.append_assoc,← List.append_assoc (diedBuilt ..),← List.append_assoc (keys.filter _)]
    exact (List.perm_append_comm.append_right _).append_left _

theorem normalizeRow_id (config : NormalizeRowConfig) (entry : Entry) (memberID : String) (status : StandingStatus)
    (rank : Option Int) (found : Bool) : (normalizeRow go config entry memberID status rank found).id =
      rowID config.tournamentID (normalizeRow go config entry memberID status rank found).memberID := by
  rw [normalizeRow_memberID]
  rfl

theorem aliveRow_id (sources : Sources) (index : Nat) (member : ZMember) : (aliveRow go sources index member).id =
    rowID sources.config.tournamentID (aliveRow go sources index member).memberID := by
  unfold aliveRow
  dsimp only
  rw [normalizeRow_id]

theorem diedRow_id (sources : Sources) (diedEntry : Entry) (memberID : String) (displayRank : Int) :
    (diedRow go sources diedEntry memberID displayRank).id =
      rowID sources.config.tournamentID (diedRow go sources diedEntry memberID displayRank).memberID := by
  unfold diedRow
  dsimp only
  rw [normalizeRow_id]

theorem pendingRow_id (sources : Sources) (memberID : String) : (pendingRow go sources memberID).id =
    rowID sources.config.tournamentID (pendingRow go sources memberID).memberID := by
  unfold pendingRow
  dsimp only
  rw [normalizeRow_id]

theorem entrantRows_id (done : entrantRows go sources alive died = .ok rows)
    : ∀ row ∈ rows, row.id = rowID sources.config.tournamentID row.memberID :=
  entrantRows_forall go sources (fun _ _ => aliveRow_id ..) (fun _ _ _ => diedRow_id ..) (fun _ => pendingRow_id ..) done

theorem entrantRows_listed (done : entrantRows go sources alive died = .ok rows) :
    ∀ row ∈ (canonicalAliveRows go alive).mapIdx (aliveRow go sources), row ∈ rows := by
  obtain ⟨loop,looped,rest⟩ := bind_ok done
  have kept := foldlM_ok (fun _ (loop : DiedLoop) =>
    ∀ row ∈ (canonicalAliveRows go alive).mapIdx (aliveRow go sources), row ∈ loop.rows) (by
      intro _ raw before after held stepped
      obtain ⟨diedEntry,-,⟨-,same⟩ | ⟨-,-,made,-⟩⟩ := diedStep_cases go sources stepped
      · rw [same]
        exact held
      · rw [made]
        exact fun row member => List.mem_append_left _ (held row member)) (fun row member => member) looped
  cases rest
  exact fun row member => List.mem_append_left _ (kept row member)

theorem entrantRows_alive (done : entrantRows go sources alive died = .ok rows) {member : ZMember}
    (inside : member ∈ alive) (named : trimSpace member.member ≠ "")
    : ∃ row ∈ rows, row.memberID = trimSpace member.member ∧ row.status = .alive := by
  obtain ⟨i,bound,rfl⟩ := List.mem_iff_getElem.mp ((canonicalAliveRows_perm go alive).mem_iff.mpr inside)
  refine ⟨_,entrantRows_listed go done _ (List.mem_mapIdx.mpr ⟨i,bound,rfl⟩),?_,aliveRow_status ..⟩
  exact aliveRow_memberID go sources i named

theorem finalRows_map_perm {β : Type} {entrants : List FinalRankingRow} (f : FinalRankingRow → β)
    (same : ∀ old row, Kept old row → f row = f old) :
    ((Finalizer.finalRows go entrants).map f).Perm (entrants.map f) := by
  have assigned : (assignUniquePayoutRanks go (collapseDuplicateEconomicUnits entrants)).map f = entrants.map f := by
    apply List.ext_getElem?
    intro i
    rw [List.getElem?_map,List.getElem?_map]
    cases found : entrants[i]? with
    | none =>
      rw [getElem?_assign,getElem?_collapse,found]
      rfl
    | some old =>
      obtain ⟨collapsed,there,first⟩ := exists_collapse found
      obtain ⟨row,at_,second,-⟩ := exists_assign go there
      rw [at_,Option.map_some,Option.map_some,same old row (first.trans second)]
  rw [← assigned]
  exact (sortFinalRows_perm go _).map f

section Accepted

variable {go} {finalizer : Finalizer} {snapshot : LiveSnapshot} {registration : RegistrationSnapshot}

theorem sourcesOf_keys {sources : Sources} (decoded : finalizer.sourcesOf go snapshot registration = .ok sources) :
    Trimmed sources.snapshots ∧
      (∀ user ∈ snapshot.userInfo, ∀ entry, decodeJSONObject go user.2 = .ok entry →
        normalizeMemberID go user.1 entry ∈ sources.snapshots.keys) ∧
      ∀ user ∈ registration.userInfo, ∀ entry, decodeJSONObject go user.2 = .ok entry →
        normalizeMemberID go user.1 entry ≠ "" ∧ normalizeMemberID go user.1 entry ∈ sources.snapshots.keys := by
  obtain ⟨_,-,rest⟩ := bind_ok decoded
  obtain ⟨_,-,rest⟩ := bind_ok rest
  obtain ⟨live,readLive,rest⟩ := bind_ok rest
  obtain ⟨⟨snapshots,registered⟩,readRegistered,rest⟩ := bind_ok rest
  obtain ⟨digest,-,rest⟩ := bind_ok rest
  cases rest
  obtain ⟨trimmed,liveKeys⟩ := decodeUserInfo_keys go readLive
  obtain ⟨trimmed,kept,registeredKeys⟩ := decodeRegistration_keys go readRegistered trimmed
  exact ⟨trimmed,fun user inside entry read => kept _ (liveKeys user inside entry read),registeredKeys⟩

theorem mem_diedNamed {died : List String} {raw : String} {entry : Entry} (inside : raw ∈ died)
    (read : decodeJSONObject go raw = .ok entry) (named : diedMember go entry ≠ "") :
    diedMember go entry ∈ diedNamed go died := by
  have listed : entry ∈ diedEntries go died := by
    rw [diedEntries,List.mem_filterMap]
    exact ⟨raw,inside,by rw [read]; rfl⟩
  exact List.mem_filter.mpr ⟨List.mem_map_of_mem listed,decide_eq_true named⟩

/-- Entrants get one row each exactly if no id that is built is built twice or is somebody's name. -/
theorem finalization_oneRowEach {finalization : Finalization} {sources : Sources}
    (accepted : finalizer.finalizeWithRegistration go snapshot registration = .ok finalization)
    (decoded : finalizer.sourcesOf go snapshot registration = .ok sources)
    (distinct : (snapshot.alive.map fun alive => trimSpace alive.member).Nodup)
    (named : ∀ alive ∈ snapshot.alive, trimSpace alive.member ≠ "") :
    OneRowEach go snapshot registration finalization.rows ↔ BuiltApart go sources snapshot := by
  obtain ⟨sources',entrants,decoded',made,rows,-⟩ := accepted_cases accepted
  cases decoded.symm.trans decoded'
  obtain ⟨trimmed,liveKeys,registeredKeys⟩ := sourcesOf_keys decoded
  obtain ⟨names,apart,naming,members⟩ := entrantRows_members go trimmed distinct named made
  have finalMembers := (@finalRows_map_perm go _ entrants (fun row => row.memberID)
    fun _ _ kept => kept.memberID).trans members
  have ids : (finalization.rows.map fun row => row.id).Nodup ↔ BuiltApart go sources snapshot := by
    have listed : (finalization.rows.map fun row => row.id).Perm
        ((names ++ builtIDs go sources snapshot.died).map (rowID sources.config.tournamentID)) := by
      rw [rows]
      apply (finalRows_map_perm go (fun row => row.id) fun _ _ kept => kept.id).trans
      have written : entrants.map (fun row => row.id) =
          (entrants.map fun row => row.memberID).map (rowID sources.config.tournamentID) := by
        rw [List.map_map]
        exact List.map_congr_left (entrantRows_id go made)
      rw [written]
      exact members.map _
    rw [listed.nodup_iff,List.nodup_map_iff fun _ _ same => rowID_injective same,List.nodup_append]
    unfold BuiltApart
    constructor
    · rintro ⟨-,built,disjoint⟩
      refine ⟨built,fun memberID inside held => ?_⟩
      exact disjoint memberID ((naming memberID).mpr held) memberID inside rfl
    · rintro ⟨built,disjoint⟩
      refine ⟨apart,built,fun name held memberID inside same => ?_⟩
      exact disjoint memberID inside (same ▸ (naming name).mp held)
  have covered {memberID : String} (held : Named go sources snapshot memberID) :
      ∃ row ∈ finalization.rows, row.memberID = memberID := by
    have inside : memberID ∈ finalization.rows.map fun row => row.memberID := by
      rw [rows]
      exact finalMembers.mem_iff.mpr (List.mem_append_left _ ((naming memberID).mpr held))
    exact List.mem_map.mp inside
  have alive (member : ZMember) (inside : member ∈ snapshot.alive) :
      ∃ row ∈ finalization.rows, row.memberID = trimSpace member.member ∧ row.status = .alive := by
    obtain ⟨old,there,same,status⟩ := entrantRows_alive go made inside (named member inside)
    obtain ⟨row,final,kept⟩ := exists_mem_finalRows go there
    exact ⟨row,rows ▸ final,kept.memberID.trans same,kept.status.trans status⟩
  constructor
  · intro each
    exact ids.mp each.distinct
  · intro built
    have once := ids.mpr built
    refine ⟨once,?_,?_,alive,?_,?_⟩
    · intro user inside entry read some_
      exact covered (.inr (.inr ⟨some_,liveKeys user inside entry read⟩))
    · intro user inside entry read
      exact covered (.inr (.inr (registeredKeys user inside entry read)))
    · intro raw inside entry read some_
      exact covered (.inr (.inl (mem_diedNamed inside read some_)))
    · intro member inside row there same
      obtain ⟨first,final,memberID,status⟩ := alive member inside
      have together : first = row := by
        apply List.inj_on_of_nodup_map once final there
        have idOf (row : FinalRankingRow) (member : row ∈ finalization.rows) :
            row.id = rowID sources.config.tournamentID row.memberID := by
          rw [rows] at member
          obtain ⟨old,there,kept,-⟩ := of_mem_finalRows go member
          rw [kept.id,kept.memberID,(entrantRows_id go made) old there]
        rw [idOf first final,idOf row there,memberID,same]
      exact together ▸ status

end Accepted

/-! A died entry that spells its user another way. -/

def entrantText (user : String) : String := object (user ++ ":\"7\",\"entryNumber\":1,\"rank\":1")

def spellingGo : Go := plainGo
  (["userID","userId"].map fun user => (entrantText ("\"" ++ user ++ "\""),
    [(user,.text "7"),("entryNumber",.number (.finite 1)),("rank",.number (.finite 1))]))

def goneOut (user : String) : LiveSnapshot where
  tournamentID := "mtt-1"
  userInfo := [("7:1",entrantText "\"userID\"")]
  alive := [⟨"8:1",.finite 6000⟩]
  died := [entrantText user]

theorem goneOut_ids : (Finalizer.finalizeWithRegistration spellingGo {} (goneOut "\"userId\"") {}).toOption.map
    (fun finalization => finalization.rows.map fun row => row.id) =
      some ["poker_mtt_final_ranking:mtt-1:8:1","poker_mtt_final_ranking:mtt-1:7:1",
        "poker_mtt_final_ranking:mtt-1:7:1"] := by
  decide +kernel

/-- The died entry's row and the snapshot's row have the same id. -/
theorem oneRowEach_fails : ∃ finalization,
    Finalizer.finalizeWithRegistration spellingGo {} (goneOut "\"userId\"") {} = .ok finalization ∧
      ((goneOut "\"userId\"").alive.map fun alive => trimSpace alive.member).Nodup ∧
      (∀ alive ∈ (goneOut "\"userId\"").alive, trimSpace alive.member ≠ "") ∧
      ¬OneRowEach spellingGo (goneOut "\"userId\"") {} finalization.rows := by
  have ids := goneOut_ids
  cases result : Finalizer.finalizeWithRegistration spellingGo {} (goneOut "\"userId\"") {} with
  | error refusal =>
    rw [result] at ids
    cases ids
  | ok finalization =>
    rw [result] at ids
    refine ⟨finalization,rfl,by decide +kernel,by decide +kernel,?_⟩
    intro each
    have once := each.distinct
    have listed : finalization.rows.map (fun row => row.id) = ["poker_mtt_final_ranking:mtt-1:8:1",
      "poker_mtt_final_ranking:mtt-1:7:1","poker_mtt_final_ranking:mtt-1:7:1"] := Option.some.inj ids
    rw [listed] at once
    exact absurd once (by decide)

theorem goneOut_built : (Finalizer.sourcesOf spellingGo {} (goneOut "\"userID\"") {}).toOption.map
    (fun sources => builtIDs spellingGo sources (goneOut "\"userID\"").died) = some [] := by
  decide +kernel

theorem goneOut_returned :
    (Finalizer.finalizeWithRegistration spellingGo {} (goneOut "\"userID\"") {}).toOption.isSome = true := by
  decide +kernel

theorem finalization_oneRowEach_spelled : ∃ finalization,
    Finalizer.finalizeWithRegistration spellingGo {} (goneOut "\"userID\"") {} = .ok finalization ∧
      OneRowEach spellingGo (goneOut "\"userID\"") {} finalization.rows := by
  have built := goneOut_built
  have returned := goneOut_returned
  cases result : Finalizer.finalizeWithRegistration spellingGo {} (goneOut "\"userID\"") {} with
  | error refusal =>
    rw [result] at returned
    cases returned
  | ok finalization =>
    cases read : Finalizer.sourcesOf spellingGo {} (goneOut "\"userID\"") {} with
    | error refusal =>
      rw [read] at built
      cases built
    | ok sources =>
      rw [read] at built
      refine ⟨finalization,rfl,?_⟩
      rw [finalization_oneRowEach result read (by decide +kernel) (by decide +kernel)]
      have nothing : builtIDs spellingGo sources (goneOut "\"userID\"").died = [] := Option.some.inj built
      unfold BuiltApart
      rw [nothing]
      exact ⟨List.nodup_nil,fun _ member => (by cases member)⟩

end Clawchain.Ranking
