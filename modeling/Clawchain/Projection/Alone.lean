import Clawchain.Projection.Checked

/-! Runs of requests: when a projection comes out as if its request were the only one of its tournament, and a refused one
leaves everything as it was. -/
namespace Clawchain.Projection
open Clawchain.Lib Clawchain.Lib.Fallible Clawchain.Mining Clawchain.Poker

variable (floats : Floats)

def after (requests : List Request) (start : Store) : Store :=
  requests.foldl (fun store request => (projectPokerMttFinalRankings floats request store).2) start

def Request.Valid (request : Request) : Prop := request.inBounds = true ∧ request.validatePayoutRanks = .ok ()

def own (start : Store) (request : Request) : Except Refusal Response × Store :=
  projectPokerMttFinalRankings floats request (start.without request.tournamentID)

/-- The results of the items are written as in the other store, and no others. -/
structure WritesItems (tournamentID : String) (items : List Item) (before store other : Store) : Prop where
  written : ∀ id, Itemised tournamentID items id → store.results.get? id = other.results.get? id
  rest : ∀ id, ¬Itemised tournamentID items id → store.results.get? id = before.results.get? id

/-- A request uses exactly its payload, after some earlier ones. -/
structure UsesItsPayload (start : Store) (earlier : List Request) (request : Request) : Prop where
  accepted : ∀ response store, projectPokerMttFinalRankings floats request (after floats earlier start) = (.ok response,store) →
    (own floats start request).1 = .ok response ∧ (store = after floats earlier start ∨
      WritesItems request.tournamentID response.items (after floats earlier start) store (own floats start request).2)
  rejected : ∀ refusal store, projectPokerMttFinalRankings floats request (after floats earlier start) = (.error refusal,store) →
    store = after floats earlier start
  repeated : ∀ before first between response store, earlier = before ++ first :: between →
    projectPokerMttFinalRankings floats first (after floats before start) = (.ok response,store) →
    first.projectionID = request.projectionID → first.finalRankingRoot = request.finalRankingRoot → request.Valid →
    projectPokerMttFinalRankings floats request (after floats earlier start) = (.ok response,after floats earlier start)

def Request.members (request : Request) : List String :=
  (canonicalPokerMttProjectionRows (({} : Store).saveFinalRankings request.rows |>.listFinalRankings request.tournamentID)).map
    fun row => (minerOf row).getD ""

/-- The tournament has no other rows, its rows can be paid, and its miners stand where they stood at the start. -/
structure Alone (start store : Store) (request : Request) : Prop where
  rows : OnlyItsRows store request
  payable : ∃ rows, checkedRows request (store.saveFinalRankings request.rows) = .ok rows ∧
    ∀ row ∈ rows, present (minerOf row) = true ∧ (store.miners.get? ((minerOf row).getD "")).isSome
  multipliers : ∀ member ∈ request.members, store.multiplierOf member = start.multiplierOf member
  counted : ∀ member ∈ request.members, ∀ id, id ≠ resultID request.tournamentID member →
    (store.countedResults member).get? id = (start.countedResults member).get? id

structure Unwritten (store : Store) (request : Request) : Prop where
  stored : ∀ row ∈ request.rows, store.finalRankings.get? row.id = some row
  refused : ∃ error, checkedRows request store = .error error

structure Undisturbed (start : Store) (earlier : List Request) (request : Request) : Prop where
  unforeign : ∀ projection, start.projections.get? request.projectionID = some projection →
    projection.finalRankingRoot ≠ request.finalRankingRoot
  oneBody : ∀ other ∈ earlier, other.projectionID = request.projectionID →
    other.finalRankingRoot = request.finalRankingRoot → other = request
  anew : (after floats earlier start).projections.get? request.projectionID = none →
    Alone start (after floats earlier start) request ∨ Unwritten (after floats earlier start) request

section Request

variable {request : Request} {store : Store}

theorem project_valid (valid : request.Valid) : projectPokerMttFinalRankings floats request store =
    match store.projections.get? request.projectionID with
    | some existing =>
      if existing.finalRankingRoot ≠ request.finalRankingRoot then (.error .rootConflict,store) else (.ok existing.result,store)
    | none => projectAnew floats request store := by
  unfold projectPokerMttFinalRankings
  rw [if_neg (by rw [valid.1]; simp),valid.2]
  dsimp only
  rw [Faulty.read_run]
  cases store.projections.get? request.projectionID with
  | none => rfl
  | some existing =>
    dsimp only
    split <;> rfl

variable (store) in
theorem project_invalid (invalid : ¬request.Valid) :
    ∃ refusal, projectPokerMttFinalRankings floats request store = (.error refusal,store) := by
  unfold projectPokerMttFinalRankings
  by_cases bounds : request.inBounds = false
  · rw [if_pos bounds]
    exact ⟨_,rfl⟩
  · rw [if_neg bounds]
    cases ranks : request.validatePayoutRanks with
    | error error => exact ⟨_,rfl⟩
    | ok _ => exact absurd ⟨by simpa using bounds,ranks⟩ invalid

theorem project_stored (valid : request.Valid) {existing : StoredProjection}
    (found : store.projections.get? request.projectionID = some existing)
    (same : existing.finalRankingRoot = request.finalRankingRoot) :
    projectPokerMttFinalRankings floats request store = (.ok existing.result,store) := by
  rw [project_valid floats valid,found]
  exact if_neg (not_not.mpr same)

theorem project_conflict (valid : request.Valid) {existing : StoredProjection}
    (found : store.projections.get? request.projectionID = some existing)
    (differ : existing.finalRankingRoot ≠ request.finalRankingRoot) :
    projectPokerMttFinalRankings floats request store = (.error .rootConflict,store) := by
  rw [project_valid floats valid,found]
  exact if_pos differ

theorem project_anew (valid : request.Valid) (fresh : store.projections.get? request.projectionID = none) :
    projectPokerMttFinalRankings floats request store = projectAnew floats request store := by
  rw [project_valid floats valid,fresh]

theorem projectStored_checked {rows : List RankingRow} (checked : checkedRows request store = .ok rows) :
    projectStored floats request store = projectRows floats request rows (store.saveTournament (tournamentOf request rows)) := by
  unfold projectStored
  rw [Faulty.read_run,checked]
  rfl

theorem projectStored_unchecked {error : ValueError} (refused : checkedRows request store = .error error) :
    projectStored floats request store = (.error (.raised error),store) := by
  unfold projectStored
  rw [Faulty.read_run,refused]
  rfl

theorem projectAnew_ok {items : List Item} {written : Store}
    (done : projectStored floats request (store.saveFinalRankings request.rows) = (.ok items,written)) :
    projectAnew floats request store = (.ok (responseOf request items),
      written.saveProjection request.projectionID ⟨request.finalRankingRoot,responseOf request items⟩) := by
  unfold projectAnew
  rw [Faulty.modify_bind]
  exact Faulty.bind_of_ok _ done

theorem projectAnew_error {refusal : Refusal} {written : Store}
    (failed : projectStored floats request (store.saveFinalRankings request.rows) = (.error refusal,written)) :
    projectAnew floats request store = (.error refusal,written) := by
  unfold projectAnew
  rw [Faulty.modify_bind]
  exact Faulty.bind_of_error _ failed

variable (request store) in
theorem projectAnew_steady : Steady (store.saveFinalRankings request.rows)
    (projectStored floats request (store.saveFinalRankings request.rows)).2 := by
  cases checked : checkedRows request (store.saveFinalRankings request.rows) with
  | error error =>
    rw [projectStored_unchecked floats checked]
    exact Steady.refl _
  | ok rows =>
    rw [projectStored_checked floats checked]
    have steady := projectRows_steady floats request rows
      ((store.saveFinalRankings request.rows).saveTournament (tournamentOf request rows))
    exact ⟨steady.finalRankings,steady.projections,steady.miners,steady.identities,steady.hiddenEvals⟩

structure Follows (request : Request) (outcome : Except Refusal Response) (store next : Store) : Prop where
  miners : next.miners = store.miners
  identities : next.identities = store.identities
  hiddenEvals : next.hiddenEvals = store.hiddenEvals
  projections : next.projections = store.projections ∨ store.projections.get? request.projectionID = none ∧ request.Valid ∧
    ∃ response, outcome = .ok response ∧
      next.projections = store.projections.insert request.projectionID ⟨request.finalRankingRoot,response⟩

variable (request store) in
theorem project_follows : Follows request (projectPokerMttFinalRankings floats request store).1 store
    (projectPokerMttFinalRankings floats request store).2 := by
  by_cases valid : request.Valid
  · cases found : store.projections.get? request.projectionID with
    | some existing =>
      by_cases same : existing.finalRankingRoot = request.finalRankingRoot
      · rw [project_stored floats valid found same]
        exact ⟨rfl,rfl,rfl,.inl rfl⟩
      · rw [project_conflict floats valid found same]
        exact ⟨rfl,rfl,rfl,.inl rfl⟩
    | none =>
      rw [project_anew floats valid found]
      have steady := projectAnew_steady floats request store
      cases run : projectStored floats request (store.saveFinalRankings request.rows) with
      | mk outcome written =>
        rw [run] at steady
        cases outcome with
        | error refusal =>
          rw [projectAnew_error floats run]
          exact ⟨steady.miners,steady.identities,steady.hiddenEvals,.inl steady.projections⟩
        | ok items =>
          rw [projectAnew_ok floats run]
          refine ⟨steady.miners,steady.identities,steady.hiddenEvals,.inr ⟨found,valid,_,rfl,?_⟩⟩
          change written.projections.insert _ _ = _
          rw [steady.projections]
          rfl
  · obtain ⟨refusal,refused⟩ := project_invalid floats store valid
    rw [refused]
    exact ⟨rfl,rfl,rfl,.inl rfl⟩

theorem accepted_stored {response : Response} {next : Store}
    (done : projectPokerMttFinalRankings floats request store = (.ok response,next)) :
    next.projections.get? request.projectionID = some ⟨request.finalRankingRoot,response⟩ := by
  by_cases valid : request.Valid
  · cases found : store.projections.get? request.projectionID with
    | some existing =>
      by_cases same : existing.finalRankingRoot = request.finalRankingRoot
      · rw [project_stored floats valid found same] at done
        cases done
        rw [found,← same]
      · rw [project_conflict floats valid found same] at done
        cases done
    | none =>
      rw [project_anew floats valid found] at done
      cases run : projectStored floats request (store.saveFinalRankings request.rows) with
      | mk outcome written =>
        cases outcome with
        | error refusal =>
          rw [projectAnew_error floats run] at done
          cases done
        | ok items =>
          rw [projectAnew_ok floats run] at done
          cases done
          exact OrdMap.get?_insert_self ..
  · obtain ⟨refusal,refused⟩ := project_invalid floats store valid
    rw [refused] at done
    cases done

variable {start : Store}

theorem request_members (only : OnlyItsRows store request) {rows : List RankingRow}
    (checked : checkedRows request (store.saveFinalRankings request.rows) = .ok rows) :
    ∀ row ∈ rows, (minerOf row).getD "" ∈ request.members := by
  intro row member
  rw [(checkedRows_ok checked).2.1,listFinalRankings_own only {}] at member
  exact List.mem_map_of_mem member

theorem projectStored_alone (alone : Alone start store request) (miners : store.miners = start.miners)
    (identities : store.identities = start.identities) (hiddenEvals : store.hiddenEvals = start.hiddenEvals) :
    ∃ items written other, projectStored floats request (store.saveFinalRankings request.rows) = (.ok items,written) ∧
      projectStored floats request ((start.without request.tournamentID).saveFinalRankings request.rows) = (.ok items,other) ∧
      WritesItems request.tournamentID items store written other := by
  obtain ⟨rows,checked,payable⟩ := alone.payable
  have about := checkedRows_tournament checked
  have otherChecked := checked
  rw [checkedRows_congr (listFinalRankings_own alone.rows start)] at otherChecked
  rw [projectStored_checked floats checked,projectStored_checked floats otherChecked]
  have agree : Agree request.tournamentID request.members (fun _ => False)
      ((store.saveFinalRankings request.rows).saveTournament (tournamentOf request rows))
      (((start.without request.tournamentID).saveFinalRankings request.rows).saveTournament (tournamentOf request rows)) :=
    ⟨miners,identities,hiddenEvals,alone.multipliers,alone.counted,fun _ never => never.elim⟩
  obtain ⟨same,written⟩ := projectRows_agree floats request agree (request_members alone.rows checked) about
  obtain ⟨items,ends⟩ : (projectRows floats request rows).Ends
      ((store.saveFinalRankings request.rows).saveTournament (tournamentOf request rows)) := by
    apply projectRows_ends floats request (checkedRows_ok checked).1
    intro row member
    exact ⟨(payable row member).1,(payable row member).2,checkedRows_fits checked member⟩
  refine ⟨items,_,_,Prod.ext ends rfl,Prod.ext (same.symm.trans ends) rfl,?_⟩
  constructor
  · intro id itemised
    exact (written items ends).written id (.inr itemised)
  · intro id foreign
    exact projectRows_results floats request about (Prod.ext ends rfl) foreign

end Request

section Runs

variable {start : Store} {earlier : List Request}

theorem after_append (first next : List Request) : after floats (first ++ next) start = after floats next (after floats first start) :=
  List.foldl_append

theorem after_concat (request : Request) : after floats (earlier ++ [request]) start =
    (projectPokerMttFinalRankings floats request (after floats earlier start)).2 := by
  rw [after_append]
  rfl

variable (start) in
theorem after_same (requests : List Request) : (after floats requests start).miners = start.miners ∧
    (after floats requests start).identities = start.identities ∧
    (after floats requests start).hiddenEvals = start.hiddenEvals := by
  induction requests using List.reverseRecOn with
  | nil => exact ⟨rfl,rfl,rfl⟩
  | append_singleton requests request ih =>
    rw [after_concat]
    have follows := project_follows floats request (after floats requests start)
    exact ⟨follows.miners.trans ih.1,follows.identities.trans ih.2.1,follows.hiddenEvals.trans ih.2.2⟩

theorem after_projections (requests : List Request) {store : Store} {projectionID : String} {projection : StoredProjection}
    (found : store.projections.get? projectionID = some projection) :
    (after floats requests store).projections.get? projectionID = some projection := by
  induction requests using List.reverseRecOn with
  | nil => exact found
  | append_singleton requests request ih =>
    rw [after_concat]
    have follows := project_follows floats request (after floats requests store)
    rcases follows.projections with same | ⟨fresh,-,response,-,grown⟩
    · rw [same]
      exact ih
    · have other : projectionID ≠ request.projectionID := by
        intro same
        rw [same,fresh] at ih
        cases ih
      rw [grown,OrdMap.get?_insert_of_ne _ _ other]
      exact ih

theorem anew_cases {request : Request} (valid : request.Valid) (undisturbed : Undisturbed floats start earlier request)
    (fresh : (after floats earlier start).projections.get? request.projectionID = none) :
    (∃ response store, projectPokerMttFinalRankings floats request (after floats earlier start) = (.ok response,store) ∧
        (own floats start request).1 = .ok response ∧
        WritesItems request.tournamentID response.items (after floats earlier start) store (own floats start request).2) ∨
      ∃ refusal, projectPokerMttFinalRankings floats request (after floats earlier start) =
        (.error refusal,after floats earlier start) := by
  have freshStart : start.projections.get? request.projectionID = none := by
    cases found : start.projections.get? request.projectionID with
    | none => rfl
    | some projection =>
      rw [after_projections floats earlier found] at fresh
      cases fresh
  have ownAnew : own floats start request = projectAnew floats request (start.without request.tournamentID) :=
    project_anew floats valid freshStart
  rw [project_anew floats valid fresh,ownAnew]
  rcases undisturbed.anew fresh with alone | unwritten
  · obtain ⟨miners,identities,hiddenEvals⟩ := after_same floats start earlier
    obtain ⟨items,written,other,done,otherDone,writes⟩ := projectStored_alone floats alone miners identities hiddenEvals
    rw [projectAnew_ok floats done,projectAnew_ok floats otherDone]
    exact .inl ⟨_,_,rfl,rfl,writes.written,writes.rest⟩
  · obtain ⟨error,refused⟩ := unwritten.refused
    have kept := saveFinalRankings_stored unwritten.stored
    have failed : projectStored floats request ((after floats earlier start).saveFinalRankings request.rows) =
        (.error (.raised error),after floats earlier start) := by
      rw [kept]
      exact projectStored_unchecked floats refused
    exact .inr ⟨_,projectAnew_error floats failed⟩

theorem after_made (undisturbed : ∀ before request later, earlier = before ++ request :: later →
      request.Valid → Undisturbed floats start before request) {projectionID : String} {projection : StoredProjection}
    (found : (after floats earlier start).projections.get? projectionID = some projection) :
    start.projections.get? projectionID = some projection ∨
      ∃ request ∈ earlier, request.projectionID = projectionID ∧
        request.finalRankingRoot = projection.finalRankingRoot ∧ (own floats start request).1 = .ok projection.result := by
  induction earlier using List.reverseRecOn generalizing projectionID projection with
  | nil => exact .inl found
  | append_singleton earlier request ih =>
    have older {projectionID : String} {projection : StoredProjection}
        (found : (after floats earlier start).projections.get? projectionID = some projection) :
        start.projections.get? projectionID = some projection ∨
          ∃ other ∈ earlier ++ [request], other.projectionID = projectionID ∧
            other.finalRankingRoot = projection.finalRankingRoot ∧ (own floats start other).1 = .ok projection.result := by
      rcases ih (fun before other later split => undisturbed before other (later ++ [request]) (by rw [split]; simp)) found with
        old | ⟨other,member,made⟩
      · exact .inl old
      · exact .inr ⟨other,List.mem_append_left _ member,made⟩
    rw [after_concat] at found
    have follows := project_follows floats request (after floats earlier start)
    rcases follows.projections with same | ⟨fresh,valid,response,done,grown⟩
    · rw [same] at found
      exact older found
    · rw [grown,OrdMap.get?_insert] at found
      by_cases here : projectionID = request.projectionID
      · rw [if_pos here] at found
        cases found
        refine .inr ⟨request,List.mem_append_right _ List.mem_cons_self,here.symm,rfl,?_⟩
        rcases anew_cases floats valid (undisturbed earlier request [] rfl valid) fresh with
          ⟨other,_,accepted,alone,-⟩ | ⟨refusal,refused⟩
        · rw [accepted] at done
          cases done
          exact alone
        · rw [refused] at done
          cases done
      · rw [if_neg here] at found
        exact older found

theorem answered_cases {request : Request} (undisturbed : ∀ before other later, earlier ++ [request] = before ++ other :: later →
      other.Valid → Undisturbed floats start before other) :
    (∃ refusal, projectPokerMttFinalRankings floats request (after floats earlier start) =
        (.error refusal,after floats earlier start)) ∨
      ∃ response store, projectPokerMttFinalRankings floats request (after floats earlier start) = (.ok response,store) ∧
        (own floats start request).1 = .ok response ∧ (store = after floats earlier start ∨
          WritesItems request.tournamentID response.items (after floats earlier start) store (own floats start request).2) := by
  by_cases valid : request.Valid
  · have calm := undisturbed earlier request [] rfl valid
    cases found : (after floats earlier start).projections.get? request.projectionID with
    | none =>
      rcases anew_cases floats valid calm found with ⟨response,store,accepted,alone,writes⟩ | refused
      · exact .inr ⟨response,store,accepted,alone,.inr writes⟩
      · exact .inl refused
    | some existing =>
      by_cases same : existing.finalRankingRoot = request.finalRankingRoot
      · refine .inr ⟨existing.result,_,project_stored floats valid found same,?_,.inl rfl⟩
        have before : ∀ before other later, earlier = before ++ other :: later → other.Valid →
            Undisturbed floats start before other := by
          intro before other later split
          exact undisturbed before other (later ++ [request]) (by rw [split]; simp)
        rcases after_made floats before found with old | ⟨other,member,id,root,alone⟩
        · exact absurd same (calm.unforeign existing old)
        · cases calm.oneBody other member id (root.trans same)
          exact alone
      · exact .inl ⟨_,project_conflict floats valid found same⟩
  · exact .inl (project_invalid floats _ valid)

/-- In a run of undisturbed requests every one uses exactly its payload. -/
theorem projections_useTheirPayload {requests : List Request}
    (undisturbed : ∀ before request later, requests = before ++ request :: later →
      request.Valid → Undisturbed floats start before request) :
    ∀ before request later, requests = before ++ request :: later → UsesItsPayload floats start before request := by
  intro before request later split
  have upTo : ∀ first other rest, before ++ [request] = first ++ other :: rest → other.Valid →
      Undisturbed floats start first other := by
    intro first other rest inside
    apply undisturbed first other (rest ++ later)
    calc requests = before ++ [request] ++ later := by rw [split]; simp
      _ = first ++ other :: (rest ++ later) := by rw [inside]; simp
  have answered := answered_cases floats upTo
  constructor
  · intro response store done
    rcases answered with ⟨refusal,refused⟩ | ⟨other,next,accepted,alone,writes⟩
    · rw [refused] at done
      cases done
    · rw [accepted] at done
      cases done
      exact ⟨alone,writes⟩
  · intro refusal store done
    rcases answered with ⟨refusal,refused⟩ | ⟨other,next,accepted,-⟩
    · rw [refused] at done
      cases done
      rfl
    · rw [accepted] at done
      cases done
  · rintro earlier first between response store rfl done id root valid
    have stored := accepted_stored floats done
    have kept : (after floats (earlier ++ first :: between) start).projections.get? request.projectionID =
        some ⟨first.finalRankingRoot,response⟩ := by
      rw [after_append,← id]
      apply after_projections floats between
      change (projectPokerMttFinalRankings floats first (after floats earlier start)).2.projections.get? _ = _
      rw [done]
      exact stored
    exact project_stored floats valid kept root

end Runs

/-! Rows left over from a refused request. -/

def registered : Store where
  miners := OrdMap.ofList [("claw1a",{ address := "claw1a", economicUnitID := "eu-a", createdAt := 0 }),
    ("claw1b",{ address := "claw1b", economicUnitID := "eu-b", createdAt := 0 })]

def misrated : Request where
  projectionID := "projection-1"
  tournamentID := "mtt-1"
  ratedOrPractice := "ranked"
  fieldSize := 2
  finalRankingRoot := "sha256:first"
  rows := [{ id := "ranking-1", tournamentID := "mtt-1", memberID := "7:1", minerAddress := some "claw1a", rank := some 1 }]

def waiting : Request where
  projectionID := "projection-2"
  tournamentID := "mtt-1"
  fieldSize := 2
  finalRankingRoot := "sha256:second"
  rows := [{ id := "ranking-2", tournamentID := "mtt-1", memberID := "8:1", minerAddress := some "claw1b", rankState := "waiting_no_show" }]

def projectedMiners (outcome : Except Refusal Response) : List String :=
  (outcome.toOption.map fun response => response.items.map (·.minerID)).getD []

theorem misrated_refused : (projectPokerMttFinalRankings binary64 misrated registered).1 = .error (.raised .invalidRatedOrPractice) ∧
    (projectPokerMttFinalRankings binary64 misrated registered).2.finalRankings.keys = ["ranking-1"] := by
  decide +kernel

theorem waiting_answers :
    projectedMiners (projectPokerMttFinalRankings binary64 waiting (after binary64 [misrated] registered)).1 = ["claw1a","claw1b"] ∧
      projectedMiners (own binary64 registered waiting).1 = ["claw1b"] := by
  decide +kernel

/-- A refused request leaves its rows, and the next request of the tournament is projected from them too. -/
theorem leftovers_projected : ¬UsesItsPayload binary64 registered [] misrated ∧
    ¬UsesItsPayload binary64 registered [misrated] waiting := by
  constructor
  · intro uses
    have kept : (projectPokerMttFinalRankings binary64 misrated registered).2 = registered :=
      uses.rejected (.raised .invalidRatedOrPractice) _ (Prod.ext misrated_refused.1 rfl)
    have keys := misrated_refused.2
    rw [kept] at keys
    exact absurd keys (by decide)
  · intro uses
    have answers := waiting_answers
    cases outcome : projectPokerMttFinalRankings binary64 waiting (after binary64 [misrated] registered) with
    | mk result store =>
      rw [outcome] at answers
      cases result with
      | error refusal => cases answers.1
      | ok response =>
        rw [(uses.accepted response store outcome).1] at answers
        exact absurd (answers.1.symm.trans answers.2) (by decide)

theorem waiting_checked : checkedRows waiting (registered.saveFinalRankings waiting.rows) = .ok waiting.rows := by
  decide +kernel

theorem waiting_alone : Alone registered registered waiting where
  rows id row found := by cases found
  payable := ⟨_,waiting_checked,by decide +kernel⟩
  multipliers _ _ := rfl
  counted _ _ _ _ := rfl

theorem waiting_stored : ((after binary64 [waiting] registered).projections.get? "projection-2").isSome = true := by
  decide +kernel

theorem projections_useTheirPayload_twice : UsesItsPayload binary64 registered [waiting] waiting := by
  refine @projections_useTheirPayload binary64 registered [waiting,waiting] ?_ [waiting] waiting [] rfl
  intro before request later split _
  rcases before with _ | ⟨first,before⟩
  · cases split
    exact ⟨fun _ found => (by cases found),fun _ member => (by cases member),fun _ => .inl waiting_alone⟩
  · rcases before with _ | ⟨second,before⟩
    · cases split
      refine ⟨fun _ found => (by cases found),?_,?_⟩
      · intro other member _ _
        exact List.mem_singleton.mp member
      · intro fresh
        have stored := waiting_stored
        change (after binary64 [waiting] registered).projections.get? "projection-2" = none at fresh
        rw [fresh] at stored
        cases stored
    · simp at split

end Clawchain.Projection
