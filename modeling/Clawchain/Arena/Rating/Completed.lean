import Clawchain.Arena.Rating.Writer
import Clawchain.Lib.Faulty
import Clawchain.Lib.Sorting

/-! A completed tournament at the writer: the rows it hands to the repository, one call after the other, once the states
of the miners are updated. -/
namespace Clawchain.Arena.Rating
open Clawchain.Lib

structure RatingInput where
  (id tournamentID : String)
  mode : ArenaMode
  humanOnly : Bool
  entrant : CompletedEntrant
  (confidenceWeight effectiveTournamentScore : ℚ)
  eligibleForMultiplier : Bool
  deriving DecidableEq, Repr

structure CollusionMetric where
  (id tournamentID minerAddress metricName : String)
  metricValue : ℚ
  noMultiplier : Bool
  (noMultiplierReason stageReached : String)
  deriving DecidableEq, Repr

structure RatingState where
  minerAddress : String
  (mu sigma arenaReliability : ℚ)
  (publicELO publicRank : Int)
  deriving DecidableEq, Repr

structure RatingSnapshot where
  id : String
  state : RatingState
  deriving DecidableEq, Repr

structure PublicLadderSnapshot where
  (id seasonID minerAddress : String)
  (publicRank publicELO : Int)
  tournamentID : String
  deriving DecidableEq, Repr

structure MultiplierSnapshot where
  (id tournamentID minerAddress : String)
  eligibleForMultiplier : Bool
  (tournamentScore confidenceWeight multiplierBefore multiplierAfter effectiveTournamentScore : ℚ)
  deriving DecidableEq, Repr

structure MinerCompatibility where
  address : String
  arenaMultiplier : ℚ
  deriving DecidableEq, Repr

structure ArenaResultEntry where
  (id tournamentID minerAddress : String)
  mode : ArenaMode
  (humanOnly eligibleForMultiplier : Bool)
  (arenaScore conservativeSkill multiplierAfter : ℚ)
  deriving DecidableEq, Repr

def rowID (kind : String) (completion : Completion) (item : OutcomeItem) : String :=
  kind ++ ":" ++ completion.tournamentID ++ ":" ++ item.entrant.minerAddress

def buildRatingInput (completion : Completion) (item : OutcomeItem) : RatingInput where
  id := rowID "ari" completion item
  tournamentID := completion.tournamentID
  mode := completion.mode
  humanOnly := completion.humanOnly
  entrant := item.entrant
  confidenceWeight := item.confidenceWeight
  effectiveTournamentScore := item.effectiveTournamentScore
  eligibleForMultiplier := item.eligibleForMultiplier

def buildCollusionMetric (completion : Completion) (outcome : Outcome) (item : OutcomeItem) (metricName : String)
    (metricValue : ℚ) : CollusionMetric where
  id := rowID "acm" completion item ++ ":" ++ metricName
  tournamentID := completion.tournamentID
  minerAddress := item.entrant.minerAddress
  metricName := metricName
  metricValue := metricValue
  noMultiplier := outcome.noMultiplier
  noMultiplierReason := outcome.noMultiplierReason
  stageReached := item.entrant.stageReached

def buildCollusionMetrics (completion : Completion) (outcome : Outcome) (item : OutcomeItem) : List CollusionMetric :=
  [buildCollusionMetric completion outcome item "confidence_weight" item.confidenceWeight,
    buildCollusionMetric completion outcome item "effective_tournament_score" item.effectiveTournamentScore]

def buildRatingState (item : OutcomeItem) : RatingState where
  minerAddress := item.entrant.minerAddress
  mu := item.muAfter
  sigma := item.sigmaAfter
  arenaReliability := item.arenaReliabilityAfter
  publicELO := item.publicELOAfter
  publicRank := item.publicRankAfter

def buildRatingSnapshot (completion : Completion) (item : OutcomeItem) : RatingSnapshot where
  id := rowID "ratingsnap" completion item
  state := buildRatingState item

def buildPublicLadderSnapshot (completion : Completion) (item : OutcomeItem) : PublicLadderSnapshot where
  id := rowID "ladder" completion item
  seasonID := defaultString completion.seasonID "arena-v1"
  minerAddress := item.entrant.minerAddress
  publicRank := item.publicRankAfter
  publicELO := item.publicELOAfter
  tournamentID := completion.tournamentID

def buildMultiplierSnapshot (completion : Completion) (item : OutcomeItem) : MultiplierSnapshot where
  id := rowID "mult" completion item
  tournamentID := completion.tournamentID
  minerAddress := item.entrant.minerAddress
  eligibleForMultiplier := item.eligibleForMultiplier
  tournamentScore := item.entrant.tournamentScore
  confidenceWeight := item.confidenceWeight
  multiplierBefore := item.multiplierBefore
  multiplierAfter := item.multiplierAfter
  effectiveTournamentScore := item.effectiveTournamentScore

def buildMinerCompatibility (item : OutcomeItem) : MinerCompatibility := ⟨item.entrant.minerAddress,item.multiplierAfter⟩

def buildArenaResultEntry (completion : Completion) (item : OutcomeItem) : ArenaResultEntry where
  id := rowID "are" completion item
  tournamentID := completion.tournamentID
  minerAddress := item.entrant.minerAddress
  mode := completion.mode
  humanOnly := completion.humanOnly
  eligibleForMultiplier := item.eligibleForMultiplier
  arenaScore := item.effectiveTournamentScore
  conservativeSkill := item.conservativeSkill
  multiplierAfter := item.multiplierAfter

inductive RepositoryCall where
  | assertSharedHarnessTables
  | appendRatingInputs (inputs : List RatingInput)
  | appendCollusionMetrics (metrics : List CollusionMetric)
  | upsertRatingState (state : RatingState)
  | saveRatingSnapshot (snapshot : RatingSnapshot)
  | savePublicLadderSnapshot (snapshot : PublicLadderSnapshot)
  | saveMultiplierSnapshot (snapshot : MultiplierSnapshot)
  | upsertMinerCompatibility (miner : MinerCompatibility)
  | upsertArenaResultEntry (entry : ArenaResultEntry)

def RepositoryCall.context : RepositoryCall → String
  | assertSharedHarnessTables => ""
  | appendRatingInputs _ => "append rating inputs: "
  | appendCollusionMetrics _ => "append collusion metrics: "
  | upsertRatingState state => "upsert rating state " ++ state.minerAddress ++ ": "
  | saveRatingSnapshot snapshot => "save rating snapshot " ++ snapshot.id ++ ": "
  | savePublicLadderSnapshot snapshot => "save public ladder snapshot " ++ snapshot.id ++ ": "
  | saveMultiplierSnapshot snapshot => "save multiplier snapshot " ++ snapshot.id ++ ": "
  | upsertMinerCompatibility miner => "upsert miner compatibility " ++ miner.address ++ ": "
  | upsertArenaResultEntry entry => "upsert arena result entry " ++ entry.id ++ ": "

/-- Every kind of row after the other; inputs and metrics are appended at once when there are any. -/
def rowCalls (completion : Completion) (outcome : Outcome) : List RepositoryCall :=
  let inputs := outcome.items.map (buildRatingInput completion)
  let metrics := outcome.items.flatMap (buildCollusionMetrics completion outcome)
  (if inputs = [] then [] else [.appendRatingInputs inputs]) ++
    (if metrics = [] then [] else [.appendCollusionMetrics metrics]) ++
    outcome.items.map (fun item => .upsertRatingState (buildRatingState item)) ++
    outcome.items.map (fun item => .saveRatingSnapshot (buildRatingSnapshot completion item)) ++
    outcome.items.map (fun item => .savePublicLadderSnapshot (buildPublicLadderSnapshot completion item)) ++
    outcome.items.map (fun item => .saveMultiplierSnapshot (buildMultiplierSnapshot completion item)) ++
    outcome.items.map (fun item => .upsertMinerCompatibility (buildMinerCompatibility item)) ++
    outcome.items.map fun item => .upsertArenaResultEntry (buildArenaResultEntry completion item)

structure Session where
  states : OrdMap String MinerState
  made : List RepositoryCall := []

/-- Which call is refused, by the number of calls before it, and with which error. -/
abbrev Repository := Nat → Option String

def Repository.call (repository : Repository) (call : RepositoryCall) : Faulty Session String Unit :=
  Faulty.read fun session => do
    Faulty.modify fun session => { session with made := session.made ++ [call] }
    match repository session.made.length with
    | none => pure ()
    | some error => Faulty.fail (call.context ++ error)

/-- The states are updated before the first row is written. -/
def onTournamentCompleted (repo : Option Repository) (completion : Completion) : Faulty Session String Unit :=
  match repo with
  | none => Faulty.fail "rating repository is required"
  | some repository => do
    repository.call .assertSharedHarnessTables
    Faulty.read fun session => do
      Faulty.modify fun session => { session with states := (applyCompletedTournament session.states completion).1 }
      Faulty.each repository.call (rowCalls completion (applyCompletedTournament session.states completion).2)

def complete (repo : Option Repository) (completion : Completion) (states : OrdMap String MinerState) :
    Except String Unit × OrdMap String MinerState :=
  let (ended,session) := onTournamentCompleted repo completion { states := states }
  (ended,session.states)

section Calls
variable {repository : Repository} {completion : Completion} {states : OrdMap String MinerState}

theorem call_run (call : RepositoryCall) (session : Session) : repository.call call session =
    ((match repository session.made.length with | none => .ok () | some error => .error (call.context ++ error)),
      { session with made := session.made ++ [call] }) := by
  change (match repository session.made.length with
    | none => pure ()
    | some error => Faulty.fail (call.context ++ error) : Faulty Session String Unit)
    { session with made := session.made ++ [call] } = _
  cases repository session.made.length <;> rfl

theorem each_call (calls : List RepositoryCall) (session : Session) :
    (Faulty.each repository.call calls session).2.states = session.states ∧
      ((∃ e, (Faulty.each repository.call calls session).1 = .error e) ↔
        ∃ i < calls.length, (repository (session.made.length + i)).isSome) := by
  induction calls generalizing session with
  | nil => exact ⟨rfl,iff_of_false (by rintro ⟨e,failed⟩; cases failed) (by simp)⟩
  | cons call rest ih =>
    cases refused : repository session.made.length with
    | some error =>
      have fails : repository.call call session = 
          (.error (call.context ++ error),{ session with made := session.made ++ [call] }) := by rw [call_run,refused]
      rw [Faulty.each,Faulty.bind_of_error _ fails]
      exact ⟨rfl,iff_of_true ⟨_,rfl⟩ ⟨0,by simp,by simp [refused]⟩⟩
    | none =>
      have taken : repository.call call session = (.ok (),{ session with made := session.made ++ [call] }) := by
        rw [call_run,refused]
      rw [Faulty.each,Faulty.bind_of_ok _ taken]
      obtain ⟨same,refusals⟩ := ih { session with made := session.made ++ [call] }
      refine ⟨same,refusals.trans ⟨?_,?_⟩⟩
      · rintro ⟨i,less,some⟩
        refine ⟨i + 1,by simpa using less,?_⟩
        rwa [List.length_append,List.length_singleton,Nat.add_right_comm] at some
      · rintro ⟨i,less,some⟩
        cases i with
        | zero => simp [refused] at some
        | succ i =>
          refine ⟨i,by simpa using less,?_⟩
          rwa [List.length_append,List.length_singleton,Nat.add_right_comm]

def callsOf (completion : Completion) : Nat :=
  if completion.entrants = [] then 1 else 3 + 6 * completion.entrants.length

theorem length_applyEntrants (noMultiplier : Bool) (states : OrdMap String MinerState) (list : List (CompletedEntrant × ℚ)) :
    (applyEntrants completion noMultiplier states list).2.length = list.length := by
  induction list generalizing states with
  | nil => rfl
  | cons head rest ih => exact congrArg Nat.succ (ih _)

theorem length_rowCalls : 1 + (rowCalls completion (applyCompletedTournament states completion).2).length = callsOf completion := by
  have items : (applyCompletedTournament states completion).2.items.length = completion.entrants.length := by
    refine (List.length_map _).trans ((length_applyEntrants _ _ _).trans ?_)
    rw [List.length_zip,length_weights,min_self]
  have none : completion.entrants = [] ↔ (applyCompletedTournament states completion).2.items = [] := by
    rw [← List.length_eq_zero_iff,← List.length_eq_zero_iff,items]
  unfold rowCalls callsOf
  rw [if_congr none rfl rfl,← items]
  cases (applyCompletedTournament states completion).2.items with
  | nil => rfl
  | cons item rest =>
    simp [buildCollusionMetrics]
    omega

theorem complete_refused {error : String} (refused : repository 0 = some error) :
    complete (some repository) completion states = (.error error,states) := by
  have fails : repository.call .assertSharedHarnessTables { states := states } =
      (.error error,⟨states,[.assertSharedHarnessTables]⟩) := by
    rw [call_run,List.length_nil,refused]
    exact Prod.ext (congrArg Except.error String.empty_append) rfl
  unfold complete onTournamentCompleted
  dsimp only
  rw [Faulty.bind_of_error _ fails]

theorem complete_applied (checked : repository 0 = none) :
    (complete (some repository) completion states).2 = (applyCompletedTournament states completion).1 ∧
      ((∃ e, (complete (some repository) completion states).1 = .error e) ↔
        ∃ i, 1 ≤ i ∧ i < callsOf completion ∧ (repository i).isSome) := by
  have taken : repository.call .assertSharedHarnessTables { states := states } =
      (.ok (),⟨states,[.assertSharedHarnessTables]⟩) := by
    rw [call_run,List.length_nil,checked]
    rfl
  obtain ⟨same,refusals⟩ := @each_call repository (rowCalls completion (applyCompletedTournament states completion).2)
    ⟨(applyCompletedTournament states completion).1,[.assertSharedHarnessTables]⟩
  unfold complete onTournamentCompleted
  dsimp only
  rw [Faulty.bind_of_ok _ taken,Faulty.read_run,Faulty.modify_bind]
  refine ⟨same,refusals.trans ?_⟩
  rw [← @length_rowCalls completion states]
  constructor
  · rintro ⟨i,less,some⟩
    exact ⟨1 + i,by omega,by omega,some⟩
  · rintro ⟨i,least,less,some⟩
    exact ⟨i - 1,by omega,by rwa [List.length_singleton,Nat.add_sub_cancel' least]⟩

end Calls

def RanksInPlace (states : OrdMap String MinerState) : Prop :=
  ∀ entry ∈ states.entries, entry.2.publicRank = placeOf states entry

instance : DecidablePred RanksInPlace := fun states => inferInstanceAs (Decidable (∀ entry ∈ states.entries, _))

structure Idle (states : OrdMap String MinerState) (completion : Completion) : Prop where
  gated : Gated completion
  known : ∀ minerAddress ∈ minersOf completion, (states.get? minerAddress).isSome
  ranks : RanksInPlace states

section Idle
variable {completion : Completion} {states : OrdMap String MinerState} {noMultiplier : Bool}
  {list : List (CompletedEntrant × ℚ)}

theorem recompute_eq_self : recomputePublicRanks states = states ↔ RanksInPlace states := by
  constructor
  · rintro same ⟨address,state⟩ inside
    have held := OrdMap.get?_eq_some_iff.mpr inside
    have ranked := get?_recompute states address
    rw [same,held,Option.map_some] at ranked
    exact congrArg MinerState.publicRank (Option.some.inj ranked)
  · intro inPlace
    refine OrdMap.ext_get? fun address => ?_
    rw [get?_recompute]
    cases held : states.get? address with
    | none => rfl
    | some state =>
      rw [Option.map_some,← inPlace _ (OrdMap.get?_eq_some_iff.mp held)]

theorem applied_closed (known : ∀ entry ∈ list, (states.get? entry.1.minerAddress).isSome) :
    (applyEntrants completion true states list).1 = states := by
  induction list with
  | nil => rfl
  | cons head rest ih =>
    obtain ⟨state,held⟩ := Option.isSome_iff_exists.mp (known head List.mem_cons_self)
    have unchanged : states.insert head.1.minerAddress (nextState completion true
        (currentState states head.1.minerAddress) head.1 head.2) = states := by
      rw [nextState_closed]
      unfold currentState
      rw [held]
      exact OrdMap.insert_of_get? held
    have later := ih fun entry inside => known entry (List.mem_cons_of_mem _ inside)
    change (applyEntrants completion true (states.insert _ _) rest).1 = states
    rw [unchanged,later]

theorem applied_isSome {minerAddress : String}
    (known : (states.get? minerAddress).isSome ∨ minerAddress ∈ list.map (·.1.minerAddress)) :
    ((applyEntrants completion noMultiplier states list).1.get? minerAddress).isSome := by
  induction list generalizing states with
  | nil => exact known.resolve_right (List.not_mem_nil)
  | cons head rest ih =>
    apply ih
    rw [OrdMap.get?_insert]
    split_ifs with same
    · exact .inl rfl
    · rw [List.map_cons,List.mem_cons] at known
      exact known.imp_right fun inside => inside.resolve_left same

theorem applied_count (minerAddress : String) : (currentState states minerAddress).eligibleTournamentCount ≤
    (currentState (applyEntrants completion noMultiplier states list).1 minerAddress).eligibleTournamentCount := by
  induction list generalizing states with
  | nil => exact le_refl _
  | cons head rest ih =>
    refine le_trans ?_ ih
    rw [currentState_insert]
    split_ifs with same
    · unfold nextState
      split_ifs
      · rw [same]
        exact Int.le_add_one (le_refl _)
      · rw [same]
    · exact le_refl _

theorem applied_counts {first : CompletedEntrant × ℚ} {rest : List (CompletedEntrant × ℚ)}
    (eligible : ratingEligible completion noMultiplier first.2) :
    (currentState states first.1.minerAddress).eligibleTournamentCount <
      (currentState (applyEntrants completion noMultiplier states (first :: rest)).1 first.1.minerAddress).eligibleTournamentCount := by
  have raised := @applied_count completion (states.insert first.1.minerAddress (nextState completion noMultiplier
    (currentState states first.1.minerAddress) first.1 first.2)) noMultiplier rest first.1.minerAddress
  rw [currentState_insert,if_pos rfl] at raised
  refine lt_of_lt_of_le ?_ raised
  rw [nextState,if_pos eligible]
  exact Int.lt_succ _

theorem apply_eq_self (entered : completion.entrants ≠ []) :
    (applyCompletedTournament states completion).1 = states ↔ Idle states completion := by
  have known_closed (gated : Gated completion) (known : ∀ minerAddress ∈ minersOf completion, (states.get? minerAddress).isSome) :
      (applyCompletedTournament states completion).1 = recomputePublicRanks states := by
    rw [applied_states,gate_closed gated,applied_closed]
    intro entry inside
    exact known _ (weighed_miners completion ▸ List.mem_map_of_mem (f := (·.1.minerAddress)) inside)
  constructor
  · intro same
    have gated : Gated completion := by
      by_contra counts
      obtain ⟨first,rest,listed⟩ := List.exists_cons_of_ne_nil entered
      have less := @applied_counts completion states false (first,resolveConfidenceWeight completion first)
        (rest.zip (rest.map (resolveConfidenceWeight completion))) (eligible_open counts (listed ▸ List.mem_cons_self))
      obtain ⟨rank,ranked⟩ := currentState_recompute (applyEntrants completion false states
        (completion.entrants.zip (completion.entrants.map (resolveConfidenceWeight completion)))).1 first.minerAddress
      rw [applied_states,gate_open counts] at same
      rw [same,listed] at ranked
      rw [ranked] at less
      exact lt_irrefl _ less
    have known : ∀ minerAddress ∈ minersOf completion, (states.get? minerAddress).isSome := by
      intro minerAddress inside
      rw [← same,applied_states,get?_recompute,Option.isSome_map]
      exact applied_isSome (.inr ((weighed_miners completion).symm ▸ inside))
    exact ⟨gated,known,recompute_eq_self.mp ((known_closed gated known).symm.trans same)⟩
  · intro idle
    rw [known_closed idle.gated idle.known]
    exact recompute_eq_self.mpr idle.ranks

end Idle

/-- A call that fails leaves the states as they were, and a retry that succeeds those of one call that succeeds. -/
def AtomicUnderRetry (repo : Option Repository) (completion : Completion) (states : OrdMap String MinerState) : Prop :=
  (∃ e, (complete repo completion states).1 = .error e) → (complete repo completion states).2 = states ∧
    ∀ retry once, (complete retry completion (complete repo completion states).2).1 = .ok () →
      (complete once completion states).1 = .ok () →
        (complete retry completion (complete repo completion states).2).2 = (complete once completion states).2

/-- The states of the writer are safe from a refused row: the tables are not there, no call that is made is refused, or
the tournament changes nothing. -/
def Sheltered (repository : Repository) (completion : Completion) (states : OrdMap String MinerState) : Prop :=
  (repository 0).isSome ∨ (∀ i < callsOf completion, repository i = none) ∨ Idle states completion

theorem complete_succeeded {retry : Option Repository} {completion : Completion} {states : OrdMap String MinerState}
    (done : (complete retry completion states).1 = .ok ()) :
    (complete retry completion states).2 = (applyCompletedTournament states completion).1 := by
  cases retry with
  | none => cases done
  | some repository =>
    cases refused : repository 0 with
    | some error =>
      rw [complete_refused refused] at done
      cases done
    | none => exact (complete_applied refused).1

/-- A completion is atomic under retry exactly when no repository is set or the states are sheltered. -/
theorem completion_atomic (repo : Option Repository) (completion : Completion) (states : OrdMap String MinerState) :
    AtomicUnderRetry repo completion states ↔ ∀ repository, repo = some repository → Sheltered repository completion states := by
  have unchanged : AtomicUnderRetry repo completion states ↔
      ((∃ e, (complete repo completion states).1 = .error e) → (complete repo completion states).2 = states) := by
    refine ⟨fun atomic fails => (atomic fails).1,fun same fails => ⟨same fails,fun retry once done done' => ?_⟩⟩
    rw [complete_succeeded done,complete_succeeded done',same fails]
  rw [unchanged]
  cases repo with
  | none => exact iff_of_true (fun _ => rfl) fun repository none => by cases none
  | some repository =>
    simp only [Option.some.injEq,forall_eq']
    cases refused : repository 0 with
    | some error =>
      refine iff_of_true (fun _ => ?_) (.inl (by simp [refused]))
      rw [complete_refused refused]
    | none =>
      obtain ⟨applied,fails⟩ := @complete_applied repository completion states refused
      rw [fails,applied]
      constructor
      · intro same
        by_cases taken : ∀ i < callsOf completion, repository i = none
        · exact .inr (.inl taken)
        · push Not at taken
          obtain ⟨i,less,some⟩ := taken
          have later : 1 ≤ i := Nat.one_le_iff_ne_zero.mpr fun zero => some (zero ▸ refused)
          have entered : completion.entrants ≠ [] := fun none => by
            rw [callsOf,if_pos none] at less
            omega
          exact .inr (.inr ((apply_eq_self entered).mp (same ⟨i,later,less,Option.isSome_iff_ne_none.mpr some⟩)))
      · rintro sheltered ⟨i,later,less,some⟩
        rcases sheltered with first | taken | idle
        · simp [refused] at first
        · simp [taken i less] at some
        · have entered : completion.entrants ≠ [] := fun none => by
            rw [callsOf,if_pos none] at less
            omega
          exact (apply_eq_self entered).mpr idle

def refusesInputs : Repository := fun i => if i = 1 then some "connection lost" else none

/-- A won tournament whose rating inputs were refused is rated twice. -/
theorem won_tournament_rated_twice : ¬AtomicUnderRetry (some refusesInputs) wonTournament OrdMap.empty := by
  intro atomic
  have fails : (complete (some refusesInputs) wonTournament OrdMap.empty).1 =
      .error "append rating inputs: connection lost" := by decide +kernel
  have twice : (complete (some fun _ => none) wonTournament (complete (some refusesInputs) wonTournament OrdMap.empty).2).2 ≠
      (complete (some fun _ => none) wonTournament OrdMap.empty).2 := by decide +kernel
  exact twice ((atomic ⟨_,fails⟩).2 _ _ (by decide +kernel) (by decide +kernel))

end Clawchain.Arena.Rating
