import Clawchain.Arena.Model
import Clawchain.Lib.Floats
import Clawchain.Lib.OrdMap
import Clawchain.Lib.Sorting

/-! The rating writer: what a completed tournament does to the states of its miners, with exact rationals for the
floating point numbers. -/
namespace Clawchain.Arena.Rating
open Clawchain.Lib

def defaultMu : ℚ := 25
def defaultSigma : ℚ := 8333333 / 1000000
def defaultArenaReliability : ℚ := 1
def defaultPublicELO : Int := 1200
def defaultMultiplier : ℚ := 1
def warmupClampEligibleCount : Int := 15
def maxMultiplierStep : ℚ := 1 / 100

structure MinerState where
  mu : ℚ := defaultMu
  sigma : ℚ := defaultSigma
  arenaReliability : ℚ := defaultArenaReliability
  publicELO : Int := defaultPublicELO
  publicRank : Int := 0
  multiplier : ℚ := defaultMultiplier
  eligibleTournamentCount : Int := 0
  deriving DecidableEq, Repr

structure CompletedEntrant where
  (entrantID minerAddress : String)
  economicUnitID : String := ""
  finishRank : Int := 0
  finishPercentile : ℚ := 0
  handsPlayed : Int := 0
  meaningfulDecisions : Int := 0
  autoActions : Int := 0
  timeoutActions : Int := 0
  invalidActions : Int := 0
  stageReached : String := ""
  tournamentScore : ℚ
  confidenceWeight : ℚ := 0
  fieldStrengthAdjustment : ℚ := 0
  botAdjustment : ℚ := 0
  timeCapAdjustment : ℚ := 0
  deriving DecidableEq, Repr

structure Completion where
  tournamentID : String
  mode : ArenaMode
  humanOnly : Bool
  noMultiplier : Bool := false
  noMultiplierReason : String := ""
  seasonID : String := ""
  confidenceWeight : ℚ := 0
  entrants : List CompletedEntrant
  deriving DecidableEq, Repr

def clampFloat (value minValue maxValue : ℚ) : ℚ :=
  if value < minValue then minValue else if value > maxValue then maxValue else value

def round2 (value : ℚ) : ℚ := roundHalfAway (value * 100) / 100

def bucketConfidenceWeight (weight : ℚ) : ℚ :=
  if weight ≤ 0 then 0
  else [1 / 2,3 / 4,1].foldl (fun best candidate => if |weight - candidate| < |weight - best| then candidate else best)
    (1 / 4)

def resolveConfidenceWeight (completion : Completion) (entrant : CompletedEntrant) : ℚ :=
  if entrant.confidenceWeight > 0 then bucketConfidenceWeight entrant.confidenceWeight
  else if completion.confidenceWeight > 0 then bucketConfidenceWeight completion.confidenceWeight
  else if completion.mode ≠ .rated then 0
  else if entrant.handsPlayed ≥ 20 ∧ entrant.meaningfulDecisions ≥ 12 ∧ entrant.timeoutActions = 0 ∧
      entrant.invalidActions = 0 then 1
  else if entrant.handsPlayed ≥ 12 ∧ entrant.meaningfulDecisions ≥ 8 then 3 / 4
  else if entrant.handsPlayed ≥ 8 ∧ entrant.meaningfulDecisions ≥ 5 then 1 / 2
  else if entrant.handsPlayed > 0 then 1 / 4
  else 0

def defaultString (value fallback : String) : String := if value = "" then fallback else value

structure MultiplierGate where
  noMultiplier : Bool
  reason : String
  weights : List ℚ

/-- The weights up to the first that is zero, which closes the gate. Those behind it are not resolved and stay zero. -/
def resolveWeights (completion : Completion) : List CompletedEntrant → MultiplierGate
  | [] => ⟨false,"",[]⟩
  | entrant :: rest =>
    if resolveConfidenceWeight completion entrant = 0 then
      ⟨true,"zero_confidence_weight",List.replicate (rest.length + 1) 0⟩
    else
      let gate := resolveWeights completion rest
      { gate with weights := resolveConfidenceWeight completion entrant :: gate.weights }

def resolveTournamentMultiplierGate (completion : Completion) : MultiplierGate :=
  let unresolved := List.replicate completion.entrants.length 0
  if completion.noMultiplier then ⟨true,defaultString completion.noMultiplierReason "explicit_hold",unresolved⟩
  else if completion.mode ≠ .rated then ⟨true,"practice_tournament",unresolved⟩
  else if !completion.humanOnly then ⟨true,"non_human_only",unresolved⟩
  else resolveWeights completion completion.entrants

def currentState (states : OrdMap String MinerState) (minerAddress : String) : MinerState :=
  (states.get? minerAddress).getD {}

/-- The multiplier stays at its default for the first tournaments and moves in small steps after them. -/
def nextMultiplier (state : MinerState) (effectiveScore : ℚ) : ℚ :=
  if state.eligibleTournamentCount + 1 ≤ warmupClampEligibleCount then defaultMultiplier
  else clampFloat (round2 (state.multiplier +
    clampFloat ((effectiveScore - 1 / 2) / 40) (-maxMultiplierStep) maxMultiplierStep)) (1 / 2) 2

def ratedState (state : MinerState) (effectiveScore weight : ℚ) : MinerState where
  mu := state.mu + (effectiveScore - 1 / 2) * 4
  sigma := clampFloat (state.sigma - 1 / 4 * weight) 1 defaultSigma
  arenaReliability := clampFloat (state.arenaReliability + 1 / 10 * weight) (1 / 4) 2
  publicELO := state.publicELO + roundHalfAway ((effectiveScore - 1 / 2) * 40)
  publicRank := state.publicRank
  multiplier := nextMultiplier state effectiveScore
  eligibleTournamentCount := state.eligibleTournamentCount + 1

def ratingEligible (completion : Completion) (noMultiplier : Bool) (weight : ℚ) : Prop :=
  completion.mode = .rated ∧ completion.humanOnly ∧ ¬noMultiplier ∧ weight > 0

instance (completion : Completion) (noMultiplier : Bool) (weight : ℚ) :
    Decidable (ratingEligible completion noMultiplier weight) :=
  inferInstanceAs (Decidable (_ ∧ _ ∧ _ ∧ _))

def nextState (completion : Completion) (noMultiplier : Bool) (state : MinerState) (entrant : CompletedEntrant)
    (weight : ℚ) : MinerState :=
  if ratingEligible completion noMultiplier weight then ratedState state (entrant.tournamentScore * weight) weight
  else state

structure OutcomeItem where
  entrant : CompletedEntrant
  (effectiveTournamentScore confidenceWeight : ℚ)
  eligibleForMultiplier : Bool
  (muAfter sigmaAfter arenaReliabilityAfter : ℚ)
  publicELOAfter : Int
  publicRankAfter : Int := 0
  (multiplierBefore multiplierAfter conservativeSkill : ℚ)
  deriving DecidableEq, Repr

def outcomeItem (completion : Completion) (noMultiplier : Bool) (state : MinerState) (entrant : CompletedEntrant)
    (weight : ℚ) : OutcomeItem :=
  let next := nextState completion noMultiplier state entrant weight
  { entrant := entrant
    effectiveTournamentScore := entrant.tournamentScore * weight
    confidenceWeight := weight
    eligibleForMultiplier := ratingEligible completion noMultiplier weight
    muAfter := next.mu
    sigmaAfter := next.sigma
    arenaReliabilityAfter := next.arenaReliability
    publicELOAfter := next.publicELO
    multiplierBefore := state.multiplier
    multiplierAfter := next.multiplier
    conservativeSkill := next.mu - 3 * next.sigma }

def applyEntrants (completion : Completion) (noMultiplier : Bool) (states : OrdMap String MinerState) :
    List (CompletedEntrant × ℚ) → OrdMap String MinerState × List OutcomeItem
  | [] => (states,[])
  | (entrant,weight) :: rest =>
    let state := currentState states entrant.minerAddress
    let (after,items) := applyEntrants completion noMultiplier
      (states.insert entrant.minerAddress (nextState completion noMultiplier state entrant weight)) rest
    (after,outcomeItem completion noMultiplier state entrant weight :: items)

def rankedBefore (a b : String × MinerState) : Prop :=
  b.2.publicELO < a.2.publicELO ∨ a.2.publicELO = b.2.publicELO ∧ a.1 ≤ b.1

instance : DecidableRel rankedBefore := fun a b =>
  inferInstanceAs (Decidable (b.2.publicELO < a.2.publicELO ∨ a.2.publicELO = b.2.publicELO ∧ a.1 ≤ b.1))

def withRank (states : OrdMap String MinerState) (place : (String × MinerState) × Nat) : OrdMap String MinerState :=
  states.modifyAt place.1.1 fun state => { state with publicRank := place.2 + 1 }

def recomputePublicRanks (states : OrdMap String MinerState) : OrdMap String MinerState :=
  ((states.entries.insertionSort rankedBefore).zipIdx).foldl withRank states

def attachPublicRanks (states : OrdMap String MinerState) (items : List OutcomeItem) : List OutcomeItem :=
  items.map fun item => { item with publicRankAfter := (currentState states item.entrant.minerAddress).publicRank }

structure Outcome where
  noMultiplier : Bool
  noMultiplierReason : String
  items : List OutcomeItem

def applyCompletedTournament (states : OrdMap String MinerState) (completion : Completion) :
    OrdMap String MinerState × Outcome :=
  let gate := resolveTournamentMultiplierGate completion
  let (applied,items) := applyEntrants completion gate.noMultiplier states (completion.entrants.zip gate.weights)
  let ranked := recomputePublicRanks applied
  (ranked,⟨gate.noMultiplier,gate.reason,attachPublicRanks ranked items⟩)

def statesAfter (completions : List Completion) : OrdMap String MinerState :=
  completions.foldl (fun states completion => (applyCompletedTournament states completion).1) OrdMap.empty

def currentMultiplier (states : OrdMap String MinerState) (minerAddress : String) : ℚ :=
  (currentState states minerAddress).multiplier

/-- Practice, non-human-only, no-multiplier and zero-confidence tournaments. -/
def Gated (completion : Completion) : Prop :=
  completion.mode ≠ .rated ∨ completion.humanOnly = false ∨ completion.noMultiplier = true ∨
    ∃ entrant ∈ completion.entrants, resolveConfidenceWeight completion entrant = 0

instance : DecidablePred Gated := fun completion =>
  inferInstanceAs (Decidable (_ ∨ _ ∨ _ ∨ ∃ entrant ∈ completion.entrants, _))

def minersOf (completion : Completion) : List String := completion.entrants.map CompletedEntrant.minerAddress

def EligibleFor (minerAddress : String) (completion : Completion) : Prop :=
  ¬Gated completion ∧ minerAddress ∈ minersOf completion

instance (minerAddress : String) : DecidablePred (EligibleFor minerAddress) := fun _ =>
  inferInstanceAs (Decidable (_ ∧ _))

def eligibleTournaments (completions : List Completion) (minerAddress : String) : Nat :=
  completions.countP fun completion => EligibleFor minerAddress completion

section Gate
variable {completion : Completion} {entrant : CompletedEntrant} {entrants : List CompletedEntrant}

theorem bucketConfidenceWeight_nonneg (weight : ℚ) : 0 ≤ bucketConfidenceWeight weight := by
  unfold bucketConfidenceWeight
  simp only [List.foldl_cons,List.foldl_nil]
  split_ifs <;> norm_num

theorem resolveConfidenceWeight_nonneg (completion : Completion) (entrant : CompletedEntrant) :
    0 ≤ resolveConfidenceWeight completion entrant := by
  unfold resolveConfidenceWeight
  split_ifs
  · exact bucketConfidenceWeight_nonneg _
  · exact bucketConfidenceWeight_nonneg _
  all_goals norm_num

theorem resolveWeights_open (weighed : ∀ entrant ∈ entrants, resolveConfidenceWeight completion entrant ≠ 0) :
    resolveWeights completion entrants = ⟨false,"",entrants.map (resolveConfidenceWeight completion)⟩ := by
  induction entrants with
  | nil => rfl
  | cons entrant rest ih =>
    have later := ih fun other inside => weighed other (List.mem_cons_of_mem _ inside)
    simp [resolveWeights,weighed entrant List.mem_cons_self,later]

theorem resolveWeights_closed (zero : ∃ entrant ∈ entrants, resolveConfidenceWeight completion entrant = 0) :
    (resolveWeights completion entrants).noMultiplier = true := by
  induction entrants with
  | nil => simp at zero
  | cons entrant rest ih =>
    rw [resolveWeights]
    split_ifs with first
    · rfl
    · obtain ⟨other,inside,none⟩ := zero
      rcases List.mem_cons.mp inside with rfl | inside
      · exact absurd none first
      · exact ih ⟨other,inside,none⟩

theorem length_resolveWeights : (resolveWeights completion entrants).weights.length = entrants.length := by
  induction entrants with
  | nil => rfl
  | cons entrant rest ih =>
    rw [resolveWeights]
    split_ifs
    · simp
    · simp [ih]

theorem length_weights : (resolveTournamentMultiplierGate completion).weights.length = completion.entrants.length := by
  unfold resolveTournamentMultiplierGate
  dsimp only
  split_ifs
  · simp
  · simp
  · simp
  · exact length_resolveWeights

theorem weighed_miners (completion : Completion) :
    (completion.entrants.zip (resolveTournamentMultiplierGate completion).weights).map (·.1.minerAddress) = minersOf completion := by
  have firsts : (completion.entrants.zip (resolveTournamentMultiplierGate completion).weights).map Prod.fst =
      completion.entrants := List.map_fst_zip length_weights.ge
  unfold minersOf
  conv_rhs => rw [← firsts,List.map_map]
  rfl

theorem gate_closed (gated : Gated completion) : (resolveTournamentMultiplierGate completion).noMultiplier = true := by
  unfold resolveTournamentMultiplierGate
  dsimp only
  split_ifs with held practice nonHuman
  · rfl
  · rfl
  · rfl
  · refine resolveWeights_closed ?_
    rcases gated with other | other | other | zero
    · exact absurd other practice
    · simp [other] at nonHuman
    · exact absurd other held
    · exact zero

theorem gate_open (counts : ¬Gated completion) : resolveTournamentMultiplierGate completion =
    ⟨false,"",completion.entrants.map (resolveConfidenceWeight completion)⟩ := by
  simp only [Gated,not_or,not_exists,not_and,not_not] at counts
  obtain ⟨rated,human,free,weighed⟩ := counts
  simp [resolveTournamentMultiplierGate,rated,human,free,resolveWeights_open weighed]

theorem nextState_closed (state : MinerState) (weight : ℚ) : nextState completion true state entrant weight = state :=
  if_neg fun eligible => eligible.2.2.1 rfl

theorem eligible_open (counts : ¬Gated completion) (inside : entrant ∈ completion.entrants) :
    ratingEligible completion false (resolveConfidenceWeight completion entrant) := by
  simp only [Gated,not_or,not_exists,not_and,not_not] at counts
  obtain ⟨rated,human,-,weighed⟩ := counts
  have positive := lt_of_le_of_ne (resolveConfidenceWeight_nonneg completion entrant) (Ne.symm (weighed entrant inside))
  exact ⟨rated,by simpa using human,by simp,positive⟩

end Gate

def Ahead (a b : String × MinerState) : Prop :=
  b.2.publicELO < a.2.publicELO ∨ a.2.publicELO = b.2.publicELO ∧ a.1 < b.1

instance : DecidableRel Ahead := fun a b =>
  inferInstanceAs (Decidable (b.2.publicELO < a.2.publicELO ∨ a.2.publicELO = b.2.publicELO ∧ a.1 < b.1))

def placeOf (states : OrdMap String MinerState) (entry : String × MinerState) : Int :=
  states.entries.countP (fun other => Ahead other entry) + 1

section Ranks
variable {states : OrdMap String MinerState} {places : List ((String × MinerState) × Nat)}

theorem foldl_withRank_of_not_mem {address : String} (absent : address ∉ places.map (·.1.1)) :
    (places.foldl withRank states).get? address = states.get? address := by
  induction places generalizing states with
  | nil => rfl
  | cons place rest ih =>
    rw [List.map_cons,List.mem_cons,not_or] at absent
    rw [List.foldl_cons,ih absent.2,withRank,OrdMap.get?_modifyAt,if_neg absent.1]

theorem foldl_withRank_of_mem (distinct : (places.map (·.1.1)).Nodup) {place : (String × MinerState) × Nat}
    (inside : place ∈ places) : (places.foldl withRank states).get? place.1.1 =
      (states.get? place.1.1).map fun state => { state with publicRank := place.2 + 1 } := by
  induction places generalizing states with
  | nil => simp at inside
  | cons first rest ih =>
    rw [List.map_cons,List.nodup_cons] at distinct
    rw [List.foldl_cons]
    rcases List.mem_cons.mp inside with rfl | inside
    · rw [foldl_withRank_of_not_mem distinct.1,withRank,OrdMap.get?_modifyAt,if_pos rfl]
    · have other : place.1.1 ≠ first.1.1 := fun same => distinct.1 (same ▸ List.mem_map_of_mem (f := (·.1.1)) inside)
      rw [ih distinct.2 inside,withRank,OrdMap.get?_modifyAt,if_neg other]

theorem ranked_ahead (states : OrdMap String MinerState) : (states.entries.insertionSort rankedBefore).Pairwise Ahead := by
  have total : Std.Total rankedBefore := ⟨fun a b => by
    rcases lt_trichotomy a.2.publicELO b.2.publicELO with less | same | more
    · exact .inr (.inl less)
    · exact (le_total a.1 b.1).imp (fun below => .inr ⟨same,below⟩) fun above => .inr ⟨same.symm,above⟩
    · exact .inl (.inl more)⟩
  have trans : IsTrans _ rankedBefore := ⟨fun a b c first next => by
    rcases first with more | ⟨same,below⟩ <;> rcases next with more' | ⟨same',below'⟩
    · exact .inl (more'.trans more)
    · exact .inl (same' ▸ more)
    · exact .inl (same ▸ more')
    · exact .inr ⟨same.trans same',below.trans below'⟩⟩
  have apart : (states.entries.insertionSort rankedBefore).Pairwise fun a b => a.1 ≠ b.1 := by
    have distinct := (List.perm_insertionSort rankedBefore states.entries).map Prod.fst |>.nodup_iff.mpr states.keys_nodup
    exact List.pairwise_map.mp distinct
  refine (apart.and (List.pairwise_insertionSort rankedBefore states.entries)).imp ?_
  rintro a b ⟨differ,more | ⟨same,below⟩⟩
  · exact .inl more
  · exact .inr ⟨same,lt_of_le_of_ne below differ⟩

theorem get?_recompute (states : OrdMap String MinerState) (address : String) :
    (recomputePublicRanks states).get? address =
      (states.get? address).map fun state => { state with publicRank := placeOf states (address,state) } := by
  have perm := List.perm_insertionSort rankedBefore states.entries
  have addresses : ((states.entries.insertionSort rankedBefore).zipIdx.map (·.1.1)) =
      (states.entries.insertionSort rankedBefore).map Prod.fst := by
    conv_rhs => rw [← List.zipIdx_map_fst 0 (states.entries.insertionSort rankedBefore),List.map_map]
    rfl
  unfold recomputePublicRanks
  cases held : states.get? address with
  | none =>
    rw [foldl_withRank_of_not_mem,held,Option.map_none]
    rw [addresses,(perm.map Prod.fst).mem_iff]
    exact OrdMap.get?_eq_none_iff.mp held
  | some state =>
    obtain ⟨i,found⟩ := List.mem_iff_getElem?.mp (perm.mem_iff.mpr (OrdMap.get?_eq_some_iff.mp held))
    have place := @foldl_withRank_of_mem states _ (addresses ▸ (perm.map Prod.fst).nodup_iff.mpr states.keys_nodup)
      ((address,state),i) (List.mem_zipIdx_iff_getElem?.mpr found)
    have asymm (a b : String × MinerState) (ahead : Ahead a b) : ¬Ahead b a := by
      rintro (more | ⟨same,below⟩) <;> rcases ahead with more' | ⟨same',below'⟩
      · exact absurd more (by omega)
      · exact absurd more (by omega)
      · exact absurd more' (by omega)
      · exact absurd below' (lt_asymm below)
    have counted := Sorting.countP_before asymm (ranked_ahead states) found
    rw [perm.countP_eq] at counted
    rw [place,held,Option.map_some,Option.map_some]
    unfold placeOf
    rw [counted]

end Ranks

section Step
variable {completion : Completion} {noMultiplier : Bool} {states : OrdMap String MinerState} {minerAddress : String}
  {list : List (CompletedEntrant × ℚ)}

theorem applied_states (completion : Completion) (states : OrdMap String MinerState) :
    (applyCompletedTournament states completion).1 = recomputePublicRanks (applyEntrants completion
      (resolveTournamentMultiplierGate completion).noMultiplier states
      (completion.entrants.zip (resolveTournamentMultiplierGate completion).weights)).1 := rfl

theorem currentState_insert (key : String) (state : MinerState) :
    currentState (states.insert key state) minerAddress = if minerAddress = key then state else currentState states minerAddress := by
  unfold currentState
  rw [OrdMap.get?_insert]
  split_ifs <;> rfl

theorem applied_of_not_mem (absent : minerAddress ∉ list.map (·.1.minerAddress)) :
    currentState (applyEntrants completion noMultiplier states list).1 minerAddress = currentState states minerAddress := by
  induction list generalizing states with
  | nil => rfl
  | cons head rest ih =>
    rw [List.map_cons,List.mem_cons,not_or] at absent
    exact (ih absent.2).trans ((currentState_insert _ _).trans (if_neg absent.1))

theorem applied_of_mem (distinct : (list.map (·.1.minerAddress)).Nodup) {entrant : CompletedEntrant} {weight : ℚ}
    (inside : (entrant,weight) ∈ list) :
    currentState (applyEntrants completion noMultiplier states list).1 entrant.minerAddress =
      nextState completion noMultiplier (currentState states entrant.minerAddress) entrant weight := by
  induction list generalizing states with
  | nil => simp at inside
  | cons head rest ih =>
    rw [List.map_cons,List.nodup_cons] at distinct
    rcases List.mem_cons.mp inside with rfl | inside
    · exact (applied_of_not_mem distinct.1).trans ((currentState_insert _ _).trans (if_pos rfl))
    · have other : entrant.minerAddress ≠ head.1.minerAddress := fun same =>
        distinct.1 (same ▸ List.mem_map_of_mem (f := (·.1.minerAddress)) inside)
      refine (ih distinct.2 inside).trans ?_
      rw [currentState_insert,if_neg other]

theorem currentState_recompute (states : OrdMap String MinerState) (minerAddress : String) :
    ∃ rank, currentState (recomputePublicRanks states) minerAddress = { currentState states minerAddress with publicRank := rank } := by
  unfold currentState
  rw [get?_recompute]
  cases states.get? minerAddress with
  | none => exact ⟨0,rfl⟩
  | some state => exact ⟨_,rfl⟩

theorem applyCompletedTournament_cases (states : OrdMap String MinerState) (distinct : (minersOf completion).Nodup) (minerAddress : String) :
    (¬EligibleFor minerAddress completion ∧ ∃ rank, currentState (applyCompletedTournament states completion).1 minerAddress =
      { currentState states minerAddress with publicRank := rank }) ∨
    EligibleFor minerAddress completion ∧ ∃ score weight rank,
      currentState (applyCompletedTournament states completion).1 minerAddress =
        { ratedState (currentState states minerAddress) score weight with publicRank := rank } := by
  obtain ⟨rank,ranked⟩ := currentState_recompute (applyEntrants completion (resolveTournamentMultiplierGate completion).noMultiplier
    states (completion.entrants.zip (resolveTournamentMultiplierGate completion).weights)).1 minerAddress
  have same := weighed_miners completion
  rw [applied_states,ranked]
  by_cases inside : minerAddress ∈ minersOf completion
  · rw [← same] at inside
    obtain ⟨⟨entrant,weight⟩,listed,rfl⟩ := List.mem_map.mp inside
    rw [applied_of_mem (same ▸ distinct) listed]
    by_cases gated : Gated completion
    · rw [gate_closed gated,nextState_closed]
      exact .inl ⟨fun eligible => eligible.1 gated,rank,rfl⟩
    · have paired : completion.entrants.zip (completion.entrants.map (resolveConfidenceWeight completion)) =
          completion.entrants.map fun entrant => (entrant,resolveConfidenceWeight completion entrant) := by
        conv_lhs => rw [← List.map_id completion.entrants,List.map_map]
        exact List.zip_map'
      rw [gate_open gated,paired] at listed
      obtain ⟨own,member,equal⟩ := List.mem_map.mp listed
      obtain ⟨rfl,rfl⟩ := Prod.mk.inj equal
      rw [gate_open gated,nextState,if_pos (eligible_open gated member)]
      exact .inr ⟨⟨gated,List.mem_map_of_mem member⟩,_,_,rank,rfl⟩
  · rw [applied_of_not_mem (same.symm ▸ inside)]
    exact .inl ⟨fun eligible => inside eligible.2,rank,rfl⟩

end Step

def InHundredths (multiplier : ℚ) : Prop := ∃ k : Int, multiplier = k / 100 ∧ 50 ≤ k ∧ k ≤ 200

theorem clampFloat_within {value least most : ℚ} (ordered : least ≤ most) :
    least ≤ clampFloat value least most ∧ clampFloat value least most ≤ most := by
  unfold clampFloat
  split_ifs with below above
  · exact ⟨le_refl _,ordered⟩
  · exact ⟨ordered,le_refl _⟩
  · exact ⟨not_lt.mp below,not_lt.mp above⟩

theorem clampFloat_hundredths (n : Int) : clampFloat ((n : ℚ) / 100) (1 / 2) 2 = ((max 50 (min n 200) : Int) : ℚ) / 100 := by
  unfold clampFloat
  have half : (n : ℚ) / 100 < 1 / 2 ↔ n < 50 := by
    rw [div_lt_iff₀ (by norm_num)]
    norm_num
    exact_mod_cast Iff.rfl
  have two : (n : ℚ) / 100 > 2 ↔ 200 < n := by
    rw [gt_iff_lt,lt_div_iff₀ (by norm_num)]
    norm_num
    exact_mod_cast Iff.rfl
  rw [if_congr half rfl (if_congr two rfl rfl)]
  split_ifs with below above
  · rw [max_eq_left (by omega)]
    norm_num
  · rw [min_eq_right (by omega),max_eq_right (by omega)]
    norm_num
  · rw [min_eq_left (by omega),max_eq_right (by omega)]

theorem round2_step {k : Int} {delta : ℚ} (least : -maxMultiplierStep ≤ delta) (most : delta ≤ maxMultiplierStep) :
    ∃ n : Int, round2 (k / 100 + delta) = n / 100 ∧ k - 1 ≤ n ∧ n ≤ k + 1 := by
  unfold maxMultiplierStep at least most
  refine ⟨roundHalfAway ((k / 100 + delta) * 100),rfl,?_,?_⟩
  · have below := roundHalfAway_mono (x := ((k - 1 : Int) : ℚ)) (y := (k / 100 + delta) * 100) (by push_cast; linarith)
    rwa [roundHalfAway_intCast] at below
  · have above := roundHalfAway_mono (x := (k / 100 + delta) * 100) (y := ((k + 1 : Int) : ℚ)) (by push_cast; linarith)
    rwa [roundHalfAway_intCast] at above

structure Bounded (state : MinerState) (eligible : Nat) : Prop where
  count : state.eligibleTournamentCount = eligible
  warmup : eligible ≤ 15 → state.multiplier = 1
  within : InHundredths state.multiplier

theorem Bounded.rated {state : MinerState} {eligible : Nat} (bounded : Bounded state eligible) (score weight : ℚ) (rank : Int) :
    Bounded { ratedState state score weight with publicRank := rank } (eligible + 1) ∧
      |(ratedState state score weight).multiplier - state.multiplier| ≤ 1 / 100 := by
  have counted : state.eligibleTournamentCount + 1 = (eligible + 1 : Nat) := by
    rw [bounded.count]
    push_cast
    rfl
  by_cases warm : eligible + 1 ≤ 15
  · have still : nextMultiplier state score = 1 := by
      unfold nextMultiplier warmupClampEligibleCount
      rw [if_pos (by omega)]
      rfl
    refine ⟨⟨counted,fun _ => still,100,?_,by norm_num,by norm_num⟩,?_⟩
    · change nextMultiplier state score = _
      rw [still]
      norm_num
    · change |nextMultiplier state score - _| ≤ _
      rw [still,bounded.warmup (by omega)]
      norm_num
  · obtain ⟨k,held,least,most⟩ := bounded.within
    have step := @clampFloat_within ((score - 1 / 2) / 40) (-maxMultiplierStep) maxMultiplierStep
      (by norm_num [maxMultiplierStep])
    obtain ⟨n,rounded,below,above⟩ := round2_step (k := k) step.1 step.2
    have moved : nextMultiplier state score = ((max 50 (min n 200) : Int) : ℚ) / 100 := by
      unfold nextMultiplier warmupClampEligibleCount
      rw [if_neg (by omega),held,rounded,clampFloat_hundredths]
    refine ⟨⟨counted,fun early => absurd early warm,_,moved,by omega,by omega⟩,?_⟩
    change |nextMultiplier state score - _| ≤ _
    have near : |(max 50 (min n 200) : Int) - k| ≤ 1 := by
      rw [abs_le]
      omega
    have cast : |((max 50 (min n 200) : Int) : ℚ) - k| ≤ 1 := by exact_mod_cast near
    rw [moved,held,← sub_div,abs_div,abs_of_pos (by norm_num : (0 : ℚ) < 100)]
    exact div_le_div_of_nonneg_right cast (by norm_num)

theorem Bounded.step {states : OrdMap String MinerState} {completion : Completion} {minerAddress : String} {eligible : Nat}
    (bounded : Bounded (currentState states minerAddress) eligible) (distinct : (minersOf completion).Nodup) :
    Bounded (currentState (applyCompletedTournament states completion).1 minerAddress)
        (if EligibleFor minerAddress completion then eligible + 1 else eligible) ∧
      |currentMultiplier (applyCompletedTournament states completion).1 minerAddress - currentMultiplier states minerAddress| ≤
        1 / 100 := by
  unfold currentMultiplier
  rcases applyCompletedTournament_cases states distinct minerAddress with ⟨excluded,rank,after⟩ | ⟨counts,score,weight,rank,after⟩
  · rw [after,if_neg excluded]
    exact ⟨⟨bounded.count,bounded.warmup,bounded.within⟩,by simp⟩
  · rw [after,if_pos counts]
    exact bounded.rated score weight rank

theorem bounded_after {completions : List Completion} (distinct : ∀ completion ∈ completions, (minersOf completion).Nodup)
    (minerAddress : String) :
    Bounded (currentState (statesAfter completions) minerAddress) (eligibleTournaments completions minerAddress) := by
  induction completions using List.reverseRecOn with
  | nil => exact ⟨rfl,fun _ => rfl,100,by norm_num [statesAfter,currentState,defaultMultiplier],by norm_num,by norm_num⟩
  | append_singleton played next ih =>
    have before := ih fun completion inside => distinct completion (List.mem_append_left _ inside)
    have after := (before.step (distinct next (by simp))).1
    unfold statesAfter eligibleTournaments at *
    rw [List.foldl_append,List.foldl_cons,List.foldl_nil,List.countP_append,List.countP_singleton]
    split_ifs at after ⊢ with counts
    all_goals simp_all

theorem statesAfter_append (played : List Completion) (next : Completion) :
    statesAfter (played ++ [next]) = (applyCompletedTournament (statesAfter played) next).1 := by
  simp [statesAfter]

/-- The multiplier of a miner is exactly 1 through its first 15 eligible tournaments, stays within its bounds, moves by at
most a hundredth in a tournament and not at all in one that counts for nobody. -/
theorem multiplier_moves (played : List Completion) (next : Completion)
    (distinct : ∀ completion ∈ played ++ [next], (minersOf completion).Nodup) (minerAddress : String) :
    (eligibleTournaments played minerAddress ≤ 15 → currentMultiplier (statesAfter played) minerAddress = 1) ∧
      1 / 2 ≤ currentMultiplier (statesAfter played) minerAddress ∧ currentMultiplier (statesAfter played) minerAddress ≤ 2 ∧
      |currentMultiplier (statesAfter (played ++ [next])) minerAddress - currentMultiplier (statesAfter played) minerAddress| ≤
        1 / 100 ∧
      (Gated next → currentMultiplier (statesAfter (played ++ [next])) minerAddress =
        currentMultiplier (statesAfter played) minerAddress) := by
  have bounded := bounded_after (fun completion inside => distinct completion (List.mem_append_left _ inside)) minerAddress
  have single := distinct next (by simp)
  obtain ⟨k,held,least,most⟩ := bounded.within
  have atLeast : (50 : ℚ) ≤ k := by exact_mod_cast least
  have atMost : (k : ℚ) ≤ 200 := by exact_mod_cast most
  refine ⟨bounded.warmup,?_,?_,?_,fun gated => ?_⟩
  · unfold currentMultiplier
    rw [held]
    linarith
  · unfold currentMultiplier
    rw [held]
    linarith
  · rw [statesAfter_append]
    exact (bounded.step single).2
  · rw [statesAfter_append]
    rcases applyCompletedTournament_cases (statesAfter played) single minerAddress with ⟨-,rank,after⟩ | ⟨counts,-⟩
    · unfold currentMultiplier
      rw [after]
    · exact absurd gated counts.1

def wonTournament : Completion where
  tournamentID := "tour:1"
  mode := .rated
  humanOnly := true
  entrants := [{ entrantID := "ent:1", minerAddress := "miner:1", tournamentScore := 1, confidenceWeight := 1 }]

theorem multiplier_moves_sixteen :
    |currentMultiplier (statesAfter (List.replicate 15 wonTournament ++ [wonTournament])) "miner:1" -
        currentMultiplier (statesAfter (List.replicate 15 wonTournament)) "miner:1"| ≤ 1 / 100 ∧
      currentMultiplier (statesAfter (List.replicate 15 wonTournament ++ [wonTournament])) "miner:1" = 101 / 100 :=
  ⟨(multiplier_moves (List.replicate 15 wonTournament) wonTournament (by decide) "miner:1").2.2.2.1,by decide +kernel⟩

end Clawchain.Arena.Rating
