import Clawchain.Mining.Units

/-! Risk cases: one for every unit of several miners, and one for every task that a unit reveals twice. They discount the
rewards of the miners of their units. -/
namespace Clawchain.Mining
open Clawchain.Lib Clawchain.Lib.Faulty

inductive Severity where
  | critical
  | high
  | medium
  | low
  deriving DecidableEq, Repr

inductive RiskCaseState where
  | opened
  | cleared
  | suppressed
  | escalated
  deriving DecidableEq, Repr

structure RiskCase where
  (id caseType : String)
  severity : Severity
  state : RiskCaseState := .opened
  economicUnitID : String
  deriving DecidableEq, Repr

abbrev RiskCases := OrdMap String RiskCase

def RiskCases.save (riskCase : RiskCase) (cases : RiskCases) : RiskCases :=
  if (OrdMap.get? cases riskCase.id).any (·.state ≠ .opened) then cases else OrdMap.insert cases riskCase.id riskCase

def RiskCases.listOpen (economicUnitID : String) (cases : RiskCases) : List RiskCase :=
  ((OrdMap.entries cases).map Prod.snd).filter fun riskCase =>
    riskCase.state = .opened ∧ riskCase.economicUnitID = economicUnitID

def clusterRiskCase (economicUnitID : String) : RiskCase where
  id := "risk:cluster:" ++ economicUnitID
  caseType := "economic_unit_cluster"
  severity := .medium
  economicUnitID := economicUnitID

def duplicateRiskCase (taskRunID economicUnitID : String) : RiskCase where
  id := "risk:duplicate:" ++ taskRunID ++ ":" ++ economicUnitID
  caseType := "economic_unit_duplicate"
  severity := .high
  economicUnitID := economicUnitID

def syncClusterRiskCases (miners : List Miner) (cases : RiskCases) : RiskCases :=
  (addresses (·.economicUnitID) (miners.filter (·.economicUnitID ≠ ""))).foldl (fun cases unit =>
    if (Groups.group (·.economicUnitID) miners unit).length ≤ 1 then cases
    else cases.save (clusterRiskCase unit)) cases

def Severity.discount : Severity → ℚ
  | .critical => 0
  | .high => 0
  | .medium => 1 / 4
  | .low => 1 / 2

def antiAbuseDiscountForCases (eligibilityStatus : Eligibility) (openCases : List RiskCase) : ℚ :=
  if eligibilityStatus ≠ .eligible then 0
  else if openCases = [] then 1
  else round6 (openCases.foldl (fun discount riskCase => min discount riskCase.severity.discount) 1)

inductive RiskReviewState where
  | reviewRequired
  | clear
  deriving DecidableEq, Repr

structure AntiAbuseState where
  antiAbuseDiscount : ℚ
  riskReviewState : RiskReviewState
  openRiskCaseCount : Nat
  openRiskCaseTypes : List String
  deriving DecidableEq

def antiAbuseState (economicUnitID : String) (eligibilityStatus : Eligibility) (cases : RiskCases) : AntiAbuseState :=
  let openCases := if economicUnitID = "" then [] else cases.listOpen economicUnitID
  { antiAbuseDiscount := antiAbuseDiscountForCases eligibilityStatus openCases
    riskReviewState := if openCases = [] then .clear else .reviewRequired
    openRiskCaseCount := openCases.length
    openRiskCaseTypes := sortedIDs (openCases.map (·.caseType)) }

theorem round6_discount (severity : Severity) : round6 severity.discount = severity.discount := by
  cases severity <;> decide +kernel

theorem round6_one : round6 1 = 1 := by decide +kernel

section Fold
variable (openCases : List RiskCase)

theorem le_foldl_discount (start bound : ℚ) :
    bound ≤ openCases.foldl (fun discount riskCase => min discount riskCase.severity.discount) start ↔
      bound ≤ start ∧ ∀ riskCase ∈ openCases, bound ≤ riskCase.severity.discount := by
  induction openCases generalizing start with
  | nil => simp
  | cons first rest ih =>
    rw [List.foldl_cons,ih,le_min_iff]
    simp [and_assoc]

theorem foldl_discount_mem (start : ℚ) :
    openCases.foldl (fun discount riskCase => min discount riskCase.severity.discount) start = start ∨
      ∃ riskCase ∈ openCases, openCases.foldl (fun discount riskCase => min discount riskCase.severity.discount) start =
        riskCase.severity.discount := by
  induction openCases generalizing start with
  | nil => exact .inl rfl
  | cons first rest ih =>
    rw [List.foldl_cons]
    rcases ih (min start first.severity.discount) with same | ⟨riskCase,member,same⟩
    · rcases min_choice start first.severity.discount with least | least
      · exact .inl (same.trans least)
      · exact .inr ⟨first,List.mem_cons_self,same.trans least⟩
    · exact .inr ⟨riskCase,List.mem_cons_of_mem _ member,same⟩

theorem le_discount_iff (bound : ℚ) : bound ≤ antiAbuseDiscountForCases .eligible openCases ↔
    bound ≤ 1 ∧ ∀ riskCase ∈ openCases, bound ≤ riskCase.severity.discount := by
  unfold antiAbuseDiscountForCases
  rw [if_neg (by simp)]
  split_ifs with none_
  · simp [none_]
  · have exactly : round6 (openCases.foldl (fun discount riskCase => min discount riskCase.severity.discount) 1) =
        openCases.foldl (fun discount riskCase => min discount riskCase.severity.discount) 1 := by
      rcases foldl_discount_mem openCases 1 with same | ⟨riskCase,-,same⟩
      · rw [same]
        exact round6_one
      · rw [same]
        exact round6_discount _
    rw [exactly]
    exact le_foldl_discount openCases 1 bound

end Fold

theorem discount_anti {fewer more : List RiskCase} (all : ∀ riskCase ∈ fewer, riskCase ∈ more) :
    antiAbuseDiscountForCases .eligible more ≤ antiAbuseDiscountForCases .eligible fewer := by
  obtain ⟨one,each⟩ := (le_discount_iff more _).mp le_rfl
  exact (le_discount_iff fewer _).mpr ⟨one,fun riskCase member => each riskCase (all riskCase member)⟩

variable {riskCase : RiskCase} {address unit : String} {settings : Settings} {reviewed : Reviewed} {cases : RiskCases}

theorem discount_le {openCases : List RiskCase} (member : riskCase ∈ openCases) :
    antiAbuseDiscountForCases .eligible openCases ≤ riskCase.severity.discount :=
  ((le_discount_iff openCases _).mp le_rfl).2 riskCase member

/-- A case that no operator has decided, with the id of its kind. -/
def RiskCase.Standard (riskCase : RiskCase) : Prop := (∃ unit, riskCase = clusterRiskCase unit) ∨
  ∃ taskRunID unit, ':' ∉ taskRunID.toList ∧ riskCase = duplicateRiskCase taskRunID unit

theorem RiskCase.Standard.opened (standard : riskCase.Standard) : riskCase.state = .opened := by
  rcases standard with ⟨unit,rfl⟩ | ⟨taskRunID,unit,-,rfl⟩ <;> rfl

theorem RiskCase.Standard.injective {first next : RiskCase} (standard : first.Standard) (standard' : next.Standard)
    (same : first.id = next.id) : first = next := by
  have lists := congrArg String.toList same
  rcases standard with ⟨unit,rfl⟩ | ⟨taskRunID,unit,plain,rfl⟩
  · rcases standard' with ⟨unit',rfl⟩ | ⟨taskRunID',unit',-,rfl⟩
    · have units : unit = unit' := String.toList_injective (by simpa [clusterRiskCase] using lists)
      rw [units]
    · simp [clusterRiskCase,duplicateRiskCase] at lists
  · rcases standard' with ⟨unit',rfl⟩ | ⟨taskRunID',unit',plain',rfl⟩
    · simp [clusterRiskCase,duplicateRiskCase] at lists
    · have fields := @Format.fields_injective taskRunID taskRunID' unit unit' plain plain' (by
        apply String.toList_injective
        simpa [duplicateRiskCase] using lists)
      rw [fields.1,fields.2]

structure RiskCases.Standard (cases : RiskCases) : Prop where
  named : ∀ id riskCase, OrdMap.get? cases id = some riskCase → riskCase.id = id
  each : ∀ id riskCase, OrdMap.get? cases id = some riskCase → riskCase.Standard

def RiskCases.Grow (before after : RiskCases) : Prop := ∀ id riskCase,
  OrdMap.get? before id = some riskCase → OrdMap.get? after id = some riskCase

theorem RiskCases.Grow.trans {a b c : RiskCases} (first : a.Grow b) (next : b.Grow c) : a.Grow c :=
  fun id riskCase found => next id riskCase (first id riskCase found)

section Save
variable {cases : RiskCases} {riskCase : RiskCase} (standard : cases.Standard)
include standard

theorem save_get? (id : String) : OrdMap.get? (cases.save riskCase) id =
    if id = riskCase.id then some riskCase else OrdMap.get? cases id := by
  have undecided : ¬(OrdMap.get? cases riskCase.id).any (·.state ≠ .opened) := by
    cases held : OrdMap.get? cases riskCase.id with
    | none => simp
    | some old => simp [(standard.each _ old held).opened]
  unfold RiskCases.save
  rw [if_neg undecided,OrdMap.get?_insert]

variable (new : riskCase.Standard)
include new

theorem save_standard : (cases.save riskCase).Standard := by
  constructor
  all_goals
    intro id other found
    rw [save_get? standard] at found
    split_ifs at found with own
  · cases found
    exact own.symm
  · exact standard.named id other found
  · cases found
    exact new
  · exact standard.each id other found

theorem save_grow : cases.Grow (cases.save riskCase) := by
  intro id other found
  rw [save_get? standard]
  split_ifs with own
  · rw [new.injective (standard.each id other found) ((standard.named id other found).trans own).symm]
  · exact found

end Save

theorem mem_listOpen (standard : cases.Standard) :
    riskCase ∈ cases.listOpen unit ↔ OrdMap.get? cases riskCase.id = some riskCase ∧ riskCase.economicUnitID = unit := by
  unfold RiskCases.listOpen
  rw [List.mem_filter,OrdMap.mem_values standard.named,decide_eq_true_iff]
  constructor
  · rintro ⟨found,-,own⟩
    exact ⟨found,own⟩
  · rintro ⟨found,own⟩
    exact ⟨found,(standard.each _ _ found).opened,own⟩

theorem antiAbuseDiscount_eq (unit : String) (cases : RiskCases) : (antiAbuseState unit .eligible cases).antiAbuseDiscount =
    antiAbuseDiscountForCases .eligible (if unit = "" then [] else cases.listOpen unit) := rfl

theorem RiskCases.Grow.discount {before after : RiskCases} (grow : before.Grow after) (standard : before.Standard)
    (standard' : after.Standard) (unit : String) : (antiAbuseState unit .eligible after).antiAbuseDiscount ≤
      (antiAbuseState unit .eligible before).antiAbuseDiscount := by
  rw [antiAbuseDiscount_eq,antiAbuseDiscount_eq]
  apply discount_anti
  intro riskCase member
  split_ifs at member ⊢ with blank
  · exact member
  · obtain ⟨found,own⟩ := (mem_listOpen standard).mp member
    exact (mem_listOpen standard').mpr ⟨grow _ _ found,own⟩

def regrouped (text : Text) (candidates : List Miner) : List Miner := candidates.map fun miner =>
  { miner with economicUnitID := (computeEconomicUnitComponents text candidates miner.address).getD miner.economicUnitID }

structure Syncs (miners : List Miner) (units : List String) (before after : RiskCases) : Prop where
  standard : after.Standard
  grow : before.Grow after
  opened : ∀ unit ∈ units, 2 ≤ (Groups.group (·.economicUnitID) miners unit).length →
    OrdMap.get? after (clusterRiskCase unit).id = some (clusterRiskCase unit)
  origin : ∀ id riskCase, OrdMap.get? after id = some riskCase → OrdMap.get? before id = some riskCase ∨
    ∃ unit ∈ units, riskCase = clusterRiskCase unit ∧ 2 ≤ (Groups.group (·.economicUnitID) miners unit).length

theorem sync_loop (miners : List Miner) (units : List String) (standard : cases.Standard) :
    Syncs miners units cases (units.foldl (fun cases unit =>
      if (Groups.group (·.economicUnitID) miners unit).length ≤ 1 then cases else cases.save (clusterRiskCase unit)) cases) := by
  induction units generalizing cases with
  | nil => exact ⟨standard,fun _ _ found => found,by simp,fun _ _ found => .inl found⟩
  | cons unit rest ih =>
    rw [List.foldl_cons]
    split_ifs with few
    · have later := ih standard
      refine ⟨later.standard,later.grow,fun other member several => ?_,fun id riskCase found => ?_⟩
      · rcases List.mem_cons.mp member with rfl | member
        · omega
        · exact later.opened other member several
      · rcases later.origin id riskCase found with old | ⟨other,member,new⟩
        · exact .inl old
        · exact .inr ⟨other,List.mem_cons_of_mem _ member,new⟩
    · have new : (clusterRiskCase unit).Standard := .inl ⟨unit,rfl⟩
      have later := ih (save_standard standard new)
      refine ⟨later.standard,(save_grow standard new).trans later.grow,fun other member several => ?_,fun id riskCase found => ?_⟩
      · rcases List.mem_cons.mp member with rfl | member
        · apply later.grow
          rw [save_get? standard]
          exact if_pos rfl
        · exact later.opened other member several
      · rcases later.origin id riskCase found with old | ⟨other,member,same⟩
        · rw [save_get? standard] at old
          split_ifs at old with own
          · cases old
            exact .inr ⟨unit,List.mem_cons_self,rfl,by omega⟩
          · exact .inl old
        · exact .inr ⟨other,List.mem_cons_of_mem _ member,same⟩

theorem syncClusterRiskCases_syncs (miners : List Miner) (standard : cases.Standard) :
    Syncs miners (addresses (·.economicUnitID) (miners.filter (·.economicUnitID ≠ ""))) cases
      (syncClusterRiskCases miners cases) := sync_loop miners _ standard

theorem group_regrouped {text : Text} {candidates : List Miner}
    (named : computeEconomicUnitComponents text candidates address = some unit) :
    (componentOf text candidates address).length ≤
      (Groups.group (·.economicUnitID) (regrouped text candidates) unit).length := by
  have listed : address ∈ candidates.map (·.address) := by
    unfold computeEconomicUnitComponents at named
    split_ifs at named with inside
    exact inside
  unfold componentOf Groups.group regrouped
  rw [List.filter_map,List.length_map,List.filter_map,List.length_map,← List.countP_eq_length_filter,
    ← List.countP_eq_length_filter]
  apply List.countP_mono_left
  intro miner member linked
  have joined : Linked text candidates miner.address address := by
    simpa [Unions.rootOf_eq_iff,connected_iff] using linked
  have same := unit_linked (List.mem_map_of_mem member) listed joined
  simp [same,named]

def duplicateReveal (settings : Settings) (taskRunID address : String) (pYesBps : Int) (revealNonce : String)
    (ip agent : Option String) (repo : Repository) : Option RiskCase :=
  match refreshMinerCluster settings address ip agent repo with
  | (.error _,_) => none
  | (.ok miner,middle) => (getSubmission taskRunID address middle).bind fun submission =>
    if submission.commitHash ≠ "" ∧ submission.pYesBps = none ∧
        computeCommitHash settings taskRunID address (clampBps settings pYesBps) revealNonce = submission.commitHash ∧
        (middle.listSubmissionsForTask taskRunID).any (duplicates address miner.economicUnitID) then
      some (duplicateRiskCase taskRunID miner.economicUnitID)
    else none

def Call.riskCases (settings : Settings) (repo : Repository) (cases : RiskCases) (call : Call) : RiskCases :=
  let synced := match call.regroups settings repo with
    | none => cases
    | some candidates => syncClusterRiskCases (regrouped settings.text candidates) cases
  match call.2 with
  | .revealSubmission taskRunID address _ pYesBps revealNonce ip agent =>
    if (getTask call.1 (·.revealDeadline) "reveal window closed" taskRunID repo).1.isOk then
      match duplicateReveal settings taskRunID address pYesBps revealNonce ip agent repo with
      | none => synced
      | some riskCase => synced.save riskCase
    else synced
  | _ => synced

structure Reviewed where
  repo : Repository := {}
  cases : RiskCases := OrdMap.empty

def review (settings : Settings) (calls : List Call) (reviewed : Reviewed) : Reviewed :=
  calls.foldl (fun reviewed call => ⟨call.after settings reviewed.repo,call.riskCases settings reviewed.repo reviewed.cases⟩) reviewed

def discountOf (address : String) (eligibilityStatus : Eligibility) (reviewed : Reviewed) : Option ℚ :=
  (reviewed.repo.miners.get? address).map fun miner => 
    (antiAbuseState miner.economicUnitID eligibilityStatus reviewed.cases).antiAbuseDiscount

theorem getTask_stored {now : Time} {deadline : Task → Int} {closed taskRunID : String} {repo : Repository}
    (asked : (getTask now deadline closed taskRunID repo).1.isOk) : ∃ task, repo.tasks.get? taskRunID = some task := by
  unfold getTask at asked
  rw [read_run] at asked
  cases held : repo.tasks.get? taskRunID with
  | none =>
    rw [held] at asked
    cases asked
  | some task => exact ⟨task,rfl⟩

theorem duplicateReveal_some {taskRunID revealNonce : String} {pYesBps : Int} {ip agent : Option String}
    {repo : Repository}
    (found : duplicateReveal settings taskRunID address pYesBps revealNonce ip agent repo = some riskCase) :
    ∃ unit, riskCase = duplicateRiskCase taskRunID unit := by
  unfold duplicateReveal at found
  split at found
  · cases found
  · obtain ⟨submission,-,found⟩ := Option.bind_eq_some_iff.mp found
    split_ifs at found
    exact ⟨_,(Option.some.inj found).symm⟩

theorem computed_unit {text : Text} {candidates : List Miner}
    (named : computeEconomicUnitComponents text candidates address = some unit) :
    unit ≠ "" ∧ address ∈ candidates.map (·.address) := by
  unfold computeEconomicUnitComponents at named
  split_ifs at named with inside
  refine ⟨?_,inside⟩
  rintro rfl
  have lists := congrArg String.toList (Option.some.inj named)
  simp at lists

structure Recorded (settings : Settings) (repo : Repository) (call : Call) (before after : RiskCases) : Prop where
  standard : after.Standard
  grow : before.Grow after
  opened : ∀ candidates, call.regroups settings repo = some candidates → ∀ address unit,
    computeEconomicUnitComponents settings.text candidates address = some unit →
      2 ≤ (componentOf settings.text candidates address).length →
        OrdMap.get? after (clusterRiskCase unit).id = some (clusterRiskCase unit)

theorem call_recorded {settings : Settings} {call : Call} {repo : Repository} {cases : RiskCases} (keyed : Keyed repo)
    (standard : cases.Standard) : Recorded settings repo call cases (call.riskCases settings repo cases) := by
  let synced := match call.regroups settings repo with
    | none => cases
    | some candidates => syncClusterRiskCases (regrouped settings.text candidates) cases
  have first : Recorded settings repo call cases synced := by
    cases asked : call.regroups settings repo with
    | none =>
      have same : synced = cases := by simp only [synced,asked]
      rw [same]
      exact ⟨standard,fun _ _ found => found,fun _ given => by rw [asked] at given; cases given⟩
    | some candidates =>
      have same : synced = syncClusterRiskCases (regrouped settings.text candidates) cases := by simp only [synced,asked]
      rw [same]
      have syncs := syncClusterRiskCases_syncs (regrouped settings.text candidates) standard
      refine ⟨syncs.standard,syncs.grow,fun other given address unit named several => ?_⟩
      rw [asked] at given
      cases given
      have many : 2 ≤ (Groups.group (·.economicUnitID) (regrouped settings.text candidates) unit).length :=
        several.trans (group_regrouped named)
      apply syncs.opened unit _ many
      obtain ⟨row,member⟩ := List.exists_mem_of_length_pos (show 0 < (Groups.group (·.economicUnitID)
        (regrouped settings.text candidates) unit).length by omega)
      obtain ⟨member,own⟩ := List.mem_filter.mp member
      have own' : row.economicUnitID = unit := by simpa using own
      rw [← own']
      apply mem_addresses Miner.economicUnitID
      exact List.mem_filter.mpr ⟨member,by simpa [own'] using (computed_unit named).1⟩
  have saved (riskCase : RiskCase) (new : riskCase.Standard) : Recorded settings repo call cases (synced.save riskCase) := by
    have grow := save_grow first.standard new
    exact ⟨save_standard first.standard new,first.grow.trans grow,fun candidates given address unit named several =>
      grow _ _ (first.opened candidates given address unit named several)⟩
  obtain ⟨now,operation⟩ := call
  cases operation with
  | revealSubmission taskRunID address request bps nonce ip agent =>
    change Recorded settings repo _ cases (if (getTask now (·.revealDeadline) "reveal window closed" taskRunID repo).1.isOk then
      match duplicateReveal settings taskRunID address bps nonce ip agent repo with
      | none => synced
      | some riskCase => synced.save riskCase
      else synced)
    split_ifs with known
    · cases found : duplicateReveal settings taskRunID address bps nonce ip agent repo with
      | none => exact first
      | some riskCase =>
        obtain ⟨task,stored⟩ := getTask_stored known
        obtain ⟨unit,rfl⟩ := duplicateReveal_some found
        exact saved _ (.inr ⟨taskRunID,unit,(keyed.tasks taskRunID task stored).2,rfl⟩)
    · exact first
  | _ => exact first

/-- A call that gives a miner another unit gives it one with an open case as severe as each that the miner leaves behind, or is
about to open one as severe for the new cluster. -/
def Call.Burdens (settings : Settings) (reviewed : Reviewed) (call : Call) : Prop :=
  ∀ candidates, call.regroups settings reviewed.repo = some candidates → ∀ miner ∈ reviewed.repo.listMiners, ∀ unit,
    computeEconomicUnitComponents settings.text candidates miner.address = some unit → unit = miner.economicUnitID ∨
      ∀ riskCase ∈ reviewed.cases.listOpen miner.economicUnitID,
        (∃ other ∈ reviewed.cases.listOpen unit, other.severity.discount ≤ riskCase.severity.discount) ∨
          2 ≤ (componentOf settings.text candidates miner.address).length ∧
            (clusterRiskCase unit).severity.discount ≤ riskCase.severity.discount

def Burdened (settings : Settings) : List Call → Reviewed → Prop
  | [],_ => True
  | call :: rest,reviewed => call.Burdens settings reviewed ∧ Burdened settings rest (review settings [call] reviewed)

structure Reviewed.Sound (reviewed : Reviewed) : Prop where
  tidy : Tidy reviewed.repo
  regular : Regular reviewed.repo
  standard : reviewed.cases.Standard

theorem Reviewed.Sound.next (sound : reviewed.Sound) (call : Call) :
    (review settings [call] reviewed).Sound := by
  obtain ⟨tidy,regular⟩ := @call_regular settings call reviewed.repo sound.tidy sound.regular
  exact ⟨tidy,regular,(call_recorded sound.regular.toKeyed sound.standard).standard⟩

theorem call_discount {call : Call} (sound : reviewed.Sound) (burdens : call.Burdens settings reviewed)
    {before after : ℚ} (was : discountOf address .eligible reviewed = some before)
    (now_ : discountOf address .eligible (review settings [call] reviewed) = some after) : after ≤ before := by
  obtain ⟨old,held,rfl⟩ := Option.map_eq_some_iff.mp was
  obtain ⟨new,found,rfl⟩ := Option.map_eq_some_iff.mp now_
  have own : old.address = address := (sound.regular.miners _ _ held).1
  have recorded := @call_recorded settings call reviewed.repo reviewed.cases sound.regular.toKeyed sound.standard
  have unit := call_unit sound.tidy sound.regular held found
  have grown (unit : String) : (antiAbuseState unit .eligible (review settings [call] reviewed).cases).antiAbuseDiscount ≤
      (antiAbuseState unit .eligible reviewed.cases).antiAbuseDiscount :=
    recorded.grow.discount sound.standard recorded.standard unit
  cases asked : call.regroups settings reviewed.repo with
  | none =>
    rw [asked] at unit
    rw [unit]
    exact grown _
  | some candidates =>
    rw [asked] at unit
    change new.economicUnitID = (computeEconomicUnitComponents settings.text candidates old.address).getD old.economicUnitID at unit
    cases named : computeEconomicUnitComponents settings.text candidates old.address with
    | none =>
      rw [named] at unit
      rw [unit]
      exact grown _
    | some name =>
      rw [named] at unit
      rw [unit]
      have listed : old ∈ reviewed.repo.listMiners := (mem_listMiners sound.regular.toKeyed).mpr (own.symm ▸ held)
      rcases burdens candidates asked old listed name named with same | matched
      · rw [same]
        exact grown _
      · rw [antiAbuseDiscount_eq,antiAbuseDiscount_eq,Option.getD_some,if_neg (computed_unit named).1]
        apply (le_discount_iff _ _).mpr
        refine ⟨((le_discount_iff _ _).mp le_rfl).1,fun riskCase member => ?_⟩
        split_ifs at member with blank
        · cases member
        rcases matched riskCase member with ⟨other,member',least⟩ | ⟨several,least⟩
        · obtain ⟨stored,own'⟩ := (mem_listOpen sound.standard).mp member'
          have still := (mem_listOpen recorded.standard).mpr ⟨recorded.grow _ _ stored,own'⟩
          exact (discount_le still).trans least
        · have opened := recorded.opened candidates asked _ _ named several
          exact (discount_le ((mem_listOpen recorded.standard).mpr ⟨opened,rfl⟩)).trans least

theorem kept_registered (settings : Settings) (now : Time) (address : String) :
    Kept settings now fun repo => (repo.miners.get? address).isSome where
  taking before after keyed known step := by
    cases step with
    | register =>
      dsimp only
      rw [OrdMap.get?_insert,get?_renameUnits]
      split_ifs
      · rfl
      · simpa using known
    | refresh =>
      dsimp only
      rw [OrdMap.get?_modifyAt,get?_renameUnits]
      split_ifs <;> simpa using known
    | count =>
      unfold Repository.updateMiner
      dsimp only
      rw [OrdMap.get?_modifyAt]
      split_ifs <;> simpa using known
    | commit => simpa using known
    | reveal => simpa using known
  settling outside before after keyed known step := by
    obtain ⟨miner,held⟩ := Option.isSome_iff_exists.mp known
    have own : miner.address = address := (keyed.miners _ _ held).1
    have listed : miner.address ∈ after.listMiners.map (·.address) := by
      rw [← step.sameClusters.addresses]
      exact List.mem_map_of_mem ((mem_listMiners keyed).mpr (own.symm ▸ held))
    have keyed' := step.keyed keyed
    rw [listMiners_addresses keyed',OrdMap.mem_keys_iff,own] at listed
    exact Option.isSome_iff_exists.mpr listed
  stamped id taskRunIDs before after keyed known stamped := stamped.miners ▸ known
  same before after same known := by
    have miners : after.miners = before.miners := congrArg Prod.fst same
    exact miners ▸ known

theorem discount_falls {calls : List Call} (sound : reviewed.Sound) (burdened : Burdened settings calls reviewed)
    {before after : ℚ} (was : discountOf address .eligible reviewed = some before)
    (now_ : discountOf address .eligible (review settings calls reviewed) = some after) : after ≤ before := by
  induction calls generalizing reviewed before with
  | nil =>
    rw [show review settings [] reviewed = reviewed from rfl,was] at now_
    cases now_
    exact le_rfl
  | cons call rest ih =>
    obtain ⟨miner,held,-⟩ := Option.map_eq_some_iff.mp was
    have known : (reviewed.repo.miners.get? address).isSome := Option.isSome_iff_exists.mpr ⟨miner,held⟩
    obtain ⟨-,-,stays⟩ := @call_keeps settings call.1 _ (kept_registered settings call.1 address) call.2 _ sound.tidy sound.regular known
    obtain ⟨new,found⟩ := Option.isSome_iff_exists.mp stays
    have middle : discountOf address .eligible (review settings [call] reviewed) =
        some (antiAbuseState new.economicUnitID .eligible (review settings [call] reviewed).cases).antiAbuseDiscount :=
      Option.map_eq_some_iff.mpr ⟨new,found,rfl⟩
    have first := call_discount sound burdened.1 was middle
    exact (ih (sound.next call) burdened.2 middle now_).trans first

theorem Burdened.append {first next : List Call} (burdened : Burdened settings (first ++ next) reviewed)
    : Burdened settings next (review settings first reviewed) := by
  induction first generalizing reviewed with
  | nil => exact burdened
  | cons call rest ih => exact ih burdened.2

theorem review_sound (settings : Settings) (calls : List Call) : (review settings calls {}).Sound := by
  have run {calls : List Call} {reviewed : Reviewed} (sound : reviewed.Sound) : (review settings calls reviewed).Sound := by
    induction calls generalizing reviewed with
    | nil => exact sound
    | cons call rest ih => exact ih (sound.next call)
  apply run
  refine ⟨tidy_empty,regular_empty,⟨fun _ _ found => ?_,fun _ _ found => ?_⟩⟩ <;> cases found

/-- A miner's discount never rises, as long as no call moves a miner from a unit with cases to one with less. -/
theorem discount_kept (settings : Settings) (calls later : List Call) (burdened : Burdened settings (calls ++ later) {})
    (address : String) (eligibilityStatus : Eligibility) (before after : ℚ)
    (was : discountOf address eligibilityStatus (review settings calls {}) = some before)
    (now_ : discountOf address eligibilityStatus (review settings (calls ++ later) {}) = some after) : after ≤ before := by
  have split : review settings (calls ++ later) {} = review settings later (review settings calls {}) := List.foldl_append
  cases eligibilityStatus with
  | eligible =>
    rw [split] at now_
    exact discount_falls (review_sound settings calls) burdened.append was now_
  | auditOnly =>
    obtain ⟨-,-,rfl⟩ := Option.map_eq_some_iff.mp was
    obtain ⟨-,-,rfl⟩ := Option.map_eq_some_iff.mp now_
    exact le_rfl

theorem burdens_of_empty (call : Call) (none_ : reviewed.cases = OrdMap.empty) :
    call.Burdens settings reviewed := by
  intro candidates _ miner _ unit _
  right
  intro riskCase member
  rw [none_] at member
  cases member

theorem regrouped_discount {settings : Settings} {reviewed : Reviewed} {call : Call} (sound : reviewed.Sound)
    {candidates : List Miner} (asked : call.regroups settings reviewed.repo = some candidates) {address unit : String} {old : Miner}
    (held : reviewed.repo.miners.get? address = some old)
    (named : computeEconomicUnitComponents settings.text candidates address = some unit)
    (several : 2 ≤ (componentOf settings.text candidates address).length) {after : ℚ}
    (given : discountOf address .eligible (review settings [call] reviewed) = some after) : after ≤ 1 / 4 := by
  obtain ⟨new,found,rfl⟩ := Option.map_eq_some_iff.mp given
  have own : old.address = address := (sound.regular.miners _ _ held).1
  have recorded := @call_recorded settings call reviewed.repo reviewed.cases sound.regular.toKeyed sound.standard
  have opened := recorded.opened candidates asked address unit named several
  have name : new.economicUnitID = unit := by
    rw [call_unit sound.tidy sound.regular held found,asked,unitOf,own,named]
    rfl
  rw [name,antiAbuseDiscount_eq,if_neg (computed_unit named).1]
  exact discount_le ((mem_listOpen recorded.standard).mpr ⟨opened,rfl⟩)

def joinCall : Call := (opening,.registerMiner "claw1b" "0.4.0" (some "10.0.0.1") none)

def aloneReviewed : Reviewed := review plainSettings (sharedCalls.take 2) {}

theorem joinCall_regroups : joinCall.regroups plainSettings aloneReviewed.repo =
    some (aloneReviewed.repo.listMiners ++ [newMiner plainSettings opening "claw1b" (some "10.0.0.1") none]) := by
  unfold Call.regroups joinCall
  apply if_pos
  decide +kernel

theorem joinCall_unit {address : String} (member : address ∈ ["claw1a","claw1b"]) :
    computeEconomicUnitComponents plainText
      (aloneReviewed.repo.listMiners ++ [newMiner plainSettings opening "claw1b" (some "10.0.0.1") none]) address =
        some "eu:claw1a|claw1b" ∧
      2 ≤ (componentOf plainText
        (aloneReviewed.repo.listMiners ++ [newMiner plainSettings opening "claw1b" (some "10.0.0.1") none]) address).length := by
  have component : ∀ address ∈ ["claw1a","claw1b"], componentOf plainText (aloneReviewed.repo.listMiners ++
      [newMiner plainSettings opening "claw1b" (some "10.0.0.1") none]) address = ["claw1a","claw1b"] := by decide +kernel
  rw [component address member]
  refine ⟨(unit_of_sorted (component address member) (by decide) member).trans ?_,by decide⟩
  decide

theorem shared_discount {discount : ℚ} (given : discountOf "claw1a" .eligible (review plainSettings sharedCalls {}) = some discount) :
    discount ≤ 1 / 4 := by
  have known : (aloneReviewed.repo.miners.get? "claw1a").isSome := by decide +kernel
  obtain ⟨old,held⟩ := Option.isSome_iff_exists.mp known
  obtain ⟨named,several⟩ := @joinCall_unit "claw1a" (by decide)
  exact @regrouped_discount plainSettings aloneReviewed joinCall (review_sound plainSettings _) _ joinCall_regroups _ _ old held
    named several _ given

def waitingCalls : List Call := [(later 60,.reconcile (knowing []))]

theorem discount_of_miner {miner : Miner} (held : reviewed.repo.miners.get? address = some miner)
    : discountOf address .eligible reviewed =
      some (antiAbuseState miner.economicUnitID .eligible reviewed.cases).antiAbuseDiscount := by
  unfold discountOf
  rw [held]
  rfl

theorem discount_kept_waiting : ∃ before after,
    discountOf "claw1a" .eligible (review plainSettings sharedCalls {}) = some before ∧
      discountOf "claw1a" .eligible (review plainSettings (sharedCalls ++ waitingCalls) {}) = some after ∧
      before ≤ 1 / 4 ∧ after ≤ before := by
  have known : ((review plainSettings sharedCalls {}).repo.miners.get? "claw1a").isSome ∧
      ((review plainSettings (sharedCalls ++ waitingCalls) {}).repo.miners.get? "claw1a").isSome := by decide +kernel
  obtain ⟨one,held⟩ := Option.isSome_iff_exists.mp known.1
  obtain ⟨two,held'⟩ := Option.isSome_iff_exists.mp known.2
  have first := discount_of_miner held
  have next := discount_of_miner held'
  refine ⟨_,_,first,next,shared_discount first,discount_kept plainSettings sharedCalls waitingCalls ?_ _ _ _ _ first next⟩
  refine ⟨?_,burdens_of_empty _ (by decide +kernel),burdens_of_empty _ (by decide +kernel),?_,trivial⟩
  all_goals
    intro _ asked
    cases asked

theorem shared_case {id : String} (found : OrdMap.get? (review plainSettings sharedCalls {}).cases id = some riskCase) :
    riskCase.economicUnitID = "eu:claw1a|claw1b" := by
  have synced : (review plainSettings sharedCalls {}).cases = syncClusterRiskCases (regrouped plainText
      (aloneReviewed.repo.listMiners ++ [newMiner plainSettings opening "claw1b" (some "10.0.0.1") none])) aloneReviewed.cases := by
    change joinCall.riskCases plainSettings aloneReviewed.repo aloneReviewed.cases = _
    unfold Call.riskCases
    rw [joinCall_regroups]
    rfl
  have none_ : aloneReviewed.cases = OrdMap.empty := by decide +kernel
  rw [synced] at found
  rcases (syncClusterRiskCases_syncs _ (review_sound plainSettings (sharedCalls.take 2)).standard).origin id riskCase found with
    old | ⟨unit,-,rfl,several⟩
  · change OrdMap.get? aloneReviewed.cases id = some riskCase at old
    rw [none_] at old
    cases old
  · obtain ⟨row,member⟩ := List.exists_mem_of_length_pos (Nat.lt_of_lt_of_le Nat.two_pos several)
    obtain ⟨listed,own⟩ := List.mem_filter.mp member
    obtain ⟨miner,candidate,rfl⟩ := List.mem_map.mp listed
    have named : miner.address ∈ ["claw1a","claw1b"] := by
      have addresses : (aloneReviewed.repo.listMiners ++
          [newMiner plainSettings opening "claw1b" (some "10.0.0.1") none]).map (·.address) = ["claw1a","claw1b"] := by
        decide +kernel
      rw [← addresses]
      exact List.mem_map_of_mem candidate
    simpa [joinCall_unit named,eq_comm,clusterRiskCase] using own

theorem moved_case {id : String} (found :
    OrdMap.get? (review plainSettings (sharedCalls ++ [committing "10.0.0.2"]) {}).cases id = some riskCase) :
    riskCase.economicUnitID = "eu:claw1a|claw1b" := by
  change OrdMap.get? ((committing "10.0.0.2").riskCases plainSettings (review plainSettings sharedCalls {}).repo
    (review plainSettings sharedCalls {}).cases) id = some riskCase at found
  unfold Call.riskCases at found
  have few : ((committing "10.0.0.2").regroups plainSettings (review plainSettings sharedCalls {}).repo).all fun candidates =>
      (addresses (·.economicUnitID) ((regrouped plainText candidates).filter (·.economicUnitID ≠ ""))).all fun unit =>
        (Groups.group (·.economicUnitID) (regrouped plainText candidates) unit).length ≤ 1 := by decide +kernel
  cases asked : (committing "10.0.0.2").regroups plainSettings (review plainSettings sharedCalls {}).repo with
  | none =>
    rw [asked] at found
    exact shared_case found
  | some candidates =>
    rw [asked] at few found
    rcases (syncClusterRiskCases_syncs _ (review_sound plainSettings sharedCalls).standard).origin id riskCase found with
      old | ⟨unit,member,-,several⟩
    · exact shared_case old
    · have single := of_decide_eq_true (List.all_eq_true.mp few unit member)
      exact absurd several (Nat.not_le_of_lt (Nat.lt_succ_of_le single))

/-- One of them goes on from another address: it gets a unit of its own, without cases. -/
theorem discount_shed : ∃ before after,
    discountOf "claw1a" .eligible (review plainSettings sharedCalls {}) = some before ∧
      discountOf "claw1a" .eligible (review plainSettings (sharedCalls ++ [committing "10.0.0.2"]) {}) = some after ∧
      before ≤ 1 / 4 ∧ ¬after ≤ before := by
  have known : ((review plainSettings sharedCalls {}).repo.miners.get? "claw1a").isSome := by decide +kernel
  obtain ⟨one,held⟩ := Option.isSome_iff_exists.mp known
  have moved : clusterOf (review plainSettings (sharedCalls ++ [committing "10.0.0.2"]) {}).repo "claw1a" =
      some ("claw1a","eu:claw1a",some "10.0.0.2",none) := by decide +kernel
  obtain ⟨two,held',cluster⟩ := Option.map_eq_some_iff.mp moved
  have own : two.economicUnitID = "eu:claw1a" := by
    simp only [Miner.cluster,Prod.mk.injEq] at cluster
    exact cluster.2.1
  have first := discount_of_miner held
  have next := discount_of_miner held'
  have least := shared_discount first
  refine ⟨_,_,first,next,least,?_⟩
  have none_ : (review plainSettings (sharedCalls ++ [committing "10.0.0.2"]) {}).cases.listOpen "eu:claw1a" = [] := by
    apply List.eq_nil_iff_forall_not_mem.mpr
    intro riskCase member
    obtain ⟨found,unit⟩ := (mem_listOpen (review_sound plainSettings _).standard).mp member
    have shared := moved_case found
    rw [unit] at shared
    simp at shared
  rw [own,antiAbuseDiscount_eq,if_neg (by decide),none_]
  norm_num [antiAbuseDiscountForCases]
  linarith

end Clawchain.Mining
