import Clawchain.Chain.Settlement

/-! The reputation module: window deltas of authorized controllers move the scores
of miners, each once, and only when their settlement batch is anchored. -/
namespace Clawchain.Chain.Reputation
open Clawchain.Lib Clawchain.Chain

/-- A 64-bit float by its bits. -/
structure Float64 where
  bits : UInt64
  deriving DecidableEq, Repr

def Float64.negative (x : Float64) : Bool := 0x8000000000000000 < x.bits && x.bits ≤ 0xFFF0000000000000

/-- Neither infinite nor a NaN; the others have no JSON. -/
def Float64.finite (x : Float64) : Bool := x.bits &&& 0x7FF0000000000000 != 0x7FF0000000000000

structure ReputationDelta where
  (deltaID minerAddress settlementBatchID rewardWindowID lane policyVersion priorScoreRef reason : String)
  (delta deltaCap : Int32)
  (scoreWeight grossRewardAmount : Float64)
  submissionCount : UInt32
  (sourceResultRoot correctionLineageRoot : String)
  deriving DecidableEq, Repr

structure AppliedReputationDelta where
  delta : ReputationDelta
  (controller payloadHash : String)
  (oldScore newScore : Int32)
  (appliedAtHeight appliedAtUnix : Int)
  deriving DecidableEq, Repr

structure ReputationScore where
  minerAddress : String := ""
  score : Int32 := 0
  level : String := ""
  updatedAt : Int := 0
  consecutiveDays : UInt64 := 0
  lastActiveDay : Int := 0
  deriving DecidableEq, Repr

inductive DeltaError where
  | unauthorizedDeltaController
  | invalidReputationDelta
  | settlementAnchorRequired
  | payloadNotEncodable
  | reputationDeltaConflict
  deriving DecidableEq, Repr

structure Keeper where
  scores : OrdMap String ReputationScore := OrdMap.empty
  controllers : OrdMap String Unit := OrdMap.empty
  applied : OrdMap String AppliedReputationDelta := OrdMap.empty
  deriving DecidableEq

structure GenesisState where
  scores : List ReputationScore := []
  authorizedDeltaControllers : List String := []
  appliedDeltas : List AppliedReputationDelta := []

def initialScore : Int32 := 500

def maxScore : Int32 := 1000

def minScore : Int32 := 0

def getLevel (score : Int32) : String :=
  if score ≥ 800 then "elite" else if score ≥ 600 then "normal" else if score ≥ 100 then "low" else "suspended"

def setScore (height : Int) (score : ReputationScore) (scores : OrdMap String ReputationScore) :
    OrdMap String ReputationScore :=
  scores.insert score.minerAddress { score with level := getLevel score.score, updatedAt := height }

def initMiner (height : Int) (addr : String) (scores : OrdMap String ReputationScore) :
    OrdMap String ReputationScore :=
  setScore height { minerAddress := addr, score := initialScore, level := getLevel initialScore, updatedAt := height }
    scores

def ensureMiner (height : Int) (addr : String) (scores : OrdMap String ReputationScore) :
    OrdMap String ReputationScore :=
  match scores.get? addr with
  | some _ => scores
  | none => initMiner height addr scores

/-- The upper bound is applied before the lower one; the sum wraps at 32 bits. -/
def clampScore (score : Int32) : Int32 :=
  let score := if score > maxScore then maxScore else score
  if score < minScore then minScore else score

def updateScore (height : Int) (addr : String) (delta : Int32) (scores : OrdMap String ReputationScore) :
    OrdMap String ReputationScore :=
  let scores := ensureMiner height addr scores
  let score := (scores.get? addr).getD {}
  setScore height { score with score := clampScore (score.score + delta), level := getLevel (clampScore (score.score + delta)) }
    scores

def getMinerScore (scores : OrdMap String ReputationScore) (addr : String) : Option Int32 :=
  (scores.get? addr).map ReputationScore.score

def ReputationDelta.validate (d : ReputationDelta) : Except DeltaError Unit :=
  if d.deltaID = "" ∨ d.minerAddress = "" ∨ d.settlementBatchID = "" ∨ d.rewardWindowID = "" then
    .error .invalidReputationDelta
  else if d.lane = "" ∨ d.policyVersion = "" ∨ d.reason = "" then .error .invalidReputationDelta
  else if d.delta = 0 ∨ d.deltaCap ≤ 0 then .error .invalidReputationDelta
  else if d.delta > d.deltaCap ∨ d.delta < -d.deltaCap then .error .invalidReputationDelta
  else if d.submissionCount = 0 then .error .invalidReputationDelta
  else if d.scoreWeight.negative then .error .invalidReputationDelta
  else if Settlement.isSHA256Ref d.sourceResultRoot = false ∨ Settlement.isSHA256Ref d.correctionLineageRoot = false then
    .error .invalidReputationDelta
  else .ok ()

section Keeper
variable (accAddress : String → Bool) (digest : ReputationDelta → String)

/-- `digest` is the hexadecimal SHA-256 of the delta's JSON. -/
def ReputationDelta.payloadHash (d : ReputationDelta) : Except DeltaError String :=
  if d.scoreWeight.finite && d.grossRewardAmount.finite then .ok ("sha256:" ++ digest d) else .error .payloadNotEncodable

def setAuthorizedDeltaController (controller : String) (keeper : Keeper) : Keeper :=
  if accAddress controller then { keeper with controllers := keeper.controllers.insert controller () } else keeper

def isAuthorizedDeltaController (keeper : Keeper) (controller : String) : Bool :=
  (keeper.controllers.get? controller).isSome

def setAppliedReputationDelta (receipt : AppliedReputationDelta) (keeper : Keeper) : Keeper :=
  { keeper with applied := keeper.applied.insert receipt.delta.deltaID receipt }

def initGenesis (genesis : GenesisState) : Keeper :=
  let keeper : Keeper := { scores := OrdMap.ofList (genesis.scores.map fun score => (score.minerAddress,score)) }
  let keeper := genesis.authorizedDeltaControllers.foldl
    (fun keeper controller => setAuthorizedDeltaController accAddress controller keeper) keeper
  genesis.appliedDeltas.foldl (fun keeper receipt => setAppliedReputationDelta receipt keeper) keeper

def recordDelta (block : Settlement.Block) (controller : String) (delta : ReputationDelta) (payloadHash : String)
    (keeper : Keeper) : Except DeltaError AppliedReputationDelta × Keeper :=
  let scores := ensureMiner block.height delta.minerAddress keeper.scores
  let updated := updateScore block.height delta.minerAddress delta.delta scores
  let receipt : AppliedReputationDelta :=
    { delta := delta
      controller := controller
      payloadHash := payloadHash
      oldScore := (getMinerScore scores delta.minerAddress).getD 0
      newScore := (getMinerScore updated delta.minerAddress).getD 0
      appliedAtHeight := block.height
      appliedAtUnix := block.time }
  (.ok receipt,setAppliedReputationDelta receipt { keeper with scores := updated })

/-- `reader` is the settlement keeper; without one every delta is refused. -/
def applyReputationDelta (reader : Option Settlement.Keeper) (block : Settlement.Block) (controller : String)
    (delta : ReputationDelta) (keeper : Keeper) : Except DeltaError AppliedReputationDelta × Keeper :=
  if isAuthorizedDeltaController keeper controller = false then (.error .unauthorizedDeltaController,keeper)
  else match delta.validate with
    | .error e => (.error e,keeper)
    | .ok () =>
      if reader.any (Settlement.hasSettlementAnchor · delta.settlementBatchID) = false then
        (.error .settlementAnchorRequired,keeper)
      else match delta.payloadHash digest with
        | .error e => (.error e,keeper)
        | .ok payloadHash =>
          match keeper.applied.get? delta.deltaID with
          | some existing =>
            if existing.payloadHash ≠ payloadHash then (.error .reputationDeltaConflict,keeper) else (.ok existing,keeper)
          | none => recordDelta block controller delta payloadHash keeper

theorem applyReputationDelta_cases (reader : Option Settlement.Keeper) (block : Settlement.Block) (controller : String)
    (delta : ReputationDelta) (keeper : Keeper) :
    (∃ e, applyReputationDelta digest reader block controller delta keeper = (.error e,keeper)) ∨
    isAuthorizedDeltaController keeper controller = true ∧ delta.validate = .ok () ∧
      reader.any (Settlement.hasSettlementAnchor · delta.settlementBatchID) = true ∧
      ∃ payloadHash, delta.payloadHash digest = .ok payloadHash ∧
        ((∃ existing, keeper.applied.get? delta.deltaID = some existing ∧ existing.payloadHash = payloadHash ∧
            applyReputationDelta digest reader block controller delta keeper = (.ok existing,keeper)) ∨
          keeper.applied.get? delta.deltaID = none ∧
            applyReputationDelta digest reader block controller delta keeper =
              recordDelta block controller delta payloadHash keeper) := by
  unfold applyReputationDelta
  cases authorized : isAuthorizedDeltaController keeper controller with
  | false => exact .inl ⟨_,rfl⟩
  | true =>
    cases valid : delta.validate with
    | error e => exact .inl ⟨e,rfl⟩
    | ok _ =>
      cases anchored : reader.any (Settlement.hasSettlementAnchor · delta.settlementBatchID) with
      | false => exact .inl ⟨_,rfl⟩
      | true =>
        cases encoded : delta.payloadHash digest with
        | error e => exact .inl ⟨e,rfl⟩
        | ok payloadHash =>
          cases found : keeper.applied.get? delta.deltaID with
          | none => exact .inr ⟨rfl,rfl,rfl,payloadHash,rfl,.inr ⟨rfl,rfl⟩⟩
          | some existing =>
            by_cases same : existing.payloadHash = payloadHash
            · exact .inr ⟨rfl,rfl,rfl,payloadHash,rfl,.inl ⟨existing,rfl,same,by simp [same]⟩⟩
            · exact .inl ⟨.reputationDeltaConflict,by simp [same]⟩

end Keeper

def Keyed (scores : OrdMap String ReputationScore) : Prop := scores.All fun addr score => score.minerAddress = addr

theorem clampScore_bounds (score : Int32) : minScore ≤ clampScore score ∧ clampScore score ≤ maxScore := by
  have order : minScore ≤ maxScore := by decide
  unfold clampScore
  dsimp only
  split_ifs with above below below
  · exact ⟨Int32.le_refl _,order⟩
  · exact ⟨order,Int32.le_refl _⟩
  · exact ⟨Int32.le_refl _,order⟩
  · exact ⟨Int32.not_lt.mp below,Int32.not_lt.mp above⟩

variable {scores : OrdMap String ReputationScore}

theorem keyed_setScore (keyed : Keyed scores) (height : Int) (score : ReputationScore)
    : Keyed (setScore height score scores) := OrdMap.All.insert keyed rfl

theorem keyed_ensureMiner (keyed : Keyed scores) (height : Int) (addr : String)
    : Keyed (ensureMiner height addr scores) := by
  unfold ensureMiner
  split
  · exact keyed
  · exact keyed_setScore keyed height _

theorem ensureMiner_found (keyed : Keyed scores) (height : Int) (addr : String)
    : ∃ score, (ensureMiner height addr scores).get? addr = some score ∧ score.minerAddress = addr := by
  unfold ensureMiner
  cases found : scores.get? addr with
  | some score => exact ⟨score,found,keyed addr score found⟩
  | none => exact ⟨_,OrdMap.get?_insert_self _ _ _,rfl⟩

theorem updateScore_ensureMiner (scores : OrdMap String ReputationScore) (height : Int) (addr : String) (delta : Int32) :
    updateScore height addr delta (ensureMiner height addr scores) = updateScore height addr delta scores := by
  have again : ensureMiner height addr (ensureMiner height addr scores) = ensureMiner height addr scores := by
    unfold ensureMiner
    cases found : scores.get? addr with
    | some score => simp [found]
    | none => simp [initMiner,setScore]
  unfold updateScore
  rw [again]

theorem keyed_updateScore (keyed : Keyed scores) (height : Int) (addr : String) (delta : Int32)
    : Keyed (updateScore height addr delta scores) :=
  keyed_setScore (keyed_ensureMiner keyed height addr) height _

theorem getMinerScore_updateScore (keyed : Keyed scores) (height : Int) (addr : String) (delta : Int32)
    : ∃ score, getMinerScore (updateScore height addr delta scores) addr = some score ∧
      minScore ≤ score ∧ score ≤ maxScore := by
  obtain ⟨score,found,own⟩ := ensureMiner_found keyed height addr
  refine ⟨clampScore (score.score + delta),?_,clampScore_bounds _⟩
  unfold getMinerScore updateScore setScore
  simp [found,own]

/-! Runs: deltas, new controllers and new anchors in any order. -/

structure Modules where
  reputation : Keeper := {}
  settlement : Settlement.Keeper := {}
  deriving DecidableEq

inductive Call where
  | delta (block : Settlement.Block) (controller : String) (delta : ReputationDelta)
  | controller (address : String)
  | anchor (block : Settlement.Block) (msg : Settlement.MsgAnchorSettlementBatch)
  deriving DecidableEq

section Run
variable (accAddress : String → Bool) (digest : ReputationDelta → String) (wired : Bool)

def Modules.reader (modules : Modules) : Option Settlement.Keeper := if wired then some modules.settlement else none

def applyDelta (block : Settlement.Block) (controller : String) (delta : ReputationDelta) (modules : Modules) :
    Except DeltaError AppliedReputationDelta × Modules :=
  let (result,keeper) := applyReputationDelta digest (modules.reader wired) block controller delta modules.reputation
  (result,{ modules with reputation := keeper })

def perform (modules : Modules) : Call → Modules
  | .delta block controller delta => (applyDelta digest wired block controller delta modules).2
  | .controller address => { modules with reputation := setAuthorizedDeltaController accAddress address modules.reputation }
  | .anchor block msg =>
    { modules with settlement := (Settlement.anchorSettlementBatch accAddress block msg modules.settlement).2 }

def performAll (calls : List Call) (modules : Modules) : Modules := calls.foldl (perform accAddress digest wired) modules

def success (modules : Modules) : Call → List (Settlement.Block × ReputationDelta)
  | .delta block controller delta =>
    match (applyDelta digest wired block controller delta modules).1 with
    | .ok _ => [(block,delta)]
    | .error _ => []
  | _ => []

def successes : List Call → Modules → List (Settlement.Block × ReputationDelta)
  | [],_ => []
  | call :: rest,modules => success digest wired modules call ++ successes rest (perform accAddress digest wired modules call)

def firstOfEach (entries : List (Settlement.Block × ReputationDelta)) : List (Settlement.Block × ReputationDelta) :=
  entries.foldl (fun firsts entry =>
    if entry.2.deltaID ∈ firsts.map (·.2.deltaID) then firsts else firsts ++ [entry]) []

def foldScores (entries : List (Settlement.Block × ReputationDelta)) (scores : OrdMap String ReputationScore) :
    OrdMap String ReputationScore :=
  entries.foldl (fun scores entry => updateScore entry.1.height entry.2.minerAddress entry.2.delta scores) scores

variable {accAddress digest wired}
variable {start : Modules}

theorem performAll_snoc (calls : List Call) (call : Call) (modules : Modules) :
    performAll accAddress digest wired (calls ++ [call]) modules =
      perform accAddress digest wired (performAll accAddress digest wired calls modules) call := by
  simp [performAll]

theorem successes_snoc (calls : List Call) (call : Call) (modules : Modules) :
    successes accAddress digest wired (calls ++ [call]) modules = successes accAddress digest wired calls modules ++
      success digest wired (performAll accAddress digest wired calls modules) call := by
  induction calls generalizing modules with
  | nil => simp [successes,performAll]
  | cons first rest ih => simp [successes,ih,performAll,List.append_assoc]

theorem firstOfEach_snoc (entries : List (Settlement.Block × ReputationDelta)) (entry : Settlement.Block × ReputationDelta) :
    firstOfEach (entries ++ [entry]) = if entry.2.deltaID ∈ (firstOfEach entries).map (·.2.deltaID) then firstOfEach entries
      else firstOfEach entries ++ [entry] := by
  rw [firstOfEach,List.foldl_append]
  rfl

theorem foldScores_snoc (entries : List (Settlement.Block × ReputationDelta)) (entry : Settlement.Block × ReputationDelta)
    (scores : OrdMap String ReputationScore) : foldScores (entries ++ [entry]) scores =
      updateScore entry.1.height entry.2.minerAddress entry.2.delta (foldScores entries scores) := by
  simp [foldScores]

/-- Where a receipt comes from: the first accepted delta of its id, when it was applied. -/
def Origin (accAddress : String → Bool) (digest : ReputationDelta → String) (wired : Bool) (start : Modules)
    (calls : List Call) (id : String) (receipt : AppliedReputationDelta) : Prop :=
  ∃ earlier block controller delta rest, calls = earlier ++ .delta block controller delta :: rest ∧
    let before := performAll accAddress digest wired earlier start
    let after := performAll accAddress digest wired (earlier ++ [.delta block controller delta]) start
    delta.deltaID = id ∧ receipt.delta = delta ∧ receipt.controller = controller ∧
    isAuthorizedDeltaController before.reputation controller = true ∧
    wired = true ∧ Settlement.hasSettlementAnchor before.settlement delta.settlementBatchID = true ∧
    delta.validate = .ok () ∧ delta.payloadHash digest = .ok receipt.payloadHash ∧
    before.reputation.applied.get? id = none ∧
    (applyDelta digest wired block controller delta before).1 = .ok receipt ∧
    getMinerScore after.reputation.scores delta.minerAddress = some receipt.newScore ∧
    minScore ≤ receipt.newScore ∧ receipt.newScore ≤ maxScore

theorem Origin.snoc {calls : List Call} {id : String} {receipt : AppliedReputationDelta}
    (origin : Origin accAddress digest wired start calls id receipt) (call : Call) :
    Origin accAddress digest wired start (calls ++ [call]) id receipt := by
  obtain ⟨earlier,block,controller,delta,rest,split,facts⟩ := origin
  exact ⟨earlier,block,controller,delta,rest ++ [call],by simp [split],facts⟩

structure Tracked (accAddress : String → Bool) (digest : ReputationDelta → String) (wired : Bool) (start : Modules)
    (calls : List Call) (now : Modules) : Prop where
  keyed : Keyed now.reputation.scores
  scores : now.reputation.scores =
    foldScores (firstOfEach (successes accAddress digest wired calls start)) start.reputation.scores
  recorded : ∀ id, (∃ receipt, now.reputation.applied.get? id = some receipt) ↔
    id ∈ (firstOfEach (successes accAddress digest wired calls start)).map (·.2.deltaID)
  origin : ∀ id receipt, now.reputation.applied.get? id = some receipt →
    Origin accAddress digest wired start calls id receipt

section Step
variable {start now : Modules} {calls : List Call}

theorem Tracked.idle (tracked : Tracked accAddress digest wired start calls now) {call : Call} {next : Modules}
    (quiet : firstOfEach (successes accAddress digest wired (calls ++ [call]) start) =
      firstOfEach (successes accAddress digest wired calls start))
    (scores : next.reputation.scores = now.reputation.scores)
    (applied : next.reputation.applied = now.reputation.applied) :
    Tracked accAddress digest wired start (calls ++ [call]) next where
  keyed := scores ▸ tracked.keyed
  scores := by rw [quiet,scores,tracked.scores]
  recorded := by
    intro id
    rw [quiet,applied]
    exact tracked.recorded id
  origin := by
    intro id receipt found
    exact (tracked.origin id receipt (applied ▸ found)).snoc call

theorem success_of_ok {block : Settlement.Block} {controller : String} {delta : ReputationDelta}
    {receipt : AppliedReputationDelta} (accepted : (applyDelta digest wired block controller delta now).1 = .ok receipt) :
    success digest wired now (.delta block controller delta) = [(block,delta)] := by
  simp [success,accepted]

theorem Tracked.delta (tracked : Tracked accAddress digest wired start calls (performAll accAddress digest wired calls start))
    (block : Settlement.Block) (controller : String) (delta : ReputationDelta) :
    Tracked accAddress digest wired start (calls ++ [.delta block controller delta])
      (performAll accAddress digest wired (calls ++ [.delta block controller delta]) start) := by
  have after : performAll accAddress digest wired (calls ++ [.delta block controller delta]) start = _ :=
    performAll_snoc calls (.delta block controller delta) start
  have listed : successes accAddress digest wired (calls ++ [.delta block controller delta]) start = _ :=
    successes_snoc calls (.delta block controller delta) start
  generalize before : performAll accAddress digest wired calls start = now at tracked after listed
  change _ = (applyDelta digest wired block controller delta now).2 at after
  rcases applyReputationDelta_cases digest (now.reader wired) block controller delta now.reputation with
    ⟨e,refused⟩ | ⟨authorized,valid,anchored,payloadHash,encoded,⟨existing,found,-,again⟩ | ⟨absent,first⟩⟩
  · have outcome : applyDelta digest wired block controller delta now = (.error e,now) := by
      simp only [applyDelta,refused]
    refine tracked.idle ?_ (by rw [after,outcome]) (by rw [after,outcome])
    rw [listed]
    simp [success,outcome]
  · have outcome : applyDelta digest wired block controller delta now = (.ok existing,now) := by
      simp only [applyDelta,again]
    refine tracked.idle ?_ (by rw [after,outcome]) (by rw [after,outcome])
    have known := (tracked.recorded delta.deltaID).mp ⟨existing,found⟩
    rw [listed,success_of_ok (congrArg Prod.fst outcome),firstOfEach_snoc,if_pos known]
  · -- The first delta of its id: one more update of the fold, one more receipt.
    have fresh : delta.deltaID ∉ (firstOfEach (successes accAddress digest wired calls start)).map (·.2.deltaID) := by
      rw [← tracked.recorded,absent]
      simp
    obtain ⟨score,updated,low,high⟩ := getMinerScore_updateScore tracked.keyed block.height delta.minerAddress delta.delta
    have firsts : firstOfEach (successes accAddress digest wired (calls ++ [.delta block controller delta]) start) =
        firstOfEach (successes accAddress digest wired calls start) ++ [(block,delta)] := by
      have accepted : (applyDelta digest wired block controller delta now).1 =
          (recordDelta block controller delta payloadHash now.reputation).1 := by simp only [applyDelta,first]
      rw [listed,success_of_ok accepted,firstOfEach_snoc,if_neg fresh]
    have outcome : applyDelta digest wired block controller delta now =
        ((recordDelta block controller delta payloadHash now.reputation).1,
          { now with reputation := (recordDelta block controller delta payloadHash now.reputation).2 }) := by
      simp only [applyDelta,first]
    have scores : (applyDelta digest wired block controller delta now).2.reputation.scores =
        updateScore block.height delta.minerAddress delta.delta now.reputation.scores := by
      rw [outcome]
      exact updateScore_ensureMiner _ _ _ _
    rw [after]
    refine ⟨scores ▸ keyed_updateScore tracked.keyed _ _ _,?_,?_,?_⟩
    · rw [scores,firsts,foldScores_snoc,← tracked.scores]
    · intro id
      rw [firsts,outcome]
      change (∃ receipt, (now.reputation.applied.insert delta.deltaID _).get? id = some receipt) ↔ _
      rw [OrdMap.get?_insert,List.map_append,List.mem_append,← tracked.recorded]
      by_cases own : id = delta.deltaID
      · simp [own]
      · simp [own]
    · intro id receipt found
      rw [outcome] at found
      change (now.reputation.applied.insert delta.deltaID _).get? id = some receipt at found
      rw [OrdMap.get?_insert] at found
      split_ifs at found with own
      · refine ⟨calls,block,controller,delta,[],rfl,?_⟩
        dsimp only
        rw [after.trans (by rw [← before]),before]
        cases found
        have reads : wired = true ∧ Settlement.hasSettlementAnchor now.settlement delta.settlementBatchID = true := by
          unfold Modules.reader at anchored
          cases wired with
          | false => cases anchored
          | true => exact ⟨rfl,anchored⟩
        have newScore : getMinerScore (updateScore block.height delta.minerAddress delta.delta
            (ensureMiner block.height delta.minerAddress now.reputation.scores)) delta.minerAddress = some score := by
          rw [updateScore_ensureMiner]
          exact updated
        refine ⟨own.symm,rfl,rfl,authorized,reads.1,reads.2,valid,encoded,own ▸ absent,by rw [outcome]; rfl,?_,?_,?_⟩
        · rw [scores,updated,newScore]
          rfl
        · rw [newScore]
          exact low
        · rw [newScore]
          exact high
      · exact (tracked.origin id receipt found).snoc _

end Step

theorem initGenesis_keyed (genesis : GenesisState) : Keyed (initGenesis accAddress genesis).scores := by
  have controlled (controllers : List String) (keeper : Keeper) : (controllers.foldl (fun keeper controller =>
      setAuthorizedDeltaController accAddress controller keeper) keeper).scores = keeper.scores := by
    induction controllers generalizing keeper with
    | nil => rfl
    | cons controller rest ih =>
      rw [List.foldl_cons,ih]
      unfold setAuthorizedDeltaController
      split <;> rfl
  have received (receipts : List AppliedReputationDelta) (keeper : Keeper) : (receipts.foldl (fun keeper receipt =>
      setAppliedReputationDelta receipt keeper) keeper).scores = keeper.scores := by
    induction receipts generalizing keeper with
    | nil => rfl
    | cons receipt rest ih => exact ih (setAppliedReputationDelta receipt keeper)
  unfold initGenesis
  rw [received,controlled]
  intro addr score found
  obtain ⟨given,-,equal⟩ := List.mem_map.mp (OrdMap.mem_of_get?_ofList found)
  cases equal
  rfl

theorem initGenesis_applied {genesis : GenesisState} (fresh : genesis.appliedDeltas = []) :
    (initGenesis accAddress genesis).applied = OrdMap.empty := by
  have controlled (controllers : List String) (keeper : Keeper) : (controllers.foldl (fun keeper controller =>
      setAuthorizedDeltaController accAddress controller keeper) keeper).applied = keeper.applied := by
    induction controllers generalizing keeper with
    | nil => rfl
    | cons controller rest ih =>
      rw [List.foldl_cons,ih]
      unfold setAuthorizedDeltaController
      split <;> rfl
  unfold initGenesis
  rw [fresh]
  exact controlled _ _

theorem tracked_performAll (keyed : Keyed start.reputation.scores) (fresh : start.reputation.applied = OrdMap.empty)
    (calls : List Call) :
    Tracked accAddress digest wired start calls (performAll accAddress digest wired calls start) := by
  induction calls using List.reverseRecOn with
  | nil =>
    refine ⟨keyed,rfl,?_,?_⟩
    · intro id
      simp [performAll,fresh,successes,firstOfEach]
    · intro id receipt found
      simp [performAll,fresh] at found
  | append_singleton calls call ih =>
    cases call with
    | delta block controller delta => exact ih.delta block controller delta
    | controller address =>
      refine ih.idle (by simp [successes_snoc,success]) ?_ ?_ <;> rw [performAll_snoc]
      · unfold perform setAuthorizedDeltaController
        dsimp only
        split <;> rfl
      · unfold perform setAuthorizedDeltaController
        dsimp only
        split <;> rfl
    | anchor block msg =>
      refine ih.idle (by simp [successes_snoc,success]) ?_ ?_ <;> rw [performAll_snoc] <;> rfl

theorem performAll_anchored {batch : String} (calls : List Call)
    (anchored : Settlement.hasSettlementAnchor start.settlement batch = true) :
    Settlement.hasSettlementAnchor (performAll accAddress digest wired calls start).settlement batch = true := by
  induction calls using List.reverseRecOn with
  | nil => exact anchored
  | append_singleton calls call ih =>
    rw [performAll_snoc]
    cases call with
    | delta block controller delta => exact ih
    | controller address => exact ih
    | anchor block msg =>
      obtain ⟨anchor,found⟩ := Option.isSome_iff_exists.mp ih
      exact Option.isSome_iff_exists.mpr ⟨anchor,Settlement.anchorSettlementBatch_keeps found⟩

theorem digest_of_payloadHash {a b : ReputationDelta} {payloadHash : String}
    (first : a.payloadHash digest = .ok payloadHash) (second : b.payloadHash digest = .ok payloadHash) :
    digest a = digest b := by
  unfold ReputationDelta.payloadHash at first second
  split_ifs at first second
  have equal := (Except.ok.inj first).trans (Except.ok.inj second).symm
  have chars := congrArg String.toList equal
  simp only [String.toList_append] at chars
  exact String.toList_inj.mp (List.append_cancel_left chars)

theorem applyDelta_repeated {calls : List Call} {used : Set ReputationDelta} (injective : Set.InjOn digest used)
    {receipt : AppliedReputationDelta} {delta : ReputationDelta}
    (origin : Origin accAddress digest wired start calls delta.deltaID receipt) (first : receipt.delta ∈ used)
    (member : delta ∈ used)
    (found : (performAll accAddress digest wired calls start).reputation.applied.get? delta.deltaID = some receipt)
    (block : Settlement.Block) (controller : String) :
    let now := performAll accAddress digest wired calls start
    (applyDelta digest wired block controller delta now).2 = now ∧
      (delta = receipt.delta → isAuthorizedDeltaController now.reputation controller = true →
        (applyDelta digest wired block controller delta now).1 = .ok receipt) ∧
      (delta ≠ receipt.delta → ∃ e, (applyDelta digest wired block controller delta now).1 = .error e) := by
  intro now
  obtain ⟨earlier,block₀,controller₀,_,rest,split,-,rfl,-,-,wires,anchored,valid,encoded,-,-,-,-,-⟩ := origin
  have still : Settlement.hasSettlementAnchor now.settlement receipt.delta.settlementBatchID = true := by
    have later : Settlement.hasSettlementAnchor (performAll accAddress digest wired
        (.delta block₀ controller₀ receipt.delta :: rest) _).settlement _ = true := performAll_anchored _ anchored
    rw [performAll,performAll,← List.foldl_append,← split] at later
    exact later
  have repeated : delta = receipt.delta → isAuthorizedDeltaController now.reputation controller = true →
      (applyDelta digest wired block controller delta now).1 = .ok receipt := by
    rintro rfl authorized
    have held : now.reputation.applied.get? receipt.delta.deltaID = some receipt := found
    simp [applyDelta,applyReputationDelta,Modules.reader,authorized,valid,wires,still,encoded,held]
  rcases applyReputationDelta_cases digest (now.reader wired) block controller delta now.reputation with
    ⟨e,refused⟩ | ⟨-,-,-,payloadHash,hashed,⟨existing,held,same,again⟩ | ⟨absent,-⟩⟩
  · have outcome : applyDelta digest wired block controller delta now = (.error e,now) := by
      simp only [applyDelta,refused]
    rw [outcome] at repeated ⊢
    exact ⟨rfl,repeated,fun _ => ⟨e,rfl⟩⟩
  · have outcome : applyDelta digest wired block controller delta now = (.ok existing,now) := by
      simp only [applyDelta,again]
    have own : existing = receipt := Option.some.inj (held.symm.trans found)
    refine ⟨by rw [outcome],repeated,fun differ => absurd ?_ differ⟩
    apply injective member first
    exact digest_of_payloadHash (hashed.trans (by rw [← same,own])) encoded
  · rw [found] at absent
    cases absent

theorem applyDelta_error {block : Settlement.Block} {controller : String} {delta : ReputationDelta} {now : Modules}
    {e : DeltaError} (refused : (applyDelta digest wired block controller delta now).1 = .error e) :
    (applyDelta digest wired block controller delta now).2 = now := by
  rcases applyReputationDelta_cases digest (now.reader wired) block controller delta now.reputation with
    ⟨_,unchanged⟩ | ⟨-,-,-,payloadHash,-,⟨existing,-,-,again⟩ | ⟨-,first⟩⟩
  · simp only [applyDelta,unchanged]
  · simp only [applyDelta,again]
  · simp only [applyDelta,first,recordDelta] at refused
    cases refused

end Run

/-- Deltas are applied exactly once. In every run of deltas, new controllers and new
anchors the scores are the fold over the first accepted delta of each id; every
receipt is that of the first accepted delta; a repeated delta changes nothing and
is answered by its receipt, or refused when its payload differs. -/
theorem deltas_exactly_once (accAddress : String → Bool) (digest : ReputationDelta → String) (wired : Bool)
    (genesis : GenesisState) (fresh : genesis.appliedDeltas = []) (settlement : Settlement.Keeper)
    (used : Set ReputationDelta) (injective : Set.InjOn digest used) (calls : List Call)
    (known : ∀ block controller delta, Call.delta block controller delta ∈ calls → delta ∈ used) :
    let start : Modules := ⟨initGenesis accAddress genesis,settlement⟩
    let now := performAll accAddress digest wired calls start
    let firsts := firstOfEach (successes accAddress digest wired calls start)
    now.reputation.scores = foldScores firsts start.reputation.scores ∧
    (∀ id, (∃ receipt, now.reputation.applied.get? id = some receipt) ↔ id ∈ firsts.map (·.2.deltaID)) ∧
    (∀ id receipt, now.reputation.applied.get? id = some receipt →
      Origin accAddress digest wired start calls id receipt) ∧
    (∀ block controller, ∀ delta ∈ used, ∀ receipt, now.reputation.applied.get? delta.deltaID = some receipt →
      (applyDelta digest wired block controller delta now).2 = now ∧
      (delta = receipt.delta → isAuthorizedDeltaController now.reputation controller = true →
        (applyDelta digest wired block controller delta now).1 = .ok receipt) ∧
      (delta ≠ receipt.delta → ∃ e, (applyDelta digest wired block controller delta now).1 = .error e)) ∧
    (∀ block controller delta e, (applyDelta digest wired block controller delta now).1 = .error e →
      (applyDelta digest wired block controller delta now).2 = now) := by
  intro start now firsts
  have tracked : Tracked accAddress digest wired start calls now :=
    tracked_performAll (initGenesis_keyed genesis) (initGenesis_applied fresh) calls
  refine ⟨tracked.scores,tracked.recorded,tracked.origin,?_,fun _ _ _ _ => applyDelta_error⟩
  intro block controller delta member receipt found
  have origin := tracked.origin delta.deltaID receipt found
  have first : receipt.delta ∈ used := by
    obtain ⟨earlier,block₀,controller₀,original,rest,split,-,rfl,-⟩ := origin
    exact known block₀ controller₀ receipt.delta (by simp [split])
  exact applyDelta_repeated injective origin first member found block controller

/-! A delta that is applied once, and then repeated by a stranger. -/

def sampleHash : String := "aaaaaaaaaaaaaaaaaaaaaaaaaaaaaaaaaaaaaaaaaaaaaaaaaaaaaaaaaaaaaaaa"

def sampleRoot : String := "sha256:" ++ sampleHash

def sampleDelta : ReputationDelta :=
  { deltaID := "delta-1", minerAddress := "claw1miner", settlementBatchID := "batch-1", rewardWindowID := "window-1"
    lane := "arena", policyVersion := "policy-v1", priorScoreRef := "", reason := "window", delta := 25, deltaCap := 50
    scoreWeight := ⟨0x3FF0000000000000⟩, grossRewardAmount := ⟨0⟩, submissionCount := 3
    sourceResultRoot := sampleRoot, correctionLineageRoot := sampleRoot }

def sampleAnchor : Settlement.SettlementAnchor :=
  { settlementBatchID := "batch-1", anchorJobID := "job-1", submitter := "claw1submitter", lane := "arena"
    schemaVersion := "settlement.v1", policyBundleVersion := "policy-v1", canonicalRoot := sampleRoot
    anchorPayloadHash := sampleRoot, rewardWindowIDsRoot := sampleRoot, taskRunIDsRoot := sampleRoot
    minerRewardRowsRoot := sampleRoot, windowEndAt := "2026-01-01T00:00:00Z", totalRewardAmount := 0
    anchoredAtHeight := 1, anchoredAtTime := 1 }

def sampleStart : Modules :=
  ⟨initGenesis (·.startsWith "claw1") { authorizedDeltaControllers := ["claw1controller"] },
    Settlement.initGenesis (·.startsWith "claw1") { anchors := [sampleAnchor] }⟩

def sampleCalls : List Call := [.delta ⟨2,2⟩ "claw1controller" sampleDelta]

def sampleNow : Modules := performAll (·.startsWith "claw1") (fun _ => sampleHash) true sampleCalls sampleStart

theorem deltas_exactly_once_sample :
    sampleNow.reputation.scores = foldScores [(⟨2,2⟩,sampleDelta)] OrdMap.empty ∧
      (sampleNow.reputation.scores.get? "claw1miner").map ReputationScore.score = some 525 := by
  have once := deltas_exactly_once (·.startsWith "claw1") (fun _ => sampleHash) true
    { authorizedDeltaControllers := ["claw1controller"] } rfl
    (Settlement.initGenesis (·.startsWith "claw1") { anchors := [sampleAnchor] }) {sampleDelta} (by simp) sampleCalls
    (by simp [sampleCalls])
  exact ⟨once.1.trans (by decide +kernel),by decide +kernel⟩

/-- The same payload from a controller that is not authorized is refused. -/
theorem repeated_by_stranger :
    (sampleNow.reputation.applied.get? sampleDelta.deltaID).map AppliedReputationDelta.delta = some sampleDelta ∧
      (applyDelta (fun _ => sampleHash) true ⟨3,3⟩ "claw1stranger" sampleDelta sampleNow).1 =
        .error .unauthorizedDeltaController := by
  decide +kernel

end Clawchain.Chain.Reputation
