import Clawchain.Chain.Reputation

/-! Genesis of the settlement and the reputation module: what a chain exports passes the check of the chain that starts
from it, and gives that chain the same stores. -/
namespace Clawchain.Chain
open Clawchain.Lib

/-- The loops of `Validate`: entries are looked at in turn, and a key that was seen before is refused. -/
def validateOnce {α ε : Type} (validate : α → Except ε Unit) (key : α → String) (duplicate : ε) :
    List String → List α → Except ε Unit
  | _,[] => .ok ()
  | seen,entry :: rest => do
    validate entry
    if key entry ∈ seen then .error duplicate else validateOnce validate key duplicate (key entry :: seen) rest

section Loops
variable {α σ ν ε : Type} {validate : α → Except ε Unit} {key : α → String} {duplicate : ε}

theorem validateOnce_ok_iff {seen : List String} {entries : List α} :
    validateOnce validate key duplicate seen entries = .ok () ↔
      (∀ entry ∈ entries, validate entry = .ok () ∧ key entry ∉ seen) ∧ (entries.map key).Nodup := by
  induction entries generalizing seen with
  | nil => simp [validateOnce]
  | cons entry rest ih =>
    rw [validateOnce]
    cases valid : validate entry with
    | error e => simp [bind,Except.bind,valid]
    | ok _ =>
      by_cases known : key entry ∈ seen
      · simp [bind,Except.bind,known]
      · simp only [bind,Except.bind,known,if_false,ih,List.mem_cons,List.map_cons,List.nodup_cons]
        grind

/-- A loop that inserts into one map of a store. -/
theorem foldl_writes (step : σ → α → σ) (write : OrdMap String ν → σ) (entry : α → String × ν) {list : List α}
    (writes : ∀ m, ∀ a ∈ list, step (write m) a = write (m.insert (entry a).1 (entry a).2)) (m : OrdMap String ν) :
    list.foldl step (write m) = write (m.insertAll (list.map entry)) := by
  induction list generalizing m with
  | nil => rfl
  | cons a rest ih =>
    rw [List.foldl_cons,writes m a List.mem_cons_self,ih fun m b inside => writes m b (List.mem_cons_of_mem _ inside)]
    rfl

theorem all_ofList {list : List α} {entry : α → String × ν} {P : String → ν → Prop}
    (all : ∀ a ∈ list, P (entry a).1 (entry a).2) : (OrdMap.ofList (list.map entry)).All P := by
  intro k v found
  obtain ⟨a,inside,equal⟩ := List.mem_map.mp (OrdMap.mem_of_get?_ofList found)
  have holds := all a inside
  rwa [equal] at holds

theorem mem_keys {m : OrdMap String Unit} {P : String → Prop} (all : m.All fun k _ => P k) : ∀ k ∈ m.keys, P k := by
  intro k inside
  obtain ⟨v,found⟩ := OrdMap.mem_keys_iff.mp inside
  exact all k v found

theorem sorted_keys (m : OrdMap String ν) : m.keys.insertionSort (· ≤ ·) = m.keys :=
  (m.keys_sorted.imp le_of_lt).insertionSort_eq

theorem ofList_keys (m : OrdMap String Unit) : OrdMap.ofList (m.keys.map fun k => (k,())) = m := by
  have entries : m.keys.map (fun k => (k,())) = m.entries := by
    rw [OrdMap.keys,List.map_map]
    exact List.map_id _
  rw [entries,OrdMap.ofList_entries]

end Loops

namespace Settlement

def exportGenesis (keeper : Keeper) : GenesisState where
  anchors := keeper.anchors.entries.map Prod.snd
  authorizedSubmitters := keeper.submitters.keys.insertionSort (· ≤ ·)

def GenesisState.validate (accAddress : String → Bool) (genesis : GenesisState) : Except SettlementError Unit :=
  validateOnce (fun submitter => if accAddress submitter then .ok () else .error .invalidAddress) id
    .unauthorizedSubmitter [] genesis.authorizedSubmitters

structure Sound (accAddress : String → Bool) (keeper : Keeper) : Prop where
  anchors : keeper.anchors.All fun id anchor => anchor.settlementBatchID = id
  submitters : keeper.submitters.All fun submitter _ => accAddress submitter = true

variable {accAddress : String → Bool} {keeper : Keeper}

theorem initGenesis_eq {genesis : GenesisState} (listed : ∀ submitter ∈ genesis.authorizedSubmitters, accAddress submitter = true) :
    initGenesis accAddress genesis = ⟨OrdMap.ofList (genesis.anchors.map fun anchor => (anchor.settlementBatchID,anchor)),
      OrdMap.ofList (genesis.authorizedSubmitters.map fun submitter => (submitter,()))⟩ := by
  have submitters := foldl_writes (fun keeper submitter => setAuthorizedAnchorSubmitter accAddress submitter keeper)
    (Keeper.mk OrdMap.empty) (fun submitter => (submitter,())) (fun _ submitter inside => if_pos (listed submitter inside))
    OrdMap.empty
  exact (congrArg (fun keeper => genesis.anchors.foldl _ keeper) submitters).trans
    (foldl_writes (fun keeper anchor => setSettlementAnchor anchor keeper) (fun m => Keeper.mk m _)
      (fun anchor => (anchor.settlementBatchID,anchor)) (fun _ _ _ => rfl) OrdMap.empty)

theorem validate_ok_iff {genesis : GenesisState} : genesis.validate accAddress = .ok () ↔
    (∀ submitter ∈ genesis.authorizedSubmitters, accAddress submitter = true) ∧ genesis.authorizedSubmitters.Nodup := by
  simp [GenesisState.validate,validateOnce_ok_iff]

theorem Sound.init {genesis : GenesisState} (valid : genesis.validate accAddress = .ok ()) :
    Sound accAddress (initGenesis accAddress genesis) := by
  have listed := (validate_ok_iff.mp valid).1
  rw [initGenesis_eq listed]
  exact ⟨all_ofList fun _ _ => rfl,all_ofList listed⟩

theorem Sound.message (sound : Sound accAddress keeper) (block : Block) (msg : MsgAnchorSettlementBatch) :
    Sound accAddress (anchorSettlementBatch accAddress block msg keeper).2 := by
  obtain ⟨e,refused⟩ | ⟨-,-,⟨existing,-,-,again⟩ | ⟨-,first⟩⟩ := anchorSettlementBatch_cases accAddress block msg keeper
  · rwa [refused]
  · rwa [again]
  · rw [first]
    exact ⟨sound.anchors.insert rfl,sound.submitters⟩

theorem Sound.restored (sound : Sound accAddress keeper) :
    (exportGenesis keeper).validate accAddress = .ok () ∧ initGenesis accAddress (exportGenesis keeper) = keeper := by
  have listed := mem_keys sound.submitters
  have submitters : (exportGenesis keeper).authorizedSubmitters = keeper.submitters.keys := sorted_keys _
  have anchors : OrdMap.ofList ((exportGenesis keeper).anchors.map fun anchor => (anchor.settlementBatchID,anchor)) =
    keeper.anchors := OrdMap.ofList_values sound.anchors
  constructor
  · rw [validate_ok_iff,submitters]
    exact ⟨listed,keeper.submitters.keys_nodup⟩
  · rw [initGenesis_eq (by rwa [submitters]),submitters,ofList_keys,anchors]

end Settlement

namespace Reputation

/-- What `Validate` refuses: an address that is none, or the rest. -/
inductive GenesisError where
  | address
  | delta (error : DeltaError)
  deriving DecidableEq, Repr

section Genesis
variable (accAddress : String → Bool) (digest : ReputationDelta → String)

def AppliedReputationDelta.validate (receipt : AppliedReputationDelta) : Except GenesisError Unit :=
  match receipt.delta.validate with
  | .error e => .error (.delta e)
  | .ok () =>
    if accAddress receipt.controller = false then .error .address
    else match receipt.delta.payloadHash digest with
      | .error e => .error (.delta e)
      | .ok expectedHash =>
        if receipt.payloadHash ≠ expectedHash ∨ Settlement.isSHA256Ref receipt.payloadHash = false then
          .error (.delta .invalidReputationDelta)
        else if receipt.newScore < minScore ∨ receipt.newScore > maxScore ∨ receipt.oldScore < minScore ∨
            receipt.oldScore > maxScore then .error (.delta .invalidReputationDelta)
        else .ok ()

def GenesisState.validate (genesis : GenesisState) : Except GenesisError Unit := do
  validateOnce (fun controller => if accAddress controller then .ok () else .error .address) id
    (.delta .unauthorizedDeltaController) [] genesis.authorizedDeltaControllers
  validateOnce (AppliedReputationDelta.validate accAddress digest) (·.delta.deltaID) (.delta .reputationDeltaConflict) []
    genesis.appliedDeltas

def getAllAppliedReputationDeltas (keeper : Keeper) : List AppliedReputationDelta :=
  (keeper.applied.entries.map Prod.snd).insertionSort fun a b => a.delta.deltaID ≤ b.delta.deltaID

def exportGenesis (keeper : Keeper) : GenesisState where
  scores := keeper.scores.entries.map Prod.snd
  authorizedDeltaControllers := keeper.controllers.keys.insertionSort (· ≤ ·)
  appliedDeltas := getAllAppliedReputationDeltas keeper

def Bounded (scores : OrdMap String ReputationScore) : Prop :=
  scores.All fun _ score => minScore ≤ score.score ∧ score.score ≤ maxScore

structure Sound (keeper : Keeper) : Prop where
  keyed : Keyed keeper.scores
  bounded : Bounded keeper.scores
  controllers : keeper.controllers.All fun controller _ => accAddress controller = true
  applied : keeper.applied.All fun id receipt => receipt.delta.deltaID = id
  receipts : keeper.applied.All fun _ receipt => receipt.validate accAddress digest = .ok ()

end Genesis

variable {accAddress : String → Bool} {digest : ReputationDelta → String} {keeper : Keeper}
variable {scores : OrdMap String ReputationScore} {wired : Bool}

theorem bounded_ensureMiner (bounded : Bounded scores) (height : Int) (addr : String) :
    Bounded (ensureMiner height addr scores) := by
  unfold ensureMiner
  split
  · exact bounded
  · exact OrdMap.All.insert bounded (show minScore ≤ initialScore ∧ initialScore ≤ maxScore by decide)

theorem bounded_updateScore (bounded : Bounded scores) (height : Int) (addr : String) (delta : Int32) :
    Bounded (updateScore height addr delta scores) :=
  OrdMap.All.insert (bounded_ensureMiner bounded height addr) (clampScore_bounds _)

theorem Sound.controller (sound : Sound accAddress digest keeper) (controller : String) :
    Sound accAddress digest (setAuthorizedDeltaController accAddress controller keeper) := by
  unfold setAuthorizedDeltaController
  split_ifs with valid
  · exact { sound with controllers := sound.controllers.insert valid }
  · exact sound

theorem initGenesis_eq {genesis : GenesisState}
    (listed : ∀ controller ∈ genesis.authorizedDeltaControllers, accAddress controller = true) :
    initGenesis accAddress genesis = ⟨OrdMap.ofList (genesis.scores.map fun score => (score.minerAddress,score)),
      OrdMap.ofList (genesis.authorizedDeltaControllers.map fun controller => (controller,())),
      OrdMap.ofList (genesis.appliedDeltas.map fun receipt => (receipt.delta.deltaID,receipt))⟩ := by
  have controllers := foldl_writes (fun keeper controller => setAuthorizedDeltaController accAddress controller keeper)
    (Keeper.mk (OrdMap.ofList (genesis.scores.map fun score : ReputationScore => (score.minerAddress,score))) · OrdMap.empty)
    (fun controller => (controller,())) (fun _ controller inside => if_pos (listed controller inside)) OrdMap.empty
  exact (congrArg (fun keeper => genesis.appliedDeltas.foldl _ keeper) controllers).trans
    (foldl_writes (fun keeper receipt => setAppliedReputationDelta receipt keeper) (Keeper.mk _ _)
      (fun receipt => (receipt.delta.deltaID,receipt)) (fun _ _ _ => rfl) OrdMap.empty)

theorem validate_ok_iff {genesis : GenesisState} : genesis.validate accAddress digest = .ok () ↔
    ((∀ controller ∈ genesis.authorizedDeltaControllers, accAddress controller = true) ∧
      genesis.authorizedDeltaControllers.Nodup) ∧
    (∀ receipt ∈ genesis.appliedDeltas, receipt.validate accAddress digest = .ok ()) ∧
      (genesis.appliedDeltas.map (·.delta.deltaID)).Nodup := by
  have both (x y : Except GenesisError Unit) : (do x; y) = .ok () ↔ x = .ok () ∧ y = .ok () := by
    cases x <;> simp [bind,Except.bind]
  rw [GenesisState.validate,both,validateOnce_ok_iff,validateOnce_ok_iff]
  simp

theorem Sound.init {genesis : GenesisState} (valid : genesis.validate accAddress digest = .ok ())
    (bounded : ∀ score ∈ genesis.scores, minScore ≤ score.score ∧ score.score ≤ maxScore) :
    Sound accAddress digest (initGenesis accAddress genesis) := by
  obtain ⟨⟨listed,-⟩,receipts,-⟩ := validate_ok_iff.mp valid
  rw [initGenesis_eq listed]
  exact ⟨all_ofList fun _ _ => rfl,all_ofList bounded,all_ofList listed,all_ofList fun _ _ => rfl,all_ofList receipts⟩

theorem Sound.delta (hashed : ∀ delta, Settlement.isSHA256Ref ("sha256:" ++ digest delta) = true)
    (sound : Sound accAddress digest keeper) (reader : Option Settlement.Keeper) (block : Settlement.Block)
    (controller : String) (delta : ReputationDelta) :
    Sound accAddress digest (applyReputationDelta digest reader block controller delta keeper).2 := by
  rcases applyReputationDelta_cases digest reader block controller delta keeper with
    ⟨e,refused⟩ | ⟨authorized,valid,-,payloadHash,encoded,⟨existing,-,-,again⟩ | ⟨-,first⟩⟩
  · rwa [refused]
  · rwa [again]
  · rw [first]
    have keyed := keyed_ensureMiner sound.keyed block.height delta.minerAddress
    have bounded := bounded_ensureMiner sound.bounded block.height delta.minerAddress
    obtain ⟨old,before,-⟩ := ensureMiner_found sound.keyed block.height delta.minerAddress
    obtain ⟨new,after,low,high⟩ := getMinerScore_updateScore keyed block.height delta.minerAddress delta.delta
    obtain ⟨least,most⟩ := bounded _ _ before
    obtain ⟨_,registered⟩ := Option.isSome_iff_exists.mp authorized
    have format : Settlement.isSHA256Ref payloadHash = true := by
      unfold ReputationDelta.payloadHash at encoded
      split_ifs at encoded
      cases encoded
      exact hashed delta
    refine ⟨keyed_updateScore keyed _ _ _,bounded_updateScore bounded _ _ _,sound.controllers,sound.applied.insert rfl,
      sound.receipts.insert ?_⟩
    have oldScore : getMinerScore (ensureMiner block.height delta.minerAddress keeper.scores) delta.minerAddress =
        some old.score := by rw [getMinerScore,before,Option.map_some]
    simp [AppliedReputationDelta.validate,valid,sound.controllers _ _ registered,encoded,format,after,oldScore,
      Int32.not_lt.mpr,low,high,least,most]

theorem Sound.restored (sound : Sound accAddress digest keeper) :
    (exportGenesis keeper).validate accAddress digest = .ok () ∧
      initGenesis accAddress (exportGenesis keeper) = keeper := by
  have listed := mem_keys sound.controllers
  have controllers : (exportGenesis keeper).authorizedDeltaControllers = keeper.controllers.keys := sorted_keys _
  have entries := OrdMap.all_iff.mp sound.applied
  have ids : (keeper.applied.entries.map Prod.snd).map (·.delta.deltaID) = keeper.applied.keys := by
    rw [List.map_map]
    exact List.map_congr_left entries
  have applied : (exportGenesis keeper).appliedDeltas = keeper.applied.entries.map Prod.snd := by
    refine List.Pairwise.insertionSort_eq (List.pairwise_map.mp ?_)
    rw [ids]
    exact keeper.applied.keys_sorted.imp le_of_lt
  constructor
  · rw [validate_ok_iff,controllers,applied,ids]
    refine ⟨⟨listed,keeper.controllers.keys_nodup⟩,?_,keeper.applied.keys_nodup⟩
    intro receipt inside
    obtain ⟨entry,member,rfl⟩ := List.mem_map.mp inside
    exact OrdMap.all_iff.mp sound.receipts entry member
  · rw [initGenesis_eq (by rwa [controllers]),controllers,applied,ofList_keys,OrdMap.ofList_values sound.applied]
    have scores : OrdMap.ofList ((exportGenesis keeper).scores.map fun score => (score.minerAddress,score)) =
      keeper.scores := OrdMap.ofList_values sound.keyed
    rw [scores]

section Run
variable {start : Modules}

theorem sound_performAll (hashed : ∀ delta, Settlement.isSHA256Ref ("sha256:" ++ digest delta) = true)
    (reputation : Sound accAddress digest start.reputation) (settlement : Settlement.Sound accAddress start.settlement)
    (calls : List Call) : Sound accAddress digest (performAll accAddress digest wired calls start).reputation ∧
      Settlement.Sound accAddress (performAll accAddress digest wired calls start).settlement := by
  induction calls using List.reverseRecOn with
  | nil => exact ⟨reputation,settlement⟩
  | append_singleton calls call ih =>
    rw [performAll_snoc]
    cases call with
    | delta block controller delta => exact ⟨ih.1.delta hashed _ block controller delta,ih.2⟩
    | controller address => exact ⟨ih.1.controller address,ih.2⟩
    | anchor block msg => exact ⟨ih.1,ih.2.message block msg⟩

end Run

/-- A chain goes on from its own export. Whatever deltas, controllers and anchors it has taken since a genesis that was
valid, what both modules export passes its check and restores their stores exactly. -/
theorem export_restores (accAddress : String → Bool) (digest : ReputationDelta → String) (wired : Bool)
    (hashed : ∀ delta, Settlement.isSHA256Ref ("sha256:" ++ digest delta) = true) (reputation : GenesisState)
    (settlement : Settlement.GenesisState) (valid : reputation.validate accAddress digest = .ok ())
    (bounded : ∀ score ∈ reputation.scores, minScore ≤ score.score ∧ score.score ≤ maxScore)
    (valid' : settlement.validate accAddress = .ok ()) (calls : List Call) :
    let now := performAll accAddress digest wired calls
      ⟨initGenesis accAddress reputation,Settlement.initGenesis accAddress settlement⟩
    ((exportGenesis now.reputation).validate accAddress digest = .ok () ∧
      initGenesis accAddress (exportGenesis now.reputation) = now.reputation) ∧
    (Settlement.exportGenesis now.settlement).validate accAddress = .ok () ∧
      Settlement.initGenesis accAddress (Settlement.exportGenesis now.settlement) = now.settlement := by
  intro now
  have start : Sound accAddress digest (Modules.mk _ (Settlement.initGenesis accAddress settlement)).reputation :=
    Sound.init valid bounded
  obtain ⟨scores,anchors⟩ := sound_performAll hashed start (Settlement.Sound.init valid') calls
  exact ⟨scores.restored,anchors.restored⟩

/-- The delta's own SHA-256. -/
theorem export_restores_sample :
    let digest : ReputationDelta → String := fun _ => "a605f817fef2ce9c27f5efa79622017e6e6519be595c150ac9a9b2110261974d"
    let now := performAll (·.startsWith "claw1") digest true sampleCalls sampleStart
    now.reputation.applied.size = 1 ∧ initGenesis (·.startsWith "claw1") (exportGenesis now.reputation) = now.reputation :=
  ⟨by decide +kernel,(export_restores (·.startsWith "claw1") _ true (fun _ => by decide +kernel)
    { authorizedDeltaControllers := ["claw1controller"] } { anchors := [sampleAnchor] } (by decide +kernel) (by simp)
    (by decide +kernel) sampleCalls).1.2⟩

end Reputation
end Clawchain.Chain
