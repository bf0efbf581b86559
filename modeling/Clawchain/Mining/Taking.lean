import Clawchain.Mining.Gathering
import Clawchain.Mining.Steps

/-! What miners' calls write, write by write, and what every operation keeps of the rows. -/
namespace Clawchain.Mining
open Clawchain.Lib Clawchain.Lib.Faulty

def CommitsTo (repo : Repository) (submission : Submission) : Prop :=
  repo.submissions.get? submission.key = some submission ∨
    repo.submissions.get? submission.key = none ∧ ∃ taskRunID minerAddress unit, submission =
      { id := submissionID taskRunID minerAddress, taskRunID := taskRunID, minerAddress := minerAddress
        economicUnitID := unit }

inductive Taking : Repository → Repository → Prop
  | register {miner : Miner} {units : String → Option String} {repo : Repository}
    (fresh : repo.miners.get? miner.address = none) (named : miner.address ≠ "")
    (unpaid : miner.totalRewards = 0 ∧ miner.heldRewards = 0) :
    Taking repo { repo with miners := (renameUnits units repo.miners).insert miner.address miner }
  | refresh {units : String → Option String} {address : String} {ip signal : Option String} {repo : Repository} :
    Taking repo { repo with
      miners := (renameUnits units repo.miners).modifyAt address fun miner =>
        { miner with ipAddress := ip <|> miner.ipAddress, userAgentHash := signal <|> miner.userAgentHash } }
  | count {address : String} {commits reveals : Miner → Nat} {repo : Repository} :
    Taking repo (repo.updateMiner address fun row =>
      { row with forecastCommits := commits row, forecastReveals := reveals row })
  | commit {submission : Submission} {unit request commitHash : String} {repo : Repository}
    (earlier : CommitsTo repo submission) (task : (repo.tasks.get? submission.taskRunID).isSome)
    (miner : (repo.miners.get? submission.minerAddress).isSome) : Taking repo (repo.saveSubmission { submission with
      economicUnitID := unit, commitRequestID := some request, commitHash := commitHash })
  | reveal {submission : Submission} {unit request : String} {bps : Int} {eligibility : Eligibility} {repo : Repository}
    (stored : repo.submissions.get? submission.key = some submission) (unrevealed : submission.pYesBps = none) :
    Taking repo (repo.saveSubmission { submission with
      economicUnitID := unit, revealRequestID := some request, pYesBps := some bps, eligibilityStatus := eligibility
      state := .revealed })

theorem get?_renameUnits (units : String → Option String) (miners : OrdMap String Miner) (address : String) :
    (renameUnits units miners).get? address = (miners.get? address).map fun miner =>
      { miner with economicUnitID := (units miner.address).getD miner.economicUnitID } := OrdMap.get?_mapVals _ _ _

variable {before after : Repository}

theorem Taking.keyed (step : Taking before after) (keyed : Keyed before) : Keyed after := by
  cases step with
  | @register miner units _ fresh named unpaid =>
    refine @Keyed.ofMiners before _ keyed rfl rfl rfl (fun address row found => ?_) fun address known => ?_
    · dsimp only at found
      rw [OrdMap.get?_insert] at found
      split_ifs at found with own
      · cases found
        exact ⟨own.symm,own ▸ named⟩
      · rw [get?_renameUnits] at found
        obtain ⟨old,held,rfl⟩ := Option.map_eq_some_iff.mp found
        exact keyed.miners address old held
    · dsimp only
      rw [OrdMap.get?_insert]
      split_ifs
      · rfl
      · rwa [get?_renameUnits,Option.isSome_map]
  | @refresh units address ip signal _ =>
    refine @Keyed.ofMiners before _ keyed rfl rfl rfl (fun other row found => ?_) fun other known => ?_
    · obtain ⟨middle,held,rfl⟩ := OrdMap.of_get?_modifyAt found
      rw [get?_renameUnits] at held
      obtain ⟨old,stored,rfl⟩ := Option.map_eq_some_iff.mp held
      split_ifs <;> exact keyed.miners other old stored
    · dsimp only
      rw [OrdMap.get?_modifyAt,get?_renameUnits]
      split_ifs <;> simpa using known
  | count => exact keyed.updateMiner _ fun _ => rfl
  | @commit submission unit request commitHash _ earlier task miner =>
    apply saveSubmission_keyed keyed
    rcases earlier with stored | ⟨-,taskRunID,minerAddress,unit,rfl⟩
    · have fits := (keyed.submissions _ _ stored).toFits
      exact ⟨fits.named,task,miner,fits.unpaid,fits.split,fits.revealed⟩
    · exact ⟨rfl,task,miner,fun _ => ⟨rfl,rfl,rfl⟩,rfl,fun resolved => by cases resolved⟩
  | @reveal submission unit request bps eligibility _ stored unrevealed =>
    apply saveSubmission_keyed keyed
    have fits := (keyed.submissions _ _ stored).toFits
    have unsettled : submission.state ≠ .resolved := by
      intro settled
      have revealed := fits.revealed settled
      simp [unrevealed] at revealed
    exact ⟨fits.named,fits.task,fits.miner,fun _ => fits.unpaid unsettled,fits.split,fun _ => rfl⟩

theorem saveSubmission_regular {repo : Repository} {submission : Submission} (regular : Regular repo)
    (fits : submission.Fits repo) (open_ : ∀ task, repo.tasks.get? submission.taskRunID = some task →
      task.state ≠ .resolved → submission.state ≠ .resolved) : Regular (repo.saveSubmission submission) := by
  refine ⟨saveSubmission_keyed regular.toKeyed fits,fun key other task found held unresolved => ?_⟩
  rw [saveSubmission_tasks] at held
  rcases saveSubmission_cases submission repo with ⟨same,-⟩ | ⟨-,written,-⟩
  · rw [same] at found
    exact regular.open_ key other task found held unresolved
  · rw [written,OrdMap.get?_insert] at found
    split_ifs at found with own
    · cases found
      exact open_ task held unresolved
    · exact regular.open_ key other task found held unresolved

theorem Taking.regular (step : Taking before after) (regular : Regular before) :
    Regular after := by
  have keyed := step.keyed regular.toKeyed
  cases step with
  | register | refresh | count => exact ⟨keyed,regular.open_⟩
  | @commit submission unit request commitHash _ earlier task miner =>
    rcases earlier with stored | ⟨-,taskRunID,minerAddress,unit,rfl⟩
    · have fits := (regular.submissions _ _ stored).toFits
      exact saveSubmission_regular regular ⟨fits.named,task,miner,fits.unpaid,fits.split,fits.revealed⟩
        fun task held unresolved => regular.open_ _ submission task stored held unresolved
    · exact saveSubmission_regular regular ⟨rfl,task,miner,fun _ => ⟨rfl,rfl,rfl⟩,rfl,fun resolved => by cases resolved⟩
        fun _ _ _ => by simp
  | @reveal submission unit request bps eligibility _ stored unrevealed =>
    have fits := (regular.submissions _ _ stored).toFits
    have unsettled : submission.state ≠ .resolved := by
      intro settled
      have revealed := fits.revealed settled
      simp [unrevealed] at revealed
    exact saveSubmission_regular regular
      ⟨fits.named,fits.task,fits.miner,fun _ => fits.unpaid unsettled,fits.split,fun _ => rfl⟩ fun _ _ _ => by simp

def Takes (before after : Repository) : Prop := Regular before → Relation.ReflTransGen Taking before after

theorem Takes.refl (repo : Repository) : Takes repo repo := fun _ => .refl

theorem path_regular (path : Relation.ReflTransGen Taking before after) (regular : Regular before) : Regular after := by
  induction path with
  | refl => exact regular
  | tail _ step ih => exact step.regular ih

theorem Takes.trans (a b c : Repository) (first : Takes a b) (next : Takes b c) : Takes a c := by
  intro regular
  have path := first regular
  exact Relation.ReflTransGen.trans path (next (path_regular path regular))

theorem Taking.takes (step : Taking before after) : Takes before after := fun _ => .single step

section Calls
variable {settings : Settings} {now : Time}

theorem registerMiner_takes (address version : String) (ip agent : Option String) :
    Moves Takes (registerMiner settings now address version ip agent) := by
  unfold registerMiner
  split_ifs with format below
  · exact Moves.fail Takes.refl _
  · exact Moves.fail Takes.refl _
  · intro repo
    rw [read_run]
    dsimp only
    split_ifs with known
    · exact .refl repo
    · refine Taking.takes (@Taking.register
        { address := address
          economicUnitID := _
          ipAddress := normalizeIpSignal settings.text ip
          userAgentHash := hashUserAgent settings.text agent
          createdAt := now } _ repo ?_ ?_ ⟨rfl,rfl⟩)
      · simpa using known
      · rintro rfl
        exact format rfl

theorem getTask_takes {deadline : Task → Int} {closed taskRunID : String} {β : Type} {rest : Task → Service β}
    (found : ∀ repo, (repo.tasks.get? taskRunID).isSome → ∀ task, Takes repo (rest task repo).2) :
    Moves Takes (getTask now deadline closed taskRunID >>= rest) := by
  intro repo
  cases held : repo.tasks.get? taskRunID with
  | none =>
    have failed : getTask now deadline closed taskRunID repo = (.error (.value "task not found"),repo) := by
      unfold getTask
      rw [read_run,held]
      rfl
    rw [bind_of_error rest failed]
    exact .refl repo
  | some task =>
    have moved : getTask now deadline closed taskRunID repo = (.ok task,repo) ∨
        ∃ failure, getTask now deadline closed taskRunID repo = (.error failure,repo) := by
      unfold getTask
      rw [read_run,held]
      dsimp only
      split_ifs
      · exact .inr ⟨_,rfl⟩
      · exact .inr ⟨_,rfl⟩
      · exact .inl rfl
    rcases moved with done | ⟨failure,failed⟩
    · rw [bind_of_ok rest done]
      exact found repo (by rw [held]; rfl) task
    · rw [bind_of_error rest failed]
      exact .refl repo

theorem refreshMinerCluster_cases (address : String) (ip agent : Option String) (repo : Repository) :
    repo.miners.get? address = none ∧
        refreshMinerCluster settings address ip agent repo = (.error (.value "miner not registered"),repo) ∨
      ∃ miner after, refreshMinerCluster settings address ip agent repo = (.ok miner,after) ∧
        (after = repo ∨ Taking repo after) ∧ after.miners.get? address = some miner ∧ after.tasks = repo.tasks := by
  unfold refreshMinerCluster
  rw [read_run]
  cases held : repo.miners.get? address with
  | none => exact .inl ⟨rfl,rfl⟩
  | some current =>
    right
    dsimp only
    split_ifs with unchanged
    · exact ⟨current,repo,rfl,.inl rfl,held,rfl⟩
    · rw [modify_bind,read_run]
      dsimp only
      rw [OrdMap.get?_modifyAt,if_pos rfl,get?_renameUnits,held]
      refine ⟨_,_,rfl,.inr .refresh,?_,rfl⟩
      rw [OrdMap.get?_modifyAt,if_pos rfl,get?_renameUnits,held]
      rfl

theorem miner_takes {address : String} {ip agent : Option String} {taskRunID : String} {repo : Repository}
    {rest : Miner → Service Unit} (known : (repo.tasks.get? taskRunID).isSome)
    (found : ∀ repo miner, (repo.tasks.get? taskRunID).isSome → (repo.miners.get? address).isSome →
      Takes repo (rest miner repo).2) :
    Takes repo ((do
      requireMiner address
      let miner ← refreshMinerCluster settings address ip agent
      rest miner : Service Unit) repo).2 := by
  have required : requireMiner address repo = (.ok (),repo) ∨ ∃ failure, requireMiner address repo = (.error failure,repo) := by
    unfold requireMiner
    rw [read_run]
    split_ifs
    · exact .inr ⟨_,rfl⟩
    · exact .inl rfl
  rcases required with done | ⟨failure,failed⟩
  · rw [bind_of_ok _ done]
    obtain ⟨-,failed⟩ | ⟨miner,after,done,moved,own,tasks⟩ := refreshMinerCluster_cases address ip agent repo
    · rw [bind_of_error _ failed]
      exact .refl repo
    · rw [bind_of_ok _ done]
      have later := found after miner (tasks ▸ known) (by rw [own]; rfl)
      rcases moved with rfl | step
      · exact later
      · exact .trans _ _ _ step.takes later
  · rw [bind_of_error _ failed]
    exact .refl repo

theorem commitSubmission_takes (taskRunID minerAddress requestID commitHash : String) (ip agent : Option String) :
    Moves Takes (commitSubmission settings now taskRunID minerAddress requestID commitHash ip agent) := by
  apply getTask_takes
  intro repo known _
  apply miner_takes known
  intro repo miner known own'
  rw [read_run]
  dsimp only
  split_ifs with committed
  · exact .refl repo
  · intro regular
    have stored : CommitsTo repo ((getSubmission taskRunID minerAddress repo).getD
        { id := submissionID taskRunID minerAddress, taskRunID := taskRunID, minerAddress := minerAddress
          economicUnitID := miner.economicUnitID }) ∧
        ((getSubmission taskRunID minerAddress repo).getD
        { id := submissionID taskRunID minerAddress, taskRunID := taskRunID, minerAddress := minerAddress
          economicUnitID := miner.economicUnitID }).key = toLex (taskRunID,minerAddress) := by
      cases held : getSubmission taskRunID minerAddress repo with
      | none => exact ⟨.inr ⟨held,_,_,_,rfl⟩,rfl⟩
      | some submission =>
        have own := (regular.submissions _ submission held).keyed
        exact ⟨.inl (own ▸ held),own⟩
    obtain ⟨earlier,own⟩ := stored
    generalize (getSubmission taskRunID minerAddress repo).getD _ = submission at earlier own ⊢
    obtain ⟨rfl,rfl⟩ : submission.taskRunID = taskRunID ∧ submission.minerAddress = minerAddress := by
      simpa [Submission.key] using own
    have first := @Taking.commit submission miner.economicUnitID requestID commitHash repo earlier known own'
    exact (Relation.ReflTransGen.single first).tail
      (@Taking.count submission.minerAddress (fun _ => miner.forecastCommits + 1) (·.forecastReveals) _)

theorem revealSubmission_takes (taskRunID minerAddress requestID : String) (pYesBps : Int) (revealNonce : String)
    (ip agent : Option String) :
    Moves Takes (revealSubmission settings now taskRunID minerAddress requestID pYesBps revealNonce ip agent) := by
  apply getTask_takes
  intro repo known _
  apply miner_takes known
  intro repo miner known own
  rw [read_run]
  cases held : getSubmission taskRunID minerAddress repo with
  | none => exact .refl repo
  | some submission =>
    dsimp only
    split_ifs with blank revealed differs
    · exact .refl repo
    · exact .refl repo
    · exact .refl repo
    all_goals
      intro regular
      have stored : repo.submissions.get? submission.key = some submission :=
        (regular.submissions _ submission held).keyed ▸ held
      have first := @Taking.reveal submission miner.economicUnitID requestID (clampBps settings pYesBps)
      exact (Relation.ReflTransGen.single (first stored (by simpa using revealed))).tail
        (@Taking.count minerAddress (·.forecastCommits) (fun _ => miner.forecastReveals + 1) _)

end Calls

structure Kept (settings : Settings) (now : Time) (P : Repository → Prop) : Prop where
  taking : ∀ before after, Keyed before → P before → Taking before after → P after
  settling : ∀ outside before after, Keyed before → P before → Settling settings outside now before after → P after
  stamped : ∀ id taskRunIDs before after, Keyed before → P before → Stamped id taskRunIDs before after → P after
  same : ∀ before after, SameIntake before after → P before → P after

section Kept
variable {settings : Settings} {now : Time} {P : Repository → Prop}

theorem Takes.keeps {before after : Repository} (takes : Takes before after) (kept : Kept settings now P)
    (regular : Regular before) (holds : P before) : Regular after ∧ P after := by
  have path := takes regular
  clear takes
  induction path with
  | refl => exact ⟨regular,holds⟩
  | tail _ step ih => exact ⟨step.regular ih.1,kept.taking _ _ ih.1.toKeyed ih.2 step⟩

theorem Step.keeps {terms : Terms} {before after : Repository} (step : Step settings terms now before after)
    (kept : Kept settings now P) (regular : Regular before) (holds : P before) : Regular after ∧ P after := by
  have same {after : Repository} (same : SameIntake before after) : Regular after ∧ P after :=
    ⟨same.regular regular,kept.same _ _ same holds⟩
  cases step with
  | @plain operation _ plain admitted =>
    cases operation with
    | registerMiner address version ip agent => exact (registerMiner_takes _ _ _ _ before).keeps kept regular holds
    | commitSubmission task miner request commit ip agent =>
      exact (commitSubmission_takes _ _ _ _ _ _ before).keeps kept regular holds
    | revealSubmission task miner request bps nonce ip agent =>
      exact (revealSubmission_takes _ _ _ _ _ _ _ before).keeps kept regular holds
    | reconcile outside => exact reconcile_keeps (kept.settling outside) kept.stamped kept.same regular holds
    | buildPokerMttRewardWindow build => exact same (tryPokerMttRewardWindow_sameIntake build before)
    | _ => cases plain
  | recount | rearchive | fix | enlist | broadcast | judge | anchor | fail => exact same (.refl before)

theorem call_keeps (kept : Kept settings now P) {operation : Operation} {repo : Repository} (tidy : Tidy repo)
    (regular : Regular repo) (holds : P repo) : Tidy (operation.run settings now repo).2 ∧
      Regular (operation.run settings now repo).2 ∧ P (operation.run settings now repo).2 := by
  have path : Path settings anyTerms now repo (operation.run settings now repo).2 :=
    run_drives operation.admitted_any (operation.meets_any repo) tidy
  generalize (operation.run settings now repo).2 = last at path
  induction path with
  | refl => exact ⟨tidy,regular,holds⟩
  | tail _ step ih => exact ⟨step.tidy ih.1,step.keeps kept ih.2.1 ih.2.2⟩

end Kept
end Clawchain.Mining
