import Clawchain.Mining.Interleaved

/-! Acknowledged calls. A commit or a reveal that has returned is stored and counted, in every run in which no save goes to
another row, and nothing is written between a call's reading of a row and its writing of it. -/
namespace Clawchain.Mining.Interleaved
open Clawchain.Lib

def Request.commits (request : Request) : Bool :=
  match request.asked with
  | .commit _ => true
  | .reveal .. => false

def Stage.returns : Stage → Bool
  | .returned _ => true
  | _ => false

def Request.heldBy (settings : Settings) (request : Request) (row : Submission) : Prop :=
  match request.asked with
  | .commit commitHash => row.commitHash = commitHash
  | .reveal pYesBps _ => row.pYesBps = some (clampBps settings pYesBps)

def Request.held (settings : Settings) (request : Request) (repo : Repository) : Prop :=
  ∃ row, getSubmission request.taskRunID request.minerAddress repo = some row ∧ request.heldBy settings row

def Calls.returned (calls : Calls) (kind : Bool) (address : String) : Nat :=
  calls.calls.countP fun call => call.1.commits = kind && call.1.minerAddress = address && call.2.returns

structure Acknowledged (settings : Settings) (start : Repository) (calls : Calls) : Prop where
  stored : ∀ call ∈ calls.calls, call.2.returns = true → call.1.held settings calls.shared
  once : ∀ (place other : Nat) (one two : Request × Stage), calls.calls[place]? = some one → calls.calls[other]? = some two →
    one.2.returns = true → two.2.returns = true → one.1.key = two.1.key → one.1.commits = two.1.commits → place = other
  counted : ∀ address miner, calls.shared.miners.get? address = some miner → ∃ before, start.miners.get? address = some before ∧
    miner.forecastCommits = before.forecastCommits + calls.returned true address ∧
    miner.forecastReveals = before.forecastReveals + calls.returned false address

def Request.counter (request : Request) (miner : Miner) : Nat :=
  if request.commits then miner.forecastCommits else miner.forecastReveals

/-- In memory no request id of the row stands for another submission. -/
def Unshared (backend : Backend) (row : Submission) (repo : Repository) : Prop :=
  backend = .memory → ∀ id ∈ row.requestIDs, ∀ other, repo.requestIndex.get? id = some other → other.key = row.key

/-- A row is written over the one that was read, a counter over the one that was read, and no commitment is empty. -/
def Request.UndisturbedAt (backend : Backend) (request : Request) (repo : Repository) : Stage → Prop
  | .save _ read row => getSubmission request.taskRunID request.minerAddress repo = read ∧ Unshared backend row repo ∧
      request.asked ≠ .commit ""
  | .count miner _ => ∀ row, repo.miners.get? request.minerAddress = some row → request.counter row = request.counter miner
  | _ => True

def Undisturbed (backend : Backend) (calls : Calls) (place : Nat) : Prop :=
  ∀ call, calls.calls[place]? = some call → call.1.UndisturbedAt backend calls.shared call.2

/-! What holds of a call at its stage. -/

def Stage.landed : Stage → Bool
  | .count .. => true
  | .returned _ => true
  | _ => false

/-- What a call saves follows from the row that it has read. -/
inductive Request.Based (settings : Settings) (request : Request) : Option Submission → Submission → Prop
  | commit {commitHash unit : String} {read : Option Submission} (asked : request.asked = .commit commitHash)
    (own : ∀ old, read = some old → old.key = request.key) (vacant : ∀ old, read = some old → old.commitHash = "") :
    Based settings request read (request.rowToCommit commitHash unit read)
  | reveal {pYesBps : Int} {nonce unit : String} {others : List Submission} {submission : Submission}
    (asked : request.asked = .reveal pYesBps nonce) (own : submission.key = request.key)
    (committed : submission.commitHash ≠ "") (unrevealed : submission.pYesBps = none) :
    Based settings request (some submission) (request.rowToReveal settings pYesBps unit others submission)

def Request.Landed (settings : Settings) (request : Request) (repo : Repository) : Prop :=
  ∃ row, getSubmission request.taskRunID request.minerAddress repo = some row ∧ request.heldBy settings row ∧ row.commitHash ≠ ""

def Request.SoundAt (settings : Settings) (request : Request) (repo : Repository) : Stage → Prop
  | .others _ submission pYesBps => (∃ nonce, request.asked = .reveal pYesBps nonce) ∧ submission.key = request.key ∧
      submission.commitHash ≠ "" ∧ submission.pYesBps = none
  | .save _ read row => request.Based settings read row
  | .count .. => request.Landed settings repo
  | .returned _ => request.Landed settings repo
  | _ => True

def Keeps (before after : Repository) : Prop := ∀ key row, before.submissions.get? key = some row → row.commitHash ≠ "" →
  ∃ later, after.submissions.get? key = some later ∧ later.commitHash = row.commitHash ∧
    ∀ bps, row.pYesBps = some bps → later.pYesBps = some bps

section Rows
variable {settings : Settings} {request : Request} {before after : Repository}
variable {row : Submission}

theorem keeps_of_same (same : after.submissions = before.submissions) : Keeps before after :=
  fun _ row found _ => ⟨row,by rw [same,found],rfl,fun _ known => known⟩

theorem Request.Landed.kept (landed : request.Landed settings before) (keeps : Keeps before after) :
    request.Landed settings after := by
  obtain ⟨row,found,held,committed⟩ := landed
  obtain ⟨later,found',same,revealed⟩ := keeps _ row found committed
  refine ⟨later,found',?_,same ▸ committed⟩
  unfold Request.heldBy at held ⊢
  cases asked : request.asked with
  | commit commitHash =>
    rw [asked] at held
    exact same.trans held
  | reveal pYesBps nonce =>
    rw [asked] at held
    exact revealed _ held

theorem Request.SoundAt.kept {stage : Stage} (sound : request.SoundAt settings before stage) (keeps : Keeps before after) :
    request.SoundAt settings after stage := by
  cases stage with
  | count miner saved => exact Request.Landed.kept sound keeps
  | returned saved => exact Request.Landed.kept sound keeps
  | _ => exact sound

theorem Request.Based.key {read : Option Submission} (based : request.Based settings read row) :
    row.key = request.key := by
  cases based with
  | @commit commitHash unit _ asked own vacant =>
    cases read with
    | none => rfl
    | some old => exact own old rfl
  | reveal asked own => exact own

theorem Request.Based.held {read : Option Submission} (based : request.Based settings read row)
    (filled : request.asked ≠ .commit "") : request.heldBy settings row ∧ row.commitHash ≠ "" := by
  unfold Request.heldBy
  cases based with
  | commit asked own vacant =>
    rw [asked] at filled ⊢
    exact ⟨rfl,fun blank => filled (congrArg Asked.commit blank)⟩
  | reveal asked own committed =>
    rw [asked]
    exact ⟨rfl,committed⟩

theorem Request.Based.keeps
    (based : request.Based settings (getSubmission request.taskRunID request.minerAddress before) row)
    (written : after.submissions = before.submissions.insert request.key row) : Keeps before after := by
  intro key old found committed
  rw [written,OrdMap.get?_insert]
  split_ifs with own
  · subst own
    change getSubmission request.taskRunID request.minerAddress before = some old at found
    rw [found] at based
    cases based with
    | commit asked own vacant => exact absurd (vacant old rfl) committed
    | reveal asked own committed' unrevealed =>
      refine ⟨_,rfl,rfl,fun bps known => ?_⟩
      rw [unrevealed] at known
      cases known
  · exact ⟨old,found,rfl,fun _ known => known⟩

theorem Request.Based.fresh {other : Request}
    (based : request.Based settings (getSubmission request.taskRunID request.minerAddress before) row)
    (landed : other.Landed settings before) (same : other.key = request.key) : other.commits ≠ request.commits := by
  obtain ⟨old,found,held,committed⟩ := landed
  have read : getSubmission request.taskRunID request.minerAddress before = some old := by
    rw [← found]
    exact congrArg before.submissions.get? same.symm
  rw [read] at based
  unfold Request.commits
  cases based with
  | commit asked own vacant => exact absurd (vacant old rfl) committed
  | reveal asked own committed' unrevealed =>
    cases asked' : other.asked with
    | commit commitHash =>
      rw [asked]
      exact fun equal => by cases equal
    | reveal pYesBps nonce =>
      rw [Request.heldBy,asked'] at held
      cases unrevealed.symm.trans held

theorem saveSubmission_ok {backend : Backend} {stored : Submission} (unshared : Unshared backend row before)
    (saved : backend.saveSubmission row before = .ok (after,stored)) :
    after.submissions = before.submissions.insert row.key row ∧ after.miners = before.miners := by
  cases backend with
  | memory =>
    have none_ : (row.requestIDs.filterMap before.requestIndex.get?).find? (fun existing => existing.key ≠ row.key) = none := by
      rw [List.find?_eq_none]
      intro existing listed
      obtain ⟨id,inside,found⟩ := List.mem_filterMap.mp listed
      simpa using unshared rfl id inside existing found
    unfold Backend.saveSubmission at saved
    dsimp only at saved
    rw [none_] at saved
    cases saved
    rcases saveSubmission_cases row before with ⟨-,id,inside,other,found,differs⟩ | ⟨-,written,-⟩
    · exact absurd (unshared rfl id inside other found) differs
    · exact ⟨written,saveSubmission_miners row before⟩
  | database =>
    unfold Backend.saveSubmission at saved
    dsimp only at saved
    split_ifs at saved
    cases saved
    exact ⟨rfl,rfl⟩

end Rows

def counters (repo : Repository) (address : String) : Option (Nat × Nat) :=
  (repo.miners.get? address).map fun miner => (miner.forecastCommits,miner.forecastReveals)

/-- A step that writes neither a submission nor a counter. -/
structure Quiet (settings : Settings) (request : Request) (before after : Repository) (stage next : Stage) : Prop where
  submissions : after.submissions = before.submissions
  counters : counters after = counters before
  sound : request.SoundAt settings after next
  landed : next.landed = true → stage.landed = true
  returns : next.returns = stage.returns

section Steps
variable {settings : Settings} {request : Request} {backend : Backend} {repo : Repository}

theorem updateMiner_counters (update : IdentityUpdate) (repo : Repository) :
    counters (repo.updateMiner update.address update.apply) = counters repo := by
  funext address
  unfold counters Repository.updateMiner
  dsimp only
  rw [OrdMap.get?_modifyAt]
  split_ifs with own
  · rw [own]
    cases repo.miners.get? update.address <;> rfl
  · rfl

theorem afterTask_early (task : Option Task) : (request.afterTask task).landed = false ∧ (request.afterTask task).returns = false ∧
    request.SoundAt settings repo (request.afterTask task) := by
  unfold Request.afterTask
  cases task with
  | none => exact ⟨rfl,rfl,trivial⟩
  | some task =>
    dsimp only
    split_ifs <;> exact ⟨rfl,rfl,trivial⟩

theorem afterSignals_early (miner : Option Miner) : (request.afterSignals settings miner).landed = false ∧
    (request.afterSignals settings miner).returns = false ∧ request.SoundAt settings repo (request.afterSignals settings miner) := by
  unfold Request.afterSignals
  cases miner with
  | none => exact ⟨rfl,rfl,trivial⟩
  | some miner =>
    dsimp only
    split_ifs <;> exact ⟨rfl,rfl,trivial⟩

theorem afterSubmission_early (miner : Miner) {existing : Option Submission}
    (own : ∀ old, existing = some old → old.key = request.key) :
    (request.afterSubmission settings miner existing).landed = false ∧ (request.afterSubmission settings miner existing).returns = false ∧
      request.SoundAt settings repo (request.afterSubmission settings miner existing) := by
  unfold Request.afterSubmission
  cases asked : request.asked with
  | commit commitHash =>
    dsimp only
    split_ifs with committed
    · exact ⟨rfl,rfl,trivial⟩
    · refine ⟨rfl,rfl,.commit asked own fun old read => ?_⟩
      simpa [read] using committed
  | reveal pYesBps nonce =>
    cases existing with
    | none => exact ⟨rfl,rfl,trivial⟩
    | some submission =>
      dsimp only
      split_ifs with blank revealed differs
      · exact ⟨rfl,rfl,trivial⟩
      · exact ⟨rfl,rfl,trivial⟩
      · exact ⟨rfl,rfl,trivial⟩
      · exact ⟨rfl,rfl,⟨nonce,asked⟩,own submission rfl,blank,by simpa using revealed⟩

theorem countIn_counters {miner row : Miner} (counter : request.counter row = request.counter miner) :
    (request.countIn miner row).forecastCommits = row.forecastCommits + (if request.commits = true then 1 else 0) ∧
      (request.countIn miner row).forecastReveals = row.forecastReveals + if request.commits = false then 1 else 0 := by
  unfold Request.counter Request.commits at counter
  unfold Request.countIn Request.commits
  cases asked : request.asked with
  | commit commitHash =>
    rw [asked] at counter
    exact ⟨congrArg (· + 1) counter.symm,rfl⟩
  | reveal pYesBps nonce =>
    rw [asked] at counter
    exact ⟨rfl,congrArg (· + 1) counter.symm⟩

theorem advance_cases (keyed : ∀ key row, repo.submissions.get? key = some row → row.key = key) {stage : Stage}
    (sound : request.SoundAt settings repo stage) :
    (∃ miner read row after stored, stage = .save miner read row ∧ backend.saveSubmission row repo = .ok (after,stored) ∧
        advance settings request backend stage repo = (after,.count miner stored)) ∨
      (∃ miner saved, stage = .count miner saved ∧ (repo.miners.get? request.minerAddress).isSome ∧
        advance settings request backend stage repo =
          (repo.updateMiner request.minerAddress (request.countIn miner),.returned saved)) ∨
      Quiet settings request repo (advance settings request backend stage repo).1 stage
        (advance settings request backend stage repo).2 := by
  have quiet {next : Stage} (early : next.landed = false ∧ next.returns = false ∧ request.SoundAt settings repo next)
      (open_ : stage.returns = false) : Quiet settings request repo repo stage next :=
    ⟨rfl,rfl,early.2.2,fun landed => absurd landed (by simp [early.1]),early.2.1.trans open_.symm⟩
  cases stage with
  | task => exact .inr (.inr (quiet (afterTask_early _) rfl))
  | miner =>
    refine .inr (.inr (quiet ?_ rfl))
    rw [advance]
    split_ifs <;> exact ⟨rfl,rfl,trivial⟩
  | signals => exact .inr (.inr (quiet (afterSignals_early _) rfl))
  | cluster current => exact .inr (.inr (quiet ⟨rfl,rfl,trivial⟩ rfl))
  | identities updates current =>
    right; right
    cases updates with
    | nil => exact quiet ⟨rfl,rfl,trivial⟩ rfl
    | cons update rest =>
      rw [advance]
      split_ifs
      · exact quiet ⟨rfl,rfl,trivial⟩ rfl
      · exact ⟨rfl,updateMiner_counters update repo,trivial,(fun landed => by cases landed),rfl⟩
  | submission miner => exact .inr (.inr (quiet (afterSubmission_early miner fun old found => keyed _ old found) rfl))
  | others miner submission pYesBps =>
    obtain ⟨⟨nonce,asked⟩,own,committed,unrevealed⟩ := sound
    exact .inr (.inr (quiet ⟨rfl,rfl,.reveal asked own committed unrevealed⟩ rfl))
  | save miner read row =>
    cases saved : backend.saveSubmission row repo with
    | error message =>
      have run : advance settings request backend (.save miner read row) repo = (repo,.failed message) := by
        rw [advance,saved]
      rw [run]
      exact .inr (.inr (quiet ⟨rfl,rfl,trivial⟩ rfl))
    | ok outcome =>
      obtain ⟨after,stored⟩ := outcome
      exact .inl ⟨miner,read,row,after,stored,rfl,saved,by rw [advance,saved]⟩
  | count miner saved =>
    by_cases absent : (repo.miners.get? request.minerAddress).isNone
    · have run : advance settings request backend (.count miner saved) repo = (repo,.failed "miner not found") := by
        rw [advance,if_pos absent]
      rw [run]
      exact .inr (.inr (quiet ⟨rfl,rfl,trivial⟩ rfl))
    · exact .inr (.inl ⟨miner,saved,rfl,by simpa [Option.isSome_iff_ne_none] using absent,by rw [advance,if_neg absent]⟩)
  | returned saved => exact .inr (.inr ⟨rfl,rfl,sound,fun landed => landed,rfl⟩)
  | failed message => exact .inr (.inr ⟨rfl,rfl,trivial,fun landed => landed,rfl⟩)

end Steps

structure Sound (settings : Settings) (start : Repository) (calls : Calls) : Prop where
  keyed : ∀ key row, calls.shared.submissions.get? key = some row → row.key = key
  sound : ∀ (place : Nat) (call : Request × Stage), calls.calls[place]? = some call →
    call.1.SoundAt settings calls.shared call.2
  once : ∀ (place other : Nat) (one two : Request × Stage), calls.calls[place]? = some one → calls.calls[other]? = some two →
    one.2.landed = true → two.2.landed = true → one.1.key = two.1.key → one.1.commits = two.1.commits → place = other
  counted : ∀ address, counters calls.shared address = (counters start address).map fun before =>
    (before.1 + calls.returned true address,before.2 + calls.returned false address)

section Runs
variable {settings : Settings} {backend : Backend} {start : Repository} {calls : Calls} {place : Nat} {request : Request}
  {stage : Stage}

theorem landed_of_returns (returns : stage.returns = true) : stage.landed = true := by
  cases stage with
  | returned saved => rfl
  | _ => cases returns

theorem Request.SoundAt.landed {repo : Repository} (sound : request.SoundAt settings repo stage) (landed : stage.landed = true) :
    request.Landed settings repo := by
  cases stage with
  | count miner saved => exact sound
  | returned saved => exact sound
  | _ => cases landed

theorem Sound.acknowledged (sound : Sound settings start calls) : Acknowledged settings start calls where
  stored call listed returns := by
    obtain ⟨place,present⟩ := List.getElem?_of_mem listed
    obtain ⟨row,found,held,-⟩ := (sound.sound place call present).landed (landed_of_returns returns)
    exact ⟨row,found,held⟩
  once place other one two first second one_ two_ := sound.once place other one two first second (landed_of_returns one_)
    (landed_of_returns two_)
  counted address miner found := by
    have mapped := sound.counted address
    unfold counters at mapped
    rw [found] at mapped
    cases before : start.miners.get? address with
    | none =>
      rw [before] at mapped
      cases mapped
    | some old =>
      rw [before] at mapped
      simp only [Option.map_some,Option.some.injEq,Prod.mk.injEq] at mapped
      exact ⟨old,rfl,mapped⟩

theorem Sound.step_kept (sound : Sound settings start calls) (present : calls.calls[place]? = some (request,stage))
    (keyed : ∀ key row, (advance settings request backend stage calls.shared).1.submissions.get? key = some row → row.key = key)
    (keeps : Keeps calls.shared (advance settings request backend stage calls.shared).1)
    (own : request.SoundAt settings (advance settings request backend stage calls.shared).1
      (advance settings request backend stage calls.shared).2)
    (alone : (advance settings request backend stage calls.shared).2.landed = true → stage.landed = false →
      ∀ (other : Nat) (call : Request × Stage), calls.calls[other]? = some call → call.2.landed = true →
        call.1.key = request.key → call.1.commits ≠ request.commits)
    (counted : ∀ address, counters (advance settings request backend stage calls.shared).1 address =
      (counters start address).map fun before =>
        (before.1 + (calls.step settings backend place).returned true address,
          before.2 + (calls.step settings backend place).returned false address)) :
    Sound settings start (calls.step settings backend place) := by
  have shared : (calls.step settings backend place).shared = (advance settings request backend stage calls.shared).1 := by
    rw [Calls.step,Pool.step_some present]
  have called (other : Nat) : (calls.step settings backend place).calls[other]? =
      if other = place then some (request,(advance settings request backend stage calls.shared).2) else calls.calls[other]? :=
    Pool.getElem?_step present other
  refine ⟨shared ▸ keyed,?_,?_,shared ▸ counted⟩
  · intro other call found
    rw [shared]
    rw [called] at found
    split_ifs at found with same
    · cases found
      exact own
    · exact (sound.sound other call found).kept keeps
  · intro one two first second found found' landed landed' key kind
    rw [called] at found found'
    split_ifs at found found' with same same' same'
    · rw [same,same']
    · cases found
      by_cases before : stage.landed = true
      · exact same.trans (sound.once place two _ second present found' before landed' key kind)
      · exact absurd kind.symm (alone landed (by simpa using before) two second found' landed' key.symm)
    · cases found'
      by_cases before : stage.landed = true
      · exact (sound.once one place first _ found present landed before key kind).trans same'.symm
      · exact absurd kind (alone landed' (by simpa using before) one first found landed key)
    · exact sound.once one two first second found found' landed landed' key kind

variable (settings backend) in
theorem returned_step (present : calls.calls[place]? = some (request,stage)) (kind : Bool) (address : String) :
    (calls.step settings backend place).returned kind address +
        (if request.commits = kind ∧ request.minerAddress = address ∧ stage.returns = true then 1 else 0) =
      calls.returned kind address + if request.commits = kind ∧ request.minerAddress = address ∧
        (advance settings request backend stage calls.shared).2.returns = true then 1 else 0 := by
  let p : Request × Stage → Bool := fun call => call.1.commits = kind && call.1.minerAddress = address && call.2.returns
  have counted : (calls.step settings backend place).calls.countP p + (if p (request,stage) then 1 else 0) =
      calls.calls.countP p + if p (request,(advance settings request backend stage calls.shared).2) then 1 else 0 :=
    Pool.countP_step present p
  simpa [p,Calls.returned,and_assoc] using counted

theorem Sound.quiet (sound : Sound settings start calls) (present : calls.calls[place]? = some (request,stage))
    (quiet : Quiet settings request calls.shared (advance settings request backend stage calls.shared).1 stage
      (advance settings request backend stage calls.shared).2) : Sound settings start (calls.step settings backend place) := by
  have same (kind : Bool) (address : String) : (calls.step settings backend place).returned kind address =
      calls.returned kind address := by
    have counted := returned_step settings backend present kind address
    rw [quiet.returns] at counted
    exact Nat.add_right_cancel counted
  apply sound.step_kept present
  · rw [quiet.submissions]
    exact sound.keyed
  · exact keeps_of_same quiet.submissions
  · exact quiet.sound
  · intro landed before
    rw [quiet.landed landed] at before
    cases before
  · intro address
    rw [quiet.counters,sound.counted address,same,same]

theorem Sound.saved (sound : Sound settings start calls) {miner : Miner} {read : Option Submission} {row stored : Submission}
    {after : Repository} (present : calls.calls[place]? = some (request,.save miner read row))
    (undisturbed : Undisturbed backend calls place) (saved : backend.saveSubmission row calls.shared = .ok (after,stored))
    (run : advance settings request backend (.save miner read row) calls.shared = (after,.count miner stored)) :
    Sound settings start (calls.step settings backend place) := by
  obtain ⟨current,unshared,filled⟩ := undisturbed _ present
  have based : request.Based settings read row := sound.sound place _ present
  obtain ⟨written,miners⟩ := saveSubmission_ok unshared saved
  have own : row.key = request.key := based.key
  obtain ⟨held,committed⟩ := based.held filled
  change getSubmission request.taskRunID request.minerAddress calls.shared = read at current
  rw [← current] at based
  rw [own] at written
  have same (kind : Bool) (address : String) : (calls.step settings backend place).returned kind address =
      calls.returned kind address := by
    have counted := returned_step settings backend present kind address
    rw [run] at counted
    exact Nat.add_right_cancel counted
  apply sound.step_kept present
  · rw [run]
    intro key other found
    rw [written,OrdMap.get?_insert] at found
    split_ifs at found with this
    · cases found
      exact own.trans this.symm
    · exact sound.keyed key other found
  · rw [run]
    exact based.keeps written
  · rw [run]
    exact ⟨row,by unfold getSubmission; rw [written]; exact OrdMap.get?_insert_self .. ,held,committed⟩
  · intro _ _ other call found landed key
    exact based.fresh ((sound.sound other call found).landed landed) key
  · intro address
    rw [run,same,same,← sound.counted address]
    unfold counters
    rw [miners]

theorem Sound.counting (sound : Sound settings start calls) {miner : Miner} {stored : Submission}
    (present : calls.calls[place]? = some (request,.count miner stored)) (undisturbed : Undisturbed backend calls place)
    (known : (calls.shared.miners.get? request.minerAddress).isSome)
    (run : advance settings request backend (.count miner stored) calls.shared =
      (calls.shared.updateMiner request.minerAddress (request.countIn miner),.returned stored)) :
    Sound settings start (calls.step settings backend place) := by
  have landed : request.Landed settings calls.shared := sound.sound place _ present
  apply sound.step_kept present
  · rw [run]
    exact sound.keyed
  · rw [run]
    exact keeps_of_same rfl
  · rw [run]
    exact landed
  · intro _ before
    cases before
  · intro address
    have commits := returned_step settings backend present true address
    have reveals := returned_step settings backend present false address
    have before := sound.counted address
    rw [run] at commits reveals ⊢
    by_cases own : request.minerAddress = address
    · subst own
      obtain ⟨row,found⟩ := Option.isSome_iff_exists.mp known
      have counter : request.counter row = request.counter miner := undisturbed _ present row found
      have written : counters (calls.shared.updateMiner request.minerAddress (request.countIn miner)) request.minerAddress =
          some ((request.countIn miner row).forecastCommits,(request.countIn miner row).forecastReveals) := by
        unfold counters Repository.updateMiner
        dsimp only
        rw [OrdMap.get?_modifyAt,if_pos rfl,found]
        rfl
      have read : counters calls.shared request.minerAddress = some (row.forecastCommits,row.forecastReveals) := by
        rw [counters,found]
        rfl
      rw [read] at before
      rw [written]
      cases start' : counters start request.minerAddress with
      | none =>
        rw [start'] at before
        cases before
      | some old =>
        rw [start'] at before
        simp only [Option.map_some,Option.some.injEq,Prod.mk.injEq] at before ⊢
        obtain ⟨commits',reveals'⟩ := countIn_counters counter
        rw [commits',reveals',before.1,before.2]
        simp only [Stage.returns,and_true,Bool.false_eq_true,and_false,if_false,Nat.add_zero] at commits reveals
        rw [commits,reveals]
        exact ⟨Nat.add_assoc _ _ _,Nat.add_assoc _ _ _⟩
    · simp only [own,false_and,and_false,if_false,Nat.add_zero] at commits reveals
      rw [commits,reveals,← before]
      unfold counters Repository.updateMiner
      dsimp only
      rw [OrdMap.get?_modifyAt,if_neg (Ne.symm own)]

theorem Sound.step (sound : Sound settings start calls) (undisturbed : Undisturbed backend calls place) :
    Sound settings start (calls.step settings backend place) := by
  cases present : calls.calls[place]? with
  | none =>
    rw [Calls.step,Pool.step_none present]
    exact sound
  | some call =>
    obtain ⟨request,stage⟩ := call
    rcases @advance_cases settings request backend calls.shared sound.keyed stage (sound.sound place _ present) with
      ⟨miner,read,row,after,stored,rfl,saved,run⟩ | ⟨miner,stored,rfl,known,run⟩ | quiet
    · exact sound.saved present undisturbed saved run
    · exact sound.counting present undisturbed known run
    · exact sound.quiet present quiet

theorem opening_sound (keyed : ∀ key row, start.submissions.get? key = some row → row.key = key) (requests : List Request) :
    Sound settings start (Calls.opening start requests) := by
  have early (place : Nat) (call : Request × Stage) (present : (Calls.opening start requests).calls[place]? = some call) :
      call.2 = .task := Pool.opening_stage present
  have none_ (kind : Bool) (address : String) : (Calls.opening start requests).returned kind address = 0 := by
    refine List.countP_eq_zero.mpr fun call listed => ?_
    obtain ⟨place,present⟩ := List.getElem?_of_mem listed
    simp [early place call present,Stage.returns]
  refine ⟨keyed,?_,?_,?_⟩
  · intro place call present
    rw [early place call present]
    trivial
  · intro place other one two first second landed
    rw [early place one first] at landed
    cases landed
  · intro address
    rw [none_,none_]
    exact Option.map_id'.symm

end Runs

/-- In every run whose steps are undisturbed, what is acknowledged is stored, stands alone and is counted. -/
theorem calls_acknowledged (settings : Settings) (backend : Backend) {start : Repository}
    (keyed : ∀ key row, start.submissions.get? key = some row → row.key = key) (requests : List Request) {calls : Calls}
    (run : Run (Calls.step settings backend) (Undisturbed backend) (Calls.opening start requests) calls) :
    Acknowledged settings start calls :=
  (run.invariant (opening_sound keyed requests) fun _ _ sound undisturbed => sound.step undisturbed).acknowledged

/-! Two miners whose calls come one after the other, and calls that disturb each other. -/

instance (backend : Backend) (row : Submission) (repo : Repository) : Decidable (Unshared backend row repo) :=
  decidable_of_iff (backend = .memory → ∀ id ∈ row.requestIDs, (repo.requestIndex.get? id).all (·.key = row.key))
    (by simp [Unshared,Option.all_eq_true])

instance (backend : Backend) (request : Request) (repo : Repository) : ∀ stage, Decidable (request.UndisturbedAt backend repo stage)
  | .save _ _ _ => inferInstanceAs (Decidable (_ ∧ _ ∧ _))
  | .count miner _ => decidable_of_iff ((repo.miners.get? request.minerAddress).all (request.counter · = request.counter miner))
      (by simp [Request.UndisturbedAt,Option.all_eq_true])
  | .task | .miner | .signals | .cluster _ | .identities .. | .submission _ | .others .. | .returned _ | .failed _ =>
    isTrue trivial

instance (backend : Backend) (calls : Calls) (place : Nat) : Decidable (Undisturbed backend calls place) :=
  decidable_of_iff ((calls.calls[place]?).all fun call => decide (call.1.UndisturbedAt backend calls.shared call.2))
    (by simp [Undisturbed,Option.all_eq_true])

def registered : Repository := finish plainSettings [(opening,.reconcile (knowing [])),
  (opening,.registerMiner "claw1a" "0.4.0" none none),(opening,.registerMiner "claw1b" "0.4.0" none none)] {}

def committing (address requestID commitHash : String) : Request where
  taskRunID := fastTask .btc
  minerAddress := address
  requestID := requestID
  asked := .commit commitHash
  acceptedAt := opening

def revealing (address requestID : String) : Request where
  taskRunID := fastTask .btc
  minerAddress := address
  requestID := requestID
  asked := .reveal 6000 "nonce"
  acceptedAt := opening

def afterTurns (backend : Backend) (requests : List Request) (turns : List Nat) : Calls :=
  turns.foldl (Calls.step plainSettings backend) (Calls.opening registered requests)

def returnedPlaces (calls : Calls) : List Bool := calls.calls.map (·.2.returns)

theorem registered_keyed : ∀ key row, registered.submissions.get? key = some row → row.key = key :=
  fun key row found => ((finish_regular plainSettings _).2.submissions key row found).keyed

def commitment : String := computeCommitHash plainSettings (fastTask .btc) "claw1a" 6000 "nonce"

def inTurn : List Request :=
  [committing "claw1a" "commit/a" commitment,committing "claw1b" "commit/b" "other",revealing "claw1a" "reveal/a"]

def turns : List Nat := List.replicate 6 0 ++ List.replicate 6 1 ++ List.replicate 7 2

theorem inTurn_acknowledged : returnedPlaces (afterTurns .memory inTurn turns) = [true,true,true] ∧
    Acknowledged plainSettings registered (afterTurns .memory inTurn turns) :=
  ⟨by decide +kernel,calls_acknowledged plainSettings .memory registered_keyed inTurn
    (Run.start.along (by decide +kernel : Along (Calls.step plainSettings .memory) (Undisturbed .memory) turns
      (Calls.opening registered inTurn)))⟩

def atOnce : List Request := [committing "claw1a" "first" commitment,committing "claw1a" "second" "other"]

def oneID : List Request := [committing "claw1a" "commit" commitment,committing "claw1b" "commit" "other"]

def outcome (calls : Calls) (place : Nat) : Option (Asked × Bool × Option String) :=
  (calls.calls[place]?).map fun call => (call.1.asked,call.2.returns,
    (getSubmission call.1.taskRunID call.1.minerAddress calls.shared).map (·.commitHash))

theorem unstored {settings : Settings} {start : Repository} {calls : Calls} {place : Nat} {commitHash : String}
    {stored : Option String} (left : outcome calls place = some (.commit commitHash,true,stored)) (lost : stored ≠ some commitHash) :
    ¬Acknowledged settings start calls := by
  intro acknowledged
  obtain ⟨call,present,shape⟩ := Option.map_eq_some_iff.mp left
  obtain ⟨asked,returns,rfl⟩ : call.1.asked = .commit commitHash ∧ call.2.returns = true ∧
      (getSubmission call.1.taskRunID call.1.minerAddress calls.shared).map (·.commitHash) = stored := by
    simpa using shape
  obtain ⟨row,found,held⟩ := acknowledged.stored call (List.mem_of_getElem? present) returns
  rw [Request.heldBy,asked] at held
  exact lost (by rw [found,← held]; rfl)

/-- Both commits return, and the first one's hash is gone. In memory the second miner's commit
returns, and nothing is stored for it. -/
theorem calls_unacknowledged :
    (∀ backend, ¬Acknowledged plainSettings registered (afterTurns backend atOnce [0,0,0,0,1,1,1,1,0,0,1,1])) ∧
      ¬Acknowledged plainSettings registered (afterTurns .memory oneID (List.replicate 6 0 ++ List.replicate 6 1)) := by
  constructor
  · intro backend
    have left : outcome (afterTurns backend atOnce [0,0,0,0,1,1,1,1,0,0,1,1]) 0 = some (.commit commitment,true,some "other") := by
      cases backend <;> decide +kernel
    exact unstored left (by decide +kernel)
  · have left : outcome (afterTurns .memory oneID (List.replicate 6 0 ++ List.replicate 6 1)) 1 =
        some (.commit "other",true,none) := by
      decide +kernel
    exact unstored left (by decide)

end Clawchain.Mining.Interleaved
