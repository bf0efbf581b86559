import Clawchain.Mining.Reveals

/-! A reveal opens a commitment. The forecast is clamped before it is hashed, so that what opens is what is stored. -/
namespace Clawchain.Mining
open Clawchain.Lib Clawchain.Lib.Faulty

def commitText (taskRunID minerAddress : String) (pYesBps : Int) (revealNonce : String) : String :=
  taskRunID ++ "|" ++ minerAddress ++ "|" ++ toString pYesBps ++ "|" ++ revealNonce

variable {taskRunID : String}

theorem commitText_injective {minerAddress : String} {p q : Int} {nonce other : String}
    (same : commitText taskRunID minerAddress p nonce = commitText taskRunID minerAddress q other)
    : p = q ∧ nonce = other := by
  have chars : (toString p).toList ++ '|' :: nonce.toList = (toString q).toList ++ '|' :: other.toList := by
    simpa [commitText,String.toList_append] using congrArg String.toList same
  obtain ⟨number,rest⟩ := Format.firstField_injective (Format.notMem_toString (by decide) (by decide) p)
    (Format.notMem_toString (by decide) (by decide) q) chars
  exact ⟨Format.toString_injective (String.toList_injective number),String.toList_injective rest⟩

def committedRow (taskRunID address requestID commitHash unit : String) (repo : Repository) : Submission :=
  { (getSubmission taskRunID address repo).getD
      { id := submissionID taskRunID address, taskRunID := taskRunID, minerAddress := address, economicUnitID := unit } with
    economicUnitID := unit
    commitRequestID := some requestID
    commitHash := commitHash }

structure Commits (taskRunID address requestID commitHash unit : String) (before after : Repository) : Prop where
  vacant : ∀ old, getSubmission taskRunID address before = some old → old.commitHash = ""
  written : after.submissions = before.submissions.insert (toLex (taskRunID,address))
    (committedRow taskRunID address requestID commitHash unit before)

theorem committedRow_key {address : String} (requestID commitHash unit : String) {repo : Repository}
    (keyed : Keyed repo) :
    (committedRow taskRunID address requestID commitHash unit repo).key = toLex (taskRunID,address) := by
  unfold committedRow getSubmission
  cases held : repo.submissions.get? (toLex (taskRunID,address)) with
  | none => rfl
  | some old => exact (keyed.submissions _ _ held).keyed

section Calls
variable {settings : Settings} {now : Time}
variable {repo : Repository}

theorem commitSubmission_commits (taskRunID address requestID commitHash : String) (ip agent : Option String)
    (keyed : Keyed repo) :
    (commitSubmission settings now taskRunID address requestID commitHash ip agent repo).2.submissions = repo.submissions ∨
      ∃ unit, Commits taskRunID address requestID commitHash unit repo
        (commitSubmission settings now taskRunID address requestID commitHash ip agent repo).2 := by
  unfold commitSubmission
  rcases request_cases settings now _ repo rfl with ⟨-,-,same⟩ | ⟨-,⟨-,same,-⟩ | ⟨miner,middle,refreshed,run⟩⟩
  · exact .inl (congrArg Repository.submissions same)
  · exact .inl (congrArg Repository.submissions same)
  · have submissions : middle.submissions = repo.submissions := by
      have same := refreshMinerCluster_submissions settings address ip agent repo
      rwa [refreshed] at same
    have found : getSubmission taskRunID address middle = getSubmission taskRunID address repo := by
      unfold getSubmission
      rw [submissions]
    rw [run,read_run]
    dsimp only
    rw [found]
    split_ifs with committed
    · exact .inl submissions
    · rw [modify_bind]
      change (middle.saveSubmission (committedRow taskRunID address requestID commitHash miner.economicUnitID repo)).submissions = _ ∨
        ∃ unit, Commits _ _ _ _ unit repo ((middle.saveSubmission (committedRow taskRunID address requestID commitHash
          miner.economicUnitID repo)).updateMiner address _)
      rcases saveSubmission_cases (committedRow taskRunID address requestID commitHash miner.economicUnitID repo) middle with
        ⟨same,-⟩ | ⟨-,stored,-⟩
      · rw [same]
        exact .inl submissions
      · refine .inr ⟨miner.economicUnitID,fun old held => ?_,?_⟩
        · simpa [held] using committed
        · rw [committedRow_key requestID commitHash miner.economicUnitID keyed,submissions] at stored
          exact stored

theorem commitment_kept {call : Call} (tidy : Tidy repo) (regular : Regular repo) {key : Lex (String × String)}
    {old : Submission} (found : repo.submissions.get? key = some old) (committed : old.commitHash ≠ "") :
    ∃ new, (call.after settings repo).submissions.get? key = some new ∧ new.commitHash = old.commitHash := by
  obtain ⟨now,operation⟩ := call
  have kept (same : (Call.after settings (now,operation) repo).submissions = repo.submissions) :
      ∃ new, (Call.after settings (now,operation) repo).submissions.get? key = some new ∧ new.commitHash = old.commitHash :=
    ⟨old,by rw [same,found],rfl⟩
  cases other : operation.ofMiner with
  | true =>
    cases operation with
    | registerMiner address version ip agent => exact kept (registerMiner_submissions address version ip agent repo)
    | commitSubmission taskRunID address request commitHash ip agent =>
      rcases commitSubmission_commits taskRunID address request commitHash ip agent regular.toKeyed with same | ⟨unit,commits⟩
      · exact kept same
      · have apart : key ≠ toLex (taskRunID,address) := by
          rintro rfl
          exact committed (commits.vacant old found)
        refine ⟨old,?_,rfl⟩
        change (commitSubmission settings now taskRunID address request commitHash ip agent repo).2.submissions.get? key = _
        rw [commits.written,OrdMap.get?_insert,if_neg apart,found]
    | revealSubmission taskRunID address request bps nonce ip agent =>
      rcases revealSubmission_cases settings now taskRunID address request nonce bps ip agent regular.toKeyed
        with ⟨unit,submission,accepts⟩ | ⟨same,-⟩
      · change ∃ new, (revealSubmission settings now taskRunID address request bps nonce ip agent repo).2.submissions.get? key = _ ∧ _
        rw [accepts.written,OrdMap.get?_insert]
        split_ifs with own
        · have stored := accepts.stored
          rw [← own,found] at stored
          cases stored
          exact ⟨_,rfl,rfl⟩
        · exact ⟨old,found,rfl⟩
      · exact kept same
    | _ => cases other
  | false =>
    have same : SameReveals repo (operation.run settings now repo).2 :=
      servicing_frames SameReveals.refl SameReveals.trans (fun _ _ _ _ step => step.sameReveals)
        (fun _ _ _ _ stamped => stamped.sameReveals) (fun _ _ same => same.sameReveals) other tidy regular
    have mapped := same key
    rw [found] at mapped
    obtain ⟨new,held,equal⟩ := Option.map_eq_some_iff.mp mapped
    simp only [Submission.reveal,Prod.mk.injEq] at equal
    exact ⟨new,held,equal.2.2.2.2⟩

theorem commitment_lasts (calls : List Call) (tidy : Tidy repo) (regular : Regular repo) {key : Lex (String × String)}
    {old : Submission} (found : repo.submissions.get? key = some old) (committed : old.commitHash ≠ "") :
    ∃ new, (finish settings calls repo).submissions.get? key = some new ∧ new.commitHash = old.commitHash := by
  induction calls generalizing repo old with
  | nil => exact ⟨old,found,rfl⟩
  | cons call rest ih =>
    obtain ⟨middle,held,same⟩ : ∃ new, (call.after settings repo).submissions.get? key = some new ∧
        new.commitHash = old.commitHash := commitment_kept tidy regular found committed
    obtain ⟨tidy',regular'⟩ := @call_regular settings call repo tidy regular
    obtain ⟨new,held',same'⟩ := ih tidy' regular' held (same ▸ committed)
    exact ⟨new,held',same'.trans same⟩

end Calls

section Opening
variable {settings : Settings} {now : Time}

def CommittedTo (settings : Settings) (taskRunID address : String) (pYesBps : Int) (revealNonce : String)
    (repo : Repository) : Prop :=
  ∃ row, getSubmission taskRunID address repo = some row ∧
    row.commitHash = computeCommitHash settings taskRunID address pYesBps revealNonce

def Unrevealed (taskRunID address : String) (repo : Repository) : Prop :=
  ∀ row, getSubmission taskRunID address repo = some row → row.pYesBps = none

def RevealOpen (now : Time) (taskRunID : String) (repo : Repository) : Prop :=
  ∃ task, repo.tasks.get? taskRunID = some task ∧ parseTime task.publishAt ≤ now ∧ now ≤ parseTime task.revealDeadline

instance (now : Time) (taskRunID : String) (repo : Repository) : Decidable (RevealOpen now taskRunID repo) :=
  decidable_of_iff ((repo.tasks.get? taskRunID).any fun task =>
    parseTime task.publishAt ≤ now && now ≤ parseTime task.revealDeadline) (by simp [RevealOpen,Option.any_eq_true])

theorem getTask_open {deadline : Task → Int} {closed taskRunID : String} {repo : Repository} {task : Task}
    (found : repo.tasks.get? taskRunID = some task) (published : parseTime task.publishAt ≤ now)
    (open_ : now ≤ parseTime (deadline task)) : getTask now deadline closed taskRunID repo = (.ok task,repo) := by
  unfold getTask
  rw [read_run,found]
  dsimp only
  rw [if_neg (not_lt.mpr published),if_neg (not_lt.mpr open_)]
  rfl

theorem revealSubmission_accepts {taskRunID address requestID revealNonce : String} {pYesBps : Int} {ip agent : Option String}
    {repo : Repository} (keyed : Keyed repo) {row : Submission} (stored : getSubmission taskRunID address repo = some row)
    (committed : row.commitHash ≠ "") (unrevealed : row.pYesBps = none) (open_ : RevealOpen now taskRunID repo) :
    (revealSubmission settings now taskRunID address requestID pYesBps revealNonce ip agent repo).1.isOk = true ↔
      computeCommitHash settings taskRunID address (clampBps settings pYesBps) revealNonce = row.commitHash := by
  obtain ⟨task,found,published,before⟩ := open_
  have own : row.key = toLex (taskRunID,address) := (keyed.submissions _ _ stored).keyed
  have registered := (keyed.submissions _ _ stored).miner
  rw [show row.minerAddress = address from congrArg (fun key => (ofLex key).2) own] at registered
  have required : requireMiner address repo = (.ok (),repo) := by
    unfold requireMiner
    rw [read_run,if_neg (by rw [Option.isNone_iff_eq_none]; exact Option.isSome_iff_ne_none.mp registered)]
    rfl
  obtain ⟨missing,-⟩ | ⟨miner,middle,refreshed,-⟩ := @refreshMinerCluster_cases settings address ip agent repo
  · rw [missing] at registered
    cases registered
  · have held : getSubmission taskRunID address middle = some row := by
      have same := refreshMinerCluster_submissions settings address ip agent repo
      rw [refreshed] at same
      change middle.submissions = repo.submissions at same
      unfold getSubmission
      rw [same]
      exact stored
    unfold revealSubmission
    rw [bind_of_ok _ (getTask_open found published before)]
    dsimp only
    rw [bind_of_ok _ required,bind_of_ok _ refreshed]
    rw [read_run,held]
    dsimp only
    rw [if_neg committed,if_neg (by simp [unrevealed])]
    by_cases opens : computeCommitHash settings taskRunID address (clampBps settings pYesBps) revealNonce = row.commitHash
    · rw [if_neg (not_not.mpr opens)]
      exact iff_of_true rfl opens
    · rw [if_pos opens]
      exact iff_of_false (fun done => by cases done) opens

/-- What a commitment is the hash of is told apart from what the reveal would open. -/
def ToldApart (settings : Settings) (first second : String) : Prop :=
  Set.InjOn settings.text.sha256 {first,second} ∧ settings.text.sha256 first ≠ ""

/-- Whatever happens after the commitment, a first reveal opens it exactly when the clamped forecast and the nonce are the
ones that were committed to. -/
theorem reveal_opens (calls later : List Call) {taskRunID address requestID nonce other : String} {p q : Int}
    {ip agent : Option String} (committed : CommittedTo settings taskRunID address p nonce (finish settings calls {}))
    (first : Unrevealed taskRunID address (finish settings (calls ++ later) {}))
    (open_ : RevealOpen now taskRunID (finish settings (calls ++ later) {}))
    (apart : ToldApart settings (commitText taskRunID address p nonce)
      (commitText taskRunID address (clampBps settings q) other)) :
    (revealSubmission settings now taskRunID address requestID q other ip agent
        (finish settings (calls ++ later) {})).1.isOk = true ↔ clampBps settings q = p ∧ other = nonce := by
  obtain ⟨old,stored,own⟩ := committed
  obtain ⟨tidy,regular⟩ := finish_regular settings calls
  obtain ⟨-,regular'⟩ := finish_regular settings (calls ++ later)
  have nonempty : old.commitHash ≠ "" := own ▸ apart.2
  obtain ⟨row,stored',same⟩ : ∃ row, getSubmission taskRunID address (finish settings (calls ++ later) {}) = some row ∧
      row.commitHash = old.commitHash := by
    unfold getSubmission finish
    rw [List.foldl_append]
    exact commitment_lasts later tidy regular stored nonempty
  rw [revealSubmission_accepts regular'.toKeyed stored' (same ▸ nonempty) (first row stored') open_,same,own]
  constructor
  · intro opened
    exact commitText_injective (apart.1 (.inr rfl) (.inl rfl) opened)
  · rintro ⟨rfl,rfl⟩
    rfl

end Opening

/-! Commitments within the range of the settings, and outside of it. -/

def pledging (pYesBps : Int) : List Call :=
  [(opening,.reconcile (knowing [])),(opening,.registerMiner "claw1a" "0.4.0" none none),
    (opening,.commitSubmission (fastTask .btc) "claw1a" "commit" (computeCommitHash plainSettings (fastTask .btc) "claw1a" pYesBps
      "nonce") none none)]

def opensWith (pYesBps : Int) (calls : List Call) : Bool :=
  (revealSubmission plainSettings opening (fastTask .btc) "claw1a" "reveal" pYesBps "nonce" none none
    (finish plainSettings calls {})).1.isOk

theorem pledging_committed (p : Int) (known : p = 7000 ∨ p = 8500 ∨ p = 9000) :
    CommittedTo plainSettings (fastTask .btc) "claw1a" p "nonce" (finish plainSettings (pledging p) {}) := by
  have stored : (getSubmission (fastTask .btc) "claw1a" (finish plainSettings (pledging p) {})).map (·.commitHash) =
      some (computeCommitHash plainSettings (fastTask .btc) "claw1a" p "nonce") := by
    rcases known with rfl | rfl | rfl <;> decide +kernel
  obtain ⟨row,held,own⟩ := Option.map_eq_some_iff.mp stored
  exact ⟨row,held,own⟩

theorem unrevealed_of {address : String} {repo : Repository}
    (none_ : (getSubmission taskRunID address repo).all (·.pYesBps.isNone)) : Unrevealed taskRunID address repo := by
  intro row held
  rw [held] at none_
  exact Option.isNone_iff_eq_none.mp none_

theorem reveal_opens_reconciled :
    (revealSubmission plainSettings opening (fastTask .btc) "claw1a" "reveal" 7000 "nonce" none none
      (finish plainSettings (pledging 7000 ++ [(opening,.reconcile (knowing []))]) {})).1.isOk = true ↔
        clampBps plainSettings 7000 = 7000 ∧ "nonce" = "nonce" :=
  reveal_opens (pledging 7000) [(opening,.reconcile (knowing []))] (pledging_committed 7000 (.inl rfl))
    (unrevealed_of (by decide +kernel)) (by decide +kernel)
    ⟨fun first _ second _ same => same,by decide +kernel⟩

/-- A forecast above the range cannot be opened, though it is the one that was committed to. -/
theorem clamped_apart : ¬∀ (calls : List Call) (p q : Int), 0 ≤ p ∧ p ≤ 10000 → 0 ≤ q ∧ q ≤ 10000 →
    CommittedTo plainSettings (fastTask .btc) "claw1a" p "nonce" (finish plainSettings calls {}) →
    Unrevealed (fastTask .btc) "claw1a" (finish plainSettings calls {}) →
    RevealOpen opening (fastTask .btc) (finish plainSettings calls {}) → (opensWith q calls = true ↔ q = p) := by
  intro all
  have unopened := (all (pledging 9000) 9000 9000 (by decide) (by decide) (pledging_committed 9000 (.inr (.inr rfl)))
    (unrevealed_of (by decide +kernel)) (by decide +kernel)).mpr rfl
  exact absurd unopened (by decide +kernel)

end Clawchain.Mining
