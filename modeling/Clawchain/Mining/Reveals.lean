import Clawchain.Mining.Units

/-! Duplicate reveals. A reveal is for audit only when another miner of its unit has revealed the task: this finds every
miner that is linked to it as long as nobody's links change between two reveals of a task. -/
namespace Clawchain.Mining
open Clawchain.Lib Clawchain.Lib.Faulty

/-! What the service's own operations leave of a submission. -/

def Submission.reveal (submission : Submission) : String × String × String × Option Int × String :=
  (submission.taskRunID,submission.minerAddress,submission.economicUnitID,submission.pYesBps,submission.commitHash)

def SameReveals (before after : Repository) : Prop := ∀ key,
  (after.submissions.get? key).map Submission.reveal = (before.submissions.get? key).map Submission.reveal

theorem SameReveals.refl (repo : Repository) : SameReveals repo repo := fun _ => rfl

theorem SameReveals.trans (a b c : Repository) (first : SameReveals a b) (next : SameReveals b c) : SameReveals a c :=
  fun key => (next key).trans (first key)

theorem sameReveals_of_submissions {before after : Repository} (same : after.submissions = before.submissions) :
    SameReveals before after := fun _ => by rw [same]

theorem saveSubmission_sameReveals {repo : Repository} {row old : Submission}
    (stored : repo.submissions.get? row.key = some old) (same : row.reveal = old.reveal) :
    SameReveals repo (repo.saveSubmission row) := by
  rcases saveSubmission_cases row repo with ⟨kept,-⟩ | ⟨-,written,-⟩
  · rw [kept]
    exact .refl repo
  · intro key
    rw [written,OrdMap.get?_insert]
    split_ifs with own
    · rw [own,stored]
      exact congrArg some same
    · rfl

section Operations
variable {settings : Settings} {now : Time}
variable {before after : Repository}

theorem Settling.sameReveals {outside : Outside} (step : Settling settings outside now before after)
    : SameReveals before after := by
  cases step with
  | create | wait | resolve | waitDaily | resolveDaily => exact .refl _
  | pend due unknown waiting => exact saveSubmission_sameReveals waiting.stored rfl
  | settleDaily due waiting => exact saveSubmission_sameReveals waiting.stored rfl
  | @settle task submission miner _ due known waiting owner =>
    rw [settleSubmission_run settings now outside.assess task submission miner waiting.revealed owner]
    have saved : SameReveals before (before.saveSubmission (settledRow settings now outside.assess task submission miner)) :=
      saveSubmission_sameReveals waiting.stored rfl
    refine .trans _ _ _ saved (sameReveals_of_submissions ?_)
    unfold keepHold
    split_ifs <;> rfl
  | @release miner _ owner =>
    obtain ⟨entries,update,-,written⟩ := releaseMinerHolds_shape settings now miner before
    rw [written]
    exact .refl _

theorem Stamped.sameReveals {id : String} {taskRunIDs : List String} (stamped : Stamped id taskRunIDs before after)
    : SameReveals before after := by
  intro key
  rw [stamped.submissions,Option.map_map]
  congr 1
  funext submission
  dsimp only [Function.comp_apply]
  unfold stampSubmission
  split_ifs <;> rfl

theorem SameIntake.sameReveals (same : SameIntake before after) : SameReveals before after := by
  unfold SameIntake Repository.intakeSide at same
  simp only [Prod.mk.injEq] at same
  exact sameReveals_of_submissions same.2.2.1

theorem refreshMinerCluster_submissions (settings : Settings) (address : String) (ip agent : Option String) (repo : Repository) :
    (refreshMinerCluster settings address ip agent repo).2.submissions = repo.submissions := by
  unfold refreshMinerCluster
  rw [read_run]
  cases repo.miners.get? address with
  | none => rfl
  | some current =>
    dsimp only
    split_ifs <;> rfl

theorem registerMiner_submissions (address version : String) (ip agent : Option String) (repo : Repository) :
    (registerMiner settings now address version ip agent repo).2.submissions = repo.submissions := by
  unfold registerMiner
  split_ifs
  · rfl
  · rfl
  · rw [read_run]
    dsimp only
    split_ifs <;> rfl

theorem commitSubmission_submissions (settings : Settings) (now : Time) (taskRunID address requestID commitHash : String) (ip agent : Option String)
    (repo : Repository) :
    (commitSubmission settings now taskRunID address requestID commitHash ip agent repo).2.submissions = repo.submissions ∨
      ∃ row, (commitSubmission settings now taskRunID address requestID commitHash ip agent repo).2.submissions =
          repo.submissions.insert row.key row ∧
        (row.pYesBps.isSome → ∃ old, repo.submissions.get? (toLex (taskRunID,address)) = some old ∧ old.pYesBps.isSome ∧
          old.commitHash = "") := by
  unfold commitSubmission
  rcases request_cases settings now _ repo rfl with ⟨-,-,same⟩ | ⟨-,⟨-,same,-⟩ | ⟨miner,middle,refreshed,run⟩⟩
  · exact .inl (congrArg Repository.submissions same)
  · exact .inl (congrArg Repository.submissions same)
  · have submissions : middle.submissions = repo.submissions := by
      have same := refreshMinerCluster_submissions settings address ip agent repo
      rwa [refreshed] at same
    rw [run,read_run]
    dsimp only
    split_ifs with committed
    · exact .inl submissions
    · generalize written : ({ (getSubmission taskRunID address middle).getD
          { id := submissionID taskRunID address, taskRunID := taskRunID, minerAddress := address
            economicUnitID := miner.economicUnitID } with
          economicUnitID := miner.economicUnitID
          commitRequestID := some requestID
          commitHash := commitHash } : Submission) = row
      rw [modify_bind]
      change (middle.saveSubmission row).submissions = _ ∨ ∃ row, (middle.saveSubmission _).submissions = _ ∧ _
      rcases saveSubmission_cases row middle with ⟨same,-⟩ | ⟨-,stored,-⟩
      · rw [same]
        exact .inl submissions
      · refine .inr ⟨row,stored.trans (by rw [submissions]),fun revealed => ?_⟩
        rw [← written] at revealed
        unfold getSubmission at revealed committed
        rw [submissions] at revealed committed
        cases held : repo.submissions.get? (toLex (taskRunID,address)) with
        | none =>
          rw [held] at revealed
          cases revealed
        | some old =>
          rw [held] at revealed committed
          exact ⟨old,rfl,revealed,by simpa using committed⟩

def revealedRow (settings : Settings) (requestID : String) (pYesBps : Int) (unit : String) (repo : Repository)
    (submission : Submission) : Submission :=
  { submission with
    economicUnitID := unit
    revealRequestID := some requestID
    pYesBps := some (clampBps settings pYesBps)
    eligibilityStatus := if (repo.listSubmissionsForTask submission.taskRunID).any (duplicates submission.minerAddress unit)
      then .auditOnly else .eligible
    state := .revealed }

structure Accepts (settings : Settings) (taskRunID address requestID : String) (pYesBps : Int) (unit : String)
    (submission : Submission) (before after : Repository) : Prop where
  owned : (after.miners.get? address).map (·.economicUnitID) = some unit
  stored : before.submissions.get? (toLex (taskRunID,address)) = some submission
  unrevealed : submission.pYesBps = none
  committed : submission.commitHash ≠ ""
  written : after.submissions = before.submissions.insert (toLex (taskRunID,address))
    (revealedRow settings requestID pYesBps unit before submission)

theorem revealSubmission_cases (settings : Settings) (now : Time) (taskRunID address requestID revealNonce : String) (pYesBps : Int) (ip agent : Option String)
    {repo : Repository} (keyed : Keyed repo) :
    (∃ unit submission, Accepts settings taskRunID address requestID pYesBps unit submission repo
        (revealSubmission settings now taskRunID address requestID pYesBps revealNonce ip agent repo).2) ∨
      (revealSubmission settings now taskRunID address requestID pYesBps revealNonce ip agent repo).2.submissions =
          repo.submissions ∧
        ((revealSubmission settings now taskRunID address requestID pYesBps revealNonce ip agent repo).1.isOk →
          ∀ row, repo.submissions.get? (toLex (taskRunID,address)) = some row → row.pYesBps = none) := by
  unfold revealSubmission
  rcases request_cases settings now _ repo rfl with ⟨-,failed,same⟩ | ⟨-,⟨failed,same,-⟩ | ⟨miner,middle,refreshed,run⟩⟩
  · exact .inr ⟨congrArg Repository.submissions same,fun done => absurd (failed ▸ done) (by decide)⟩
  · exact .inr ⟨congrArg Repository.submissions same,fun done => absurd (failed ▸ done) (by decide)⟩
  · have submissions : middle.submissions = repo.submissions := by
      have same := refreshMinerCluster_submissions settings address ip agent repo
      rwa [refreshed] at same
    have owned : middle.miners.get? address = some miner := by
      obtain ⟨-,failed⟩ | ⟨other,after,done,-,own,-⟩ := @refreshMinerCluster_cases settings address ip agent repo
      · rw [refreshed] at failed
        cases failed
      · rw [refreshed] at done
        cases done
        exact own
    rw [run,read_run]
    cases held : getSubmission taskRunID address middle with
    | none => exact .inr ⟨submissions,fun done => by cases done⟩
    | some submission =>
      have stored : repo.submissions.get? (toLex (taskRunID,address)) = some submission := by
        unfold getSubmission at held
        rwa [submissions] at held
      have own : submission.key = toLex (taskRunID,address) := (keyed.submissions _ _ stored).keyed
      obtain ⟨rfl,rfl⟩ : submission.taskRunID = taskRunID ∧ submission.minerAddress = address := by
        simpa [Submission.key] using own
      dsimp only
      by_cases blank : submission.commitHash = ""
      · rw [if_pos blank]
        exact .inr ⟨submissions,fun done => by cases done⟩
      rw [if_neg blank]
      by_cases revealed : submission.pYesBps.isSome
      · rw [if_pos revealed]
        exact .inr ⟨submissions,fun done => by cases done⟩
      rw [if_neg revealed]
      by_cases differs : computeCommitHash settings submission.taskRunID submission.minerAddress (clampBps settings pYesBps)
          revealNonce ≠ submission.commitHash
      · rw [if_pos differs]
        exact .inr ⟨submissions,fun done => by cases done⟩
      rw [if_neg differs]
      have unrevealed : submission.pYesBps = none := by simpa using revealed
      have listed : middle.listSubmissionsForTask submission.taskRunID = repo.listSubmissionsForTask submission.taskRunID := by
        unfold Repository.listSubmissionsForTask
        rw [submissions]
      rw [listed,modify_bind]
      change (∃ unit row, Accepts settings _ _ _ _ _ _ repo ((middle.saveSubmission (revealedRow settings requestID pYesBps
          miner.economicUnitID repo submission)).updateMiner submission.minerAddress _)) ∨
        (middle.saveSubmission (revealedRow settings requestID pYesBps miner.economicUnitID repo submission)).submissions = _ ∧ _
      rcases saveSubmission_cases (revealedRow settings requestID pYesBps miner.economicUnitID repo submission) middle with
        ⟨same,-⟩ | ⟨-,written,-⟩
      · rw [same]
        refine .inr ⟨submissions,fun _ row found => ?_⟩
        rw [stored] at found
        cases found
        exact unrevealed
      · refine .inl ⟨miner.economicUnitID,submission,?_,stored,unrevealed,blank,?_⟩
        · unfold Repository.updateMiner
          dsimp only
          rw [OrdMap.get?_modifyAt,if_pos rfl,saveSubmission_miners,owned]
          rfl
        · rw [← submissions,← own]
          exact written

end Operations

theorem follows_unit {text : Text} {candidates : List Miner} {before after : Repository} (keyed : Keyed before)
    (keyed' : Keyed after) (clustered : Clustered text before) (follows : Follows text candidates after) {address : String}
    {old : Miner} (held : before.miners.get? address = some old)
    (same : ∀ other, other ∈ componentOf text candidates address ↔ other ∈ componentOf text before.listMiners address) :
    ∃ new, after.miners.get? address = some new ∧ new.economicUnitID = old.economicUnitID := by
  have own : old.address = address := (keyed.miners _ _ held).1
  have listed : old ∈ before.listMiners := (mem_listMiners keyed).mpr (own.symm ▸ held)
  have inside : address ∈ before.listMiners.map (·.address) := own ▸ List.mem_map_of_mem listed
  have inside' : address ∈ after.listMiners.map (·.address) := by
    have kept := (same address).mpr (mem_componentOf.mpr ⟨inside,.refl address⟩)
    exact follows.listed.mem_iff.mp (mem_componentOf.mp kept).1
  obtain ⟨new,listed',own'⟩ := List.mem_map.mp inside'
  have held' := (mem_listMiners keyed').mp listed'
  rw [own'] at held'
  refine ⟨new,held',?_⟩
  have parts : (componentOf text after.listMiners address).Perm (componentOf text before.listMiners address) := by
    have distinct {repo : Repository} (keyed : Keyed repo) : (componentOf text repo.listMiners address).Nodup := by
      unfold componentOf
      apply List.Nodup.filter
      rw [listMiners_addresses keyed]
      exact OrdMap.keys_nodup _
    rw [List.perm_ext_iff_of_nodup (distinct keyed') (distinct keyed)]
    intro other
    rw [← same other,mem_componentOf,mem_componentOf,follows.linked,follows.listed.mem_iff]
  have units := unit_of_component (iff_of_true inside' inside) parts
  rw [← own',follows.clustered new listed',own',← own,clustered old listed] at units
  exact Option.some.inj units

def Operation.reveals (taskRunID : String) : Operation → Bool
  | .revealSubmission task .. => task = taskRunID
  | _ => false

/-- No call changes the unit's members for a miner that has revealed a task, if the task is revealed again by this call or
a later one. -/
def Steady (settings : Settings) : List Call → Repository → Prop
  | [],_ => True
  | call :: rest,repo =>
    (∀ key submission, repo.submissions.get? key = some submission → submission.pYesBps.isSome →
      (∃ other ∈ call :: rest, other.2.reveals submission.taskRunID) →
      ∀ member, member ∈ componentOf settings.text (call.candidates settings repo) submission.minerAddress ↔
        member ∈ componentOf settings.text repo.listMiners submission.minerAddress) ∧
    Steady settings rest (call.after settings repo)

structure Named (later : List Call) (repo : Repository) : Prop where
  committed : ∀ key submission, repo.submissions.get? key = some submission → submission.pYesBps.isSome →
    submission.commitHash ≠ ""
  current : ∀ key submission, repo.submissions.get? key = some submission → submission.pYesBps.isSome →
    (∃ other ∈ later, other.2.reveals submission.taskRunID) →
    (repo.miners.get? submission.minerAddress).map (·.economicUnitID) = some submission.economicUnitID

/-- A reveal that is stored is for audit only, if a miner that is linked to its miner in the end had revealed the task. -/
def Guarded (settings : Settings) (repo : Repository) (call : Call) : Prop :=
  match call.2 with
  | .revealSubmission taskRunID address .. => (call.2.run settings call.1 repo).1.isOk →
    ∀ row, getSubmission taskRunID address (call.after settings repo) = some row → row.pYesBps.isSome →
      ∀ other, other ≠ address → Linked settings.text (call.after settings repo).listMiners address other →
        ∀ earlier, getSubmission taskRunID other repo = some earlier → earlier.pYesBps.isSome →
          row.eligibilityStatus = .auditOnly
  | _ => True

section Runs
variable {settings : Settings} {now : Time}
variable {call : Call} {repo : Repository}

theorem Named.kept {rest : List Call} {after : Repository} (named : Named (call :: rest) repo) (keyed : Keyed repo)
    (keyed' : Keyed after) (clustered : Clustered settings.text repo)
    (follows : Follows settings.text (call.candidates settings repo) after)
    (steady : Steady settings (call :: rest) repo) {key : Lex (String × String)} {submission : Submission}
    (found : repo.submissions.get? key = some submission) (revealed : submission.pYesBps.isSome)
    (again : ∃ other ∈ call :: rest, other.2.reveals submission.taskRunID) :
    (after.miners.get? submission.minerAddress).map (·.economicUnitID) = some submission.economicUnitID := by
  obtain ⟨old,held,unit⟩ := Option.map_eq_some_iff.mp (named.current key submission found revealed again)
  obtain ⟨new,held',same⟩ := follows_unit keyed keyed' clustered follows held (steady.1 key submission found revealed again)
  rw [held',← unit,← same]
  rfl

theorem Named.guarded {rest : List Call} (named : Named (call :: rest) repo) (regular : Regular repo)
    (regular' : Regular (call.after settings repo)) (clustered : Clustered settings.text repo)
    (follows : Follows settings.text (call.candidates settings repo) (call.after settings repo))
    (steady : Steady settings (call :: rest) repo) : Guarded settings repo call := by
  obtain ⟨now,operation⟩ := call
  cases operation with
  | revealSubmission taskRunID address requestID pYesBps revealNonce ip agent =>
    intro done row found revealed other differs linked earlier stored earlierRevealed
    rcases revealSubmission_cases settings now taskRunID address requestID revealNonce pYesBps ip agent
      regular.toKeyed with ⟨unit,submission,accepts⟩ | ⟨same,unrevealed⟩
    · -- the other miner's submission is found under the unit that both miners have
      have own : earlier.key = toLex (taskRunID,other) := (regular.submissions _ _ stored).keyed
      obtain ⟨rfl,rfl⟩ : earlier.taskRunID = taskRunID ∧ earlier.minerAddress = other := by
        simpa [Submission.key] using own
      have kept := named.kept regular.toKeyed regular'.toKeyed clustered follows steady stored earlierRevealed
        ⟨_,List.mem_cons_self,by simp [Operation.reveals]⟩
      obtain ⟨one,held,unit'⟩ := Option.map_eq_some_iff.mp accepts.owned
      obtain ⟨two,held',unit''⟩ := Option.map_eq_some_iff.mp kept
      have named' := (regular'.miners _ _ held).1
      have named'' := (regular'.miners _ _ held').1
      have shared : unit = earlier.economicUnitID := by
        rw [← unit',← unit'']
        apply follows.clustered.same_unit
        · exact (mem_listMiners regular'.toKeyed).mpr (named'.symm ▸ held)
        · exact (mem_listMiners regular'.toKeyed).mpr (named''.symm ▸ held')
        · rw [named',named'']
          exact linked
      have row' : row = revealedRow settings requestID pYesBps unit repo submission := by
        change (revealSubmission settings now earlier.taskRunID address requestID pYesBps revealNonce ip agent repo).2.submissions.get?
          (toLex (earlier.taskRunID,address)) = some row at found
        rw [accepts.written,OrdMap.get?_insert_self] at found
        exact (Option.some.inj found).symm
      have key : submission.key = toLex (earlier.taskRunID,address) := (regular.submissions _ _ accepts.stored).keyed
      obtain ⟨task,miner⟩ : submission.taskRunID = earlier.taskRunID ∧ submission.minerAddress = address := by
        simpa [Submission.key] using key
      have taken : (repo.listSubmissionsForTask submission.taskRunID).any (duplicates submission.minerAddress unit) = true := by
        refine List.any_eq_true.mpr ⟨earlier,?_,?_⟩
        · exact (mem_listSubmissionsForTask regular.toKeyed).mpr ⟨own ▸ stored,task.symm⟩
        · simp [duplicates,miner,differs,shared,earlierRevealed]
      rw [row',revealedRow]
      exact if_pos taken
    · have kept : repo.submissions.get? (toLex (taskRunID,address)) = some row := by
        rw [← same]
        exact found
      rw [unrevealed done row kept] at revealed
      cases revealed
  | _ => trivial

theorem reveal_origin (tidy : Tidy repo) (regular : Regular repo)
    (committed : ∀ key submission, repo.submissions.get? key = some submission → submission.pYesBps.isSome →
      submission.commitHash ≠ "") {key : Lex (String × String)} {row : Submission}
    (found : (call.after settings repo).submissions.get? key = some row) (revealed : row.pYesBps.isSome) :
    (∃ old, repo.submissions.get? key = some old ∧ row.reveal = old.reveal) ∨
      row.commitHash ≠ "" ∧
        ((call.after settings repo).miners.get? row.minerAddress).map (·.economicUnitID) = some row.economicUnitID := by
  obtain ⟨now,operation⟩ := call
  have kept (same : (Call.after settings (now,operation) repo).submissions = repo.submissions) :
      ∃ old, repo.submissions.get? key = some old ∧ row.reveal = old.reveal := by
    rw [same] at found
    exact ⟨row,found,rfl⟩
  cases other : operation.ofMiner with
  | true =>
    cases operation with
    | registerMiner address version ip agent => exact .inl (kept (registerMiner_submissions address version ip agent repo))
    | commitSubmission taskRunID address request commitHash ip agent =>
      rcases commitSubmission_submissions settings now taskRunID address request commitHash ip agent repo
        with same | ⟨written,stored,earlier⟩
      · exact .inl (kept same)
      · change (commitSubmission settings now taskRunID address request commitHash ip agent repo).2.submissions.get? key = some row
          at found
        rw [stored,OrdMap.get?_insert] at found
        split_ifs at found with own
        · cases found
          obtain ⟨old,held,was,blank⟩ := earlier revealed
          exact absurd blank (committed _ old held was)
        · exact .inl ⟨row,found,rfl⟩
    | revealSubmission taskRunID address request bps nonce ip agent =>
      rcases revealSubmission_cases settings now taskRunID address request nonce bps ip agent
        regular.toKeyed with ⟨unit,submission,accepts⟩ | ⟨same,-⟩
      · change (revealSubmission settings now taskRunID address request bps nonce ip agent repo).2.submissions.get? key = some row
          at found
        rw [accepts.written,OrdMap.get?_insert] at found
        split_ifs at found with own
        · right
          cases found
          have miner : submission.minerAddress = address := by
            have key := (regular.submissions _ _ accepts.stored).keyed
            simpa [Submission.key] using congrArg (fun key => (ofLex key).2) key
          refine ⟨accepts.committed,?_⟩
          change ((revealSubmission settings now taskRunID address request bps nonce ip agent repo).2.miners.get?
            submission.minerAddress).map _ = some unit
          rw [miner]
          exact accepts.owned
        · exact .inl ⟨row,found,rfl⟩
      · exact .inl (kept same)
    | _ => cases other
  | false =>
    left
    have same : SameReveals repo (operation.run settings now repo).2 :=
      servicing_frames SameReveals.refl SameReveals.trans (fun _ _ _ _ step => step.sameReveals)
        (fun _ _ _ _ stamped => stamped.sameReveals) (fun _ _ same => same.sameReveals) other tidy regular
    have mapped := same key
    change (operation.run settings now repo).2.submissions.get? key = some row at found
    rw [found] at mapped
    obtain ⟨old,held,equal⟩ := Option.map_eq_some_iff.mp mapped.symm
    exact ⟨old,held,equal.symm⟩

theorem Named.after {call : Call} {rest : List Call} {repo : Repository} (named : Named (call :: rest) repo) (tidy : Tidy repo)
    (regular : Regular repo) (regular' : Regular (call.after settings repo)) (clustered : Clustered settings.text repo)
    (follows : Follows settings.text (call.candidates settings repo) (call.after settings repo))
    (steady : Steady settings (call :: rest) repo) : Named rest (call.after settings repo) where
  committed key row found revealed := by
    rcases reveal_origin tidy regular named.committed found revealed with ⟨old,held,same⟩ | ⟨committed,-⟩
    · simp only [Submission.reveal,Prod.mk.injEq] at same
      rw [same.2.2.2.2]
      exact named.committed key old held (same.2.2.2.1 ▸ revealed)
    · exact committed
  current key row found revealed again := by
    rcases reveal_origin tidy regular named.committed found revealed with ⟨old,held,same⟩ | ⟨-,owned⟩
    · simp only [Submission.reveal,Prod.mk.injEq] at same
      obtain ⟨other,member,asked⟩ := again
      rw [same.2.1,same.2.2.1]
      exact named.kept regular.toKeyed regular'.toKeyed clustered follows steady held (same.2.2.2.1 ▸ revealed)
        ⟨other,List.mem_cons_of_mem _ member,same.1 ▸ asked⟩
    · exact owned

end Runs

/-- A reveal is for audit only when a linked miner has revealed the task, as long as no request hides an address that links
its miner, and no call changes the links of a miner between its reveal of a task and another one. -/
theorem reveals_guarded (settings : Settings) (calls : List Call)
    (discloses : Throughout settings (fun repo call => call.Discloses settings.text repo) calls {})
    (steady : Steady settings calls {}) : Throughout settings (Guarded settings) calls {} := by
  have run {calls : List Call} {repo : Repository} (tidy : Tidy repo) (regular : Regular repo)
      (clustered : Clustered settings.text repo) (named : Named calls repo)
      (discloses : Throughout settings (fun repo call => call.Discloses settings.text repo) calls repo)
      (steady : Steady settings calls repo) : Throughout settings (Guarded settings) calls repo := by
    induction calls generalizing repo with
    | nil => trivial
    | cons call rest ih =>
      obtain ⟨tidy',regular'⟩ := @call_regular settings call repo tidy regular
      have follows := call_follows tidy regular clustered discloses.1
      exact ⟨named.guarded regular regular' clustered follows steady,
        ih tidy' regular' follows.clustered (named.after tidy regular regular' clustered follows steady) discloses.2 steady.2⟩
  refine run tidy_empty regular_empty (fun miner member => ?_) ⟨fun _ _ found => ?_,fun _ _ found => ?_⟩ discloses steady
  · cases member
  · cases found
  · cases found

theorem steady_of_components {settings : Settings} {calls : List Call} {repo : Repository}
    (same : Throughout settings (fun repo call => ∀ entry ∈ repo.submissions.entries, entry.2.pYesBps.isSome →
      componentOf settings.text (call.candidates settings repo) entry.2.minerAddress =
        componentOf settings.text repo.listMiners entry.2.minerAddress) calls repo) : Steady settings calls repo := by
  induction calls generalizing repo with
  | nil => trivial
  | cons call rest ih =>
    refine ⟨fun key submission found revealed _ member => ?_,ih same.2⟩
    rw [same.1 (key,submission) (OrdMap.get?_eq_some_iff.mp found) revealed]

def joining (address ip : String) : Call := (opening,.registerMiner address "0.4.0" (some ip) none)

def committingTo (address ip : String) : Call := (opening,.commitSubmission (fastTask .btc) address ("commit/" ++ address)
  (computeCommitHash plainSettings (fastTask .btc) address 6000 "nonce") (some ip) none)

def revealing (address ip : String) : Call :=
  (opening,.revealSubmission (fastTask .btc) address ("reveal/" ++ address) 6000 "nonce" (some ip) none)

def togetherCalls : List Call := [(opening,.reconcile (knowing [])),joining "claw1a" "10.0.0.1",joining "claw1b" "10.0.0.1",
  committingTo "claw1a" "10.0.0.1",committingTo "claw1b" "10.0.0.1",revealing "claw1a" "10.0.0.1"]

theorem reveals_guarded_together : Throughout plainSettings (Guarded plainSettings) (togetherCalls ++ [revealing "claw1b" "10.0.0.1"]) {} ∧
    (getSubmission (fastTask .btc) "claw1a" (finish plainSettings togetherCalls {})).any (·.pYesBps.isSome) := by
  refine ⟨reveals_guarded plainSettings _ ?_ (steady_of_components ?_),by decide +kernel⟩
  · refine ⟨trivial,trivial,trivial,?_,?_,?_,?_,trivial⟩
    all_goals
      intro _ miner _ hidden
      cases hidden
  · decide +kernel

def apartCalls : List Call := [(opening,.reconcile (knowing [])),joining "claw1a" "10.0.0.1",joining "claw1b" "10.0.0.2",
  committingTo "claw1a" "10.0.0.1",committingTo "claw1b" "10.0.0.2",revealing "claw1a" "10.0.0.1"]

theorem guarded_fails : ¬Guarded plainSettings (finish plainSettings apartCalls {}) (revealing "claw1b" "10.0.0.1") := by
  intro guarded
  let after := (revealing "claw1b" "10.0.0.1").after plainSettings (finish plainSettings apartCalls {})
  obtain ⟨-,regular⟩ := finish_regular plainSettings apartCalls
  have regular' : Regular after := (finish_regular plainSettings (apartCalls ++ [revealing "claw1b" "10.0.0.1"])).2
  have done : ((revealing "claw1b" "10.0.0.1").2.run plainSettings opening (finish plainSettings apartCalls {})).1.isOk := by
    decide +kernel
  -- the unit of both miners in the end
  have clustered : Clustered plainText after := by
    have clustered := finish_clustered plainSettings (apartCalls ++ [revealing "claw1b" "10.0.0.1"]) (by
      refine ⟨trivial,trivial,trivial,?_,?_,?_,?_,trivial⟩
      all_goals
        intro _ miner _ hidden
        cases hidden)
    exact clustered
  have component : componentOf plainText after.listMiners "claw1b" = ["claw1a","claw1b"] := by decide +kernel
  have unit := unit_of_sorted component (by decide) (by decide)
  -- what the first reveal has left
  have earlier : (getSubmission (fastTask .btc) "claw1a" (finish plainSettings apartCalls {})).any (·.pYesBps.isSome) := by
    decide +kernel
  have units : (finish plainSettings apartCalls {}).submissions.entries.all fun entry =>
      entry.2.economicUnitID = "eu:claw1a" ∨ entry.2.minerAddress = "claw1b" := by decide +kernel
  rcases revealSubmission_cases plainSettings opening (fastTask .btc) "claw1b" "reveal/claw1b" "nonce" 6000
    (some "10.0.0.1") none regular.toKeyed with ⟨name,submission,accepts⟩ | ⟨same,-⟩
  · obtain ⟨miner,held,named⟩ := Option.map_eq_some_iff.mp accepts.owned
    have stored : miner ∈ after.listMiners := List.mem_map_of_mem (OrdMap.get?_eq_some_iff.mp held)
    have address : miner.address = "claw1b" := (regular'.miners _ _ held).1
    have name' : name = "eu:claw1a|claw1b" := by
      have given := clustered miner stored
      rw [address,unit,named] at given
      rw [← Option.some.inj given]
      decide
    have key : submission.minerAddress = "claw1b" := by
      have filed := (regular.submissions _ _ accepts.stored).keyed
      simpa [Submission.key] using congrArg (fun key => (ofLex key).2) filed
    have linked : Linked plainText after.listMiners "claw1b" "claw1a" := by
      have member : "claw1a" ∈ componentOf plainText after.listMiners "claw1b" := by simp [component]
      exact (mem_componentOf.mp member).2.symm
    cases first : getSubmission (fastTask .btc) "claw1a" (finish plainSettings apartCalls {}) with
    | none =>
      rw [first] at earlier
      cases earlier
    | some submission' =>
      rw [first] at earlier
      have audit := guarded done _ (by
        change after.submissions.get? _ = _
        exact (congrArg (OrdMap.get? · _) accepts.written).trans (OrdMap.get?_insert_self _ _ _)) rfl "claw1a" (by decide) linked
        submission' first earlier
      unfold revealedRow at audit
      dsimp only at audit
      split_ifs at audit with taken
      · obtain ⟨other,listed,duplicate⟩ := List.any_eq_true.mp taken
        have inside := List.mem_of_mem_filter listed
        obtain ⟨entry,member,rfl⟩ := List.mem_map.mp inside
        have names := List.all_eq_true.mp units entry member
        simp only [duplicates,key,name',Bool.and_eq_true,decide_eq_true_eq] at duplicate names
        rcases names with own | own
        · exact absurd (duplicate.1.2.symm.trans own) (by decide)
        · exact duplicate.1.1 own
  · have revealed : (getSubmission (fastTask .btc) "claw1b" after).any (·.pYesBps.isSome) := by decide +kernel
    have unrevealed : (getSubmission (fastTask .btc) "claw1b" (finish plainSettings apartCalls {})).any (·.pYesBps.isSome) = false := by
      decide +kernel
    unfold getSubmission at revealed unrevealed
    have same' : after.submissions = (finish plainSettings apartCalls {}).submissions := same
    rw [same',unrevealed] at revealed
    cases revealed

end Clawchain.Mining
