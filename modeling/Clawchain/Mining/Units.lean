import Clawchain.Mining.Clusters

/-! Calls and units: the stored units are those of the stored signals, as long as no request hides a signal that links its
miner to others. -/
namespace Clawchain.Mining
open Clawchain.Lib Clawchain.Lib.Faulty

section Calls
variable {settings : Settings} {now : Time}

variable (settings now) in
theorem request_cases {deadline : Task → Int} {closed taskRunID address : String} {ip agent : Option String}
    (rest : Miner → Service Unit) (repo : Repository) {call : Service Unit}
    (made : call = do
      let _ ← getTask now deadline closed taskRunID
      requireMiner address
      let miner ← refreshMinerCluster settings address ip agent
      rest miner) :
    (getTask now deadline closed taskRunID repo).1.isOk = false ∧ (call repo).1.isOk = false ∧ (call repo).2 = repo ∨
      (getTask now deadline closed taskRunID repo).1.isOk = true ∧ ((call repo).1.isOk = false ∧ (call repo).2 = repo ∧
        (refreshMinerCluster settings address ip agent repo).2 = repo ∨ ∃ miner middle,
          refreshMinerCluster settings address ip agent repo = (.ok miner,middle) ∧ call repo = rest miner middle) := by
  subst made
  have same : (getTask now deadline closed taskRunID repo).2 = repo := by
    unfold getTask
    rw [read_run]
    cases repo.tasks.get? taskRunID with
    | none => rfl
    | some task =>
      dsimp only
      split_ifs <;> rfl
  cases asked : getTask now deadline closed taskRunID repo with
  | mk outcome middle =>
    obtain rfl : middle = repo := by rw [asked] at same; exact same
    cases outcome with
    | error failure =>
      rw [bind_of_error _ asked]
      exact .inl ⟨rfl,rfl,rfl⟩
    | ok task =>
      refine .inr ⟨rfl,?_⟩
      rw [bind_of_ok _ asked]
      cases held : middle.miners.get? address with
      | none =>
        have failed : requireMiner address middle = (.error (.value "miner not registered"),middle) := by
          unfold requireMiner
          rw [read_run,held]
          rfl
        rw [bind_of_error _ failed]
        refine .inl ⟨rfl,rfl,?_⟩
        unfold refreshMinerCluster
        rw [read_run,held]
        rfl
      | some current =>
        have done : requireMiner address middle = (.ok (),middle) := by
          unfold requireMiner
          rw [read_run,held]
          rfl
        rw [bind_of_ok _ done]
        obtain ⟨missing,-⟩ | ⟨miner,after,done,-,-,-⟩ := @refreshMinerCluster_cases settings address ip agent middle
        · rw [held] at missing
          cases missing
        · rw [bind_of_ok _ done]
          exact .inr ⟨miner,after,done,rfl⟩

theorem sameClusters_of_miners {before after : Repository} (same : after.miners = before.miners) : SameClusters before after := by
  unfold SameClusters Repository.listMiners
  rw [same]

theorem updateMiner_sameClusters {address : String} {update : Miner → Miner} (keeps : ∀ row, (update row).cluster = row.cluster)
    (repo : Repository) : SameClusters repo (repo.updateMiner address update) := by
  unfold SameClusters Repository.listMiners Repository.updateMiner OrdMap.modifyAt OrdMap.mapVals
  rw [List.map_map,List.map_map,List.map_map]
  apply List.map_congr_left
  intro entry _
  dsimp only [Function.comp_apply]
  split_ifs
  · exact keeps entry.2
  · rfl

theorem record_sameClusters {submission : Submission} {address : String} {update : Miner → Miner}
    (keeps : ∀ row, (update row).cluster = row.cluster) : Moves SameClusters (do
      .modify (·.saveSubmission submission)
      .modify (·.updateMiner address update) : Service Unit) := by
  apply Moves.bind SameClusters.trans
  · exact Moves.modify fun repo => sameClusters_of_miners (saveSubmission_miners submission repo)
  · exact fun _ => Moves.modify (updateMiner_sameClusters keeps)

variable (settings now) in
theorem commitSubmission_clusters (taskRunID address requestID commitHash : String) (ip agent : Option String)
    (repo : Repository) :
    SameClusters (if (getTask now (·.commitDeadline) "commit window closed" taskRunID repo).1.isOk then
      (refreshMinerCluster settings address ip agent repo).2 else repo)
        (commitSubmission settings now taskRunID address requestID commitHash ip agent repo).2 := by
  unfold commitSubmission
  rcases request_cases settings now _ repo rfl with ⟨known,-,same⟩ | ⟨known,⟨-,same,missing⟩ | ⟨miner,middle,refreshed,run⟩⟩
  · rw [known,same]
    exact .refl repo
  · rw [if_pos known,same,missing]
    exact .refl repo
  · rw [if_pos known,run,refreshed,read_run]
    dsimp only
    split_ifs
    · exact .refl middle
    · apply record_sameClusters
      exact fun _ => rfl

variable (settings now) in
theorem revealSubmission_clusters (taskRunID address requestID revealNonce : String) (pYesBps : Int) (ip agent : Option String)
    (repo : Repository) :
    SameClusters (if (getTask now (·.revealDeadline) "reveal window closed" taskRunID repo).1.isOk then
      (refreshMinerCluster settings address ip agent repo).2 else repo)
        (revealSubmission settings now taskRunID address requestID pYesBps revealNonce ip agent repo).2 := by
  unfold revealSubmission
  rcases request_cases settings now _ repo rfl with ⟨known,-,same⟩ | ⟨known,⟨-,same,missing⟩ | ⟨miner,middle,refreshed,run⟩⟩
  · rw [known,same]
    exact .refl repo
  · rw [if_pos known,same,missing]
    exact .refl repo
  · rw [if_pos known,run,refreshed,read_run]
    cases getSubmission taskRunID address middle with
    | none => exact .refl middle
    | some submission =>
      dsimp only
      split_ifs
      · exact .refl middle
      · exact .refl middle
      · exact .refl middle
      all_goals
        apply record_sameClusters
        exact fun _ => rfl

def Operation.ofMiner : Operation → Bool
  | .registerMiner .. | .commitSubmission .. | .revealSubmission .. => true
  | _ => false

/-- A request whose task can be asked for hides no address that links its miner. -/
def Call.Discloses (text : Text) (repo : Repository) (call : Call) : Prop :=
  match call.2 with
  | .commitSubmission taskRunID address _ _ ip agent =>
    (getTask call.1 (·.commitDeadline) "commit window closed" taskRunID repo).1.isOk → Mining.Discloses text address ip agent repo
  | .revealSubmission taskRunID address _ _ _ ip agent =>
    (getTask call.1 (·.revealDeadline) "reveal window closed" taskRunID repo).1.isOk → Mining.Discloses text address ip agent repo
  | _ => True

theorem Settling.sameClusters {outside : Outside} {before after : Repository}
    (step : Settling settings outside now before after) : SameClusters before after := by
  cases step with
  | create | wait | resolve | waitDaily | resolveDaily => exact .refl _
  | pend | settleDaily => exact sameClusters_of_miners (saveSubmission_miners _ before)
  | @settle task submission miner _ due known waiting owner =>
    rw [settleSubmission_run settings now outside.assess task submission miner waiting.revealed owner]
    have credited := @updateMiner_sameClusters submission.minerAddress
      (creditedRow settings now outside.assess task submission miner) fun _ => rfl
    refine .trans _ _ _ (sameClusters_of_miners ?_) (credited _)
    unfold keepHold
    split_ifs <;> exact saveSubmission_miners _ before
  | @release miner _ owner =>
    obtain ⟨entries,update,same,written⟩ := releaseMinerHolds_shape settings now miner before
    rw [written]
    exact .trans _ _ _ (sameClusters_of_miners rfl) (updateMiner_sameClusters same _)

theorem SameIntake.sameClusters {before after : Repository} (same : SameIntake before after) : SameClusters before after :=
  sameClusters_of_miners (congrArg Prod.fst same)

def servicing : Terms where
  allowed _ := True
  live _ _ := trivial
  trusted _ := True
  prepares := True
  admits operation := operation.ofMiner = false

theorem servicing_frames {R : Repository → Repository → Prop} (refl : ∀ repo, R repo repo)
    (trans : ∀ a b c, R a b → R b c → R a c)
    (settling : ∀ outside before after, Keyed before → Settling settings outside now before after → R before after)
    (stamped : ∀ id taskRunIDs before after, Stamped id taskRunIDs before after → R before after)
    (same : ∀ before after, SameIntake before after → R before after) {operation : Operation} {repo : Repository}
    (other : operation.ofMiner = false) (tidy : Tidy repo) (regular : Regular repo) :
    R repo (operation.run settings now repo).2 := by
  have path : Path settings servicing now repo (operation.run settings now repo).2 :=
    run_drives ⟨other,fun _ _ => rfl⟩ (operation.meets_any repo) tidy
  have along : Regular (operation.run settings now repo).2 ∧ R repo (operation.run settings now repo).2 := by
    generalize (operation.run settings now repo).2 = last at path
    induction path with
    | refl => exact ⟨regular,refl repo⟩
    | @tail middle last _ step ih =>
      have quiet {last : Repository} (intake : SameIntake middle last) : Regular last ∧ R repo last :=
        ⟨intake.regular ih.1,trans _ _ _ ih.2 (same _ _ intake)⟩
      cases step with
      | @plain operation _ plain admitted =>
        cases operation with
        | registerMiner | commitSubmission | revealSubmission => cases admitted
        | reconcile outside =>
          exact @reconcile_keeps (R repo) settings outside now
            (fun _ _ keyed holds step => trans _ _ _ holds (settling outside _ _ keyed step))
            (fun id tasks _ _ _ holds moved => trans _ _ _ holds (stamped id tasks _ _ moved))
            (fun _ _ intake holds => trans _ _ _ holds (same _ _ intake)) _ ih.1 ih.2
        | buildPokerMttRewardWindow build => exact quiet (tryPokerMttRewardWindow_sameIntake build middle)
        | _ => cases plain
      | recount | rearchive | fix | enlist | broadcast | judge | anchor | fail => exact quiet (.refl middle)
  exact along.2

variable (settings now) in
theorem servicing_sameClusters {operation : Operation} {repo : Repository} (other : operation.ofMiner = false)
    (tidy : Tidy repo) (regular : Regular repo) : SameClusters repo (operation.run settings now repo).2 :=
  servicing_frames SameClusters.refl SameClusters.trans (fun _ _ _ _ step => step.sameClusters)
    (fun _ _ _ _ stamped => sameClusters_of_miners stamped.miners) (fun _ _ same => same.sameClusters) other tidy regular

def Call.candidates (settings : Settings) (repo : Repository) (call : Call) : List Miner :=
  match call.2 with
  | .registerMiner address version ip agent =>
    if (registerMiner settings call.1 address version ip agent repo).1.isOk then
      repo.listMiners ++ [newMiner settings call.1 address ip agent]
    else repo.listMiners
  | .commitSubmission taskRunID address _ _ ip agent =>
    if (getTask call.1 (·.commitDeadline) "commit window closed" taskRunID repo).1.isOk then
      requestCandidates settings.text address ip agent repo
    else repo.listMiners
  | .revealSubmission taskRunID address _ _ _ ip agent =>
    if (getTask call.1 (·.revealDeadline) "reveal window closed" taskRunID repo).1.isOk then
      requestCandidates settings.text address ip agent repo
    else repo.listMiners
  | _ => repo.listMiners

theorem call_follows {call : Call} {repo : Repository} (tidy : Tidy repo) (regular : Regular repo)
    (clustered : Clustered settings.text repo) (discloses : call.Discloses settings.text repo) :
    Follows settings.text (call.candidates settings repo) (call.after settings repo) := by
  obtain ⟨now,operation⟩ := call
  cases other : operation.ofMiner with
  | true =>
    cases operation with
    | registerMiner address version ip agent =>
      change Follows settings.text (if (registerMiner settings now address version ip agent repo).1.isOk then _ else _)
        (registerMiner settings now address version ip agent repo).2
      obtain ⟨done,follows⟩ | ⟨failed,same⟩ := registerMiner_follows settings now address version ip agent regular.toKeyed
      · rw [if_pos done]
        exact follows
      · rw [failed,same]
        exact clustered.follows
    | commitSubmission task address request commit ip agent =>
      refine Follows.ofSame ?_ (commitSubmission_clusters settings now task address request commit ip agent repo)
      change Follows settings.text (if (getTask now (·.commitDeadline) "commit window closed" task repo).1.isOk then _ else _) _
      split_ifs with known
      · exact refreshMinerCluster_follows regular.toKeyed clustered (discloses known)
      · exact clustered.follows
    | revealSubmission task address request bps nonce ip agent =>
      refine Follows.ofSame ?_ (revealSubmission_clusters settings now task address request nonce bps ip agent repo)
      change Follows settings.text (if (getTask now (·.revealDeadline) "reveal window closed" task repo).1.isOk then _ else _) _
      split_ifs with known
      · exact refreshMinerCluster_follows regular.toKeyed clustered (discloses known)
      · exact clustered.follows
    | _ => cases other
  | false =>
    have follows := clustered.follows.ofSame (servicing_sameClusters settings now other tidy regular)
    cases operation with
    | registerMiner | commitSubmission | revealSubmission => cases other
    | _ => exact follows

def Call.regroups (settings : Settings) (repo : Repository) (call : Call) : Option (List Miner) :=
  match call.2 with
  | .registerMiner address version ip agent =>
    if (registerMiner settings call.1 address version ip agent repo).1.isOk then
      some (repo.listMiners ++ [newMiner settings call.1 address ip agent])
    else none
  | .commitSubmission taskRunID address _ _ ip agent =>
    if (getTask call.1 (·.commitDeadline) "commit window closed" taskRunID repo).1.isOk then
      refreshCandidates settings address ip agent repo
    else none
  | .revealSubmission taskRunID address _ _ _ ip agent =>
    if (getTask call.1 (·.revealDeadline) "reveal window closed" taskRunID repo).1.isOk then
      refreshCandidates settings address ip agent repo
    else none
  | _ => none

theorem SameClusters.row {before after : Repository} (same : SameClusters before after) (keyed : Keyed before)
    (keyed' : Keyed after) {address : String} {new : Miner} (found : after.miners.get? address = some new) :
    ∃ old, before.miners.get? address = some old ∧ new.economicUnitID = old.economicUnitID := by
  have own : new.address = address := (keyed'.miners _ _ found).1
  have listed : new.cluster ∈ before.listMiners.map Miner.cluster :=
    same ▸ List.mem_map_of_mem ((mem_listMiners keyed').mpr (own.symm ▸ found))
  obtain ⟨old,member,equal⟩ := List.mem_map.mp listed
  simp only [Miner.cluster,Prod.mk.injEq] at equal
  have held := (mem_listMiners keyed).mp member
  rw [equal.1,own] at held
  exact ⟨old,held,equal.2.1.symm⟩

def unitOf (text : Text) (candidates : Option (List Miner)) (miner : Miner) : String :=
  match candidates with
  | none => miner.economicUnitID
  | some candidates => (computeEconomicUnitComponents text candidates miner.address).getD miner.economicUnitID

theorem refreshMinerCluster_unit {address : String} {ip agent : Option String} {repo : Repository} (keyed : Keyed repo)
    {other : String} {new : Miner}
    (found : (refreshMinerCluster settings address ip agent repo).2.miners.get? other = some new) :
    ∃ old, repo.miners.get? other = some old ∧
      new.economicUnitID = unitOf settings.text (refreshCandidates settings address ip agent repo) old := by
  rw [refreshMinerCluster_run keyed] at found
  cases asked : refreshCandidates settings address ip agent repo with
  | none =>
    rw [asked] at found
    exact ⟨new,found,rfl⟩
  | some candidates =>
    rw [asked] at found
    have given : candidates = requestCandidates settings.text address ip agent repo := by
      unfold refreshCandidates at asked
      obtain ⟨current,-,asked⟩ := Option.bind_eq_some_iff.mp asked
      dsimp only at asked
      split_ifs at asked
      exact (Option.some.inj asked).symm
    change (repo.miners.mapVals _).get? other = some new at found
    rw [OrdMap.get?_mapVals] at found
    obtain ⟨old,held,rfl⟩ := Option.map_eq_some_iff.mp found
    refine ⟨old,held,?_⟩
    rw [given]
    rfl

theorem refreshMinerCluster_keyed {address : String} {ip agent : Option String} {repo : Repository} (keyed : Keyed repo) :
    Keyed (refreshMinerCluster settings address ip agent repo).2 := by
  obtain ⟨-,failed⟩ | ⟨miner,after,done,same | step,-,-⟩ := @refreshMinerCluster_cases settings address ip agent repo
  · rw [failed]
    exact keyed
  · rw [done]
    exact same ▸ keyed
  · rw [done]
    exact step.keyed keyed

theorem registerMiner_unit {address version : String} {ip agent : Option String} {repo : Repository}
    {other : String} {old new : Miner} (held : repo.miners.get? other = some old)
    (found : (registerMiner settings now address version ip agent repo).2.miners.get? other = some new) :
    new.economicUnitID = unitOf settings.text
      (if (registerMiner settings now address version ip agent repo).1.isOk then
        some (repo.listMiners ++ [newMiner settings now address ip agent]) else none) old := by
  rcases registerMiner_cases settings now address version ip agent repo with ⟨failure,failed⟩ | ⟨fresh,-,done⟩
  · rw [failed] at found ⊢
    rw [held] at found
    cases found
    rfl
  · have differs : other ≠ address := by
      rintro rfl
      rw [held] at fresh
      cases fresh
    rw [done] at found ⊢
    dsimp only at found
    rw [OrdMap.get?_insert,if_neg differs,get?_renameUnits,held] at found
    cases found
    rfl

end Calls

theorem call_regular {settings : Settings} {call : Call} {repo : Repository} (tidy : Tidy repo) (regular : Regular repo) :
    Tidy (call.after settings repo) ∧ Regular (call.after settings repo) := by
  have kept : Kept settings call.1 fun _ => True :=
    ⟨fun _ _ _ _ _ => trivial,fun _ _ _ _ _ _ => trivial,fun _ _ _ _ _ _ _ => trivial,fun _ _ _ _ => trivial⟩
  obtain ⟨tidy',regular',-⟩ := @call_keeps settings call.1 _ kept call.2 repo tidy regular trivial
  exact ⟨tidy',regular'⟩

theorem finish_regular (settings : Settings) (calls : List Call) :
    Tidy (finish settings calls {}) ∧ Regular (finish settings calls {}) := by
  have run {calls : List Call} {repo : Repository} (tidy : Tidy repo) (regular : Regular repo) :
      Tidy (finish settings calls repo) ∧ Regular (finish settings calls repo) := by
    induction calls generalizing repo with
    | nil => exact ⟨tidy,regular⟩
    | cons call rest ih =>
      obtain ⟨tidy',regular'⟩ := @call_regular settings call repo tidy regular
      exact ih tidy' regular'
  exact run tidy_empty regular_empty

theorem call_unit {settings : Settings} {call : Call} {repo : Repository} (tidy : Tidy repo) (regular : Regular repo)
    {address : String} {old new : Miner} (held : repo.miners.get? address = some old)
    (found : (call.after settings repo).miners.get? address = some new) :
    new.economicUnitID = unitOf settings.text (call.regroups settings repo) old := by
  have keyed' := (@call_regular settings call repo tidy regular).2.toKeyed
  obtain ⟨now,operation⟩ := call
  have unchanged {middle : Repository} (keyed : Keyed middle)
      (same : SameClusters middle (Call.after settings (now,operation) repo)) {candidates : Option (List Miner)}
      (units : ∀ row, middle.miners.get? address = some row → row.economicUnitID = unitOf settings.text candidates old) :
      new.economicUnitID = unitOf settings.text candidates old := by
    obtain ⟨row,stored,unit⟩ := same.row keyed keyed' found
    exact unit.trans (units row stored)
  have itself : ∀ row, repo.miners.get? address = some row → row.economicUnitID = unitOf settings.text none old := by
    intro row stored
    rw [held] at stored
    cases stored
    rfl
  have refreshed {minerAddress : String} {ip agent : Option String} {known : Bool} (same : SameClusters
      (if known then (refreshMinerCluster settings minerAddress ip agent repo).2 else repo) (Call.after settings (now,operation) repo)) :
      new.economicUnitID = unitOf settings.text
        (if known then refreshCandidates settings minerAddress ip agent repo else none) old := by
    cases known with
    | false => exact unchanged regular.toKeyed same itself
    | true =>
      refine unchanged (refreshMinerCluster_keyed regular.toKeyed) same fun row stored => ?_
      obtain ⟨old',held',unit⟩ := refreshMinerCluster_unit regular.toKeyed stored
      rw [held] at held'
      cases held'
      exact unit
  cases other : operation.ofMiner with
  | true =>
    cases operation with
    | registerMiner minerAddress version ip agent => exact registerMiner_unit held found
    | commitSubmission task minerAddress request commit ip agent =>
      exact refreshed (commitSubmission_clusters settings now task minerAddress request commit ip agent repo)
    | revealSubmission task minerAddress request bps nonce ip agent =>
      exact refreshed (revealSubmission_clusters settings now task minerAddress request nonce bps ip agent repo)
    | _ => cases other
  | false =>
    have kept := unchanged regular.toKeyed (servicing_sameClusters settings now other tidy regular) itself
    cases operation with
    | registerMiner | commitSubmission | revealSubmission => cases other
    | _ => exact kept

/-- The stored units are those of the stored signals, as long as no request hides an address that links its miner. -/
theorem finish_clustered (settings : Settings) (calls : List Call)
    (discloses : Throughout settings (fun repo call => call.Discloses settings.text repo) calls {}) :
    Clustered settings.text (finish settings calls {}) := by
  have run {calls : List Call} {repo : Repository} (tidy : Tidy repo) (regular : Regular repo)
      (clustered : Clustered settings.text repo)
      (discloses : Throughout settings (fun repo call => call.Discloses settings.text repo) calls repo) :
      Clustered settings.text (finish settings calls repo) := by
    induction calls generalizing repo with
    | nil => exact clustered
    | cons call rest ih =>
      obtain ⟨tidy',regular'⟩ := @call_regular settings call repo tidy regular
      exact ih tidy' regular' (call_follows tidy regular clustered discloses.1).clustered discloses.2
  refine run tidy_empty regular_empty (fun miner member => ?_) discloses
  cases member

def sharedCalls : List Call :=
  [(opening,.reconcile (knowing [])),(opening,.registerMiner "claw1a" "0.4.0" (some "10.0.0.1") none),
    (opening,.registerMiner "claw1b" "0.4.0" (some "10.0.0.1") none)]

def committing (ip : String) : Call := (opening,.commitSubmission (fastTask .btc) "claw1a" "request" "hash" (some ip) none)

def clusterOf (repo : Repository) (address : String) : Option (String × String × Option String × Option String) :=
  (repo.miners.get? address).map Miner.cluster

theorem finish_clustered_moved : Clustered plainText (finish plainSettings (sharedCalls ++ [committing "10.0.0.2"]) {}) ∧
    clusterOf (finish plainSettings (sharedCalls ++ [committing "10.0.0.2"]) {}) "claw1a" =
      some ("claw1a","eu:claw1a",some "10.0.0.2",none) := by
  refine ⟨finish_clustered plainSettings _ ⟨trivial,trivial,trivial,fun _ miner _ hidden => ?_,trivial⟩,by decide +kernel⟩
  cases hidden

theorem Clustered.same_unit {text : Text} {repo : Repository} (clustered : Clustered text repo) {one two : Miner}
    (held : one ∈ repo.listMiners) (held' : two ∈ repo.listMiners)
    (linked : Linked text repo.listMiners one.address two.address) : one.economicUnitID = two.economicUnitID := by
  have same := unit_linked (List.mem_map_of_mem held) (List.mem_map_of_mem held') linked
  rw [clustered one held,clustered two held'] at same
  exact Option.some.inj same

/-- One of them commits from the machine itself: it gets a unit of its own, and its row still has the address. -/
theorem clustered_fails : ((committing "localhost").2.run plainSettings opening (finish plainSettings sharedCalls {})).1.isOk ∧
    ¬Clustered plainText (finish plainSettings (sharedCalls ++ [committing "localhost"]) {}) := by
  have done : ((committing "localhost").2.run plainSettings opening (finish plainSettings sharedCalls {})).1.isOk := by
    decide +kernel
  have first : clusterOf (finish plainSettings (sharedCalls ++ [committing "localhost"]) {}) "claw1a" =
      some ("claw1a","eu:claw1a",some "10.0.0.1",none) := by decide +kernel
  have second : clusterOf (finish plainSettings (sharedCalls ++ [committing "localhost"]) {}) "claw1b" =
      some ("claw1b","eu:claw1b",some "10.0.0.1",none) := by decide +kernel
  refine ⟨done,fun clustered => ?_⟩
  obtain ⟨one,held,cluster⟩ := Option.map_eq_some_iff.mp first
  obtain ⟨two,held',cluster'⟩ := Option.map_eq_some_iff.mp second
  simp only [Miner.cluster,Prod.mk.injEq] at cluster cluster'
  have member := List.mem_map_of_mem (f := Prod.snd) (OrdMap.get?_eq_some_iff.mp held)
  have member' := List.mem_map_of_mem (f := Prod.snd) (OrdMap.get?_eq_some_iff.mp held')
  have shared : "ip:10.0.0.1" ∈ one.evidences plainText ∧ "ip:10.0.0.1" ∈ two.evidences plainText := by
    unfold Miner.evidences
    rw [cluster.2.2.1,cluster'.2.2.1]
    exact ⟨List.mem_append_left _ (by decide),List.mem_append_left _ (by decide)⟩
  have linked : Linked plainText _ one.address two.address :=
    .rel _ _ ⟨one,member,two,member',rfl,rfl,_,shared.1,shared.2⟩
  have same := clustered.same_unit member member' linked
  rw [cluster.2.1,cluster'.2.1] at same
  exact absurd same (by decide)

end Clawchain.Mining
