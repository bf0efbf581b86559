import Clawchain.Mining.Taking

/-! The ledger of rewards: what a miner has and what is held back is what its settled submissions earned, and the holds
add up to what is held back. -/
namespace Clawchain.Mining
open Clawchain.Lib Clawchain.Lib.Faulty

def Submission.earned (submission : Submission) : Int := if submission.state = .resolved then submission.rewardAmount else 0

def resolvedRewards (repo : Repository) (address : String) : Int := repo.submissions.sumBy fun _ submission =>
  if submission.minerAddress = address then submission.earned else 0

def heldAmounts (repo : Repository) (address : String) : Int := repo.holdEntries.sumBy fun _ hold =>
  if hold.minerAddress = address then (hold.amountHeld : Int) - hold.amountReleased else 0

/-- A hold of a resolved submission, due by now, and released as a whole or not at all. -/
structure HoldEntry.Sound (now : Time) (repo : Repository) (id : String) (hold : HoldEntry) : Prop where
  named : hold.id = id
  of : ∃ key submission, repo.submissions.get? key = some submission ∧ id = "hold:" ++ submission.id ∧
    hold.minerAddress = submission.minerAddress ∧ submission.state = .resolved
  amount : hold.state = .held ∧ hold.amountReleased = 0 ∧ 0 < hold.amountHeld ∧ hold.releaseAfter ≤ isoformatZ now ∨
    hold.state = .released ∧ hold.amountReleased = hold.amountHeld

structure Ledger (now : Time) (repo : Repository) : Prop where
  credited : ∀ address miner, repo.miners.get? address = some miner →
    (miner.totalRewards + miner.heldRewards : Int) = resolvedRewards repo address
  held : ∀ address miner, repo.miners.get? address = some miner → (miner.heldRewards : Int) = heldAmounts repo address
  holds : ∀ id hold, repo.holdEntries.get? id = some hold → hold.Sound now repo id

theorem ledger_empty (now : Time) : Ledger now {} where
  credited _ _ found := by cases found
  held _ _ found := by cases found
  holds _ _ found := by cases found

theorem Ledger.later {now later : Time} {repo : Repository} (ledger : Ledger now repo) (passed : now ≤ later) :
    Ledger later repo := by
  refine ⟨ledger.credited,ledger.held,fun id hold found => ?_⟩
  have sound := ledger.holds id hold found
  have stored : isoformatZ now ≤ isoformatZ later := Int.ediv_le_ediv (by decide) passed
  refine ⟨sound.named,sound.of,?_⟩
  rcases sound.amount with ⟨state,released,amount,due⟩ | ended
  · exact .inl ⟨state,released,amount,due.trans stored⟩
  · exact .inr ended

theorem resolvedRewards_unknown {repo : Repository} (keyed : Keyed repo) {address : String}
    (unknown : repo.miners.get? address = none) : resolvedRewards repo address = 0 := by
  unfold resolvedRewards
  rw [OrdMap.sumBy_congr (g := fun _ _ => 0)]
  · simp [OrdMap.sumBy]
  · intro key submission found
    rw [if_neg]
    rintro rfl
    have miner := (keyed.submissions key submission found).miner
    simp [unknown] at miner

theorem heldAmounts_unknown {now : Time} {repo : Repository} (keyed : Keyed repo) (ledger : Ledger now repo)
    {address : String} (unknown : repo.miners.get? address = none) : heldAmounts repo address = 0 := by
  unfold heldAmounts
  rw [OrdMap.sumBy_congr (g := fun _ _ => 0)]
  · simp [OrdMap.sumBy]
  · intro id hold found
    rw [if_neg]
    rintro rfl
    obtain ⟨key,submission,stored,-,own,-⟩ := (ledger.holds id hold found).of
    have miner := (keyed.submissions key submission stored).miner
    rw [← own,unknown] at miner
    cases miner

structure SameMoney (before after : Repository) : Prop where
  holdEntries : after.holdEntries = before.holdEntries
  rewards : ∀ address, resolvedRewards after address = resolvedRewards before address
  resolved : ∀ key submission, before.submissions.get? key = some submission → submission.state = .resolved →
    ∃ last, after.submissions.get? key = some last ∧ last.id = submission.id ∧
      last.minerAddress = submission.minerAddress ∧ last.state = .resolved
  miners : ∀ address miner, after.miners.get? address = some miner →
    (∃ old, before.miners.get? address = some old ∧ miner.totalRewards = old.totalRewards ∧
      miner.heldRewards = old.heldRewards) ∨
    before.miners.get? address = none ∧ miner.totalRewards = 0 ∧ miner.heldRewards = 0

theorem SameMoney.ledger {now : Time} {before after : Repository} (same : SameMoney before after) (keyed : Keyed before)
    (ledger : Ledger now before) : Ledger now after := by
  have heldSame (address : String) : heldAmounts after address = heldAmounts before address := by
    unfold heldAmounts
    rw [same.holdEntries]
  refine ⟨fun address miner found => ?_,fun address miner found => ?_,fun id hold found => ?_⟩
  · rw [same.rewards]
    rcases same.miners address miner found with ⟨old,held,total,rest⟩ | ⟨unknown,total,rest⟩
    · rw [total,rest]
      exact ledger.credited address old held
    · rw [total,rest,resolvedRewards_unknown keyed unknown]
      rfl
  · rw [heldSame]
    rcases same.miners address miner found with ⟨old,held,-,rest⟩ | ⟨unknown,-,rest⟩
    · rw [rest]
      exact ledger.held address old held
    · rw [rest,heldAmounts_unknown keyed ledger unknown]
      rfl
  · have sound := ledger.holds id hold (same.holdEntries ▸ found)
    obtain ⟨key,submission,stored,named,own,settled⟩ := sound.of
    obtain ⟨last,held,sameID,sameMiner,settled'⟩ := same.resolved key submission stored settled
    exact ⟨sound.named,⟨key,last,held,sameID ▸ named,sameMiner ▸ own,settled'⟩,sound.amount⟩

theorem saveSubmission_sameMoney {repo : Repository} (keyed : Keyed repo) {submission : Submission}
    (again : ∀ old, repo.submissions.get? submission.key = some old → submission.earned = old.earned ∧
      (old.state = .resolved → submission.id = old.id ∧ submission.state = .resolved))
    (fresh : repo.submissions.get? submission.key = none → submission.earned = 0) :
    SameMoney repo (repo.saveSubmission submission) := by
  have miners : ∀ address miner, (repo.saveSubmission submission).miners.get? address = some miner →
      (∃ old, repo.miners.get? address = some old ∧ miner.totalRewards = old.totalRewards ∧
        miner.heldRewards = old.heldRewards) ∨
      repo.miners.get? address = none ∧ miner.totalRewards = 0 ∧ miner.heldRewards = 0 := by
    rw [saveSubmission_miners]
    exact fun address miner found => .inl ⟨miner,found,rfl,rfl⟩
  rcases saveSubmission_cases submission repo with ⟨same,-⟩ | ⟨-,written,-⟩
  · rw [same] at miners ⊢
    exact ⟨rfl,fun _ => rfl,fun key old found settled => ⟨old,found,rfl,rfl,settled⟩,miners⟩
  · refine ⟨saveSubmission_holdEntries submission repo,fun address => ?_,fun key old found settled => ?_,miners⟩
    · unfold resolvedRewards
      rw [written,OrdMap.sumBy_insert]
      cases found : repo.submissions.get? submission.key with
      | none =>
        rw [fresh found]
        simp
      | some old =>
        have own : submission.minerAddress = old.minerAddress :=
          (congrArg (fun key => (ofLex key).2) (keyed.submissions _ old found).keyed).symm
        rw [(again old found).1,own]
        simp
    · rw [written,OrdMap.get?_insert]
      split_ifs with own
      · subst own
        have sameMiner : submission.minerAddress = old.minerAddress :=
          (congrArg (fun key => (ofLex key).2) (keyed.submissions _ old found).keyed).symm
        obtain ⟨sameID,settled'⟩ := (again old found).2 settled
        exact ⟨submission,rfl,sameID,sameMiner,settled'⟩
      · exact ⟨old,found,rfl,rfl,settled⟩

theorem sameMoney_of_miners {before after : Repository} (submissions : after.submissions = before.submissions)
    (holds : after.holdEntries = before.holdEntries)
    (miners : ∀ address miner, after.miners.get? address = some miner →
      (∃ old, before.miners.get? address = some old ∧ miner.totalRewards = old.totalRewards ∧
        miner.heldRewards = old.heldRewards) ∨
      before.miners.get? address = none ∧ miner.totalRewards = 0 ∧ miner.heldRewards = 0) : SameMoney before after := by
  refine ⟨holds,fun address => ?_,fun key old found settled => ⟨old,submissions ▸ found,rfl,rfl,settled⟩,miners⟩
  unfold resolvedRewards
  rw [submissions]

theorem Taking.sameMoney {before after : Repository} (step : Taking before after) (keyed : Keyed before) :
    SameMoney before after := by
  cases step with
  | @register miner units _ fresh named unpaid =>
    refine sameMoney_of_miners (by rfl) (by rfl) ?_
    intro address row found
    dsimp only at found
    rw [OrdMap.get?_insert] at found
    split_ifs at found with own
    · cases found
      exact .inr ⟨own ▸ fresh,unpaid.1,unpaid.2⟩
    · rw [get?_renameUnits] at found
      obtain ⟨old,held,rfl⟩ := Option.map_eq_some_iff.mp found
      exact .inl ⟨old,held,rfl,rfl⟩
  | refresh =>
    refine sameMoney_of_miners (by rfl) (by rfl) ?_
    intro address row found
    obtain ⟨middle,held,rfl⟩ := OrdMap.of_get?_modifyAt found
    rw [get?_renameUnits] at held
    obtain ⟨old,stored,rfl⟩ := Option.map_eq_some_iff.mp held
    refine .inl ⟨old,stored,?_⟩
    split_ifs <;> exact ⟨rfl,rfl⟩
  | count =>
    refine sameMoney_of_miners (by rfl) (by rfl) ?_
    intro address row found
    obtain ⟨old,held,rfl⟩ := OrdMap.of_get?_modifyAt found
    refine .inl ⟨old,held,?_⟩
    split_ifs <;> exact ⟨rfl,rfl⟩
  | @commit submission unit request commitHash _ earlier task miner =>
    apply saveSubmission_sameMoney keyed
    · intro old found
      rcases earlier with stored | ⟨unknown,-⟩
      · cases stored.symm.trans found
        exact ⟨rfl,fun settled => ⟨rfl,settled⟩⟩
      · cases unknown.symm.trans found
    · intro unknown
      rcases earlier with stored | ⟨-,taskRunID,minerAddress,unit,rfl⟩
      · cases unknown.symm.trans stored
      · rfl
  | @reveal submission unit request bps eligibility _ stored unrevealed =>
    have fits := (keyed.submissions _ _ stored).toFits
    have unsettled : submission.state ≠ .resolved := by
      intro settled
      have revealed := fits.revealed settled
      simp [unrevealed] at revealed
    apply saveSubmission_sameMoney keyed
    · intro old found
      cases stored.symm.trans found
      refine ⟨?_,fun settled => absurd settled unsettled⟩
      simp [Submission.earned,unsettled]
    · exact fun _ => rfl

theorem Stamped.sameMoney {id : String} {taskRunIDs : List String} {before after : Repository}
    (stamped : Stamped id taskRunIDs before after) : SameMoney before after := by
  have written : after.submissions = before.submissions.mapVals fun _ => stampSubmission id taskRunIDs := by
    apply OrdMap.ext_get?
    intro key
    rw [stamped.submissions,OrdMap.get?_mapVals]
  have kept (submission : Submission) : (stampSubmission id taskRunIDs submission).id = submission.id ∧
      (stampSubmission id taskRunIDs submission).minerAddress = submission.minerAddress ∧
      (stampSubmission id taskRunIDs submission).state = submission.state ∧
      (stampSubmission id taskRunIDs submission).earned = submission.earned := by
    unfold stampSubmission
    split_ifs <;> exact ⟨rfl,rfl,rfl,rfl⟩
  refine ⟨stamped.holdEntries,fun address => ?_,fun key submission found settled => ?_,?_⟩
  · unfold resolvedRewards
    rw [written,OrdMap.sumBy_mapVals]
    apply OrdMap.sumBy_congr
    intro key submission _
    rw [(kept submission).2.1,(kept submission).2.2.2]
  · refine ⟨stampSubmission id taskRunIDs submission,?_,(kept submission).1,(kept submission).2.1,?_⟩
    · rw [stamped.submissions,found]
      rfl
    · rw [(kept submission).2.2.1,settled]
  · rw [stamped.miners]
    exact fun address miner found => .inl ⟨miner,found,rfl,rfl⟩

theorem waiting_unheld {now : Time} {repo : Repository} {task : Task} {submission : Submission} (keyed : Keyed repo)
    (ledger : Ledger now repo) (waiting : Waiting repo task submission) :
    repo.holdEntries.get? ("hold:" ++ submission.id) = none := by
  rw [Option.eq_none_iff_forall_ne_some]
  intro hold found
  obtain ⟨key,other,stored,named,-,settled⟩ := (ledger.holds _ hold found).of
  have filed := keyed.submissions _ submission waiting.stored
  have filed' := keyed.submissions key other stored
  have colonless {submission : Submission} (fits : submission.Fits repo) : ':' ∉ submission.taskRunID.toList := by
    obtain ⟨task,held⟩ := Option.isSome_iff_exists.mp fits.task
    exact (keyed.tasks _ task held).2
  have sameID : submission.id = other.id := by
    apply String.toList_injective
    simpa using congrArg String.toList named
  rw [filed.named,filed'.named] at sameID
  obtain ⟨sameTask,sameMiner⟩ := submissionID_injective (colonless filed.toFits) (colonless filed'.toFits) sameID
  have sameKey : submission.key = key := by
    rw [← filed'.keyed,Submission.key,Submission.key,sameTask,sameMiner]
  rw [← sameKey] at stored
  cases waiting.stored.symm.trans stored
  exact waiting.unsettled settled

section Settle
variable {settings : Settings} {now : Time} {assess : Task → Submission → Assessment} {repo after : Repository}
  {task : Task} {submission : Submission} {miner : Miner}

theorem settled_rewards {row : Submission} (stored : repo.submissions.get? submission.key = some submission)
    (unsettled : submission.state ≠ .resolved) (own : row.minerAddress = submission.minerAddress)
    (submissions : after.submissions = repo.submissions.insert submission.key row) (address : String) :
    resolvedRewards after address = resolvedRewards repo address +
      if submission.minerAddress = address then row.earned else 0 := by
  have before : submission.earned = 0 := if_neg unsettled
  unfold resolvedRewards
  rw [submissions,OrdMap.sumBy_insert_of_get? _ _ _ stored,own,before,ite_self,sub_zero]

theorem settled_holds {id : String} {hold : HoldEntry} {part : Nat} (fresh : repo.holdEntries.get? id = none)
    (amount : hold.amountHeld = part ∧ hold.amountReleased = 0)
    (holds : after.holdEntries = if 0 < part then repo.holdEntries.insert id hold else repo.holdEntries)
    (address : String) : heldAmounts after address = heldAmounts repo address +
      if hold.minerAddress = address then (part : Int) else 0 := by
  unfold heldAmounts
  rw [holds]
  by_cases positive : 0 < part
  · rw [if_pos positive,OrdMap.sumBy_insert,fresh,amount.1,amount.2]
    simp
  · have none : part = 0 := by omega
    rw [if_neg positive,none]
    simp

theorem settleSubmission_ledger (keyed : Keyed repo) (ledger : Ledger now repo) (waiting : Waiting repo task submission)
    (owner : repo.miners.get? submission.minerAddress = some miner)
    (run : settleSubmission settings now assess task submission repo = (.ok (),after)) : Ledger now after := by
  obtain ⟨-,submissions,miners,holds⟩ := settleSubmission_rows keyed waiting owner run
  have fresh := waiting_unheld keyed ledger waiting
  have earned := settled_rewards waiting.stored waiting.unsettled (by rfl) submissions
  have heldBack := settled_holds fresh ⟨by rfl,by rfl⟩ holds
  have parts := parts_add settings now assess task submission miner
  have origin {address : String} {row : Miner} (found : after.miners.get? address = some row) : ∃ old,
      repo.miners.get? address = some old ∧
      row = if address = submission.minerAddress then creditedRow settings now assess task submission miner old else old := by
    rw [miners] at found
    exact OrdMap.of_get?_modifyAt found
  refine ⟨fun address row found => ?_,fun address row found => ?_,fun id hold found => ?_⟩
  · obtain ⟨old,held,rfl⟩ := origin found
    have before := ledger.credited address old held
    rw [earned]
    change _ = _ + if submission.minerAddress = address then (rewardOf assess task submission : Int) else 0
    split_ifs with own foreign foreign
    · simp only [creditedRow]
      push_cast
      omega
    · exact absurd own.symm foreign
    · exact absurd foreign.symm own
    · omega
  · obtain ⟨old,held,rfl⟩ := origin found
    have before := ledger.held address old held
    rw [heldBack]
    change _ = _ + if submission.minerAddress = address then _ else _
    split_ifs with own foreign foreign
    · simp only [creditedRow]
      push_cast
      omega
    · exact absurd own.symm foreign
    · exact absurd foreign.symm own
    · omega
  · have kept {id : String} {hold : HoldEntry} (old : repo.holdEntries.get? id = some hold) : hold.Sound now after id := by
      have sound := ledger.holds id hold old
      obtain ⟨key,other,stored,named,own,settled⟩ := sound.of
      refine ⟨sound.named,⟨key,other,?_,named,own,settled⟩,sound.amount⟩
      rw [submissions,OrdMap.get?_insert_of_ne]
      · exact stored
      · rintro rfl
        cases waiting.stored.symm.trans stored
        exact waiting.unsettled settled
    rw [holds] at found
    split_ifs at found with positive
    · rw [OrdMap.get?_insert] at found
      split_ifs at found with own
      · cases found
        refine ⟨own.symm,⟨submission.key,settledRow settings now assess task submission miner,?_,own,rfl,rfl⟩,.inl ⟨rfl,rfl,positive,le_rfl⟩⟩
        rw [submissions]
        exact OrdMap.get?_insert_self _ _ _
      · exact kept found
    · exact kept found

end Settle

def HoldEntry.release (hold : HoldEntry) : HoldEntry := { hold with amountReleased := hold.amountHeld, state := .released }

section Release
variable {settings : Settings} {now : Time} {repo : Repository}

theorem releaseHolds_spec {address : String} (holds : List HoldEntry) (distinct : (holds.map (·.id)).Nodup)
    (stored : ∀ hold ∈ holds, repo.holdEntries.get? hold.id = some hold)
    (own : ∀ hold ∈ holds, hold.minerAddress = address ∧ hold.amountReleased ≤ hold.amountHeld) {after : Repository}
    (written : holds.foldl (fun repo hold => repo.saveHoldEntry hold.release) repo = after) :
    (∀ other, heldAmounts after other = heldAmounts repo other -
      if address = other then (((holds.map (·.remaining)).sum : Nat) : Int) else 0) ∧
    (∀ id, (∀ hold ∈ holds, hold.id ≠ id) → after.holdEntries.get? id = repo.holdEntries.get? id) ∧
    ∀ id last, after.holdEntries.get? id = some last → repo.holdEntries.get? id = some last ∨
      ∃ hold ∈ holds, hold.id = id ∧ last = hold.release := by
  induction holds generalizing repo with
  | nil =>
    cases written
    simp
  | cons hold rest ih =>
    obtain ⟨fresh,distinct⟩ := List.nodup_cons.mp distinct
    have found := stored hold List.mem_cons_self
    obtain ⟨miner,bound⟩ := own hold List.mem_cons_self
    have still : ∀ other ∈ rest, (repo.saveHoldEntry hold.release).holdEntries.get? other.id = some other := by
      intro other member
      change (repo.holdEntries.insert hold.id hold.release).get? other.id = some other
      rw [OrdMap.get?_insert_of_ne]
      · exact stored other (List.mem_cons_of_mem _ member)
      · intro same
        exact fresh (List.mem_map.mpr ⟨other,member,same⟩)
    obtain ⟨amounts,others,rows⟩ := ih distinct still (fun other member => own other (List.mem_cons_of_mem _ member)) written
    refine ⟨fun other => ?_,fun id apart => ?_,fun id last held => ?_⟩
    · have one : heldAmounts (repo.saveHoldEntry hold.release) other = heldAmounts repo other -
          if address = other then (hold.remaining : Int) else 0 := by
        unfold heldAmounts
        change (repo.holdEntries.insert hold.id hold.release).sumBy _ = _
        rw [OrdMap.sumBy_insert_of_get? _ _ _ found,miner]
        simp only [HoldEntry.release,HoldEntry.remaining,miner]
        split_ifs <;> omega
      rw [amounts,one,List.map_cons,List.sum_cons]
      split_ifs <;> omega
    · rw [others id fun other member => apart other (List.mem_cons_of_mem _ member)]
      exact OrdMap.get?_insert_of_ne _ _ (apart hold List.mem_cons_self).symm
    · rcases rows id last held with held | ⟨hold',member,rest⟩
      · change (repo.holdEntries.insert hold.id hold.release).get? id = some last at held
        rw [OrdMap.get?_insert] at held
        split_ifs at held with same
        · cases held
          exact .inr ⟨hold,List.mem_cons_self,same.symm,rfl⟩
        · exact .inl held
      · exact .inr ⟨hold',List.mem_cons_of_mem _ member,rest⟩

theorem dueHolds_sum (ledger : Ledger now repo) (address : String) :
    ((((dueHolds now address repo).map (·.remaining)).sum : Nat) : Int) = heldAmounts repo address := by
  have sound : ∀ entry ∈ repo.holdEntries.entries, entry.2.Sound now repo entry.1 := fun entry inside =>
    ledger.holds entry.1 entry.2 (OrdMap.get?_eq_some_iff.mpr inside)
  unfold dueHolds Repository.listDueHoldEntries heldAmounts OrdMap.sumBy
  generalize repo.holdEntries.entries = entries at sound
  induction entries with
  | nil => rfl
  | cons entry rest ih =>
    have later := ih fun other member => sound other (List.mem_cons_of_mem _ member)
    simp only [List.map_cons,List.filter_cons,List.sum_cons]
    rcases (sound entry List.mem_cons_self).amount with ⟨state,released,positive,due⟩ | ⟨state,released⟩
    · have remaining : entry.2.remaining = entry.2.amountHeld := by
        simp [HoldEntry.remaining,released]
      rw [if_pos (by simpa using ⟨state,due⟩),List.filter_cons]
      by_cases own : entry.2.minerAddress = address
      · rw [if_pos (by simpa [own,remaining] using positive),List.map_cons,List.sum_cons,if_pos own,← later,remaining,released]
        simp
      · rw [if_neg (by simp [own]),if_neg own,← later,zero_add]
    · rw [if_neg (by simp [state]),released,sub_self,ite_self,zero_add]
      exact later

theorem mem_dueHolds (ledger : Ledger now repo) {address : String} {hold : HoldEntry}
    (member : hold ∈ dueHolds now address repo) : repo.holdEntries.get? hold.id = some hold ∧
      hold.minerAddress = address ∧ hold.state = .held := by
  obtain ⟨listed,picked⟩ := List.mem_filter.mp member
  obtain ⟨stored,due⟩ := List.mem_filter.mp listed
  obtain ⟨⟨id,row⟩,inside,same⟩ := List.mem_map.mp stored
  dsimp only at same
  subst same
  have found := OrdMap.get?_eq_some_iff.mpr inside
  have own : row.minerAddress = address ∧ 0 < row.remaining := by simpa using picked
  have state : row.state = .held ∧ row.releaseAfter ≤ isoformatZ now := by simpa using due
  exact ⟨(ledger.holds id row found).named ▸ found,own.1,state.1⟩

theorem dueHolds_nodup (ledger : Ledger now repo) (address : String) :
    ((dueHolds now address repo).map (·.id)).Nodup := by
  have keys : (repo.holdEntries.entries.map Prod.snd).map (·.id) = repo.holdEntries.keys := by
    unfold OrdMap.keys
    rw [List.map_map]
    apply List.map_congr_left
    intro entry inside
    exact (ledger.holds _ _ (OrdMap.get?_eq_some_iff.mpr inside)).named
  have all : ((repo.holdEntries.entries.map Prod.snd).map (·.id)).Nodup := by
    rw [keys]
    exact OrdMap.keys_nodup _
  exact all.sublist ((List.filter_sublist.trans List.filter_sublist).map _)

theorem releaseHolds_due (ledger : Ledger now repo) (address : String) {after : Repository}
    (written : (dueHolds now address repo).foldl (fun repo hold => repo.saveHoldEntry hold.release) repo = after) :
    (∀ other, heldAmounts after other = heldAmounts repo other -
      if address = other then ((((dueHolds now address repo).map (·.remaining)).sum : Nat) : Int) else 0) ∧
    (∀ id, (∀ hold ∈ dueHolds now address repo, hold.id ≠ id) → after.holdEntries.get? id = repo.holdEntries.get? id) ∧
    ∀ id last, after.holdEntries.get? id = some last → repo.holdEntries.get? id = some last ∨
      ∃ hold ∈ dueHolds now address repo, hold.id = id ∧ last = hold.release := by
  apply releaseHolds_spec (dueHolds now address repo) (dueHolds_nodup ledger address) _ _ written
  · intro hold member
    exact (mem_dueHolds ledger member).1
  · intro hold member
    obtain ⟨found,own,-⟩ := mem_dueHolds ledger member
    refine ⟨own,?_⟩
    rcases (ledger.holds _ hold found).amount with ⟨-,released,-⟩ | ⟨-,released⟩ <;> omega

theorem released_ledger {miner : Miner} {update : Miner → Miner} (ledger : Ledger now repo)
    (owner : repo.miners.get? miner.address = some miner)
    (paid : (update miner).totalRewards = miner.totalRewards + miner.heldRewards ∧ (update miner).heldRewards = 0) :
    Ledger now (((dueHolds now miner.address repo).foldl (fun repo hold => repo.saveHoldEntry hold.release) repo).updateMiner
      miner.address update) := by
  obtain ⟨amounts,-,rows⟩ := releaseHolds_due ledger miner.address (by rfl)
  have total := dueHolds_sum ledger miner.address
  obtain ⟨entries,written⟩ := saveHolds_shape (dueHolds now miner.address repo) HoldEntry.release repo
  rw [written] at amounts rows ⊢
  have heldBack := ledger.held _ miner owner
  refine ⟨fun address row found => ?_,fun address row found => ?_,fun id hold found => ?_⟩
  · obtain ⟨old,held,rfl⟩ := OrdMap.of_get?_modifyAt found
    have before := ledger.credited address old held
    change _ = resolvedRewards repo address
    split_ifs with own
    · subst own
      cases owner.symm.trans held
      omega
    · exact before
  · obtain ⟨old,held,rfl⟩ := OrdMap.of_get?_modifyAt found
    have before := ledger.held address old held
    refine Eq.trans ?_ (amounts address).symm
    split_ifs with own other other
    · subst own
      cases owner.symm.trans held
      omega
    · exact absurd own.symm other
    · exact absurd other.symm own
    · omega
  · rcases rows id hold found with kept | ⟨old,member,rfl,rfl⟩
    · have sound := ledger.holds id hold kept
      exact ⟨sound.named,sound.of,sound.amount⟩
    · have sound := ledger.holds _ old (mem_dueHolds ledger member).1
      exact ⟨rfl,sound.of,.inr ⟨rfl,rfl⟩⟩

theorem releaseMinerHolds_ledger {miner : Miner} (keyed : Keyed repo) (ledger : Ledger now repo)
    (owner : repo.miners.get? miner.address = some miner) : Ledger now (releaseMinerHolds settings now miner repo) := by
  have total := dueHolds_sum ledger miner.address
  have heldBack := ledger.held _ miner owner
  unfold releaseMinerHolds
  dsimp only
  split_ifs with mature some_ paid
  · apply released_ledger ledger owner
    constructor
    · dsimp only
      omega
    · dsimp only
      omega
  · omega
  · apply released_ledger ledger owner
    constructor
    · dsimp only
      omega
    · dsimp only
      omega
  · refine SameMoney.ledger (sameMoney_of_miners (by rfl) (by rfl) fun address row found => ?_) keyed ledger
    obtain ⟨old,held,rfl⟩ := OrdMap.of_get?_modifyAt found
    refine .inl ⟨old,held,?_⟩
    split_ifs <;> exact ⟨rfl,rfl⟩

theorem Settling.ledger {outside : Outside} {after : Repository} (step : Settling settings outside now repo after)
    (keyed : Keyed repo) (ledger : Ledger now repo) : Ledger now after := by
  have tasks {task : Task} : Ledger now (repo.upsertTask task) := by
    refine SameMoney.ledger (sameMoney_of_miners (by rfl) (by rfl) ?_) keyed ledger
    exact fun address miner found => .inl ⟨miner,found,rfl,rfl⟩
  cases step with
  | create | wait | resolve | waitDaily | resolveDaily => exact tasks
  | @pend task submission _ due unknown waiting =>
    refine SameMoney.ledger (saveSubmission_sameMoney keyed (fun old found => ?_) fun _ => rfl) keyed ledger
    cases waiting.stored.symm.trans found
    exact ⟨(if_neg waiting.unsettled).symm,fun settled => absurd settled waiting.unsettled⟩
  | @settle task submission miner _ due known waiting owner =>
    have run := settleSubmission_run settings now outside.assess task submission miner waiting.revealed owner
    rw [run]
    exact settleSubmission_ledger keyed ledger waiting owner run
  | @settleDaily task submission _ due waiting _ =>
    refine SameMoney.ledger (saveSubmission_sameMoney keyed (fun old found => ?_) fun _ => rfl) keyed ledger
    cases waiting.stored.symm.trans found
    exact ⟨(if_neg waiting.unsettled).symm,fun settled => absurd settled waiting.unsettled⟩
  | release owner => exact releaseMinerHolds_ledger keyed ledger owner

end Release

def HoldsEnd (before after : Repository) : Prop := ∀ id hold, before.holdEntries.get? id = some hold →
  hold.state = .released → after.holdEntries.get? id = some hold

theorem HoldsEnd.of_same {before after : Repository} (same : after.holdEntries = before.holdEntries) :
    HoldsEnd before after := fun _ _ found _ => same ▸ found

theorem Settling.holdsEnd {settings : Settings} {outside : Outside} {now : Time} {before after : Repository}
    (step : Settling settings outside now before after) (keyed : Keyed before) (ledger : Ledger now before) :
    HoldsEnd before after := by
  cases step with
  | create | wait | resolve | waitDaily | resolveDaily => exact .of_same rfl
  | pend | settleDaily => exact .of_same (saveSubmission_holdEntries _ before)
  | @settle task submission miner _ due known waiting owner =>
    have run := settleSubmission_run settings now outside.assess task submission miner waiting.revealed owner
    obtain ⟨-,-,-,holds⟩ := settleSubmission_rows keyed waiting owner run
    intro id hold found released
    rw [run,holds]
    split_ifs
    · rw [OrdMap.get?_insert_of_ne]
      · exact found
      · rintro rfl
        cases (waiting_unheld keyed ledger waiting).symm.trans found
    · exact found
  | @release miner _ owner =>
    intro id hold found released
    have apart : ∀ other ∈ dueHolds now miner.address before, other.id ≠ id := by
      intro other member same
      obtain ⟨stored,-,state⟩ := mem_dueHolds ledger member
      rw [same,found] at stored
      cases stored
      rw [released] at state
      cases state
    have kept := (releaseHolds_due ledger miner.address (by rfl)).2.1 id apart
    unfold releaseMinerHolds
    dsimp only
    split_ifs
    · exact kept.trans found
    · exact kept.trans found
    · exact kept.trans found
    · exact found

theorem kept_ledger (settings : Settings) (now : Time) (start : Repository) :
    Kept settings now fun repo => Ledger now repo ∧ HoldsEnd start repo where
  taking before after keyed holds step := by
    have same := step.sameMoney keyed
    exact ⟨same.ledger keyed holds.1,fun id hold found released => same.holdEntries ▸ holds.2 id hold found released⟩
  settling outside before after keyed holds step := by
    have ends := step.holdsEnd keyed holds.1
    exact ⟨step.ledger keyed holds.1,fun id hold found released => ends id hold (holds.2 id hold found released) released⟩
  stamped id taskRunIDs before after keyed holds stamped := by
    have same := stamped.sameMoney
    exact ⟨same.ledger keyed holds.1,fun id hold found released => same.holdEntries ▸ holds.2 id hold found released⟩
  same before after same holds := by
    unfold SameIntake Repository.intakeSide at same
    simp only [Prod.mk.injEq] at same
    obtain ⟨miners,-,submissions,-,entries⟩ := same
    refine ⟨⟨fun address miner found => ?_,fun address miner found => ?_,fun id hold found => ?_⟩,
      fun id hold found released => entries ▸ holds.2 id hold found released⟩
    · unfold resolvedRewards
      rw [submissions]
      exact holds.1.credited address miner (miners ▸ found)
    · unfold heldAmounts
      rw [entries]
      exact holds.1.held address miner (miners ▸ found)
    · have sound := holds.1.holds id hold (entries ▸ found)
      exact ⟨sound.named,submissions.symm ▸ sound.of,sound.amount⟩

theorem regular_empty : Regular {} where
  tasks _ _ found := by cases found
  miners _ _ found := by cases found
  submissions _ _ found := by cases found
  open_ _ _ _ found := by cases found

structure Balanced (now : Time) (repo : Repository) : Prop where
  tidy : Tidy repo
  regular : Regular repo
  ledger : Ledger now repo

theorem balanced_empty (now : Time) : Balanced now {} where
  tidy := tidy_empty
  regular := regular_empty
  ledger := ledger_empty now

theorem Balanced.after {settings : Settings} {now : Time} {repo : Repository} (balanced : Balanced now repo) (call : Call)
    (passed : now ≤ call.1) : Balanced call.1 (call.after settings repo) ∧ HoldsEnd repo (call.after settings repo) := by
  have ledger := balanced.ledger.later passed
  obtain ⟨tidy,regular,ledger,ends⟩ := @call_keeps _ _ _ (kept_ledger settings call.1 repo) call.2 _ balanced.tidy
    balanced.regular ⟨ledger,fun _ _ found _ => found⟩
  exact ⟨⟨tidy,regular,ledger⟩,ends⟩

theorem Balanced.finish {settings : Settings} {calls : List Call} {now : Time} {repo : Repository}
    (balanced : Balanced now repo) (ordered : calls.Pairwise fun a b => a.1 ≤ b.1)
    (passed : ∀ call ∈ calls, now ≤ call.1) : ∃ last, Balanced last (finish settings calls repo) ∧ now ≤ last ∧
      (∀ later, now ≤ later → (∀ call ∈ calls, call.1 ≤ later) → last ≤ later) ∧
      HoldsEnd repo (finish settings calls repo) := by
  induction calls generalizing now repo with
  | nil => exact ⟨now,balanced,le_rfl,fun later start _ => start,fun _ _ found _ => found⟩
  | cons call rest ih =>
    obtain ⟨first,ordered⟩ := List.pairwise_cons.mp ordered
    obtain ⟨next,ends⟩ := @Balanced.after settings _ _ balanced call (passed call List.mem_cons_self)
    obtain ⟨last,balanced',start,least,ends'⟩ := ih next ordered first
    refine ⟨last,balanced',(passed call List.mem_cons_self).trans start,fun later _ all => ?_,fun id hold found released => ?_⟩
    · exact least later (all call List.mem_cons_self) fun other member => all other (List.mem_cons_of_mem _ member)
    · exact ends' id hold (ends id hold found released) released

theorem empty_finish (settings : Settings) {calls later : List Call} (ordered : (calls ++ later).Pairwise fun a b => a.1 ≤ b.1) :
    ∃ last, Balanced last (Mining.finish settings calls {}) ∧
      HoldsEnd (Mining.finish settings calls {}) (Mining.finish settings (calls ++ later) {}) := by
  obtain ⟨ordered₁,ordered₂,apart⟩ := List.pairwise_append.mp ordered
  have start : ∃ now, ∀ call ∈ calls ++ later, now ≤ call.1 := by
    cases all : calls ++ later with
    | nil => exact ⟨0,by simp⟩
    | cons first rest =>
      rw [all] at ordered
      refine ⟨first.1,fun call member => ?_⟩
      rcases List.mem_cons.mp member with rfl | member
      · exact le_rfl
      · exact (List.pairwise_cons.mp ordered).1 call member
  obtain ⟨now,start⟩ := start
  obtain ⟨last,balanced,-,least,-⟩ := @Balanced.finish settings _ _ _ (balanced_empty now) ordered₁ fun call member =>
    start call (List.mem_append_left _ member)
  have passed : ∀ call ∈ later, last ≤ call.1 := fun call member => least call.1
    (start call (List.mem_append_right _ member)) fun other earlier => apart other earlier call member
  obtain ⟨-,-,-,-,ends⟩ := @Balanced.finish settings _ _ _ balanced ordered₂ passed
  refine ⟨last,balanced,?_⟩
  unfold Mining.finish at ends ⊢
  rw [List.foldl_append]
  exact ends

/-- What a miner has and what is held back is what its resolved submissions earned, what is held back is what its holds
still hold, every submission is split into the two, and a hold is released as a whole and once. -/
theorem ledger_balanced (settings : Settings) (calls later : List Call)
    (ordered : (calls ++ later).Pairwise fun a b => a.1 ≤ b.1) :
    (∀ address miner, (finish settings calls {}).miners.get? address = some miner →
      (miner.totalRewards + miner.heldRewards : Int) = resolvedRewards (finish settings calls {}) address ∧
      (miner.heldRewards : Int) = heldAmounts (finish settings calls {}) address) ∧
    (∀ key submission, (finish settings calls {}).submissions.get? key = some submission →
      submission.releasedRewardAmount.getD 0 + submission.heldRewardAmount.getD 0 = submission.rewardAmount) ∧
    ∀ id hold, (finish settings calls {}).holdEntries.get? id = some hold →
      (hold.state = .held ∧ hold.amountReleased = 0 ∨ hold.state = .released ∧ hold.amountReleased = hold.amountHeld) ∧
      (hold.state = .released → (finish settings (calls ++ later) {}).holdEntries.get? id = some hold) := by
  obtain ⟨last,balanced,ends⟩ := empty_finish settings ordered
  refine ⟨fun address miner found => ⟨balanced.ledger.credited address miner found,balanced.ledger.held address miner found⟩,
    fun key submission found => (balanced.regular.submissions key submission found).split,
    fun id hold found => ⟨?_,ends id hold found⟩⟩
  rcases (balanced.ledger.holds id hold found).amount with ⟨state,amount,-⟩ | released
  · exact .inl ⟨state,amount⟩
  · exact .inr released

def payingCalls : List Call := forecastCalls [.btc] ++ [(later 900,.reconcile (knowing [fastTask .btc]))]

def maturingCalls : List Call := [(later 604800,.reconcile (knowing []))]

theorem ledger_balanced_paying : ∃ miner, (finish plainSettings payingCalls {}).miners.get? "claw1a" = some miner ∧
    miner.totalRewards = 20 ∧ (miner.heldRewards : Int) = heldAmounts (finish plainSettings payingCalls {}) "claw1a" ∧
    (miner.totalRewards + miner.heldRewards : Int) = resolvedRewards (finish plainSettings payingCalls {}) "claw1a" := by
  have paid : ((finish plainSettings payingCalls {}).miners.get? "claw1a").map (·.totalRewards) = some 20 := by
    decide +kernel
  obtain ⟨miner,found,total⟩ := Option.map_eq_some_iff.mp paid
  have ordered : (payingCalls ++ maturingCalls).Pairwise fun a b => a.1 ≤ b.1 := by decide
  obtain ⟨credited,held⟩ := (ledger_balanced plainSettings payingCalls maturingCalls ordered).1 "claw1a" miner found
  exact ⟨miner,found,total,held,credited⟩

end Clawchain.Mining
