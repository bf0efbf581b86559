import Clawchain.Mining.Building

/-! Batches follow their windows. After a reconcile that ends well every open batch of the forecast lane has the total
of its window. -/
namespace Clawchain.Mining
open Clawchain.Lib Clawchain.Lib.Faulty

section Sync
variable {settings : Settings} {window : RewardWindow} {repo : Repository}

def syncedBatch (window : RewardWindow) : Option SettlementBatch → SettlementBatch
  | some batch =>
    if batch.state = .opened then
      { batch with
        id := settlementBatchIDOf window.id
        lane := window.lane
        windowStartAt := window.windowStartAt
        windowEndAt := window.windowEndAt
        rewardWindowIDs := [window.id]
        policyBundleVersion := window.policyBundleVersion
        taskCount := window.taskCount
        minerCount := window.minerCount
        totalRewardAmount := window.totalRewardAmount }
    else batch
  | none =>
    { id := settlementBatchIDOf window.id, lane := window.lane, windowStartAt := window.windowStartAt
      windowEndAt := window.windowEndAt, rewardWindowIDs := [window.id], policyBundleVersion := window.policyBundleVersion
      taskCount := window.taskCount, minerCount := window.minerCount, totalRewardAmount := window.totalRewardAmount }

def followWindow (window : RewardWindow) (repo : Repository) : Repository :=
  { repo with
    settlementBatches := repo.settlementBatches.insert (settlementBatchIDOf window.id)
      (syncedBatch window (repo.settlementBatches.get? (settlementBatchIDOf window.id))) }

def linkWindow (settings : Settings) (window : RewardWindow) (repo : Repository) : Repository :=
  if window.settlementBatchID = some (settlementBatchIDOf window.id) then repo
  else
    match repo.rewardWindows.get? window.id with
    | none => repo
    | some stored =>
      repo.storeRewardWindow settings { stored with settlementBatchID := some (settlementBatchIDOf window.id) }

theorem syncSettlementBatch_eq (linked : ∀ id, window.settlementBatchID = some id → id = settlementBatchIDOf window.id) :
    syncSettlementBatch settings window repo = linkWindow settings window (followWindow window repo) := by
  have own : window.settlementBatchID.getD (settlementBatchIDOf window.id) = settlementBatchIDOf window.id := by
    cases known : window.settlementBatchID with
    | none => rfl
    | some id => exact linked id known
  unfold syncSettlementBatch linkWindow followWindow
  dsimp only
  rw [own]
  cases found : repo.settlementBatches.get? (settlementBatchIDOf window.id) with
  | none => rfl
  | some batch =>
    by_cases isOpen : batch.state = .opened
    · simp only [syncedBatch,isOpen,if_true] <;> rfl
    · have same : repo.settlementBatches.insert (settlementBatchIDOf window.id) batch = repo.settlementBatches :=
        OrdMap.insert_of_get? found
      simp only [syncedBatch,isOpen,if_false,same] <;> rfl

theorem linkWindow_batches : (linkWindow settings window repo).settlementBatches = repo.settlementBatches := by
  unfold linkWindow
  split_ifs
  · rfl
  · cases repo.rewardWindows.get? window.id <;> rfl

variable (settings window) in
theorem linkWindow_windows (named : ∀ id stored, repo.rewardWindows.get? id = some stored → stored.id = id) (id : String) :
    ∃ link : RewardWindow → Option String, ((linkWindow settings window repo).rewardWindows.get? id =
      (repo.rewardWindows.get? id).map fun stored => { stored with settlementBatchID := link stored }) ∧
        ∀ stored, repo.rewardWindows.get? id = some stored → link stored = stored.settlementBatchID ∨
          link stored = some (settlementBatchIDOf id) := by
  unfold linkWindow
  split_ifs with linked
  · refine ⟨(·.settlementBatchID),?_,fun _ _ => .inl rfl⟩
    cases repo.rewardWindows.get? id <;> rfl
  · cases found : repo.rewardWindows.get? window.id with
    | none =>
      refine ⟨(·.settlementBatchID),?_,fun _ _ => .inl rfl⟩
      cases repo.rewardWindows.get? id <;> rfl
    | some stored =>
      by_cases own : id = window.id
      · subst own
        refine ⟨fun _ => some (settlementBatchIDOf window.id),?_,fun _ _ => .inr rfl⟩
        change (repo.rewardWindows.insert stored.id _).get? window.id = _
        rw [OrdMap.get?_insert,if_pos (named _ stored found).symm,found]
        rfl
      · refine ⟨(·.settlementBatchID),?_,fun _ _ => .inl rfl⟩
        change (repo.rewardWindows.insert stored.id _).get? id = _
        rw [OrdMap.get?_insert,if_neg (named _ stored found ▸ own)]
        cases repo.rewardWindows.get? id <;> rfl

theorem linkWindow_sameIntake : SameIntake repo (linkWindow settings window repo) := by
  unfold linkWindow
  split_ifs
  · rfl
  · cases repo.rewardWindows.get? window.id <;> rfl

theorem linkWindow_hours (gathered : Gathered repo) (id : String) :
    (∀ last, Hour (linkWindow settings window repo) id last → ∃ old, Hour repo id old ∧ last.taskRunIDs = old.taskRunIDs ∧
      last.totalRewardAmount = old.totalRewardAmount) ∧
    ∀ old, Hour repo id old → ∃ last, Hour (linkWindow settings window repo) id last ∧ last.taskRunIDs = old.taskRunIDs := by
  obtain ⟨link,written,-⟩ := linkWindow_windows settings window
    (fun id stored found => (gathered.windows id stored found).named) id
  constructor
  · rintro last ⟨found,forecast⟩
    rw [written] at found
    obtain ⟨old,held,rfl⟩ := Option.map_eq_some_iff.mp found
    exact ⟨old,⟨held,forecast⟩,rfl,rfl⟩
  · intro old hour
    refine ⟨{ old with settlementBatchID := link old },⟨?_,hour.2⟩,rfl⟩
    rw [written,hour.1]
    rfl

theorem linkWindow_gathered (gathered : Gathered repo) : Gathered (linkWindow settings window repo) := by
  have same : SameIntake repo (linkWindow settings window repo) := linkWindow_sameIntake
  unfold SameIntake Repository.intakeSide at same
  simp only [Prod.mk.injEq] at same
  obtain ⟨-,tasks,submissions,-⟩ := same
  have batches : (linkWindow settings window repo).settlementBatches = repo.settlementBatches := linkWindow_batches
  have rewards (id : String) : windowReward (linkWindow settings window repo) id = windowReward repo id := by
    unfold windowReward
    rw [submissions]
  constructor
  · intro id last found
    obtain ⟨link,written,linked⟩ := linkWindow_windows settings window
      (fun id stored found => (gathered.windows id stored found).named) id
    rw [written] at found
    obtain ⟨old,held,rfl⟩ := Option.map_eq_some_iff.mp found
    have sound := gathered.windows id old held
    refine ⟨sound.named,sound.lane,fun batchID told => ?_⟩
    rcases linked old held with same | same
    · exact sound.batched batchID (same ▸ told)
    · exact (Option.some.inj (same.symm.trans told)).symm
  · intro id last taskRunID hour member
    obtain ⟨old,hour',sameTasks,-⟩ := (linkWindow_hours gathered id).1 last hour
    rw [tasks]
    exact gathered.tasks id old taskRunID hour' (sameTasks ▸ member)
  · exact tasks ▸ gathered.windowed
  · intro key submission id found inside
    rw [submissions] at found
    obtain ⟨revealed,old,hour,member⟩ := gathered.submissions key submission id found inside
    obtain ⟨last,hour',sameTasks⟩ := (linkWindow_hours gathered id).2 old hour
    exact ⟨revealed,last,hour',sameTasks ▸ member⟩
  · rw [submissions,tasks]
    exact gathered.joined
  · intro id last hour
    obtain ⟨old,hour',-,sameTotal⟩ := (linkWindow_hours gathered id).1 last hour
    rw [sameTotal,rewards]
    exact gathered.totals id old hour'
  · intro id batch found forecast
    rw [batches] at found
    obtain ⟨windowID,old,hour,rest⟩ := gathered.batches id batch found forecast
    obtain ⟨last,hour',-⟩ := (linkWindow_hours gathered windowID).2 old hour
    exact ⟨windowID,last,hour',rest⟩
  · intro id batch windowID found
    rw [rewards]
    exact gathered.paid id batch windowID (batches ▸ found)

theorem followWindow_gathered (gathered : Gathered repo)
    (hour : window.lane = .forecast15m → ∃ stored, Hour repo window.id stored) : Gathered (followWindow window repo) := by
  have row (batch : SettlementBatch)
      (same : syncedBatch window (repo.settlementBatches.get? (settlementBatchIDOf window.id)) = batch) :
      repo.settlementBatches.get? (settlementBatchIDOf window.id) = some batch ∨
        ¬batch.Left ∧ batch.lane = window.lane ∧ batch.rewardWindowIDs = [window.id] := by
    subst same
    cases held : repo.settlementBatches.get? (settlementBatchIDOf window.id) with
    | none => exact .inr ⟨fun left => left.1 rfl,rfl,rfl⟩
    | some old =>
      unfold syncedBatch
      dsimp only
      split_ifs with isOpen
      · exact .inr ⟨fun left => left.1 isOpen,rfl,rfl⟩
      · exact .inl rfl
  refine { gathered with batches := ?_, paid := ?_ }
  · intro id batch found forecast
    unfold followWindow at found
    dsimp only at found
    rw [OrdMap.get?_insert] at found
    split_ifs at found with own
    · subst own
      rcases row batch (Option.some.inj found) with held | ⟨-,lane,listed⟩
      · exact gathered.batches _ batch held forecast
      · obtain ⟨stored,known⟩ := hour (lane ▸ forecast)
        exact ⟨window.id,stored,known,rfl,listed⟩
    · exact gathered.batches id batch found forecast
  · intro id batch windowID found forecast left listed
    unfold followWindow at found
    dsimp only at found
    rw [OrdMap.get?_insert] at found
    split_ifs at found with own
    · subst own
      rcases row batch (Option.some.inj found) with held | ⟨open_,-⟩
      · exact gathered.paid _ batch windowID held forecast left listed
      · exact absurd left open_
    · exact gathered.paid id batch windowID found forecast left listed

theorem syncSettlementBatch_gathered (gathered : Gathered repo)
    (linked : ∀ id, window.settlementBatchID = some id → id = settlementBatchIDOf window.id)
    (hour : window.lane = .forecast15m → ∃ stored, Hour repo window.id stored) :
    Gathered (syncSettlementBatch settings window repo) := by
  rw [syncSettlementBatch_eq linked]
  exact linkWindow_gathered (followWindow_gathered gathered hour)

variable (settings) in
theorem syncSettlementBatch_hours (gathered : Gathered repo)
    (linked : ∀ id, window.settlementBatchID = some id → id = settlementBatchIDOf window.id)
    (hour : window.lane = .forecast15m → ∃ stored, Hour repo window.id stored) (id : String) :
    (∀ last, Hour (syncSettlementBatch settings window repo) id last → ∃ old, Hour repo id old ∧
      last.taskRunIDs = old.taskRunIDs ∧ last.totalRewardAmount = old.totalRewardAmount) ∧
    ∀ old, Hour repo id old → ∃ last, Hour (syncSettlementBatch settings window repo) id last ∧
      last.taskRunIDs = old.taskRunIDs := by
  rw [syncSettlementBatch_eq linked]
  exact linkWindow_hours (followWindow_gathered gathered hour) id

variable (settings repo) in
theorem syncSettlementBatch_batches (linked : ∀ id, window.settlementBatchID = some id → id = settlementBatchIDOf window.id) :
    (syncSettlementBatch settings window repo).settlementBatches =
      repo.settlementBatches.insert (settlementBatchIDOf window.id)
        (syncedBatch window (repo.settlementBatches.get? (settlementBatchIDOf window.id))) := by
  rw [syncSettlementBatch_eq linked,linkWindow_batches]
  rfl

end Sync

/-- The batch of a window has its total while it is open. -/
def FollowsBatch (repo : Repository) (window : RewardWindow) : Prop := ∀ batch,
  repo.settlementBatches.get? (settlementBatchIDOf window.id) = some batch → batch.state = .opened →
    batch.totalRewardAmount = window.totalRewardAmount

theorem syncedBatch_follows {window : RewardWindow} {old : Option SettlementBatch}
    (isOpen : (syncedBatch window old).state = .opened) : (syncedBatch window old).totalRewardAmount = window.totalRewardAmount := by
  cases old with
  | none => rfl
  | some batch =>
    unfold syncedBatch at isOpen ⊢
    dsimp only at isOpen ⊢
    split_ifs at isOpen ⊢ with before
    · rfl
    · exact absurd isOpen before

variable {repo : Repository}

theorem syncBatches_loop (settings : Settings) (windows : List RewardWindow) (gathered : Gathered repo)
    (sound : ∀ window ∈ windows, window.Sound window.id ∧
      (window.lane = .forecast15m → ∃ stored, Hour repo window.id stored)) (distinct : (windows.map (·.id)).Nodup)
    {after : Repository} (run : windows.foldl (fun repo window =>
      if window.state = .noPositiveWeight then repo else syncSettlementBatch settings window repo) repo = after) :
    Gathered after ∧ (∀ window ∈ windows, window.state ≠ .noPositiveWeight → FollowsBatch after window) ∧
      (∀ id, (∀ window ∈ windows, settlementBatchIDOf window.id ≠ id) →
        after.settlementBatches.get? id = repo.settlementBatches.get? id) ∧
      ∀ id last, Hour after id last → ∃ old, Hour repo id old ∧ last.totalRewardAmount = old.totalRewardAmount := by
  induction windows generalizing repo with
  | nil =>
    cases run
    exact ⟨gathered,by simp,fun _ _ => rfl,fun id last hour => ⟨last,hour,rfl⟩⟩
  | cons window rest ih =>
    obtain ⟨fresh,distinct⟩ := List.nodup_cons.mp distinct
    obtain ⟨own,hour⟩ := sound window List.mem_cons_self
    have apart : ∀ other ∈ rest, settlementBatchIDOf other.id ≠ settlementBatchIDOf window.id := by
      intro other member same
      have sameID := (sound other (List.mem_cons_of_mem _ member)).1.sameBatch own same
      exact fresh (List.mem_map.mpr ⟨other,member,sameID⟩)
    rw [List.foldl_cons] at run
    split_ifs at run with unpaid
    · obtain ⟨gathered',follows,others,hours⟩ := ih gathered (fun other member => sound other (List.mem_cons_of_mem _ member))
        distinct run
      refine ⟨gathered',fun other member finalized => ?_,fun id away => ?_,hours⟩
      · rcases List.mem_cons.mp member with rfl | member
        · exact absurd unpaid finalized
        · exact follows other member finalized
      · exact others id fun other member => away other (List.mem_cons_of_mem _ member)
    · have hours₁ := fun id => syncSettlementBatch_hours settings gathered own.batched hour id
      have batches₁ := syncSettlementBatch_batches settings repo own.batched
      obtain ⟨gathered',follows,others,hours⟩ := ih (syncSettlementBatch_gathered gathered own.batched hour)
        (fun other member => by
          obtain ⟨named,known⟩ := sound other (List.mem_cons_of_mem _ member)
          refine ⟨named,fun forecast => ?_⟩
          obtain ⟨stored,before⟩ := known forecast
          obtain ⟨last,after,-⟩ := (hours₁ other.id).2 stored before
          exact ⟨last,after⟩)
        distinct run
      refine ⟨gathered',fun other member finalized => ?_,fun id away => ?_,fun id last hour' => ?_⟩
      · rcases List.mem_cons.mp member with rfl | member
        · intro batch found isOpen
          rw [others _ apart,batches₁,OrdMap.get?_insert_self] at found
          cases found
          exact syncedBatch_follows isOpen
        · exact follows other member finalized
      · rw [others id fun other member => away other (List.mem_cons_of_mem _ member),batches₁,OrdMap.get?_insert_of_ne]
        exact (away window List.mem_cons_self).symm
      · obtain ⟨middle,known,total⟩ := hours id last hour'
        obtain ⟨old,known',-,total'⟩ := (hours₁ id).1 middle known
        exact ⟨old,known',total.trans total'⟩

def Synced (repo : Repository) : Prop := ∀ id batch windowID, repo.settlementBatches.get? id = some batch →
  batch.lane = .forecast15m → batch.state = .opened → batch.rewardWindowIDs = [windowID] →
    (batch.totalRewardAmount : Int) = windowReward repo windowID

theorem buildSettlementBatches_gathered (settings : Settings) (gathered : Gathered repo) :
    Gathered (buildSettlementBatches settings repo) ∧ Synced (buildSettlementBatches settings repo) := by
  have stored {window : RewardWindow} (member : window ∈ repo.rewardWindows.entries.map Prod.snd) :
      repo.rewardWindows.get? window.id = some window ∧ window.Sound window.id := by
    obtain ⟨⟨id,row⟩,inside,same⟩ := List.mem_map.mp member
    cases same
    have found := OrdMap.get?_eq_some_iff.mpr inside
    have sound := gathered.windows id row found
    have named := sound.named
    subst named
    exact ⟨found,sound⟩
  have distinct : ((repo.rewardWindows.entries.map Prod.snd).map (·.id)).Nodup := by
    have keys : (repo.rewardWindows.entries.map Prod.snd).map (·.id) = repo.rewardWindows.keys := by
      unfold OrdMap.keys
      rw [List.map_map]
      apply List.map_congr_left
      intro entry inside
      exact (gathered.windows _ _ (OrdMap.get?_eq_some_iff.mpr inside)).named
    rw [keys]
    exact OrdMap.keys_nodup _
  obtain ⟨gathered',follows,-,hours⟩ := syncBatches_loop settings _ gathered
    (fun window member => ⟨(stored member).2,fun forecast => ⟨window,(stored member).1,forecast⟩⟩) distinct rfl
  refine ⟨gathered',fun id batch windowID found forecast isOpen listed => ?_⟩
  obtain ⟨windowID',window,hour,rfl,listed'⟩ := gathered'.batches id batch found forecast
  cases listed.symm.trans listed'
  obtain ⟨old,⟨held,lane⟩,total⟩ := hours windowID window hour
  have sound := gathered.windows windowID old held
  have finalized : old.state ≠ .noPositiveWeight := by
    rcases sound.lane with ⟨-,state,-⟩ | ⟨poker,-⟩
    · simp [state]
    · rw [lane] at poker
      cases poker
  have member : old ∈ repo.rewardWindows.entries.map Prod.snd :=
    List.mem_map.mpr ⟨(windowID,old),OrdMap.get?_eq_some_iff.mp held,rfl⟩
  have same := follows old member finalized batch
  rw [sound.named] at same
  exact (congrArg Nat.cast ((same found isOpen).trans total.symm)).trans (gathered'.totals windowID window hour)

theorem storePoker_gathered {settings : Settings} {window : RewardWindow} (gathered : Gathered repo)
    (sound : window.Sound window.id) (poker : window.lane.isPoker = true) :
    Gathered (repo.storeRewardWindow settings window) := by
  have foreign : window.lane ≠ .forecast15m := by
    intro forecast
    rw [forecast] at poker
    cases poker
  have hours {id : String} {other : RewardWindow} :
      Hour (repo.storeRewardWindow settings window) id other ↔ Hour repo id other := by
    unfold Hour
    change (repo.rewardWindows.insert window.id window).get? id = some other ∧ _ ↔ _
    rw [OrdMap.get?_insert]
    split_ifs with own
    · subst own
      constructor
      · rintro ⟨same,forecast⟩
        cases same
        exact absurd forecast foreign
      · rintro ⟨found,forecast⟩
        exact absurd ((gathered.windows _ other found).sameLane sound forecast) foreign
    · rfl
  constructor
  · intro id other found
    change (repo.rewardWindows.insert window.id window).get? id = some other at found
    rw [OrdMap.get?_insert] at found
    split_ifs at found with own
    · cases found
      exact own ▸ sound
    · exact gathered.windows id other found
  · intro id other taskRunID hour
    exact gathered.tasks id other taskRunID (hours.mp hour)
  · exact gathered.windowed
  · intro key submission id
    simp only [hours]
    exact gathered.submissions key submission id
  · exact gathered.joined
  · intro id other hour
    exact gathered.totals id other (hours.mp hour)
  · intro id batch
    simp only [hours]
    exact gathered.batches id batch
  · exact gathered.paid

theorem cancelSettlementBatch_gathered (id : String) (gathered : Gathered repo) :
    Gathered (cancelSettlementBatch id repo) := by
  unfold cancelSettlementBatch
  split_ifs
  · exact gathered
  · refine { gathered with batches := ?_, paid := ?_ }
    · intro other batch found forecast
      obtain ⟨old,held,rfl⟩ := OrdMap.of_get?_modifyAt found
      split_ifs at forecast ⊢
      · exact gathered.batches other old held forecast
      · exact gathered.batches other old held forecast
    · intro other batch windowID found forecast left listed
      obtain ⟨old,held,rfl⟩ := OrdMap.of_get?_modifyAt found
      split_ifs at forecast left listed ⊢
      · exact absurd rfl left.2
      · exact gathered.paid other old windowID held forecast left listed

def Gathers (before after : Repository) : Prop := Gathered before → Gathered after

theorem Gathers.refl (repo : Repository) : Gathers repo repo := id

theorem Gathers.trans (a b c : Repository) (first : Gathers a b) (next : Gathers b c) : Gathers a c := next ∘ first

theorem tryPokerMttRewardWindow_gathered (settings : Settings) {build : Except String PokerBuild}
    (plain : ∀ built, build = .ok built → built.rewardWindowID = none) (gathered : Gathered repo) :
    Gathered (tryPokerMttRewardWindow settings build repo).2 := by
  cases build with
  | error message => exact gathered
  | ok build =>
    have sound : (build.window (repo.rewardWindows.get? build.id)).Sound build.id := by
      have named : build.id = pokerMttRewardWindowID build.lane build.windowStartAt build.windowEndAt := by
        unfold PokerBuild.id
        rw [plain build rfl]
        rfl
      refine ⟨rfl,.inr ⟨build.isPoker,_,_,named⟩,fun batchID told => ?_⟩
      unfold PokerBuild.window at told
      dsimp only at told
      split_ifs at told
      obtain ⟨window,found,linked⟩ := Option.bind_eq_some_iff.mp told
      exact (gathered.windows _ window found).batched batchID linked
    refine buildPokerMttRewardWindow_moved Gathers.refl (fun projection => ?_) gathered
    apply writePokerMttRewardWindow_moves Gathers.refl Gathers.trans
    · exact fun id _ _ => cancelSettlementBatch_gathered id
    · exact fun _ gathered => storePoker_gathered gathered sound build.isPoker
    · exact fun _ _ gathered => gathered.ofSame rfl rfl rfl rfl
    · intro repo' gathered
      refine syncSettlementBatch_gathered gathered sound.batched fun forecast => ?_
      have poker := build.isPoker
      rw [show build.lane = .forecast15m from forecast] at poker
      cases poker

theorem buildPokerMttRewardWindows_gathered (settings : Settings) (outside : Outside) (gathered : Gathered repo)
    : Gathered (buildPokerMttRewardWindows settings outside repo).2 := by
  have keeps : Moves Gathers (buildPokerMttRewardWindows settings outside) := by
    apply Moves.each Gathers.refl Gathers.trans
    intro build _ repo gathered
    apply tryPokerMttRewardWindow_gathered settings _ gathered
    intro built same
    cases build with
    | error message => cases same
    | ok build =>
      cases same
      rfl
  exact keeps repo gathered

theorem gatherRewards_gathered (settings : Settings) (outside : Outside) (regular : Regular repo)
    (gathered : Gathered repo) (prompt : Prompt repo) :
    Gathered (gatherRewards settings outside repo).2 ∧ AllGathered (gatherRewards settings outside repo).2 ∧
      ((gatherRewards settings outside repo).1 = .ok () → Synced (gatherRewards settings outside repo).2) := by
  obtain ⟨built,all⟩ := buildRewardWindows_gathered settings regular gathered prompt
  have poker := buildPokerMttRewardWindows_gathered settings outside built
  have same : SameIntake (buildRewardWindows settings repo)
      (buildPokerMttRewardWindows settings outside (buildRewardWindows settings repo)).2 := by
    have moves : Moves SameIntake (buildPokerMttRewardWindows settings outside) := by
      apply Moves.each SameIntake.refl SameIntake.trans
      exact fun build _ => tryPokerMttRewardWindow_sameIntake _
    exact moves _
  have kept {before after : Repository} (same : SameIntake before after) (all : AllGathered before) : AllGathered after := by
    unfold SameIntake Repository.intakeSide at same
    simp only [Prod.mk.injEq] at same
    obtain ⟨-,tasks,submissions,-⟩ := same
    unfold AllGathered
    rw [tasks,submissions]
    exact all
  unfold gatherRewards
  rw [modify_bind]
  generalize buildRewardWindows settings repo = windows at built all poker same ⊢
  cases ran : buildPokerMttRewardWindows settings outside windows with
  | mk result middle =>
    rw [ran] at poker same
    cases result with
    | error failure =>
      rw [bind_of_error _ ran]
      exact ⟨poker,kept same all,fun ok => by cases ok⟩
    | ok _ =>
      rw [bind_of_ok _ ran]
      obtain ⟨gathered',synced⟩ := buildSettlementBatches_gathered settings poker
      exact ⟨gathered',kept (buildSettlementBatches_sameIntake middle) (kept same all),fun _ => synced⟩

end Clawchain.Mining
