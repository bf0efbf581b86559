import Clawchain.Arena.App.Calls

/-! The field of a wave after its lock: what late calls about the field do to it. -/
namespace Clawchain.Arena.App
open Clawchain.Lib Clawchain.Arena.Table Clawchain.Arena.Hub Relation

structure Footing where
  (tournamentID tableID seatID : String)
  registrationState : RegistrationState
  deriving DecidableEq, Repr

def footing (entrant : Entrant) : Footing :=
  ⟨entrant.tournamentID,entrant.tableID,entrant.seatID,entrant.registrationState⟩

structure LockedField where
  entrants : OrdMap String Footing
  tournamentID : String
  tournament : Option Nat
  deriving DecidableEq

def lockedField (runtime : RuntimeService) (waveID : String) : Option LockedField :=
  (runtime.waves.get? waveID).map fun wave =>
    ⟨wave.entrants.mapVals fun _ entrant => footing entrant,wave.tournamentID,
      (runtime.tournaments.get? wave.tournamentID).map TournamentRuntime.ref⟩

def Call.lateFor : Call → Bool
  | .registerMiner _ _ => true
  | .unregisterMiner _ _ => true
  | .lockWave _ => true
  | _ => false

def Inert (runtime : RuntimeService) (waveID : String) : Call → Prop
  | .registerMiner other minerID => other ≠ waveID ∨
      ∃ entrant, entrantOf runtime waveID minerID = some entrant ∧ footing entrant = ⟨"","","",.confirmed⟩
  | .unregisterMiner other minerID => other ≠ waveID ∨ entrantOf runtime waveID minerID = none
  | .lockWave other => other ≠ waveID
  | _ => True

section Kept
variable {runtime before after : RuntimeService} {waveID other minerID : String}
variable {wave : WaveRuntime}

theorem lockedField_congr (waves : after.waves.get? waveID = before.waves.get? waveID)
    (tournaments : ∀ wave, before.waves.get? waveID = some wave →
      after.tournaments.get? wave.tournamentID = before.tournaments.get? wave.tournamentID) :
    lockedField after waveID = lockedField before waveID := by
  unfold lockedField
  rw [waves]
  cases found : before.waves.get? waveID with
  | none => rfl
  | some wave => rw [Option.map_some,Option.map_some,tournaments wave found]

theorem lockedField_entrants {world : World} (f : OrdMap String Entrant → OrdMap String Entrant)
    (found : runtime.waves.get? waveID = some wave) :
    lockedField { runtime with
        world := world
        waves := runtime.waves.modifyAt waveID fun wave => { wave with entrants := f wave.entrants } } waveID =
      some ⟨(f wave.entrants).mapVals fun _ entrant => footing entrant,wave.tournamentID,
        (runtime.tournaments.get? wave.tournamentID).map TournamentRuntime.ref⟩ := by
  unfold lockedField
  dsimp only
  rw [OrdMap.get?_modifyAt,if_pos rfl,found]
  rfl

theorem lockedField_elsewhere {world : World} (f : WaveRuntime → WaveRuntime) (differ : other ≠ waveID) :
    lockedField { runtime with world := world, waves := runtime.waves.modifyAt other f } waveID =
      lockedField runtime waveID := by
  refine lockedField_congr ?_ fun _ _ => rfl
  change (runtime.waves.modifyAt other f).get? waveID = _
  rw [OrdMap.get?_modifyAt,if_neg differ.symm]

theorem lockedField_of_found (found : runtime.waves.get? waveID = some wave) :
    lockedField runtime waveID = some ⟨wave.entrants.mapVals fun _ entrant => footing entrant,wave.tournamentID,
      (runtime.tournaments.get? wave.tournamentID).map TournamentRuntime.ref⟩ := by
  unfold lockedField
  rw [found]
  rfl

theorem entrantOf_found (found : runtime.waves.get? waveID = some wave) (minerID : String) :
    entrantOf runtime waveID minerID = wave.entrants.get? minerID := by
  unfold entrantOf
  rw [found]
  rfl

theorem footings_insert (entrants : OrdMap String Entrant) (minerID : String) (entrant : Entrant) :
    ((entrants.insert minerID entrant).mapVals fun _ entrant => footing entrant) =
        (entrants.mapVals fun _ entrant => footing entrant) ↔
      (entrants.get? minerID).map footing = some (footing entrant) := by
  constructor
  · intro same
    have at_ := congrArg (fun m => OrdMap.get? m minerID) same
    simpa using at_.symm
  · intro same
    apply OrdMap.ext_get?
    intro k
    rw [OrdMap.get?_mapVals,OrdMap.get?_mapVals,OrdMap.get?_insert]
    split_ifs with own
    · rw [own]
      exact same.symm
    · rfl

theorem registerMiner_keeps (inert : Inert before waveID (.registerMiner other minerID)) :
    lockedField (registerMiner other minerID before).2 waveID = lockedField before waveID := by
  obtain ⟨-,same⟩ | ⟨wave,world,found,⟨e,same⟩ | done⟩ := registerMiner_cases other minerID before
  · rw [same]
  · rw [same]
    rfl
  · rw [done]
    by_cases own : other = waveID
    · subst own
      obtain ⟨entrant,held,blank⟩ := inert.resolve_left (fun differ => differ rfl)
      rw [entrantOf_found found] at held
      rw [lockedField_entrants (fun entrants => entrants.insert minerID (newEntrant other minerID)) found,
        lockedField_of_found found,(footings_insert _ _ _).mpr]
      rw [held,Option.map_some,blank]
      rfl
    · exact lockedField_elsewhere _ own

theorem unregisterMiner_keeps (inert : Inert before waveID (.unregisterMiner other minerID)) :
    lockedField (unregisterMiner other minerID before).2 waveID = lockedField before waveID := by
  obtain ⟨-,e,same⟩ | ⟨entrant,world,held,⟨e,same⟩ | done⟩ := unregisterMiner_cases other minerID before
  · rw [same]
  · rw [same]
    rfl
  · rw [done]
    by_cases own : other = waveID
    · subst own
      rw [inert.resolve_left (fun differ => differ rfl)] at held
      cases held
    · exact lockedField_elsewhere _ own

theorem lockWave_keeps (sum256 : String → Nat) (linked : Linked before) (differ : other ≠ waveID) :
    lockedField (lockWave sum256 other before).2 waveID = lockedField before waveID := by
  cases found : before.waves.get? other with
  | none => rw [lockWave_missing sum256 found]
  | some wave =>
    rw [lockWave_found sum256 found]
    have frame : Faulty.Moves (fun s t : RuntimeService => t.waves.get? waveID = s.waves.get? waveID ∧
        ∀ id, id ≠ Model.tournamentID other 1 → t.tournaments.get? id = s.tournaments.get? id)
        (lockField sum256 other wave) := by
      refine lockField_moves sum256 (fun _ => ⟨rfl,fun _ _ => rfl⟩)
        (fun _ _ _ first second => ⟨second.1.trans first.1,fun id away => (second.2 id away).trans (first.2 id away)⟩)
        (fun _ _ => ⟨rfl,fun _ _ => rfl⟩) (fun s f _ => ⟨?_,fun _ _ => rfl⟩) (fun s entry _ => ⟨rfl,?_⟩) wave
      · change (s.waves.modifyAt other f).get? waveID = _
        rw [OrdMap.get?_modifyAt,if_neg differ.symm]
      · intro id away
        exact OrdMap.get?_insert_of_ne _ _ away
    obtain ⟨waves,tournaments⟩ := frame before
    refine lockedField_congr waves fun held stored => tournaments _ ?_
    intro same
    rcases linked.waves waveID held stored with blank | named
    · exact Model.tournamentID_ne_empty other 1 (same.symm.trans blank)
    · exact differ (Model.tournamentID_injective 1 (same.symm.trans named))

end Kept

/-! With a repository that takes every write. -/
section Steady
variable {runtime : RuntimeService} {waveID minerID : String}
variable {wave : WaveRuntime}

theorem registerMiner_changes (steady : runtime.world.outcomes = []) (found : runtime.waves.get? waveID = some wave)
    (kept : lockedField (registerMiner waveID minerID runtime).2 waveID = lockedField runtime waveID) :
    ∃ entrant, entrantOf runtime waveID minerID = some entrant ∧ footing entrant = ⟨"","","",.confirmed⟩ := by
  have done : registerMiner waveID minerID runtime = (.ok (),{ runtime with
      world := runtime.world
      waves := runtime.waves.modifyAt waveID fun wave =>
        { wave with entrants := wave.entrants.insert minerID (newEntrant waveID minerID) } }) := by
    unfold registerMiner
    rw [Faulty.bind_of_ok _ (by rw [findWave,found]),Faulty.bind_of_ok _ (upsertRow_steady steady)]
    rfl
  rw [done,lockedField_entrants (fun entrants => entrants.insert minerID (newEntrant waveID minerID)) found,
    lockedField_of_found found] at kept
  have same := (footings_insert _ _ _).mp (congrArg LockedField.entrants (Option.some.inj kept))
  obtain ⟨entrant,held,blank⟩ := Option.map_eq_some_iff.mp same
  exact ⟨entrant,(entrantOf_found found minerID).trans held,blank⟩

theorem unregisterMiner_changes (steady : runtime.world.outcomes = []) (found : runtime.waves.get? waveID = some wave)
    (kept : lockedField (unregisterMiner waveID minerID runtime).2 waveID = lockedField runtime waveID) :
    entrantOf runtime waveID minerID = none := by
  rw [entrantOf_found found]
  cases held : wave.entrants.get? minerID with
  | none => rfl
  | some entrant =>
    have done : unregisterMiner waveID minerID runtime = (.ok (),{ runtime with
        world := runtime.world
        waves := runtime.waves.modifyAt waveID fun wave => { wave with entrants := wave.entrants.erase minerID } }) := by
      unfold unregisterMiner
      rw [Faulty.bind_of_ok _ (by rw [findWave,found]),held]
      exact Faulty.bind_of_ok _ (upsertRow_steady steady)
    rw [done,lockedField_entrants (fun entrants => entrants.erase minerID) found,lockedField_of_found found] at kept
    have same := congrArg (fun field : LockedField => field.entrants.get? minerID) (Option.some.inj kept)
    simp [OrdMap.get?_erase,held] at same

theorem joinTournament_steady (steady : runtime.world.outcomes = []) (waveID tournamentID : String)
    (assignment : SeatAssignment) : ∃ waves,
      joinTournament waveID tournamentID assignment runtime = (.ok (),{ runtime with waves := waves }) ∧
        (waves.get? waveID).map WaveRuntime.tournamentID = (runtime.waves.get? waveID).map WaveRuntime.tournamentID := by
  have done : joinTournament waveID tournamentID assignment runtime = upsertRow (updateEntrant waveID assignment.minerID
      (fun entrant => { entrant with tournamentID := tournamentID }) runtime).2 := by
    unfold joinTournament
    rw [Faulty.bind_of_ok _ (upsertRow_steady steady)]
    rfl
  refine ⟨_,done.trans (upsertRow_steady steady),?_⟩
  rw [OrdMap.get?_modifyAt,if_pos rfl]
  cases runtime.waves.get? waveID <;> rfl

theorem joinAll_steady (waveID tournamentID : String) (assignments : List SeatAssignment)
    {runtime : RuntimeService} (steady : runtime.world.outcomes = []) : ∃ waves,
      Faulty.each (joinTournament waveID tournamentID) assignments runtime = (.ok (),{ runtime with waves := waves }) ∧
        (waves.get? waveID).map WaveRuntime.tournamentID = (runtime.waves.get? waveID).map WaveRuntime.tournamentID := by
  induction assignments generalizing runtime with
  | nil => exact ⟨runtime.waves,rfl,rfl⟩
  | cons assignment rest ih =>
    obtain ⟨next,first,kept⟩ := joinTournament_steady steady waveID tournamentID assignment
    obtain ⟨waves,done,same⟩ := ih (show ({ runtime with waves := next } : RuntimeService).world.outcomes = [] from steady)
    exact ⟨waves,(Faulty.bind_of_ok _ first).trans done,same.trans kept⟩

theorem lockWave_changes (sum256 : String → Nat) (linked : Linked runtime) (steady : runtime.world.outcomes = [])
    (found : runtime.waves.get? waveID = some wave) :
    lockedField (lockWave sum256 waveID runtime).2 waveID ≠ lockedField runtime waveID := by
  obtain ⟨marked,updated,named⟩ : ∃ waves, updateWave waveID (fun wave' =>
      { wave' with
        hub := some (lockedHub sum256 waveID wave.entrants)
        tournamentID := Model.tournamentID waveID 1
        wave := { wave'.wave with state := .seatingGenerated } }) runtime = (.ok (),{ runtime with waves := waves }) ∧
      (waves.get? waveID).map WaveRuntime.tournamentID = some (Model.tournamentID waveID 1) := by
    refine ⟨_,rfl,?_⟩
    rw [OrdMap.get?_modifyAt,if_pos rfl,found]
    rfl
  have still : ({ runtime with waves := marked } : RuntimeService).world.outcomes = [] := steady
  obtain ⟨waves,joined,same⟩ := joinAll_steady waveID (Model.tournamentID waveID 1)
    (lockPlan sum256 waveID wave.entrants).seatAssignments still
  have done : lockWave sum256 waveID runtime = addTournament waveID (lockPlan sum256 waveID wave.entrants)
      wave.entrants.size { runtime with waves := waves } := by
    rw [lockWave_found sum256 found]
    unfold lockField
    rw [Faulty.bind_of_ok _ updated,Faulty.bind_of_ok _ (upsertRow_steady still),
      Faulty.bind_of_ok _ (upsertRow_steady still),Faulty.bind_of_ok _ joined]
  obtain ⟨final,stored,own⟩ := Option.map_eq_some_iff.mp (same.trans named)
  intro kept
  have after : lockedField (lockWave sum256 waveID runtime).2 waveID = some
      ⟨final.entrants.mapVals fun _ entrant => footing entrant,Model.tournamentID waveID 1,some runtime.allocated⟩ := by
    rw [done]
    have held : (addTournament waveID (lockPlan sum256 waveID wave.entrants) wave.entrants.size
        { runtime with waves := waves }).2.waves.get? waveID = some final := stored
    have added : (addTournament waveID (lockPlan sum256 waveID wave.entrants) wave.entrants.size
        { runtime with waves := waves }).2.tournaments.get? (Model.tournamentID waveID 1) = some
        ⟨runtime.allocated,waveID,newTournament waveID (lockPlan sum256 waveID wave.entrants) wave.entrants.size,
          OrdMap.empty,OrdMap.empty,false⟩ := OrdMap.get?_insert_self _ _ _
    rw [lockedField_of_found held,own,added]
    rfl
  rw [after,lockedField_of_found found] at kept
  have parts := Option.some.inj kept
  have ref := (congrArg LockedField.tournament parts).symm
  obtain ⟨entry,listed,fresh⟩ := Option.map_eq_some_iff.mp ref
  have older := (linked.tournaments _ entry listed).2
  rw [fresh] at older
  exact Nat.lt_irrefl _ older

end Steady

/-- The wave was locked in a run from the empty runtime, and anything may have happened since. -/
structure AfterLock (sum256 : String → Nat) (waveID : String) (runtime : RuntimeService) : Prop where
  locked : ∃ before moment advance after, Reachable sum256 before ∧
    perform sum256 (.lockWave waveID) (before.at moment) = (.ok advance,after) ∧
    Run sum256 (fun _ _ => True) after runtime

section Late
variable {sum256 : String → Nat} {waveID : String} {runtime : RuntimeService}

theorem AfterLock.linked (late : AfterLock sum256 waveID runtime) : Linked runtime := by
  obtain ⟨before,moment,advance,after,reached,locks,run⟩ := late.locked
  have locked : Linked (perform sum256 (.lockWave waveID) (before.at moment)).2 := (reached.linked.at moment).perform
  rw [locks] at locked
  exact locked.run run

theorem AfterLock.wave (late : AfterLock sum256 waveID runtime) : ∃ wave, runtime.waves.get? waveID = some wave := by
  obtain ⟨before,moment,advance,after,reached,locks,run⟩ := late.locked
  have linked := reached.linked.at moment
  have held : ((before.at moment).waves.get? waveID).isSome := by
    cases found : (before.at moment).waves.get? waveID with
    | some wave => rfl
    | none =>
      rw [perform,Faulty.bind_of_error _ (lockWave_missing sum256 found)] at locks
      cases locks
  have kept : ((perform sum256 (.lockWave waveID) (before.at moment)).2.waves.get? waveID).isSome :=
    (waves_covers waveID (scope (before.at moment) (.lockWave waveID))).perform sum256 linked held
  have after_ : Linked (perform sum256 (.lockWave waveID) (before.at moment)).2 := linked.perform
  rw [locks] at kept after_
  exact Option.isSome_iff_exists.mp (covers_run (waves_covers waveID) after_ run kept)

/-- A late call about the field leaves the locked field as it is if it is inert, and only then where the
repository takes its writes. -/
theorem late_call_keeps_field_iff (late : AfterLock sum256 waveID runtime) (call : Call) (field : call.lateFor = true)
    (moment : Moment) :
    (Inert runtime waveID call →
      lockedField (perform sum256 call (runtime.at moment)).2 waveID = lockedField runtime waveID) ∧
    (moment.outcomes = [] →
      lockedField (perform sum256 call (runtime.at moment)).2 waveID = lockedField runtime waveID →
        Inert runtime waveID call) := by
  have linked := late.linked.at moment
  obtain ⟨wave,found⟩ : ∃ wave, (runtime.at moment).waves.get? waveID = some wave := late.wave
  cases call with
  | registerMiner other minerID =>
    rw [perform,bind_return]
    refine ⟨fun inert => ?_,fun steady kept => ?_⟩
    · change Inert (runtime.at moment) waveID (.registerMiner other minerID) at inert
      exact registerMiner_keeps inert
    · change (runtime.at moment).world.outcomes = [] at steady
      by_cases own : other = waveID
      · subst own
        have blank := registerMiner_changes steady found kept
        exact .inr blank
      · exact .inl own
  | unregisterMiner other minerID =>
    rw [perform,bind_return]
    refine ⟨fun inert => ?_,fun steady kept => ?_⟩
    · change Inert (runtime.at moment) waveID (.unregisterMiner other minerID) at inert
      exact unregisterMiner_keeps inert
    · change (runtime.at moment).world.outcomes = [] at steady
      by_cases own : other = waveID
      · subst own
        have absent := unregisterMiner_changes steady found kept
        exact .inr absent
      · exact .inl own
  | lockWave other =>
    rw [perform,bind_return]
    refine ⟨fun differ => lockWave_keeps sum256 linked differ,fun steady kept own => ?_⟩
    subst own
    exact lockWave_changes sum256 linked steady found kept
  | _ => cases field

end Late

def registeredPair : RuntimeService :=
  performAll (fun _ => 0) [.createWave "w" "rated",.registerMiner "w" "a",.registerMiner "w" "b"] {}

def lockedPair : RuntimeService := (perform (fun _ => 0) (.lockWave "w") (registeredPair.at {})).2

theorem registeredPair_reachable : Reachable (fun _ => 0) registeredPair := by
  unfold Reachable registeredPair
  exact performAll_run _ _ _

theorem lockedPair_locked : perform (fun _ => 0) (.lockWave "w") (registeredPair.at {}) = (.ok .waiting,lockedPair) := by
  have ok : (perform (fun _ => 0) (.lockWave "w") (registeredPair.at {})).1 = .ok .waiting := by decide +kernel
  unfold lockedPair
  rw [← ok]

theorem lockedPair_afterLock : AfterLock (fun _ => 0) "w" lockedPair :=
  ⟨registeredPair,{},.waiting,lockedPair,registeredPair_reachable,lockedPair_locked,.start⟩

theorem late_call_keeps_field_iff_lockedPair :
    lockedField (perform (fun _ => 0) (.unregisterMiner "w" "c") (lockedPair.at {})).2 "w" = lockedField lockedPair "w" :=
  (late_call_keeps_field_iff lockedPair_afterLock (.unregisterMiner "w" "c") rfl {}).1
    (.inr (by decide +kernel))

/-- After the lock a miner comes in, another one leaves, and the tournament is replaced. -/
theorem late_calls_change_field : AfterLock (fun _ => 0) "w" lockedPair ∧
    ((lockedField (performAll (fun _ => 0) [.registerMiner "w" "c"] lockedPair) "w").map fun field =>
      field.entrants.keys) = some ["a","b","c"] ∧
    ((lockedField (performAll (fun _ => 0) [.unregisterMiner "w" "a"] lockedPair) "w").map fun field =>
      field.entrants.keys) = some ["b"] ∧
    (lockedField lockedPair "w").map LockedField.tournament = some (some 0) ∧
    (lockedField (performAll (fun _ => 0) [.lockWave "w"] lockedPair) "w").map LockedField.tournament = some (some 1) :=
  ⟨lockedPair_afterLock,by decide +kernel⟩

end Clawchain.Arena.App
