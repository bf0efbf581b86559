import Clawchain.Arena.App.Writes

/-! Whole calls: which wave and tournament each of them writes to, and the rule by
which what every single write keeps is kept by every run. -/
namespace Clawchain.Arena.App
open Clawchain.Lib Clawchain.Arena.Table Clawchain.Arena.Hub Relation

/-! Waves and tournaments belong together. -/

/-- A wave has at most the tournament named after it, and tournaments are allocated one after the other. -/
structure Linked (runtime : RuntimeService) : Prop where
  waves : ∀ waveID wave, runtime.waves.get? waveID = some wave →
    wave.tournamentID = "" ∨ wave.tournamentID = Model.tournamentID waveID 1
  tournaments : ∀ tournamentID entry, runtime.tournaments.get? tournamentID = some entry →
    tournamentID = Model.tournamentID entry.waveID 1 ∧ entry.ref < runtime.allocated

theorem Linked.empty : Linked {} := ⟨fun _ _ found => by simp at found,fun _ _ found => by simp at found⟩

section Links
variable {syncs : Prop} {runtime before after : RuntimeService} {waveID tournamentID : String}

theorem Linked.mapWave (linked : Linked runtime) {f : WaveRuntime → WaveRuntime}
    (kept : ∀ wave, (f wave).tournamentID = wave.tournamentID ∨
      (f wave).tournamentID = Model.tournamentID waveID 1) :
    Linked { runtime with waves := runtime.waves.modifyAt waveID f } := by
  refine ⟨?_,linked.tournaments⟩
  intro name wave found
  change (runtime.waves.modifyAt waveID f).get? name = some wave at found
  rw [OrdMap.get?_modifyAt] at found
  split_ifs at found with own
  · obtain ⟨old,held,rfl⟩ := Option.map_eq_some_iff.mp found
    rcases kept old with same | own'
    · rw [same]
      exact linked.waves name old held
    · rw [own,own']
      exact .inr rfl
  · exact linked.waves name wave found

theorem Linked.mapTournament (linked : Linked runtime) {f : TournamentRuntime → TournamentRuntime}
    (kept : ∀ entry, (f entry).ref = entry.ref ∧ (f entry).waveID = entry.waveID) :
    Linked { runtime with tournaments := runtime.tournaments.modifyAt tournamentID f } := by
  refine ⟨linked.waves,?_⟩
  intro name entry found
  change (runtime.tournaments.modifyAt tournamentID f).get? name = some entry at found
  rw [OrdMap.get?_modifyAt] at found
  split_ifs at found with own
  · obtain ⟨old,held,rfl⟩ := Option.map_eq_some_iff.mp found
    rw [(kept old).1,(kept old).2]
    exact linked.tournaments name old held
  · exact linked.tournaments name entry found

theorem Linked.write (linked : Linked before) (write : Write syncs waveID tournamentID before after) : Linked after := by
  cases write with
  | rows world seats eliminations => exact ⟨linked.waves,linked.tournaments⟩
  | actors actors => exact ⟨linked.waves,linked.tournaments⟩
  | wave f kept => exact linked.mapWave fun wave => .inl (kept wave).2
  | entrant minerID f change => exact linked.mapWave fun wave => .inl rfl
  | tournament f kept => exact linked.mapTournament fun entry => ⟨(kept entry).1,(kept entry).2.1⟩
  | pend minerID intervention entrant found active f kept =>
    exact linked.mapTournament fun entry => ⟨(kept entry).1,(kept entry).2.1⟩

end Links

def scope (runtime : RuntimeService) : Call → String
  | .createWave waveID _ => waveID
  | .registerMiner waveID _ => waveID
  | .unregisterMiner waveID _ => waveID
  | .lockWave waveID => waveID
  | .publishSeats waveID => waveID
  | .forceRemoveBeforeStart waveID _ => waveID
  | .disqualify tournamentID _ _ => ((runtime.tournaments.get? tournamentID).map TournamentRuntime.waveID).getD ""
  | .armTimeCap tournamentID => ((runtime.tournaments.get? tournamentID).map TournamentRuntime.waveID).getD ""
  | .voidTournament tournamentID => ((runtime.tournaments.get? tournamentID).map TournamentRuntime.waveID).getD ""
  | .observe tournamentID _ _ => ((runtime.tournaments.get? tournamentID).map TournamentRuntime.waveID).getD ""
  | _ => ""

def Call.makesField : Call → Bool
  | .createWave _ _ => true
  | .registerMiner _ _ => true
  | .unregisterMiner _ _ => true
  | .lockWave _ => true
  | _ => false

section Whole
variable {syncs : Prop} {waveID tournamentID : String}
variable {runtime : RuntimeService}

theorem findWave_cases (waveID : String) (runtime : RuntimeService) :
    findWave waveID runtime = (.error .waveNotFound,runtime) ∨
      ∃ wave, runtime.waves.get? waveID = some wave ∧ findWave waveID runtime = (.ok wave,runtime) := by
  unfold findWave
  cases found : runtime.waves.get? waveID with
  | none => exact .inl rfl
  | some wave => exact .inr ⟨wave,rfl,rfl⟩

theorem findTournament_cases (tournamentID : String) (runtime : RuntimeService) :
    findTournament tournamentID runtime = (.error .tournamentNotFound,runtime) ∨
      ∃ entry, runtime.tournaments.get? tournamentID = some entry ∧
        findTournament tournamentID runtime = (.ok entry,runtime) := by
  unfold findTournament
  cases found : runtime.tournaments.get? tournamentID with
  | none => exact .inl rfl
  | some entry => exact .inr ⟨entry,rfl,rfl⟩

theorem writes_setHub (service : Service) : Faulty.Moves (Writes syncs waveID tournamentID) (setHub waveID service) :=
  writes_updateWave fun _ => ⟨rfl,rfl⟩

theorem writes_publishSeats (linked : Linked runtime) :
    Writes syncs waveID (Model.tournamentID waveID 1) runtime (publishSeats waveID runtime).2 := by
  unfold publishSeats
  obtain missing | ⟨wave,found,fetched⟩ := findWave_cases waveID runtime
  · rw [Faulty.bind_of_error _ missing]
    exact ReflTransGen.refl
  · rw [Faulty.bind_of_ok _ fetched]
    cases wave.hub with
    | none => exact ReflTransGen.refl
    | some hub =>
      dsimp only
      split
      · exact ReflTransGen.refl
      · rename_i named
        rw [(linked.waves waveID wave found).resolve_left named]
        refine (?_ : Faulty.Moves (Writes syncs waveID (Model.tournamentID waveID 1)) (_ : RuntimeM Unit)) runtime
        refine writes_bind (writes_hubCall _) fun service => writes_bind (writes_setHub _) fun _ =>
          writes_bind (writes_updateWave fun _ => ⟨rfl,rfl⟩) fun _ => writes_bind writes_upsertRow fun _ => ?_
        split
        · exact writes_fail _
        · exact writes_bind (writes_findTournament _) fun _ => writes_bind writes_upsertRow fun _ =>
            writes_bind (writes_updateTournament fun _ => ⟨rfl,rfl,rfl⟩) fun _ =>
            writes_bind (writes_each fun _ _ => writes_upsertRow) fun _ =>
            writes_bind (writes_applySeatingPlan _) fun _ => writes_bind (writes_resetLiveHub _ _ _) fun _ =>
            writes_persistRoundBarrier _

theorem writes_forceRemoveBeforeStart (sum256 : String → Nat) (minerID : String) (linked : Linked runtime) :
    Writes syncs waveID (Model.tournamentID waveID 1) runtime (forceRemoveBeforeStart sum256 waveID minerID runtime).2 := by
  unfold forceRemoveBeforeStart
  obtain missing | ⟨wave,found,fetched⟩ := findWave_cases waveID runtime
  · rw [Faulty.bind_of_error _ missing]
    exact ReflTransGen.refl
  · rw [Faulty.bind_of_ok _ fetched]
    cases wave.hub with
    | none => exact ReflTransGen.refl
    | some hub =>
      dsimp only
      split
      · exact ReflTransGen.refl
      · rename_i named
        rw [(linked.waves waveID wave found).resolve_left named]
        refine (?_ : Faulty.Moves (Writes syncs waveID (Model.tournamentID waveID 1)) (_ : RuntimeM Unit)) runtime
        refine writes_bind (writes_hubCall _) fun removed => writes_bind (writes_setHub _) fun _ =>
          writes_bind (writes_hubCall _) fun service => writes_bind (writes_setHub _) fun _ =>
          writes_bind (writes_given (writes_bind writes_upsertRow fun _ => writes_updateEntrant fun _ => .removed))
          fun _ => ?_
        split
        · exact writes_fail _
        · exact writes_bind (writes_findTournament _) fun _ => writes_bind writes_upsertRow fun _ =>
            writes_bind (writes_updateTournament fun _ => ⟨rfl,rfl,rfl⟩) fun _ =>
            writes_bind (writes_applySeatingPlan _) fun _ => writes_resetLiveHub _ _ _

theorem writes_pend {minerID : String} (intervention : OperatorIntervention) {entrant : Entrant}
    (found : entrantOf runtime waveID minerID = some entrant) (active : entrant.registrationState ≠ .disqualified)
    {f : TournamentRuntime → TournamentRuntime}
    (kept : ∀ entry, (f entry).ref = entry.ref ∧ (f entry).waveID = entry.waveID ∧
      (f entry).pendingDisqualifications = entry.pendingDisqualifications.insert minerID intervention)
    {rest : RuntimeM Unit} (later : Faulty.Moves (Writes syncs waveID tournamentID) rest) :
    Writes syncs waveID tournamentID runtime ((updateTournament tournamentID f >>= fun _ => rest) runtime).2 :=
  (Writes.one (.pend minerID intervention entrant found active f kept)).trans (later _)

theorem writes_disqualify (minerID reason : String) (runtime : RuntimeService) :
    Writes syncs (((runtime.tournaments.get? tournamentID).map TournamentRuntime.waveID).getD "") tournamentID runtime
      (disqualify tournamentID minerID reason runtime).2 := by
  unfold disqualify
  obtain missing | ⟨entry,found,fetched⟩ := findTournament_cases tournamentID runtime
  · rw [Faulty.bind_of_error _ missing]
    exact ReflTransGen.refl
  · rw [Faulty.bind_of_ok _ fetched,found]
    dsimp only [Option.map_some,Option.getD_some]
    split
    · exact ReflTransGen.refl
    · obtain missing | ⟨wave,held,fetched⟩ := findWave_cases entry.waveID runtime
      · rw [Faulty.bind_of_error _ missing]
        exact ReflTransGen.refl
      · rw [Faulty.bind_of_ok _ fetched]
        cases known : wave.entrants.get? minerID with
        | none => exact ReflTransGen.refl
        | some entrant =>
          dsimp only
          by_cases foreign : entrant.tournamentID ≠ tournamentID
          · rw [if_pos foreign]
            exact ReflTransGen.refl
          · rw [if_neg foreign]
            by_cases inactive : entrant.registrationState ≠ .playing ∧ entrant.registrationState ≠ .seated
            · rw [if_pos inactive]
              exact ReflTransGen.refl
            · rw [if_neg inactive]
              have active : entrant.registrationState ≠ .disqualified := by
                intro gone
                exact inactive (by simp [gone])
              cases entry.seatAssignments.get? minerID with
              | none => exact ReflTransGen.refl
              | some assignment =>
                dsimp only
                split
                · exact ReflTransGen.refl
                · have row : Writes syncs entry.waveID tournamentID runtime _ := writes_upsertRow runtime
                  obtain ⟨world,done | ⟨e,failed⟩⟩ := upsertRow_cases runtime
                  · rw [done] at row
                    rw [Faulty.bind_of_ok _ done]
                    have still : entrantOf { runtime with world := world } entry.waveID minerID = some entrant := by
                      change (runtime.waves.get? entry.waveID).bind _ = _
                      rw [held]
                      exact known
                    refine row.trans (writes_pend ⟨tournamentID,assignment.tableID,
                      seatID assignment.tableID assignment.seatNo,minerID,reason⟩ still active ?_ ?_)
                    · exact fun _ => ⟨rfl,rfl,rfl⟩
                    · exact writes_bind writes_upsertRow fun _ => writes_updateTournament fun _ => ⟨rfl,rfl,rfl⟩
                  · rw [failed] at row
                    rw [Faulty.bind_of_error _ failed]
                    exact row

theorem writes_armTimeCap (runtime : RuntimeService) :
    Writes syncs (((runtime.tournaments.get? tournamentID).map TournamentRuntime.waveID).getD "") tournamentID runtime
      (armTimeCap tournamentID runtime).2 := by
  unfold armTimeCap
  obtain missing | ⟨entry,found,fetched⟩ := findTournament_cases tournamentID runtime
  · rw [Faulty.bind_of_error _ missing]
    exact ReflTransGen.refl
  · rw [Faulty.bind_of_ok _ fetched,found]
    refine (?_ : Faulty.Moves (Writes syncs entry.waveID tournamentID) (_ : RuntimeM Unit)) runtime
    exact writes_bind (writes_updateWave fun _ => ⟨rfl,rfl⟩) fun _ => writes_bind writes_upsertRow fun _ =>
      Faulty.Moves.read fun _ => writes_updateTournament fun _ => ⟨rfl,rfl,rfl⟩

theorem writes_voidTournament : Faulty.Moves (Writes syncs waveID tournamentID) (voidTournament tournamentID) :=
  writes_bind (writes_findTournament _) fun _ => writes_bind writes_upsertRow fun _ =>
    Faulty.Moves.read fun _ => writes_updateTournament fun _ => ⟨rfl,rfl,rfl⟩

theorem writes_onSubmitCommitted (tableID : String) (state : ActorState) (runtime : RuntimeService) :
    Writes True (((runtime.tournaments.get? tournamentID).map TournamentRuntime.waveID).getD "") tournamentID runtime
      (onSubmitCommitted tournamentID tableID state runtime).2 := by
  unfold onSubmitCommitted Faulty.read
  dsimp only
  cases found : runtime.tournaments.get? tournamentID with
  | none => exact ReflTransGen.refl
  | some entry => exact writes_postActorMutation tableID state runtime

theorem writes_recoverActor (name tableID : String) :
    Faulty.Moves (Writes syncs waveID tournamentID) (recoverActor name tableID) := by
  refine Faulty.Moves.read fun _ => ?_
  split
  · exact writes_pure ()
  · split
    · exact writes_pure ()
    · refine writes_bind (writes_storeCall _) fun _ => writes_bind (writes_storeCall _) fun _ => ?_
      split
      · exact writes_pure ()
      · exact writes_setActor _ _

theorem bind_return {α β : Type} (x : RuntimeM α) (b : β) (runtime : RuntimeService) :
    ((x >>= fun _ => pure b : RuntimeM β) runtime).2 = (x runtime).2 := by
  cases run : x runtime with
  | mk outcome after =>
    cases outcome with
    | ok a => rw [Faulty.bind_of_ok _ run]; rfl
    | error e => rw [Faulty.bind_of_error _ run]

theorem perform_writes (sum256 : String → Nat) {call : Call} (plays : call.makesField = false) (linked : Linked runtime) :
    Writes True (scope runtime call) (Model.tournamentID (scope runtime call) 1) runtime
      (perform sum256 call runtime).2 := by
  have named {tournamentID : String} (writes : Writes True
      (((runtime.tournaments.get? tournamentID).map TournamentRuntime.waveID).getD "") tournamentID runtime
        (perform sum256 call runtime).2)
      (missing : runtime.tournaments.get? tournamentID = none → (perform sum256 call runtime).2 = runtime) :
      Writes True (((runtime.tournaments.get? tournamentID).map TournamentRuntime.waveID).getD "")
        (Model.tournamentID (((runtime.tournaments.get? tournamentID).map TournamentRuntime.waveID).getD "") 1) runtime
          (perform sum256 call runtime).2 := by
    cases found : runtime.tournaments.get? tournamentID with
    | none =>
      rw [missing found]
      exact ReflTransGen.refl
    | some entry =>
      rw [found] at writes
      dsimp only [Option.map_some,Option.getD_some] at writes ⊢
      rwa [← (linked.tournaments tournamentID entry found).1]
  cases call with
  | createWave waveID mode => cases plays
  | registerMiner waveID minerID => cases plays
  | unregisterMiner waveID minerID => cases plays
  | lockWave waveID => cases plays
  | publishSeats waveID =>
    rw [perform,bind_return]
    exact writes_publishSeats linked
  | forceRemoveBeforeStart waveID minerID =>
    rw [perform,bind_return]
    exact writes_forceRemoveBeforeStart sum256 minerID linked
  | disqualify tournamentID minerID reason =>
    rw [perform,bind_return] at named ⊢
    refine named (writes_disqualify minerID reason runtime) fun missing => ?_
    unfold disqualify
    rw [Faulty.bind_of_error _ (by rw [findTournament,missing])]
  | armTimeCap tournamentID =>
    rw [perform,bind_return] at named ⊢
    refine named (writes_armTimeCap runtime) fun missing => ?_
    unfold armTimeCap
    rw [Faulty.bind_of_error _ (by rw [findTournament,missing])]
  | voidTournament tournamentID =>
    rw [perform,bind_return] at named ⊢
    refine named (writes_voidTournament runtime) fun missing => ?_
    unfold voidTournament
    rw [Faulty.bind_of_error _ (by rw [findTournament,missing])]
  | handle tableID envelope =>
    rw [perform,bind_return]
    exact writes_handleActor tableID envelope runtime
  | observe tournamentID tableID state =>
    refine named (writes_onSubmitCommitted tableID state runtime) fun missing => ?_
    change (onSubmitCommitted tournamentID tableID state runtime).2 = runtime
    unfold onSubmitCommitted Faulty.read
    dsimp only
    rw [missing]
    rfl
  | recover tournamentID tableID =>
    rw [perform,bind_return]
    exact writes_recoverActor tournamentID tableID runtime

end Whole

section Field
variable {α : Type} (sum256 : String → Nat)

def lockPlan (waveID : String) (entrants : OrdMap String Entrant) : TournamentPlan :=
  let active := (lockingHub waveID entrants).activeEntrants
  { tournamentID := Model.tournamentID waveID 1
    ratedOrPractice := (classifyShard active.length).1
    noMultiplier := (classifyShard active.length).2
    entrantIDs := active.map Entrant.id
    seatAssignments := assignSeats sum256 (Model.tournamentID waveID 1) active }

def lockedHub (waveID : String) (entrants : OrdMap String Entrant) : Service :=
  { lockingHub waveID entrants with
    waveState := some .seatingGenerated
    tournaments := [lockPlan sum256 waveID entrants] }

def lockField (waveID : String) (wave : WaveRuntime) : RuntimeM Unit := do
  updateWave waveID fun wave' =>
    { wave' with
      hub := some (lockedHub sum256 waveID wave.entrants)
      tournamentID := Model.tournamentID waveID 1
      wave := { wave'.wave with state := .seatingGenerated } }
  upsertRow
  upsertRow
  Faulty.each (joinTournament waveID (Model.tournamentID waveID 1)) (lockPlan sum256 waveID wave.entrants).seatAssignments
  addTournament waveID (lockPlan sum256 waveID wave.entrants) wave.entrants.size

variable {waveID : String} {runtime : RuntimeService}

theorem lockWave_missing (missing : runtime.waves.get? waveID = none) :
    lockWave sum256 waveID runtime = (.error .waveNotFound,runtime) := by
  unfold lockWave
  rw [Faulty.bind_of_error _ (by rw [findWave,missing])]

theorem lockWave_found {wave : WaveRuntime} (found : runtime.waves.get? waveID = some wave) :
    lockWave sum256 waveID runtime = lockField sum256 waveID wave runtime := by
  unfold lockWave
  rw [Faulty.bind_of_ok _ (by rw [findWave,found])]
  rfl

def joining (waveID : String) (entrant : Entrant) : Entrant :=
  { entrant with tournamentID := Model.tournamentID waveID 1 }

structure FieldChange (waveID : String) (f : WaveRuntime → WaveRuntime) : Prop where
  tournament : ∀ wave, (f wave).tournamentID = wave.tournamentID ∨ (f wave).tournamentID = Model.tournamentID waveID 1
  entrants : ∀ wave minerID entrant, (f wave).entrants.get? minerID = some entrant →
    wave.entrants.get? minerID = some entrant ∨ entrant = newEntrant waveID minerID ∨
      entrant = joining waveID ((wave.entrants.get? minerID).getD {})

structure NewTournament (waveID : String) (runtime : RuntimeService) (entry : TournamentRuntime) : Prop where
  wave : entry.waveID = waveID
  ref : entry.ref = runtime.allocated
  pending : entry.pendingDisqualifications = OrdMap.empty

theorem fieldChange_join (waveID minerID : String) : FieldChange waveID fun wave =>
    { wave with entrants := wave.entrants.insert minerID (joining waveID ((wave.entrants.get? minerID).getD {})) } := by
  refine ⟨fun _ => .inl rfl,fun wave name entrant found => ?_⟩
  dsimp only at found
  rw [OrdMap.get?_insert] at found
  split_ifs at found with own
  · rw [own]
    exact .inr (.inr (Option.some.inj found).symm)
  · exact .inl found

theorem fieldChange_register (waveID minerID : String) : FieldChange waveID fun wave =>
    { wave with entrants := wave.entrants.insert minerID (newEntrant waveID minerID) } := by
  refine ⟨fun _ => .inl rfl,fun wave name entrant found => ?_⟩
  dsimp only at found
  rw [OrdMap.get?_insert] at found
  split_ifs at found with own
  · rw [own]
    exact .inr (.inl (Option.some.inj found).symm)
  · exact .inl found

theorem fieldChange_unregister (waveID minerID : String) : FieldChange waveID fun wave =>
    { wave with entrants := wave.entrants.erase minerID } := by
  refine ⟨fun _ => .inl rfl,fun wave name entrant found => .inl ?_⟩
  dsimp only at found
  rw [OrdMap.get?_erase] at found
  split_ifs at found
  exact found

/-! What holds of every write of a lock, whether it fails or not. -/

theorem lockField_moves {R : RuntimeService → RuntimeService → Prop} (refl : ∀ s, R s s)
    (trans : ∀ a b c, R a b → R b c → R a c) (rows : ∀ s world, R s { s with world := world })
    (locks : ∀ s f, FieldChange waveID f → R s { s with waves := s.waves.modifyAt waveID f })
    (adds : ∀ s entry, NewTournament waveID s entry → R s { s with
      tournaments := s.tournaments.insert (Model.tournamentID waveID 1) entry, allocated := s.allocated + 1 })
    (wave : WaveRuntime) : Faulty.Moves R (lockField sum256 waveID wave) := by
  have row : Faulty.Moves R upsertRow := fun s => rows s _
  unfold lockField
  refine Faulty.Moves.bind trans (fun s => locks s _ ⟨fun _ => .inr rfl,fun _ _ _ found => .inl found⟩) fun _ =>
    Faulty.Moves.bind trans row fun _ => Faulty.Moves.bind trans row fun _ => Faulty.Moves.bind trans ?_ fun _ s =>
    adds s _ ⟨rfl,rfl,rfl⟩
  refine Faulty.Moves.each refl trans fun assignment _ => ?_
  exact Faulty.Moves.bind trans row fun _ => Faulty.Moves.bind trans (fun s => locks s _ (fieldChange_join _ _)) fun _ => row

theorem registerMiner_cases (waveID minerID : String) (runtime : RuntimeService) :
    (runtime.waves.get? waveID = none ∧ registerMiner waveID minerID runtime = (.error .waveNotFound,runtime)) ∨
    ∃ wave world, runtime.waves.get? waveID = some wave ∧
      ((∃ e, registerMiner waveID minerID runtime = (.error e,{ runtime with world := world })) ∨
        registerMiner waveID minerID runtime = (.ok (),{ runtime with
          world := world
          waves := runtime.waves.modifyAt waveID fun wave =>
            { wave with entrants := wave.entrants.insert minerID (newEntrant waveID minerID) } })) := by
  unfold registerMiner
  obtain missing | ⟨wave,found,fetched⟩ := findWave_cases waveID runtime
  · refine .inl ⟨?_,Faulty.bind_of_error _ missing⟩
    by_contra held
    obtain ⟨wave,found⟩ := Option.ne_none_iff_exists'.mp held
    unfold findWave at missing
    rw [found] at missing
    cases missing
  · rw [Faulty.bind_of_ok _ fetched]
    obtain ⟨world,done | ⟨e,failed⟩⟩ := upsertRow_cases runtime
    · exact .inr ⟨wave,world,found,.inr (Faulty.bind_of_ok _ done)⟩
    · exact .inr ⟨wave,world,found,.inl ⟨e,Faulty.bind_of_error _ failed⟩⟩

theorem unregisterMiner_cases (waveID minerID : String) (runtime : RuntimeService) :
    (entrantOf runtime waveID minerID = none ∧ ∃ e, unregisterMiner waveID minerID runtime = (.error e,runtime)) ∨
    ∃ entrant world, entrantOf runtime waveID minerID = some entrant ∧
      ((∃ e, unregisterMiner waveID minerID runtime = (.error e,{ runtime with world := world })) ∨
        unregisterMiner waveID minerID runtime = (.ok (),{ runtime with
          world := world
          waves := runtime.waves.modifyAt waveID fun wave =>
            { wave with entrants := wave.entrants.erase minerID } })) := by
  unfold unregisterMiner entrantOf
  cases found : runtime.waves.get? waveID with
  | none => exact .inl ⟨rfl,_,Faulty.bind_of_error _ (by rw [findWave,found])⟩
  | some wave =>
    rw [Faulty.bind_of_ok _ (by rw [findWave,found])]
    cases known : wave.entrants.get? minerID with
    | none => exact .inl ⟨known,_,rfl⟩
    | some entrant =>
      obtain ⟨world,done | ⟨e,failed⟩⟩ := upsertRow_cases runtime
      · exact .inr ⟨entrant,world,known,.inr (Faulty.bind_of_ok _ done)⟩
      · exact .inr ⟨entrant,world,known,.inl ⟨e,Faulty.bind_of_error _ failed⟩⟩

end Field

structure Covers (waveID : String) (R : RuntimeService → RuntimeService → Prop) : Prop where
  refl : ∀ s, R s s
  trans : ∀ a b c, R a b → R b c → R a c
  write : ∀ s t, Write True waveID (Model.tournamentID waveID 1) s t → R s t
  wave : ∀ s f, FieldChange waveID f → R s { s with waves := s.waves.modifyAt waveID f }
  create : ∀ s wave, wave.tournamentID = "" → wave.entrants = OrdMap.empty →
    R s { s with waves := s.waves.insert waveID wave }
  add : ∀ s entry, NewTournament waveID s entry → R s { s with
    tournaments := s.tournaments.insert (Model.tournamentID waveID 1) entry, allocated := s.allocated + 1 }

section Covered
variable {R : RuntimeService → RuntimeService → Prop} {waveID : String} (covers : Covers waveID R)

include covers

theorem Covers.rows (s : RuntimeService) (world : World) : R s { s with world := world } :=
  covers.write _ _ (.rows world s.seats s.eliminations)

theorem Covers.createWave (mode : String) : Faulty.Moves R (createWave waveID mode) := by
  intro runtime
  unfold App.createWave
  by_cases blank : waveID = ""
  · rw [if_pos blank]
    exact covers.refl runtime
  · rw [if_neg blank]
    cases arenaModeNamed mode with
    | none => exact covers.refl runtime
    | some mode =>
      dsimp only
      by_cases taken : (runtime.waves.get? waveID).isSome = true
      · rw [if_pos taken]
        exact covers.refl runtime
      · rw [if_neg taken]
        exact Faulty.Moves.bind covers.trans (fun s => covers.rows s _) (fun _ s => covers.create s _ rfl rfl)
          runtime

theorem Covers.registerMiner (minerID : String) : Faulty.Moves R (registerMiner waveID minerID) := by
  intro runtime
  obtain ⟨-,same⟩ | ⟨wave,world,-,⟨e,same⟩ | done⟩ := registerMiner_cases waveID minerID runtime
  · rw [same]
    exact covers.refl runtime
  · rw [same]
    exact covers.rows runtime world
  · rw [done]
    exact covers.trans _ _ _ (covers.rows runtime world) (covers.wave _ _ (fieldChange_register _ _))

theorem Covers.unregisterMiner (minerID : String) : Faulty.Moves R (unregisterMiner waveID minerID) := by
  intro runtime
  obtain ⟨-,e,same⟩ | ⟨entrant,world,-,⟨e,same⟩ | done⟩ := unregisterMiner_cases waveID minerID runtime
  · rw [same]
    exact covers.refl runtime
  · rw [same]
    exact covers.rows runtime world
  · rw [done]
    exact covers.trans _ _ _ (covers.rows runtime world) (covers.wave _ _ (fieldChange_unregister _ _))

theorem Covers.lockWave (sum256 : String → Nat) : Faulty.Moves R (lockWave sum256 waveID) := by
  intro runtime
  cases found : runtime.waves.get? waveID with
  | none =>
    rw [lockWave_missing sum256 found]
    exact covers.refl runtime
  | some wave =>
    rw [lockWave_found sum256 found]
    exact lockField_moves sum256 covers.refl covers.trans covers.rows covers.wave covers.add wave
      runtime

theorem Covers.writes {before after : RuntimeService}
    (writes : Writes True waveID (Model.tournamentID waveID 1) before after) : R before after := by
  induction writes with
  | refl => exact covers.refl before
  | tail _ write ih => exact covers.trans _ _ _ ih (covers.write _ _ write)

end Covered

variable {runtime : RuntimeService} {sum256 : String → Nat}

theorem Covers.perform {R : RuntimeService → RuntimeService → Prop} (sum256 : String → Nat) {call : Call}
    (covers : Covers (scope runtime call) R) (linked : Linked runtime) :
    R runtime (perform sum256 call runtime).2 := by
  cases kind : call.makesField with
  | false => exact covers.writes (perform_writes sum256 kind linked)
  | true =>
    cases call with
    | createWave waveID mode =>
      rw [App.perform,bind_return]
      exact covers.createWave mode runtime
    | registerMiner waveID minerID =>
      rw [App.perform,bind_return]
      exact covers.registerMiner minerID runtime
    | unregisterMiner waveID minerID =>
      rw [App.perform,bind_return]
      exact covers.unregisterMiner minerID runtime
    | lockWave waveID =>
      rw [App.perform,bind_return]
      exact covers.lockWave sum256 runtime
    | _ => cases kind

theorem Linked.addTournament {waveID : String} (linked : Linked runtime) {entry : TournamentRuntime}
    (new : NewTournament waveID runtime entry) :
    Linked { runtime with
      tournaments := runtime.tournaments.insert (Model.tournamentID waveID 1) entry
      allocated := runtime.allocated + 1 } := by
  refine ⟨linked.waves,?_⟩
  intro name other found
  change (runtime.tournaments.insert _ entry).get? name = some other at found
  rw [OrdMap.get?_insert] at found
  split_ifs at found with same
  · cases found
    exact ⟨by rw [same,new.wave],new.ref ▸ Nat.lt_succ_self _⟩
  · obtain ⟨named,older⟩ := linked.tournaments name other found
    exact ⟨named,Nat.lt_succ_of_lt older⟩

theorem linked_covers (waveID : String) : Covers waveID fun before after => Linked before → Linked after where
  refl _ linked := linked
  trans _ _ _ first second linked := second (first linked)
  write _ _ write linked := linked.write write
  wave _ _ change linked := linked.mapWave change.tournament
  create s wave blank _ linked := by
    refine ⟨fun name other found => ?_,linked.tournaments⟩
    change (s.waves.insert waveID wave).get? name = some other at found
    rw [OrdMap.get?_insert] at found
    split_ifs at found
    · cases found
      exact .inl blank
    · exact linked.waves name other found
  add _ _ new linked := linked.addTournament new

theorem Linked.perform {call : Call} (linked : Linked runtime) :
    Linked (perform sum256 call runtime).2 := (linked_covers _).perform sum256 linked linked

theorem Linked.at (linked : Linked runtime) (moment : Moment) : Linked (runtime.at moment) :=
  ⟨linked.waves,linked.tournaments⟩

theorem Linked.run {admits : RuntimeService → Call → Prop} {start : RuntimeService} (linked : Linked start)
    (run : Run sum256 admits start runtime) : Linked runtime := by
  induction run with
  | start => exact linked
  | call _ moment call _ ih => exact (ih.at moment).perform

theorem Reachable.linked (reached : Reachable sum256 runtime) :
    Linked runtime := Linked.empty.run reached

theorem covers_run {R : RuntimeService → RuntimeService → Prop} (covers : ∀ waveID, Covers waveID R)
    {admits : RuntimeService → Call → Prop} {start : RuntimeService} (linked : Linked start)
    (run : Run sum256 admits start runtime) : R start runtime := by
  induction run with
  | start => exact (covers "").refl start
  | call run moment call _ ih =>
    exact (covers "").trans _ _ _ ((covers "").trans _ _ _ ih ((covers "").rows _ _))
      ((covers _).perform sum256 ((linked.run run).at moment))

theorem waves_covers (waveID other : String) : Covers other fun before after =>
    (before.waves.get? waveID).isSome → (after.waves.get? waveID).isSome := by
  have modified (s : RuntimeService) (f : WaveRuntime → WaveRuntime)
      (held : (s.waves.get? waveID).isSome) : ((s.waves.modifyAt other f).get? waveID).isSome := by
    rw [OrdMap.get?_modifyAt]
    split_ifs
    · simpa using held
    · exact held
  refine ⟨fun _ held => held,fun _ _ _ first second held => second (first held),?_,fun s f _ => modified s f,
    ?_,fun _ _ _ held => held⟩
  · intro s t write held
    cases write with
    | rows => exact held
    | actors => exact held
    | wave f _ => exact modified s f held
    | entrant minerID f _ => exact modified s _ held
    | tournament => exact held
    | pend => exact held
  · intro s wave _ _ held
    change ((s.waves.insert other wave).get? waveID).isSome
    rw [OrdMap.get?_insert]
    split_ifs
    · rfl
    · exact held

end Clawchain.Arena.App
