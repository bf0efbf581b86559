import Clawchain.Arena.App.Calls

/-! How long a disqualification lasts: nothing but a barrier touches the entrant, and
the next barrier of its tournament forgets why it left. -/
namespace Clawchain.Arena.App
open Clawchain.Lib Clawchain.Arena.Table Clawchain.Arena.Hub Relation

/-! No disqualification waits for an entrant that is out. -/

def Settled (runtime : RuntimeService) : Prop := ∀ waveID minerID entrant,
  entrantOf runtime waveID minerID = some entrant → entrant.registrationState = .disqualified →
    pendingAt runtime (Model.tournamentID waveID 1) minerID = false

section Parts
variable {runtime : RuntimeService} {waveID other minerID : String}
variable {tournamentID : String} {syncs : Prop}

theorem entrantOf_modifyAt (f : WaveRuntime → WaveRuntime) :
    entrantOf { runtime with waves := runtime.waves.modifyAt other f } waveID minerID =
      if waveID = other then (runtime.waves.get? waveID).bind fun wave => (f wave).entrants.get? minerID
      else entrantOf runtime waveID minerID := by
  unfold entrantOf
  dsimp only
  rw [OrdMap.get?_modifyAt]
  split_ifs with own
  · rw [own]
    cases runtime.waves.get? other <;> rfl
  · rfl

theorem pendingAt_iff : pendingAt runtime tournamentID minerID = true ↔
    ∃ entry, runtime.tournaments.get? tournamentID = some entry ∧
      entry.pendingDisqualifications.get? minerID ≠ none := by
  unfold pendingAt
  rw [Option.any_eq_true]
  simp only [Option.isSome_iff_ne_none]

theorem Change.disqualified_of {f : Entrant → Entrant} {old : Entrant}
    (change : Change syncs runtime waveID tournamentID minerID f) (out : (f old).registrationState = .disqualified) :
    old.registrationState = .disqualified ∨ syncs ∧ (pendingAt runtime tournamentID minerID = false ∨
      ∃ entrant, entrantOf runtime waveID minerID = some entrant ∧ entrant.registrationState = .disqualified) := by
  cases change with
  | seated assignment plan => cases out
  | cleared => exact .inl out
  | removed => cases out
  | playing assignment => cases out
  | eliminated => cases out
  | disqualified barrier carriedOut => exact .inr ⟨barrier,carriedOut⟩
  | finished ranks stages champion =>
    left
    unfold completedEntrant at out
    dsimp only at out
    split_ifs at out with already
    exact already

theorem Write.parts {before after : RuntimeService} (write : Write syncs waveID tournamentID before after) :
    (after.tournaments = before.tournaments ∧ ∀ name minerID entrant, entrantOf after name minerID = some entrant →
      entrantOf before name minerID = some entrant ∨ name = waveID ∧ ∃ f,
        Change syncs before waveID tournamentID minerID f ∧ entrant = f ((entrantOf before name minerID).getD {})) ∨
    (after.waves = before.waves ∧ ∀ name minerID, pendingAt after name minerID = true →
      pendingAt before name minerID = true ∨ name = tournamentID ∧ ∃ entrant,
        entrantOf before waveID minerID = some entrant ∧ entrant.registrationState ≠ .disqualified) := by
  cases write with
  | rows world seats eliminations => exact .inl ⟨rfl,fun _ _ _ found => .inl found⟩
  | actors actors => exact .inl ⟨rfl,fun _ _ _ found => .inl found⟩
  | wave f kept =>
    refine .inl ⟨rfl,fun name minerID entrant found => .inl ?_⟩
    rw [entrantOf_modifyAt] at found
    split_ifs at found with own
    · unfold entrantOf
      simpa only [kept] using found
    · exact found
  | entrant changed f change =>
    refine .inl ⟨rfl,fun name minerID entrant found => ?_⟩
    rw [entrantOf_modifyAt] at found
    split_ifs at found with own
    · obtain ⟨wave,held,found⟩ := Option.bind_eq_some_iff.mp found
      have known : entrantOf before name minerID = wave.entrants.get? minerID := by
        unfold entrantOf
        rw [held]
        rfl
      rw [OrdMap.get?_insert] at found
      split_ifs at found with same
      · rw [known,same]
        exact .inr ⟨own,f,same ▸ change,(Option.some.inj found).symm⟩
      · exact .inl (known.trans found)
    · exact .inl found
  | tournament f kept =>
    refine .inr ⟨rfl,fun name minerID waits => .inl ?_⟩
    obtain ⟨entry,stored,present⟩ := pendingAt_iff.mp waits
    dsimp only at stored
    rw [OrdMap.get?_modifyAt] at stored
    split_ifs at stored with own
    · obtain ⟨old,held,rfl⟩ := Option.map_eq_some_iff.mp stored
      exact pendingAt_iff.mpr ⟨old,held,(kept old).2.2 minerID present⟩
    · exact pendingAt_iff.mpr ⟨entry,stored,present⟩
  | pend pended intervention active listed playing f kept =>
    refine .inr ⟨rfl,fun name minerID waits => ?_⟩
    obtain ⟨entry,stored,present⟩ := pendingAt_iff.mp waits
    dsimp only at stored
    rw [OrdMap.get?_modifyAt] at stored
    split_ifs at stored with own
    · obtain ⟨old,held,rfl⟩ := Option.map_eq_some_iff.mp stored
      rw [(kept old).2.2,OrdMap.get?_insert] at present
      split_ifs at present with same
      · exact .inr ⟨own,active,same ▸ listed,playing⟩
      · exact .inl (pendingAt_iff.mpr ⟨old,held,present⟩)
    · exact .inl (pendingAt_iff.mpr ⟨entry,stored,present⟩)

theorem Write.out {name : String} {before after : RuntimeService} {entrant : Entrant}
    (write : Write syncs waveID tournamentID before after) (found : entrantOf after name minerID = some entrant)
    (out : entrant.registrationState = .disqualified) :
    (∃ old, entrantOf before name minerID = some old ∧ old.registrationState = .disqualified) ∨
      syncs ∧ name = waveID ∧ pendingAt before tournamentID minerID = false ∧ after.tournaments = before.tournaments := by
  rcases write.parts with ⟨tournaments,entrants⟩ | ⟨waves,-⟩
  · rcases entrants name minerID entrant found with same | ⟨rfl,f,change,rfl⟩
    · exact .inl ⟨entrant,same,out⟩
    · rcases change.disqualified_of out with already | ⟨barrier,unpended | stored⟩
      · cases known : entrantOf before name minerID with
        | none =>
          rw [known] at already
          cases already
        | some old =>
          rw [known] at already
          exact .inl ⟨old,rfl,already⟩
      · exact .inr ⟨barrier,rfl,unpended,tournaments⟩
      · exact .inl stored
  · refine .inl ⟨entrant,?_,out⟩
    unfold entrantOf at found ⊢
    rwa [waves] at found

end Parts

theorem Settled.write {before after : RuntimeService} {waveID : String} (settled : Settled before)
    (write : Write True waveID (Model.tournamentID waveID 1) before after) : Settled after := by
  intro name minerID entrant found out
  rcases write.out found out with ⟨old,held,already⟩ | ⟨-,rfl,unpended,tournaments⟩
  · have unpended := settled name minerID old held already
    by_contra waits
    rw [Bool.not_eq_false] at waits
    rcases write.parts with ⟨tournaments,-⟩ | ⟨-,pending⟩
    · unfold pendingAt at waits unpended
      rw [tournaments,unpended] at waits
      cases waits
    · rcases pending _ minerID waits with before_ | ⟨same,active,listed,playing⟩
      · rw [unpended] at before_
        cases before_
      · rw [← Model.tournamentID_injective 1 same,held] at listed
        cases listed
        exact playing already
  · unfold pendingAt at unpended ⊢
    rwa [tournaments]

theorem settled_covers (waveID : String) : Covers waveID fun before after => Settled before → Settled after where
  refl _ settled := settled
  trans _ _ _ first second settled := second (first settled)
  write _ _ write settled := settled.write write
  wave s f change settled := by
    intro name minerID entrant found out
    rw [entrantOf_modifyAt] at found
    split_ifs at found with own
    · subst own
      cases held : s.waves.get? name with
      | none =>
        rw [held] at found
        cases found
      | some wave =>
        rw [held,Option.bind_some] at found
        have known : entrantOf s name minerID = wave.entrants.get? minerID := by
          unfold entrantOf
          rw [held]
          rfl
        rcases change.entrants wave minerID entrant found with same | rfl | rfl
        · exact settled name minerID entrant (known.trans same) out
        · cases out
        · cases present : wave.entrants.get? minerID with
          | none =>
            rw [present] at out
            cases out
          | some old =>
            rw [present] at out known
            exact settled name minerID old known out
    · exact settled name minerID entrant found out
  create s wave _ empty settled := by
    intro name minerID entrant found out
    change ((s.waves.insert waveID wave).get? name).bind _ = some entrant at found
    rw [OrdMap.get?_insert] at found
    split_ifs at found
    · rw [Option.bind_some,empty] at found
      cases found
    · exact settled name minerID entrant found out
  add s entry new settled := by
    intro name minerID entrant found out
    by_contra waits
    rw [Bool.not_eq_false,pendingAt_iff] at waits
    obtain ⟨other,stored,present⟩ := waits
    dsimp only at stored
    rw [OrdMap.get?_insert] at stored
    split_ifs at stored
    · cases stored
      rw [new.pending] at present
      exact present rfl
    · have unpended := settled name minerID entrant found out
      rw [pendingAt_iff.mpr ⟨other,stored,present⟩] at unpended
      cases unpended

theorem Reachable.settled {sum256 : String → Nat} {runtime : RuntimeService} (reached : Reachable sum256 runtime) :
    Settled runtime :=
  covers_run settled_covers Linked.empty reached fun _ _ _ found => by simp [entrantOf] at found

/-! Calls that close no round leave the entrants alone. -/

def closesRound (runtime : RuntimeService) (waveID : String) : Call → Bool
  | .observe tournamentID tableID state => tournamentID = Model.tournamentID waveID 1 &&
      (runtime.tournaments.get? tournamentID).isSome && (runtime.actors.get? tableID).isSome &&
      state.table.handClosed && completesRound runtime waveID tableID
  | _ => false

def SameEntrants (waveID : String) (before after : RuntimeService) : Prop :=
  (after.waves.get? waveID).map WaveRuntime.entrants = (before.waves.get? waveID).map WaveRuntime.entrants

section Same
variable {waveID other : String} {α β : Type}
variable {runtime : RuntimeService}

theorem SameEntrants.refl (runtime : RuntimeService) : SameEntrants waveID runtime runtime := rfl

theorem same_pure (a : α) : Faulty.Moves (SameEntrants waveID) (pure a : RuntimeM α) :=
  fun _ => rfl

theorem same_bind {x : RuntimeM α} {f : α → RuntimeM β} (first : Faulty.Moves (SameEntrants waveID) x)
    (next : ∀ a, Faulty.Moves (SameEntrants waveID) (f a)) : Faulty.Moves (SameEntrants waveID) (x >>= f) :=
  Faulty.Moves.bind (fun _ _ _ first second => second.trans first) first next

theorem same_storeCall (call : StoreM α) : Faulty.Moves (SameEntrants waveID) (storeCall call) := fun _ => rfl

theorem same_upsertRow : Faulty.Moves (SameEntrants waveID) upsertRow := fun _ => rfl

theorem same_updateTournament (tournamentID : String) (f : TournamentRuntime → TournamentRuntime) :
    Faulty.Moves (SameEntrants waveID) (updateTournament tournamentID f) := fun _ => rfl

theorem same_updateWave {f : WaveRuntime → WaveRuntime} (kept : ∀ wave, (f wave).entrants = wave.entrants) :
    Faulty.Moves (SameEntrants waveID) (updateWave other f) := by
  intro runtime
  change ((runtime.waves.modifyAt other f).get? waveID).map _ = _
  rw [OrdMap.get?_modifyAt]
  split_ifs with own
  · rw [own]
    cases runtime.waves.get? other with
    | none => rfl
    | some wave => exact congrArg some (kept wave)
  · rfl

theorem same_findTournament (tournamentID : String) :
    Faulty.Moves (SameEntrants waveID) (findTournament tournamentID) := by
  intro runtime
  unfold findTournament
  split <;> rfl

theorem same_findWave (name : String) : Faulty.Moves (SameEntrants waveID) (findWave name) := by
  intro runtime
  unfold findWave
  split <;> rfl

theorem same_handleActor (tableID : String) (envelope : CommandEnvelope) :
    Faulty.Moves (SameEntrants waveID) (handleActor tableID envelope) := by
  intro runtime
  unfold handleActor
  split <;> rfl

theorem same_openActorPhase (tableID : String) (phase : ActorState → Int → PhaseDefinition) :
    Faulty.Moves (SameEntrants waveID) (openActorPhase tableID phase) := by
  intro runtime
  unfold openActorPhase
  split <;> rfl

theorem same_persistRoundBarrier (name : String) :
    Faulty.Moves (SameEntrants waveID) (persistRoundBarrier name) := by
  intro runtime
  unfold persistRoundBarrier
  split <;> rfl

theorem same_disqualify (tournamentID minerID reason : String) :
    Faulty.Moves (SameEntrants waveID) (disqualify tournamentID minerID reason) := by
  refine same_bind (same_findTournament _) fun entry => ?_
  split
  · exact fun _ => rfl
  · refine same_bind (same_findWave _) fun wave => ?_
    split
    · exact fun _ => rfl
    · split
      · exact fun _ => rfl
      · split
        · exact fun _ => rfl
        · split
          · exact fun _ => rfl
          · split
            · exact fun _ => rfl
            · exact same_bind same_upsertRow fun _ => same_bind (same_updateTournament _ _) fun _ =>
                same_bind same_upsertRow fun _ => same_updateTournament _ _

theorem same_armTimeCap (tournamentID : String) : Faulty.Moves (SameEntrants waveID) (armTimeCap tournamentID) :=
  same_bind (same_findTournament _) fun _ => same_bind (same_updateWave fun _ => rfl) fun _ =>
    same_bind same_upsertRow fun _ => Faulty.Moves.read fun _ => same_updateTournament _ _

theorem same_voidTournament (tournamentID : String) :
    Faulty.Moves (SameEntrants waveID) (voidTournament tournamentID) :=
  same_bind (same_findTournament _) fun _ => same_bind same_upsertRow fun _ =>
    Faulty.Moves.read fun _ => same_updateTournament _ _

theorem same_recoverActor (tournamentID tableID : String) :
    Faulty.Moves (SameEntrants waveID) (recoverActor tournamentID tableID) := by
  refine Faulty.Moves.read fun _ => ?_
  split
  · exact same_pure ()
  · split
    · exact same_pure ()
    · refine same_bind (same_storeCall _) fun _ => same_bind (same_storeCall _) fun _ => ?_
      split
      · exact same_pure ()
      · exact fun _ => rfl

theorem same_advanceClosedTable {tournamentID tableID : String} (waits : completesRound runtime other tableID = false) :
    SameEntrants waveID runtime (advanceClosedTable other tournamentID tableID runtime).2 := by
  rw [advanceClosedTable,Faulty.read_run]
  cases (runtime.waves.get? other).bind WaveRuntime.liveHub with
  | none => rfl
  | some liveHub =>
    refine (?_ : Faulty.Moves (SameEntrants waveID) (_ : RuntimeM Advance)) runtime
    refine same_bind (same_updateWave fun _ => rfl) fun _ => same_bind (same_persistRoundBarrier _) fun _ => ?_
    rw [waits]
    exact same_pure _

theorem same_postActorMutation {tournamentID tableID : String} {state : ActorState}
    (waits : (runtime.actors.get? tableID).isSome → state.table.handClosed = true →
      completesRound runtime other tableID = false) :
    SameEntrants waveID runtime (postActorMutation other tournamentID tableID state runtime).2 := by
  rw [postActorMutation,Faulty.read_run]
  cases actor : runtime.actors.get? tableID with
  | none => rfl
  | some _ =>
    dsimp only
    by_cases closed : state.table.handClosed = true
    · rw [if_pos closed]
      have advanced : SameEntrants waveID runtime (advanceClosedTable other tournamentID tableID runtime).2 :=
        same_advanceClosedTable (waits (by rw [actor]; rfl) closed)
      cases run : advanceClosedTable other tournamentID tableID runtime with
      | mk outcome after =>
        rw [run] at advanced
        cases outcome with
        | error e =>
          rw [Faulty.bind_of_error _ run]
          exact advanced
        | ok advance =>
          rw [Faulty.bind_of_ok _ run]
          refine Eq.trans ?_ advanced
          refine (?_ : Faulty.Moves (SameEntrants waveID) (_ : RuntimeM Advance)) after
          refine Faulty.Moves.read fun _ => ?_
          split
          · exact same_pure _
          · exact same_bind same_upsertRow fun _ => same_pure _
    · rw [if_neg closed]
      refine (?_ : Faulty.Moves (SameEntrants waveID) (_ : RuntimeM Advance)) runtime
      exact same_bind (Faulty.Moves.given SameEntrants.refl (same_openActorPhase _ _)) fun _ =>
        same_bind same_upsertRow fun _ => same_pure _

theorem same_covers (differ : other ≠ waveID) : Covers other (SameEntrants waveID) where
  refl := SameEntrants.refl
  trans _ _ _ first second := second.trans first
  write s t write := by
    cases write with
    | rows => rfl
    | actors => rfl
    | wave f kept => exact same_updateWave (fun wave => (kept wave).1) s
    | entrant minerID f change =>
      change ((s.waves.modifyAt other _).get? waveID).map _ = _
      rw [OrdMap.get?_modifyAt,if_neg differ.symm]
    | tournament => rfl
    | pend => rfl
  wave s f change := by
    change ((s.waves.modifyAt other f).get? waveID).map _ = _
    rw [OrdMap.get?_modifyAt,if_neg differ.symm]
  create s wave _ _ := by
    change ((s.waves.insert other wave).get? waveID).map _ = _
    rw [OrdMap.get?_insert_of_ne _ _ differ.symm]
  add _ _ _ := rfl

theorem perform_same (sum256 : String → Nat) {call : Call} (linked : Linked runtime)
    (field : call.fieldWave ≠ some waveID) (stays : closesRound runtime waveID call = false) :
    SameEntrants waveID runtime (perform sum256 call runtime).2 := by
  by_cases here : scope runtime call = waveID
  · cases call with
    | createWave name mode => exact absurd (congrArg some here) field
    | registerMiner name minerID => exact absurd (congrArg some here) field
    | unregisterMiner name minerID => exact absurd (congrArg some here) field
    | lockWave name => exact absurd (congrArg some here) field
    | publishSeats name => exact absurd (congrArg some here) field
    | forceRemoveBeforeStart name minerID => exact absurd (congrArg some here) field
    | disqualify tournamentID minerID reason =>
      rw [perform,bind_return]
      exact same_disqualify tournamentID minerID reason runtime
    | armTimeCap tournamentID =>
      rw [perform,bind_return]
      exact same_armTimeCap tournamentID runtime
    | voidTournament tournamentID =>
      rw [perform,bind_return]
      exact same_voidTournament tournamentID runtime
    | handle tableID envelope =>
      rw [perform,bind_return]
      exact same_handleActor tableID envelope runtime
    | observe tournamentID tableID state =>
      change SameEntrants waveID runtime (onSubmitCommitted tournamentID tableID state runtime).2
      rw [onSubmitCommitted,Faulty.read_run]
      cases found : runtime.tournaments.get? tournamentID with
      | none => rfl
      | some entry =>
        have own : entry.waveID = waveID := by simpa [scope,found] using here
        have named := (linked.tournaments tournamentID entry found).1
        rw [own] at named
        subst named
        refine same_postActorMutation fun actor closed => ?_
        rw [own]
        simpa [closesRound,found,actor,closed] using stays
    | recover tournamentID tableID =>
      rw [perform,bind_return]
      exact same_recoverActor tournamentID tableID runtime
  · exact (same_covers here).perform sum256 linked

end Same

def Forgotten (waveID minerID : String) (runtime : RuntimeService) : Prop :=
  ∀ entrant, entrantOf runtime waveID minerID = some entrant → entrant.registrationState ≠ .disqualified

section Forget
variable {waveID tournamentID minerID : String}

theorem Forgotten.writes {before after : RuntimeService} (forgotten : Forgotten waveID minerID before)
    (writes : Writes False waveID tournamentID before after) : Forgotten waveID minerID after := by
  induction writes with
  | refl => exact forgotten
  | @tail middle final _ write ih =>
    intro entrant found out
    rcases write.out found out with ⟨old,held,already⟩ | ⟨barrier,-⟩
    · exact ih old held already
    · exact barrier

end Forget

/-! With a repository that takes every write. -/

/-- The computation goes through when no call to the repository fails. -/
def Steady {α : Type} (x : RuntimeM α) : Prop :=
  ∀ s, s.world.outcomes = [] → ∃ a t, x s = (.ok a,t) ∧ t.world.outcomes = []

section Steady
variable {α β : Type}

theorem steady_pure (a : α) : Steady (pure a : RuntimeM α) := fun s calm => ⟨a,s,rfl,calm⟩

theorem steady_bind {x : RuntimeM α} {f : α → RuntimeM β} (first : Steady x) (next : ∀ a, Steady (f a)) :
    Steady (x >>= f) := by
  intro s calm
  obtain ⟨a,t,done,still⟩ := first s calm
  obtain ⟨b,u,done',still'⟩ := next a t still
  exact ⟨b,u,(Faulty.bind_of_ok f done).trans done',still'⟩

theorem steady_read {f : RuntimeService → RuntimeM α} (each : ∀ s, Steady (f s)) : Steady (Faulty.read f) :=
  fun s calm => each s s calm

theorem steady_each {f : β → RuntimeM Unit} {list : List β} (one : ∀ b ∈ list, Steady (f b)) :
    Steady (Faulty.each f list) := by
  induction list with
  | nil => exact steady_pure ()
  | cons b rest ih =>
    exact steady_bind (one b List.mem_cons_self) fun _ => ih fun other inside => one other (List.mem_cons_of_mem _ inside)

theorem steady_upsertRow : Steady upsertRow := fun s calm => ⟨(),s,upsertRow_steady calm,calm⟩

theorem steady_modify {f : RuntimeService → RuntimeService} (kept : ∀ s, (f s).world = s.world) :
    Steady (Faulty.modify f : RuntimeM Unit) := fun s calm => ⟨(),f s,rfl,by rw [kept,calm]⟩

theorem steady_updateTournament (tournamentID : String) (f : TournamentRuntime → TournamentRuntime) :
    Steady (updateTournament tournamentID f) := steady_modify fun _ => rfl

theorem steady_updateWave (waveID : String) (f : WaveRuntime → WaveRuntime) : Steady (updateWave waveID f) :=
  steady_modify fun _ => rfl

theorem steady_recordExit (tournamentID minerID : String) (disqualified : Bool) (entrant : Entrant) :
    Steady (recordExit tournamentID minerID disqualified entrant) := by
  unfold recordExit
  split
  · exact steady_pure ()
  · refine steady_bind ?_ fun _ => ?_
    · unfold appendFieldExitEvent
      split
      · exact steady_pure ()
      · exact steady_read fun _ => steady_bind steady_upsertRow fun _ => steady_modify fun _ => rfl
    · split
      · exact steady_bind steady_upsertRow fun _ => steady_updateTournament _ _
      · exact steady_pure ()

theorem steady_putEntrant (waveID minerID : String) (entrant : Entrant) (change : Entrant → Entrant) :
    Steady (putEntrant waveID minerID entrant change) := by
  unfold putEntrant
  split
  · exact steady_pure ()
  · exact steady_bind steady_upsertRow fun _ => steady_updateWave _ _

theorem steady_syncEntrant (waveID tournamentID : String) (active : OrdMap String SeatAssignment) (minerID : String) :
    Steady (syncEntrant waveID tournamentID active minerID) := by
  refine steady_read fun runtime => ?_
  split
  · exact steady_pure ()
  · split
    · exact steady_pure ()
    · split
      · exact steady_putEntrant _ _ _ _
      · exact steady_bind (steady_recordExit _ _ _ _) fun _ => steady_putEntrant _ _ _ _

end Steady

/-! What a barrier does to one entrant. -/
section Sync
variable {waveID tournamentID minerID : String}
variable {runtime : RuntimeService} {entrant : Entrant} {other : String}

def Untouched (waveID tournamentID minerID : String) (before after : RuntimeService) : Prop :=
  entrantOf after waveID minerID = entrantOf before waveID minerID ∧
    pendingAt after tournamentID minerID = pendingAt before tournamentID minerID

theorem Untouched.refl (runtime : RuntimeService) : Untouched waveID tournamentID minerID runtime runtime := ⟨rfl,rfl⟩

theorem Untouched.trans (a b c : RuntimeService) (first : Untouched waveID tournamentID minerID a b)
    (second : Untouched waveID tournamentID minerID b c) : Untouched waveID tournamentID minerID a c :=
  ⟨second.1.trans first.1,second.2.trans first.2⟩

theorem untouched_row : Faulty.Moves (Untouched waveID tournamentID minerID) upsertRow := fun _ => ⟨rfl,rfl⟩

theorem untouched_recordExit (differ : other ≠ minerID) (disqualified : Bool) (entrant : Entrant) :
    Faulty.Moves (Untouched waveID tournamentID minerID) (recordExit tournamentID other disqualified entrant) := by
  unfold recordExit
  split
  · exact fun _ => .refl _
  · refine Faulty.Moves.bind Untouched.trans ?_ fun _ => ?_
    · unfold appendFieldExitEvent
      split
      · exact fun _ => .refl _
      · exact Faulty.Moves.read fun _ => Faulty.Moves.bind Untouched.trans untouched_row fun _ _ => ⟨rfl,rfl⟩
    · split
      · refine Faulty.Moves.bind Untouched.trans untouched_row fun _ runtime => ⟨rfl,?_⟩
        change ((runtime.tournaments.modifyAt tournamentID _).get? tournamentID).any _ = pendingAt runtime tournamentID minerID
        unfold pendingAt
        rw [OrdMap.get?_modifyAt,if_pos rfl]
        cases runtime.tournaments.get? tournamentID with
        | none => rfl
        | some entry => simp [OrdMap.get?_erase,differ.symm]
      · exact fun _ => .refl _

theorem untouched_putEntrant (differ : other ≠ minerID) (entrant : Entrant) (change : Entrant → Entrant) :
    Faulty.Moves (Untouched waveID tournamentID minerID) (putEntrant waveID other entrant change) := by
  unfold putEntrant
  split
  · exact fun _ => .refl _
  · refine Faulty.Moves.bind Untouched.trans untouched_row fun _ runtime => ⟨?_,rfl⟩
    change entrantOf { runtime with waves := runtime.waves.modifyAt waveID _ } waveID minerID = _
    rw [entrantOf_modifyAt,if_pos rfl]
    unfold entrantOf
    simp only [OrdMap.get?_insert_of_ne _ _ differ.symm]

theorem untouched_syncEntrant (differ : other ≠ minerID) (active : OrdMap String SeatAssignment) :
    Faulty.Moves (Untouched waveID tournamentID minerID) (syncEntrant waveID tournamentID active other) := by
  refine Faulty.Moves.read fun runtime => ?_
  split
  · exact fun _ => .refl _
  · split
    · exact fun _ => .refl _
    · split
      · exact untouched_putEntrant differ _ _
      · exact Faulty.Moves.bind Untouched.trans (untouched_recordExit differ _ _) fun _ => untouched_putEntrant differ _ _

theorem putEntrant_forgets {change : Entrant → Entrant} (calm : runtime.world.outcomes = [])
    (out : entrant.registrationState = .disqualified)
    (leaves : ∀ entrant, (change entrant).registrationState ≠ .disqualified) :
    Forgotten waveID minerID (putEntrant waveID minerID entrant change runtime).2 := by
  have changed : change entrant ≠ entrant := fun same => leaves entrant (by rw [same,out])
  unfold putEntrant
  rw [if_neg changed,Faulty.bind_of_ok _ (upsertRow_steady calm)]
  intro after found
  change entrantOf { runtime with waves := runtime.waves.modifyAt waveID _ } waveID minerID = _ at found
  rw [entrantOf_modifyAt,if_pos rfl] at found
  obtain ⟨wave,-,found⟩ := Option.bind_eq_some_iff.mp found
  rw [OrdMap.get?_insert_self] at found
  rw [← Option.some.inj found]
  exact leaves _

theorem syncEntrant_forgets (active : OrdMap String SeatAssignment) (calm : runtime.world.outcomes = [])
    (found : entrantOf runtime waveID minerID = some entrant) (own : entrant.tournamentID = tournamentID)
    (out : entrant.registrationState = .disqualified) (unpended : pendingAt runtime tournamentID minerID = false) :
    Forgotten waveID minerID (syncEntrant waveID tournamentID active minerID runtime).2 := by
  rw [syncEntrant,Faulty.read_run,found]
  dsimp only
  rw [if_neg (fun foreign => foreign own),unpended]
  cases active.get? minerID with
  | some assignment => exact putEntrant_forgets calm out fun _ => by simp [playingAt]
  | none =>
    obtain ⟨_,middle,done,still⟩ := steady_recordExit tournamentID minerID false entrant runtime calm
    dsimp only
    rw [Faulty.bind_of_ok _ done]
    exact putEntrant_forgets still out fun _ => by simp [leftField]

theorem syncEntrants_forget (active : OrdMap String SeatAssignment) {miners : List String} (distinct : miners.Nodup)
    (listed : minerID ∈ miners) (calm : runtime.world.outcomes = [])
    (found : entrantOf runtime waveID minerID = some entrant) (own : entrant.tournamentID = tournamentID)
    (out : entrant.registrationState = .disqualified) (unpended : pendingAt runtime tournamentID minerID = false) :
    ∃ after, Faulty.each (syncEntrant waveID tournamentID active) miners runtime = (.ok (),after) ∧
      after.world.outcomes = [] ∧ Forgotten waveID minerID after := by
  induction miners generalizing runtime with
  | nil => cases listed
  | cons first rest ih =>
    obtain ⟨absent,tail⟩ := List.nodup_cons.mp distinct
    obtain ⟨_,middle,done,still⟩ := steady_syncEntrant waveID tournamentID active first runtime calm
    by_cases here : first = minerID
    · subst here
      have forgotten := syncEntrant_forgets active calm found own out unpended
      rw [done] at forgotten
      have through : Steady (Faulty.each (syncEntrant waveID tournamentID active) rest) :=
        steady_each fun other _ => steady_syncEntrant waveID tournamentID active other
      have others : Faulty.Moves (Untouched waveID tournamentID first)
          (Faulty.each (syncEntrant waveID tournamentID active) rest) := by
        refine Faulty.Moves.each Untouched.refl Untouched.trans fun other inside => untouched_syncEntrant ?_ active
        exact fun same => absent (same ▸ inside)
      obtain ⟨_,after,done',still'⟩ := through middle still
      refine ⟨after,(Faulty.bind_of_ok _ done).trans done',still',?_⟩
      have kept := others middle
      rw [done'] at kept
      exact fun entrant found => forgotten entrant (kept.1.symm.trans found)
    · have kept : Untouched waveID tournamentID minerID runtime _ := untouched_syncEntrant here active runtime
      rw [done] at kept
      obtain ⟨after,done',still',forgotten⟩ := ih tail ((List.mem_cons.mp listed).resolve_left fun same => here same.symm)
        still (kept.1.trans found) (kept.2.trans unpended)
      exact ⟨after,(Faulty.bind_of_ok _ done).trans done',still',forgotten⟩

theorem closeRound_forgets (calm : runtime.world.outcomes = [])
    (found : entrantOf runtime waveID minerID = some entrant) (own : entrant.tournamentID = tournamentID)
    (out : entrant.registrationState = .disqualified) (unpended : pendingAt runtime tournamentID minerID = false) :
    Forgotten waveID minerID (closeRound waveID tournamentID runtime).2 := by
  rw [closeRound,Faulty.read_run]
  dsimp only
  generalize currentAssignmentsForTournament runtime waveID tournamentID = assignments
  obtain ⟨after,synced,still,forgotten⟩ : ∃ after,
      syncActiveEntrants waveID tournamentID assignments runtime = (.ok (),after) ∧
        after.world.outcomes = [] ∧ Forgotten waveID minerID after := by
    obtain ⟨wave,held,known⟩ := Option.bind_eq_some_iff.mp found
    have listed : minerID ∈ fieldMiners runtime waveID := by
      unfold fieldMiners
      rw [held]
      exact OrdMap.mem_keys_iff.mpr ⟨entrant,known⟩
    have distinct : (fieldMiners runtime waveID).Nodup := by
      unfold fieldMiners
      rw [held]
      exact wave.entrants.keys_nodup
    change ∃ after, Faulty.each (syncEntrant waveID tournamentID (activeByMiner assignments)) (fieldMiners runtime waveID)
      { runtime with tournaments := runtime.tournaments.modifyAt tournamentID _ } = (.ok (),after) ∧ _
    refine syncEntrants_forget (activeByMiner assignments) distinct listed calm found own out ?_
    unfold pendingAt at unpended ⊢
    dsimp only
    rw [OrdMap.get?_modifyAt,if_pos rfl]
    cases stored : runtime.tournaments.get? tournamentID with
    | none => rfl
    | some entry =>
      rw [stored] at unpended
      exact unpended
  rw [Faulty.bind_of_ok _ synced]
  refine forgotten.writes ((?_ : Faulty.Moves (Writes False waveID tournamentID) (_ : RuntimeM Advance)) after)
  refine writes_bind (writes_resetLiveHub _ _ _) fun _ => Faulty.Moves.read fun _ => ?_
  split
  · exact writes_bind (writes_completeTournament _ _ _) fun _ => writes_pure _
  · exact writes_bind writes_upsertRow fun _ => writes_bind (writes_updateTournament fun _ => ⟨rfl,rfl,rfl⟩) fun _ =>
      writes_bind (writes_startRound _ _) fun _ => writes_bind (writes_persistRoundBarrier _) fun _ => writes_pure _

theorem untouched_markHandClosed (tableID : String) :
    Faulty.Moves (Untouched waveID tournamentID minerID) (markHandClosed waveID tableID) := by
  intro runtime
  refine ⟨?_,rfl⟩
  change entrantOf { runtime with waves := runtime.waves.modifyAt waveID _ } waveID minerID = _
  rw [entrantOf_modifyAt,if_pos rfl]
  rfl

theorem untouched_persistRoundBarrier (name : String) :
    Faulty.Moves (Untouched waveID tournamentID minerID) (persistRoundBarrier name) := by
  intro runtime
  unfold persistRoundBarrier
  split <;> exact ⟨rfl,rfl⟩

end Sync

section Barrier
variable {waveID minerID : String} {runtime : RuntimeService} {entrant : Entrant}

theorem steady_persistRoundBarrier (waveID : String) : Steady (persistRoundBarrier waveID) := by
  intro s calm
  unfold persistRoundBarrier
  split
  · exact steady_upsertRow s calm
  · exact ⟨(),s,rfl,calm⟩

theorem advanceClosedTable_forgets {tableID : String} (calm : runtime.world.outcomes = [])
    (found : entrantOf runtime waveID minerID = some entrant) (own : entrant.tournamentID = Model.tournamentID waveID 1)
    (out : entrant.registrationState = .disqualified)
    (unpended : pendingAt runtime (Model.tournamentID waveID 1) minerID = false)
    (last : completesRound runtime waveID tableID = true) :
    Forgotten waveID minerID (advanceClosedTable waveID (Model.tournamentID waveID 1) tableID runtime).2 := by
  rw [advanceClosedTable,Faulty.read_run]
  cases hub : (runtime.waves.get? waveID).bind WaveRuntime.liveHub with
  | none =>
    unfold completesRound at last
    rw [hub] at last
    cases last
  | some liveHub =>
    have marked : Steady (markHandClosed waveID tableID) := steady_updateWave _ _
    obtain ⟨_,middle,done,still⟩ := marked runtime calm
    obtain ⟨_,after,done',still'⟩ := steady_persistRoundBarrier waveID middle still
    dsimp only
    rw [Faulty.bind_of_ok _ done,Faulty.bind_of_ok _ done',if_pos last]
    have first : Untouched waveID (Model.tournamentID waveID 1) minerID runtime _ := untouched_markHandClosed tableID runtime
    have second : Untouched waveID (Model.tournamentID waveID 1) minerID middle _ :=
      untouched_persistRoundBarrier waveID middle
    rw [done] at first
    rw [done'] at second
    obtain ⟨same,pending⟩ := Untouched.trans _ _ _ first second
    exact closeRound_forgets still' (same.trans found) own out (pending.trans unpended)

theorem perform_forgets (sum256 : String → Nat) {call : Call} (linked : Linked runtime)
    (calm : runtime.world.outcomes = []) (found : entrantOf runtime waveID minerID = some entrant)
    (own : entrant.tournamentID = Model.tournamentID waveID 1) (out : entrant.registrationState = .disqualified)
    (unpended : pendingAt runtime (Model.tournamentID waveID 1) minerID = false)
    (closes : closesRound runtime waveID call = true) :
    Forgotten waveID minerID (perform sum256 call runtime).2 := by
  cases call with
  | observe tournamentID tableID state =>
    simp only [closesRound,Bool.and_eq_true,decide_eq_true_eq] at closes
    obtain ⟨⟨⟨⟨rfl,present⟩,actor⟩,closed⟩,last⟩ := closes
    obtain ⟨entry,stored⟩ := Option.isSome_iff_exists.mp present
    obtain ⟨_,seated⟩ := Option.isSome_iff_exists.mp actor
    have wave : entry.waveID = waveID :=
      (Model.tournamentID_injective 1 (linked.tournaments _ entry stored).1).symm
    change Forgotten waveID minerID (onSubmitCommitted (Model.tournamentID waveID 1) tableID state runtime).2
    rw [onSubmitCommitted,Faulty.read_run,stored]
    dsimp only
    rw [wave,postActorMutation,Faulty.read_run,seated]
    dsimp only
    rw [if_pos closed]
    have forgotten := advanceClosedTable_forgets calm found own out unpended last
    cases run : advanceClosedTable waveID (Model.tournamentID waveID 1) tableID runtime with
    | mk outcome after =>
      rw [run] at forgotten
      cases outcome with
      | error e =>
        rw [Faulty.bind_of_error _ run]
        exact forgotten
      | ok advance =>
        rw [Faulty.bind_of_ok _ run]
        refine forgotten.writes ((?_ : Faulty.Moves (Writes False waveID (Model.tournamentID waveID 1))
          (_ : RuntimeM Advance)) after)
        refine Faulty.Moves.read fun _ => ?_
        split
        · exact writes_pure _
        · exact writes_bind writes_upsertRow fun _ => writes_pure _
  | _ => cases closes

end Barrier

def Disqualified (waveID minerID : String) (runtime : RuntimeService) : Prop :=
  ∃ entrant, entrantOf runtime waveID minerID = some entrant ∧
    entrant.tournamentID = Model.tournamentID waveID 1 ∧
    entrant.registrationState = .disqualified ∧ entrant.stageReached = "disqualified"

def Plays (waveID : String) (call : Call) : Prop := call.fieldWave ≠ some waveID

section Lasting
variable {sum256 : String → Nat} {waveID minerID : String} {struck later : RuntimeService}

theorem SameEntrants.entrantOf_eq {before after : RuntimeService} (same : SameEntrants waveID before after) :
    entrantOf after waveID minerID = entrantOf before waveID minerID := by
  have entrants (runtime : RuntimeService) : entrantOf runtime waveID minerID =
      ((runtime.waves.get? waveID).map WaveRuntime.entrants).bind fun entrants => entrants.get? minerID := by
    unfold entrantOf
    rw [Option.bind_map]
    rfl
  rw [entrants,entrants,same]

theorem Disqualified.same {before after : RuntimeService} (out : Disqualified waveID minerID before)
    (same : SameEntrants waveID before after) : Disqualified waveID minerID after := by
  unfold Disqualified
  rw [same.entrantOf_eq]
  exact out

theorem Disqualified.run (linked : Linked struck) (out : Disqualified waveID minerID struck)
    (run : Run sum256 (fun now call => Plays waveID call ∧ closesRound now waveID call = false) struck later) :
    Disqualified waveID minerID later := by
  induction run with
  | start => exact out
  | call run moment call admitted ih =>
    exact ih.same (perform_same sum256 ((linked.run run).at moment) admitted.1 admitted.2)

/-- A disqualification that a barrier has carried out lasts while no further round of the tournament is closed;
the barrier that closes the next one overwrites it. -/
theorem disqualification_lasts_iff (reached : Reachable sum256 struck) (out : Disqualified waveID minerID struck)
    (run : Run sum256 (fun now call => Plays waveID call ∧ closesRound now waveID call = false) struck later)
    (moment : Moment) (call : Call) (plays : Plays waveID call) :
    Disqualified waveID minerID later ∧
    (closesRound (later.at moment) waveID call = false →
      Disqualified waveID minerID (perform sum256 call (later.at moment)).2) ∧
    (moment.outcomes = [] → Disqualified waveID minerID (perform sum256 call (later.at moment)).2 →
      closesRound (later.at moment) waveID call = false) := by
  have kept := out.run reached.linked run
  have linked := (reached.linked.run run).at moment
  refine ⟨kept,fun stays => kept.same (perform_same sum256 linked plays stays),fun calm after => ?_⟩
  by_contra closes
  rw [Bool.not_eq_false] at closes
  obtain ⟨entrant,found,own,state,-⟩ := kept
  have unpended : pendingAt (later.at moment) (Model.tournamentID waveID 1) minerID = false :=
    covers_run settled_covers reached.linked run reached.settled waveID minerID entrant found state
  obtain ⟨final,stored,-,still,-⟩ := after
  exact perform_forgets sum256 linked calm found own state unpended closes final stored still

end Lasting

def struckTable : RuntimeService :=
  performAll (fun _ => 0) [.createWave "w" "rated",.registerMiner "w" "a",.registerMiner "w" "b",.registerMiner "w" "c",
    .lockWave "w",.publishSeats "w",.disqualify "tour:w:01" "c" "collusion"] {}

def struckOut : RuntimeService :=
  timeOuts (fun _ => 0) "tour:w:01" (List.replicate 8 "tbl:tour:w:01:01") struckTable

def struckTwice : RuntimeService :=
  timeOuts (fun _ => 0) "tour:w:01" (List.replicate 8 "tbl:tour:w:01:01") struckOut

theorem struckOut_reachable : Reachable (fun _ => 0) struckOut := by
  unfold Reachable struckOut struckTable
  exact timeOuts_run _ _ (fun _ _ _ => trivial) (fun _ _ _ => trivial) _ (performAll_run _ _ _)

theorem struckTwice_run : Run (fun _ => 0) (fun _ call => Plays "w" call) struckOut struckTwice := by
  unfold struckTwice
  exact timeOuts_run _ _ (fun _ _ _ => by simp [Plays,Call.fieldWave]) (fun _ _ _ => by simp [Plays,Call.fieldWave])
    _ .start

theorem struck_entrants :
    ((entrantOf struckOut "w" "c").any fun entrant => entrant.tournamentID = Model.tournamentID "w" 1 ∧
      entrant.registrationState = .disqualified ∧ entrant.stageReached = "disqualified") = true ∧
    (entrantOf struckTwice "w" "c").map (fun entrant => (entrant.registrationState,entrant.stageReached)) =
      some (.eliminated,"eliminated") := by
  decide +kernel

theorem struckOut_disqualified : Disqualified "w" "c" struckOut := by
  obtain ⟨entrant,stored,facts⟩ := (Option.any_eq_true _ _).mp struck_entrants.1
  exact ⟨entrant,stored,of_decide_eq_true facts⟩

theorem disqualification_lasts_iff_struckOut :
    Disqualified "w" "c" (perform (fun _ => 0) (.armTimeCap "tour:w:01") (struckOut.at {})).2 :=
  (disqualification_lasts_iff struckOut_reachable struckOut_disqualified .start {} (.armTimeCap "tour:w:01")
    (by simp [Plays,Call.fieldWave])).2.1 rfl

/-- The second barrier counts the disqualified miner as eliminated. -/
theorem second_barrier_forgets : Reachable (fun _ => 0) struckOut ∧ Disqualified "w" "c" struckOut ∧
    Run (fun _ => 0) (fun _ call => Plays "w" call) struckOut struckTwice ∧
    ¬ Disqualified "w" "c" struckTwice := by
  refine ⟨struckOut_reachable,struckOut_disqualified,struckTwice_run,fun out => ?_⟩
  obtain ⟨entrant,found,-,still,-⟩ := out
  have forgotten := struck_entrants.2
  rw [found,Option.map_some,still] at forgotten
  cases forgotten

end Clawchain.Arena.App
