import Clawchain.Hands.Checkpoints
import Clawchain.Hands.Converge
import Clawchain.Hands.Evidence
import Clawchain.Lib.Sorting

/-! Two events of one hand and version with different checksums leave a conflict for review, whatever comes between them, as long
as no higher version of the hand does: the later one is stale then, and nothing is compared with it. -/
namespace Clawchain.Hands
open Clawchain.Lib

section Stamps
variable {stamps : List Stamp}

/-- At some place of the list. -/
def Met {α : Type} (at_ : List α → α → Prop) (list : List α) : Prop :=
  ∃ before arriving, before ++ [arriving] <+: list ∧ at_ before arriving

theorem met_append {α : Type} {at_ : List α → α → Prop} {list : List α} {last : α} :
    Met at_ (list ++ [last]) ↔ Met at_ list ∨ at_ list last := by
  constructor
  · rintro ⟨before,arriving,early,holds⟩
    rcases List.prefix_concat_iff.mp early with whole | inner
    · obtain ⟨rfl,same⟩ := List.append_inj' whole rfl
      exact .inr (List.singleton_inj.mp same ▸ holds)
    · exact .inl ⟨before,arriving,inner,holds⟩
  · rintro (⟨before,arriving,early,holds⟩ | holds)
    · exact ⟨before,arriving,early.trans (List.prefix_append _ _),holds⟩
    · exact ⟨list,last,List.prefix_rfl,holds⟩

def versionsOf (stamps : List Stamp) : List (Int × String) :=
  stamps.filterMap fun stamp => stamp.1.map fun version => (version,stamp.2)

def heldOf (stamps : List Stamp) : Option Stamp := (Register.writes (versionsOf stamps)).map versioned

def Refused (before : List Stamp) (arriving : Stamp) : Prop := (arrival (heldOf before) arriving).1 = .conflict

/-- An event without a version when no version is there yet, or one that differs from an earlier event of the highest version so
far, and has that version or none. -/
def Clash (before : List Stamp) (arriving : Stamp) : Prop :=
  (arriving.1 = none ∧ ∀ other ∈ before, other.1 = none) ∨
    ∃ version checksum, (some version,checksum) ∈ before ∧ checksum ≠ arriving.2 ∧
      (arriving.1 = none ∨ arriving.1 = some version) ∧ ∀ other ∈ before, ∀ known, other.1 = some known → known ≤ version

theorem mem_versionsOf {version : Int} {checksum : String} :
    (version,checksum) ∈ versionsOf stamps ↔ (some version,checksum) ∈ stamps := by
  unfold versionsOf
  rw [List.mem_filterMap]
  constructor
  · rintro ⟨⟨known,sum⟩,inside,found⟩
    obtain ⟨number,rfl,same⟩ := Option.map_eq_some_iff.mp found
    obtain ⟨rfl,rfl⟩ := Prod.ext_iff.mp same
    exact inside
  · exact fun inside => ⟨_,inside,rfl⟩

theorem arrival_conflict {held : Option (Int × String)} {arriving : Stamp} :
    (arrival (held.map versioned) arriving).1 = .conflict ↔
      (held = none ∧ arriving.1 = none) ∨
        ∃ version checksum, held = some (version,checksum) ∧ checksum ≠ arriving.2 ∧
          (arriving.1 = none ∨ arriving.1 = some version) := by
  obtain ⟨version,sum⟩ := arriving
  cases held with
  | none => cases version <;> simp [arrival]
  | some held =>
    obtain ⟨known,checksum⟩ := held
    cases version with
    | none => by_cases same : sum = checksum <;> simp [arrival,versioned,same,eq_comm]
    | some version =>
      rcases lt_trichotomy version known with below | rfl | above
      · simp [arrival,versioned,below,below.ne]
      · by_cases same : sum = checksum <;> simp [arrival,versioned,same,eq_comm]
      · simp [arrival,versioned,above.not_gt,above.ne,above.ne']

theorem clash_of_refused {before : List Stamp} {arriving : Stamp} (refused : Refused before arriving) : Clash before arriving := by
  rcases arrival_conflict.mp refused with ⟨nothing,unversioned⟩ | ⟨version,checksum,held,differs,same⟩
  · refine .inl ⟨unversioned,fun other inside => ?_⟩
    cases known : other.1 with
    | none => rfl
    | some version =>
      have member : (version,other.2) ∈ versionsOf before := mem_versionsOf.mpr (known ▸ inside)
      exact absurd nothing (Register.writes_ne_none (List.ne_nil_of_mem member))
  · obtain ⟨inside,highest⟩ := Register.writes_highest held
    refine .inr ⟨version,checksum,mem_versionsOf.mp inside,differs,same,fun other member known own => ?_⟩
    exact highest (known,other.2) (mem_versionsOf.mpr (own ▸ member))

theorem refused_of_other {version : Int} {checksum held : String} (inside : (some version,checksum) ∈ stamps)
    (kept : Register.writes (versionsOf stamps) = some (version,held)) (differs : checksum ≠ held)
    : Met Refused stamps := by
  induction stamps using List.reverseRecOn with
  | nil => cases inside
  | append_singleton stamps last ih =>
    rw [met_append]
    have split : versionsOf (stamps ++ [last]) = versionsOf stamps ++ versionsOf [last] := List.filterMap_append
    cases own : last.1 with
    | none =>
      have unversioned : versionsOf [last] = [] := by simp [versionsOf,own]
      rw [split,unversioned,List.append_nil] at kept
      refine .inl (ih ?_ kept)
      rcases List.mem_append.mp inside with earlier | final
      · exact earlier
      · rw [← List.mem_singleton.mp final] at own
        cases own
    | some known =>
      have single : versionsOf [last] = [(known,last.2)] := by simp [versionsOf,own]
      rw [split,single,Register.writes_append] at kept
      rcases Register.write_cases (Register.writes (versionsOf stamps)) (known,last.2) with ⟨wrote,above⟩ | ⟨old,before,stays,below⟩
      · -- the first event of the highest version is the last one: no other can have come
        obtain ⟨rfl,rfl⟩ := Prod.ext_iff.mp (Option.some.inj (wrote.symm.trans kept))
        rcases List.mem_append.mp inside with earlier | final
        · obtain ⟨old,before⟩ := Option.ne_none_iff_exists'.mp
            (Register.writes_ne_none (List.ne_nil_of_mem (mem_versionsOf.mpr earlier)))
          have reached := (Register.writes_highest before).2 _ (mem_versionsOf.mpr earlier)
          exact absurd (above old before) reached.not_gt
        · exact absurd (congrArg Prod.snd (List.mem_singleton.mp final)) differs
      · obtain rfl := Option.some.inj (stays.symm.trans kept)
        rcases List.mem_append.mp inside with earlier | final
        · exact .inl (ih earlier before)
        · have final := List.mem_singleton.mp final
          refine .inr (arrival_conflict.mpr (.inr ⟨version,held,before,?_,.inr (congrArg Prod.fst final).symm⟩))
          rw [← final]
          exact differs.symm

theorem Met.ofPrefix {α : Type} {at_ : List α → α → Prop} {list whole : List α} (met : Met at_ list) (early : list <+: whole) :
    Met at_ whole := by
  obtain ⟨before,arriving,inner,holds⟩ := met
  exact ⟨before,arriving,inner.trans early,holds⟩

theorem refused_iff_clash : Met Refused stamps ↔ Met Clash stamps := by
  constructor
  · rintro ⟨before,arriving,early,refused⟩
    exact ⟨before,arriving,early,clash_of_refused refused⟩
  · rintro ⟨before,arriving,early,⟨unversioned,none_⟩ | ⟨version,checksum,inside,differs,same,highest⟩⟩
    · refine ⟨before,arriving,early,arrival_conflict.mpr (.inl ⟨?_,unversioned⟩)⟩
      have empty : versionsOf before = [] := by
        rw [versionsOf,List.filterMap_eq_nil_iff]
        intro other member
        rw [none_ other member]
        rfl
      rw [empty]
      rfl
    · obtain ⟨⟨top,held⟩,kept⟩ := Option.ne_none_iff_exists'.mp
        (Register.writes_ne_none (List.ne_nil_of_mem (mem_versionsOf.mpr inside)))
      obtain ⟨own,above⟩ := Register.writes_highest kept
      obtain rfl : top = version :=
        le_antisymm (highest _ (mem_versionsOf.mp own) top rfl) (above _ (mem_versionsOf.mpr inside))
      by_cases equal : held = arriving.2
      · refine (refused_of_other inside kept ?_).ofPrefix ((List.prefix_append _ _).trans early)
        rwa [equal]
      · exact ⟨before,arriving,early,arrival_conflict.mpr (.inr ⟨top,held,kept,equal,same⟩)⟩

end Stamps

section Deliveries
variable {Payload : Type}
variable {hand : String} {repo : ConsumerRepository Payload}

def HandEvent.taken (event : Message Payload) : Bool := (validateHandCompletedEvent event).isOk && present event.handIDOf

def stampsOf (hand : String) (deliveries : List (Int × Message Payload)) : List Stamp := deliveries.filterMap fun delivery =>
  if delivery.2.taken = true ∧ delivery.2.handIDOf = some hand then some delivery.2.stamp else none

def conflictPayload (event : Message Payload) (previousChecksum : Option String) (reason : ConflictReason) : ConflictPayload :=
  let metadata := pokerMttMqMetadata event
  ⟨metadata.tournamentID,metadata.handID,metadata.messageID,metadata.bizID,event.checksum,previousChecksum,reason.text⟩

def conflictPayloads (deliveries : List (Int × Message Payload)) : List ConflictPayload :=
  deliveries.flatMap fun delivery =>
    (none :: deliveries.map fun other => some (other.2.checksum.getD "")).flatMap fun previousChecksum =>
      [.missingVersionWithoutExistingEvent,.missingVersionChecksumMismatch,.sameVersionChecksumMismatch].map
        (conflictPayload delivery.2 previousChecksum)

def listPokerMttMqConflicts (tournamentID : Option String) (state : Option ReviewState) (repo : ConsumerRepository Payload) :
    List (Conflict Payload) :=
  Sorting.sortBy (fun a b => toLex (a.createdAt,a.id) < toLex (b.createdAt,b.id))
    ((repo.conflicts.entries.map Prod.snd).filter fun row =>
      tournamentID.all (fun id => row.tournamentID = .text id) && state.all (row.state = ·))

/-- A conflict of the hand waits for manual review. -/
def Recorded (tournamentID hand : String) (repo : ConsumerRepository Payload) : Prop :=
  ∃ row ∈ listPokerMttMqConflicts (some tournamentID) (some .manualReview) repo, row.handID = some hand

def Blocks (tournamentID : String) (repo : ConsumerRepository Payload) : Prop :=
  ∀ (digest : Json → String) (policyBundleVersion : String) (current : Calendar.Moment)
    (rows : EvidenceRows (Conflict Payload) (DeadLetter Payload)) (artifacts : OrdMap String Artifact)
    (answer : EvidenceResult × OrdMap String Artifact),
    rows.conflicts = listPokerMttMqConflicts (some tournamentID) (some .manualReview) repo →
    buildPokerMttEvidenceManifests digest tournamentID policyBundleVersion current rows artifacts = .ok answer →
    answer.1.evidenceState = .blocked

theorem mem_conflicts {tournamentID : Option String} {state : Option ReviewState} {row : Conflict Payload}
    : row ∈ listPokerMttMqConflicts tournamentID state repo ↔
      (∃ id, repo.conflicts.get? id = some row) ∧ (∀ id, tournamentID = some id → row.tournamentID = .text id) ∧
        ∀ known, state = some known → row.state = known := by
  have stored : row ∈ repo.conflicts.entries.map Prod.snd ↔ ∃ id, repo.conflicts.get? id = some row := by
    simp [OrdMap.get?_eq_some_iff]
  cases tournamentID <;> cases state <;> simp [listPokerMttMqConflicts,stored]

theorem blocks_of_recorded {tournamentID : String} (recorded : Recorded tournamentID hand repo)
    : Blocks tournamentID repo := by
  intro digest policyBundleVersion current rows artifacts answer listed built
  obtain ⟨row,inside,-⟩ := recorded
  rw [← listed] at inside
  have waiting : rows.conflicts.isEmpty = false := by
    rw [List.isEmpty_eq_false_iff]
    exact List.ne_nil_of_mem inside
  unfold buildPokerMttEvidenceManifests at built
  split_ifs at built
  obtain ⟨made,-,built⟩ := Fallible.bind_ok built
  obtain ⟨blocked,reasons,built⟩ := Fallible.bind_ok built
  obtain ⟨stubs,-,built⟩ := Fallible.bind_ok built
  obtain ⟨root,-,built⟩ := Fallible.bind_ok built
  obtain ⟨lags,-,reasons⟩ := Fallible.bind_ok reasons
  obtain rfl := Except.ok.inj reasons
  obtain rfl := Except.ok.inj built
  simp [evidenceStateOf,waiting]

theorem mem_stampsOf {deliveries : List (Int × Message Payload)} {stamp : Stamp} :
    stamp ∈ stampsOf hand deliveries ↔
      ∃ delivery ∈ deliveries, delivery.2.taken = true ∧ delivery.2.handIDOf = some hand ∧ delivery.2.stamp = stamp := by
  simp [stampsOf,and_assoc]

theorem answer_conflict {row : HandRow Source Payload} {existing : Option (HandRow Source Payload)} {state : IngestState}
    {reason : Option ConflictReason} (conflicts : state = .conflict) :
    (row.answer existing state reason).reason = reason ∧ (row.answer existing state reason).previousEvent = existing := by
  subst conflicts
  exact ⟨rfl,rfl⟩

theorem arrival_reason {held : Option Stamp} {arriving : Stamp} (conflicts : (arrival held arriving).1 = .conflict) :
    ∃ reason, (arrival held arriving).2 = some reason := by
  obtain ⟨version,checksum⟩ := arriving
  cases held with
  | none => cases version <;> simp [arrival] at conflicts ⊢
  | some held =>
    cases version with
    | none => by_cases same : checksum = held.2 <;> simp [arrival,same] at conflicts ⊢
    | some version =>
      by_cases older : held.1.any (version < ·) = true
      · simp [arrival,older] at conflicts
      · by_cases own : held.1 = some version
        · by_cases same : checksum = held.2 <;> simp [arrival,own,same] at conflicts ⊢
        · simp [arrival,older,own] at conflicts

theorem save_taken {event : Message Payload} (taken : event.taken = true) (own : event.handIDOf = some hand)
    (table : HandTable Source Payload) :
    ∃ result hands, ingestInto savePokerMttHandEvent event table = .ok (result,hands) ∧
      HandTable.stamps hands = (HandTable.stamps table).take (hand,event.stamp) ∧
      result.state = (arrival (HandTable.stamps table hand) event.stamp).1 ∧
      (result.state = .conflict → result.reason = (arrival (HandTable.stamps table hand) event.stamp).2 ∧
        result.previousEvent.map (·.checksum) = (HandTable.stamps table hand).map Prod.snd) := by
  obtain ⟨checked,named⟩ := (Bool.and_eq_true _ _).mp taken
  have passed : validateHandCompletedEvent event = .ok () := by
    cases verdict : validateHandCompletedEvent event with
    | ok _ => rfl
    | error reason => simp [verdict,Except.isOk,Except.toBool] at checked
  obtain ⟨row,made,hand',stamp⟩ : ∃ row, normalizePokerMttHandEvent event = .ok row ∧ row.handID = hand ∧ row.stamp = event.stamp := by
    unfold normalizePokerMttHandEvent
    rw [if_neg (by simp [named])]
    exact ⟨_,rfl,by simp [own],rfl⟩
  subst hand'
  unfold ingestInto savePokerMttHandEvent
  rw [passed,made,← stamp]
  refine ⟨_,_,rfl,insert_stamps (replacing_stamp ..),answer_state ..,fun conflicts => ?_⟩
  rw [answer_state] at conflicts
  obtain ⟨reason,previous⟩ := @answer_conflict _ row (OrdMap.get? table row.handID) _
    (arrival ((OrdMap.get? table row.handID).map HandRow.stamp) row.stamp).2 conflicts
  refine ⟨reason,(congrArg (Option.map HandRow.checksum) previous).trans ?_⟩
  cases found : OrdMap.get? table row.handID <;> simp [HandTable.stamps,HandRow.stamp,found]

theorem save_refused {event : Message Payload} (refused : event.taken = false) (table : HandTable Source Payload) :
    ∃ reason, ingestInto savePokerMttHandEvent event table = .error reason := by
  unfold ingestInto savePokerMttHandEvent normalizePokerMttHandEvent
  cases verdict : validateHandCompletedEvent event with
  | error reason => exact ⟨reason,rfl⟩
  | ok _ =>
    have unnamed : present event.handIDOf = false := by
      simpa [HandEvent.taken,verdict,Except.isOk,Except.toBool] using refused
    exact ⟨_,by rw [if_pos unnamed]; rfl⟩

theorem ingest_cases (digests : Digests) (now : Int) (event : Message Payload) (repo : ConsumerRepository Payload) :
    (event.taken = false ∧ (ingestPokerMttHandEvent digests now event repo).2.hands = repo.hands ∧
      (ingestPokerMttHandEvent digests now event repo).2.conflicts = repo.conflicts) ∨
    ∃ hand, event.taken = true ∧ event.handIDOf = some hand ∧
      HandTable.stamps (ingestPokerMttHandEvent digests now event repo).2.hands =
        (HandTable.stamps repo.hands).take (hand,event.stamp) ∧
      (((arrival (HandTable.stamps repo.hands hand) event.stamp).1 ≠ .conflict ∧
          (ingestPokerMttHandEvent digests now event repo).2.conflicts = repo.conflicts) ∨
        (arrival (HandTable.stamps repo.hands hand) event.stamp).1 = .conflict ∧ ∃ reason row,
          row.id = digests.conflictID (conflictPayload event ((HandTable.stamps repo.hands hand).map Prod.snd) reason) ∧
          row.handID = some hand ∧ row.tournamentID = (pokerMttMqMetadata event).tournamentID ∧ row.state = .manualReview ∧
          (ingestPokerMttHandEvent digests now event repo).2.conflicts = repo.conflicts.insert row.id row) := by
  have taken : (event.dated now).taken = event.taken := rfl
  cases taking : event.taken with
  | false =>
    obtain ⟨reason,refused⟩ := save_refused (taken.trans taking) repo.hands
    rw [ingest_refused refused]
    exact .inl ⟨rfl,rfl,rfl⟩
  | true =>
    obtain ⟨hand,own⟩ : ∃ hand, event.handIDOf = some hand := by
      have named := ((Bool.and_eq_true _ _).mp taking).2
      cases missing : event.handIDOf with
      | none => simp [missing,present] at named
      | some hand => exact ⟨hand,rfl⟩
    have hand' : (event.dated now).handIDOf = some hand := own
    obtain ⟨result,hands,saved,stamps,state,details⟩ := save_taken (taken.trans taking) hand' repo.hands
    refine .inr ⟨hand,rfl,own,?_⟩
    by_cases conflicts : result.state = .conflict
    · obtain ⟨reason,previous⟩ := details conflicts
      rw [ingest_conflicting saved conflicts]
      rw [conflicts] at state
      refine ⟨stamps,.inr ⟨state.symm,?_⟩⟩
      obtain ⟨why,because⟩ : ∃ why, (arrival (HandTable.stamps repo.hands hand) event.stamp).2 = some why :=
        arrival_reason state.symm
      have text : (result.reason.map ConflictReason.text).getD "hand_checksum_conflict" = why.text := by
        rw [reason]
        exact congrArg (fun known : Option ConflictReason => (known.map ConflictReason.text).getD _) because
      refine ⟨why,_,?_,own,rfl,rfl,rfl⟩
      rw [← previous]
      exact congrArg (fun reason => digests.conflictID ⟨_,_,_,_,_,_,reason⟩) text
    · rw [ingest_taken saved conflicts]
      exact ⟨stamps,.inl ⟨fun same => conflicts (state.trans same),rfl⟩⟩

theorem heldOf_append (stamps : List Stamp) (last : Stamp) :
    heldOf (stamps ++ [last]) = if (arrival (heldOf stamps) last).1.stores then some last else heldOf stamps := by
  obtain ⟨version,checksum⟩ := last
  cases version with
  | none => simp [heldOf,versionsOf,arrival_unversioned]
  | some version =>
    have written := arrival_versioned (Register.writes (versionsOf stamps)) version checksum
    have split : versionsOf (stamps ++ [(some version,checksum)]) = versionsOf stamps ++ [(version,checksum)] := by
      simp [versionsOf]
    unfold heldOf
    rw [written,split,Register.writes_append]

theorem take_heldOf {known : Stamps} {other : String} {stamps : List Stamp} (last : Stamp)
    (held : known other = heldOf stamps) :
    known.take (hand,last) other = heldOf (stamps ++ if other = hand then [last] else []) := by
  unfold Stamps.take Stamps.state
  by_cases same : other = hand
  · subst same
    rw [if_pos rfl,heldOf_append,← held]
    split <;> simp
  · rw [if_neg same,List.append_nil,← held]
    split <;> simp [Function.update_of_ne same]

theorem stampsOf_append (hand : String) (deliveries : List (Int × Message Payload)) (last : Int × Message Payload) :
    stampsOf hand (deliveries ++ [last]) = stampsOf hand deliveries ++
      if last.2.taken = true ∧ last.2.handIDOf = some hand then [last.2.stamp] else [] := by
  unfold stampsOf
  rw [List.filterMap_append]
  congr 1
  split <;> simp [*]

structure Followed (digests : Digests) (tournamentID : String) (all delivered : List (Int × Message Payload))
    (repo : ConsumerRepository Payload) : Prop where
  held : ∀ hand, HandTable.stamps repo.hands hand = heldOf (stampsOf hand delivered)
  named : ∀ id row, repo.conflicts.get? id = some row → row.tournamentID = .text tournamentID ∧ row.state = .manualReview ∧
    ∃ payload ∈ conflictPayloads all, id = digests.conflictID payload ∧ row.handID = payload.handID
  refused : ∀ hand, (∃ id row, repo.conflicts.get? id = some row ∧ row.handID = some hand) ↔
    Met Refused (stampsOf hand delivered)

theorem mem_conflictPayloads {all delivered : List (Int × Message Payload)} {last : Int × Message Payload}
    (inside : last ∈ all) (earlier : ∀ delivery ∈ delivered, delivery ∈ all) (reason : ConflictReason) :
    conflictPayload last.2 ((heldOf (stampsOf hand delivered)).map Prod.snd) reason ∈ conflictPayloads all := by
  refine List.mem_flatMap.mpr ⟨last,inside,List.mem_flatMap.mpr ⟨(heldOf (stampsOf hand delivered)).map Prod.snd,?_,
    List.mem_map.mpr ⟨reason,by cases reason <;> simp,rfl⟩⟩⟩
  cases held : Register.writes (versionsOf (stampsOf hand delivered)) with
  | none => simp [heldOf,held]
  | some kept =>
    obtain ⟨delivery,member,-,-,stamp⟩ := mem_stampsOf.mp (mem_versionsOf.mp (Register.writes_highest held).1)
    refine List.mem_cons_of_mem _ (List.mem_map.mpr ⟨delivery,earlier delivery member,?_⟩)
    have checksum := congrArg Prod.snd stamp
    simpa [heldOf,held,versioned,HandEvent.stamp] using checksum

theorem Followed.step {digests : Digests} {tournamentID : String} {all delivered : List (Int × Message Payload)}
    {last : Int × Message Payload} (followed : Followed digests tournamentID all delivered repo) (inside : last ∈ all)
    (earlier : ∀ delivery ∈ delivered, delivery ∈ all)
    (own : (pokerMttMqMetadata last.2).tournamentID = .text tournamentID)
    (apart : ∀ p ∈ conflictPayloads all, ∀ q ∈ conflictPayloads all, digests.conflictID p = digests.conflictID q →
      p.handID = q.handID) :
    Followed digests tournamentID all (delivered ++ [last]) (ingestPokerMttHandEvent digests last.1 last.2 repo).2 := by
  rcases ingest_cases digests last.1 last.2 repo with ⟨out,hands,conflicts⟩ | ⟨hand,taken,name,stamps,outcome⟩
  · have still (other : String) : stampsOf other (delivered ++ [last]) = stampsOf other delivered := by
      simp [stampsOf_append,out]
    constructor
    · intro other
      rw [hands,still]
      exact followed.held other
    · rw [conflicts]
      exact followed.named
    · intro other
      rw [conflicts,still]
      exact followed.refused other
  · have grown (other : String) : stampsOf other (delivered ++ [last]) =
        stampsOf other delivered ++ if other = hand then [last.2.stamp] else [] := by
      simp [stampsOf_append,taken,name,eq_comm]
    have held (other : String) : HandTable.stamps (ingestPokerMttHandEvent digests last.1 last.2 repo).2.hands other =
        heldOf (stampsOf other (delivered ++ [last])) := by
      rw [stamps,grown,take_heldOf _ (followed.held other)]
    have refused : Refused (stampsOf hand delivered) last.2.stamp ↔
        (arrival (HandTable.stamps repo.hands hand) last.2.stamp).1 = .conflict := by
      unfold Refused
      rw [followed.held hand]
    rcases outcome with ⟨fine,conflicts⟩ | ⟨conflicting,reason,row,id,rowHand,rowTournament,rowState,conflicts⟩
    · refine ⟨held,by rw [conflicts]; exact followed.named,fun other => ?_⟩
      rw [conflicts,followed.refused other,grown]
      by_cases same : other = hand
      · subst same
        rw [if_pos rfl,met_append,refused]
        simp [fine]
      · rw [if_neg same,List.append_nil]
    · have member : conflictPayload last.2 ((HandTable.stamps repo.hands hand).map Prod.snd) reason ∈ conflictPayloads all := by
        rw [followed.held hand]
        exact mem_conflictPayloads inside earlier reason
      refine ⟨held,?_,fun other => ?_⟩
      · intro known kept found
        rw [conflicts,OrdMap.get?_insert] at found
        split at found
        · rename_i here
          obtain rfl := Option.some.inj found
          exact ⟨rowTournament.trans own,rowState,_,member,here.trans id,rowHand.trans name.symm⟩
        · exact followed.named known kept found
      · rw [conflicts,grown]
        by_cases same : other = hand
        · subst same
          rw [if_pos rfl,met_append,refused]
          exact iff_of_true ⟨row.id,row,OrdMap.get?_insert_self ..,rowHand⟩ (.inr conflicting)
        · rw [if_neg same,List.append_nil,← followed.refused other]
          constructor
          · rintro ⟨known,kept,found,keptHand⟩
            rw [OrdMap.get?_insert] at found
            split at found
            · obtain rfl := Option.some.inj found
              exact absurd (Option.some.inj (keptHand.symm.trans rowHand)) same
            · exact ⟨known,kept,found,keptHand⟩
          · rintro ⟨known,kept,found,keptHand⟩
            refine ⟨known,kept,?_,keptHand⟩
            -- the id of the new row is that of another hand
            obtain ⟨-,-,payload,listed,hashed,payloadHand⟩ := followed.named known kept found
            rw [OrdMap.get?_insert_of_ne _ _ ?_,found]
            intro equal
            have hands := apart payload listed _ member (hashed.symm.trans (equal.trans id))
            exact same (Option.some.inj ((keptHand.symm.trans payloadHand).trans (hands.trans name)))

/-- The conflict is recorded, and so evidence is blocked, exactly when an event of the hand differs from an earlier one of its
version and no higher version of the hand comes before it, or comes without a version and does not repeat the highest one. -/
theorem drift_recorded_iff {digests : Digests} {tournamentID hand : String} {deliveries : List (Int × Message Payload)}
    (own : ∀ delivery ∈ deliveries, (pokerMttMqMetadata delivery.2).tournamentID = .text tournamentID)
    (apart : ∀ p ∈ conflictPayloads deliveries, ∀ q ∈ conflictPayloads deliveries,
      digests.conflictID p = digests.conflictID q → p.handID = q.handID) :
    (Recorded tournamentID hand (consume digests deliveries {}) ∧ Blocks tournamentID (consume digests deliveries {})) ↔
      Met Clash (stampsOf hand deliveries) := by
  have reached (delivered : List (Int × Message Payload)) (early : delivered <+: deliveries) :
      Followed digests tournamentID deliveries delivered (consume digests delivered {}) := by
    induction delivered using List.reverseRecOn with
    | nil =>
      refine ⟨fun _ => rfl,fun id row found => ?_,fun other => ?_⟩
      · cases found
      · simp [Met,stampsOf]
    | append_singleton delivered last ih =>
      have inside := early.subset (List.mem_append_right _ List.mem_cons_self)
      have before := (List.prefix_append delivered [last]).trans early
      rw [consume_append,consume_singleton]
      exact (ih before).step inside before.subset (own last inside) apart
  have followed := reached deliveries List.prefix_rfl
  have recorded : Recorded tournamentID hand (consume digests deliveries {}) ↔ Met Clash (stampsOf hand deliveries) := by
    rw [← refused_iff_clash,← followed.refused hand]
    constructor
    · rintro ⟨row,inside,rowHand⟩
      obtain ⟨⟨id,found⟩,-,-⟩ := mem_conflicts.mp inside
      exact ⟨id,row,found,rowHand⟩
    · rintro ⟨id,row,found,rowHand⟩
      obtain ⟨tournament,state,-⟩ := followed.named id row found
      refine ⟨row,mem_conflicts.mpr ⟨⟨id,found⟩,fun _ same => ?_,fun _ same => ?_⟩,rowHand⟩
      · rw [← Option.some.inj same,tournament]
      · rw [← Option.some.inj same,state]
  rw [← recorded,and_iff_left_iff_imp]
  exact blocks_of_recorded

end Deliveries

/-! One hand with two first versions, before and after its second one. -/

def driftedInTime : List (Int × Message String) :=
  [(100,queued 5 1 "sha256:a"),(101,queued 6 1 "sha256:b"),(102,queued 7 2 "sha256:c")]

def driftedLate : List (Int × Message String) :=
  [(100,queued 5 1 "sha256:a"),(101,queued 7 2 "sha256:c"),(102,queued 6 1 "sha256:b")]

def rowsWith (conflicts : List (Conflict String)) : EvidenceRows (Conflict String) (DeadLetter String) where
  finalRankings := [.object [("tournament_id",.text "mtt-1"),("member_id",.text "7:1"),("rank",.int 1)]]
  handEvents := [.object [("tournament_id",.text "mtt-1"),("table_id",.text "table-1"),("hand_no",.int 7),("version",.int 2)]]
  shortTermHud := []
  longTermHud := []
  hiddenEvals := []
  checkpoints := [.object [("tournament_id",.text "mtt-1"),("topic",.text "hands"),("lag_messages",.int 0)]]
  conflicts := conflicts
  deadLetters := []

theorem drift_recorded_iff_in_time : Recorded "mtt-1" "mtt-1:table-1:7" (consume plainDigests driftedInTime {}) ∧
    Blocks "mtt-1" (consume plainDigests driftedInTime {}) := by
  have clash : Met Clash (stampsOf "mtt-1:table-1:7" driftedInTime) := by
    have stamps : stampsOf "mtt-1:table-1:7" driftedInTime =
        [(some 1,"sha256:a"),(some 1,"sha256:b"),(some 2,"sha256:c")] := by decide +kernel
    rw [stamps]
    refine ⟨[(some 1,"sha256:a")],(some 1,"sha256:b"),⟨[(some 2,"sha256:c")],rfl⟩,.inr ⟨1,"sha256:a",?_⟩⟩
    simp
  refine (@drift_recorded_iff _ _ "mtt-1" _ _ ?_ ?_).mpr clash
  · decide +kernel
  · decide +kernel

/-- The same events, with the second version between the other two: no conflict is recorded, and the evidence is not blocked. -/
theorem drift_unrecorded : (driftedLate.map Prod.snd).Perm (driftedInTime.map Prod.snd) ∧
    listPokerMttMqConflicts (some "mtt-1") (some .manualReview) (consume plainDigests driftedLate {}) = [] ∧
    ¬Recorded "mtt-1" "mtt-1:table-1:7" (consume plainDigests driftedLate {}) ∧
    ¬Blocks "mtt-1" (consume plainDigests driftedLate {}) := by
  have nothing : listPokerMttMqConflicts (some "mtt-1") (some .manualReview) (consume plainDigests driftedLate {}) = [] := by
    decide +kernel
  refine ⟨.cons _ (.swap ..),nothing,?_,fun blocks => ?_⟩
  · rintro ⟨row,inside,-⟩
    rw [nothing] at inside
    cases inside
  · have state : ((buildPokerMttEvidenceManifests (fun _ => "0") "mtt-1" "v1" ⟨1772323200,by decide,by decide⟩ (rowsWith [])
        OrdMap.empty).toOption.map fun answer => answer.1.evidenceState) = some .acceptedDegraded := by
      decide +kernel
    cases built : buildPokerMttEvidenceManifests (fun _ => "0") "mtt-1" "v1" ⟨1772323200,by decide,by decide⟩ (rowsWith [])
      OrdMap.empty with
    | error reason => simp [built,Except.toOption] at state
    | ok answer =>
      have blocked := blocks _ _ _ _ _ answer (by rw [nothing]; rfl) built
      simp [built,Except.toOption,blocked] at state

end Clawchain.Hands
