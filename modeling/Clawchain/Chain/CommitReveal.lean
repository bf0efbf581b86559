import Clawchain.Chain.Settling

/-! Commitments: the keeper's own commit and reveal beside the REST handlers, and the answers a committed
hash can be opened to. -/
namespace Clawchain.Chain.Challenges
open Clawchain.Lib

def submitCommit (challengeID minerAddr commitHash : String) (keeper : Keeper) : Except ChallengeError Unit × Keeper :=
  match keeper.challenges.get? challengeID with
  | none => (.error .challengeNotFound,keeper)
  | some ch =>
    if minerAddr ∉ ch.assignees then (.error .notAssigned,keeper)
    else if (ch.commits.get? minerAddr).isSome then (.error .alreadyCommitted,keeper)
    else
      let committed := { ch with commits := ch.commits.insert minerAddr commitHash, status := .commit }
      (.ok (),{ keeper with challenges := keeper.challenges.insert challengeID committed })

/-- A miner without a commitment is held to the empty hash; an answer already recorded is replaced. -/
def submitReveal (digest : String → String) (challengeID minerAddr answer salt : String) (keeper : Keeper) :
    Except ChallengeError Unit × Keeper :=
  match keeper.challenges.get? challengeID with
  | none => (.error .challengeNotFound,keeper)
  | some ch =>
    if (ch.commits.get? minerAddr).getD "" ≠ digest (answer ++ salt) then (.error .commitHashMismatch,keeper)
    else
      let revealed := { ch with reveals := ch.reveals.insert minerAddr answer, status := .reveal }
      (.ok (),{ keeper with challenges := keeper.challenges.insert challengeID revealed })

section Runs
variable (normalize : String → String) (digest : String → String) (dev : Bool)

inductive Submission where
  | commit (challengeID minerAddr commitHash : String)
  | reveal (challengeID minerAddr answer salt : String)
  | rest (call : Call)

def submit (keeper : Keeper) : Submission → Keeper
  | .commit challengeID minerAddr commitHash => (submitCommit challengeID minerAddr commitHash keeper).2
  | .reveal challengeID minerAddr answer salt => (submitReveal digest challengeID minerAddr answer salt keeper).2
  | .rest call => (perform normalize digest dev call keeper).2

def submits (keeper : Keeper) (submissions : List Submission) : Keeper :=
  submissions.foldl (submit normalize digest dev) keeper

/-- A miner's attempt at opening its commitment. -/
inductive Opening where
  | message (answer salt : String)
  | rest (ranges : Ranges) (height : Int) (answer nonce : String)

def Opening.answer : Opening → String
  | .message answer _ => answer
  | .rest _ _ answer _ => answer

def Opening.salt : Opening → String
  | .message _ salt => salt
  | .rest _ _ _ nonce => nonce

def Opening.submission (challengeID minerAddr : String) : Opening → Submission
  | .message answer salt => .reveal challengeID minerAddr answer salt
  | .rest ranges height answer nonce => .rest (.submitReveal ranges height ⟨challengeID,minerAddr,answer,nonce⟩)

def Opening.Accepted (challengeID minerAddr : String) (keeper : Keeper) : Opening → Prop
  | .message answer salt => (submitReveal digest challengeID minerAddr answer salt keeper).1 = .ok ()
  | .rest ranges height answer nonce => ∃ response,
      (submitRevealREST normalize digest dev ranges height ⟨challengeID,minerAddr,answer,nonce⟩ keeper).1 = .ok response

def recorded (challengeID minerAddr : String) (keeper : Keeper) : Option String :=
  (keeper.challenges.get? challengeID).bind fun ch => ch.reveals.get? minerAddr

/-- Wherever the store goes from here, a miner's commitment opens to one answer, and what an accepted reveal
has recorded no later one changes. -/
structure Binds (challengeID minerAddr : String) (start : Keeper) : Prop where
  one_answer : ∀ submissions (first second : Opening),
    first.Accepted normalize digest dev challengeID minerAddr (submits normalize digest dev start submissions) →
    second.Accepted normalize digest dev challengeID minerAddr (submits normalize digest dev start submissions) →
    first.answer = second.answer
  recorded_once : ∀ submissions (first : Opening) between (later : Opening),
    let opened := submits normalize digest dev start submissions
    let reached := submits normalize digest dev opened (first.submission challengeID minerAddr :: between)
    first.Accepted normalize digest dev challengeID minerAddr opened →
    later.Accepted normalize digest dev challengeID minerAddr reached →
    recorded challengeID minerAddr (submit normalize digest dev reached (later.submission challengeID minerAddr)) =
      recorded challengeID minerAddr reached

end Runs

structure Grown (ch ch' : Challenge) : Prop where
  commits : ∀ miner hash, ch.commits.get? miner = some hash → ch'.commits.get? miner = some hash
  reveals : ∀ miner answer, ch.reveals.get? miner = some answer → ch'.reveals.get? miner = some answer

theorem Grown.refl (ch : Challenge) : Grown ch ch := ⟨fun _ _ found => found,fun _ _ found => found⟩

theorem get?_insert_new {ν : Type} {m : OrdMap String ν} {k k' : String} {v v' : ν} (new : m.get? k = none)
    (found : m.get? k' = some v') : (m.insert k v).get? k' = some v' := by
  have differ : k' ≠ k := fun same => by rw [same,new] at found; cases found
  rwa [OrdMap.get?_insert_of_ne _ _ differ]

section Writes
variable {normalize : String → String} {digest : String → String} {dev : Bool}
variable {id : String} {ch : Challenge} {keeper : Keeper} {ranges : Ranges} {height : Int}

theorem grown_insert {challenges : OrdMap String Challenge} {other : String} {old new : Challenge}
    (held : challenges.get? id = some old) (grown : Grown old new) (found : challenges.get? other = some ch) :
    ∃ ch', (challenges.insert id new).get? other = some ch' ∧ Grown ch ch' := by
  rw [OrdMap.get?_insert]
  split_ifs with own
  · rw [own,held] at found
    cases found
    exact ⟨new,rfl,grown⟩
  · exact ⟨ch,found,.refl ch⟩

theorem settle_challenge (normalize : String → String) (dev : Bool) (ranges : Ranges) (height : Int) (id : String) (ch : Challenge) (keeper : Keeper) :
    (∃ status, (settle normalize dev ranges height id ch keeper).1 = { ch with status := status }) ∧
      (settle normalize dev ranges height id ch keeper).2.challenges = keeper.challenges := by
  refine ⟨?_,(settle_spec normalize dev ranges height id ch keeper).2.2.1⟩
  unfold settle
  split_ifs with enough
  · dsimp only
    split_ifs with agreed
    · exact ⟨.complete,rfl⟩
    · exact ⟨ch.status,rfl⟩
  · exact ⟨ch.status,rfl⟩

theorem recordAnswer_challenges (normalize : String → String) (dev : Bool) (ranges : Ranges) (height : Int)
    (id miner answer : String) (ch : Challenge) (keeper : Keeper) :
    ∃ status, (recordAnswer normalize dev ranges height id miner answer ch keeper).2.challenges = keeper.challenges.insert id { ch with reveals := ch.reveals.insert miner answer, status := status } := by
  obtain ⟨⟨status,final⟩,same⟩ := settle_challenge normalize dev ranges height id
    { ch with reveals := ch.reveals.insert miner answer, status := .reveal } keeper
  refine ⟨status,?_⟩
  unfold recordAnswer
  simp only [final,same]

theorem recordAnswer_grown {miner answer other : String} {old : Challenge} (held : keeper.challenges.get? id = some old)
    (new : (old.reveals.get? miner).isSome = false) (found : keeper.challenges.get? other = some ch) :
    ∃ ch', (recordAnswer normalize dev ranges height id miner answer old keeper).2.challenges.get? other = some ch' ∧
      Grown ch ch' := by
  obtain ⟨status,stored⟩ := recordAnswer_challenges normalize dev ranges height id miner answer old keeper
  rw [stored]
  refine grown_insert held ⟨fun _ _ given => given,fun _ _ given => ?_⟩ found
  exact get?_insert_new (by simpa using new) given

theorem submitAnswer_grown {req : SubmitAnswerRequest} (found : keeper.challenges.get? id = some ch) :
    ∃ ch', (submitAnswer normalize dev ranges height req keeper).2.challenges.get? id = some ch' ∧ Grown ch ch' := by
  unfold submitAnswer
  cases activeMiner req.minerAddr keeper with
  | error failure => exact ⟨ch,found,.refl ch⟩
  | ok _ =>
    cases held : keeper.challenges.get? req.challengeID with
    | none => exact ⟨ch,found,.refl ch⟩
    | some old =>
      by_cases late : expired dev height old
      · simp only [if_pos late]
        exact grown_insert held ⟨fun _ _ kept => kept,fun _ _ kept => kept⟩ found
      · simp only [if_neg late]
        cases admitted : admitAnswer req old with
        | error failure => exact ⟨ch,found,.refl ch⟩
        | ok _ =>
          refine recordAnswer_grown held ?_ found
          unfold admitAnswer at admitted
          split_ifs at admitted with unassigned again
          exact Bool.eq_false_iff.mpr again

theorem submitRevealREST_grown {req : RevealRequest} (found : keeper.challenges.get? id = some ch) :
    ∃ ch', (submitRevealREST normalize digest dev ranges height req keeper).2.challenges.get? id = some ch' ∧
      Grown ch ch' := by
  unfold submitRevealREST
  split_ifs with blank unknown
  · exact ⟨ch,found,.refl ch⟩
  · exact ⟨ch,found,.refl ch⟩
  · cases held : keeper.challenges.get? req.challengeID with
    | none => exact ⟨ch,found,.refl ch⟩
    | some old =>
      cases admitted : admitReveal digest req old with
      | error failure =>
        simp only [admitted]
        exact ⟨ch,found,.refl ch⟩
      | ok _ =>
        simp only [admitted]
        refine recordAnswer_grown held ?_ found
        unfold admitReveal at admitted
        cases committed : old.commits.get? req.minerAddr with
        | none => rw [committed] at admitted; cases admitted
        | some commitHash =>
          rw [committed] at admitted
          dsimp only at admitted
          split_ifs at admitted with mismatch again
          exact Bool.eq_false_iff.mpr again

theorem submitCommitREST_grown {req : CommitRequest} (found : keeper.challenges.get? id = some ch) :
    ∃ ch', (submitCommitREST req keeper).2.challenges.get? id = some ch' ∧ Grown ch ch' := by
  unfold submitCommitREST
  split_ifs with blank
  · exact ⟨ch,found,.refl ch⟩
  · cases activeMiner req.minerAddr keeper with
    | error failure => exact ⟨ch,found,.refl ch⟩
    | ok _ =>
      cases held : keeper.challenges.get? req.challengeID with
      | none => exact ⟨ch,found,.refl ch⟩
      | some old =>
        dsimp only
        split_ifs with closed again
        · exact ⟨ch,found,.refl ch⟩
        · exact ⟨ch,found,.refl ch⟩
        · refine grown_insert held ⟨fun _ _ kept => get?_insert_new ?_ kept,fun _ _ kept => kept⟩ found
          simpa using again

theorem perform_grown {call : Call} {keeper : Keeper} {id : String} {ch : Challenge}
    (found : keeper.challenges.get? id = some ch) :
    ∃ ch', (perform normalize digest dev call keeper).2.challenges.get? id = some ch' ∧ Grown ch ch' := by
  cases call with
  | submitAnswer ranges height req => exact submitAnswer_grown found
  | submitCommit req => exact submitCommitREST_grown found
  | submitReveal ranges height req => exact submitRevealREST_grown found
  | processPendingRewards validAddr send =>
    refine ⟨ch,?_,.refl ch⟩
    rw [perform,(processPendingRewards_spec validAddr send keeper).1]
    exact found

theorem submitCommit_grown {challengeID minerAddr commitHash : String} {keeper : Keeper} {id : String}
    {ch : Challenge} (found : keeper.challenges.get? id = some ch) :
    ∃ ch', (submitCommit challengeID minerAddr commitHash keeper).2.challenges.get? id = some ch' ∧ Grown ch ch' := by
  unfold submitCommit
  cases held : keeper.challenges.get? challengeID with
  | none => exact ⟨ch,found,.refl ch⟩
  | some old =>
    dsimp only
    split_ifs with assigned again
    · exact ⟨ch,found,.refl ch⟩
    · refine grown_insert held ⟨fun _ _ kept => get?_insert_new ?_ kept,fun _ _ kept => kept⟩ found
      simpa using again
    · exact ⟨ch,found,.refl ch⟩

theorem submitReveal_cases (digest : String → String) (challengeID minerAddr answer salt : String) (keeper : Keeper) :
    (submitReveal digest challengeID minerAddr answer salt keeper).2 = keeper ∧
        (submitReveal digest challengeID minerAddr answer salt keeper).1 ≠ .ok () ∨
      ∃ ch, keeper.challenges.get? challengeID = some ch ∧
        (ch.commits.get? minerAddr).getD "" = digest (answer ++ salt) ∧
        submitReveal digest challengeID minerAddr answer salt keeper = (.ok (),{ keeper with
          challenges := keeper.challenges.insert challengeID
            { ch with reveals := ch.reveals.insert minerAddr answer, status := .reveal } }) := by
  unfold submitReveal
  cases held : keeper.challenges.get? challengeID with
  | none => exact .inl ⟨rfl,by simp⟩
  | some ch =>
    dsimp only
    split_ifs with mismatch
    · exact .inl ⟨rfl,by simp⟩
    · exact .inr ⟨ch,rfl,not_not.mp mismatch,rfl⟩

end Writes

section Binding
variable {normalize : String → String} {digest : String → String} {dev : Bool}

def Committed (challengeID minerAddr commitHash : String) (keeper : Keeper) : Prop :=
  ∃ ch, keeper.challenges.get? challengeID = some ch ∧ ch.commits.get? minerAddr = some commitHash

variable {challengeID minerAddr commitHash : String}
variable {keeper : Keeper}

theorem submit_committed (committed : Committed challengeID minerAddr commitHash keeper) (submission : Submission) :
    Committed challengeID minerAddr commitHash (submit normalize digest dev keeper submission) := by
  obtain ⟨ch,found,hash⟩ := committed
  cases submission with
  | commit id miner other =>
    obtain ⟨ch',stored,grown⟩ := @submitCommit_grown id miner other _ _ _ found
    exact ⟨ch',stored,grown.commits _ _ hash⟩
  | reveal id miner answer salt =>
    rcases submitReveal_cases digest id miner answer salt keeper with ⟨same,-⟩ | ⟨old,held,-,accepted⟩
    · exact ⟨ch,(congrArg (fun k : Keeper => k.challenges.get? challengeID) same).trans found,hash⟩
    · change ∃ ch, (submitReveal digest id miner answer salt keeper).2.challenges.get? challengeID = some ch ∧ _
      rw [accepted,OrdMap.get?_insert]
      split_ifs with own
      · rw [own,held] at found
        cases found
        exact ⟨_,rfl,hash⟩
      · exact ⟨ch,found,hash⟩
  | rest call =>
    obtain ⟨ch',stored,grown⟩ := @perform_grown normalize digest dev call _ _ _ found
    exact ⟨ch',stored,grown.commits _ _ hash⟩

theorem submits_committed {keeper : Keeper} (committed : Committed challengeID minerAddr commitHash keeper)
    (submissions : List Submission) :
    Committed challengeID minerAddr commitHash (submits normalize digest dev keeper submissions) := by
  induction submissions generalizing keeper with
  | nil => exact committed
  | cons submission rest ih => exact ih (submit_committed committed submission)

theorem accepted_opens (committed : Committed challengeID minerAddr commitHash keeper) {opening : Opening}
    (accepted : opening.Accepted normalize digest dev challengeID minerAddr keeper) :
    digest (opening.answer ++ opening.salt) = commitHash := by
  obtain ⟨ch,found,hash⟩ := committed
  cases opening with
  | message answer salt =>
    rcases submitReveal_cases digest challengeID minerAddr answer salt keeper with ⟨-,refused⟩ | ⟨old,held,opens,-⟩
    · exact absurd accepted refused
    · rw [found] at held
      cases held
      rw [hash] at opens
      exact opens.symm
  | rest ranges height answer nonce =>
    obtain ⟨response,taken⟩ := accepted
    unfold submitRevealREST at taken
    split_ifs at taken with blank unknown
    rw [found] at taken
    dsimp only at taken
    unfold admitReveal at taken
    rw [hash] at taken
    dsimp only at taken
    split_ifs at taken with mismatch again
    exact not_not.mp mismatch

theorem accepted_records {opening : Opening}
    (accepted : opening.Accepted normalize digest dev challengeID minerAddr keeper) :
    recorded challengeID minerAddr (submit normalize digest dev keeper (opening.submission challengeID minerAddr)) =
      some opening.answer := by
  cases opening with
  | message answer salt =>
    rcases submitReveal_cases digest challengeID minerAddr answer salt keeper with ⟨-,refused⟩ | ⟨ch,-,-,stored⟩
    · exact absurd accepted refused
    · change recorded challengeID minerAddr (submitReveal digest challengeID minerAddr answer salt keeper).2 = _
      rw [stored]
      simp [recorded,Opening.answer]
  | rest ranges height answer nonce =>
    obtain ⟨response,taken⟩ := accepted
    change recorded challengeID minerAddr
      (submitRevealREST normalize digest dev ranges height ⟨challengeID,minerAddr,answer,nonce⟩ keeper).2 = _
    unfold submitRevealREST at taken ⊢
    split_ifs at taken ⊢ with blank unknown
    cases found : keeper.challenges.get? challengeID with
    | none => simp [found] at taken
    | some ch =>
      simp only [found] at taken
      cases admitted : admitReveal digest ⟨challengeID,minerAddr,answer,nonce⟩ ch with
      | error failure => simp [admitted] at taken
      | ok _ =>
        obtain ⟨status,stored⟩ := recordAnswer_challenges normalize dev ranges height challengeID minerAddr answer ch keeper
        simp [recorded,stored,admitted,Opening.answer]

theorem submit_recorded (committed : Committed challengeID minerAddr commitHash keeper)
    (trivial_ : ∀ text, digest text = commitHash → text = "") (empty : recorded challengeID minerAddr keeper = some "")
    (submission : Submission) :
    recorded challengeID minerAddr (submit normalize digest dev keeper submission) = some "" := by
  obtain ⟨ch,found,hash⟩ := committed
  have given : ch.reveals.get? minerAddr = some "" := by simpa [recorded,found] using empty
  have of_grown {after : Keeper} (grown : ∃ ch', after.challenges.get? challengeID = some ch' ∧ Grown ch ch') :
      recorded challengeID minerAddr after = some "" := by
    obtain ⟨ch',stored,more⟩ := grown
    simp [recorded,stored,more.reveals _ _ given]
  cases submission with
  | commit id miner other => exact of_grown (submitCommit_grown found)
  | rest call => exact of_grown (perform_grown found)
  | reveal id miner answer salt =>
    rcases submitReveal_cases digest id miner answer salt keeper with ⟨same,-⟩ | ⟨old,held,opens,stored⟩
    · exact (congrArg (recorded challengeID minerAddr) same).trans empty
    · change recorded challengeID minerAddr (submitReveal digest id miner answer salt keeper).2 = _
      rw [stored]
      by_cases own : challengeID = id
      · subst own
        rw [found] at held
        cases held
        by_cases same : minerAddr = miner
        · subst same
          rw [hash] at opens
          have blank := String.append_eq_empty_iff.mp (trivial_ _ opens.symm)
          simp [recorded,blank.1]
        · simp [recorded,OrdMap.get?_insert_of_ne _ _ same,given]
      · simp [recorded,OrdMap.get?_insert_of_ne _ _ own,found,given]

theorem submits_recorded (committed : Committed challengeID minerAddr commitHash keeper)
    (trivial_ : ∀ text, digest text = commitHash → text = "") (empty : recorded challengeID minerAddr keeper = some "")
    (submissions : List Submission) :
    recorded challengeID minerAddr (submits normalize digest dev keeper submissions) = some "" := by
  induction submissions generalizing keeper with
  | nil => exact empty
  | cons submission rest ih =>
    exact ih (submit_committed committed submission) (submit_recorded committed trivial_ empty submission)

theorem submitCommit_committed (accepted : (submitCommit challengeID minerAddr commitHash keeper).1 = .ok ()) :
    Committed challengeID minerAddr commitHash (submitCommit challengeID minerAddr commitHash keeper).2 := by
  unfold submitCommit at accepted ⊢
  cases found : keeper.challenges.get? challengeID with
  | none => simp [found] at accepted
  | some ch =>
    simp only [found] at accepted ⊢
    split_ifs at accepted ⊢ with assigned again
    exact ⟨_,OrdMap.get?_insert_self _ _ _,OrdMap.get?_insert_self _ _ _⟩

/-- A commitment binds its answer exactly when it was made to nothing: split a text in two anywhere, and the keeper
takes the front as the answer and the rest as its salt. -/
theorem commitment_binds_iff {keeper : Keeper}
    (accepted : (submitCommit challengeID minerAddr commitHash keeper).1 = .ok ()) :
    Binds normalize digest dev challengeID minerAddr (submitCommit challengeID minerAddr commitHash keeper).2 ↔
      ∀ text, digest text = commitHash → text = "" := by
  have committed := submitCommit_committed accepted
  constructor
  · intro binds text opens
    obtain ⟨ch,found,hash⟩ := committed
    have takes (answer salt : String) (split : answer ++ salt = text) :
        (Opening.message answer salt).Accepted normalize digest dev challengeID minerAddr
          (submitCommit challengeID minerAddr commitHash keeper).2 := by
      unfold Opening.Accepted submitReveal
      rw [found]
      simp [hash,split,opens]
    exact binds.one_answer [] (.message text "") (.message "" text) (takes text "" (by simp)) (takes "" text (by simp))
  · intro trivial_
    have opened {reached : Keeper} (still : Committed challengeID minerAddr commitHash reached) {opening : Opening}
        (taken : opening.Accepted normalize digest dev challengeID minerAddr reached) : opening.answer = "" :=
      (String.append_eq_empty_iff.mp (trivial_ _ (accepted_opens still taken))).1
    refine ⟨fun submissions first second one two => ?_,fun submissions first between later => ?_⟩
    · have still := @submits_committed normalize digest dev _ _ _ _ committed submissions
      exact (opened still one).trans (opened still two).symm
    · intro before reached one two
      have held : Committed challengeID minerAddr commitHash before := submits_committed committed submissions
      have still : Committed challengeID minerAddr commitHash reached := submits_committed held _
      have blank : recorded challengeID minerAddr
          (submit normalize digest dev before (first.submission challengeID minerAddr)) = some "" :=
        (accepted_records one).trans (congrArg some (opened held one))
      have kept : recorded challengeID minerAddr reached = some "" :=
        submits_recorded (submit_committed held _) trivial_ blank between
      rw [kept,accepted_records two,opened still two]

def assigned : Keeper :=
  { challenges := OrdMap.empty.insert "ch-1-0" { epoch := 1, assignees := ["claw1a"], createdHeight := 1 } }

theorem commitment_binds_iff_assigned :
    Binds id (fun text => "#" ++ text) false "ch-1-0" "claw1a" (submitCommit "ch-1-0" "claw1a" "42" assigned).2 ↔
      ∀ text, "#" ++ text = "42" → text = "" :=
  commitment_binds_iff (by decide)

/-- No digest whatever binds the miner who commits to the text "42x". -/
theorem commitment_opens_twice : ¬ ∃ digest : String → String,
    (submitCommit "ch-1-0" "claw1a" (digest "42x") assigned).1 = .ok () →
      Binds id digest false "ch-1-0" "claw1a" (submitCommit "ch-1-0" "claw1a" (digest "42x") assigned).2 := by
  rintro ⟨digest,binds⟩
  have early : (Opening.message "4" "2x").Accepted id digest false "ch-1-0" "claw1a"
      (submitCommit "ch-1-0" "claw1a" (digest "42x") assigned).2 := by
    unfold Opening.Accepted submitReveal
    simp [submitCommit,assigned]
  have late : (Opening.message "42" "x").Accepted id digest false "ch-1-0" "claw1a"
      (submitCommit "ch-1-0" "claw1a" (digest "42x") assigned).2 := by
    unfold Opening.Accepted submitReveal
    simp [submitCommit,assigned]
  exact absurd ((binds (by simp [submitCommit,assigned])).one_answer [] _ _ early late) (by decide)

end Binding
end Clawchain.Chain.Challenges
