import Clawchain.Hands.Consumer
import Mathlib.Order.Bounds.Basic

/-! The checkpoint of a queue keeps the offset of the last message and not that of the furthest one. It says the furthest after
every message exactly when no message comes with an offset behind another's of the same queue. -/
namespace Clawchain.Hands
open Clawchain.Lib

section Checkpoints
variable {Payload : Type} (digests : Digests)

def consume (deliveries : List (Int × Message Payload)) (repo : ConsumerRepository Payload) : ConsumerRepository Payload :=
  deliveries.foldl (fun repo delivery => (ingestPokerMttHandEvent digests delivery.1 delivery.2 repo).2) repo

@[simp] theorem consume_nil (repo : ConsumerRepository Payload) : consume digests [] repo = repo := rfl

@[simp] theorem consume_append (before after : List (Int × Message Payload)) (repo : ConsumerRepository Payload) :
    consume digests (before ++ after) repo = consume digests after (consume digests before repo) :=
  List.foldl_append

@[simp] theorem consume_singleton (delivery : Int × Message Payload) (repo : ConsumerRepository Payload) :
    consume digests [delivery] repo = (ingestPokerMttHandEvent digests delivery.1 delivery.2 repo).2 := rfl

/-- Of every queue that a message came from, the checkpoint has the largest of the offsets that came. -/
def Furthest (delivered : List (Int × Message Payload)) (repo : ConsumerRepository Payload) : Prop :=
  ∀ delivery ∈ delivered, ∃ row highest, OrdMap.get? repo.checkpoints delivery.2.queueOf = some row ∧
    row.lastOffset = some highest ∧
    IsGreatest {offset | ∃ other ∈ delivered, other.2.queueOf = delivery.2.queueOf ∧ other.2.offsetOf = some offset} highest

/-- A message does not come behind an earlier one of its queue. -/
def Forward (earlier later : Int × Message Payload) : Prop :=
  earlier.2.queueOf = later.2.queueOf →
    ∀ before after, earlier.2.offsetOf = some before → later.2.offsetOf = some after → before ≤ after

variable {digests}

theorem furthest_append {delivered : List (Int × Message Payload)} {last : Int × Message Payload}
    {repo : ConsumerRepository Payload} (integral : ∃ offset, last.2.offsetOf = some offset)
    (reached : Furthest delivered repo) :
    Furthest (delivered ++ [last]) (ingestPokerMttHandEvent digests last.1 last.2 repo).2 ↔
      ∀ earlier ∈ delivered, Forward earlier last := by
  obtain ⟨own,offset⟩ := integral
  obtain ⟨left,leftOffset,saved⟩ := ingest_checkpoints digests last.1 last.2 repo
  constructor
  · intro further earlier inside same before after earlierOffset lastOffset
    obtain ⟨row,highest,found,kept,greatest⟩ := further last (by simp)
    rw [saved,OrdMap.get?_insert_self] at found
    obtain rfl := Option.some.inj found
    obtain rfl := Option.some.inj ((kept.symm.trans leftOffset).trans lastOffset)
    exact greatest.2 ⟨earlier,by simp [inside],same,earlierOffset⟩
  · intro forward delivery inside
    by_cases same : delivery.2.queueOf = last.2.queueOf
    · refine ⟨left,own,by rw [saved,same,OrdMap.get?_insert_self],leftOffset.trans offset,
        ⟨last,by simp,same.symm,offset⟩,?_⟩
      rintro value ⟨other,member,queue,otherOffset⟩
      rcases List.mem_append.mp member with earlier | final
      · exact forward other earlier (queue.trans same) value own otherOffset offset
      · obtain rfl := List.mem_singleton.mp final
        exact (Option.some.inj (otherOffset.symm.trans offset)).le
    · have earlier : delivery ∈ delivered := by
        rcases List.mem_append.mp inside with earlier | final
        · exact earlier
        · exact absurd (congrArg (·.2.queueOf) (List.mem_singleton.mp final)) same
      obtain ⟨row,highest,found,kept,greatest⟩ := reached delivery earlier
      refine ⟨row,highest,by rw [saved,OrdMap.get?_insert_of_ne _ _ same,found],kept,?_⟩
      have others : {value | ∃ other ∈ delivered ++ [last], other.2.queueOf = delivery.2.queueOf ∧
          other.2.offsetOf = some value} =
          {value | ∃ other ∈ delivered, other.2.queueOf = delivery.2.queueOf ∧ other.2.offsetOf = some value} := by
        ext value
        have apart : ¬last.2.queueOf = delivery.2.queueOf := fun queue => same queue.symm
        simp [or_and_right,exists_or,apart]
      rw [others]
      exact greatest

/-- The checkpoints are at the furthest offset after every message if and only if every queue moves forward. -/
theorem checkpoints_furthest_iff {deliveries : List (Int × Message Payload)} {repo : ConsumerRepository Payload}
    (integral : ∀ delivery ∈ deliveries, ∃ offset, delivery.2.offsetOf = some offset) :
    (∀ delivered, delivered <+: deliveries → Furthest delivered (consume digests delivered repo)) ↔
      deliveries.Pairwise Forward := by
  induction deliveries using List.reverseRecOn with
  | nil => simp [Furthest]
  | append_singleton deliveries last ih =>
    have earlier := ih fun delivery inside => integral delivery (by simp [inside])
    have step (reached : Furthest deliveries (consume digests deliveries repo)) :
        Furthest (deliveries ++ [last]) (ingestPokerMttHandEvent digests last.1 last.2 (consume digests deliveries repo)).2 ↔
          ∀ earlier ∈ deliveries, Forward earlier last :=
      furthest_append (integral last (by simp)) reached
    have whole : (∀ delivered, delivered <+: deliveries ++ [last] → Furthest delivered (consume digests delivered repo)) ↔
        (∀ delivered, delivered <+: deliveries → Furthest delivered (consume digests delivered repo)) ∧
          Furthest (deliveries ++ [last]) (consume digests (deliveries ++ [last]) repo) := by
      simp only [List.prefix_concat_iff,forall_eq_or_imp]
      exact and_comm
    rw [whole,List.pairwise_append,earlier,consume_append,consume_singleton]
    constructor
    · rintro ⟨pairwise,reached⟩
      refine ⟨pairwise,List.pairwise_singleton _ _,fun before inside after final => ?_⟩
      rw [List.mem_singleton.mp final]
      exact (step (earlier.mpr pairwise _ List.prefix_rfl)).mp reached before inside
    · rintro ⟨pairwise,-,forward⟩
      exact ⟨pairwise,(step (earlier.mpr pairwise _ List.prefix_rfl)).mpr fun before inside => forward before inside last (by simp)⟩

end Checkpoints

/-! A queue that is read again from an older offset. -/

def queued (offset : Int) (version : Int) (checksum : String) : Message String where
  eventID := some "ev-1"
  checksum := some checksum
  version := some version
  identity := {
    tournamentID := some (some "mtt-1")
    tableID := some (some "table-1")
    handNo := some (some 7)
    handID := some (some "mtt-1:table-1:7") }
  source := some (OrdMap.ofList [("offset",.number offset),("topic",.text "hands")])

def plainDigests : Digests where
  replayRoot payload := payload.metadata.topic
  conflictID payload := payload.conflictReason
  dlqID payload := payload.reason

def queuedAt : List (Int × Message String) := [(100,queued 5 1 "sha256:a"),(101,queued 7 2 "sha256:b")]

theorem checkpoints_furthest_iff_forward : queuedAt.Pairwise Forward ∧ ∀ delivered, delivered <+: queuedAt →
    Furthest delivered (consume plainDigests delivered {}) := by
  have integral : ∀ delivery ∈ queuedAt, ∃ offset, delivery.2.offsetOf = some offset := by
    simp only [queuedAt,List.forall_mem_cons]
    exact ⟨⟨5,by decide +kernel⟩,⟨7,by decide +kernel⟩,by simp⟩
  have first : (queued 5 1 "sha256:a").offsetOf = some 5 := by decide +kernel
  have second : (queued 7 2 "sha256:b").offsetOf = some 7 := by decide +kernel
  have forward : queuedAt.Pairwise Forward := by simp [queuedAt,Forward,first,second]
  exact ⟨forward,(checkpoints_furthest_iff integral).mpr forward⟩

/-- The message at offset 3 comes once more after the one at offset 5, and takes the checkpoint back. -/
theorem checkpoint_backwards :
    (queued 5 1 "sha256:a").queueOf = (queued 3 1 "sha256:a").queueOf ∧ (queued 5 1 "sha256:a").offsetOf = some 5 ∧
    ((consume plainDigests [(100,queued 5 1 "sha256:a"),(101,queued 3 1 "sha256:a")] {}).checkpoints.get?
      (queued 5 1 "sha256:a").queueOf).bind (·.lastOffset) = some 3 ∧
    ¬Furthest [(100,queued 5 1 "sha256:a"),(101,queued 3 1 "sha256:a")]
      (consume plainDigests [(100,queued 5 1 "sha256:a"),(101,queued 3 1 "sha256:a")] {}) := by
  have queue : (queued 5 1 "sha256:a").queueOf = (queued 3 1 "sha256:a").queueOf := by decide +kernel
  have offset : (queued 5 1 "sha256:a").offsetOf = some 5 := by decide +kernel
  have back : ((consume plainDigests [(100,queued 5 1 "sha256:a"),(101,queued 3 1 "sha256:a")] {}).checkpoints.get?
      (queued 5 1 "sha256:a").queueOf).bind (·.lastOffset) = some 3 := by decide +kernel
  refine ⟨queue,offset,back,fun furthest => ?_⟩
  obtain ⟨row,highest,found,kept,greatest⟩ := furthest _ List.mem_cons_self
  rw [found,Option.bind_some,kept] at back
  have above := greatest.2 ⟨_,List.mem_cons_self,rfl,offset⟩
  rw [Option.some.inj back] at above
  omega

end Clawchain.Hands
