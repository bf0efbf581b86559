import Clawchain.Lib.Adjacent
import Clawchain.Lib.Fallible
import Clawchain.Lib.Faulty
import Clawchain.Lib.Format
import Clawchain.Lib.Utf8

/-! Reading a tournament's three keys while others write them. They are read one after the other, twice, and what was read
counts as one moment's when both readings have the same hash. -/
namespace Clawchain.Ranking.Live
open Clawchain.Lib Clawchain.Lib.Format Clawchain.Lib.Utf8

/-- The score is the bits of a float64. -/
structure ZMember where
  member : Bytes
  score : UInt64
  deriving DecidableEq

/-- What the three keys hold; a hash is given as its fields in the order of their names. -/
structure Stored where
  userInfo : List (Bytes × Bytes) := []
  alive : List ZMember := []
  died : List Bytes := []
  deriving DecidableEq

inductive Write where
  | userInfo (value : List (Bytes × Bytes))
  | alive (value : List ZMember)
  | died (value : List Bytes)

def Write.apply (stored : Stored) : Write → Stored
  | .userInfo value => { stored with userInfo := value }
  | .alive value => { stored with alive := value }
  | .died value => { stored with died := value }

/-- What is stored now and was stored before, since a call began, and how many reads it has made. -/
structure Session where
  earlier : List Stored := []
  stored : Stored
  calls : Nat := 0

namespace Session

def passed (session : Session) : List Stored := session.earlier ++ [session.stored]

def write (session : Session) (write : Write) : Session :=
  { session with
    earlier := session.passed
    stored := write.apply session.stored }

end Session

inductive Refusal where
  | invalidRedisStore
  | redis (cause : String)
  | unsupportedValue
  | unstableLiveSnapshot (attempts : Nat)
  deriving DecidableEq, Repr

def Refusal.text : Refusal → String
  | .invalidRedisStore => "invalid poker mtt ranking redis store"
  | .redis cause => cause
  | .unsupportedValue => "json: unsupported value"
  | .unstableLiveSnapshot attempts => "unstable poker mtt live ranking snapshot after " ++ toString attempts ++ " attempts"

abbrev Reading := Faulty Session Refusal

/-- A client among others: what they write before each of its reads, and which of its reads fail. -/
structure RedisClient where
  writes : Nat → List Write
  fault : Nat → Option String

/-- A read is made at one moment, after others have written. -/
def RedisClient.read {α : Type} (client : RedisClient) (answer : Stored → α) : Reading α := fun session =>
  let moment := (client.writes session.calls).foldl Session.write session
  (match client.fault session.calls with
    | some cause => .error (.redis cause)
    | none => .ok (answer moment.stored),{ moment with calls := session.calls + 1 })

structure RedisKeys where
  (userInfo aliveScore diedInfo : String)
  deriving DecidableEq

structure LiveSnapshot where
  (tournamentID sourceMTTID gameType : String)
  keys : RedisKeys
  userInfo : List (Bytes × Bytes)
  alive : List ZMember
  died : List Bytes
  deriving DecidableEq

structure RedisStore where
  client : Option RedisClient
  gameType : String := ""

def gameTypeMTT : String := "mtt"

def redisRankingKey (start gameType tournamentID : String) : String := start ++ ":" ++ gameType ++ ":" ++ tournamentID

def readLiveSnapshot (store : RedisStore) (tournamentID : String) : Reading LiveSnapshot :=
  let tournamentID := trimSpace tournamentID
  match store.client with
  | none => Faulty.fail .invalidRedisStore
  | some client =>
    if tournamentID = "" then Faulty.fail .invalidRedisStore
    else do
      let gameType := if trimSpace store.gameType = "" then gameTypeMTT else trimSpace store.gameType
      let userInfo ← client.read fun stored => stored.userInfo
      let alive ← client.read fun stored => stored.alive
      let died ← client.read fun stored => stored.died
      return {
        tournamentID := tournamentID
        sourceMTTID := tournamentID
        gameType := gameType
        keys := {
          userInfo := redisRankingKey "rankingUserInfo" gameType tournamentID
          aliveScore := redisRankingKey "rankingNotDiedScore" gameType tournamentID
          diedInfo := redisRankingKey "rankingUserDiedInfo" gameType tournamentID }
        userInfo := userInfo
        alive := alive
        died := died }

/-- What is encoded of a snapshot: of a text its runes, and the same mark for every byte that is part of none. -/
structure Payload where
  (tournamentID sourceMTTID gameType : String)
  keys : RedisKeys
  userInfo : List (List (Option Char) × List (Option Char))
  alive : List (List (Option Char) × UInt64)
  died : List (List (Option Char))
  deriving DecidableEq

def encodedUserInfo (userInfo : List (Bytes × Bytes)) : List (List (Option Char) × List (Option Char)) :=
  userInfo.map fun field => (runes field.1,runes field.2)

def encodedAlive (alive : List ZMember) : List (List (Option Char) × UInt64) :=
  alive.map fun member => (runes member.member,member.score)

def LiveSnapshot.payload (snapshot : LiveSnapshot) : Payload where
  tournamentID := snapshot.tournamentID
  sourceMTTID := snapshot.sourceMTTID
  gameType := snapshot.gameType
  keys := snapshot.keys
  userInfo := encodedUserInfo snapshot.userInfo
  alive := encodedAlive snapshot.alive
  died := snapshot.died.map runes

def ZMember.isFinite (member : ZMember) : Bool := (member.score >>> 52) &&& 0x7ff ≠ 0x7ff

section Stable

variable {δ : Type} [DecidableEq δ] (digest : Payload → δ)

/-- SHA-256 of the encoded snapshot; a score that is no number is not encoded. -/
def hashLiveSnapshot (snapshot : LiveSnapshot) : Reading δ :=
  if snapshot.alive.all ZMember.isFinite then pure (digest snapshot.payload) else Faulty.fail .unsupportedValue

def stableAttempts (store : RedisStore) (tournamentID : String) (maxAttempts : Nat) : Nat → Reading LiveSnapshot
  | 0 => Faulty.fail (.unstableLiveSnapshot maxAttempts)
  | attempts + 1 => do
    let first ← readLiveSnapshot store tournamentID
    let firstHash ← hashLiveSnapshot digest first
    let second ← readLiveSnapshot store tournamentID
    let secondHash ← hashLiveSnapshot digest second
    if firstHash = secondHash then return second
    else stableAttempts store tournamentID maxAttempts attempts

def readStableLiveSnapshot (store : RedisStore) (tournamentID : String) (maxAttempts : Int) : Reading LiveSnapshot :=
  let attempts := if maxAttempts ≤ 0 then 2 else maxAttempts.toNat
  stableAttempts digest store tournamentID attempts attempts

end Stable

def Later (before after : Session) : Prop := ∃ more, after.passed = before.passed ++ more

theorem Later.refl (session : Session) : Later session session := ⟨[],(List.append_nil _).symm⟩

theorem Later.trans {first second third : Session} (one : Later first second) (two : Later second third) : Later first third := by
  obtain ⟨more,grown⟩ := one
  obtain ⟨rest,grown'⟩ := two
  exact ⟨more ++ rest,by rw [grown',grown,List.append_assoc]⟩

@[simp] theorem passed_last (session : Session) : session.passed.getLast? = some session.stored := by simp [Session.passed]

theorem write_later (session : Session) (write : Write) : Later session (session.write write) :=
  ⟨[write.apply session.stored],rfl⟩

theorem writes_later (session : Session) (writes : List Write) : Later session (writes.foldl Session.write session) := by
  induction writes generalizing session with
  | nil => exact Later.refl session
  | cons write writes ih => exact (write_later session write).trans (ih _)

variable {α : Type}

theorem read_ok {client : RedisClient} {answer : Stored → α} {before after : Session} {a : α}
    (done : client.read answer before = (.ok a,after)) : Later before after ∧ a = answer after.stored := by
  unfold RedisClient.read at done
  cases fault : client.fault before.calls with
  | some cause =>
    rw [fault] at done
    cases done
  | none =>
    rw [fault] at done
    cases done
    exact ⟨writes_later before (client.writes before.calls),rfl⟩

structure ReadAt (before users alive after : Session) (snapshot : LiveSnapshot) : Prop where
  toUsers : Later before users
  toAlive : Later users alive
  toDied : Later alive after
  userInfo_eq : snapshot.userInfo = users.stored.userInfo
  alive_eq : snapshot.alive = alive.stored.alive
  died_eq : snapshot.died = after.stored.died

theorem readLiveSnapshot_ok {store : RedisStore} {tournamentID : String} {before after : Session} {snapshot : LiveSnapshot}
    (done : readLiveSnapshot store tournamentID before = (.ok snapshot,after)) :
    ∃ users alive, ReadAt before users alive after snapshot := by
  unfold readLiveSnapshot at done
  cases connected : store.client with
  | none =>
    rw [connected] at done
    cases done
  | some client =>
    rw [connected] at done
    by_cases unnamed : trimSpace tournamentID = ""
    · simp only [if_pos unnamed] at done
      cases done
    · simp only [if_neg unnamed] at done
      obtain ⟨userInfo,users,readUsers,rest⟩ := Faulty.bind_ok done
      obtain ⟨alive,living,readAlive,rest⟩ := Faulty.bind_ok rest
      obtain ⟨died,gone,readDied,rest⟩ := Faulty.bind_ok rest
      cases rest
      obtain ⟨first,users_eq⟩ := read_ok readUsers
      obtain ⟨second,alive_eq⟩ := read_ok readAlive
      obtain ⟨third,died_eq⟩ := read_ok readDied
      exact ⟨users,living,first,second,third,users_eq,alive_eq,died_eq⟩

section Stable

variable {δ : Type} {digest : Payload → δ}

theorem hashLiveSnapshot_ok {snapshot : LiveSnapshot} {before after : Session} {hash : δ}
    (done : hashLiveSnapshot digest snapshot before = (.ok hash,after)) : after = before ∧ hash = digest snapshot.payload := by
  unfold hashLiveSnapshot at done
  split at done
  · cases done
    exact ⟨rfl,rfl⟩
  · cases done

theorem stableAttempts_ok [DecidableEq δ] {store : RedisStore} {tournamentID : String} {maxAttempts attempts : Nat} {before after : Session}
    {snapshot : LiveSnapshot} (done : stableAttempts digest store tournamentID maxAttempts attempts before = (.ok snapshot,after)) :
    ∃ start users alive middle users' alive' first, ReadAt start users alive middle first ∧
      ReadAt middle users' alive' after snapshot ∧ digest first.payload = digest snapshot.payload := by
  induction attempts generalizing before with
  | zero => cases done
  | succ attempts ih =>
    obtain ⟨first,middle,readFirst,rest⟩ := Faulty.bind_ok done
    obtain ⟨firstHash,middle',hashedFirst,rest⟩ := Faulty.bind_ok rest
    obtain ⟨rfl,rfl⟩ := hashLiveSnapshot_ok hashedFirst
    obtain ⟨second,last,readSecond,rest⟩ := Faulty.bind_ok rest
    obtain ⟨secondHash,last',hashedSecond,rest⟩ := Faulty.bind_ok rest
    obtain ⟨rfl,rfl⟩ := hashLiveSnapshot_ok hashedSecond
    by_cases same : digest first.payload = digest second.payload
    · rw [if_pos same] at rest
      cases rest
      obtain ⟨users,alive,one⟩ := readLiveSnapshot_ok readFirst
      obtain ⟨users',alive',two⟩ := readLiveSnapshot_ok readSecond
      exact ⟨before,users,alive,middle',users',alive',first,one,two,same⟩
    · rw [if_neg same] at rest
      exact ih rest

end Stable

structure NoReturn (passed : List Stored) : Prop where
  userInfo : Adjacent (passed.map Stored.userInfo)
  alive : Adjacent (passed.map Stored.alive)
  died : Adjacent (passed.map Stored.died)

/-- Where two values of a key differ, they are encoded differently. -/
structure ToldApart (one other : Stored) : Prop where
  userInfo : encodedUserInfo one.userInfo = encodedUserInfo other.userInfo → one.userInfo = other.userInfo
  alive : encodedAlive one.alive = encodedAlive other.alive → one.alive = other.alive
  died : one.died.map runes = other.died.map runes → one.died = other.died

instance (one other : Stored) : Decidable (ToldApart one other) :=
  decidable_of_iff ((encodedUserInfo one.userInfo = encodedUserInfo other.userInfo → one.userInfo = other.userInfo) ∧
    (encodedAlive one.alive = encodedAlive other.alive → one.alive = other.alive) ∧
    (one.died.map runes = other.died.map runes → one.died = other.died))
    ⟨fun told => ⟨told.1,told.2.1,told.2.2⟩,fun told => ⟨told.userInfo,told.alive,told.died⟩⟩

def Told (passed : List Stored) : Prop := ∀ one ∈ passed, ∀ other ∈ passed, ToldApart one other

def HeldTogether (passed : List Stored) (snapshot : LiveSnapshot) : Prop :=
  ∃ moment ∈ passed, moment.userInfo = snapshot.userInfo ∧ moment.alive = snapshot.alive ∧ moment.died = snapshot.died

theorem steady {value : Stored → α} {first here last final : Session} (adjacent : Adjacent (final.passed.map value))
    (before : Later first here) (after : Later here last) (upTo : Later last final)
    (same : value first.stored = value last.stored) : value here.stored = value last.stored := by
  obtain ⟨middle,before⟩ := before
  obtain ⟨later,after⟩ := after
  obtain ⟨rest,upTo⟩ := upTo
  rw [upTo,List.map_append,after,before,List.map_append,List.map_append] at adjacent
  have lasts (session : Session) : (session.passed.map value).getLast? = some (value session.stored) := by
    simp [List.getLast?_map]
  apply adjacent.start.last_between
  · rw [← same]
    exact lasts first
  · rw [← List.map_append,← before]
    exact lasts here
  · rw [← List.map_append,← List.map_append,← before,← after]
    exact lasts last

theorem mem_passed {here final : Session} (later : Later here final) : here.stored ∈ final.passed := by
  obtain ⟨more,grown⟩ := later
  rw [grown]
  exact List.mem_append_left _ (List.mem_of_getLast? (passed_last here))

/-- What a stable read returns was stored at one moment of the call, if no key returns to an earlier value and
no two values of a key differ in bytes alone that are no text. -/
theorem stableRead_heldTogether {δ : Type} [DecidableEq δ] {digest : Payload → δ} (collisionFree : Function.Injective digest)
    {store : RedisStore} {tournamentID : String} {maxAttempts : Int} {start : Stored} {snapshot : LiveSnapshot} {session : Session}
    (done : readStableLiveSnapshot digest store tournamentID maxAttempts ⟨[],start,0⟩ = (.ok snapshot,session))
    (noReturn : NoReturn session.passed) (told : Told session.passed) : HeldTogether session.passed snapshot := by
  obtain ⟨_,users,alive,middle,users',alive',first,one,two,hash⟩ := stableAttempts_ok done
  have payload := collisionFree hash
  have afterUsers := two.toAlive.trans two.toDied
  have toMiddle := two.toUsers.trans afterUsers
  have beforeUsers := one.toAlive.trans (one.toDied.trans two.toUsers)
  have sameUsers : users.stored.userInfo = users'.stored.userInfo := by
    refine (told _ (mem_passed (one.toAlive.trans (one.toDied.trans toMiddle))) _ (mem_passed afterUsers)).userInfo ?_
    rw [← one.userInfo_eq,← two.userInfo_eq]
    exact congrArg Payload.userInfo payload
  have sameAlive : alive.stored.alive = alive'.stored.alive := by
    refine (told _ (mem_passed (one.toDied.trans toMiddle)) _ (mem_passed two.toDied)).alive ?_
    rw [← one.alive_eq,← two.alive_eq]
    exact congrArg Payload.alive payload
  have sameDied : middle.stored.died = session.stored.died := by
    refine (told _ (mem_passed toMiddle) _ (mem_passed (Later.refl session))).died ?_
    rw [← one.died_eq,← two.died_eq]
    exact congrArg Payload.died payload
  refine ⟨users'.stored,mem_passed afterUsers,two.userInfo_eq.symm,?_,?_⟩
  · rw [two.alive_eq]
    exact steady noReturn.alive (one.toDied.trans two.toUsers) two.toAlive two.toDied sameAlive
  · rw [two.died_eq]
    exact steady noReturn.died two.toUsers afterUsers (Later.refl session) sameDied

def savedAs (user alive : Bytes) : Stored where
  userInfo := [([55],user)]
  alive := [⟨alive,0⟩]

def tearing : RedisClient where
  writes n := if n = 3 then [.userInfo [([55],[254])]] else if n = 4 then [.userInfo [],.alive [⟨[254],0⟩]] else []
  fault _ := none

def torn : LiveSnapshot where
  tournamentID := "mtt-1"
  sourceMTTID := "mtt-1"
  gameType := "mtt"
  keys := ⟨"rankingUserInfo:mtt:mtt-1","rankingNotDiedScore:mtt:mtt-1","rankingUserDiedInfo:mtt:mtt-1"⟩
  userInfo := [([55],[254])]
  alive := [⟨[254],0⟩]
  died := []

def tornPassed : List Stored :=
  [savedAs [255] [255],savedAs [254] [255],{ savedAs [254] [255] with userInfo := [] },{ alive := [⟨[254],0⟩] }]

theorem tearing_reads :
    (readStableLiveSnapshot id { client := some tearing } "mtt-1" 2 ⟨[],savedAs [255] [255],0⟩).1.toOption = some torn ∧
      (readStableLiveSnapshot id { client := some tearing } "mtt-1" 2 ⟨[],savedAs [255] [255],0⟩).2.passed = tornPassed := by
  decide +kernel

theorem tornPassed_noReturn : NoReturn tornPassed :=
  ⟨.of_together (by decide),.of_together (by decide),.of_together (by decide)⟩

/-- Two values of a key that are no text look the same, and what is read was never stored together. -/
theorem stableRead_torn : Function.Injective (id : Payload → Payload) ∧ ∃ session,
    readStableLiveSnapshot id { client := some tearing } "mtt-1" 2 ⟨[],savedAs [255] [255],0⟩ = (.ok torn,session) ∧
      NoReturn session.passed ∧ ¬HeldTogether session.passed torn := by
  obtain ⟨read,passed⟩ := tearing_reads
  have done : readStableLiveSnapshot id { client := some tearing } "mtt-1" 2 ⟨[],savedAs [255] [255],0⟩ =
      (.ok torn,(readStableLiveSnapshot id { client := some tearing } "mtt-1" 2 ⟨[],savedAs [255] [255],0⟩).2) :=
    Prod.ext (Fallible.ok_of_toOption read) rfl
  refine ⟨Function.injective_id,_,done,?_,?_⟩
  · rw [passed]
    exact tornPassed_noReturn
  · rw [passed]
    unfold HeldTogether
    decide

def settling : RedisClient where
  writes n := if n = 3 then [.userInfo [([55],[98])]] else []
  fault _ := none

def settled : LiveSnapshot := { torn with userInfo := [([55],[98])], alive := [⟨[99],0⟩] }

theorem settling_reads :
    (readStableLiveSnapshot id { client := some settling } "mtt-1" 2 ⟨[],savedAs [97] [99],0⟩).1.toOption = some settled ∧
      (readStableLiveSnapshot id { client := some settling } "mtt-1" 2 ⟨[],savedAs [97] [99],0⟩).2.passed =
        [savedAs [97] [99],savedAs [98] [99]] := by
  decide +kernel

theorem stableRead_heldTogether_settled : ∃ session,
    readStableLiveSnapshot id { client := some settling } "mtt-1" 2 ⟨[],savedAs [97] [99],0⟩ = (.ok settled,session) ∧
      HeldTogether session.passed settled := by
  obtain ⟨read,passed⟩ := settling_reads
  have done : readStableLiveSnapshot id { client := some settling } "mtt-1" 2 ⟨[],savedAs [97] [99],0⟩ =
      (.ok settled,(readStableLiveSnapshot id { client := some settling } "mtt-1" 2 ⟨[],savedAs [97] [99],0⟩).2) :=
    Prod.ext (Fallible.ok_of_toOption read) rfl
  refine ⟨_,done,stableRead_heldTogether Function.injective_id done ?_ ?_⟩
  · rw [passed]
    exact ⟨.of_together (by decide),.of_together (by decide),.of_together (by decide)⟩
  · rw [passed]
    unfold Told
    decide +kernel

end Clawchain.Ranking.Live
