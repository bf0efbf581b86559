import Clawchain.Lib.Sorting
import Clawchain.Mining.Ledger

/-! Economic units: the classes of miners that signals link, and what registrations and requests do to them. -/
namespace Clawchain.Mining
open Clawchain.Lib Clawchain.Lib.Faulty

section Links
variable (text : Text)

def Shares (miners : List Miner) (a b : String) : Prop := ∃ first ∈ miners, ∃ second ∈ miners,
  first.address = a ∧ second.address = b ∧ ∃ evidence ∈ first.evidences text, evidence ∈ second.evidences text

def Linked (miners : List Miner) : String → String → Prop := Relation.EqvGen (Shares text miners)

variable {text}

theorem evidencePairs_shares {miners : List Miner} {a b : String} (pair : (a,b) ∈ evidencePairs text miners) :
    Shares text miners a b := by
  obtain ⟨evidence,-,inside⟩ := List.mem_flatMap.mp pair
  cases owners : (miners.filter fun miner => evidence ∈ miner.evidences text).map (·.address) with
  | nil =>
    rw [owners] at inside
    cases inside
  | cons root rest =>
    rw [owners] at inside
    obtain ⟨other,member,same⟩ := List.mem_map.mp inside
    cases same
    have owner {address : String} (listed : address ∈ a :: rest) :
        ∃ miner ∈ miners, miner.address = address ∧ evidence ∈ miner.evidences text := by
      rw [← owners] at listed
      obtain ⟨miner,held,rfl⟩ := List.mem_map.mp listed
      obtain ⟨held,has⟩ := List.mem_filter.mp held
      exact ⟨miner,held,rfl,by simpa using has⟩
    obtain ⟨one,held,rfl,has⟩ := owner List.mem_cons_self
    obtain ⟨two,held',rfl,has'⟩ := owner (List.mem_cons_of_mem _ member)
    exact ⟨one,held,two,held',rfl,rfl,evidence,has,has'⟩

theorem shares_connected {miners : List Miner} {a b : String} (shared : Shares text miners a b) :
    Unions.Connected (evidencePairs text miners) a b := by
  obtain ⟨one,held,two,held',rfl,rfl,evidence,has,has'⟩ := shared
  have owner {miner : Miner} (held : miner ∈ miners) (has : evidence ∈ miner.evidences text) :
      miner.address ∈ (miners.filter fun miner => evidence ∈ miner.evidences text).map (·.address) :=
    List.mem_map_of_mem (List.mem_filter.mpr ⟨held,by simpa using has⟩)
  have first := owner held has
  have second := owner held' has'
  have listed : evidence ∈ (miners.flatMap (Miner.evidences text)).dedup :=
    List.mem_dedup.mpr (List.mem_flatMap.mpr ⟨one,held,has⟩)
  cases owners : (miners.filter fun miner => evidence ∈ miner.evidences text).map (·.address) with
  | nil =>
    rw [owners] at first
    cases first
  | cons root rest =>
    have joined {address : String} (member : address ∈ root :: rest) :
        Unions.Connected (evidencePairs text miners) root address := by
      rcases List.mem_cons.mp member with rfl | member
      · exact .refl address
      · apply Relation.EqvGen.rel
        refine List.mem_flatMap.mpr ⟨evidence,listed,?_⟩
        rw [owners]
        exact List.mem_map_of_mem member
    rw [owners] at first second
    exact .trans _ _ _ (.symm _ _ (joined first)) (joined second)

theorem connected_iff (miners : List Miner) (a b : String) :
    Unions.Connected (evidencePairs text miners) a b ↔ Linked text miners a b := by
  constructor
  · exact Relation.EqvGen.mono (fun _ _ => evidencePairs_shares) a b
  · intro linked
    induction linked with
    | rel a b shared => exact shares_connected shared
    | refl a => exact .refl a
    | symm a b _ ih => exact ih.symm
    | trans a b c _ _ first next => exact first.trans _ _ _ next

theorem mem_componentOf {miners : List Miner} {address other : String} :
    other ∈ componentOf text miners address ↔
      other ∈ miners.map (·.address) ∧ Linked text miners other address := by
  unfold componentOf
  rw [List.mem_filter,decide_eq_true_iff,Unions.rootOf_eq_iff,connected_iff]

theorem unit_of_component {first next : List Miner} {a b : String}
    (member : a ∈ first.map (·.address) ↔ b ∈ next.map (·.address))
    (parts : (componentOf text first a).Perm (componentOf text next b)) :
    computeEconomicUnitComponents text first a = computeEconomicUnitComponents text next b := by
  have sorted : (componentOf text first a).mergeSort = (componentOf text next b).mergeSort :=
    Sorting.mergeSort_eq_of_perm parts
  unfold computeEconomicUnitComponents
  rw [sorted]
  by_cases inside : a ∈ first.map (·.address)
  · rw [if_pos inside,if_pos (member.mp inside)]
  · rw [if_neg inside,if_neg fun other => inside (member.mpr other)]

theorem unit_congr {first next : List Miner} (listed : (first.map (·.address)).Perm (next.map (·.address)))
    {a b : String} (member : a ∈ first.map (·.address) ↔ b ∈ next.map (·.address))
    (same : ∀ other, Linked text first other a ↔ Linked text next other b) :
    computeEconomicUnitComponents text first a = computeEconomicUnitComponents text next b := by
  apply unit_of_component member
  unfold componentOf
  refine (listed.filter _).trans (List.Perm.of_eq (List.filter_congr fun other _ => ?_))
  rw [decide_eq_decide,Unions.rootOf_eq_iff,Unions.rootOf_eq_iff,connected_iff,connected_iff]
  exact same other

theorem unit_of_sorted {miners : List Miner} {address : String} {members : List String}
    (component : componentOf text miners address = members) (sorted : members.Pairwise (· ≤ ·)) (member : address ∈ members) :
    computeEconomicUnitComponents text miners address = some ("eu:" ++ digest text ("|".intercalate members)) := by
  unfold computeEconomicUnitComponents
  rw [component,List.mergeSort_of_pairwise (sorted.imp fun below => by simpa using below),if_pos]
  rw [← component] at member
  exact (mem_componentOf.mp member).1

theorem unit_linked {miners : List Miner} {a b : String} (member : a ∈ miners.map (·.address))
    (member' : b ∈ miners.map (·.address)) (linked : Linked text miners a b) :
    computeEconomicUnitComponents text miners a = computeEconomicUnitComponents text miners b :=
  unit_congr (.refl _) (iff_of_true member member') fun _ =>
    ⟨fun left => left.trans _ _ _ linked,fun left => left.trans _ _ _ linked.symm⟩

def Covers (text : Text) (first next : List Miner) : Prop := ∀ one ∈ first, ∃ other ∈ next,
  other.address = one.address ∧ ∀ evidence ∈ one.evidences text, evidence ∈ other.evidences text

theorem Covers.linked {first next : List Miner} (covers : Covers text first next) {a b : String}
    (linked : Linked text first a b) : Linked text next a b := by
  refine Relation.EqvGen.mono ?_ a b linked
  rintro a b ⟨one,held,two,held',rfl,rfl,evidence,has,has'⟩
  obtain ⟨one',stored,same,keeps⟩ := covers one held
  obtain ⟨two',stored',same',keeps'⟩ := covers two held'
  exact ⟨one',stored,two',stored',same,same',evidence,keeps evidence has,keeps' evidence has'⟩

end Links

theorem listMiners_addresses {repo : Repository} (keyed : Keyed repo) :
    repo.listMiners.map (·.address) = repo.miners.keys :=
  OrdMap.map_values fun address miner found => (keyed.miners address miner found).1

theorem mem_listMiners {repo : Repository} (keyed : Keyed repo) {miner : Miner} :
    miner ∈ repo.listMiners ↔ repo.miners.get? miner.address = some miner :=
  OrdMap.mem_values fun address miner found => (keyed.miners address miner found).1

/-- Every miner's unit is the one that the signals of all miners give it. -/
def Clustered (text : Text) (repo : Repository) : Prop := ∀ miner ∈ repo.listMiners,
  computeEconomicUnitComponents text repo.listMiners miner.address = some miner.economicUnitID

structure Follows (text : Text) (candidates : List Miner) (repo : Repository) : Prop where
  listed : (candidates.map (·.address)).Perm (repo.listMiners.map (·.address))
  linked : ∀ a b, Linked text candidates a b ↔ Linked text repo.listMiners a b
  named : ∀ miner ∈ repo.listMiners, ∃ earlier,
    miner.economicUnitID = (computeEconomicUnitComponents text candidates miner.address).getD earlier

theorem Clustered.follows {text : Text} {repo : Repository} (clustered : Clustered text repo) :
    Follows text repo.listMiners repo where
  listed := .refl _
  linked _ _ := Iff.rfl
  named miner member := ⟨"",by rw [clustered miner member]; rfl⟩

theorem Follows.clustered {text : Text} {candidates : List Miner} {repo : Repository} (follows : Follows text candidates repo) :
    Clustered text repo := by
  intro miner member
  have inside : miner.address ∈ repo.listMiners.map (·.address) := List.mem_map_of_mem member
  have computed := @unit_congr text _ _ follows.listed miner.address miner.address follows.listed.mem_iff
    fun other => follows.linked other miner.address
  obtain ⟨earlier,unit⟩ := follows.named miner member
  rw [← computed,unit]
  unfold computeEconomicUnitComponents
  rw [if_pos (follows.listed.mem_iff.mpr inside)]
  rfl

def SameClusters (before after : Repository) : Prop :=
  after.listMiners.map Miner.cluster = before.listMiners.map Miner.cluster

theorem SameClusters.refl (repo : Repository) : SameClusters repo repo := rfl

theorem SameClusters.trans (a b c : Repository) (first : SameClusters a b) (next : SameClusters b c) :
    SameClusters a c := Eq.trans next first

theorem covers_of_clusters {text : Text} {first next : List Miner}
    (same : first.map Miner.cluster = next.map Miner.cluster) : Covers text first next := by
  intro one held
  have listed : one.cluster ∈ next.map Miner.cluster := same ▸ List.mem_map_of_mem held
  obtain ⟨other,stored,equal⟩ := List.mem_map.mp listed
  simp only [Miner.cluster,Prod.mk.injEq] at equal
  refine ⟨other,stored,equal.1,fun evidence has => ?_⟩
  unfold Miner.evidences at has ⊢
  rwa [equal.2.2.1,equal.2.2.2]

theorem SameClusters.addresses {before after : Repository} (same : SameClusters before after) :
    before.listMiners.map (·.address) = after.listMiners.map (·.address) := by
  have firsts := congrArg (List.map Prod.fst) (Eq.symm same)
  simpa [Function.comp_def,Miner.cluster] using firsts

theorem SameClusters.linked {text : Text} {before after : Repository} (same : SameClusters before after) (a b : String) :
    Linked text before.listMiners a b ↔ Linked text after.listMiners a b :=
  ⟨(covers_of_clusters (Eq.symm same)).linked,(covers_of_clusters same).linked⟩

theorem Follows.ofSame {text : Text} {candidates : List Miner} {before after : Repository}
    (follows : Follows text candidates before) (same : SameClusters before after) : Follows text candidates after where
  listed := same.addresses ▸ follows.listed
  linked a b := (follows.linked a b).trans (same.linked a b)
  named miner member := by
    have stored : miner.cluster ∈ before.listMiners.map Miner.cluster := same ▸ List.mem_map_of_mem member
    obtain ⟨old,held,equal⟩ := List.mem_map.mp stored
    simp only [Miner.cluster,Prod.mk.injEq] at equal
    rw [← equal.1,← equal.2.1]
    exact follows.named old held

section Calls
variable {settings : Settings} {now : Time}

theorem register_follows {text : Text} {repo : Repository} {miner : Miner} (keyed : Keyed repo)
    (fresh : repo.miners.get? miner.address = none) (named : miner.address ≠ "") (unpaid : miner.totalRewards = 0 ∧ miner.heldRewards = 0) :
    let units := computeEconomicUnitComponents text (repo.listMiners ++ [miner])
    Follows text (repo.listMiners ++ [miner]) { repo with
      miners := (renameUnits units repo.miners).insert miner.address
        { miner with economicUnitID := (units miner.address).getD miner.economicUnitID } } := by
  intro units
  have step := @Taking.register { miner with economicUnitID := (units miner.address).getD miner.economicUnitID } units repo
    fresh named unpaid
  have keyed' := step.keyed keyed
  generalize stored : ({ repo with
      miners := (renameUnits units repo.miners).insert miner.address
        { miner with economicUnitID := (units miner.address).getD miner.economicUnitID } } : Repository) = after
    at step keyed' ⊢
  have miners : after.miners = (renameUnits units repo.miners).insert miner.address
      { miner with economicUnitID := (units miner.address).getD miner.economicUnitID } := by rw [← stored]
  -- a stored miner is the new one or an old one, renamed
  have origin {row : Miner} (member : row ∈ after.listMiners) : ∃ old ∈ repo.listMiners ++ [miner],
      row = { old with economicUnitID := (units old.address).getD old.economicUnitID } := by
    rw [mem_listMiners keyed',miners,OrdMap.get?_insert] at member
    split_ifs at member with own
    · cases member
      exact ⟨miner,by simp,rfl⟩
    · rw [get?_renameUnits] at member
      obtain ⟨old,held,equal⟩ := Option.map_eq_some_iff.mp member
      have filed := (keyed.miners _ _ held).1
      exact ⟨old,List.mem_append_left _ ((mem_listMiners keyed).mpr (filed.symm ▸ held)),equal.symm⟩
  have kept {old : Miner} (member : old ∈ repo.listMiners ++ [miner]) :
      { old with economicUnitID := (units old.address).getD old.economicUnitID } ∈ after.listMiners := by
    rw [mem_listMiners keyed',miners,OrdMap.get?_insert]
    rcases List.mem_append.mp member with held | new
    · rw [mem_listMiners keyed] at held
      rw [if_neg fun own => by simp [own ▸ held] at fresh,get?_renameUnits,held]
      rfl
    · rw [List.mem_singleton.mp new]
      exact if_pos rfl
  refine ⟨?_,?_,?_⟩
  · rw [listMiners_addresses keyed',List.map_append,listMiners_addresses keyed,miners]
    rw [List.perm_ext_iff_of_nodup]
    · intro address
      rw [OrdMap.mem_keys_insert,renameUnits,OrdMap.keys_mapVals]
      simp [or_comm]
    · refine List.nodup_append.mpr ⟨OrdMap.keys_nodup _,by simp,?_⟩
      rintro a inside b new rfl
      rw [List.mem_singleton.mp new] at inside
      exact OrdMap.get?_eq_none_iff.mp fresh inside
    · exact OrdMap.keys_nodup _
  · intro a b
    constructor
    · exact Covers.linked fun old member => ⟨_,kept member,rfl,fun _ has => has⟩
    · refine Covers.linked fun row member => ?_
      obtain ⟨old,held,rfl⟩ := origin member
      exact ⟨old,held,rfl,fun _ has => has⟩
  · intro row member
    obtain ⟨old,-,rfl⟩ := origin member
    exact ⟨_,rfl⟩

def newMiner (settings : Settings) (now : Time) (address : String) (ip agent : Option String) : Miner where
  address := address
  economicUnitID := s!"eu:{address}"
  ipAddress := normalizeIpSignal settings.text ip
  userAgentHash := hashUserAgent settings.text agent
  createdAt := now

variable (settings now) in
theorem registerMiner_cases (address version : String) (ip agent : Option String) (repo : Repository) :
    (∃ failure, registerMiner settings now address version ip agent repo = (.error failure,repo)) ∨
      repo.miners.get? address = none ∧ address ≠ "" ∧
        registerMiner settings now address version ip agent repo = (.ok (),{ repo with
          miners := (renameUnits (computeEconomicUnitComponents settings.text
              (repo.listMiners ++ [newMiner settings now address ip agent])) repo.miners).insert address
            { newMiner settings now address ip agent with
              economicUnitID := (computeEconomicUnitComponents settings.text
                (repo.listMiners ++ [newMiner settings now address ip agent]) address).getD
                  (newMiner settings now address ip agent).economicUnitID } }) := by
  unfold registerMiner
  split_ifs with format below
  · exact .inl ⟨_,rfl⟩
  · exact .inl ⟨_,rfl⟩
  · rw [read_run]
    dsimp only
    split_ifs with known
    · exact .inl ⟨_,rfl⟩
    · refine .inr ⟨by simpa using known,?_,rfl⟩
      rintro rfl
      exact format rfl

variable (settings now) in
theorem registerMiner_follows (address version : String) (ip agent : Option String) {repo : Repository} (keyed : Keyed repo) :
    (registerMiner settings now address version ip agent repo).1.isOk = true ∧
        Follows settings.text (repo.listMiners ++ [newMiner settings now address ip agent])
          (registerMiner settings now address version ip agent repo).2 ∨
      (registerMiner settings now address version ip agent repo).1.isOk = false ∧
        (registerMiner settings now address version ip agent repo).2 = repo := by
  rcases registerMiner_cases settings now address version ip agent repo with ⟨failure,failed⟩ | ⟨fresh,named,done⟩
  · rw [failed]
    exact .inr ⟨rfl,rfl⟩
  · rw [done]
    exact .inl ⟨rfl,@register_follows settings.text repo (newMiner settings now address ip agent) keyed fresh named ⟨rfl,rfl⟩⟩

def Miner.requested (text : Text) (ip agent : Option String) (miner : Miner) : Miner :=
  { miner with
    ipAddress := normalizeIpSignal text (ip <|> miner.ipAddress)
    userAgentHash := hashUserAgent text agent <|> miner.userAgentHash }

def Miner.candidate (text : Text) (address : String) (ip agent : Option String) (miner : Miner) : Miner :=
  if miner.address = address then miner.requested text ip agent else miner

@[simp] theorem candidate_address (text : Text) (address : String) (ip agent : Option String) (miner : Miner) :
    (miner.candidate text address ip agent).address = miner.address := by
  unfold Miner.candidate
  split_ifs <;> rfl

def requestCandidates (text : Text) (address : String) (ip agent : Option String) (repo : Repository) : List Miner :=
  repo.listMiners.map (Miner.candidate text address ip agent)

/-- A request that hides its miner's stored address leaves the miner linked to everyone who has that address. -/
def Discloses (text : Text) (address : String) (ip agent : Option String) (repo : Repository) : Prop :=
  ∀ miner, repo.miners.get? address = some miner → (miner.requested text ip agent).ipAddress = none →
    ∀ other ∈ repo.listMiners, (∃ evidence ∈ ({ miner with userAgentHash := none } : Miner).evidences text,
      evidence ∈ other.evidences text) → Linked text (requestCandidates text address ip agent repo) address other.address

def Miner.refreshed (text : Text) (ip agent : Option String) (miner : Miner) : Miner :=
  { miner with
    ipAddress := (miner.requested text ip agent).ipAddress <|> miner.ipAddress
    userAgentHash := (miner.requested text ip agent).userAgentHash }

theorem requested_evidences {text : Text} {ip agent : Option String} {miner : Miner} {evidence : String}
    (has : evidence ∈ (miner.requested text ip agent).evidences text) :
    evidence ∈ (miner.refreshed text ip agent).evidences text := by
  unfold Miner.refreshed
  cases asked : (miner.requested text ip agent).ipAddress with
  | none =>
    unfold Miner.evidences at has ⊢
    rw [asked] at has
    exact List.mem_append_right _ has
  | some address =>
    unfold Miner.evidences at has ⊢
    rw [asked] at has
    exact has

theorem refreshed_evidences {text : Text} {ip agent : Option String} {miner : Miner} {evidence : String}
    (has : evidence ∈ (miner.refreshed text ip agent).evidences text) :
    evidence ∈ (miner.requested text ip agent).evidences text ∨
      (miner.requested text ip agent).ipAddress = none ∧
        evidence ∈ ({ miner with userAgentHash := none } : Miner).evidences text := by
  unfold Miner.refreshed at has
  cases asked : (miner.requested text ip agent).ipAddress with
  | none =>
    unfold Miner.evidences at has ⊢
    rw [asked] at has ⊢
    rcases List.mem_append.mp has with hidden | agent
    · exact .inr ⟨rfl,List.mem_append_left _ hidden⟩
    · exact .inl (List.mem_append_right _ agent)
  | some address =>
    left
    unfold Miner.evidences at has ⊢
    rw [asked] at has ⊢
    exact has

def Miner.after (text : Text) (address : String) (ip agent : Option String) (units : String → Option String)
    (miner : Miner) : Miner :=
  { (if miner.address = address then miner.refreshed text ip agent else miner) with
    economicUnitID := (units miner.address).getD miner.economicUnitID }

@[simp] theorem after_address (text : Text) (address : String) (ip agent : Option String) (units : String → Option String)
    (miner : Miner) : (miner.after text address ip agent units).address = miner.address := by
  unfold Miner.after
  dsimp only
  split_ifs <;> rfl

def Repository.recluster (text : Text) (address : String) (ip agent : Option String) (repo : Repository) : Repository :=
  { repo with miners := repo.miners.mapVals fun _ =>
      Miner.after text address ip agent (computeEconomicUnitComponents text (requestCandidates text address ip agent repo)) }

theorem recluster_listMiners (text : Text) (address : String) (ip agent : Option String) (repo : Repository) :
    (repo.recluster text address ip agent).listMiners = repo.listMiners.map
      (Miner.after text address ip agent (computeEconomicUnitComponents text (requestCandidates text address ip agent repo))) := by
  simp [Repository.recluster,Repository.listMiners,OrdMap.mapVals,Function.comp_def]

section Request
variable {text : Text} {address : String} {ip agent : Option String}

theorem candidate_evidences {units : String → Option String} {miner : Miner} {evidence : String}
    (has : evidence ∈ (miner.candidate text address ip agent).evidences text) :
    evidence ∈ (miner.after text address ip agent units).evidences text := by
  unfold Miner.candidate at has
  unfold Miner.after
  split_ifs at has ⊢
  · exact requested_evidences has
  · exact has

def Miner.Hides (text : Text) (address : String) (ip agent : Option String) (evidence : String) (miner : Miner) : Prop :=
  miner.address = address ∧ (miner.requested text ip agent).ipAddress = none ∧
    evidence ∈ ({ miner with userAgentHash := none } : Miner).evidences text

theorem after_evidences {units : String → Option String} {miner : Miner} {evidence : String}
    (has : evidence ∈ (miner.after text address ip agent units).evidences text) :
    evidence ∈ (miner.candidate text address ip agent).evidences text ∨ miner.Hides text address ip agent evidence := by
  unfold Miner.after at has
  unfold Miner.candidate
  split_ifs at has ⊢ with own
  · rcases refreshed_evidences has with asked | ⟨hidden,stored⟩
    · exact .inl asked
    · exact .inr ⟨own,hidden,stored⟩
  · exact .inl has

theorem Discloses.linked {repo : Repository} (discloses : Discloses text address ip agent repo) (keyed : Keyed repo)
    {one other : Miner} {evidence : String} (stored : one ∈ repo.listMiners) (stored' : other ∈ repo.listMiners)
    (hides : one.Hides text address ip agent evidence)
    (has : evidence ∈ (other.candidate text address ip agent).evidences text ∨ other.Hides text address ip agent evidence) :
    Linked text (requestCandidates text address ip agent repo) one.address other.address := by
  obtain ⟨own,hidden,listed⟩ := hides
  rw [own]
  by_cases same : other.address = address
  · rw [same]
    exact .refl address
  · have asked := has.resolve_right fun other => same other.1
    rw [Miner.candidate,if_neg same] at asked
    exact discloses one (own ▸ (mem_listMiners keyed).mp stored) hidden other stored' ⟨evidence,listed,asked⟩

theorem recluster_linked {repo : Repository} (keyed : Keyed repo) (discloses : Discloses text address ip agent repo)
    (a b : String) : Linked text (requestCandidates text address ip agent repo) a b ↔
      Linked text (repo.recluster text address ip agent).listMiners a b := by
  rw [recluster_listMiners]
  constructor
  · refine Covers.linked fun one member => ?_
    obtain ⟨old,held,rfl⟩ := List.mem_map.mp member
    exact ⟨_,List.mem_map_of_mem held,by simp,fun _ has => candidate_evidences has⟩
  · intro linked
    induction linked with
    | refl a => exact .refl a
    | symm a b _ ih => exact ih.symm
    | trans a b c _ _ first next => exact first.trans _ _ _ next
    | rel a b shared =>
      obtain ⟨one,held,two,held',rfl,rfl,evidence,has,has'⟩ := shared
      obtain ⟨first,stored,rfl⟩ := List.mem_map.mp held
      obtain ⟨second,stored',rfl⟩ := List.mem_map.mp held'
      rw [after_address,after_address]
      rcases after_evidences has with asked | hides
      · rcases after_evidences has' with asked' | hides'
        · exact .rel _ _ ⟨_,List.mem_map_of_mem stored,_,List.mem_map_of_mem stored',by simp,by simp,evidence,asked,asked'⟩
        · exact (discloses.linked keyed stored' stored hides' (.inl asked)).symm
      · exact discloses.linked keyed stored stored' hides (after_evidences has')

theorem recluster_follows {repo : Repository} (keyed : Keyed repo) (discloses : Discloses text address ip agent repo) :
    Follows text (requestCandidates text address ip agent repo) (repo.recluster text address ip agent) := by
  refine ⟨?_,recluster_linked keyed discloses,fun miner member => ?_⟩
  · rw [recluster_listMiners,requestCandidates,List.map_map,List.map_map]
    simp [Function.comp_def]
  · rw [recluster_listMiners] at member
    obtain ⟨old,-,rfl⟩ := List.mem_map.mp member
    refine ⟨old.economicUnitID,?_⟩
    rw [after_address]
    rfl

end Request

theorem requestCandidates_same {text : Text} {address : String} {ip agent : Option String} {repo : Repository}
    (keyed : Keyed repo) (same : ∀ current, repo.miners.get? address = some current → current.requested text ip agent = current) :
    requestCandidates text address ip agent repo = repo.listMiners := by
  unfold requestCandidates
  rw [List.map_congr_left (g := id),List.map_id]
  intro miner member
  unfold Miner.candidate
  split_ifs with own
  · exact same miner (own ▸ (mem_listMiners keyed).mp member)
  · rfl

def refreshCandidates (settings : Settings) (address : String) (ip agent : Option String) (repo : Repository) :
    Option (List Miner) :=
  (repo.miners.get? address).bind fun current =>
    let asked := current.requested settings.text ip agent
    if asked.ipAddress = current.ipAddress ∧ asked.userAgentHash = current.userAgentHash ∧ current.economicUnitID ≠ "" then none
    else some (requestCandidates settings.text address ip agent repo)

theorem refreshMinerCluster_run {address : String} {ip agent : Option String} {repo : Repository} (keyed : Keyed repo) :
    (refreshMinerCluster settings address ip agent repo).2 = match refreshCandidates settings address ip agent repo with
      | none => repo
      | some _ => repo.recluster settings.text address ip agent := by
  unfold refreshMinerCluster refreshCandidates
  rw [read_run]
  cases found : repo.miners.get? address with
  | none => rfl
  | some current =>
    rw [Option.bind_some]
    dsimp only
    by_cases unchanged : normalizeIpSignal settings.text (ip <|> current.ipAddress) = current.ipAddress ∧
        (hashUserAgent settings.text agent <|> current.userAgentHash) = current.userAgentHash ∧ current.economicUnitID ≠ ""
    · rw [if_pos unchanged,if_pos (by exact unchanged)]
      rfl
    · rw [if_neg unchanged,if_neg (by exact unchanged)]
      rw [modify_bind,read_run]
      dsimp only
      have asked : (repo.listMiners.map fun miner =>
          if miner.address = address then
            { miner with
              ipAddress := normalizeIpSignal settings.text (ip <|> current.ipAddress)
              userAgentHash := hashUserAgent settings.text agent <|> current.userAgentHash }
          else miner) = requestCandidates settings.text address ip agent repo := by
        apply List.map_congr_left
        intro miner member
        unfold Miner.candidate
        split_ifs with own
        · have same := (mem_listMiners keyed).mp member
          rw [own,found] at same
          cases same
          rfl
        · rfl
      rw [asked]
      unfold Repository.recluster
      generalize computeEconomicUnitComponents settings.text (requestCandidates settings.text address ip agent repo) = units
      change ({ repo with miners := _ } : Repository) = _
      congr 1
      apply OrdMap.ext_get?
      intro other
      rw [OrdMap.get?_modifyAt,get?_renameUnits,OrdMap.get?_mapVals]
      cases held : repo.miners.get? other with
      | none => simp
      | some row =>
        have filed := (keyed.miners other row held).1
        rw [Option.map_some,Option.map_some]
        by_cases own : other = address
        · rw [own,found] at held
          cases held
          have signal (hash held : Option String) : ((hash <|> held) <|> held) = (hash <|> held) := by
            cases hash <;> cases held <;> rfl
          rw [if_pos own,Option.map_some,Miner.after,if_pos (filed.trans own)]
          unfold Miner.refreshed Miner.requested
          dsimp only
          rw [signal]
        · rw [if_neg own,Option.map_some]
          unfold Miner.after
          rw [if_neg (filed ▸ own)]

theorem refreshMinerCluster_follows {address : String} {ip agent : Option String} {repo : Repository} (keyed : Keyed repo)
    (clustered : Clustered settings.text repo) (discloses : Discloses settings.text address ip agent repo) :
    Follows settings.text (requestCandidates settings.text address ip agent repo)
      (refreshMinerCluster settings address ip agent repo).2 := by
  rw [refreshMinerCluster_run keyed]
  cases asked : refreshCandidates settings address ip agent repo with
  | some candidates => exact recluster_follows keyed discloses
  | none =>
    rw [requestCandidates_same keyed]
    · exact clustered.follows
    · intro current held
      unfold refreshCandidates at asked
      rw [held,Option.bind_some] at asked
      dsimp only at asked
      split_ifs at asked with unchanged
      have row : current.requested settings.text ip agent = { current with
          ipAddress := (current.requested settings.text ip agent).ipAddress
          userAgentHash := (current.requested settings.text ip agent).userAgentHash } := rfl
      rw [row,unchanged.1,unchanged.2.1]

end Calls
end Clawchain.Mining
