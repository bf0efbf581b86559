import Clawchain.Lib.Forests
import Clawchain.Mining.Clusters

/-! How economic units are computed: the places of the miners are joined in a forest, evidence by evidence, and each tree
is named after its members. The trees are the classes of miners that chains of shared signals link. -/
namespace Clawchain.Mining.Components
open Clawchain.Lib Clawchain.Lib.Forests

section Compute
variable (text : Text)

def evidencePlaces (miners : List Miner) : List (String × Nat) :=
  miners.zipIdx.flatMap fun placed => (placed.1.evidences text).map fun evidence => (evidence,placed.2)

def evidenceMap (miners : List Miner) : List (String × List Nat) := Groups.gather (evidencePlaces text miners)

def memberPairs : List Nat → List (Nat × Nat)
  | [] => []
  | first :: others => others.map fun other => (first,other)

def joinEvidences (miners : List Miner) : Forest Nat :=
  (evidenceMap text miners).foldl (fun forest members => forest.joinAll (memberPairs members.2)) .single

def indexByAddress (miners : List Miner) (address : String) : Nat :=
  ((miners.zipIdx.filter fun placed => placed.1.address = address).getLast?.map Prod.snd).getD 0

def findRoots (index : String → Nat) : Forest Nat → List Miner → List (Nat × String)
  | _,[] => []
  | forest,miner :: rest =>
    let found := forest.find (index miner.address)
    (found.2,miner.address) :: findRoots index found.1 rest

def components (miners : List Miner) : List (Nat × List String) :=
  Groups.gather (findRoots (indexByAddress miners) (joinEvidences text miners) miners)

def unitName (addresses : List String) : String := "eu:" ++ digest text ("|".intercalate addresses.mergeSort)

def computeEconomicUnitComponents (miners : List Miner) : OrdMap String String :=
  .ofList ((components text miners).flatMap fun component =>
    component.2.map fun address => (address,unitName text component.2))

end Compute

variable {miners : List Miner} {i j : Nat} {one two miner a b : Miner}

theorem place_unique (distinct : (miners.map (·.address)).Nodup) (placed : miners[i]? = some one)
    (placed' : miners[j]? = some two) (same : one.address = two.address) : i = j := by
  obtain ⟨bound,-⟩ := List.getElem?_eq_some_iff.mp placed
  apply (List.getElem?_inj (by simpa using bound) distinct).mp
  rw [List.getElem?_map,List.getElem?_map,placed,placed',Option.map_some,Option.map_some,same]

theorem indexByAddress_eq (distinct : (miners.map (·.address)).Nodup) (placed : miners[i]? = some miner)
    : indexByAddress miners miner.address = i := by
  have inside : (miner,i) ∈ miners.zipIdx.filter fun other => other.1.address = miner.address :=
    List.mem_filter.mpr ⟨List.mem_zipIdx_iff_getElem?.mpr placed,by simp⟩
  unfold indexByAddress
  cases last : (miners.zipIdx.filter fun other => other.1.address = miner.address).getLast? with
  | none =>
    rw [List.getLast?_eq_none_iff.mp last] at inside
    cases inside
  | some other =>
    obtain ⟨listed,same⟩ := List.mem_filter.mp (List.mem_of_getLast? last)
    exact place_unique distinct (List.mem_zipIdx_iff_getElem?.mp listed) placed (by simpa using same)

variable {text : Text}

theorem mem_evidencePlaces {evidence : String} :
    (evidence,i) ∈ evidencePlaces text miners ↔ ∃ miner, miners[i]? = some miner ∧ evidence ∈ miner.evidences text := by
  constructor
  · intro inside
    obtain ⟨⟨miner,place⟩,held,listed⟩ := List.mem_flatMap.mp inside
    obtain ⟨own,has,same⟩ := List.mem_map.mp listed
    cases same
    exact ⟨miner,List.mem_zipIdx_iff_getElem?.mp held,has⟩
  · rintro ⟨miner,placed,has⟩
    exact List.mem_flatMap.mpr ⟨(miner,i),List.mem_zipIdx_iff_getElem?.mpr placed,List.mem_map_of_mem has⟩

def placePairs (text : Text) (miners : List Miner) : List (Nat × Nat) :=
  (evidenceMap text miners).flatMap fun members => memberPairs members.2

theorem joinEvidences_eq (miners : List Miner) : joinEvidences text miners = Forest.single.joinAll (placePairs text miners) := by
  unfold joinEvidences placePairs Forest.joinAll
  rw [List.foldl_flatMap]

theorem memberPairs_members {members : List Nat} (pair : (i,j) ∈ memberPairs members) : i ∈ members ∧ j ∈ members := by
  cases members with
  | nil => cases pair
  | cons first others =>
    obtain ⟨other,listed,same⟩ := List.mem_map.mp pair
    cases same
    exact ⟨List.mem_cons_self,List.mem_cons_of_mem _ listed⟩

theorem members_connected {members : List Nat} {pairs : List (Nat × Nat)}
    (joined : ∀ pair ∈ memberPairs members, pair ∈ pairs) (first : i ∈ members) (second : j ∈ members)
    : Unions.Connected pairs i j := by
  cases members with
  | nil => cases first
  | cons head others =>
    have toHead {k : Nat} (member : k ∈ head :: others) : Unions.Connected pairs head k := by
      rcases List.mem_cons.mp member with rfl | later
      · exact .refl k
      · exact .rel _ _ (joined _ (List.mem_map_of_mem later))
    exact .trans _ _ _ (.symm _ _ (toHead first)) (toHead second)

def addressAt (miners : List Miner) (i : Nat) : String := (miners[i]?.map (·.address)).getD ""

theorem addressAt_eq (placed : miners[i]? = some miner) :
    addressAt miners i = miner.address := by
  rw [addressAt,placed]
  rfl

theorem placePairs_shares (pair : (i,j) ∈ placePairs text miners) :
    Shares text miners (addressAt miners i) (addressAt miners j) := by
  obtain ⟨⟨evidence,members⟩,entry,inside⟩ := List.mem_flatMap.mp pair
  obtain ⟨first,second⟩ := memberPairs_members inside
  have owner {k : Nat} (member : k ∈ members) : ∃ miner, miners[k]? = some miner ∧ evidence ∈ miner.evidences text := by
    rw [(Groups.mem_gather.mp entry).2] at member
    obtain ⟨⟨own,place⟩,listed,same⟩ := List.mem_map.mp member
    cases same
    obtain ⟨kept,same⟩ := List.mem_filter.mp listed
    obtain rfl : own = evidence := by simpa using same
    exact mem_evidencePlaces.mp kept
  obtain ⟨one,placed,has⟩ := owner first
  obtain ⟨two,placed',has'⟩ := owner second
  rw [addressAt_eq placed,addressAt_eq placed']
  exact ⟨one,List.mem_of_getElem? placed,two,List.mem_of_getElem? placed',rfl,rfl,evidence,has,has'⟩

theorem shares_places (distinct : (miners.map (·.address)).Nodup) {a b : String} (shared : Shares text miners a b) :
    Unions.Connected (placePairs text miners) (indexByAddress miners a) (indexByAddress miners b) := by
  obtain ⟨one,held,two,held',rfl,rfl,evidence,has,has'⟩ := shared
  obtain ⟨i,placed⟩ := List.mem_iff_getElem?.mp held
  obtain ⟨j,placed'⟩ := List.mem_iff_getElem?.mp held'
  rw [indexByAddress_eq distinct placed,indexByAddress_eq distinct placed']
  have first : (evidence,i) ∈ evidencePlaces text miners := mem_evidencePlaces.mpr ⟨one,placed,has⟩
  have second : (evidence,j) ∈ evidencePlaces text miners := mem_evidencePlaces.mpr ⟨two,placed',has'⟩
  let members := ((evidencePlaces text miners).filter (·.1 = evidence)).map Prod.snd
  have entry : (evidence,members) ∈ evidenceMap text miners :=
    Groups.mem_gather.mpr ⟨List.mem_map.mpr ⟨_,first,rfl⟩,rfl⟩
  have member {k : Nat} (listed : (evidence,k) ∈ evidencePlaces text miners) : k ∈ members :=
    List.mem_map.mpr ⟨(evidence,k),List.mem_filter.mpr ⟨listed,by simp⟩,rfl⟩
  exact members_connected (fun pair inside => List.mem_flatMap.mpr ⟨_,entry,inside⟩) (member first) (member second)

theorem root_iff_linked (distinct : (miners.map (·.address)).Nodup) (held : one ∈ miners) (held' : two ∈ miners) :
    (joinEvidences text miners).root (indexByAddress miners one.address) =
      (joinEvidences text miners).root (indexByAddress miners two.address) ↔ Linked text miners one.address two.address := by
  rw [joinEvidences_eq,Forest.joinAll_single]
  constructor
  · intro connected
    have addresses {i j : Nat} (connected : Unions.Connected (placePairs text miners) i j) :
        Linked text miners (addressAt miners i) (addressAt miners j) := by
      induction connected with
      | rel i j pair => exact .rel _ _ (placePairs_shares pair)
      | refl i => exact .refl _
      | symm i j _ ih => exact .symm _ _ ih
      | trans i j k _ _ first next => exact .trans _ _ _ first next
    have own {miner : Miner} (held : miner ∈ miners) : addressAt miners (indexByAddress miners miner.address) = miner.address := by
      obtain ⟨i,placed⟩ := List.mem_iff_getElem?.mp held
      rw [indexByAddress_eq distinct placed,addressAt_eq placed]
    have linked := addresses connected
    rwa [own held,own held'] at linked
  · intro linked
    generalize one.address = a at linked
    generalize two.address = b at linked
    induction linked with
    | rel a b shared => exact shares_places distinct shared
    | refl a => exact .refl _
    | symm a b _ ih => exact .symm _ _ ih
    | trans a b c _ _ first next => exact .trans _ _ _ first next

theorem findRoots_eq (index : String → Nat) (forest : Forest Nat) (miners : List Miner) :
    findRoots index forest miners = miners.map fun miner => (forest.root (index miner.address),miner.address) := by
  induction miners generalizing forest with
  | nil => rfl
  | cons miner rest ih => rw [findRoots,ih,Forest.find_found,Forest.find_root,List.map_cons]

theorem mem_components {root : Nat} {members : List String} :
    (root,members) ∈ components text miners ↔
      root ∈ miners.map (fun miner => (joinEvidences text miners).root (indexByAddress miners miner.address)) ∧
        members = (miners.filter fun miner =>
          (joinEvidences text miners).root (indexByAddress miners miner.address) = root).map (·.address) := by
  unfold components
  rw [Groups.mem_gather,findRoots_eq,List.map_map,List.filter_map,List.map_map]
  rfl

theorem component_members (distinct : (miners.map (·.address)).Nodup) (held : miner ∈ miners)
    : (miners.filter fun other => (joinEvidences text miners).root (indexByAddress miners other.address) =
      (joinEvidences text miners).root (indexByAddress miners miner.address)).map (·.address) =
      componentOf text miners miner.address := by
  unfold componentOf
  rw [List.filter_map]
  congr 1
  apply List.filter_congr
  intro other inside
  dsimp only [Function.comp_apply]
  rw [decide_eq_decide,root_iff_linked distinct inside held]
  exact ((Unions.rootOf_eq_iff _ _ _).trans (connected_iff miners _ _)).symm

theorem computeEconomicUnitComponents_get? (distinct : (miners.map (·.address)).Nodup) (address : String) :
    (computeEconomicUnitComponents text miners).get? address = Mining.computeEconomicUnitComponents text miners address := by
  unfold Mining.computeEconomicUnitComponents
  have named {other unit : String} (entry : (other,unit) ∈ (components text miners).flatMap fun component =>
      component.2.map fun address => (address,unitName text component.2)) :
      ∃ miner ∈ miners, miner.address = other ∧ unit = unitName text (componentOf text miners other) := by
    obtain ⟨⟨root,members⟩,component,listed⟩ := List.mem_flatMap.mp entry
    obtain ⟨own,member,same⟩ := List.mem_map.mp listed
    cases same
    obtain ⟨-,rfl⟩ := mem_components.mp component
    obtain ⟨miner,found,rfl⟩ := List.mem_map.mp member
    obtain ⟨held,rooted⟩ := List.mem_filter.mp found
    obtain rfl := decide_eq_true_iff.mp rooted
    exact ⟨miner,held,rfl,by rw [component_members distinct held]⟩
  split_ifs with listed
  · obtain ⟨miner,held,rfl⟩ := List.mem_map.mp listed
    have component : ((joinEvidences text miners).root (indexByAddress miners miner.address),
        componentOf text miners miner.address) ∈ components text miners :=
      mem_components.mpr ⟨List.mem_map_of_mem held,(component_members distinct held).symm⟩
    have entry : (miner.address,unitName text (componentOf text miners miner.address)) ∈
        (components text miners).flatMap fun component => component.2.map fun address => (address,unitName text component.2) :=
      List.mem_flatMap.mpr ⟨_,component,List.mem_map_of_mem (mem_componentOf.mpr ⟨listed,.refl _⟩)⟩
    obtain ⟨unit,found⟩ := OrdMap.mem_keys_iff.mp ((ofList_keys _ _).mpr (List.mem_map_of_mem entry))
    obtain ⟨-,-,-,rfl⟩ := named (OrdMap.mem_of_get?_ofList found)
    exact found
  · apply OrdMap.get?_ofList_eq_none
    intro inside
    obtain ⟨⟨other,unit⟩,entry,rfl⟩ := List.mem_map.mp inside
    obtain ⟨miner,held,same,-⟩ := named entry
    exact listed (same ▸ List.mem_map_of_mem held)

def Alike (text : Text) (a b : Miner) : Prop :=
  (∃ ip other, a.ipAddress = some ip ∧ b.ipAddress = some other ∧ ip ≠ "" ∧ other ≠ "" ∧
    text.lower (text.strip ip) = text.lower (text.strip other)) ∨
  ∃ hash, hash ≠ "" ∧ a.userAgentHash = some hash ∧ b.userAgentHash = some hash

theorem Alike.symm (alike : Alike text a b) : Alike text b a := by
  rcases alike with ⟨ip,other,first,second,given_,given',same⟩ | ⟨hash,given_,first,second⟩
  · exact .inl ⟨other,ip,second,first,given',given_,same.symm⟩
  · exact .inr ⟨hash,given_,second,first⟩

/-- Each miner of the chain shares a signal with the next one. -/
def Chained (text : Text) (miners : List Miner) : Miner → Miner → Prop :=
  Relation.ReflTransGen fun a b => a ∈ miners ∧ b ∈ miners ∧ Alike text a b

theorem Chained.symm (chained : Chained text miners a b) : Chained text miners b a := by
  induction chained with
  | refl => exact .refl
  | tail _ step ih => exact .head ⟨step.2.1,step.1,step.2.2.symm⟩ ih

theorem mem_evidences {evidence : String} : evidence ∈ miner.evidences text ↔
    (∃ ip, miner.ipAddress = some ip ∧ ip ≠ "" ∧ evidence = "ip:" ++ text.lower (text.strip ip)) ∨
      miner.userAgentHash = some evidence ∧ evidence ≠ "" := by
  unfold Miner.evidences
  rw [List.mem_append,Option.mem_toList,Option.mem_toList]
  apply or_congr
  · simp only [Option.map_eq_some_iff,Option.filter_eq_some_iff,decide_eq_true_iff,ne_eq]
    exact ⟨fun ⟨ip,⟨held,given_⟩,same⟩ => ⟨ip,held,given_,same.symm⟩,fun ⟨ip,held,given_,same⟩ => ⟨ip,⟨held,given_⟩,same.symm⟩⟩
  · simp [Option.filter_eq_some_iff]

/-- A hash of an agent, as `hash_user_agent` makes it. -/
def Hashed (text : Text) (miner : Miner) : Prop := ∀ hash, miner.userAgentHash = some hash → ∃ agent, hashUserAgent text agent = some hash

theorem Hashed.not_ip (hashed : Hashed text miner) {ip : String} : miner.userAgentHash ≠ some ("ip:" ++ ip) := by
  intro held
  obtain ⟨agent,made⟩ := hashed _ held
  obtain ⟨normalized,-,same⟩ := Option.map_eq_some_iff.mp made
  have heads := congrArg (fun s => s.toList.head?) same
  simp [String.toList_append] at heads

theorem alike_iff (first : Hashed text a) (second : Hashed text b) :
    Alike text a b ↔ ∃ evidence ∈ a.evidences text, evidence ∈ b.evidences text := by
  constructor
  · rintro (⟨ip,other,held,held',given_,given',same⟩ | ⟨hash,given_,held,held'⟩)
    · exact ⟨_,mem_evidences.mpr (.inl ⟨ip,held,given_,rfl⟩),mem_evidences.mpr (.inl ⟨other,held',given',by rw [same]⟩)⟩
    · exact ⟨hash,mem_evidences.mpr (.inr ⟨held,given_⟩),mem_evidences.mpr (.inr ⟨held',given_⟩)⟩
  · rintro ⟨evidence,has,has'⟩
    rcases mem_evidences.mp has with ⟨ip,held,given_,rfl⟩ | ⟨held,given_⟩
    · rcases mem_evidences.mp has' with ⟨other,held',given',same⟩ | ⟨held',-⟩
      · exact .inl ⟨ip,other,held,held',given_,given',by simpa using same⟩
      · exact absurd held' second.not_ip
    · rcases mem_evidences.mp has' with ⟨other,held',given',rfl⟩ | ⟨held',-⟩
      · exact absurd held first.not_ip
      · exact .inr ⟨evidence,given_,held,held'⟩

theorem same_of_address (distinct : (miners.map (·.address)).Nodup) (held : one ∈ miners) (held' : two ∈ miners)
    (same : one.address = two.address) : one = two :=
  List.inj_on_of_nodup_map distinct held held' same

theorem linked_listed {a b : String} (linked : Linked text miners a b) :
    a ∈ miners.map (·.address) ↔ b ∈ miners.map (·.address) := by
  induction linked with
  | rel a b shared =>
    obtain ⟨one,held,two,held',rfl,rfl,-⟩ := shared
    exact iff_of_true (List.mem_map_of_mem held) (List.mem_map_of_mem held')
  | refl a => rfl
  | symm a b _ ih => exact ih.symm
  | trans a b c _ _ first next => exact first.trans next

theorem linked_iff_chained (distinct : (miners.map (·.address)).Nodup) (hashed : ∀ miner ∈ miners, Hashed text miner)
    (held : one ∈ miners) (held' : two ∈ miners) :
    Linked text miners one.address two.address ↔ Chained text miners one two := by
  constructor
  · intro linked
    have chain {a b : String} (linked : Linked text miners a b) : ∀ one ∈ miners, ∀ two ∈ miners, one.address = a →
        two.address = b → Chained text miners one two := by
      induction linked with
      | rel a b shared =>
        obtain ⟨first,inside,second,inside',rfl,rfl,common⟩ := shared
        intro one held two held' own own'
        obtain rfl := same_of_address distinct held inside own
        obtain rfl := same_of_address distinct held' inside' own'
        exact .single ⟨held,held',(alike_iff (hashed _ held) (hashed _ held')).mpr common⟩
      | refl a =>
        intro one held two held' own own'
        obtain rfl := same_of_address distinct held held' (own.trans own'.symm)
        exact .refl
      | symm a b _ ih =>
        intro one held two held' own own'
        exact (ih two held' one held own' own).symm
      | trans a b c first next ih ih' =>
        intro one held two held' own own'
        have listed : b ∈ miners.map (·.address) := (linked_listed first).mp (own ▸ List.mem_map_of_mem held)
        obtain ⟨middle,inside,same⟩ := List.mem_map.mp listed
        exact (ih one held middle inside own same).trans (ih' middle inside two held' same own')
    exact chain linked one held two held' rfl rfl
  · intro chained
    induction chained with
    | refl => exact .refl _
    | tail _ step ih =>
      obtain ⟨inside,inside',alike⟩ := step
      refine (ih inside).trans _ _ _ (.rel _ _ ⟨_,inside,_,inside',rfl,rfl,?_⟩)
      exact (alike_iff (hashed _ inside) (hashed _ inside')).mp alike

def unitSeeds (miners : List Miner) : Set String :=
  {seed | ∃ members : List String, members.Nodup ∧ members ⊆ miners.map (·.address) ∧ seed = "|".intercalate members}

theorem intercalate_injective {first next : List String} (some_ : first ≠ []) (some' : next ≠ [])
    (plain : ∀ address ∈ first, '|' ∉ address.toList) (plain' : ∀ address ∈ next, '|' ∉ address.toList)
    (same : "|".intercalate first = "|".intercalate next) : first = next := by
  have split {members : List String} (some_ : members ≠ []) (plain : ∀ address ∈ members, '|' ∉ address.toList) :
      ("|".intercalate members).toList.splitOn '|' = members.map String.toList := by
    rw [String.toList_intercalate]
    exact List.splitOn_intercalate '|' (by simpa using plain) (by simpa using some_)
  have lists : first.map String.toList = next.map String.toList := by rw [← split some_ plain,same,split some' plain']
  exact List.map_injective_iff.mpr (fun _ _ => String.toList_injective) lists

theorem unit_eq_iff (distinct : (miners.map (·.address)).Nodup) (plain : ∀ miner ∈ miners, '|' ∉ miner.address.toList)
    (apart : Set.InjOn (digest text) (unitSeeds miners)) (held : one ∈ miners) (held' : two ∈ miners) :
    Mining.computeEconomicUnitComponents text miners one.address = Mining.computeEconomicUnitComponents text miners two.address ↔
      Linked text miners one.address two.address := by
  have listed {miner : Miner} (held : miner ∈ miners) : miner.address ∈ miners.map (·.address) := List.mem_map_of_mem held
  refine ⟨fun same => ?_,unit_linked (listed held) (listed held')⟩
  have inside (miner : Miner) : (componentOf text miners miner.address).mergeSort ⊆ miners.map (·.address) := fun other member =>
    (mem_componentOf.mp (List.mem_mergeSort.mp member)).1
  have own {miner : Miner} (held : miner ∈ miners) : miner.address ∈ (componentOf text miners miner.address).mergeSort :=
    List.mem_mergeSort.mpr (mem_componentOf.mpr ⟨listed held,.refl _⟩)
  have seeded {miner : Miner} (held : miner ∈ miners) :
      "|".intercalate (componentOf text miners miner.address).mergeSort ∈ unitSeeds miners :=
    ⟨_,(List.mergeSort_perm _ _).nodup_iff.mpr (distinct.filter _),inside miner,rfl⟩
  unfold Mining.computeEconomicUnitComponents at same
  rw [if_pos (listed held),if_pos (listed held')] at same
  have seeds := apart (seeded held) (seeded held') (by simpa using same)
  have unmarked (miner : Miner) : ∀ address ∈ (componentOf text miners miner.address).mergeSort, '|' ∉ address.toList := by
    intro address member
    obtain ⟨other,held,rfl⟩ := List.mem_map.mp (inside miner member)
    exact plain other held
  have members := intercalate_injective (List.ne_nil_of_mem (own held)) (List.ne_nil_of_mem (own held')) (unmarked one)
    (unmarked two) seeds
  have member := own held
  rw [members] at member
  exact (mem_componentOf.mp (List.mem_mergeSort.mp member)).2

/-- The computation ends with a unit for every miner, one unit for the miners of one chain, and the same units in any order
of the miners. -/
theorem units_are_components (miners : List Miner) (distinct : (miners.map (·.address)).Nodup)
    (plain : ∀ miner ∈ miners, '|' ∉ miner.address.toList) (hashed : ∀ miner ∈ miners, Hashed text miner)
    (apart : Set.InjOn (digest text) (unitSeeds miners)) :
    (∀ miner ∈ miners, ((computeEconomicUnitComponents text miners).get? miner.address).isSome) ∧
      (∀ one ∈ miners, ∀ two ∈ miners, (computeEconomicUnitComponents text miners).get? one.address =
        (computeEconomicUnitComponents text miners).get? two.address ↔ Chained text miners one two) ∧
      ∀ other, other.Perm miners → computeEconomicUnitComponents text other = computeEconomicUnitComponents text miners := by
  refine ⟨fun miner held => ?_,fun one held two held' => ?_,fun other perm => ?_⟩
  · rw [computeEconomicUnitComponents_get? distinct,Mining.computeEconomicUnitComponents,if_pos (List.mem_map_of_mem held)]
    rfl
  · rw [computeEconomicUnitComponents_get? distinct,computeEconomicUnitComponents_get? distinct,
      unit_eq_iff distinct plain apart held held']
    exact linked_iff_chained distinct hashed held held'
  · have listed := perm.map (·.address)
    apply OrdMap.ext_get?
    intro address
    rw [computeEconomicUnitComponents_get? (listed.nodup_iff.mpr distinct),computeEconomicUnitComponents_get? distinct]
    apply unit_congr listed listed.mem_iff
    intro one
    have shares : Shares text other = Shares text miners := by
      funext a b
      unfold Shares
      simp only [perm.mem_iff]
    unfold Linked
    rw [shares]

def addressed : Miner := { address := "a", economicUnitID := "", ipAddress := some "10.0.0.1", createdAt := 0 }

def agented : Miner :=
  { address := "c", economicUnitID := "", userAgentHash := hashUserAgent plainText (some "agent"), createdAt := 0 }

def chain : List Miner := [addressed,{ agented with address := "b", ipAddress := some "10.0.0.1" },agented]

theorem chain_seed_short {seed : String} (seeded : seed ∈ unitSeeds chain) : seed.toList.length ≤ 5 := by
  obtain ⟨members,distinct,inside,rfl⟩ := seeded
  have few : members.length ≤ 3 := (distinct.subperm inside).length_le
  have one (address : String) (member : address ∈ members) : address.toList.length = 1 := by
    have listed := inside member
    simp [chain,addressed,agented] at listed
    rcases listed with rfl | rfl | rfl <;> rfl
  rw [String.toList_intercalate]
  rcases members with _ | ⟨a,_ | ⟨b,_ | ⟨c,_ | ⟨d,rest⟩⟩⟩⟩
  · simp
  · simp [one a (by simp)]
  · simp [one a (by simp),one b (by simp)]
  · simp [one a (by simp),one b (by simp),one c (by simp)]
  · simp only [List.length_cons] at few
    omega

theorem digest_short {seed : String} (short : seed.toList.length ≤ 5) : digest plainText seed = seed := by
  unfold digest
  rw [List.take_of_length_le]
  · exact String.ofList_toList
  · exact short.trans (by decide)

theorem units_are_components_chain :
    (computeEconomicUnitComponents plainText chain).get? "a" = (computeEconomicUnitComponents plainText chain).get? "c" := by
  have apart : Set.InjOn (digest plainText) (unitSeeds chain) := by
    intro seed seeded other seeded' same
    rwa [digest_short (chain_seed_short seeded),digest_short (chain_seed_short seeded')] at same
  have hashed : ∀ miner ∈ chain, Hashed plainText miner := by
    intro miner held hash made
    refine ⟨some "agent",?_⟩
    simp only [chain,List.mem_cons,List.not_mem_nil,or_false] at held
    rcases held with rfl | rfl | rfl
    · cases made
    · exact made
    · exact made
  have units := (units_are_components chain (by decide) (by decide) hashed apart).2.1
  refine (units addressed (by simp [chain]) agented (by simp [chain])).mpr ?_
  have first : Alike plainText addressed { agented with address := "b", ipAddress := some "10.0.0.1" } :=
    .inl ⟨"10.0.0.1","10.0.0.1",rfl,rfl,by decide,by decide,rfl⟩
  have next : Alike plainText { agented with address := "b", ipAddress := some "10.0.0.1" } agented :=
    .inr ⟨"ua:agent",by decide,by decide +kernel,by decide +kernel⟩
  exact .tail (.single ⟨by simp [chain],by simp [chain],first⟩) ⟨by simp [chain],by simp [chain],next⟩

end Clawchain.Mining.Components
