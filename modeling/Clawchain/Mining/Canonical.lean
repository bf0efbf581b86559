import Clawchain.Lib.Json

/-! The canonical form of a document. Where no text inside tells a time outside the calendar, a document has one; it is its
own canonical form, and two documents share it exactly when they are alike. -/
namespace Clawchain.Mining.Canonical
open Clawchain.Lib Clawchain.Lib.Json

mutual

/-- Something holds of a value and of every value inside. -/
def Throughout (P : Json → Prop) : Json → Prop
  | .array items => P (.array items) ∧ ThroughoutItems P items
  | .object fields => P (.object fields) ∧ ThroughoutFields P fields
  | value => P value

def ThroughoutItems (P : Json → Prop) : List Json → Prop
  | [] => True
  | item :: items => Throughout P item ∧ ThroughoutItems P items

def ThroughoutFields (P : Json → Prop) : List (String × Json) → Prop
  | [] => True
  | (_,value) :: fields => Throughout P value ∧ ThroughoutFields P fields

end

def isPlain : Json → Prop
  | .nonFinite _ => False
  | .datetime _ => False
  | .object fields => (fields.map Prod.fst).Nodup
  | _ => True

def Plain : Json → Prop := Throughout isPlain

/-- A text that tells a time tells one of the years that a calendar has. -/
def isInCalendar : Json → Prop
  | .text value => ∀ seconds, timestamp value = some seconds → Calendar.earliest ≤ seconds ∧ seconds < Calendar.latest
  | _ => True

def InCalendar : Json → Prop := Throughout isInCalendar

/-- Two texts are the same or tell the same second. -/
def AlikeText (value other : String) : Prop := value = other ∨ ∃ seconds, timestamp value = some seconds ∧ timestamp other = some seconds

mutual

/-- Values that differ in nothing but the order of names and how a second is told. -/
def Alike : Json → Json → Prop
  | .text value,.text other => AlikeText value other
  | .array items,.array others => AlikeItems items others
  | .object fields,.object others => (fields.map Prod.fst).Perm (others.map Prod.fst) ∧ AlikeFields fields others
  | value,other => value = other

def AlikeItems : List Json → List Json → Prop
  | [],[] => True
  | item :: items,other :: others => Alike item other ∧ AlikeItems items others
  | _,_ => False

def AlikeFields : List (String × Json) → List (String × Json) → Prop
  | [],_ => True
  | (key,value) :: fields,others => (∃ other, (key,other) ∈ others ∧ Alike value other) ∧ AlikeFields fields others

end

variable {keys : List String} {rows items : List Json} {fields : List (String × Json)} {done value other row : Json}
  {P : Json → Prop} {α : Type} {key : String} {digest : Json → String}

theorem throughout_array :
    Throughout P (.array items) ↔ P (.array items) ∧ ∀ item ∈ items, Throughout P item := by
  have each : ThroughoutItems P items ↔ ∀ item ∈ items, Throughout P item := by
    induction items with
    | nil => simp [ThroughoutItems]
    | cons item items ih => rw [ThroughoutItems,ih,List.forall_mem_cons]
  rw [Throughout,each]

theorem throughout_object :
    Throughout P (.object fields) ↔ P (.object fields) ∧ ∀ entry ∈ fields, Throughout P entry.2 := by
  have each : ThroughoutFields P fields ↔ ∀ entry ∈ fields, Throughout P entry.2 := by
    induction fields with
    | nil => simp [ThroughoutFields]
    | cons entry fields ih => rw [ThroughoutFields,ih,List.forall_mem_cons]
  rw [Throughout,each]

theorem alikeItems_iff {others : List Json} : AlikeItems items others ↔ List.Forall₂ Alike items others := by
  induction items generalizing others with
  | nil => cases others <;> simp [AlikeItems]
  | cons item items ih =>
    cases others with
    | nil => simp [AlikeItems]
    | cons other others => rw [AlikeItems,ih,List.forall₂_cons]

theorem alikeFields_iff {others : List (String × Json)} :
    AlikeFields fields others ↔ ∀ entry ∈ fields, ∃ other, (entry.1,other) ∈ others ∧ Alike entry.2 other := by
  induction fields with
  | nil => simp [AlikeFields]
  | cons entry fields ih => rw [AlikeFields,ih,List.forall_mem_cons]

theorem members_induction (array : ∀ items, (∀ item ∈ items, P item) → P (.array items))
    (object : ∀ fields : List (String × Json), (∀ entry ∈ fields, P entry.2) → P (.object fields))
    (single : ∀ value, (∀ items, value ≠ .array items) → (∀ fields, value ≠ .object fields) → P value) (value : Json) :
    P value := by
  induction size : sizeOf value using Nat.strong_induction_on generalizing value with
  | _ n ih =>
    subst size
    cases value with
    | array items =>
      refine array items fun item inside => ih _ ?_ item rfl
      have less := List.sizeOf_lt_of_mem inside
      simp only [Json.array.sizeOf_spec]
      omega
    | object fields =>
      refine object fields fun entry inside => ih _ ?_ entry.2 rfl
      have less := List.sizeOf_lt_of_mem inside
      cases entry
      simp only [Json.object.sizeOf_spec,Prod.mk.sizeOf_spec] at less ⊢
      omega
    | _ => exact single _ (fun _ same => by cases same) fun _ same => by cases same

/-! The fields of a canonical dictionary. -/

def FieldForm (entry done : String × Json) : Prop := entry.1 = done.1 ∧ canonicalize entry.2 = .ok done.2

theorem byName_perm (fields : List (String × α)) : (byName fields).Perm fields := List.perm_insertionSort _ _

theorem byName_names {β : Type} {fields : List (String × α)} {others : List (String × β)}
    (perm : (fields.map Prod.fst).Perm (others.map Prod.fst))
    : (byName fields).map Prod.fst = (byName others).map Prod.fst := by
  have sorted {γ : Type} (l : List (String × γ)) : ((byName l).map Prod.fst).Pairwise fun a b => a ≤ b :=
    List.pairwise_map.mpr (List.pairwise_insertionSort _ l)
  exact List.Perm.eq_of_pairwise (fun _ _ _ _ below above => le_antisymm below above) (sorted fields) (sorted others)
    (((byName_perm fields).map _).trans (perm.trans ((byName_perm others).map _).symm))

theorem canonicalize_object : canonicalize (.object fields) = .ok done ↔
    ∃ values, done = .object values ∧ List.Forall₂ FieldForm (byName fields) values := by
  have forms : byName (canonicalizeFields fields) = (byName fields).map fun entry => (entry.1,canonicalize entry.2) := by
    rw [canonicalizeFields_eq]
    exact (List.map_insertionSort (fun a b : String × Json => a.1 ≤ b.1)
      (fun a b : String × Except String Json => a.1 ≤ b.1) _ fields fun _ _ _ _ => Iff.rfl).symm
  have each (entry value : String × Json) : (canonicalize entry.2).map (fun form => (entry.1,form)) = .ok value ↔ FieldForm entry value := by
    unfold FieldForm
    cases canonicalize entry.2 with
    | error e => simp [Except.map]
    | ok form => simp [Except.map,Prod.ext_iff]
  have collected (values : List (String × Json)) : collect (byName (canonicalizeFields fields)) = .ok values ↔
      List.Forall₂ FieldForm (byName fields) values := by
    rw [forms,collect,List.mapM_map]
    constructor
    · intro made
      exact (Fallible.forall₂_of_mapM made).imp fun entry value here => (each entry value).mp here
    · intro made
      exact Fallible.mapM_forall₂ (made.imp fun entry value here => (each entry value).mpr here)
  rw [canonicalize]
  constructor
  · intro made
    cases sorted : collect (byName (canonicalizeFields fields)) with
    | error e =>
      rw [sorted] at made
      cases made
    | ok values =>
      rw [sorted] at made
      exact ⟨values,(Except.ok.inj made).symm,(collected values).mp sorted⟩
  · rintro ⟨values,rfl,made⟩
    rw [(collected values).mpr made]
    rfl

theorem names_of_forms {values : List (String × Json)} (forms : List.Forall₂ FieldForm fields values) :
    fields.map Prod.fst = values.map Prod.fst := by
  induction forms with
  | nil => rfl
  | cons here _ ih => rw [List.map_cons,List.map_cons,here.1,ih]

/-! Texts. -/

theorem canonicalizeString_iff {value : String} : (∃ done, canonicalizeString value = .ok done) ↔ isInCalendar (.text value) := by
  cases timed : timestamp value with
  | none => simp [isInCalendar,timed,canonicalizeString_untimed timed]
  | some seconds =>
    rw [canonicalizeString_timed timed]
    by_cases within : Calendar.earliest ≤ seconds ∧ seconds < Calendar.latest
    · simp [isInCalendar,timed,within]
    · simp [isInCalendar,timed,within]

theorem canonicalizeString_fixed {value done : String} (made : canonicalizeString value = .ok done) :
    canonicalizeString done = .ok done := by
  cases timed : timestamp value with
  | none =>
    rw [canonicalizeString_untimed timed] at made
    rw [← Except.ok.inj made,canonicalizeString_untimed timed]
  | some seconds =>
    rw [canonicalizeString_timed timed] at made
    split_ifs at made
    rw [← Except.ok.inj made]
    exact canonicalizeString_isoformatZ _

theorem canonicalizeString_alike {value other done : String} (made : canonicalizeString value = .ok done) :
    canonicalizeString other = .ok done ↔ AlikeText value other := by
  cases timed : timestamp value with
  | none =>
    obtain rfl : value = done := Except.ok.inj ((canonicalizeString_untimed timed).symm.trans made)
    cases timed' : timestamp other with
    | none => simp [canonicalizeString_untimed timed',AlikeText,timed,eq_comm]
    | some seconds =>
      have apart : value ≠ other := by
        rintro rfl
        rw [timed] at timed'
        cases timed'
      simp only [AlikeText,apart,timed,reduceCtorEq,false_and,exists_false,or_self,iff_false,canonicalizeString_timed timed']
      split_ifs with within
      · intro same
        rw [← Except.ok.inj same,timestamp_isoformatZ] at timed
        cases timed
      · exact fun failed => by cases failed
  | some seconds =>
    rw [canonicalizeString_timed timed] at made
    split_ifs at made with within
    obtain rfl := Except.ok.inj made
    constructor
    · intro same
      cases timed' : timestamp other with
      | none =>
        rw [canonicalizeString_untimed timed'] at same
        rw [Except.ok.inj same,timestamp_isoformatZ] at timed'
        cases timed'
      | some seconds' =>
        rw [canonicalizeString_timed timed'] at same
        split_ifs at same with within'
        have equal := Calendar.Moment.isoformatZ_injective (Except.ok.inj same)
        exact .inr ⟨seconds,timed,timed'.trans (congrArg some equal)⟩
    · rintro (rfl | ⟨_,told,told'⟩)
      · rw [canonicalizeString_timed timed,dif_pos within]
      · obtain rfl := Option.some.inj (timed.symm.trans told)
        rw [canonicalizeString_timed told',dif_pos within]

/-! Documents. -/

theorem canonicalize_text {value : String} :
    canonicalize (.text value) = .ok done ↔ ∃ form, canonicalizeString value = .ok form ∧ done = .text form := by
  rw [canonicalize]
  cases canonicalizeString value with
  | error e => simp [Except.map]
  | ok form => simp [Except.map,eq_comm]

theorem canonicalize_total (plain : Plain value) : (∃ done, canonicalize value = .ok done) ↔ InCalendar value := by
  induction value using members_induction with
  | array items ih =>
    have each : ∀ item ∈ items, (∃ done, canonicalize item = .ok done) ↔ InCalendar item :=
      fun item inside => ih item inside ((throughout_array.mp plain).2 item inside)
    have whole : (∃ done, canonicalize (.array items) = .ok done) ↔ ∃ values, items.mapM canonicalize = .ok values := by
      simp only [canonicalize_array]
      exact ⟨fun ⟨_,values,made,_⟩ => ⟨values,made⟩,fun ⟨values,made⟩ => ⟨_,values,made,rfl⟩⟩
    rw [whole,Fallible.mapM_ok,InCalendar,throughout_array]
    exact ⟨fun made => ⟨trivial,fun item inside => (each item inside).mp (made item inside)⟩,
      fun inside item member => (each item member).mpr (inside.2 item member)⟩
  | object fields ih =>
    have each : ∀ entry ∈ fields, (∃ done, canonicalize entry.2 = .ok done) ↔ InCalendar entry.2 :=
      fun entry inside => ih entry inside ((throughout_object.mp plain).2 entry inside)
    rw [canonicalize_object_ok,InCalendar,throughout_object]
    exact ⟨fun made => ⟨trivial,fun entry inside => (each entry inside).mp (made entry inside)⟩,
      fun inside entry member => (each entry member).mpr (inside.2 entry member)⟩
  | single value notArray notObject =>
    cases value with
    | text value =>
      have text : (∃ done, canonicalize (.text value) = .ok done) ↔ ∃ form, canonicalizeString value = .ok form := by
        simp only [canonicalize_text]
        exact ⟨fun ⟨_,form,made,_⟩ => ⟨form,made⟩,fun ⟨form,made⟩ => ⟨_,form,made,rfl⟩⟩
      rw [text]
      exact canonicalizeString_iff
    | array items => exact absurd rfl (notArray items)
    | object fields => exact absurd rfl (notObject fields)
    | nonFinite printed => exact plain.elim
    | datetime moment => exact plain.elim
    | _ => exact iff_of_true ⟨_,rfl⟩ trivial

theorem canonicalize_fixed (made : canonicalize value = .ok done) : canonicalize done = .ok done := by
  induction value using members_induction generalizing done with
  | array items ih =>
    obtain ⟨values,each,rfl⟩ := canonicalize_array.mp made
    refine canonicalize_array.mpr ⟨values,Fallible.mapM_forall₂ (List.forall₂_same.mpr fun form inside => ?_),rfl⟩
    obtain ⟨item,member,here⟩ := (Fallible.mem_of_mapM each).2 form inside
    exact ih item member here
  | object fields ih =>
    obtain ⟨values,rfl,forms⟩ := canonicalize_object.mp made
    have names := names_of_forms forms
    have sorted : byName values = values := by
      apply List.Pairwise.insertionSort_eq
      have ordered : ((byName fields).map Prod.fst).Pairwise fun a b => a ≤ b :=
        List.pairwise_map.mpr (List.pairwise_insertionSort _ fields)
      rw [names] at ordered
      exact List.pairwise_map.mp ordered
    refine canonicalize_object.mpr ⟨values,rfl,?_⟩
    rw [sorted]
    refine List.forall₂_same.mpr fun value inside => ⟨rfl,?_⟩
    obtain ⟨i,bound,rfl⟩ := List.mem_iff_getElem.mp inside
    obtain ⟨length,each⟩ := List.forall₂_iff_get.mp forms
    have bound' : i < (byName fields).length := by rw [length]; exact bound
    exact ih _ ((byName_perm fields).mem_iff.mp (List.getElem_mem bound')) (each i bound' bound).2
  | single value notArray notObject =>
    cases value with
    | text value =>
      obtain ⟨form,here,rfl⟩ := canonicalize_text.mp made
      exact canonicalize_text.mpr ⟨form,canonicalizeString_fixed here,rfl⟩
    | array items => exact absurd rfl (notArray items)
    | object fields => exact absurd rfl (notObject fields)
    | nonFinite printed => cases made
    | datetime moment =>
      rw [← Except.ok.inj made]
      exact canonicalize_text.mpr ⟨_,canonicalizeString_isoformatZ moment,rfl⟩
    | _ =>
      rw [← Except.ok.inj made]
      rfl

theorem field_unique (distinct : (fields.map Prod.fst).Nodup) (inside : (key,value) ∈ fields)
    (insideToo : (key,other) ∈ fields) : value = other := by
  rw [← field_eq distinct inside,field_eq distinct insideToo]

theorem forms_alike {others values : List (String × Json)} (distinct : (others.map Prod.fst).Nodup)
    (forms : List.Forall₂ FieldForm (byName fields) values)
    (ih : ∀ entry ∈ fields, ∀ done, canonicalize entry.2 = .ok done → ∀ other, (entry.1,other) ∈ others →
      (canonicalize other = .ok done ↔ Alike entry.2 other)) :
    List.Forall₂ FieldForm (byName others) values ↔
      (fields.map Prod.fst).Perm (others.map Prod.fst) ∧ AlikeFields fields others := by
  obtain ⟨length,each⟩ := List.forall₂_iff_get.mp forms
  have listed (entry : String × Json) : entry ∈ byName fields ↔ entry ∈ fields := (byName_perm fields).mem_iff
  have listed' (entry : String × Json) : entry ∈ byName others ↔ entry ∈ others := (byName_perm others).mem_iff
  constructor
  · intro forms'
    have names : (byName fields).map Prod.fst = (byName others).map Prod.fst :=
      (names_of_forms forms).trans (names_of_forms forms').symm
    refine ⟨((byName_perm fields).map _).symm.trans ((List.Perm.of_eq names).trans ((byName_perm others).map _)),?_⟩
    obtain ⟨length',each'⟩ := List.forall₂_iff_get.mp forms'
    refine alikeFields_iff.mpr fun entry inside => ?_
    obtain ⟨i,bound,rfl⟩ := List.mem_iff_getElem.mp ((listed entry).mpr inside)
    have bound' : i < values.length := by omega
    have bound'' : i < (byName others).length := by omega
    have here := each i bound bound'
    have there := each' i bound'' bound'
    have member : ((byName fields)[i].1,(byName others)[i].2) ∈ others := by
      rw [show (byName fields)[i].1 = (byName others)[i].1 from here.1.trans there.1.symm]
      exact (listed' _).mp (List.getElem_mem bound'')
    exact ⟨_,member,(ih _ inside _ here.2 _ member).mp there.2⟩
  · rintro ⟨perm,alike⟩
    have names := byName_names perm
    have count := congrArg List.length names
    simp only [List.length_map] at count
    refine List.forall₂_iff_get.mpr ⟨by omega,fun i bound' bound => ?_⟩
    have bound'' : i < (byName fields).length := by omega
    have here := each i bound'' bound
    have inside := (listed _).mp (List.getElem_mem bound'')
    have name : (byName fields)[i].1 = (byName others)[i].1 := by
      have same := List.getElem_of_eq names (by simpa using bound'')
      simpa using same
    obtain ⟨other,member,likewise⟩ := alikeFields_iff.mp alike _ inside
    have own : ((byName fields)[i].1,(byName others)[i].2) ∈ others := by
      rw [name]
      exact (listed' _).mp (List.getElem_mem bound')
    have same := field_unique distinct own member
    exact ⟨name.symm.trans here.1,by
      change canonicalize (byName others)[i].2 = .ok _
      rw [same]
      exact (ih _ inside _ here.2 _ member).mpr likewise⟩

theorem canonicalize_alike (plain : Plain value) (made : canonicalize value = .ok done) (plainToo : Plain other)
    : canonicalize other = .ok done ↔ Alike value other := by
  induction value using members_induction generalizing done other with
  | array items ih =>
    obtain ⟨values,each,rfl⟩ := canonicalize_array.mp made
    cases other with
    | array others =>
      have forms := Fallible.forall₂_of_mapM each
      have inner (item : Json) (inside : item ∈ items) (form other : Json) (here : canonicalize item = .ok form) (there : other ∈ others) :=
        ih item inside ((throughout_array.mp plain).2 item inside) here ((throughout_array.mp plainToo).2 other there)
      rw [canonicalize_array,Alike,alikeItems_iff]
      constructor
      · rintro ⟨values',each',same⟩
        obtain rfl := Json.array.inj same
        obtain ⟨length,at_⟩ := List.forall₂_iff_get.mp forms
        obtain ⟨length',at_'⟩ := List.forall₂_iff_get.mp (Fallible.forall₂_of_mapM each')
        refine List.forall₂_iff_get.mpr ⟨by omega,fun i bound bound' => ?_⟩
        exact (inner _ (List.get_mem ..) _ _ (at_ i bound (by omega)) (List.get_mem ..)).mp (at_' i bound' (by omega))
      · intro alike
        obtain ⟨length,at_⟩ := List.forall₂_iff_get.mp forms
        obtain ⟨length',at_'⟩ := List.forall₂_iff_get.mp alike
        refine ⟨values,Fallible.mapM_forall₂ (List.forall₂_iff_get.mpr ⟨by omega,fun i bound bound' => ?_⟩),rfl⟩
        exact (inner _ (List.get_mem ..) _ _ (at_ i (by omega) bound') (List.get_mem ..)).mpr (at_' i (by omega) bound)
    | text other =>
      rw [canonicalize_text]
      simp [Alike]
    | object others =>
      rw [canonicalize_object]
      simp [Alike]
    | nonFinite printed => exact plainToo.elim
    | datetime moment => exact plainToo.elim
    | _ => simp [canonicalize,Alike]
  | object fields ih =>
    obtain ⟨values,rfl,forms⟩ := canonicalize_object.mp made
    cases other with
    | object others =>
      obtain ⟨distinct,inside⟩ := throughout_object.mp plainToo
      have same : canonicalize (.object others) = .ok (.object values) ↔ List.Forall₂ FieldForm (byName others) values := by
        rw [canonicalize_object]
        constructor
        · rintro ⟨_,same,made⟩
          exact Json.object.inj same ▸ made
        · exact fun made => ⟨values,rfl,made⟩
      rw [same,Alike]
      exact forms_alike distinct forms fun entry member done here other there =>
        ih entry member ((throughout_object.mp plain).2 entry member) here (inside _ there)
    | text other =>
      rw [canonicalize_text]
      simp [Alike]
    | array others =>
      rw [canonicalize_array]
      simp [Alike]
    | nonFinite printed => exact plainToo.elim
    | datetime moment => exact plainToo.elim
    | _ => simp [canonicalize,Alike]
  | single value notArray notObject =>
    cases value with
    | array items => exact absurd rfl (notArray items)
    | object fields => exact absurd rfl (notObject fields)
    | nonFinite printed => exact plain.elim
    | datetime moment => exact plain.elim
    | text value =>
      obtain ⟨form,here,rfl⟩ := canonicalize_text.mp made
      cases other with
      | text other =>
        rw [canonicalize_text,Alike,← canonicalizeString_alike here]
        simp
      | array others =>
        rw [canonicalize_array]
        simp [Alike]
      | object others =>
        rw [canonicalize_object]
        simp [Alike]
      | nonFinite printed => exact plainToo.elim
      | datetime moment => exact plainToo.elim
      | _ => simp [canonicalize,Alike]
    | _ =>
      obtain rfl := Except.ok.inj made
      cases other with
      | text other =>
        rw [canonicalize_text]
        simp [Alike]
      | array others =>
        rw [canonicalize_array]
        simp [Alike]
      | object others =>
        rw [canonicalize_object]
        simp [Alike]
      | nonFinite printed => exact plainToo.elim
      | datetime moment => exact plainToo.elim
      | _ => simp [canonicalize,Alike,eq_comm]

/-! Roots of rows. -/

structure Keyed (keys : List String) (rows : List Json) : Prop where
  plain : ∀ row ∈ rows, Plain row
  named : ∀ row ∈ rows, ∃ fields, row = .object fields
  texts : ∀ row ∈ rows, ∀ key ∈ keys, ∃ value, row.field key = .text value
  distinct : (rows.map fun row => keys.map row.field).Nodup

/-- Sort keys that differ at most in how they tell a second. -/
def AlikeKeys (keys : List String) (row other : Json) : Prop := ∀ key ∈ keys, Alike (row.field key) (other.field key)

/-- Whatever the digest, there is a root and it is the same in every order of the rows. -/
def RootStable (keys : List String) (rows : List Json) : Prop :=
  ∀ digest : Json → String, (∃ root, rowsRoot digest rows keys = .ok root) ∧
    ∀ others, rows.Perm others → rowsRoot digest others keys = rowsRoot digest rows keys

/-- There is a canonical form; it is its own, and it is shared with those documents that are alike and no others. -/
def NormalForm (value : Json) : Prop :=
  ∃ done, canonicalize value = .ok done ∧ canonicalize done = .ok done ∧
    ∀ other, Plain other → (canonicalize other = .ok done ↔ Alike value other)

theorem normalForm_iff (plain : Plain value) : NormalForm value ↔ InCalendar value := by
  rw [← canonicalize_total plain]
  constructor
  · rintro ⟨done,made,_⟩
    exact ⟨done,made⟩
  · rintro ⟨done,made⟩
    exact ⟨done,made,canonicalize_fixed made,fun other plainToo => canonicalize_alike plain made plainToo⟩

theorem alike_refl (plain : Plain value) (within : InCalendar value) : Alike value value := by
  obtain ⟨done,made⟩ := (canonicalize_total plain).mpr within
  exact (canonicalize_alike plain made plain).mp made

theorem mem_of_field {value : String} (told : (Json.object fields).field key = .text value) :
    (key,Json.text value) ∈ fields := by
  simp only [field] at told
  cases found : fields.find? fun entry => entry.1 = key with
  | none => simp [found] at told
  | some entry =>
    rw [found] at told
    have name := List.find?_some found
    simp only [decide_eq_true_iff] at name
    have whole : entry = (key,Json.text value) := Prod.ext name told
    exact whole ▸ List.mem_of_find?_eq_some found

theorem field_form (keyed : Keyed keys rows) (inside : row ∈ rows) (made : canonicalize row = .ok done)
    (sorts : key ∈ keys) :
    ∃ value form, row.field key = .text value ∧ canonicalizeString value = .ok form ∧ done.field key = .text form := by
  obtain ⟨fields,rfl⟩ := keyed.named row inside
  obtain ⟨value,told⟩ := keyed.texts _ inside key sorts
  have distinct : (fields.map Prod.fst).Nodup := (throughout_object.mp (keyed.plain _ inside)).1
  obtain ⟨form,here,same⟩ := canonicalize_text.mp (field_canonicalize distinct made (mem_of_field told))
  exact ⟨value,form,told,here,same⟩

theorem rank_text {a b : String} : rank (.text a) = rank (.text b) ↔ a = b := by
  simp [rank]

theorem sortKey_alike (keyed : Keyed keys rows) {done' : Json} (inside : row ∈ rows) (insideToo : other ∈ rows)
    (made : canonicalize row = .ok done) (madeToo : canonicalize other = .ok done') :
    sortKey keys done = sortKey keys done' ↔ AlikeKeys keys row other := by
  rw [sortKey,sortKey,List.map_inj_left,AlikeKeys]
  refine forall₂_congr fun key sorts => ?_
  obtain ⟨value,form,told,here,same⟩ := field_form keyed inside made sorts
  obtain ⟨value',form',told',here',same'⟩ := field_form keyed insideToo madeToo sorts
  rw [same,same',rank_text,told,told',Alike,← canonicalizeString_alike here,here']
  exact ⟨fun equal => congrArg _ equal.symm,fun equal => (Except.ok.inj equal).symm⟩

theorem comparable_texts {a b : Json} (first : ∀ key ∈ keys, ∃ form, a.field key = .text form)
    (second : ∀ key ∈ keys, ∃ form, b.field key = .text form) : comparable (sortKey keys a) (sortKey keys b) = true := by
  induction keys with
  | nil => rfl
  | cons key keys ih =>
    obtain ⟨form,here⟩ := first key List.mem_cons_self
    obtain ⟨form',here'⟩ := second key List.mem_cons_self
    have rest := ih (fun k inside => first k (List.mem_cons_of_mem _ inside)) fun k inside => second k (List.mem_cons_of_mem _ inside)
    simp only [sortKey,List.map_cons,comparable,here,here'] at rest ⊢
    split_ifs with same
    · simpa [rank] using rest
    · simp [rank]

def inOrder (keys : List String) (rows : List Json) : List Json := Sorting.sortBy (fun a b => sortKey keys a < sortKey keys b) rows

theorem sortRows_texts (texts : ∀ row ∈ rows, ∀ key ∈ keys, ∃ form, row.field key = .text form)
    : sortRows keys rows = .ok (inOrder keys rows) := by
  unfold sortRows inOrder
  split_ifs with none sorts
  · subst none
    rw [Sorting.sortBy_eq_insertionSort (sortKey []) fun _ _ _ _ => decide_eq_true_iff]
    exact congrArg Except.ok (List.Pairwise.insertionSort_eq (List.pairwise_of_forall fun _ _ => le_refl _)).symm
  · rfl
  · exact absurd (List.pairwise_of_forall_mem_list fun a first b second => comparable_texts (texts a first) (texts b second)) sorts

theorem inOrder_filter {key : List Rank} [DecidablePred fun row => sortKey keys row = key] :
    (inOrder keys rows).filter (fun row => sortKey keys row = key) = rows.filter fun row => sortKey keys row = key := by
  refine Sorting.sortBy_filter (sortKey keys) (fun _ _ _ _ => decide_eq_true_iff) fun a first b second => ?_
  exact (of_decide_eq_true first).trans (of_decide_eq_true second).symm

theorem hashSequence_fixed (fixed : ∀ item ∈ items, canonicalize item = .ok item) :
    hashSequence digest items = .ok (digest (.object [("items",.array items)])) := by
  have inner : canonicalize (.array items) = .ok (.array items) :=
    canonicalize_array.mpr ⟨items,Fallible.mapM_forall₂ (List.forall₂_same.mpr fixed),rfl⟩
  have outer : canonicalize (.object [("items",.array items)]) = .ok (.object [("items",.array items)]) :=
    canonicalize_object.mpr ⟨_,rfl,.cons ⟨rfl,inner⟩ .nil⟩
  rw [hashSequence,canonicalHash,outer]
  rfl

theorem rowsRoot_forms {forms : List Json} (keyed : Keyed keys rows) (made : rows.mapM canonicalize = .ok forms) :
    rowsRoot digest rows keys = .ok (digest (.object [("items",.array (inOrder keys forms))])) := by
  have texts : ∀ form ∈ forms, ∀ key ∈ keys, ∃ value, form.field key = .text value := by
    intro form inside key sorts
    obtain ⟨row,member,here⟩ := (Fallible.mem_of_mapM made).2 form inside
    obtain ⟨_,value,_,_,same⟩ := field_form keyed member here sorts
    exact ⟨value,same⟩
  have fixed : ∀ item ∈ inOrder keys forms, canonicalize item = .ok item := by
    intro item inside
    obtain ⟨row,_,here⟩ := (Fallible.mem_of_mapM made).2 item (Sorting.mem_sortBy.mp inside)
    exact canonicalize_fixed here
  have sorted := sortRows_texts texts
  simp only [rowsRoot,made,bind,Except.bind,sorted]
  exact hashSequence_fixed fixed

theorem Keyed.perm {others : List Json} (keyed : Keyed keys rows) (perm : rows.Perm others) :
    Keyed keys others where
  plain row inside := keyed.plain row (perm.mem_iff.mpr inside)
  named row inside := keyed.named row (perm.mem_iff.mpr inside)
  texts row inside := keyed.texts row (perm.mem_iff.mpr inside)
  distinct := (perm.map _).nodup_iff.mp keyed.distinct

theorem rowsRoot_ok (keyed : Keyed keys rows) :
    (∃ root, rowsRoot digest rows keys = .ok root) ↔ ∀ row ∈ rows, InCalendar row := by
  have whole : (∀ row ∈ rows, InCalendar row) ↔ ∃ forms, rows.mapM canonicalize = .ok forms := by
    rw [Fallible.mapM_ok]
    exact forall₂_congr fun row inside => (canonicalize_total (keyed.plain row inside)).symm
  rw [whole]
  constructor
  · rintro ⟨root,done⟩
    obtain ⟨forms,made,_⟩ := Fallible.bind_ok done
    exact ⟨forms,made⟩
  · rintro ⟨forms,made⟩
    exact ⟨_,rowsRoot_forms keyed made⟩

theorem rowsRoot_stable (keyed : Keyed keys rows) (within : ∀ row ∈ rows, InCalendar row)
    (apart : ∀ row ∈ rows, ∀ other ∈ rows, AlikeKeys keys row other → Alike row other) : RootStable keys rows := by
  intro digest
  refine ⟨(rowsRoot_ok keyed).mpr within,fun others perm => ?_⟩
  obtain ⟨forms,made⟩ := Fallible.mapM_ok.mpr fun row inside => (canonicalize_total (keyed.plain row inside)).mpr (within row inside)
  obtain ⟨forms',made',perm'⟩ := Fallible.mapM_perm perm made
  have sorted : inOrder keys forms = inOrder keys forms' := by
    refine Sorting.sortBy_eq_of_perm (sortKey keys) (fun _ _ _ _ => decide_eq_true_iff) ?_ perm'
    intro form first form' second tied
    obtain ⟨row,inside,here⟩ := (Fallible.mem_of_mapM made).2 form first
    obtain ⟨other,insideToo,there⟩ := (Fallible.mem_of_mapM made).2 form' second
    have alike := apart row inside other insideToo ((sortKey_alike keyed inside insideToo here there).mp tied)
    have shared := (canonicalize_alike (keyed.plain row inside) here (keyed.plain other insideToo)).mpr alike
    exact Except.ok.inj (shared.symm.trans there)
  rw [rowsRoot_forms keyed made,rowsRoot_forms (keyed.perm perm) made',sorted]

theorem perm_pair {l : List α} {a b : α} (first : a ∈ l) (second : b ∈ l) (differ : b ≠ a) :
    ∃ rest, l.Perm (a :: b :: rest) := by
  obtain ⟨before,later,rfl⟩ := List.append_of_mem first
  have inside : b ∈ before ++ later := by
    rcases List.mem_append.mp second with here | here
    · exact List.mem_append_left _ here
    · exact List.mem_append_right _ ((List.mem_cons.mp here).resolve_left differ)
  obtain ⟨before',later',same⟩ := List.append_of_mem inside
  refine ⟨before' ++ later',List.perm_middle.trans (.cons _ ?_)⟩
  rw [same]
  exact List.perm_middle

/-- Rows that are sorted to one place keep the order in which they are given, so a root that does not tell it has them alike. -/
theorem alike_of_stable (keyed : Keyed keys rows) (stable : RootStable keys rows) (inside : row ∈ rows)
    (insideToo : other ∈ rows) (tied : AlikeKeys keys row other) : Alike row other := by
  classical
  have within := (rowsRoot_ok keyed).mp (stable fun _ => "").1
  have plain := keyed.plain row inside
  by_cases same : other = row
  · rw [same]
    exact alike_refl plain (within row inside)
  · obtain ⟨rest,perm⟩ := perm_pair inside insideToo same
    have swapped : rows.Perm (other :: row :: rest) := perm.trans (.swap ..)
    obtain ⟨form,made⟩ := (canonicalize_total plain).mpr (within row inside)
    obtain ⟨form',made'⟩ := (canonicalize_total (keyed.plain other insideToo)).mpr (within other insideToo)
    have further : ∀ item ∈ rest, ∃ done, canonicalize item = .ok done := fun item member => by
      have listed := perm.mem_iff.mpr (List.mem_cons_of_mem _ (List.mem_cons_of_mem _ member))
      exact (canonicalize_total (keyed.plain item listed)).mpr (within item listed)
    obtain ⟨forms,others⟩ := Fallible.mapM_ok.mpr further
    have one : (row :: other :: rest).mapM canonicalize = .ok (form :: form' :: forms) :=
      Fallible.mapM_forall₂ (.cons made (.cons made' (Fallible.forall₂_of_mapM others)))
    have two : (other :: row :: rest).mapM canonicalize = .ok (form' :: form :: forms) :=
      Fallible.mapM_forall₂ (.cons made' (.cons made (Fallible.forall₂_of_mapM others)))
    have ordered : inOrder keys (form :: form' :: forms) = inOrder keys (form' :: form :: forms) := by
      have told := stable fun document =>
        if document = .object [("items",.array (inOrder keys (form :: form' :: forms)))] then "first" else ""
      have both := (told.2 _ swapped).trans (told.2 _ perm).symm
      rw [rowsRoot_forms (keyed.perm swapped) two,rowsRoot_forms (keyed.perm perm) one] at both
      simp only [if_true,Except.ok.injEq,ite_eq_left_iff] at both
      by_contra differ
      exact absurd (both fun equal => differ (by simpa using equal.symm)) (by decide)
    have key : sortKey keys form = sortKey keys form' := (sortKey_alike keyed inside insideToo made made').mpr tied
    have filtered := congrArg (List.filter fun item => sortKey keys item = sortKey keys form) ordered
    rw [inOrder_filter,inOrder_filter] at filtered
    simp only [List.filter_cons,key,decide_true,if_true,List.cons.injEq] at filtered
    rw [filtered.1] at made
    exact (canonicalize_alike plain made (keyed.plain other insideToo)).mp made'

theorem rootStable_iff (keyed : Keyed keys rows) : RootStable keys rows ↔
    (∀ row ∈ rows, InCalendar row) ∧ ∀ row ∈ rows, ∀ other ∈ rows, AlikeKeys keys row other → Alike row other :=
  ⟨fun stable => ⟨(rowsRoot_ok keyed).mp (stable fun _ => "").1,
    fun _ inside _ insideToo tied => alike_of_stable keyed stable inside insideToo tied⟩,fun holds => rowsRoot_stable keyed holds.1 holds.2⟩

def noted (id : String) (count : Int) : Json := .object [("id",.text id),("count",.int count)]

theorem noted_plain (id : String) (count : Int) : Plain (noted id count) := by
  simp [noted,Plain,Throughout,ThroughoutFields,isPlain]

theorem noted_keyed {id other : String} {count count' : Int} (differ : id ≠ other) :
    Keyed ["id"] [noted id count,noted other count'] where
  plain row inside := by
    rcases List.mem_pair.mp inside with rfl | rfl <;> exact noted_plain _ _
  named row inside := by
    rcases List.mem_pair.mp inside with rfl | rfl <;> exact ⟨_,rfl⟩
  texts row inside key sorts := by
    rw [List.mem_singleton.mp sorts]
    rcases List.mem_pair.mp inside with rfl | rfl <;> exact ⟨_,rfl⟩
  distinct := by simp [noted,field,differ]

end Clawchain.Mining.Canonical
