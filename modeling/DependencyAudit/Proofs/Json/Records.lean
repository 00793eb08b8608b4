import DependencyAudit.Json.Record
import DependencyAudit.Proofs.Json.Decoders
import Mathlib.Data.List.Nodup

/-!
What records accept: every field is given once, by its name or by its place, or else it has a
default; and no name is anything but characters.
-/
namespace DependencyAudit.Json

/-- The values of the members of a name. -/
def valuesOf (name : String) (members : List Member) : List Json :=
  (members.filter (·.1 == some name)).map Prod.snd

/-- What is given for a field: the values of its name in an object, or the item at its place. -/
def given (place : Nat) (name : String) : Json → List Json
  | .object members => valuesOf name members
  | .array items => items[place]?.toList
  | _ => []

/-- An object, or an array of no more items than there are fields. -/
inductive RecordLike (size : Nat) : Json → Prop
  | object {members : List Member} : (∀ m ∈ members, m.1.isSome = true) →
    RecordLike size (.object members)
  | array {items : List Json} : items.length ≤ size → RecordLike size (.array items)

/-- A field read from what is given for it. -/
inductive Reads {α : Type} (d : Decoder α) (default? : Option α) : List Json → α → Prop
  | absent {a : α} : default? = some a → Reads d default? [] a
  | present {v : Json} {a : α} : d.read v = .ok a → Reads d default? [v] a

theorem Reads.length_le {α : Type} {d : Decoder α} {default? : Option α} {vs : List Json} {a : α}
    (h : Reads d default? vs a) : vs.length ≤ 1 := by
  cases h <;> simp

/-- What becomes of a slot when values are given for it. -/
inductive Fills {α : Type} (d : Decoder α) : Option α → List Json → Option α → Prop
  | keep (before : Option α) : Fills d before [] before
  | read {v : Json} {a : α} : d.read v = .ok a → Fills d none [v] (some a)

theorem fills_cons {α : Type} {d : Decoder α} {before after : Option α} {v : Json}
    {vs : List Json} : Fills d before (v :: vs) after ↔
      before = none ∧ ∃ a, d.read v = .ok a ∧ Fills d (some a) vs after := by
  constructor
  · intro h
    cases h with
    | read hv => exact ⟨rfl, _, hv, .keep _⟩
  · rintro ⟨rfl, a, ha, hf⟩
    cases hf
    exact .read ha

theorem fills_nil {α : Type} {d : Decoder α} {before after : Option α} :
    Fills d before [] after ↔ after = before := by
  constructor
  · rintro ⟨⟩
    rfl
  · rintro rfl
    exact .keep _

theorem exists_fills_iff {α : Type} {d : Decoder α} {default? : Option α} {vs : List Json} {a : α} :
    (∃ after, Fills d none vs after ∧ after.or default? = some a) ↔ Reads d default? vs a := by
  constructor
  · rintro ⟨after, hf, ha⟩
    cases hf with
    | keep => exact .absent (by simpa using ha)
    | read hv =>
      obtain rfl : _ = a := by simpa using ha
      exact .present hv
  · intro h
    cases h with
    | absent hd => exact ⟨none, .keep none, by simpa using hd⟩
    | present hv => exact ⟨some a, .read hv, rfl⟩

theorem reads_required {α : Type} {d : Decoder α} {vs : List Json} {a : α} :
    Reads d none vs a ↔ ∃ v, vs = [v] ∧ d.read v = .ok a := by
  constructor
  · intro h
    cases h with
    | absent hd => cases hd
    | present hv => exact ⟨_, rfl, hv⟩
  · rintro ⟨v, rfl, hv⟩
    exact .present hv

/-- A value that is left out if it is the default. -/
inductive DefaultForm {α : Type} (form : α → Json) (default a : α) : List Json → Prop
  | absent : a = default → DefaultForm form default a []
  | present : DefaultForm form default a [form a]

/-- A text that may be left out, or be `null`, if there is none. -/
inductive OptionalForm : Option String → List Json → Prop
  | absent : OptionalForm none []
  | null : OptionalForm none [.null]
  | present (s : String) : OptionalForm (some s) [.text s]

/-- An array of items that may be left out if there are none. -/
inductive ListForm {α : Type} (form : α → Json → Prop) : List α → List Json → Prop
  | absent : ListForm form [] []
  | present {as : List α} {vs : List Json} : List.Forall₂ form as vs → ListForm form as [.array vs]

theorem reads_optional {vs : List Json} {s : Option String} :
    Reads Decoder.optionalString (some none) vs s ↔ OptionalForm s vs := by
  constructor
  · intro h
    cases h with
    | absent hd =>
      cases hd
      exact .absent
    | present hv =>
      obtain ⟨rfl, rfl⟩ | ⟨t, rfl, rfl⟩ := Decoder.read_optionalString.1 hv
      · exact .null
      · exact .present t
  · intro h
    cases h with
    | absent => exact .absent rfl
    | null => exact .present rfl
    | present s => exact .present rfl

theorem ListForm.reads {α : Type} {d : Decoder α} {form : α → Json → Prop} {vs : List Json}
    {as : List α} (hd : ∀ a w, form a w → d.read w = .ok a) (h : ListForm form as vs) :
    Reads (Decoder.list d) (some []) vs as := by
  cases h with
  | absent => exact .absent rfl
  | present hws => exact .present (Decoder.read_list.2 ⟨_, rfl, (hws.imp hd).flip⟩)

theorem listForm_map {α : Type} {form : α → Json → Prop} {f : α → Json} (h : ∀ a, form a (f a))
    (as : List α) : ListForm form as [.array (as.map f)] :=
  .present (List.forall₂_map_right_iff.2 (List.forall₂_same.2 fun a _ => h a))

theorem reads_list {α : Type} {d : Decoder α} {form : α → Json → Prop} {vs : List Json}
    {as : List α} (hd : ∀ v a, d.read v = .ok a ↔ form a v) :
    Reads (Decoder.list d) (some []) vs as ↔ ListForm form as vs := by
  constructor
  · intro h
    cases h with
    | absent hd =>
      cases hd
      exact .absent
    | present hv =>
      obtain ⟨ws, rfl, hws⟩ := Decoder.read_list.1 hv
      exact .present (hws.flip.imp fun a w h => (hd w a).1 h)
  · exact ListForm.reads fun a w h => (hd w a).2 h

theorem reads_default {α : Type} {d : Decoder α} {form : α → Json} {default a : α}
    {vs : List Json} (hd : ∀ v b, d.read v = .ok b ↔ v = form b) :
    Reads d (some default) vs a ↔ DefaultForm form default a vs := by
  constructor
  · intro h
    cases h with
    | absent h => exact .absent (Option.some.inj h).symm
    | present hv =>
      obtain rfl := (hd _ _).1 hv
      exact .present
  · intro h
    cases h with
    | absent h => exact .absent (congrArg some h.symm)
    | present => exact .present ((hd _ _).2 rfl)

namespace Record

variable {ι : Type} {T : ι → Type} {r : Record ι T} {slots after : Slots T}
  {ms : List Member} {m : Member} {vs : List Json} {v : Json} {x : (i : ι) → T i} {i j : ι}
  {is : List ι} {name : String}

theorem field?_name (hn : Function.Injective r.name) (i : ι) : r.field? (r.name i) = some i := by
  cases hf : r.field? (r.name i) with
  | none =>
    have hnone := List.find?_eq_none.1 hf i (r.all_fields i)
    simp at hnone
  | some j =>
    have hj : r.name j = r.name i := by simpa using List.find?_some hf
    rw [hn hj]

theorem field?_eq_none (h : ∀ i, r.name i ≠ name) : r.field? name = none := by
  refine List.find?_eq_none.2 fun i _ => ?_
  simpa using h i

theorem complete_eq_ok_iff {missing : ι → Mismatch} :
    r.complete slots missing = .ok x ↔ ∀ i, r.value? slots i = some (x i) := by
  unfold complete
  split
  · rename_i i hfind
    constructor
    · intro h
      cases h
    intro h
    have hnone := List.find?_some hfind
    simp [h i] at hnone
  · simp only [Except.ok.injEq]
    constructor
    · rintro rfl i
      simp
    · intro h
      funext i
      simp [h i]

theorem exists_complete_iff (missing : ι → Mismatch) {vs : ι → List Json} :
    (∃ after : Slots T, (∀ i, Fills (r.field i) (Slots.empty i) (vs i) (after i)) ∧
        r.complete after missing = .ok x) ↔
      ∀ i, Reads (r.field i) (r.default? i) (vs i) (x i) := by
  simp only [complete_eq_ok_iff]
  constructor
  · rintro ⟨after, hfills, hvalue⟩ i
    exact exists_fills_iff.1 ⟨after i, hfills i, hvalue i⟩
  · intro h
    have hfills := fun i => exists_fills_iff.2 (h i)
    choose after hafter using hfills
    exact ⟨after, fun i => (hafter i).1, fun i => (hafter i).2⟩

theorem injective_of_nodup (hn : (r.fields.map r.name).Nodup) : Function.Injective r.name :=
  fun i j h => List.inj_on_of_nodup_map hn (r.all_fields i) (r.all_fields j) h

variable [DecidableEq ι]

theorem set_self (slots : Slots T) (i : ι) (a : T i) : slots.set i a i = some a := by
  simp [Slots.set]

theorem set_of_ne (slots : Slots T) (a : T i) (h : i ≠ j) : slots.set i a j = slots j := by
  simp [Slots.set, h]

theorem member_of_unknown (h : ∀ i, r.name i ≠ name) (slots : Slots T) (v : Json) :
    r.member slots (some name, v) = .ok slots := by
  simp [member, slotFor, field?_eq_none h, bind, Except.bind]

/-- A member of a known name fills the slot, which has to be empty. -/
theorem member_of_known (hn : Function.Injective r.name) (i : ι) :
    r.member slots (some (r.name i), v) = .ok after ↔
      slots i = none ∧ ∃ a, (r.field i).read v = .ok a ∧ after = slots.set i a := by
  cases hs : slots i with
  | some b => simp [member, slotFor, field?_name hn, hs, bind, Except.bind]
  | none =>
    have hmember : r.member slots (some (r.name i), v) =
        (r.field i).read v >>= fun a => .ok (slots.set i a) := by
      simp [member, slotFor, field?_name hn, hs, bind, Except.bind]
    rw [hmember, bind_eq_ok_iff]
    simp [eq_comm]

theorem valuesOf_cons_self (name : String) (v : Json) (ms : List Member) :
    valuesOf name ((some name, v) :: ms) = v :: valuesOf name ms := by
  simp [valuesOf]

theorem valuesOf_cons_of_ne {key : Name} (h : key ≠ some name) (v : Json) (ms : List Member) :
    valuesOf name ((key, v) :: ms) = valuesOf name ms := by
  simp [valuesOf, h]

/-- Every slot is filled by the members of its name. -/
theorem members_eq_ok_iff (hn : Function.Injective r.name) : r.members slots ms = .ok after ↔
    (∀ m ∈ ms, m.1.isSome = true) ∧
      ∀ i, Fills (r.field i) (slots i) (valuesOf (r.name i) ms) (after i) := by
  induction ms generalizing slots with
  | nil =>
    simp only [members, Except.ok.injEq, List.not_mem_nil, false_implies, implies_true, true_and]
    constructor
    · rintro rfl i
      exact .keep _
    · intro h
      exact (funext fun i => fills_nil.1 (h i)).symm
  | cons m ms ih =>
    obtain ⟨key, v⟩ := m
    rw [members, bind_eq_ok_iff, List.forall_mem_cons]
    cases key with
    | none => simp [member, slotFor, bind, Except.bind, Problem.malformed]
    | some name =>
      simp only [Option.isSome_some, true_and]
      by_cases hknown : ∃ i, r.name i = name
      · obtain ⟨i, rfl⟩ := hknown
        have hother : ∀ j, j ≠ i →
            valuesOf (r.name j) ((some (r.name i), v) :: ms) = valuesOf (r.name j) ms := by
          intro j hj
          exact valuesOf_cons_of_ne (fun h => hj (hn (Option.some.inj h).symm)) v ms
        simp only [member_of_known hn, ih]
        constructor
        · rintro ⟨_, ⟨hs, a, ha, rfl⟩, hkeys, hfills⟩
          refine ⟨hkeys, fun j => ?_⟩
          have hj := hfills j
          by_cases hji : j = i
          · subst hji
            rw [set_self] at hj
            rw [valuesOf_cons_self]
            exact fills_cons.2 ⟨hs, a, ha, hj⟩
          · rw [set_of_ne _ _ (Ne.symm hji)] at hj
            rwa [hother j hji]
        · rintro ⟨hkeys, hfills⟩
          have hi := hfills i
          rw [valuesOf_cons_self] at hi
          obtain ⟨hs, a, ha, hrest⟩ := fills_cons.1 hi
          refine ⟨slots.set i a, ⟨hs, a, ha, rfl⟩, hkeys, fun j => ?_⟩
          by_cases hji : j = i
          · subst hji
            rwa [set_self]
          · rw [set_of_ne _ _ (Ne.symm hji), ← hother j hji]
            exact hfills j
      · rw [not_exists] at hknown
        have hother : ∀ j, valuesOf (r.name j) ((some name, v) :: ms) = valuesOf (r.name j) ms := by
          intro j
          exact valuesOf_cons_of_ne (fun h => hknown j (Option.some.inj h).symm) v ms
        simp only [member_of_unknown hknown, Except.ok.injEq, ih, hother, exists_eq_left']

/-- Every slot in the order is filled by the item at its place. -/
theorem items_eq_ok_iff (hd : is.Nodup) (hs : ∀ i ∈ is, slots i = none) :
    r.items slots is vs = .ok after ↔
      ∀ i, Fills (r.field i) (slots i)
        (if i ∈ is then vs[is.idxOf i]?.toList else []) (after i) := by
  induction is generalizing slots vs with
  | nil =>
    simp only [items, Except.ok.injEq, List.not_mem_nil, if_false, fills_nil]
    exact ⟨fun h i => h ▸ rfl, fun h => (funext h).symm⟩
  | cons j is ih =>
    cases vs with
    | nil =>
      simp only [items, Except.ok.injEq, List.getElem?_nil, Option.toList_none, ite_self, fills_nil]
      exact ⟨fun h i => h ▸ rfl, fun h => (funext h).symm⟩
    | cons v vs =>
      rw [List.nodup_cons] at hd
      obtain ⟨hj, hd⟩ := hd
      have hrest : ∀ a, ∀ i ∈ is, slots.set j a i = none := by
        intro a i hi
        have hne : j ≠ i := fun h => hj (h ▸ hi)
        rw [set_of_ne _ _ hne]
        exact hs i (List.mem_cons_of_mem j hi)
      have hat : ∀ i, i ≠ j → (if i ∈ j :: is then (v :: vs)[(j :: is).idxOf i]?.toList else []) =
          if i ∈ is then vs[is.idxOf i]?.toList else [] := by
        intro i hi
        simp [hi, List.idxOf_cons_ne is (Ne.symm hi)]
      rw [items, bind_eq_ok_iff]
      constructor
      · rintro ⟨a, ha, hitems⟩ i
        have hi := (ih hd (hrest a)).1 hitems i
        by_cases hij : i = j
        · subst hij
          rw [set_self, if_neg hj] at hi
          simpa using fills_cons.2 ⟨hs i List.mem_cons_self, a, ha, hi⟩
        · rw [set_of_ne _ _ (Ne.symm hij)] at hi
          rwa [hat i hij]
      · intro h
        have hfirst := h j
        simp only [List.mem_cons_self, if_true, List.idxOf_cons_self, List.getElem?_cons_zero,
          Option.toList_some] at hfirst
        obtain ⟨_, a, ha, hf⟩ := fills_cons.1 hfirst
        refine ⟨a, ha, (ih hd (hrest a)).2 fun i => ?_⟩
        by_cases hij : i = j
        · subst hij
          rw [set_self, if_neg hj]
          exact hf
        · rw [set_of_ne _ _ (Ne.symm hij), ← hat i hij]
          exact h i

/-- A record is read from an object or an array that gives every field once, unless the field has a
default. -/
theorem read_decoder (hn : (r.fields.map r.name).Nodup) :
    r.decoder.read v = .ok x ↔ RecordLike r.fields.length v ∧
      ∀ i, Reads (r.field i) (r.default? i) (given (r.fields.idxOf i) (r.name i) v) (x i) := by
  cases v with
  | object ms =>
    have hread : r.decoder.read (.object ms) = .ok x ↔
        (∀ m ∈ ms, m.1.isSome = true) ∧ ∃ after, (∀ i, Fills (r.field i) (Slots.empty i)
          (valuesOf (r.name i) ms) (after i)) ∧ r.complete after r.missingField = .ok x := by
      simp only [decoder, bind_eq_ok_iff, members_eq_ok_iff (injective_of_nodup hn),
        and_assoc, exists_and_left]
    rw [hread, exists_complete_iff]
    refine and_congr_left' ⟨.object, fun h => ?_⟩
    cases h
    assumption
  | array vs =>
    have hitems : ∀ after, r.items Slots.empty r.fields vs = .ok after ↔
        ∀ i, Fills (r.field i) (Slots.empty i) vs[r.fields.idxOf i]?.toList (after i) := by
      intro after
      have hempty : ∀ i ∈ r.fields, (Slots.empty : Slots T) i = none := fun i _ => rfl
      rw [items_eq_ok_iff hn.of_map hempty]
      simp [r.all_fields]
    have hread : r.decoder.read (.array vs) = .ok x ↔
        vs.length ≤ r.fields.length ∧ ∃ after, (∀ i, Fills (r.field i) (Slots.empty i)
          vs[r.fields.idxOf i]?.toList (after i)) ∧ r.complete after r.missingItem = .ok x := by
      simp only [decoder, bind_eq_ok_iff, hitems]
      split <;> simp_all [Problem.malformed]
    rw [hread, exists_complete_iff]
    refine and_congr_left' ⟨.array, fun h => ?_⟩
    cases h
    assumption
  | _ =>
    refine ⟨fun h => ?_, fun h => ?_⟩
    · cases h
    · cases h.1

end Record

/-- The members of the fields, each of them with all its values. -/
def membersOf (fields : List (String × List Json)) : List (String × Json) :=
  fields.flatMap fun field => field.2.map (field.1, ·)

/-- An object of the fields and of members with other names, in any order. -/
def Scattered (fields : List (String × List Json)) (v : Json) : Prop :=
  ∃ all others, v = .record all ∧ all.Perm (membersOf fields ++ others) ∧
    ∀ m ∈ others, m.1 ∉ fields.map Prod.fst

theorem scattered_record (fields : List (String × List Json)) :
    Scattered fields (.record (membersOf fields)) :=
  ⟨_, [], rfl, by simp, by simp⟩

section Scattered

variable {fields : List (String × List Json)} {vs : List Json} {v : Json} {name : String}

/-- The values that members of a name have. -/
def namedValues (name : String) (members : List (String × Json)) : List Json :=
  (members.filter (·.1 == name)).map Prod.snd

theorem namedValues_append (ms ns : List (String × Json)) :
    namedValues name (ms ++ ns) = namedValues name ms ++ namedValues name ns := by
  simp [namedValues]

theorem namedValues_eq_nil {members : List (String × Json)} (h : ∀ m ∈ members, m.1 ≠ name) :
    namedValues name members = [] := by
  have hnone : members.filter (·.1 == name) = [] := by
    refine List.filter_eq_nil_iff.2 fun m hm => ?_
    simpa using h m hm
  rw [namedValues, hnone, List.map_nil]

theorem namedValues_map (name : String) (vs : List Json) :
    namedValues name (vs.map (name, ·)) = vs := by
  simp [namedValues, List.filter_map, Function.comp_def]

theorem name_mem_of_mem_membersOf {m : String × Json} (h : m ∈ membersOf fields) :
    m.1 ∈ fields.map Prod.fst := by
  obtain ⟨field, hfield, hm⟩ := List.mem_flatMap.1 h
  obtain ⟨w, _, rfl⟩ := List.mem_map.1 hm
  exact List.mem_map_of_mem hfield

theorem namedValues_membersOf (hn : (fields.map Prod.fst).Nodup) (h : (name, vs) ∈ fields) :
    namedValues name (membersOf fields) = vs := by
  induction fields with
  | nil => cases h
  | cons field fields ih =>
    rw [List.map_cons, List.nodup_cons] at hn
    have hcons : membersOf (field :: fields) = field.2.map (field.1, ·) ++ membersOf fields := rfl
    rw [hcons, namedValues_append]
    obtain rfl | h := List.mem_cons.1 h
    · have hrest : namedValues name (membersOf fields) = [] := by
        refine namedValues_eq_nil fun m hm heq => hn.1 ?_
        rw [← heq]
        exact name_mem_of_mem_membersOf hm
      rw [namedValues_map, hrest, List.append_nil]
    · have hfirst : namedValues name (field.2.map (field.1, ·)) = [] := by
        refine namedValues_eq_nil fun m hm heq => hn.1 ?_
        obtain ⟨w, _, rfl⟩ := List.mem_map.1 hm
        rw [heq]
        exact List.mem_map_of_mem h
      rw [hfirst, List.nil_append, ih hn.2 h]

theorem recordLike_of_scattered (h : Scattered fields v) (size : Nat) : RecordLike size v := by
  obtain ⟨all, others, rfl, _, _⟩ := h
  refine .object fun m hm => ?_
  obtain ⟨n, _, rfl⟩ := List.mem_map.1 hm
  rfl

theorem given_record (place : Nat) (name : String) (members : List (String × Json)) :
    given place name (.record members) = namedValues name members := by
  simp only [given, record, valuesOf, namedValues, List.filter_map, List.map_map]
  rfl

/-- What is given for a field is what its members have, if that is no more than one value. -/
theorem given_scattered (h : Scattered fields v) (hn : (fields.map Prod.fst).Nodup)
    (hf : (name, vs) ∈ fields) (hlen : vs.length ≤ 1) (place : Nat) : given place name v = vs := by
  obtain ⟨all, others, rfl, hperm, hothers⟩ := h
  have hnone : namedValues name others = [] := by
    refine namedValues_eq_nil fun m hm heq => hothers m hm ?_
    rw [heq]
    exact List.mem_map_of_mem hf
  have hvalues : (namedValues name all).Perm (namedValues name (membersOf fields ++ others)) :=
    (hperm.filter _).map _
  rw [namedValues_append, namedValues_membersOf hn hf, hnone, List.append_nil] at hvalues
  rw [given_record]
  match vs, hlen with
  | [], _ => exact hvalues.eq_nil
  | [w], _ => exact List.perm_singleton.1 hvalues

/-- A record is read from its fields, whatever stands between them. -/
theorem Record.read_scattered {ι : Type} [DecidableEq ι] {T : ι → Type} {r : Record ι T}
    {g : ι → List Json} {x : (i : ι) → T i} (hn : (r.fields.map r.name).Nodup)
    (h : Scattered (r.fields.map fun i => (r.name i, g i)) v)
    (hx : ∀ i, Reads (r.field i) (r.default? i) (g i) (x i)) : r.decoder.read v = .ok x := by
  have hnames : ((r.fields.map fun i => (r.name i, g i)).map Prod.fst).Nodup := by
    rw [List.map_map]
    exact hn
  refine (read_decoder hn).2 ⟨recordLike_of_scattered h _, fun i => ?_⟩
  have hi := List.mem_map_of_mem (f := fun i => (r.name i, g i)) (r.all_fields i)
  rw [given_scattered h hnames hi (hx i).length_le]
  exact hx i

end Scattered

theorem OptionalForm.length_le {s : Option String} {vs : List Json} (h : OptionalForm s vs) :
    vs.length ≤ 1 := by
  cases h <;> simp

theorem ListForm.length_le {α : Type} {form : α → Json → Prop} {as : List α} {vs : List Json}
    (h : ListForm form as vs) : vs.length ≤ 1 := by
  cases h <;> simp

theorem exists_of_forall₂ {α β : Type} {form : α → β → Prop} {as : List α} {bs : List β} {b : β}
    (h : List.Forall₂ form as bs) (hb : b ∈ bs) : ∃ a, form a b := by
  induction h with
  | nil => cases hb
  | cons hab _ ih =>
    cases hb with
    | head => exact ⟨_, hab⟩
    | tail _ hb => exact ih hb

theorem ListForm.exists_of_mem {α : Type} {form : α → Json → Prop} {as : List α}
    {vs ws : List Json} {w : Json} (h : ListForm form as vs) (hws : .array ws ∈ vs) (hw : w ∈ ws) :
    ∃ a, form a w := by
  cases h with
  | absent => cases hws
  | present has =>
    rw [List.mem_singleton] at hws
    cases hws
    exact exists_of_forall₂ has hw

theorem ListForm.mono {α : Type} {form form' : α → Json → Prop} {as : List α} {vs : List Json}
    (hf : ∀ a v, form a v → form' a v) (h : ListForm form as vs) : ListForm form' as vs := by
  cases h with
  | absent => exact .absent
  | present hvs => exact .present (hvs.imp hf)

end DependencyAudit.Json
