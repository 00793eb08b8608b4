import DependencyAudit.Json.Decoder
import DependencyAudit.Proofs.Json.Texts
import Mathlib.Data.List.Forall2

/-!
What decoders accept. Each of them reads exactly the values of one form, and decoding a text is
reading the value of which it is a text.
-/
namespace DependencyAudit.Json

variable {α β ε : Type} {d : Decoder α} {v w : Json} {a : α} {b : β} {room : Nat}

theorem bind_eq_ok_iff {x : Except ε α} {f : α → Except ε β} :
    x >>= f = .ok b ↔ ∃ a, x = .ok a ∧ f a = .ok b := by
  cases x with
  | error e => simp [bind, Except.bind]
  | ok a => simp [bind, Except.bind]

theorem mapM_eq_ok_iff {f : α → Except ε β} {as : List α} {bs : List β} :
    as.mapM f = .ok bs ↔ List.Forall₂ (fun a b => f a = .ok b) as bs := by
  induction as generalizing bs with
  | nil => cases bs <;> simp [pure, Except.pure]
  | cons a as ih =>
    rw [List.mapM_cons, bind_eq_ok_iff]
    simp only [bind_eq_ok_iff, ih]
    constructor
    · rintro ⟨b, hb, bs', hbs, hpure⟩
      cases hpure
      exact .cons hb hbs
    · rintro (_ | ⟨hb, hbs⟩)
      exact ⟨_, hb, _, hbs, rfl⟩

mutual

/-- How many arrays and objects stand inside each other. -/
def height : Json → Nat
  | null | bool _ | number _ | string _ => 0
  | array items => itemsHeight items + 1
  | object members => membersHeight members + 1

def itemsHeight : List Json → Nat
  | [] => 0
  | item :: items => max (height item) (itemsHeight items)

def membersHeight : List (Option String × Json) → Nat
  | [] => 0
  | (_, value) :: members => max (height value) (membersHeight members)

end

/-- All strings hold characters only, and all numbers are within the doubles. -/
inductive Exact : Json → Prop
  | null : Exact .null
  | bool (b : Bool) : Exact (.bool b)
  | number {spelling : String} : fits spelling = true → Exact (.number spelling)
  | string (s : String) : Exact (.text s)
  | array {items : List Json} : (∀ item ∈ items, Exact item) → Exact (.array items)
  | object {members : List (Option String × Json)} : (∀ m ∈ members, m.1.isSome = true) →
    (∀ m ∈ members, Exact m.2) → Exact (.object members)

mutual

theorem isSound_iff (v : Json) (room : Nat) :
    v.isSound room = true ↔ v.Exact ∧ v.height ≤ room := by
  match v with
  | .null => simp [isSound, height, Exact.null]
  | .bool b => simp [isSound, height, Exact.bool]
  | .number spelling =>
    simp only [isSound, height, Nat.zero_le, and_true]
    exact ⟨.number, fun h => by cases h; assumption⟩
  | .string content =>
    simp only [isSound, height, Nat.zero_le, and_true]
    refine ⟨fun h => ?_, fun h => by cases h; rfl⟩
    obtain ⟨s, rfl⟩ := Option.isSome_iff_exists.1 h
    exact .string s
  | .array items =>
    have hitems : (∀ item ∈ items, item.Exact) ↔ (Json.array items).Exact :=
      ⟨.array, fun h => by cases h; assumption⟩
    cases room with
    | zero => simp [isSound, height]
    | succ room => rw [isSound, areSound_iff items room, height, hitems, Nat.succ_le_succ_iff]
  | .object members =>
    have hmembers : ((∀ m ∈ members, m.1.isSome = true) ∧ ∀ m ∈ members, m.2.Exact) ↔
        (Json.object members).Exact :=
      ⟨fun h => .object h.1 h.2, fun h => by cases h; exact ⟨by assumption, by assumption⟩⟩
    cases room with
    | zero => simp [isSound, height]
    | succ room =>
      rw [isSound, areSoundMembers_iff members room, height, ← and_assoc, hmembers,
        Nat.succ_le_succ_iff]

theorem areSound_iff (items : List Json) (room : Nat) :
    areSound room items = true ↔ (∀ item ∈ items, item.Exact) ∧ itemsHeight items ≤ room := by
  match items with
  | [] => simp [areSound, itemsHeight]
  | item :: items =>
    rw [areSound, Bool.and_eq_true, isSound_iff item room, areSound_iff items room, itemsHeight,
      List.forall_mem_cons, Nat.max_le]
    tauto

theorem areSoundMembers_iff (members : List (Option String × Json)) (room : Nat) :
    areSoundMembers room members = true ↔ (∀ m ∈ members, m.1.isSome = true) ∧
      (∀ m ∈ members, m.2.Exact) ∧ membersHeight members ≤ room := by
  match members with
  | [] => simp [areSoundMembers, membersHeight]
  | (name, value) :: members =>
    rw [areSoundMembers, Bool.and_eq_true, Bool.and_eq_true, isSound_iff value room,
      areSoundMembers_iff members room, membersHeight, List.forall_mem_cons, List.forall_mem_cons,
      Nat.max_le]
    tauto

end

namespace Decoder

/-- Decoding a text is reading the value of which it is a text. -/
theorem decode_eq_ok_iff {text : String} :
    d.decode text = .ok a ↔ ∃ v, Spells v text.toList ∧ d.read v = .ok a := by
  simp only [← ofText_eq_whole_iff, decode]
  cases Document.ofText text.toList <;> simp

theorem asString_eq_some_iff {s : String} : asString v = some s ↔ v = .text s := by
  cases v <;> simp [asString, text]

theorem read_scalar {expected : String} {view : Json → Option α} :
    (scalar expected view).read v = .ok a ↔ view v = some a := by
  unfold scalar
  cases h : view v <;> simp [h]

theorem read_string {s : String} : string.read v = .ok s ↔ v = .text s :=
  read_scalar.trans asString_eq_some_iff

theorem read_path {s : String} : path.read v = .ok s ↔ v = .text s :=
  read_scalar.trans asString_eq_some_iff

theorem read_bool {b : Bool} : bool.read v = .ok b ↔ v = .bool b := by
  refine read_scalar.trans ?_
  cases v <;> simp

theorem read_unit : unit.read v = .ok () ↔ v = .null := by
  refine read_scalar.trans ?_
  cases v <;> simp

theorem read_optionalString {s : Option String} : optionalString.read v = .ok s ↔
    (s = none ∧ v = .null) ∨ ∃ t, s = some t ∧ v = .text t := by
  refine read_scalar.trans ?_
  cases v with
  | string content => cases content <;> cases s <;> simp [asString, text]
  | null => cases s <;> simp [text]
  | _ => simp [asString, text]

theorem read_map {f : α → β} : (d.map f).read v = .ok b ↔ ∃ a, d.read v = .ok a ∧ f a = b := by
  unfold map
  cases h : d.read v <;> simp [h, Except.map]

theorem read_refine {f : α → Except Problem β} :
    (d.refine f).read v = .ok b ↔ ∃ a, d.read v = .ok a ∧ f a = .ok b :=
  bind_eq_ok_iff

theorem read_list {as : List α} : (list d).read v = .ok as ↔
    ∃ vs, v = .array vs ∧ List.Forall₂ (fun w a => d.read w = .ok a) vs as := by
  cases v with
  | array items => simp [list, mapM_eq_ok_iff]
  | _ => simp [list]

theorem read_any : (any room).read v = .ok w ↔ w = v ∧ v.Exact ∧ v.height ≤ room := by
  rw [← isSound_iff, any]
  cases hs : v.isSound room with
  | true => simp [hs, eq_comm]
  | false => simp [hs, Problem.malformed]

section Choice

variable {variants : List (Variant α)} {variant : Variant α} {tag : String}

theorem variant?_eq_ok_iff {name : Name} : variant? variants name = .ok variant ↔
    ∃ tag, name = some tag ∧ variants.find? (·.tag == tag) = some variant := by
  cases name with
  | none => simp [variant?, Problem.malformed]
  | some tag => cases h : variants.find? (·.tag == tag) <;> simp [variant?, h]

theorem onlyMember_eq_ok_iff {m : Member} : onlyMember variants m = .ok a ↔
    ∃ tag variant, m.1 = some tag ∧ variants.find? (·.tag == tag) = some variant ∧
      variant.payload.read m.2 = .ok a := by
  rw [onlyMember, bind_eq_ok_iff]
  simp only [variant?_eq_ok_iff]
  constructor
  · rintro ⟨variant, ⟨tag, hm, hv⟩, ha⟩
    exact ⟨tag, variant, hm, hv, ha⟩
  · rintro ⟨tag, variant, hm, hv, ha⟩
    exact ⟨variant, ⟨tag, hm, hv⟩, ha⟩

theorem read_choice_object {m : Member} {rest : List Member} :
    (choice variants).read (.object (m :: rest)) = .ok a ↔
      rest = [] ∧ onlyMember variants m = .ok a := by
  rw [choice, bind_eq_ok_iff]
  cases rest <;> simp [Problem.malformed]

theorem find?_tag_eq_some_iff (hn : (variants.map (·.tag)).Nodup) :
    variants.find? (·.tag == tag) = some variant ↔ variant ∈ variants ∧ variant.tag = tag := by
  induction variants with
  | nil => simp
  | cons first variants ih =>
    rw [List.map_cons, List.nodup_cons] at hn
    rw [List.find?_cons]
    by_cases hfirst : first.tag = tag
    · have hother : variant ∈ variants → variant.tag ≠ tag := by
        intro hmem htag
        exact hn.1 (hfirst.trans htag.symm ▸ List.mem_map_of_mem hmem)
      simp only [hfirst, beq_self_eq_true, Option.some.injEq, List.mem_cons]
      constructor
      · rintro rfl
        exact ⟨Or.inl rfl, hfirst⟩
      · rintro ⟨rfl | hmem, htag⟩
        · rfl
        · exact absurd htag (hother hmem)
    · simp only [beq_eq_false_iff_ne.2 hfirst, ih hn.2, List.mem_cons]
      constructor
      · rintro ⟨hmem, htag⟩
        exact ⟨Or.inr hmem, htag⟩
      · rintro ⟨rfl | hmem, htag⟩
        · exact absurd htag hfirst
        · exact ⟨hmem, htag⟩

/-- One of the tags bare, or an object with one of the tags as its only name. -/
theorem read_choice (hn : (variants.map (·.tag)).Nodup) : (choice variants).read v = .ok a ↔
    ∃ variant ∈ variants, (v = .text variant.tag ∧ variant.bare = .ok a) ∨
      ∃ w, v = .record [(variant.tag, w)] ∧ variant.payload.read w = .ok a := by
  constructor
  · intro h
    cases v with
    | string content =>
      obtain ⟨variant, hread, ha⟩ := bind_eq_ok_iff.1 h
      obtain ⟨tag, rfl, hv⟩ := variant?_eq_ok_iff.1 hread
      obtain ⟨hmem, rfl⟩ := (find?_tag_eq_some_iff hn).1 hv
      exact ⟨variant, hmem, Or.inl ⟨rfl, ha⟩⟩
    | object members =>
      cases members with
      | nil => cases h
      | cons m rest =>
        obtain ⟨rfl, hm⟩ := read_choice_object.1 h
        obtain ⟨name, w⟩ := m
        obtain ⟨tag, variant, rfl, hv, ha⟩ := onlyMember_eq_ok_iff.1 hm
        obtain ⟨hmem, rfl⟩ := (find?_tag_eq_some_iff hn).1 hv
        exact ⟨variant, hmem, Or.inr ⟨w, rfl, ha⟩⟩
    | _ => cases h
  · rintro ⟨variant, hmem, ⟨rfl, ha⟩ | ⟨w, rfl, ha⟩⟩
    · have hv := (find?_tag_eq_some_iff hn).2 ⟨hmem, rfl⟩
      exact bind_eq_ok_iff.2 ⟨variant, variant?_eq_ok_iff.2 ⟨_, rfl, hv⟩, ha⟩
    · have hv := (find?_tag_eq_some_iff hn).2 ⟨hmem, rfl⟩
      exact read_choice_object.2 ⟨rfl, onlyMember_eq_ok_iff.2 ⟨_, variant, rfl, hv, ha⟩⟩

end Choice

end Decoder

end DependencyAudit.Json
