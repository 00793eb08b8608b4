import DependencyAudit.Package.Manifest
import DependencyAudit.Proofs.Json.Records

/-!
The form of manifests. A text is decoded as a package exactly if it is a JSON text of the package's
form, in which every target and every dependency has its own value: one value that has none of the
forms leaves no package at all.
-/
namespace DependencyAudit.Manifest

open Json

variable {v w e : Json} {d : Dependency} {k : TargetKind} {t : Target} {p : Package} {text : String}

/-- What may stand in the array of a dependency. -/
def Keepable (v : Json) : Prop := v.Exact ∧ v.height + dependencyDepth ≤ depthLimit

inductive DependencyForm : Dependency → Json → Prop
  | sibling {tag name : String} {items : List Json} : tag = "byName" ∨ tag = "target" →
    items[0]? = some (.text name) → (∀ item ∈ items, Keepable item) →
    DependencyForm (.sibling name) (.record [(tag, .array items)])
  | product {name package : String} {items : List Json} : items[0]? = some (.text name) →
    items[1]? = some (.text package) → (∀ item ∈ items, Keepable item) →
    DependencyForm (.product name package) (.record [("product", .array items)])

inductive KindName : TargetKind → String → Prop
  | regular : KindName .regular "regular"
  | test : KindName .test "test"
  | executable : KindName .executable "executable"

/-- The name of the kind, or an object with that name alone. -/
inductive KindForm (k : TargetKind) : Json → Prop
  | bare {name : String} : KindName k name → KindForm k (.text name)
  | tagged {name : String} : KindName k name → KindForm k (.record [(name, .null)])

structure TargetForm (t : Target) (v : Json) : Prop where
  record : RecordLike 5 v
  name : given 0 "name" v = [.text t.name]
  kind : ∃ w, given 1 "type" v = [w] ∧ KindForm t.kind w
  path : OptionalForm (t.path.map Path.text) (given 2 "path" v)
  exclude : ListForm (fun s w => w = .text s) t.exclude (given 3 "exclude" v)
  dependencies : ListForm DependencyForm t.dependencies (given 4 "dependencies" v)

structure PackageForm (p : Package) (v : Json) : Prop where
  record : RecordLike 2 v
  name : given 0 "name" v = [.text p.name]
  targets : ∃ ws, given 1 "targets" v = [.array ws] ∧ List.Forall₂ TargetForm p.targets ws

theorem read_item : (Decoder.any (depthLimit - dependencyDepth)).read v = .ok w ↔
    w = v ∧ Keepable v := by
  rw [Decoder.read_any, Keepable, depthLimit, dependencyDepth]
  have hle : v.height ≤ 127 - 6 ↔ v.height + 6 ≤ 127 := by omega
  rw [hle]

/-- The items of the array are kept as they are. -/
theorem read_payload {tag : String} {meaning : List Json → Except Problem Dependency} {f : Form} :
    (form tag meaning).payload.read v = .ok f ↔
      ∃ items, v = .array items ∧ (∀ item ∈ items, Keepable item) ∧ f = ⟨items, meaning⟩ := by
  simp only [form, Decoder.read_map, Decoder.read_list, read_item]
  constructor
  · rintro ⟨items, ⟨ws, rfl, h⟩, rfl⟩
    have heq : ws = items ∧ ∀ item ∈ ws, Keepable item := by
      clear * - h
      induction h with
      | nil => simp
      | cons hw _ ih =>
        obtain ⟨rfl, hk⟩ := hw
        obtain ⟨rfl, hks⟩ := ih
        exact ⟨rfl, List.forall_mem_cons.2 ⟨hk, hks⟩⟩
    obtain ⟨rfl, hk⟩ := heq
    exact ⟨ws, rfl, hk, rfl⟩
  · rintro ⟨items, rfl, hk, rfl⟩
    exact ⟨items, ⟨items, rfl, List.forall₂_same.2 fun item hitem => ⟨rfl, hk item hitem⟩⟩, rfl⟩

theorem textAt?_eq_some_iff {items : List Json} {i : Nat} {s : String} :
    textAt? items i = some s ↔ items[i]? = some (.text s) := by
  unfold textAt?
  split <;> simp_all [Json.text]

theorem sibling?_eq_ok_iff {items : List Json} : sibling? items = .ok d ↔
    ∃ name, items[0]? = some (.text name) ∧ d = .sibling name := by
  simp only [← textAt?_eq_some_iff]
  unfold sibling?
  cases textAt? items 0 <;> simp [eq_comm]

theorem product?_eq_ok_iff {items : List Json} : product? items = .ok d ↔
    ∃ name package, items[0]? = some (.text name) ∧ items[1]? = some (.text package) ∧
      d = .product name package := by
  simp only [← textAt?_eq_some_iff]
  unfold product?
  cases textAt? items 0 <;> cases textAt? items 1 <;> simp [eq_comm]

/-- What a form of dependencies makes of the array that it holds. -/
theorem read_form {tag : String} {meaning : List Json → Except Problem Dependency} :
    (∃ f : Form, ((v = .text tag ∧ (form tag meaning).bare = .ok f) ∨
        ∃ w, v = .record [(tag, w)] ∧ (form tag meaning).payload.read w = .ok f) ∧
          f.meaning f.items = .ok d) ↔
      ∃ items, v = .record [(tag, .array items)] ∧ (∀ item ∈ items, Keepable item) ∧
        meaning items = .ok d := by
  constructor
  · rintro ⟨f, ⟨_, hbare⟩ | ⟨w, rfl, hf⟩, hd⟩
    · cases hbare
    · obtain ⟨items, rfl, hk, rfl⟩ := read_payload.1 hf
      exact ⟨items, rfl, hk, hd⟩
  · rintro ⟨items, rfl, hk, hd⟩
    exact ⟨⟨items, meaning⟩, Or.inr ⟨_, rfl, read_payload.2 ⟨items, rfl, hk, rfl⟩⟩, hd⟩

theorem read_dependency : dependency.read v = .ok d ↔ DependencyForm d v := by
  have hn : ([form "byName" sibling?, form "target" sibling?, form "product" product?].map
      (·.tag)).Nodup := by decide
  rw [dependency, Decoder.read_refine]
  simp only [Decoder.read_choice hn]
  constructor
  · rintro ⟨f, ⟨variant, hmem, hf⟩, hd⟩
    simp only [List.mem_cons, List.not_mem_nil, or_false] at hmem
    obtain rfl | rfl | rfl := hmem
    · obtain ⟨items, rfl, hk, hd⟩ := read_form.1 ⟨f, hf, hd⟩
      obtain ⟨name, hname, rfl⟩ := sibling?_eq_ok_iff.1 hd
      exact .sibling (Or.inl rfl) hname hk
    · obtain ⟨items, rfl, hk, hd⟩ := read_form.1 ⟨f, hf, hd⟩
      obtain ⟨name, hname, rfl⟩ := sibling?_eq_ok_iff.1 hd
      exact .sibling (Or.inr rfl) hname hk
    · obtain ⟨items, rfl, hk, hd⟩ := read_form.1 ⟨f, hf, hd⟩
      obtain ⟨name, package, hname, hpackage, rfl⟩ := product?_eq_ok_iff.1 hd
      exact .product hname hpackage hk
  · intro h
    cases h with
    | @sibling tag name items htag hname hk =>
      have hd := sibling?_eq_ok_iff.2 ⟨name, hname, rfl⟩
      obtain ⟨f, hf, hd⟩ := read_form.2 ⟨items, rfl, hk, hd⟩
      refine ⟨f, ⟨form tag sibling?, ?_, hf⟩, hd⟩
      obtain rfl | rfl := htag <;> simp
    | @product name package items hname hpackage hk =>
      have hd := product?_eq_ok_iff.2 ⟨name, package, hname, hpackage, rfl⟩
      obtain ⟨f, hf, hd⟩ := read_form.2 ⟨items, rfl, hk, hd⟩
      exact ⟨f, ⟨form "product" product?, by simp, hf⟩, hd⟩

theorem kindName_iff {name : String} : KindName k name ↔ name = k.label := by
  constructor
  · intro h
    cases h <;> rfl
  · rintro rfl
    cases k
    · exact .regular
    · exact .test
    · exact .executable

theorem read_kind : kind.read v = .ok k ↔ KindForm k v := by
  have hn : ((TargetKind.all.map fun k =>
      (⟨k.label, .ok k, Decoder.unit.map fun _ => k⟩ : Decoder.Variant TargetKind)).map
        (·.tag)).Nodup := by decide
  rw [kind, Decoder.read_choice hn]
  constructor
  · rintro ⟨variant, hmem, hv⟩
    obtain ⟨j, _, rfl⟩ := List.mem_map.1 hmem
    obtain ⟨rfl, hj⟩ | ⟨w, rfl, hw⟩ := hv
    · cases hj
      exact .bare (kindName_iff.2 rfl)
    · obtain ⟨u, hu, rfl⟩ := Decoder.read_map.1 hw
      obtain rfl := Decoder.read_unit.1 hu
      exact .tagged (kindName_iff.2 rfl)
  · intro h
    have hk : k ∈ TargetKind.all := by cases k <;> decide
    refine ⟨_, List.mem_map.2 ⟨k, hk, rfl⟩, ?_⟩
    cases h with
    | bare hname =>
      rw [kindName_iff.1 hname]
      exact Or.inl ⟨rfl, rfl⟩
    | tagged hname =>
      rw [kindName_iff.1 hname]
      exact Or.inr ⟨.null, rfl, Decoder.read_map.2 ⟨(), Decoder.read_unit.2 rfl, rfl⟩⟩

theorem forall_targetField {q : TargetField → Prop} : (∀ i, q i) ↔
    q .name ∧ q .kind ∧ q .path ∧ q .exclude ∧ q .dependencies := by
  constructor
  · intro h
    exact ⟨h _, h _, h _, h _, h _⟩
  · rintro ⟨h1, h2, h3, h4, h5⟩ i
    cases i
    exacts [h1, h2, h3, h4, h5]

theorem texts_mk (s : Option String) : (s.map Path.mk).map Path.text = s := by
  cases s <;> rfl

theorem mk_texts (p : Option Path) : (p.map Path.text).map Path.mk = p := by
  cases p <;> rfl

/-- What the fields of a target's record hold. -/
def targetFields (t : Target) : (i : TargetField) → i.Type
  | .name => t.name
  | .kind => t.kind
  | .path => t.path.map Path.text
  | .exclude => t.exclude
  | .dependencies => t.dependencies

theorem read_target : target.read v = .ok t ↔ TargetForm t v := by
  have hn : (targetRecord.fields.map targetRecord.name).Nodup := by decide
  have htext : ∀ w s, Decoder.string.read w = .ok s ↔ w = .text s := fun _ _ => Decoder.read_string
  have hdependency : ∀ w d, dependency.read w = .ok d ↔ DependencyForm d w :=
    fun _ _ => read_dependency
  rw [target, Decoder.read_map]
  simp only [Record.read_decoder hn, forall_targetField]
  constructor
  · rintro ⟨fields, ⟨hrecord, hname, hkind, hpath, hexclude, hdependencies⟩, rfl⟩
    obtain ⟨w, hw, hn⟩ := reads_required.1 hname
    obtain ⟨u, hu, hk⟩ := reads_required.1 hkind
    obtain rfl := Decoder.read_string.1 hn
    exact ⟨hrecord, hw, ⟨u, hu, read_kind.1 hk⟩, texts_mk _ ▸ reads_optional.1 hpath,
      (reads_list htext).1 hexclude, (reads_list hdependency).1 hdependencies⟩
  · intro h
    obtain ⟨w, hw, hk⟩ := h.kind
    refine ⟨targetFields t, ⟨h.record, ?_, ?_, ?_, ?_, ?_⟩, ?_⟩
    · exact reads_required.2 ⟨_, h.name, Decoder.read_string.2 rfl⟩
    · exact reads_required.2 ⟨w, hw, read_kind.2 hk⟩
    · exact reads_optional.2 h.path
    · exact (reads_list htext).2 h.exclude
    · exact (reads_list hdependency).2 h.dependencies
    · cases t
      exact congrArg (Target.mk _ _ · _ _) (mk_texts _)

theorem forall_packageField {q : PackageField → Prop} : (∀ i, q i) ↔ q .name ∧ q .targets := by
  constructor
  · intro h
    exact ⟨h _, h _⟩
  · rintro ⟨h1, h2⟩ i
    cases i
    exacts [h1, h2]

def packageFields (p : Package) : (i : PackageField) → i.Type
  | .name => p.name
  | .targets => p.targets

theorem read_package : package.read v = .ok p ↔ PackageForm p v := by
  have hn : (packageRecord.fields.map packageRecord.name).Nodup := by decide
  rw [package, Decoder.read_map]
  simp only [Record.read_decoder hn, forall_packageField]
  constructor
  · rintro ⟨fields, ⟨hrecord, hname, htargets⟩, rfl⟩
    obtain ⟨w, hw, hn⟩ := reads_required.1 hname
    obtain rfl := Decoder.read_string.1 hn
    obtain ⟨u, hu, hts⟩ := reads_required.1 htargets
    obtain ⟨ws, rfl, hws⟩ := Decoder.read_list.1 hts
    exact ⟨hrecord, hw, ws, hu, (hws.imp fun _ _ => read_target.1).flip⟩
  · intro h
    obtain ⟨ws, hw, hws⟩ := h.targets
    refine ⟨packageFields p, ⟨h.record, ?_, ?_⟩, rfl⟩
    · exact reads_required.2 ⟨_, h.name, Decoder.read_string.2 rfl⟩
    · refine reads_required.2 ⟨_, hw, Decoder.read_list.2 ⟨ws, rfl, ?_⟩⟩
      exact (hws.imp fun _ _ => read_target.2).flip

theorem decode_eq_ok_iff : decode text = .ok p ↔ ∃ v, Spells v text.toList ∧ PackageForm p v := by
  simp only [decode, Decoder.decode_eq_ok_iff, read_package]

/-- A value that stands where a dependency of a target of the manifest does. -/
inductive ListedDependency (e v : Json) : Prop
  | intro {w : Json} {ws es : List Json} : .array ws ∈ given 1 "targets" v → w ∈ ws →
    .array es ∈ given 4 "dependencies" w → e ∈ es → ListedDependency e v

theorem PackageForm.dependency (h : PackageForm p v) (hl : ListedDependency e v) :
    ∃ d, DependencyForm d e := by
  obtain ⟨hws, hw, hes, he⟩ := hl
  obtain ⟨_, hgiven, htargets⟩ := h.targets
  rw [hgiven, List.mem_singleton] at hws
  cases hws
  obtain ⟨t, ht⟩ := exists_of_forall₂ htargets hw
  exact ht.dependencies.exists_of_mem hes he

/-- A manifest is read as a whole or not at all. -/
theorem decode_form (text : String) :
    (∀ p, decode text = .ok p ↔ ∃ v, Spells v text.toList ∧ PackageForm p v) ∧
      ∀ v e, Spells v text.toList → ListedDependency e v → (∀ d, ¬ DependencyForm d e) →
        ∃ problem, decode text = .error problem := by
  refine ⟨fun p => decode_eq_ok_iff, fun v e hv hl he => ?_⟩
  cases hdecode : decode text with
  | error problem => exact ⟨problem, rfl⟩
  | ok p =>
    obtain ⟨w, hw, hp⟩ := decode_eq_ok_iff.1 hdecode
    obtain rfl := hv.unique hw
    obtain ⟨d, hd⟩ := hp.dependency hl
    exact absurd hd (he d)

/-- A product without a package, in a target given as an array. -/
theorem decode_form_without_package : ∃ problem, decode "[\"P\", [[\"T\", \"test\", null, [], [
    \x7b\"byName\": [\"A\", 1]\x7d, \x7b\"product\": [\"B\"]\x7d]]]]" = .error problem := by
  refine (decode_form _).2 (.array [.text "P", .array [.array [.text "T", .text "test", .null,
    .array [], .array [.record [("byName", .array [.text "A", .number "1"])],
      .record [("product", .array [.text "B"])]]]]]) _ (laid_of_tokens (by decide +kernel))
    (.intro (List.mem_singleton.2 rfl) (List.mem_singleton.2 rfl) (List.mem_singleton.2 rfl)
      (List.mem_cons_of_mem _ List.mem_cons_self)) fun d hd => ?_
  have h : dependency.read (.record [("product", .array [.text "B"])]) = .ok d :=
    read_dependency.2 hd
  cases h

end DependencyAudit.Manifest
