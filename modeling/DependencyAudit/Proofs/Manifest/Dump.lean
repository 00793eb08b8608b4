import DependencyAudit.Proofs.Manifest.Forms

/-!
Dumps of packages. Every package is decoded from all texts of all its dumps, whatever other members
stand in them and in which order.
-/
namespace DependencyAudit.Manifest

open Json

variable {v : Json} {d : Dependency} {t : Target} {p : Package} {text : String}

/-- One member whose array begins with the names; what else stands in the array has to be kept. -/
inductive DependencyDump : Dependency → Json → Prop
  | sibling {tag : String} (name : String) {rest : List Json} : tag = "byName" ∨ tag = "target" →
    (∀ item ∈ rest, Keepable item) →
    DependencyDump (.sibling name) (.record [(tag, .array (.text name :: rest))])
  | product (name package : String) {rest : List Json} : (∀ item ∈ rest, Keepable item) →
    DependencyDump (.product name package)
      (.record [("product", .array (.text name :: .text package :: rest))])

inductive TargetDump (t : Target) (v : Json) : Prop
  | intro {kind : String} {paths excludes dependencies : List Json} : KindName t.kind kind →
    OptionalForm (t.path.map Path.text) paths →
    ListForm (fun s w => w = .text s) t.exclude excludes →
    ListForm DependencyDump t.dependencies dependencies →
    Scattered [("name", [.text t.name]), ("type", [.text kind]), ("path", paths),
      ("exclude", excludes), ("dependencies", dependencies)] v →
    TargetDump t v

inductive PackageDump (p : Package) (v : Json) : Prop
  | intro {targets : List Json} : List.Forall₂ TargetDump p.targets targets →
    Scattered [("name", [.text p.name]), ("targets", [.array targets])] v →
    PackageDump p v

theorem keepable_text (s : String) : Keepable (.text s) := by
  refine ⟨.string s, ?_⟩
  rw [Json.text, height]
  decide

theorem DependencyDump.form (h : DependencyDump d v) : DependencyForm d v := by
  cases h with
  | sibling name htag hrest =>
    exact .sibling htag rfl (List.forall_mem_cons.2 ⟨keepable_text name, hrest⟩)
  | product name package hrest =>
    have hitems := List.forall_mem_cons.2 ⟨keepable_text package, hrest⟩
    exact .product rfl rfl (List.forall_mem_cons.2 ⟨keepable_text name, hitems⟩)

theorem TargetDump.form (h : TargetDump t v) : TargetForm t v := by
  obtain @⟨kind, paths, excludes, dependencies, hkind, hpaths, hexcludes, hdependencies, hv⟩ := h
  have hname : given 0 "name" v = [.text t.name] :=
    given_scattered hv (by simp) (by simp) (by simp) 0
  have htype : given 1 "type" v = [.text kind] :=
    given_scattered hv (by simp) (by simp) (by simp) 1
  refine ⟨recordLike_of_scattered hv 5, hname, ⟨_, htype, .bare hkind⟩, ?_, ?_, ?_⟩
  · rwa [given_scattered hv (by simp) (by simp) hpaths.length_le 2]
  · rwa [given_scattered hv (by simp) (by simp) hexcludes.length_le 3]
  · rw [given_scattered hv (by simp) (by simp) hdependencies.length_le 4]
    exact hdependencies.mono fun _ _ => DependencyDump.form

theorem PackageDump.form (h : PackageDump p v) : PackageForm p v := by
  obtain @⟨ws, hws, hv⟩ := h
  have hname : given 0 "name" v = [.text p.name] :=
    given_scattered hv (by simp) (by simp) (by simp) 0
  have htargets : given 1 "targets" v = [.array ws] :=
    given_scattered hv (by simp) (by simp) (by simp) 1
  exact ⟨recordLike_of_scattered hv 2, hname, ws, htargets, hws.imp fun _ _ => TargetDump.form⟩

/-- A package is decoded from every text of every dump of it. -/
theorem decode_dump (hp : PackageDump p v) (hv : Spells v text.toList) : decode text = .ok p :=
  decode_eq_ok_iff.2 ⟨v, hv, hp.form⟩

/-- Members in another order, one that is not known with half a surrogate pair in it, and a name
with a whole pair. -/
theorem decode_dump_reordered : decode "\x7b\"targets\": [\x7b
      \"x\": [1e999, \"\\ud800\"], \"dependencies\": [
        \x7b\"product\": [\"\\ud83d\\ude00\", \"q\\/\", null, []]\x7d, \x7b\"target\": [\"A\"]\x7d],
      \"path\": null,\t\"type\" : \"test\", \"name\": \"T\"\x7d],
    \"name\": \"\\u0000\\\"\"\x7d" = .ok ⟨"\x00\"", [⟨"T", .test, none, [],
      [.product "😀" "q/", .sibling "A"]⟩]⟩ := by
  have hproduct : DependencyDump (.product "😀" "q/")
      (.record [("product", .array [.text "😀", .text "q/", .null, .array []])]) := by
    refine .product "😀" "q/" (List.forall_mem_cons.2 ⟨⟨.null, by decide⟩, ?_⟩)
    exact List.forall_mem_singleton.2 ⟨.array (by simp), by decide⟩
  have hsibling : DependencyDump (.sibling "A") (.record [("target", .array [.text "A"])]) :=
    .sibling "A" (Or.inr rfl) (by simp)
  have htarget : TargetDump ⟨"T", .test, none, [], [.product "😀" "q/", .sibling "A"]⟩ (.record [
      ("x", .array [.number "1e999", .string none]),
      ("dependencies", .array [
        .record [("product", .array [.text "😀", .text "q/", .null, .array []])],
        .record [("target", .array [.text "A"])]]),
      ("path", .null), ("type", .text "test"), ("name", .text "T")]) := by
    refine .intro .test .null .absent (.present (.cons hproduct (.cons hsibling .nil)))
      ⟨_, [("x", .array [.number "1e999", .string none])], rfl, ?_, by decide⟩
    exact (List.reverse_perm _).symm
  refine decode_dump (.intro (.cons htarget .nil)
    ⟨[("targets", _), ("name", _)], [], rfl, .swap _ _ _, by simp⟩) ?_
  exact laid_of_tokens (by decide +kernel)

end DependencyAudit.Manifest
