import DependencyAudit.Policy.Format
import DependencyAudit.Proofs.Json.Printer
import DependencyAudit.Proofs.Json.Records

/-!
Texts of policies. What is written of a policy is read as the same policy, and so is every other
text of it: members may come in any order and among others, and what says no more than its absence
may be left out.
-/
namespace DependencyAudit.Policy

open Json

variable {v : Json} {name : String} {reason : Option String} {r : Reexport} {p : Policy}
  {text : String}

/-- A list of modules may be left out if it is empty. -/
inductive ReexportForm (r : Reexport) (v : Json) : Prop
  | intro {modules : List Json} : ListForm (fun s w => w = .text s) r.modules modules →
    Scattered [("importFramework", [.text r.owner]), ("exportedImports", modules)] v →
    ReexportForm r v

/-- What is ignored has its name under the key. -/
inductive IgnoredForm (key name : String) (reason : Option String) (v : Json) : Prop
  | intro {reasons : List Json} : OptionalForm reason reasons →
    Scattered [(key, [.text name]), ("reason", reasons)] v → IgnoredForm key name reason v

/-- Every member may be left out that has the value it has in the default policy. -/
inductive PolicyForm (p : Policy) (v : Json) : Prop
  | intro {tools systemModules reexports ignoredModules ignoredTargets debugLogging : List Json} :
    DefaultForm Json.text "/usr/bin/swift" p.tool.text tools →
    ListForm (fun s w => w = .text s) p.systemModules systemModules →
    ListForm ReexportForm p.reexports reexports →
    ListForm (fun m => IgnoredForm "framework" m.name m.reason) p.ignoredModules ignoredModules →
    ListForm (fun t => IgnoredForm "targetName" t.name t.reason) p.ignoredTargets ignoredTargets →
    DefaultForm Json.bool false p.debugLogging debugLogging →
    Scattered [("swiftExecPath", tools), ("systemFrameworks", systemModules),
      ("exportedImports", reexports), ("ignoredFrameworks", ignoredModules),
      ("ignoredTargets", ignoredTargets), ("enableDebugLogging", debugLogging)] v →
    PolicyForm p v

/-- What the fields of a declaration's record hold. -/
def reexportFields (r : Reexport) : (i : ReexportField) → i.Type
  | .owner => r.owner
  | .modules => r.modules

theorem read_reexport (h : ReexportForm r v) : reexport.read v = .ok r := by
  obtain @⟨modules, hmodules, hv⟩ := h
  have hn : (reexportRecord.fields.map reexportRecord.name).Nodup := by decide
  refine Decoder.read_map.2 ⟨reexportFields r, Record.read_scattered (r := reexportRecord) (g := fun
    | .owner => [.text r.owner]
    | .modules => modules) hn hv fun i => ?_, rfl⟩
  cases i with
  | owner => exact .present (Decoder.read_string.2 rfl)
  | modules => exact hmodules.reads fun _ _ => Decoder.read_string.2

/-- What is ignored is read alike for modules and for targets. -/
theorem read_ignored {label : IgnoredField → String} (title : String)
    (hn : [label .name, label .reason].Nodup) (hreason : label .reason = "reason")
    (h : IgnoredForm (label .name) name reason v) :
    (ignoredRecord title label).decoder.read v = .ok (fun
      | .name => name
      | .reason => reason) := by
  obtain @⟨reasons, hreasons, hv⟩ := h
  rw [← hreason] at hv
  refine Record.read_scattered (r := ignoredRecord title label) (g := fun
    | .name => [.text name]
    | .reason => reasons) hn hv fun i => ?_
  cases i with
  | name => exact .present (Decoder.read_string.2 rfl)
  | reason => exact reads_optional.2 hreasons

theorem read_ignoredModule (m : IgnoredModule) (h : IgnoredForm "framework" m.name m.reason v) :
    ignoredModule.read v = .ok m :=
  Decoder.read_map.2 ⟨_, read_ignored "IgnoredFramework" (by decide) rfl h, rfl⟩

theorem read_ignoredTarget (t : IgnoredTarget) (h : IgnoredForm "targetName" t.name t.reason v) :
    ignoredTarget.read v = .ok t :=
  Decoder.read_map.2 ⟨_, read_ignored "IgnoredTarget" (by decide) rfl h, rfl⟩

def policyFields (p : Policy) : (i : Field) → i.Type
  | .tool => p.tool.text
  | .systemModules => p.systemModules
  | .reexports => p.reexports
  | .ignoredModules => p.ignoredModules
  | .ignoredTargets => p.ignoredTargets
  | .debugLogging => p.debugLogging

theorem read_policy (h : PolicyForm p v) : policy.read v = .ok p := by
  obtain @⟨tools, systemModules, reexports, ignoredModules, ignoredTargets, debugLogging, htool,
    hsystem, hreexports, hmodules, htargets, hlogging, hv⟩ := h
  have hn : (policyRecord.fields.map policyRecord.name).Nodup := by decide
  refine Decoder.read_map.2 ⟨policyFields p, Record.read_scattered (r := policyRecord) (g := fun
    | .tool => tools
    | .systemModules => systemModules
    | .reexports => reexports
    | .ignoredModules => ignoredModules
    | .ignoredTargets => ignoredTargets
    | .debugLogging => debugLogging) hn hv fun i => ?_, rfl⟩
  cases i with
  | tool => exact (reads_default fun _ _ => Decoder.read_path).2 htool
  | systemModules => exact hsystem.reads fun _ _ => Decoder.read_string.2
  | reexports => exact hreexports.reads fun _ _ => read_reexport
  | ignoredModules => exact hmodules.reads fun m _ => read_ignoredModule m
  | ignoredTargets => exact htargets.reads fun t _ => read_ignoredTarget t
  | debugLogging => exact (reads_default fun _ _ => Decoder.read_bool).2 hlogging

theorem listForm_texts (ss : List String) : ListForm (fun s w => w = .text s) ss [texts ss] := by
  refine listForm_map (fun s => ?_) ss
  rfl

theorem reexportForm_json (r : Reexport) : ReexportForm r (reexportJson r) := by
  have hv : Scattered [("importFramework", [.text r.owner]), ("exportedImports", [texts r.modules])]
      (reexportJson r) := scattered_record _
  exact .intro (listForm_texts r.modules) hv

theorem ignoredForm_json (label : IgnoredField → String) (hreason : label .reason = "reason")
    (name : String) (reason : Option String) :
    IgnoredForm (label .name) name reason (ignoredJson label name reason) := by
  cases reason with
  | none =>
    have hv : Scattered [(label .name, [.text name]), ("reason", [])]
        (ignoredJson label name none) := scattered_record _
    exact .intro .absent hv
  | some s =>
    have hv : Scattered [(label .name, [.text name]), (label .reason, [.text s])]
        (ignoredJson label name (some s)) := scattered_record _
    rw [hreason] at hv
    exact .intro (.present s) hv

/-- The JSON form of a policy leaves nothing out but reasons that there are not. -/
theorem policyForm_toJson (p : Policy) : PolicyForm p p.toJson := by
  have hmodules : ListForm (fun m => IgnoredForm "framework" m.name m.reason) p.ignoredModules
      [.array (p.ignoredModules.map fun m => ignoredJson moduleLabel m.name m.reason)] := by
    refine listForm_map (fun m => ?_) p.ignoredModules
    exact ignoredForm_json moduleLabel rfl m.name m.reason
  have htargets : ListForm (fun t => IgnoredForm "targetName" t.name t.reason) p.ignoredTargets
      [.array (p.ignoredTargets.map fun t => ignoredJson targetLabel t.name t.reason)] := by
    refine listForm_map (fun t => ?_) p.ignoredTargets
    exact ignoredForm_json targetLabel rfl t.name t.reason
  have hv : Scattered [("swiftExecPath", [.text p.tool.text]),
      ("systemFrameworks", [texts p.systemModules]),
      ("exportedImports", [.array (p.reexports.map reexportJson)]),
      ("ignoredFrameworks",
        [.array (p.ignoredModules.map fun m => ignoredJson moduleLabel m.name m.reason)]),
      ("ignoredTargets",
        [.array (p.ignoredTargets.map fun t => ignoredJson targetLabel t.name t.reason)]),
      ("enableDebugLogging", [.bool p.debugLogging])] p.toJson := scattered_record _
  exact .intro .present (listForm_texts p.systemModules)
    (listForm_map reexportForm_json p.reexports) hmodules htargets .present hv

theorem printable_text (s : String) : Printable (.text s) := .string _

theorem printable_reexportJson (r : Reexport) : Printable (reexportJson r) := by
  refine printable_record ?_
  simp only [List.forall_mem_cons]
  exact ⟨printable_text _, printable_map printable_text _, fun _ hm => nomatch hm⟩

theorem printable_ignoredJson (label : IgnoredField → String) (name : String)
    (reason : Option String) : Printable (ignoredJson label name reason) := by
  refine printable_record (List.forall_mem_cons.2 ⟨printable_text _, ?_⟩)
  cases reason with
  | none => exact fun _ hm => nomatch hm
  | some s => exact List.forall_mem_singleton.2 (printable_text s)

theorem printable_toJson (p : Policy) : Printable p.toJson := by
  have hmodule : ∀ m : IgnoredModule, Printable (ignoredJson moduleLabel m.name m.reason) :=
    fun m => printable_ignoredJson moduleLabel m.name m.reason
  have htarget : ∀ t : IgnoredTarget, Printable (ignoredJson targetLabel t.name t.reason) :=
    fun t => printable_ignoredJson targetLabel t.name t.reason
  refine printable_record ?_
  simp only [List.forall_mem_cons]
  exact ⟨printable_text _, printable_map printable_text _, printable_map printable_reexportJson _,
    printable_map hmodule _, printable_map htarget _, .bool _, fun _ hm => nomatch hm⟩

theorem spells_encode (p : Policy) : Spells p.toJson p.encode.toList :=
  spells_print (printable_toJson p)

theorem decode_of_form (hp : PolicyForm p v) (hv : Spells v text.toList) : decode text = .ok p :=
  Decoder.decode_eq_ok_iff.2 ⟨v, hv, read_policy hp⟩

/-- What is written of a policy is one of its texts, and every text of a policy is read as it. -/
theorem decode_encode (p : Policy) : decode p.encode = .ok p ∧ PolicyForm p p.toJson ∧
    Spells p.toJson p.encode.toList ∧
      ∀ v text, PolicyForm p v → Spells v text.toList → decode text = .ok p :=
  ⟨decode_of_form (policyForm_toJson p) (spells_encode p), policyForm_toJson p, spells_encode p,
    fun _ _ => decode_of_form⟩

/-- Defaults left out, a reason that is `null`, and a member that is not known. -/
theorem decode_encode_sparse : decode "\x7b\"enableDebugLogging\": true,
    \"ignoredTargets\": [\x7b\"x\": [1e999], \"reason\": null, \"targetName\": \"\\u0007\"\x7d],
    \"exportedImports\": [\x7b\"importFramework\": \"A\"\x7d]\x7d" =
      .ok
        { reexports := [⟨"A", []⟩]
          ignoredTargets := [⟨"\x07", none⟩]
          debugLogging := true } := by
  have hreexport : ReexportForm ⟨"A", []⟩ (.record [("importFramework", .text "A")]) :=
    .intro .absent (scattered_record [("importFramework", [.text "A"]), ("exportedImports", [])])
  have htarget : IgnoredForm "targetName" "\x07" none
      (.record [("x", .array [.number "1e999"]), ("reason", .null),
        ("targetName", .text "\x07")]) :=
    .intro .null ⟨_, [("x", .array [.number "1e999"])], rfl, (List.reverse_perm _).symm, by decide⟩
  refine (decode_encode _).2.2.2 (.record [("enableDebugLogging", .bool true),
    ("ignoredTargets", .array [.record [("x", .array [.number "1e999"]), ("reason", .null),
      ("targetName", .text "\x07")]]),
    ("exportedImports", .array [.record [("importFramework", .text "A")]])]) _
    (.intro (.absent rfl) .absent (.present (.cons hreexport .nil)) .absent
      (.present (.cons htarget .nil)) .present
      ⟨_, [], rfl, (List.reverse_perm _).symm, fun _ hm => nomatch hm⟩) ?_
  exact laid_of_tokens (by decide +kernel)

end DependencyAudit.Policy
