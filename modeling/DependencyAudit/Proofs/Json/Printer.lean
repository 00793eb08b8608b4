import DependencyAudit.Json.Printer
import DependencyAudit.Proofs.Json.Tables
import Mathlib.Tactic.SplitIfs

/-!
What is printed is a JSON text of the value, at every depth.
-/
namespace DependencyAudit.Json

/-- Every number in the value is spelled as one. -/
inductive Printable : Json → Prop
  | null : Printable .null
  | bool (b : Bool) : Printable (.bool b)
  | number {spelling : String} : IsNumber spelling.toList → Printable (.number spelling)
  | string (content : Option String) : Printable (.string content)
  | array {items : List Json} : (∀ item ∈ items, Printable item) → Printable (.array items)
  | object {members : List (Option String × Json)} : (∀ m ∈ members, Printable m.2) →
    Printable (.object members)

theorem printable_record {members : List (String × Json)} (h : ∀ m ∈ members, Printable m.2) :
    Printable (.record members) := by
  refine .object fun m hm => ?_
  obtain ⟨n, hn, rfl⟩ := List.mem_map.1 hm
  exact h n hn

theorem printable_map {α : Type} {f : α → Json} (h : ∀ a, Printable (f a)) (as : List α) :
    Printable (.array (as.map f)) := by
  refine .array fun item hitem => ?_
  obtain ⟨a, _, rfl⟩ := List.mem_map.1 hitem
  exact h a

theorem hexNumber?_control :
    ∀ n < 0x20, hexNumber? ['0', '0', lowerHex (n / 16), lowerHex n] = some n := by
  decide

/-- The unit that a character is written as. -/
theorem exists_spelled_escape (c : Char) : ∃ u : StringUnit, u.Spelled (escape c) ∧
    ∀ us cs, Stands us cs → Stands (u :: us) (c :: cs) := by
  have hshort : ∀ e, (e, c) ∈ escapes → ∃ u : StringUnit, u.Spelled ['\\', e] ∧
      ∀ us cs, Stands us cs → Stands (u :: us) (c :: cs) :=
    fun e he => ⟨.char c, .escape he, fun _ _ => .char c⟩
  unfold escape
  split_ifs with hquote hslash hback hfeed hline hreturn htab hcontrol
  · exact hshort '"' (by rw [hquote]; decide)
  · exact hshort '\\' (by rw [hslash]; decide)
  · exact hshort 'b' (by rw [hback]; decide)
  · exact hshort 'f' (by rw [hfeed]; decide)
  · exact hshort 'n' (by rw [hline]; decide)
  · exact hshort 'r' (by rw [hreturn]; decide)
  · exact hshort 't' (by rw [htab]; decide)
  · exact ⟨.bits c.toNat, .hex rfl (hexNumber?_control _ hcontrol), fun _ _ => .bits rfl⟩
  · exact ⟨.char c, .plain hquote hslash (Nat.not_lt.1 hcontrol), fun _ _ => .char c⟩

theorem exists_spelling_escape (cs : List Char) :
    ∃ us, Spelling us (cs.flatMap escape) ∧ Stands us cs := by
  induction cs with
  | nil => exact ⟨[], .nil, .nil⟩
  | cons c cs ih =>
    obtain ⟨u, hu, hstands⟩ := exists_spelled_escape c
    obtain ⟨us, hus, hcs⟩ := ih
    exact ⟨u :: us, .cons hu hus, hstands us cs hcs⟩

theorem spelled_stringText (content : Option String) :
    Token.Spelled (.string content) (stringText content) := by
  cases content with
  | none =>
    have hlead : (StringUnit.bits 0xD800).Spelled ['\\', 'u', 'd', '8', '0', '0'] :=
      .hex rfl (by decide)
    refine .torn (.cons hlead .nil) fun content hcontent => ?_
    cases hcontent with
    | @bits c _ _ _ hnumber _ =>
      have hhalf := (not_half c).1
      rw [hnumber] at hhalf
      cases hhalf
  | some s =>
    obtain ⟨us, hus, hcs⟩ := exists_spelling_escape s.toList
    have h := Token.Spelled.string hus hcs
    rwa [String.ofList_toList] at h

theorem blanks_newLine (depth : Nat) : Blanks (newLine depth) := by
  intro c hc
  obtain rfl | hc := List.mem_cons.1 hc
  · simp
  · exact Or.inl (List.eq_of_mem_replicate hc)

/-- A name, the colon and the blank after it. -/
theorem laid_name (name : Option String) :
    Laid [.string name, .colon] (stringText name ++ [':', ' ']) := by
  have hblank : Blanks [' '] := by simp [Blanks]
  exact (laid_singleton (spelled_stringText name)).append
    ((laid_singleton .colon).append_blanks hblank)

/-- An opening or parting token, with a new line after it. -/
theorem laid_newLine {t : Token} {cs : List Char} (ht : t.Spelled cs) (depth : Nat) :
    Laid [t] (cs ++ newLine depth) :=
  (laid_singleton ht).append_blanks (blanks_newLine depth)

mutual

theorem spells_render {v : Json} (h : Printable v) (depth : Nat) : Spells v (render depth v) := by
  match v, h with
  | .null, _ => exact laid_singleton .null
  | .bool true, _ => exact laid_singleton .isTrue
  | .bool false, _ => exact laid_singleton .isFalse
  | .number spelling, .number h =>
    have hs := Token.Spelled.number h
    rw [String.ofList_toList] at hs
    exact laid_singleton hs
  | .string content, _ => exact laid_singleton (spelled_stringText content)
  | .array [], _ => exact (laid_singleton .openBracket).snoc .closeBracket
  | .array (item :: items), .array h =>
    rw [List.forall_mem_cons] at h
    have hopen := laid_newLine .openBracket (depth + 1)
    have hparts := (spells_render h.1 (depth + 1)).append (laid_renderItems h.2 (depth + 1))
    have hend := (hopen.append hparts).append_blanks (blanks_newLine depth)
    simpa [Spells, render, tokenList] using hend.snoc .closeBracket
  | .object [], _ => exact (laid_singleton .openBrace).snoc .closeBrace
  | .object ((name, value) :: members), .object h =>
    rw [List.forall_mem_cons] at h
    have hopen := (laid_newLine .openBrace (depth + 1)).append (laid_name name)
    have hparts := (spells_render h.1 (depth + 1)).append (laid_renderMembers h.2 (depth + 1))
    have hend := (hopen.append hparts).append_blanks (blanks_newLine depth)
    simpa [Spells, render, tokenList] using hend.snoc .closeBrace

theorem laid_renderItems {items : List Json} (h : ∀ item ∈ items, Printable item) (depth : Nat) :
    Laid (itemTokens items) (renderItems depth items) := by
  match items, h with
  | [], _ => exact .nil blanks_nil
  | item :: items, h =>
    rw [List.forall_mem_cons] at h
    have hparts := (spells_render h.1 depth).append (laid_renderItems h.2 depth)
    simpa [renderItems, itemTokens] using (laid_newLine .comma depth).append hparts

theorem laid_renderMembers {members : List (Option String × Json)}
    (h : ∀ m ∈ members, Printable m.2) (depth : Nat) :
    Laid (memberTokens members) (renderMembers depth members) := by
  match members, h with
  | [], _ => exact .nil blanks_nil
  | (name, value) :: members, h =>
    rw [List.forall_mem_cons] at h
    have hname := (laid_newLine .comma depth).append (laid_name name)
    have hparts := (spells_render h.1 depth).append (laid_renderMembers h.2 depth)
    simpa [renderMembers, memberTokens] using hname.append hparts

end

theorem spells_print {v : Json} (h : Printable v) : Spells v v.print.toList := by
  rw [print, String.toList_ofList]
  exact spells_render h 0

end DependencyAudit.Json
