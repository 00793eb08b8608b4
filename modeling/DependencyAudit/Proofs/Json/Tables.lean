import DependencyAudit.Proofs.Json.Grammar

/-!
Tables of the lexer. What it knows about digits, escapes and halves of characters is what the grammar
says, so that the units of a string have the characters which it makes of them.
-/
namespace DependencyAudit.Json

open Text

variable {u : StringUnit} {us : List StringUnit} {cs ds : List Char} {c d e : Char} {n : Nat}

theorem escaped?_eq_some_iff : escaped? c = some e ↔ (c, e) ∈ escapes := by
  constructor
  · intro h
    unfold escaped? at h
    split at h <;> cases h <;> decide
  · intro h
    simp only [escapes, List.mem_cons, Prod.mk.injEq, List.not_mem_nil, or_false] at h
    obtain ⟨rfl, rfl⟩ | ⟨rfl, rfl⟩ | ⟨rfl, rfl⟩ | ⟨rfl, rfl⟩ | ⟨rfl, rfl⟩ | ⟨rfl, rfl⟩ | ⟨rfl, rfl⟩ |
      ⟨rfl, rfl⟩ := h <;> rfl

/-- The lexer's ranges lie below 0x80, where they can be compared with the grammar's tables. -/
theorem eq_of_ascii {α : Type} {f g : Char → α}
    (hascii : ∀ n < 0x80, f (Char.ofNat n) = g (Char.ofNat n))
    (hbeyond : ∀ c : Char, 0x80 ≤ c.toNat → f c = g c) : f = g := by
  funext c
  by_cases hc : c.toNat < 0x80
  · have h := hascii c.toNat hc
    rwa [Char.ofNat_toNat] at h
  · exact hbeyond c (Nat.not_lt.1 hc)

theorem not_le_of_ascii (hc : 0x80 ≤ c.toNat) (hd : d.toNat < 0x80) : ¬ c ≤ d := by
  intro hle
  have h : c.toNat ≤ d.toNat := UInt32.le_iff_toNat_le.1 hle
  omega

theorem isDigit_eq : isDigit = digit := by
  refine eq_of_ascii (by decide +kernel) fun c hc => ?_
  have hnot : ¬ c ≤ '9' := not_le_of_ascii hc (by decide)
  have hdigits : digits.all (·.toNat < 0x80) = true := by decide
  have hmem : c ∉ digits := fun h =>
    Nat.not_lt.2 hc (of_decide_eq_true (List.all_eq_true.1 hdigits c h))
  simp [isDigit, digit, hnot, hmem]

theorem hexValue?_eq : hexValue? = hexDigit? := by
  refine eq_of_ascii (by decide +kernel) fun c hc => ?_
  have hdigits : ∀ p ∈ hexDigits, p.1.toNat < 0x80 := by decide
  have hnone : hexDigit? c = none := by
    rw [hexDigit?, List.lookup_eq_none_iff]
    intro p hp
    rw [bne_iff_ne]
    rintro rfl
    exact Nat.not_lt.2 hc (hdigits p hp)
  have hnot : ∀ d : Char, d.toNat < 0x80 → ¬ c ≤ d := fun d => not_le_of_ascii hc
  simp [hnone, hexValue?, isDigit, hnot '9' (by decide), hnot 'f' (by decide), hnot 'F' (by decide)]

theorem toNat_ofNat_of_valid (h : n < 0xD800 ∨ 0xDFFF < n ∧ n < 0x110000) : (Char.ofNat n).toNat = n := by
  rw [Char.ofNat, dif_pos h]
  rfl

theorem isLead_iff : isLead n = true ↔ 0xD800 ≤ n ∧ n < 0xDC00 := by
  simp [isLead]

theorem isTrail_iff : isTrail n = true ↔ 0xDC00 ≤ n ∧ n < 0xE000 := by
  simp [isTrail]

theorem halves_iff {lead trail : Nat} : Halves lead trail c ↔
    isLead lead = true ∧ isTrail trail = true ∧ c = paired lead trail := by
  rw [isLead_iff, isTrail_iff]
  constructor
  · rintro ⟨high, low, hhigh, hlow, rfl, rfl, hc⟩
    have hnumber : 0x10000 + (0xD800 + high - 0xD800) * 0x400 + (0xDC00 + low - 0xDC00) =
        c.toNat := by omega
    refine ⟨by omega, by omega, ?_⟩
    rw [paired, hnumber, Char.ofNat_toNat]
  · rintro ⟨hlead, htrail, hc⟩
    refine ⟨lead - 0xD800, trail - 0xDC00, by omega, by omega, by omega, by omega, ?_⟩
    rw [hc, paired, toNat_ofNat_of_valid (Or.inr (by omega))]

/-- The character that a unit is without its neighbours. -/
def StringUnit.alone? : StringUnit → Option Char
  | .char c => some c
  | .bits n => if isLead n || isTrail n then none else some (Char.ofNat n)

/-- The character that two units make together. -/
def StringUnit.pair? : StringUnit → StringUnit → Option Char
  | .bits n, .bits m => if isLead n && isTrail m then some (paired n m) else none
  | _, _ => none

/-- The characters of a string, unless half of a character stands in it without the other half. -/
def characters? : List StringUnit → Option (List Char)
  | [] => some []
  | [u] => u.alone?.map ([·])
  | u :: w :: us =>
    match u.pair? w with
    | some c => (characters? us).map (c :: ·)
    | none => u.alone?.bind fun c => (characters? (w :: us)).map (c :: ·)

@[simp]
theorem characters?_char (c : Char) (vs : List StringUnit) :
    characters? (.char c :: vs) = (characters? vs).map (c :: ·) := by
  cases vs <;> rfl

theorem characters?_bits {n : Nat} (hl : isLead n = false) (ht : isTrail n = false)
    (vs : List StringUnit) :
    characters? (.bits n :: vs) = (characters? vs).map (Char.ofNat n :: ·) := by
  cases vs with
  | nil => simp [characters?, StringUnit.alone?, hl, ht]
  | cons w vs => cases w <;> simp [characters?, StringUnit.pair?, StringUnit.alone?, hl, ht]

/-- A second half without the first one. -/
theorem characters?_trail {n : Nat} (hl : isLead n = false) (ht : isTrail n = true)
    (vs : List StringUnit) : characters? (.bits n :: vs) = none := by
  cases vs with
  | nil => simp [characters?, StringUnit.alone?, ht]
  | cons w vs => cases w <;> simp [characters?, StringUnit.pair?, StringUnit.alone?, hl, ht]

/-- A first half without the second one. -/
theorem characters?_lead {n : Nat} {vs : List StringUnit} (hl : isLead n = true)
    (h : ∀ m ws, vs = .bits m :: ws → isTrail m = false) : characters? (.bits n :: vs) = none := by
  cases vs with
  | nil => simp [characters?, StringUnit.alone?, hl]
  | cons w vs =>
    cases w with
    | char c => simp [characters?, StringUnit.pair?, StringUnit.alone?, hl]
    | bits m => simp [characters?, StringUnit.pair?, StringUnit.alone?, hl, h m vs rfl]

theorem characters?_pair {n m : Nat} (hl : isLead n = true) (ht : isTrail m = true)
    (vs : List StringUnit) :
    characters? (.bits n :: .bits m :: vs) = (characters? vs).map (paired n m :: ·) := by
  simp [characters?, StringUnit.pair?, hl, ht]

/-- No character has the number of a half. -/
theorem not_half (c : Char) : isLead c.toNat = false ∧ isTrail c.toNat = false := by
  have hvalid := c.valid
  rw [← Bool.not_eq_true, ← Bool.not_eq_true, isLead_iff, isTrail_iff]
  change c.toNat < 0xD800 ∨ 0xDFFF < c.toNat ∧ c.toNat < 0x110000 at hvalid
  omega

theorem Stands.characters?_eq (h : Stands us cs) : characters? us = some cs := by
  induction h with
  | nil => rfl
  | char c _ ih => rw [characters?_char, ih, Option.map_some]
  | @bits c n us cs hn _ ih =>
    subst hn
    rw [characters?_bits (not_half c).1 (not_half c).2, ih, Option.map_some, Char.ofNat_toNat]
  | halves hc _ ih =>
    obtain ⟨hlead, htrail, hpaired⟩ := halves_iff.1 hc
    rw [characters?_pair hlead htrail, ih, Option.map_some, ← hpaired]

/-- Units of no more than sixteen bits. -/
def Narrow (us : List StringUnit) : Prop := ∀ n, .bits n ∈ us → n < 0x10000

theorem Narrow.tail (h : Narrow (u :: us)) : Narrow us := fun n hn => h n (List.mem_cons_of_mem u hn)

theorem Narrow.stands {us : List StringUnit} {cs : List Char} (hw : Narrow us)
    (h : characters? us = some cs) : Stands us cs := by
  match us with
  | [] =>
    obtain rfl := Option.some.inj h
    exact .nil
  | .char c :: us =>
    rw [characters?_char] at h
    obtain ⟨ds, hds, rfl⟩ := Option.map_eq_some_iff.1 h
    exact .char c (Narrow.stands hw.tail hds)
  | .bits n :: us =>
    cases hl : isLead n with
    | true =>
      match us with
      | .bits m :: us =>
        cases ht : isTrail m with
        | true =>
          rw [characters?_pair hl ht] at h
          obtain ⟨ds, hds, rfl⟩ := Option.map_eq_some_iff.1 h
          exact .halves (halves_iff.2 ⟨hl, ht, rfl⟩) (Narrow.stands hw.tail.tail hds)
        | false =>
          rw [characters?_lead hl (by rintro _ _ ⟨⟩; exact ht)] at h
          cases h
      | [] | .char c :: us =>
        rw [characters?_lead hl (by rintro _ _ ⟨⟩)] at h
        cases h
    | false =>
      cases ht : isTrail n with
      | true =>
        rw [characters?_trail hl ht] at h
        cases h
      | false =>
        rw [characters?_bits hl ht] at h
        obtain ⟨ds, hds, rfl⟩ := Option.map_eq_some_iff.1 h
        refine .bits ?_ (Narrow.stands hw.tail hds)
        have hn := hw n List.mem_cons_self
        rw [← Bool.not_eq_true, isLead_iff] at hl
        rw [← Bool.not_eq_true, isTrail_iff] at ht
        apply toNat_ofNat_of_valid
        omega

theorem hexNumber?_snoc (ds : List Char) (d : Char) : hexNumber? (ds ++ [d]) =
    (hexNumber? ds).bind fun n => (hexValue? d).map (n * 16 + ·) := by
  rw [hexNumber?, List.foldlM_append, hexValue?_eq]
  simp [hexNumber?]

theorem hexDigit?_lt (h : hexDigit? d = some n) : n < 16 := by
  have hvalues : ∀ p ∈ hexDigits, p.2 < 16 := by decide
  obtain ⟨before, after, hsplit, _⟩ := List.lookup_eq_some_iff.1 h
  refine hvalues (d, n) ?_
  rw [hsplit]
  exact List.mem_append_right _ List.mem_cons_self

/-- Four hexadecimal digits and their number. -/
theorem exists_hexDigits (hlength : ds.length = 4) (h : hexNumber? ds = some n) :
    ∃ a b c d x y z w, ds = [a, b, c, d] ∧ n = ((x * 16 + y) * 16 + z) * 16 + w ∧
      hexDigit? a = some x ∧ hexDigit? b = some y ∧ hexDigit? c = some z ∧ hexDigit? d = some w := by
  match ds, hlength with
  | [a, b, c, d], _ =>
    simp only [hexNumber?, List.foldlM_cons, List.foldlM_nil, Option.bind_eq_bind,
      Option.bind_eq_some_iff, Option.map_eq_some_iff, Option.pure_def, Option.some.injEq] at h
    obtain ⟨_, ⟨x, hx, rfl⟩, _, ⟨y, hy, rfl⟩, _, ⟨z, hz, rfl⟩, _, ⟨w, hw, rfl⟩, rfl⟩ := h
    exact ⟨a, b, c, d, x, y, z, w, rfl, by rw [Nat.zero_mul, Nat.zero_add], hx, hy, hz, hw⟩

theorem Spelling.narrow (h : Spelling us cs) : Narrow us := by
  induction h with
  | nil =>
    intro n hn
    cases hn
  | cons hu _ ih =>
    intro n hn
    obtain rfl | hn := List.mem_cons.1 hn
    · cases hu with
      | hex hlength hnumber =>
        obtain ⟨a, b, c, d, x, y, z, w, _, rfl, ha, hb, hc, hd⟩ :=
          exists_hexDigits hlength hnumber
        have hx := hexDigit?_lt ha
        have hy := hexDigit?_lt hb
        have hz := hexDigit?_lt hc
        have hw := hexDigit?_lt hd
        omega
    · exact ih n hn

/-- The units of a spelling stand for the characters that they are read as, and for no others. -/
theorem Spelling.stands_iff (h : Spelling us cs) : Stands us ds ↔ characters? us = some ds :=
  ⟨Stands.characters?_eq, h.narrow.stands⟩

theorem Spelling.characters?_eq_none (h : Spelling us cs)
    (hnone : ∀ content, ¬ Stands us content) : characters? us = none := by
  refine Option.eq_none_iff_forall_ne_some.2 fun content hcontent => ?_
  exact hnone content (h.stands_iff.2 hcontent)

/-- A string that is spelled by units is a token of the characters that these are read as. -/
theorem Spelling.spelled (h : Spelling us cs) :
    (Token.string ((characters? us).map String.ofList)).Spelled ('"' :: (cs ++ ['"'])) := by
  cases hcontent : characters? us with
  | some content => exact .string h (h.stands_iff.2 hcontent)
  | none =>
    refine .torn h fun content hstands => ?_
    rw [h.stands_iff, hcontent] at hstands
    cases hstands

end DependencyAudit.Json
