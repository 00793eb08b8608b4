import DependencyAudit.Proofs.Text.Pattern
import DependencyAudit.Proofs.ImportLine.Grammar

/-!
The pattern of import declarations. It may stop in the middle of a run of blanks or words, and of
the attributes, and try again; but only one of its ways through a line reaches the module.
-/
namespace DependencyAudit.ImportLine

open Text

def attributePattern : Pattern :=
  .alt (.seq (.text "@_spi(".toList) (.seq (.someRun isWord) (.text ")".toList)))
    (.alt (.text "@_exported".toList) (.text "@testable".toList))

def spacedPattern : Pattern := .seq attributePattern (.someRun isBlank)

/-- What stands before the word `import`. -/
def openingPattern : Pattern :=
  .seq .start (.seq (.run isBlank) (.seq (.many spacedPattern) (.run isBlank)))

def kindPattern : Pattern :=
  .seq (.oneOf ["typealias".toList, "struct".toList, "class".toList, "enum".toList,
    "protocol".toList, "let".toList, "var".toList, "func".toList]) (.someRun isBlank)

def wordPattern : Pattern := .group (.someRun isWord)

/-- What stands after the word `import` and its blanks; the group captures the module. -/
def namePattern : Pattern := .seq (.optional kindPattern) wordPattern

def importPattern : Pattern :=
  .seq openingPattern (.seq (.text "import".toList) (.seq (.someRun isBlank) namePattern))

variable {whole cs lead blanks rest w tail : List Char} {s r : Reading}

theorem head?_append_of_attribute (h : Attribute lead) (rest : List Char) :
    (lead ++ rest).head? = some '@' := by
  cases h <;> rfl

theorem takes_attributePattern : attributePattern.Takes Attribute := by
  have hinterface := (Pattern.takes_text "@_spi(".toList).seq
    ((Pattern.takes_someRun isWord).seq (Pattern.takes_text ")".toList))
  have hplain := (Pattern.takes_text "@_exported".toList).alt (Pattern.takes_text "@testable".toList)
  refine (hinterface.alt hplain).congr fun read => ?_
  constructor
  · rintro (⟨_, _, rfl, rfl, name, _, rfl, ⟨hne, hrun⟩, rfl⟩ | rfl | rfl)
    · rw [← List.append_assoc]
      exact .interface hne hrun
    · exact .exported
    · exact .testable
  · intro h
    cases h with
    | exported => exact .inr (.inl rfl)
    | testable => exact .inr (.inr rfl)
    | @interface name hne hrun =>
      exact .inl ⟨_, _, List.append_assoc _ _ _, rfl, name, _, rfl, ⟨hne, hrun⟩, rfl⟩

theorem takes_spacedPattern : spacedPattern.Takes fun read =>
    ∃ lead blanks, read = lead ++ blanks ∧ Attribute lead ∧ blanks ≠ [] ∧ Run isBlank blanks :=
  takes_attributePattern.seq (Pattern.takes_someRun isBlank)

theorem kindPattern_eq : kindPattern = .seq (.oneOf kinds) (.someRun isBlank) := rfl

theorem takes_kindPattern : kindPattern.Takes fun read =>
    ∃ kind blanks, read = kind ++ blanks ∧ kind ∈ kinds ∧ blanks ≠ [] ∧ Run isBlank blanks :=
  (Pattern.takes_oneOf kinds).seq (Pattern.takes_someRun isBlank)

/-- What remains of a line once blanks and spaced attributes are taken off its start. -/
def stripped (cs : List Char) : List Char := afterAttributes (cs.dropWhile isBlank)

theorem stripped_blanks (h : Run isBlank blanks) : stripped (blanks ++ rest) = stripped rest := by
  rw [stripped, List.dropWhile_append_of_pos h, stripped]

theorem stripped_spaced (ha : Attribute lead) (hne : blanks ≠ []) (h : Run isBlank blanks) :
    stripped (lead ++ blanks ++ rest) = stripped rest := by
  rw [List.append_assoc]
  have hstops : Stops isBlank (lead ++ (blanks ++ rest)) := by
    intro c hc
    rw [head?_append_of_attribute ha] at hc
    obtain rfl := Option.some.inj hc
    decide
  have hspaced : Spaced (lead ++ (blanks ++ rest)) (rest.dropWhile isBlank) := by
    refine ⟨lead, blanks ++ rest.takeWhile isBlank, ?_, ha, ?_, ?_, stops_dropWhile isBlank rest⟩
    · simp
    · simp [hne]
    · exact List.forall_mem_append.2 ⟨h, run_takeWhile isBlank rest⟩
  rw [stripped, dropWhile_of_stops hstops,
    afterAttributes_of_some (afterSpacedAttribute?_eq_some_iff.2 hspaced), stripped]

theorem stripped_keyword (rest : List Char) : stripped (keyword ++ rest) = keyword ++ rest := by
  have hstops : Stops isBlank (keyword ++ rest) := by
    rintro _ ⟨⟩
    decide
  rw [stripped, dropWhile_of_stops hstops]
  refine afterAttributes_of_none (Option.eq_none_iff_forall_ne_some.2 fun rest' h => ?_)
  obtain ⟨lead, blanks, heq, ha, _⟩ := afterSpacedAttribute?_eq_some_iff.1 h
  have hhead : some 'i' = some '@' := by
    rw [← head?_append_of_attribute ha (blanks ++ rest'), ← List.append_assoc, ← heq]
    rfl
  exact absurd hhead (by decide)

/-- The reading has taken off nothing but blanks and spaced attributes. -/
def Opens (whole : List Char) (r : Reading) : Prop :=
  stripped r.rest = stripped whole ∧ r.captured = none

theorem Opens.takes {p : Pattern} {L : List Char → Prop} (h : Opens whole s) (hp : p.Takes L)
    (hL : ∀ {read rest}, L read → stripped (read ++ rest) = stripped rest)
    (hr : r ∈ p.readings cs s) : Opens whole r := by
  obtain ⟨read, rest, hread, hs, rfl⟩ := (hp _ _ _).1 hr
  refine ⟨?_, h.2⟩
  rw [← h.1, hs, hL hread]
  rfl

theorem Opens.run (h : Opens whole s) (hr : r ∈ (Pattern.run isBlank).readings cs s) :
    Opens whole r :=
  h.takes (Pattern.takes_run isBlank) stripped_blanks hr

theorem Opens.spaced (h : Opens whole s) (hr : r ∈ spacedPattern.readings cs s) :
    Opens whole r := by
  refine h.takes takes_spacedPattern ?_ hr
  rintro _ rest ⟨lead, blanks, rfl, ha, hne, hrun⟩
  exact stripped_spaced ha hne hrun

theorem Opens.many (h : Opens whole s) (hr : r ∈ (Pattern.many spacedPattern).readings cs s) :
    Opens whole r :=
  Pattern.repeats_induction (fun _ ht _ hr => ht.spaced hr) h hr

theorem opens_of_mem_readings (h : r ∈ openingPattern.readings whole ⟨whole, none⟩) :
    Opens whole r := by
  simp only [openingPattern, Pattern.mem_readings_seq] at h
  obtain ⟨a, ha, b, hb, c, hc, hr⟩ := h
  obtain rfl : a = ⟨whole, none⟩ := by simpa [Pattern.readings] using ha
  have hopens : Opens whole ⟨whole, none⟩ := ⟨rfl, rfl⟩
  exact ((hopens.run hb).many hc).run hr

/-- All spaced attributes at the start can be read, one after the other. -/
theorem mem_repeats_afterAttributes {n : Nat} (h : cs.length ≤ n) :
    Reading.mk (afterAttributes cs) none ∈
      Pattern.repeats (spacedPattern.readings whole) n ⟨cs, none⟩ := by
  induction cs using afterAttributes.induct generalizing n with
  | case1 cs rest hsome ih =>
    have hlt := length_afterSpacedAttribute? hsome
    obtain ⟨lead, blanks, rfl, ha, hne, hrun, _⟩ := afterSpacedAttribute?_eq_some_iff.1 hsome
    have hmem : Reading.mk rest none ∈
        spacedPattern.readings whole ⟨lead ++ blanks ++ rest, none⟩ :=
      (takes_spacedPattern _ _ _).2 ⟨_, rest, ⟨lead, blanks, rfl, ha, hne, hrun⟩, rfl, rfl⟩
    cases n with
    | zero => omega
    | succ n =>
      rw [afterAttributes_of_some hsome]
      exact Pattern.mem_repeats_of_mem hmem hlt (ih (by omega))
  | case2 cs hnone =>
    rw [afterAttributes_of_none hnone]
    exact Pattern.mem_repeats_self _ n _

theorem mem_readings_openingPattern (whole : List Char) :
    Reading.mk (stripped whole) none ∈ openingPattern.readings whole ⟨whole, none⟩ := by
  have hblanks : Reading.mk (whole.dropWhile isBlank) none ∈
      (Pattern.run isBlank).readings whole ⟨whole, none⟩ :=
    (Pattern.takes_run isBlank _ _ _).2 ⟨whole.takeWhile isBlank, whole.dropWhile isBlank,
      run_takeWhile isBlank whole, List.takeWhile_append_dropWhile.symm, rfl⟩
  have hlast : Reading.mk (stripped whole) none ∈
      (Pattern.run isBlank).readings whole ⟨stripped whole, none⟩ :=
    (Pattern.takes_run isBlank _ _ _).2 ⟨[], _, run_nil, rfl, rfl⟩
  simp only [openingPattern, Pattern.mem_readings_seq]
  refine ⟨⟨whole, none⟩, by simp [Pattern.readings], _, hblanks, _, ?_, hlast⟩
  exact mem_repeats_afterAttributes le_rfl

/-- Only what starts with the word `import` is read on, and that stands behind all attributes. -/
theorem head?_readings_importPattern (whole : List Char) :
    (importPattern.readings whole ⟨whole, none⟩).head? =
      ((Pattern.seq (.text keyword) (.seq (.someRun isBlank) namePattern)).readings whole
        ⟨stripped whole, none⟩).head? := by
  refine Pattern.head?_flatMap_of_unique (mem_readings_openingPattern whole) ?_
  rintro ⟨cs, captured⟩ hr hne
  obtain ⟨hstripped, rfl : captured = none⟩ := opens_of_mem_readings hr
  obtain ⟨t, ht⟩ := List.exists_mem_of_ne_nil _ hne
  obtain ⟨_, hlead, _⟩ := Pattern.mem_readings_seq.1 ht
  obtain ⟨_, rest, rfl, rfl : cs = keyword ++ rest, rfl⟩ :=
    (Pattern.takes_text keyword _ _ _).1 hlead
  rw [← hstripped, stripped_keyword]

theorem run_of_mem_kinds (hkind : w ∈ kinds) : w ≠ [] ∧ Run isWord w := by
  have hall : ∀ kind ∈ kinds, kind ≠ [] ∧ kind.all isWord = true := by decide
  obtain ⟨hne, hword⟩ := hall w hkind
  exact ⟨hne, List.all_eq_true.1 hword⟩

theorem afterRun?_isBlank (cs : List Char) : Pattern.afterRun? isBlank cs = afterBlanks? cs := by
  cases cs <;> rfl

theorem afterRun?_isWord (cs : List Char) :
    Pattern.afterRun? isWord cs = (word? cs).map Prod.snd := by
  cases cs with
  | nil => rfl
  | cons c cs => by_cases hc : isWord c = true <;> simp [Pattern.afterRun?, word?, hc]

/-- A kind with blanks after it is the whole word at the start. -/
theorem word?_kind (hkind : w ∈ kinds) (hne : blanks ≠ []) (h : Run isBlank blanks) :
    word? (w ++ (blanks ++ rest)) = some (w, blanks ++ rest) := by
  obtain ⟨hw, hword⟩ := run_of_mem_kinds hkind
  exact word?_eq_some_iff.2 ⟨rfl, hw, hword, stops_isWord_append hne h⟩

theorem head?_readings_wordPattern (s : Reading) : (wordPattern.readings whole s).head? =
    (word? s.rest).map fun read => ⟨read.2, some read.1⟩ := by
  rw [wordPattern, Pattern.readings, List.head?_map, Pattern.head?_readings_someRun,
    afterRun?_isWord]
  cases hw : word? s.rest with
  | none => rfl
  | some read =>
    have hread : s.upTo (s.at read.2) = read.1 :=
      Reading.upTo_of_append (word?_eq_some_iff.1 hw).1
    simp only [Option.map_some, hread]
    rfl

theorem refuses_wordPattern : Pattern.Refuses isBlank (wordPattern.readings whole) := by
  intro s r hr
  obtain ⟨t, ht, _⟩ := List.mem_map.1 hr
  obtain ⟨read, rest, ⟨hne, hrun⟩, hs, _⟩ := (Pattern.takes_someRun isWord _ _ _).1 ht
  rw [hs]
  exact stops_isBlank_append hne hrun

theorem refuses_namePattern : Pattern.Refuses isBlank (namePattern.readings whole) := by
  intro s r hname
  obtain ⟨t, ht, hr⟩ := Pattern.mem_readings_seq.1 hname
  rw [Pattern.readings_optional, List.mem_append, List.mem_singleton] at ht
  obtain ht | rfl := ht
  · obtain ⟨_, rest, ⟨kind, blanks, rfl, hkind, _⟩, hs, _⟩ := (takes_kindPattern _ _ _).1 ht
    obtain ⟨hne, hrun⟩ := run_of_mem_kinds hkind
    rw [hs, List.append_assoc]
    exact stops_isBlank_append hne hrun
  · exact refuses_wordPattern t r hr

/-- Of the kinds, only the whole word at the start can be read on. -/
theorem head?_kind_word (hw : word? s.rest = some (w, tail)) (hkind : w ∈ kinds) :
    ((kindPattern.readings whole s).flatMap (wordPattern.readings whole)).head? =
      ((afterBlanks? tail).bind word?).map fun read => ⟨read.2, some read.1⟩ := by
  have hmem : s.at tail ∈ (Pattern.oneOf kinds).readings whole s :=
    (Pattern.takes_oneOf kinds _ _ _).2 ⟨w, tail, hkind, (word?_eq_some_iff.1 hw).1, rfl⟩
  have honly : ∀ t ∈ (Pattern.oneOf kinds).readings whole s,
      ((Pattern.someRun isBlank).readings whole t).flatMap (wordPattern.readings whole) ≠ [] →
        t = s.at tail := by
    intro t ht hne
    obtain ⟨kind, mid, hkind', h, rfl⟩ := (Pattern.takes_oneOf kinds _ _ _).1 ht
    obtain ⟨r, hr⟩ := List.exists_mem_of_ne_nil _ hne
    obtain ⟨u, hu, _⟩ := List.mem_flatMap.1 hr
    obtain ⟨blanks, rest, ⟨hblanks, hrun⟩, hmid, _⟩ := (Pattern.takes_someRun isBlank _ _ _).1 hu
    obtain rfl : mid = blanks ++ rest := hmid
    rw [h, word?_kind hkind' hblanks hrun] at hw
    cases hw
    rfl
  rw [kindPattern_eq, Pattern.readings, List.flatMap_assoc,
    Pattern.head?_flatMap_of_unique hmem honly, Pattern.flatMap_someRun refuses_wordPattern,
    afterRun?_isBlank]
  change (((afterBlanks? tail).toList).flatMap _).head? = _
  cases afterBlanks? tail with
  | none => rfl
  | some mid => simp [head?_readings_wordPattern, Reading.at]

/-- Without a kind at the start nothing is read for one. -/
theorem readings_kindPattern_eq_nil (h : ∀ w tail, word? s.rest = some (w, tail) → w ∉ kinds) :
    kindPattern.readings whole s = [] := by
  refine List.eq_nil_iff_forall_not_mem.2 fun r hr => ?_
  obtain ⟨_, rest, ⟨kind, blanks, rfl, hkind, hne, hrun⟩, hs, _⟩ :=
    (takes_kindPattern _ _ _).1 hr
  refine h kind (blanks ++ rest) ?_ hkind
  rw [hs, List.append_assoc]
  exact word?_kind hkind hne hrun

theorem captured_namePattern (s : Reading) :
    (namePattern.readings whole s).head?.bind (·.captured) =
      (word? s.rest).map fun read => chosen read.1 read.2 := by
  rw [namePattern, Pattern.readings, Pattern.readings_optional, List.flatMap_append,
    List.flatMap_singleton, List.head?_append, head?_readings_wordPattern]
  cases hw : word? s.rest with
  | none =>
    rw [readings_kindPattern_eq_nil (by simp [hw])]
    rfl
  | some read =>
    by_cases hkind : read.1 ∈ kinds
    · rw [head?_kind_word hw hkind]
      simp only [Option.map_some, chosen_of_mem hkind]
      cases (afterBlanks? read.2).bind word? <;> rfl
    · have hnone : kindPattern.readings whole s = [] := by
        refine readings_kindPattern_eq_nil fun w tail h => ?_
        rw [hw] at h
        cases h
        exact hkind
      rw [hnone]
      simp [chosen_of_not_mem hkind]

/-- What the pattern captures is what the reader finds. -/
theorem capture?_importPattern (line : List Char) :
    importPattern.capture? line = moduleOf? line := by
  have hanchored : importPattern.Anchored := (Pattern.anchored_start.seq _).seq _
  rw [Pattern.capture?, Pattern.match?_of_anchored hanchored, head?_readings_importPattern,
    moduleOf?_eq, Pattern.readings, Pattern.readings]
  change ((Option.map _ (afterLead? keyword (stripped line))).toList.flatMap _).head?.bind _ = _
  rw [stripped]
  cases afterLead? keyword (afterAttributes (line.dropWhile isBlank)) with
  | none => rfl
  | some mid =>
    rw [Option.map_some, Option.toList_some, List.flatMap_singleton, Pattern.readings,
      Pattern.flatMap_someRun refuses_namePattern, afterRun?_isBlank]
    change ((afterBlanks? mid).toList.flatMap _).head?.bind _ = ((afterBlanks? mid).bind _).map _
    cases afterBlanks? mid with
    | none => rfl
    | some cs =>
      rw [Option.toList_some, List.flatMap_singleton, captured_namePattern]
      rfl

/-- A kind is one only with blanks and a word after it. -/
example : importPattern.capture? " @_spi(A)  @testable import struct X.y".toList = some ['X'] := by
  decide +kernel

example : importPattern.capture? "import struct.X".toList = some "struct".toList := by
  decide +kernel

theorem map_toList_module? (line : String) :
    (module? line).map String.toList = moduleOf? line.toList := by
  rw [module?, Option.map_map]
  cases moduleOf? line.toList <;> simp

/-- One text remains of a line. The line has a module if the word `import` and a word start that
text, and it is the module that the text declares. The pattern captures the same. -/
theorem module?_grammar (line : String) :
    importPattern.capture? line.toList = (module? line).map String.toList ∧
      ∃ rest, (∀ other, Remains line.toList other ↔ other = rest) ∧
        ((module? line).isSome = true ↔ ∃ w tail, Imports rest w tail) ∧
        ∀ m, module? line = some m ↔ Declares rest m.toList := by
  have hremains : Remains line.toList (stripped line.toList) := remains_iff.2 rfl
  refine ⟨?_, stripped line.toList, fun other => remains_iff, ?_, ?_⟩
  · rw [capture?_importPattern, map_toList_module?]
  · rw [← Option.isSome_map (f := String.toList), map_toList_module?, moduleOf?_eq,
      Option.isSome_map, Option.isSome_iff_exists]
    constructor
    · rintro ⟨⟨w, tail⟩, hread⟩
      exact ⟨w, tail, imports_iff.2 hread⟩
    · rintro ⟨w, tail, himports⟩
      exact ⟨(w, tail), imports_iff.1 himports⟩
  · intro m
    rw [← moduleOf?_eq_some_iff hremains, ← map_toList_module?]
    refine ⟨fun h => by rw [h, Option.map_some], fun h => ?_⟩
    obtain ⟨m', hm', heq⟩ := Option.map_eq_some_iff.1 h
    rw [hm', String.toList_injective heq]

end DependencyAudit.ImportLine
