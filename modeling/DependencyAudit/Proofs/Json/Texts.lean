import DependencyAudit.Proofs.Json.Tokens

/-!
Reading texts. What has been read is always what the value read last and the arrays and objects
around it are written with, so that a text is read as a value exactly if it is a text of the value.
-/
namespace DependencyAudit.Json

variable {due due' : Due} {around : List Frame} {ts rest tail : List Token} {t m : Token}
  {v w : Json} {items done : List Json} {members : List Member} {key : Name} {text : List Char}

/-- The tokens of items each of which a comma follows. -/
def commaItems (items : List Json) : List Token := items.flatMap fun v => tokenList v ++ [.comma]

def memberStart (key : Name) : List Token := [.string key, .colon]

/-- The tokens of members each of which a comma follows. -/
def commaMembers (members : List Member) : List Token :=
  members.flatMap fun m => memberStart m.1 ++ tokenList m.2 ++ [.comma]

/-- The tokens of the arrays and objects begun, up to the value being read. -/
def frameTokens : List Frame → List Token
  | [] => []
  | .array done :: around => frameTokens around ++ .openBracket :: commaItems done.reverse
  | .object done key :: around =>
    frameTokens around ++ .openBrace :: (commaMembers done.reverse ++ memberStart key)

/-- The tokens that have been read when something is due. -/
inductive Due.After : Due → List Token → Prop
  | value (around : List Frame) : After (.value around) (frameTokens around)
  | itemOrEnd (around : List Frame) :
    After (.itemOrEnd around) (frameTokens around ++ [.openBracket])
  | afterItem (around : List Frame) (done : List Json) (v : Json) :
    After (.afterItem around (v :: done)) (frameTokens (.array done :: around) ++ tokenList v)
  | nameOrEnd (around : List Frame) : After (.nameOrEnd around) (frameTokens around ++ [.openBrace])
  | name (around : List Frame) (done : List Member) :
    After (.name around done)
      (frameTokens around ++ .openBrace :: commaMembers done.reverse)
  | colon (around : List Frame) (done : List Member) (key : Name) :
    After (.colon around done key)
      (frameTokens around ++ .openBrace :: (commaMembers done.reverse ++ [.string key]))
  | afterMember (around : List Frame) (done : List Member) (key : Name) (v : Json) :
    After (.afterMember around ((key, v) :: done))
      (frameTokens (.object done key :: around) ++ tokenList v)
  | nothing (v : Json) : After (.nothing v) (tokenList v)

theorem itemTokens_append (v w : Json) (items : List Json) :
    tokenList v ++ itemTokens (items ++ [w]) = commaItems (v :: items) ++ tokenList w := by
  induction items generalizing v with
  | nil => simp [itemTokens, commaItems]
  | cons x items ih =>
    rw [List.cons_append, itemTokens, ih x]
    simp [commaItems]

theorem tokenList_array (items : List Json) (v : Json) : tokenList (.array (items ++ [v])) =
    .openBracket :: (commaItems items ++ tokenList v ++ [.closeBracket]) := by
  cases items with
  | nil => simp [tokenList, itemTokens, commaItems]
  | cons w items => rw [List.cons_append, tokenList, itemTokens_append]

theorem memberTokens_append (v w : Json) (members : List Member) (key : Name) :
    tokenList v ++ memberTokens (members ++ [(key, w)]) =
      tokenList v ++ .comma :: (commaMembers members ++ memberStart key ++ tokenList w) := by
  induction members generalizing v with
  | nil => simp [memberTokens, commaMembers, memberStart]
  | cons m members ih =>
    obtain ⟨name, x⟩ := m
    rw [List.cons_append, memberTokens, ih x]
    simp [commaMembers, memberStart]

theorem tokenList_object (members : List Member) (key : Name) (v : Json) :
    tokenList (.object (members ++ [(key, v)])) =
      .openBrace :: (commaMembers members ++ memberStart key ++ tokenList v ++ [.closeBrace]) := by
  cases members with
  | nil => simp [tokenList, memberTokens, commaMembers, memberStart]
  | cons m members =>
    obtain ⟨name, x⟩ := m
    rw [List.cons_append, tokenList, memberTokens_append]
    simp [commaMembers, memberStart]

namespace Due

/-- After a complete value. -/
theorem after_after (around : List Frame) (v : Json) :
    (after around v).After (frameTokens around ++ tokenList v) := by
  cases around with
  | nil => exact .nothing v
  | cons frame around =>
    cases frame with
    | array done => exact .afterItem around done v
    | object done key => exact .afterMember around done key v

theorem after_array (around : List Frame) (done : List Json) (v : Json) :
    (after around (.array (v :: done).reverse)).After
      (frameTokens (.array done :: around) ++ tokenList v ++ [.closeBracket]) := by
  have h := after_after around (.array (done.reverse ++ [v]))
  rw [tokenList_array] at h
  simpa [frameTokens] using h

theorem after_object (around : List Frame) (done : List Member) (key : Name) (v : Json) :
    (after around (.object ((key, v) :: done).reverse)).After
      (frameTokens (.object done key :: around) ++ tokenList v ++ [.closeBrace]) := by
  have h := after_after around (.object (done.reverse ++ [(key, v)]))
  rw [tokenList_object] at h
  simpa [frameTokens] using h

theorem after_begin (h : begin around t = .ok due) : due.After (frameTokens around ++ [t]) := by
  cases t with
  | closeBracket | closeBrace | comma | colon => cases h
  | openBracket =>
    cases h
    exact .itemOrEnd around
  | openBrace =>
    cases h
    exact .nameOrEnd around
  | null =>
    cases h
    exact after_after around .null
  | bool b =>
    cases h
    exact after_after around (.bool b)
  | number spelling =>
    cases h
    exact after_after around (.number spelling)
  | string content =>
    cases h
    exact after_after around (.string content)

theorem After.step (h : due.After ts) (hs : due.step t = .ok due') : due'.After (ts ++ [t]) := by
  cases h with
  | value around => exact after_begin hs
  | itemOrEnd around =>
    rw [List.append_assoc]
    by_cases ht : t = .closeBracket
    · subst ht
      cases hs
      exact after_after around (.array [])
    · have hbegin : begin (.array [] :: around) t = .ok due' := by
        cases t <;> first | exact hs | exact absurd rfl ht
      simpa [frameTokens, commaItems] using after_begin hbegin
  | afterItem around done v =>
    cases t with
    | comma =>
      cases hs
      have h := After.value (.array (v :: done) :: around)
      simpa [frameTokens, commaItems] using h
    | closeBracket =>
      cases hs
      exact after_array around done v
    | _ => cases hs
  | nameOrEnd around =>
    rw [List.append_assoc]
    cases t with
    | closeBrace =>
      cases hs
      exact after_after around (.object [])
    | string key =>
      cases hs
      exact .colon around [] key
    | _ => cases hs
  | name around done =>
    cases t with
    | string key =>
      cases hs
      have h := After.colon around done key
      simpa using h
    | _ => cases hs
  | colon around done key =>
    cases t with
    | colon =>
      cases hs
      have h := After.value (.object done key :: around)
      simpa [frameTokens, memberStart] using h
    | _ => cases hs
  | afterMember around done key v =>
    cases t with
    | comma =>
      cases hs
      have h := After.name around ((key, v) :: done)
      simpa [frameTokens, commaMembers] using h
    | closeBrace =>
      cases hs
      exact after_object around done key v
    | _ => cases hs
  | nothing v => cases hs

theorem After.steps (h : due.After ts) (hs : due.steps rest = .ok due') :
    due'.After (ts ++ rest) := by
  induction rest generalizing due ts with
  | nil =>
    cases hs
    rwa [List.append_nil]
  | cons t rest ih =>
    rw [Due.steps] at hs
    cases hstep : due.step t with
    | error document => simp [hstep] at hs
    | ok next =>
      rw [List.append_cons]
      exact ih (h.step hstep) (by simpa [hstep] using hs)

theorem steps_cons (h : due.step t = .ok due') : due.steps (t :: ts) = due'.steps ts := by
  rw [steps, h]

/-- The first item is read as any other one. -/
theorem steps_itemOrEnd (around : List Frame) (v : Json) (rest : List Token) :
    (itemOrEnd around).steps (tokenList v ++ rest) =
      (value (.array [] :: around)).steps (tokenList v ++ rest) := by
  match v with
  | .null | .bool _ | .number _ | .string _ | .array [] | .array (_ :: _) | .object []
  | .object ((_, _) :: _) => rfl

mutual

theorem steps_value (v : Json) (around : List Frame) (rest : List Token) :
    (value around).steps (tokenList v ++ rest) = (after around v).steps rest := by
  match v with
  | .null | .bool _ | .number _ | .string _ | .array [] | .object [] => rfl
  | .array (item :: items) =>
    have hopen : (value around).step .openBracket = .ok (itemOrEnd around) := rfl
    have hitem := steps_value item (.array [] :: around)
      (itemTokens items ++ .closeBracket :: rest)
    have hitems := steps_items items around [item] rest
    simp only [tokenList, List.cons_append, List.append_assoc, List.nil_append] at *
    rw [steps_cons hopen, steps_itemOrEnd, hitem]
    exact hitems
  | .object ((key, w) :: members) =>
    have hopen : (value around).step .openBrace = .ok (nameOrEnd around) := rfl
    have hname : (nameOrEnd around).step (.string key) = .ok (colon around [] key) := rfl
    have hcolon : (colon around [] key).step .colon = .ok (value (.object [] key :: around)) := rfl
    have hvalue := steps_value w (.object [] key :: around)
      (memberTokens members ++ .closeBrace :: rest)
    have hmembers := steps_members members around [(key, w)] rest
    simp only [tokenList, List.cons_append, List.append_assoc, List.nil_append] at *
    rw [steps_cons hopen, steps_cons hname, steps_cons hcolon, hvalue]
    exact hmembers

theorem steps_items (items : List Json) (around : List Frame) (done : List Json)
    (rest : List Token) :
    (afterItem around done).steps (itemTokens items ++ .closeBracket :: rest) =
      (after around (.array (done.reverse ++ items))).steps rest := by
  match items with
  | [] =>
    rw [itemTokens, List.append_nil]
    rfl
  | item :: items =>
    have hcomma : (afterItem around done).step .comma = .ok (value (.array done :: around)) := rfl
    have hitem := steps_value item (.array done :: around)
      (itemTokens items ++ .closeBracket :: rest)
    have hitems := steps_items items around (item :: done) rest
    simp only [itemTokens, List.cons_append, List.append_assoc, List.reverse_cons,
      List.nil_append] at *
    rw [steps_cons hcomma, hitem]
    exact hitems

theorem steps_members (members : List Member) (around : List Frame) (done : List Member)
    (rest : List Token) :
    (afterMember around done).steps (memberTokens members ++ .closeBrace :: rest) =
      (after around (.object (done.reverse ++ members))).steps rest := by
  match members with
  | [] =>
    rw [memberTokens, List.append_nil]
    rfl
  | (key, w) :: members =>
    have hcomma : (afterMember around done).step .comma = .ok (name around done) := rfl
    have hname : (name around done).step (.string key) = .ok (colon around done key) := rfl
    have hcolon : (colon around done key).step .colon =
      .ok (value (.object done key :: around)) := rfl
    have hvalue := steps_value w (.object done key :: around)
      (memberTokens members ++ .closeBrace :: rest)
    have hmembers := steps_members members around ((key, w) :: done) rest
    simp only [memberTokens, List.cons_append, List.append_assoc, List.reverse_cons,
      List.nil_append] at *
    rw [steps_cons hcomma, steps_cons hname, steps_cons hcolon, hvalue]
    exact hmembers

end

theorem tear_token_ne_whole (due : Due) (t : Token) (v : Json) :
    due.tear (.token t) ≠ .whole v := by
  intro h
  cases due <;> cases h

theorem begin_ne_whole (around : List Frame) (t : Token) (v : Json) :
    begin around t ≠ .error (.whole v) := by
  intro h
  cases t <;> cases h

theorem step_ne_whole (due : Due) (t : Token) (v : Json) : due.step t ≠ .error (.whole v) := by
  intro h
  unfold step at h
  split at h
  · exact begin_ne_whole _ _ v h
  · cases h
  · exact begin_ne_whole _ _ v h
  all_goals try cases h
  exact tear_token_ne_whole _ _ v (Except.error.inj h)

theorem steps_ne_whole (due : Due) (ts : List Token) (v : Json) :
    due.steps ts ≠ .error (.whole v) := by
  induction ts generalizing due with
  | nil =>
    intro h
    cases h
  | cons t ts ih =>
    intro h
    rw [steps] at h
    cases hs : due.step t with
    | ok next => exact ih next (by simpa [hs] using h)
    | error document =>
      simp only [hs, Except.error.injEq] at h
      subst h
      exact step_ne_whole due t v hs

theorem eq_nothing_of_tear (h : due.tear (.ending .complete) = .whole v) : due = .nothing v := by
  cases due <;> cases h
  rfl

end Due

/-- The tokens of a value, and no others, are read as the value. -/
theorem ofTokens_complete_iff :
    Document.ofTokens ts .complete = .whole v ↔ ts = tokenList v := by
  constructor
  · intro h
    unfold Document.ofTokens at h
    cases hs : (Due.value []).steps ts with
    | error document =>
      simp only [hs] at h
      subst h
      exact absurd hs (Due.steps_ne_whole _ ts v)
    | ok due =>
      have hafter := (Due.After.value []).steps hs
      simp only [hs] at h
      obtain rfl := Due.eq_nothing_of_tear h
      cases hafter
      rfl
  · rintro rfl
    have hsteps := Due.steps_value v [] []
    rw [List.append_nil] at hsteps
    rw [Document.ofTokens, hsteps]
    rfl

theorem eq_complete_of_ofTokens {e : Ending} (h : Document.ofTokens ts e = .whole v) :
    e = .complete := by
  unfold Document.ofTokens at h
  cases hs : (Due.value []).steps ts with
  | error document =>
    simp only [hs] at h
    subst h
    exact absurd hs (Due.steps_ne_whole _ ts v)
  | ok due => cases due <;> cases e <;> simp_all [Due.tear]

theorem chain_mark (hm : m.isMark = true) : (m :: ts).IsChain Separate ↔ ts.IsChain Separate := by
  rw [List.isChain_cons]
  refine ⟨And.right, fun h => ⟨fun _ _ => Or.inl hm, h⟩⟩

theorem chain_before_mark (hm : m.isMark = true) (t : Token) :
    (t :: m :: ts).IsChain Separate ↔ ts.IsChain Separate := by
  rw [List.isChain_cons_cons, chain_mark hm]
  refine ⟨And.right, fun h => ⟨Or.inr hm, h⟩⟩

mutual

/-- In the tokens of a value there is a mark between any two others. -/
theorem chain_value (v : Json) (m : Token) (tail : List Token) (hm : m.isMark = true)
    (h : tail.IsChain Separate) : (tokenList v ++ m :: tail).IsChain Separate := by
  match v with
  | .null | .bool _ | .number _ | .string _ => exact (chain_before_mark hm _).2 h
  | .array [] | .object [] =>
    exact (chain_mark rfl).2 ((chain_mark rfl).2 ((chain_mark hm).2 h))
  | .array (item :: items) =>
    obtain ⟨a, rest, heq, ha, hrest⟩ :=
      chain_items items .closeBracket (m :: tail) rfl ((chain_mark hm).2 h)
    have hitem := chain_value item a rest ha hrest
    rw [← heq] at hitem
    simpa [tokenList] using (chain_mark rfl).2 hitem
  | .object ((key, w) :: members) =>
    obtain ⟨a, rest, heq, ha, hrest⟩ :=
      chain_members members .closeBrace (m :: tail) rfl ((chain_mark hm).2 h)
    have hvalue := chain_value w a rest ha hrest
    rw [← heq] at hvalue
    simpa [tokenList] using (chain_mark rfl).2 ((chain_before_mark rfl (.string key)).2 hvalue)

/-- What comes after an item starts with a mark. -/
theorem chain_items (items : List Json) (m : Token) (tail : List Token) (hm : m.isMark = true)
    (h : tail.IsChain Separate) : ∃ a rest, itemTokens items ++ m :: tail = a :: rest ∧
      a.isMark = true ∧ rest.IsChain Separate := by
  match items with
  | [] => exact ⟨m, tail, rfl, hm, h⟩
  | item :: items =>
    obtain ⟨a, rest, heq, ha, hrest⟩ := chain_items items m tail hm h
    refine ⟨.comma, tokenList item ++ a :: rest, ?_, rfl, chain_value item a rest ha hrest⟩
    rw [← heq]
    simp [itemTokens]

theorem chain_members (members : List Member) (m : Token) (tail : List Token)
    (hm : m.isMark = true) (h : tail.IsChain Separate) :
    ∃ a rest, memberTokens members ++ m :: tail = a :: rest ∧ a.isMark = true ∧
      rest.IsChain Separate := by
  match members with
  | [] => exact ⟨m, tail, rfl, hm, h⟩
  | (key, w) :: members =>
    obtain ⟨a, rest, heq, ha, hrest⟩ := chain_members members m tail hm h
    refine ⟨.comma, .string key :: .colon :: (tokenList w ++ a :: rest), ?_, rfl, ?_⟩
    · rw [← heq]
      simp [memberTokens]
    · exact (chain_before_mark rfl (.string key)).2 (chain_value w a rest ha hrest)

end

theorem chain_tokenList (v : Json) : (tokenList v).IsChain Separate :=
  (chain_value v .comma [] rfl List.isChain_nil).left_of_append

/-- A text is read as a value exactly if it is a text of the value. -/
theorem ofText_eq_whole_iff : Document.ofText text = .whole v ↔ Spells v text := by
  constructor
  · intro h
    cases ht : tokens text with
    | mk ts e =>
      have hts : Document.ofTokens ts e = .whole v := by simpa [Document.ofText, ht] using h
      obtain rfl := eq_complete_of_ofTokens hts
      obtain rfl := ofTokens_complete_iff.1 hts
      exact laid_of_tokens ht
  · intro h
    have ht := tokens_of_laid h (chain_tokenList v)
    simp only [Document.ofText, ht]
    exact ofTokens_complete_iff.2 rfl

/-- A text is a text of one value only. -/
theorem Spells.unique (hv : Spells v text) (hw : Spells w text) : v = w := by
  have h := (ofText_eq_whole_iff.2 hv).symm.trans (ofText_eq_whole_iff.2 hw)
  exact Document.whole.inj h

theorem ofText?_eq_some_iff {text : String} : ofText? text = some v ↔ Spells v text.toList := by
  rw [← ofText_eq_whole_iff, ofText?]
  cases Document.ofText text.toList <;> simp

end DependencyAudit.Json
