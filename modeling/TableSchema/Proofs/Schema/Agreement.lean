import TableSchema.Proofs.Schema.Faults

namespace TableSchema.Schema

open TableSchema.Text

/-! Outcomes that agree -/

-- Two parts of the parser succeed with related values, fail with diagnostics both,
-- or end in one and the same fault.
inductive Parse.Agree {α β : Type} (R : α → β → Prop) (first : Parse α) (second : Parse β) : Prop
  | ok {a : α} {b : β} (hfirst : first.result = .ok a) (hsecond : second.result = .ok b)
      (h : R a b)
  | diagnosed {fault other : ParseFault} (hfirst : first.result = .error fault)
      (hsecond : second.result = .error other) (hfault : fault.isDiagnosed = true)
      (hother : other.isDiagnosed = true)
  | fault {fault : ParseFault} (hfirst : first.result = .error fault)
      (hsecond : second.result = .error fault)

namespace Parse.Agree

variable {α β γ δ : Type} {R : α → β → Prop} {S : γ → δ → Prop}

theorem pure {a : α} {b : β} (h : R a b) : Agree R (Pure.pure a) (Pure.pure b) :=
  .ok rfl rfl h

theorem fail (cause other : Cause) (a b : Token) :
    Agree R (Parse.fail cause a) (Parse.fail other b) :=
  .diagnosed rfl rfl rfl rfl

theorem abort (reason : ParseFault) : Agree R (Parse.abort reason) (Parse.abort reason) :=
  .fault rfl rfl

theorem bind {first : Parse α} {second : Parse β} {next : α → Parse γ} {next' : β → Parse δ}
    (h : Agree R first second) (hnext : ∀ a b, R a b → Agree S (next a) (next' b)) :
    Agree S (first >>= next) (second >>= next') := by
  cases h with
  | ok hfirst hsecond h =>
      rcases hnext _ _ h with ⟨ha, hb, h⟩ | ⟨ha, hb, hf, ho⟩ | ⟨ha, hb⟩
      · exact .ok ((result_bind_of_ok hfirst _).trans ha) ((result_bind_of_ok hsecond _).trans hb) h
      · exact .diagnosed ((result_bind_of_ok hfirst _).trans ha)
          ((result_bind_of_ok hsecond _).trans hb) hf ho
      · exact .fault ((result_bind_of_ok hfirst _).trans ha) ((result_bind_of_ok hsecond _).trans hb)
  | diagnosed hfirst hsecond hf ho =>
      exact .diagnosed (result_bind_of_error hfirst _) (result_bind_of_error hsecond _) hf ho
  | fault hfirst hsecond =>
      exact .fault (result_bind_of_error hfirst _) (result_bind_of_error hsecond _)

theorem bind_eq {first second : Parse α} {next : α → Parse γ} {next' : α → Parse δ}
    (h : Agree Eq first second) (hnext : ∀ a, Agree S (next a) (next' a)) :
    Agree S (first >>= next) (second >>= next') :=
  h.bind fun a _ heq => heq ▸ hnext a

-- What is noted makes no difference.
theorem note_bind {step step' : Step} {next : Unit → Parse γ} {next' : Unit → Parse δ}
    (h : Agree S (next ()) (next' ())) :
    Agree S (note step >>= next) (note step' >>= next') :=
  bind (R := Eq) (.ok rfl rfl rfl) fun _ _ _ => h

end Parse.Agree

/-! Tokens that differ in their places -/

-- A terminal with the name of a directive in lower case.
def Terminal.folded (terminal : Terminal) : Terminal :=
  if terminal.kind = .directive then { terminal with text := directiveKey terminal.text }
  else terminal

theorem Terminal.folded_of_directive {terminal : Terminal} (h : terminal.kind = .directive) :
    terminal.folded = { terminal with text := directiveKey terminal.text } :=
  if_pos h

theorem Terminal.folded_of_ne {terminal : Terminal} (h : terminal.kind ≠ .directive) :
    terminal.folded = terminal :=
  if_neg h

theorem Terminal.kind_folded (terminal : Terminal) : terminal.folded.kind = terminal.kind := by
  rw [folded]
  split <;> rfl

-- Tokens that mean the same: their places may differ, and the letter case of a
-- directive's name.
def Token.Alike (a b : Token) : Prop :=
  a.terminal.folded = b.terminal.folded

abbrev AlikeAll : List Token → List Token → Prop :=
  List.Forall₂ Token.Alike

theorem Token.Alike.kind {a b : Token} (h : a.Alike b) : a.kind = b.kind := by
  have hkind := congrArg Terminal.kind h
  rwa [Terminal.kind_folded, Terminal.kind_folded] at hkind

theorem Token.Alike.text {a b : Token} (h : a.Alike b) (hkind : a.kind ≠ .directive) :
    a.text = b.text := by
  have hkind' : b.kind ≠ .directive := h.kind ▸ hkind
  have hterminal : a.terminal = b.terminal := by
    rwa [Token.Alike, Terminal.folded_of_ne hkind, Terminal.folded_of_ne hkind'] at h
  exact congrArg Terminal.text hterminal

theorem Token.Alike.key {a b : Token} (h : a.Alike b) :
    directiveKey a.text = directiveKey b.text := by
  by_cases hkind : a.kind = .directive
  · have hkind' : b.kind = .directive := h.kind ▸ hkind
    rw [Token.Alike, Terminal.folded_of_directive hkind, Terminal.folded_of_directive hkind'] at h
    exact congrArg Terminal.text h
  · rw [h.text hkind]

theorem Token.Alike.text_of_kind {a b : Token} {kind : TokenKind} (h : a.Alike b)
    (ha : a.kind = kind) (hkind : kind ≠ .directive) : a.text = b.text :=
  h.text (by rwa [ha])

variable {tokens tokens' : List Token}

theorem current_alike (h : AlikeAll tokens tokens') : (current tokens).Alike (current tokens') := by
  cases h with
  | nil => rfl
  | cons hfirst _ => exact hfirst

theorem drop_alike (h : AlikeAll tokens tokens') (count : Nat) :
    AlikeAll (tokens.drop count) (tokens'.drop count) :=
  List.forall₂_drop count h

/-! Rules -/

theorem argumentOf?_alike {a b : Token} (h : a.Alike b) : argumentOf? a = argumentOf? b := by
  simp only [argumentOf?, ← h.kind]
  cases hk : a.kind
  case text | column | word => simp only [h.text_of_kind hk (by decide)]
  all_goals rfl

theorem argumentsFrom_agree (h : AlikeAll tokens tokens') :
    Parse.Agree Eq (argumentsFrom tokens) (argumentsFrom tokens') := by
  fun_induction argumentsFrom tokens generalizing tokens' with
  | case1 =>
      obtain rfl := List.forall₂_nil_left_iff.mp h
      exact .fail _ _ _ _
  | case2 token after hnone =>
      obtain ⟨token', after', htoken, hafter, rfl⟩ := List.forall₂_cons_left_iff.mp h
      rw [argumentsFrom.eq_def]
      simp only [← argumentOf?_alike htoken, hnone]
      exact .fail _ _ _ _
  | case3 token argument hsome =>
      obtain ⟨token', after', htoken, hafter, rfl⟩ := List.forall₂_cons_left_iff.mp h
      obtain rfl := List.forall₂_nil_left_iff.mp hafter
      rw [argumentsFrom.eq_def]
      simp only [← argumentOf?_alike htoken, hsome]
      exact .fail _ _ _ _
  | case4 token argument hsome next rest hcomma ih =>
      obtain ⟨token', _, htoken, hafter, rfl⟩ := List.forall₂_cons_left_iff.mp h
      obtain ⟨next', rest', hnext, hrest, rfl⟩ := List.forall₂_cons_left_iff.mp hafter
      rw [argumentsFrom.eq_def (token' :: next' :: rest')]
      simp only [← argumentOf?_alike htoken, hsome, ← hnext.kind, hcomma, if_true]
      exact (ih hrest).bind_eq fun found => .pure rfl
  | case5 token argument hsome next rest hcomma hclosing =>
      obtain ⟨token', _, htoken, hafter, rfl⟩ := List.forall₂_cons_left_iff.mp h
      obtain ⟨next', rest', hnext, hrest, rfl⟩ := List.forall₂_cons_left_iff.mp hafter
      rw [argumentsFrom.eq_def]
      simp only [← argumentOf?_alike htoken, hsome, ← hnext.kind, hclosing, if_true]
      exact .pure rfl
  | case6 token argument hsome next rest hcomma hclosing =>
      obtain ⟨token', _, htoken, hafter, rfl⟩ := List.forall₂_cons_left_iff.mp h
      obtain ⟨next', rest', hnext, hrest, rfl⟩ := List.forall₂_cons_left_iff.mp hafter
      rw [argumentsFrom.eq_def]
      simp only [← argumentOf?_alike htoken, hsome, ← hnext.kind, hcomma, hclosing, if_false]
      exact .fail _ _ _ _

theorem arguments_agree (h : AlikeAll tokens tokens') :
    Parse.Agree Eq (arguments tokens) (arguments tokens') := by
  have hinner := drop_alike h 1
  simp only [arguments, ← (current_alike h).kind, ← (current_alike hinner).kind]
  split
  · split
    · exact .pure rfl
    · exact (argumentsFrom_agree hinner).bind_eq fun found => .pure rfl
  · exact .pure rfl

theorem buildRule_agree (token token' : Token) (name : Rule.Name) (arguments : List Argument) :
    Parse.Agree Eq (buildRule token name arguments) (buildRule token' name arguments) := by
  simp only [buildRule]
  split
  · exact .pure rfl
  · exact .fail _ _ _ _
  · exact .fail _ _ _ _
  · exact .abort _
  · exact .abort _

theorem ruleAt_agree {token token' : Token} (htoken : token.Alike token')
    (h : AlikeAll tokens tokens') :
    Parse.Agree Eq (ruleAt token tokens) (ruleAt token' tokens') := by
  simp only [ruleAt, ← htoken.kind]
  split
  · exact .fail _ _ _ _
  · rename_i hword
    rw [← htoken.text_of_kind (not_not.mp hword) (by decide)]
    split
    · exact .fail _ _ _ _
    · refine (arguments_agree h).bind_eq fun found => ?_
      refine (buildRule_agree token token' _ _).bind_eq fun rule => ?_
      exact .note_bind (.pure rfl)

theorem isOr_alike {a b : Token} (h : a.Alike b) : isOr a = isOr b := by
  simp only [isOr, ← h.kind]
  by_cases hword : a.kind = .word
  · rw [h.text_of_kind hword (by decide)]
  · rw [beq_eq_false_iff_ne.mpr hword, Bool.false_and, Bool.false_and]

theorem join_agree (left right : Rule) : Parse.Agree Eq (join left right) (join left right) := by
  rw [join]
  split
  · exact .abort _
  · exact .note_bind (.pure rfl)

theorem alternatives_agree (left : Rule) (h : AlikeAll tokens tokens') :
    Parse.Agree Eq (alternatives left tokens) (alternatives left tokens') := by
  fun_induction alternatives left tokens generalizing tokens' with
  | case1 =>
      obtain rfl := List.forall₂_nil_left_iff.mp h
      rw [alternatives]
      exact .pure rfl
  | case2 left token rest hor ih =>
      obtain ⟨token', rest', htoken, hrest, rfl⟩ := List.forall₂_cons_left_iff.mp h
      have hbehind := drop_alike hrest 1
      rw [alternatives, if_pos ((isOr_alike htoken).symm.trans hor)]
      refine (ruleAt_agree (current_alike hrest) hbehind).bind_eq fun found => ?_
      refine (join_agree left found.1).bind_eq fun joined => ?_
      exact (ih _ _ (drop_alike hbehind _)).bind_eq fun more => .pure rfl
  | case3 left token rest hor =>
      obtain ⟨token', rest', htoken, hrest, rfl⟩ := List.forall₂_cons_left_iff.mp h
      rw [alternatives, if_neg (fun hor' => hor ((isOr_alike htoken).trans hor'))]
      exact .pure rfl

-- The values that are read, and tokens that are left behind them.
def SameRest {α : Type} (a b : List α × List Token) : Prop :=
  a.1 = b.1 ∧ AlikeAll a.2 b.2

theorem rulesFrom_agree (h : AlikeAll tokens tokens') :
    Parse.Agree SameRest (rulesFrom tokens) (rulesFrom tokens') := by
  fun_induction rulesFrom tokens generalizing tokens' with
  | case1 =>
      obtain rfl := List.forall₂_nil_left_iff.mp h
      rw [rulesFrom]
      exact .pure ⟨rfl, .nil⟩
  | case2 token rest hword ih =>
      obtain ⟨token', rest', htoken, hrest, rfl⟩ := List.forall₂_cons_left_iff.mp h
      rw [rulesFrom, if_pos (htoken.kind ▸ hword)]
      refine (ruleAt_agree htoken hrest).bind_eq fun first => ?_
      have hbehind := drop_alike hrest first.2
      refine (alternatives_agree first.1 hbehind).bind_eq fun found => ?_
      refine (ih _ _ (drop_alike hbehind found.2)).bind fun others others' hothers => ?_
      exact .pure ⟨congrArg (found.1 :: ·) hothers.1, hothers.2⟩
  | case3 token rest hword =>
      obtain ⟨token', rest', htoken, hrest, rfl⟩ := List.forall₂_cons_left_iff.mp h
      rw [rulesFrom, if_neg (htoken.kind ▸ hword)]
      exact .pure ⟨rfl, h⟩

/-! Lines -/

theorem directiveKey_append (front name : String) :
    directiveKey (front ++ name) = directiveKey front ++ directiveKey name := by
  simp [directiveKey, String.ofList_append]

theorem directiveOf?_alike {a b : Token} (h : a.Alike b) :
    directiveOf? a.text = directiveOf? b.text := by
  simp only [directiveOf?, directiveKey_append, h.key]

theorem directivesFrom_agree (seen : List Directive) (h : AlikeAll tokens tokens') :
    Parse.Agree SameRest (directivesFrom seen tokens) (directivesFrom seen tokens') := by
  induction h generalizing seen with
  | nil => exact .pure ⟨rfl, .nil⟩
  | @cons token token' rest rest' htoken hrest ih =>
      simp only [directivesFrom, ← htoken.kind, ← directiveOf?_alike htoken]
      split
      · split
        · exact .fail _ _ _ _
        · rename_i directive _
          split
          · exact .fail _ _ _ _
          · refine .note_bind ((ih _).bind fun others others' hothers => ?_)
            exact .pure ⟨congrArg (directive :: ·) hothers.1, hothers.2⟩
      · exact .pure ⟨rfl, .cons htoken hrest⟩

theorem columnOf_agree (h : AlikeAll tokens tokens') :
    Parse.Agree Eq (columnOf tokens) (columnOf tokens') := by
  have hname := current_alike h
  simp only [columnOf, ← hname.kind, ← (current_alike (drop_alike h 1)).kind]
  split
  · exact .fail _ _ _ _
  · rename_i hword
    rw [← hname.text_of_kind (not_not.mp hword) (by decide)]
    split
    · exact .fail _ _ _ _
    · refine .note_bind ((rulesFrom_agree (drop_alike h 2)).bind fun rules rules' hrules => ?_)
      refine (directivesFrom_agree [] hrules.2).bind fun directives directives' hdirectives => ?_
      simp only [← (current_alike hdirectives.2).kind]
      split
      · exact .fail _ _ _ _
      · exact .pure (by rw [hrules.1, hdirectives.1])

theorem optionOf?_alike {a b : Token} (h : a.Alike b) (slots : List GlobalOption) :
    optionOf? a slots = optionOf? b slots := by
  simp only [optionOf?, h.kind, h.key]

theorem globalOptions_agree (slots : List GlobalOption) (h : AlikeAll tokens tokens') :
    Parse.Agree Eq (globalOptions slots tokens) (globalOptions slots tokens') := by
  induction h generalizing slots with
  | nil => exact .pure rfl
  | @cons token token' rest rest' htoken _ ih =>
      simp only [globalOptions, ← htoken.kind, ← optionOf?_alike htoken]
      split
      · exact .pure rfl
      · split
        · exact .fail _ _ _ _
        · exact .note_bind ((ih _).bind_eq fun options => .pure rfl)

theorem totalOf_agree {token token' : Token} (h : token.Alike token') :
    Parse.Agree Eq (totalOf token) (totalOf token') := by
  by_cases hword : token.kind = .word
  · simp only [totalOf, ← h.kind, ← h.text_of_kind hword (by decide)]
    split
    · exact .fail _ _ _ _
    · split
      · exact .abort _
      · split
        · exact .fail _ _ _ _
        · exact .pure rfl
  · have hword' : token'.kind ≠ .word := h.kind ▸ hword
    simp only [totalOf, ne_eq, hword, hword', not_false_eq_true, true_or, if_true]
    exact .fail _ _ _ _

theorem isTotalColumns_alike {a b : Token} (h : a.Alike b) : isTotalColumns a = isTotalColumns b := by
  simp only [isTotalColumns, h.kind, h.key]

theorem globalsOf_agree (h : AlikeAll tokens tokens') :
    Parse.Agree Eq (globalsOf tokens) (globalsOf tokens') := by
  have hrest := drop_alike h 1
  simp only [globalsOf, ← isTotalColumns_alike (current_alike h)]
  split
  · refine (totalOf_agree (current_alike hrest)).bind_eq fun total => .note_bind ?_
    exact (globalOptions_agree _ (drop_alike hrest 1)).bind_eq fun options => .pure rfl
  · exact .fail _ _ _ _

/-! The whole text -/

-- Lines with the same tokens, up to their numbers.
def Line.Alike (a b : Line) : Prop :=
  AlikeAll a.tokens b.tokens

theorem columnsOf_agree {lines lines' : List Line} (h : List.Forall₂ Line.Alike lines lines') :
    Parse.Agree Eq (columnsOf lines) (columnsOf lines') := by
  induction h with
  | nil => exact .pure rfl
  | cons hline _ ih =>
      exact .note_bind ((columnOf_agree hline).bind_eq fun first => ih.bind_eq fun others => .pure rfl)

theorem referenceDiagnostics_eq_nil_congr {names : List String} {column : Column} {token : Token}
    (h : referenceDiagnostics names column token = []) (token' : Token) :
    referenceDiagnostics names column token' = [] := by
  simp only [referenceDiagnostics, List.map_eq_nil_iff] at h ⊢
  exact h

-- Whether the checks find something does not depend on the places that they report.
theorem diagnostics_eq_nil_congr {total : Nat} {columns : List Column} {start : Token}
    {starts starts' : List Token} (hlength : starts.length = starts'.length)
    (h : diagnostics total columns start starts = []) (start' : Token) :
    diagnostics total columns start' starts' = [] := by
  simp only [diagnostics, List.append_eq_nil_iff, List.flatMap_eq_nil_iff] at h ⊢
  obtain ⟨htotal, hreferences⟩ := h
  refine ⟨by simpa using htotal, ?_⟩
  rintro ⟨column, token'⟩ hm
  obtain ⟨index, hindex⟩ := List.mem_iff_getElem?.mp hm
  obtain ⟨hcolumn, htoken'⟩ := List.getElem?_zip_eq_some.mp hindex
  have hlt : index < starts.length := hlength ▸ (List.getElem?_eq_some_iff.mp htoken').1
  have hentry : (columns.zip starts)[index]? = some (column, starts[index]) :=
    List.getElem?_zip_eq_some.mpr ⟨hcolumn, List.getElem?_eq_getElem hlt⟩
  exact referenceDiagnostics_eq_nil_congr (hreferences _ (List.mem_of_getElem? hentry)) token'

theorem finish_agree (globals : Globals) (columns : List Column) (start start' : Token)
    {starts starts' : List Token} (h : starts.length = starts'.length) :
    Parse.Agree Eq (finish globals columns start starts) (finish globals columns start' starts') := by
  simp only [finish]
  by_cases hnil : diagnostics globals.total columns start starts = []
  · have hnil' := diagnostics_eq_nil_congr h hnil start'
    rw [if_pos (List.isEmpty_iff.mpr hnil), if_pos (List.isEmpty_iff.mpr hnil')]
    exact .note_bind (.pure rfl)
  · have hnil' : diagnostics globals.total columns start' starts' ≠ [] := fun hnil' =>
      hnil (diagnostics_eq_nil_congr h.symm hnil' start)
    rw [if_neg (mt List.isEmpty_iff.mp hnil), if_neg (mt List.isEmpty_iff.mp hnil')]
    exact .note_bind (.diagnosed rfl rfl rfl rfl)

-- Where the tokens stand makes no difference to what the lines are read as, nor
-- to whether they can be read.
theorem schemaOf_agree {lines lines' : List Line} (h : List.Forall₂ Line.Alike lines lines') :
    Parse.Agree Eq (schemaOf lines) (schemaOf lines') := by
  cases h with
  | nil => exact .fail _ _ _ _
  | @cons first first' others others' hfirst hothers =>
      refine .note_bind ((globalsOf_agree hfirst).bind_eq fun globals => ?_)
      refine (columnsOf_agree hothers).bind_eq fun columns => finish_agree _ _ _ _ ?_
      rw [List.length_map, List.length_map, hothers.length_eq]

end TableSchema.Schema
