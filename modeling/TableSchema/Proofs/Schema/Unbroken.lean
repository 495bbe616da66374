import TableSchema.Proofs.Schema.RoundTrip

namespace TableSchema

open Schema

/-! Texts on one line -/

namespace Text

-- A text in which no line ends.
def Unbroken (text : String) : Prop :=
  ∀ c ∈ text.toList, isLineBreak c = false

instance (text : String) : Decidable (Unbroken text) :=
  decidable_of_iff (text.toList.any isLineBreak = false) (by simp [Unbroken])

theorem Unbroken.newline_notMem {text : String} (h : Unbroken text) : '\n' ∉ text.toList :=
  fun hm => absurd (h '\n' hm) (by decide)

theorem Unbroken.append {front behind : String} (hfront : Unbroken front)
    (hbehind : Unbroken behind) : Unbroken (front ++ behind) := by
  rw [Unbroken, String.toList_append]
  exact List.forall_mem_append.mpr ⟨hfront, hbehind⟩

theorem unbroken_intercalate {separator : String} {pieces : List String}
    (hseparator : Unbroken separator) (h : ∀ piece ∈ pieces, Unbroken piece) :
    Unbroken (String.intercalate separator pieces) := by
  induction pieces with
  | nil => exact nofun
  | cons piece pieces ih =>
      obtain ⟨hpiece, hothers⟩ := List.forall_mem_cons.mp h
      cases pieces with
      | nil => simpa using hpiece
      | cons next pieces =>
          rw [String.intercalate_cons_cons]
          exact (hpiece.append hseparator).append (ih hothers)

end Text

open Text

theorem unbroken_of_isWord {word : String} (h : IsWord word) : Unbroken word :=
  fun c hc => isLineBreak_of_isWordChar (h.2 c hc)

theorem unbroken_toString (n : Nat) : Unbroken (toString n) :=
  unbroken_of_isWord (Rule.isWord_toString n)

/-! Rules -/

theorem unbroken_signText (negative : Bool) : Unbroken (Number.Decimal.signText negative) := by
  cases negative <;> decide

-- The text of a number that is none has no other letters than those of a word.
theorem unbroken_renderDecimal (d : Number.Decimal) : Unbroken d.render := by
  cases hnan : d.isNan with
  | false =>
      intro c hc
      have hspelling := Number.Decimal.isSpelling_of_mem_render hnan c hc
      by_cases hplus : c = '+'
      · rw [hplus]
        decide
      · exact isLineBreak_of_isWordChar (hspelling.isWordChar hplus)
  | true =>
      cases d with
      | finite => cases hnan
      | infinite => cases hnan
      | nan negative signaling payload =>
          have hword : Unbroken (if signaling then "sNaN" else "NaN") := by
            cases signaling <;> decide
          have hpayload : Unbroken (if payload = 0 then "" else toString payload) := by
            split
            · decide
            · exact unbroken_toString payload
          exact ((unbroken_signText negative).append hword).append hpayload

theorem unbroken_boundText {α : Type} {text : α → String} (h : ∀ value, Unbroken (text value))
    (bound : Option α) : Unbroken (boundText text bound) := by
  cases bound with
  | none =>
      rw [boundText]
      decide
  | some value => exact h value

theorem unbroken_argument {argument : Argument} (h : argument.IsWritable) :
    Unbroken argument.render :=
  (reads_argument h).unbroken

namespace Rule

theorem unbroken_name (rule : Rule) : Unbroken rule.name := by
  cases rule with
  | compare test =>
      rw [name]
      cases test <;> decide
  | _ =>
      rw [name]
      decide

-- The arguments of a rule that can be built are given ones, or texts of its bounds.
theorem unbroken_arguments_of_build {name : Name} {given : List Argument} {rule : Rule}
    (h : build name given = .ok rule) (hgiven : ∀ argument ∈ given, argument.IsWritable) :
    (∀ left right, rule ≠ .or left right) ∧ ∀ argument ∈ rule.arguments, Unbroken argument.render := by
  have hall : ∀ argument ∈ given, Unbroken argument.render := fun argument hm =>
    unbroken_argument (hgiven argument hm)
  cases name with
  | regex =>
      obtain ⟨pattern, rfl, rfl, -⟩ := buildRegex_eq_ok h
      exact ⟨by simp, hall⟩
  | compare test =>
      obtain ⟨operand, hoperand, rfl⟩ := map_eq_ok_iff.mp h
      obtain rfl := eq_of_operandOf hoperand
      exact ⟨by simp, hall⟩
  | length =>
      obtain ⟨bounds, rfl, -⟩ := exists_isWritable_of_buildLength h
      refine ⟨by simp, ?_⟩
      cases bounds with
      | exactly count => exact List.forall_mem_singleton.mpr (unbroken_toString count)
      | between least most =>
          exact List.forall_mem_cons.mpr ⟨unbroken_boundText unbroken_toString least,
            List.forall_mem_singleton.mpr (unbroken_boundText unbroken_toString most)⟩
  | range =>
      obtain ⟨low, high, rfl, -⟩ := exists_isWritable_of_buildRange h
      exact ⟨by simp, List.forall_mem_cons.mpr ⟨unbroken_boundText unbroken_renderDecimal low,
        List.forall_mem_singleton.mpr (unbroken_boundText unbroken_renderDecimal high)⟩⟩
  | fileExists =>
      simp only [build] at h
      split at h
      · obtain rfl := Except.ok.inj h
        exact ⟨by simp, List.forall_mem_nil _⟩
      · obtain ⟨operand, hoperand, rfl⟩ := map_eq_ok_iff.mp h
        obtain rfl := eq_of_operandOf hoperand
        exact ⟨by simp, hall⟩
  | _ =>
      obtain rfl := eq_of_plain h
      exact ⟨by simp, List.forall_mem_nil _⟩

theorem unbroken_render_of_build {name : Name} {given : List Argument} {rule : Rule}
    (h : build name given = .ok rule) (hgiven : ∀ argument ∈ given, argument.IsWritable) :
    Unbroken rule.render := by
  obtain ⟨hsingle, harguments⟩ := unbroken_arguments_of_build h hgiven
  cases ha : rule.arguments with
  | nil =>
      rw [render_of_arguments_nil hsingle ha]
      exact unbroken_name rule
  | cons first others =>
      have htexts : Unbroken (argumentsText (first :: others)) := by
        refine unbroken_intercalate (by decide) fun text htext => ?_
        obtain ⟨argument, hm, rfl⟩ := List.mem_map.mp htext
        exact harguments argument (ha ▸ hm)
      have hopening : Unbroken "(" := by decide
      have hclosing : Unbroken ")" := by decide
      rw [render_of_arguments_cons hsingle ha]
      exact (((unbroken_name rule).append hopening).append htexts).append hclosing

end Rule

namespace Schema

open Grammar

theorem unbroken_of_isRule {call : List Terminal} {rule : Rule} (h : IsRule call rule)
    (hcall : ∀ terminal ∈ call, terminal.IsWritable) : Unbroken rule.render := by
  obtain ⟨hname, hbuild⟩ := h
  exact Rule.unbroken_render_of_build hbuild (isWritable_of_isCall hname hcall)

theorem unbroken_of_isExpression {given : List Terminal} {rule : Rule} (h : IsExpression given rule)
    (hgiven : ∀ terminal ∈ given, terminal.IsWritable) : Unbroken rule.render := by
  induction h with
  | rule h => exact unbroken_of_isRule h hgiven
  | or _ hright ih =>
      obtain ⟨hfirst, hothers⟩ := List.forall_mem_append.mp hgiven
      obtain ⟨-, hsecond⟩ := List.forall_mem_cons.mp hothers
      have hor : Unbroken " or " := by decide
      exact ((ih hfirst).append hor).append (unbroken_of_isRule hright hsecond)

theorem unbroken_of_isExpressions {given : List Terminal} {rules : List Rule}
    (h : IsExpressions given rules) (hgiven : ∀ terminal ∈ given, terminal.IsWritable) :
    ∀ rule ∈ rules, Unbroken rule.render := by
  induction h with
  | nil => nofun
  | cons hfirst _ ih =>
      obtain ⟨hgiven, hothers⟩ := List.forall_mem_append.mp hgiven
      exact List.forall_mem_cons.mpr ⟨unbroken_of_isExpression hfirst hgiven, ih hothers⟩

-- A line of a schema ends where its text does, so nothing that is read from a line
-- breaks one.
theorem unbroken_of_parse {text : String} {schema : Schema} (h : (parse text).result = .ok schema) :
    ∀ column ∈ schema.columns, Unbroken column.name ∧ ∀ rule ∈ column.rules, Unbroken rule.render := by
  intro column hcolumn
  obtain ⟨_, _, hlines, hcolumns, -, -⟩ := (denotes_of_parse h).exists_lines
  obtain ⟨line, hline, hgiven⟩ := exists_mem_of_forall₂ hcolumns hcolumn
  have hwritable : ∀ terminal ∈ line, terminal.IsWritable := by
    have hmem : line ∈ terminals text := by
      rw [hlines]
      exact List.mem_cons_of_mem _ hline
    exact isWritable_of_mem_terminals hmem
  cases hgiven with
  | intro hrules _ _ =>
      obtain ⟨hname, hbehind⟩ := List.forall_mem_cons.mp hwritable
      obtain ⟨-, hbehind⟩ := List.forall_mem_cons.mp hbehind
      obtain ⟨hgiven, -⟩ := List.forall_mem_append.mp hbehind
      exact ⟨unbroken_of_isWord (hname.word rfl), unbroken_of_isExpressions hrules hgiven⟩

end Schema

end TableSchema
