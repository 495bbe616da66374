import TableSchema.Proofs.Rule.Unanswered
import TableSchema.Proofs.Schema.RoundTrip

namespace TableSchema

theorem Rule.hasOrderedBounds_of_build {name : Name} {arguments : List Argument} {rule : Rule}
    (h : build name arguments = .ok rule) : rule.HasOrderedBounds := by
  cases name with
  | regex =>
      obtain ⟨pattern, rfl, -, -⟩ := buildRegex_eq_ok h
      trivial
  | compare test =>
      obtain ⟨operand, -, rfl⟩ := map_eq_ok_iff.mp h
      trivial
  | length =>
      obtain ⟨bounds, rfl, -⟩ := exists_isWritable_of_buildLength h
      trivial
  | range =>
      obtain ⟨low, high, rfl, hwritable⟩ := exists_isWritable_of_buildRange h
      intro a ha b hb
      obtain ⟨order, hcompare, -⟩ := hwritable.ordered a ha b hb
      exact ⟨order, hcompare⟩
  | fileExists =>
      simp only [build] at h
      split at h
      · obtain rfl := Except.ok.inj h
        trivial
      · obtain ⟨operand, -, rfl⟩ := map_eq_ok_iff.mp h
        trivial
  | _ =>
      obtain rfl := eq_of_plain h
      trivial

namespace Schema

open Grammar

section Rules

-- What holds of the rules that can be built, and of alternatives between rules
-- of which it holds.
variable {good : Rule → Prop}
  (hbuild : ∀ name arguments rule, Rule.build name arguments = .ok rule → good rule)
  (hor : ∀ left right, good left → good right → good (.or left right))

include hbuild hor

theorem good_of_isExpression {terminals : List Terminal} {rule : Rule}
    (h : IsExpression terminals rule) : good rule := by
  induction h with
  | rule h =>
      obtain ⟨-, hb⟩ := h
      exact hbuild _ _ _ hb
  | or _ hright ih =>
      obtain ⟨-, hb⟩ := hright
      exact hor _ _ ih (hbuild _ _ _ hb)

theorem good_of_isExpressions {terminals : List Terminal} {rules : List Rule}
    (h : IsExpressions terminals rules) : ∀ rule ∈ rules, good rule := by
  induction h with
  | nil => nofun
  | cons hfirst _ ih => exact List.forall_mem_cons.mpr ⟨good_of_isExpression hbuild hor hfirst, ih⟩

-- It holds of every rule of a schema that was read.
theorem good_of_parse {text : String} {schema : Schema} (h : (parse text).result = .ok schema) :
    ∀ column ∈ schema.columns, ∀ rule ∈ column.rules, good rule := by
  intro column hcolumn
  obtain ⟨_, _, -, hcolumns, -, -⟩ := (denotes_of_parse h).exists_lines
  obtain ⟨_, -, hrules, -, -⟩ := exists_mem_of_forall₂ hcolumns hcolumn
  exact good_of_isExpressions hbuild hor hrules

end Rules

variable {text : String} {schema : Schema}

theorem hasOrderedBounds_of_parse (h : (parse text).result = .ok schema) :
    ∀ column ∈ schema.columns, ∀ rule ∈ column.rules, rule.HasOrderedBounds := by
  refine good_of_parse (fun _ _ _ hb => Rule.hasOrderedBounds_of_build hb) ?_ h
  intro left right hleft hright
  exact ⟨hleft, hright⟩

theorem referencesDefined_of_parse (h : (parse text).result = .ok schema) :
    ReferencesDefined schema.columns := by
  obtain ⟨_, _, -, -, -, hreferences⟩ := (denotes_of_parse h).exists_lines
  exact hreferences

end Schema

end TableSchema
