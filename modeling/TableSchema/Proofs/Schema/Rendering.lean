import TableSchema.Proofs.Rule.Arguments
import TableSchema.Proofs.Schema.Lexing

namespace TableSchema

open Schema

/-! Arguments -/

-- Arguments as they stand between parentheses.
def argumentsText (arguments : List Argument) : String :=
  String.intercalate ", " (arguments.map Argument.render)

def Argument.terminal : Argument → Terminal
  | .text value => ⟨.text, value⟩
  | .column name => ⟨.column, name⟩
  | .bare word => ⟨.word, word⟩

-- An argument that can be written.
def Argument.IsWritable (argument : Argument) : Prop :=
  argument.terminal.IsWritable

theorem isWritable_of_isWord {word : String} (h : IsWord word) : (Argument.bare word).IsWritable :=
  ⟨fun _ => h, nofun, nofun⟩

theorem isArgument_terminal (argument : Argument) :
    Grammar.IsArgument argument.terminal argument := by
  cases argument <;> constructor

theorem eq_terminal_of_isArgument {terminal : Terminal} {argument : Argument}
    (h : Grammar.IsArgument terminal argument) : terminal = argument.terminal := by
  cases h <;> rfl

theorem reads_argument {argument : Argument} (h : argument.IsWritable) :
    Reads argument.render.toList [argument.terminal] := by
  cases argument with
  | text value =>
      have htext : (Argument.text value).render.toList = '"' :: (escape value.toList ++ ['"']) := by
        simp [Argument.render, escape]
      rw [htext]
      exact reads_text (h.text rfl)
  | column name =>
      have htext : (Argument.column name).render.toList = '$' :: name.toList := by
        simp [Argument.render]
      rw [htext]
      exact reads_column (h.column rfl)
  | bare word => exact reads_word (h.word rfl)

theorem reads_arguments {arguments : List Argument} (hne : arguments ≠ [])
    (h : ∀ argument ∈ arguments, argument.IsWritable) :
    ∃ inner, Reads (argumentsText arguments).toList inner ∧
      Grammar.IsArguments inner arguments := by
  induction arguments with
  | nil => exact absurd rfl hne
  | cons first arguments ih =>
      obtain ⟨hfirst, hothers⟩ := List.forall_mem_cons.mp h
      have hreads := reads_argument hfirst
      cases arguments with
      | nil => exact ⟨_, by simpa [argumentsText] using hreads, .last (isArgument_terminal first)⟩
      | cons next arguments =>
          obtain ⟨inner, hrest, hinner⟩ := ih (List.cons_ne_nil _ _) hothers
          have htext : (argumentsText (first :: next :: arguments)).toList =
              first.render.toList ++ ',' :: ([] ++ ' ' :: (argumentsText (next :: arguments)).toList) := by
            simp [argumentsText, String.intercalate_cons_cons]
          rw [htext]
          exact ⟨_, hreads.join isSign_comma (Reads.nil.join isSign_space hrest),
            .more (isArgument_terminal first) hinner⟩

/-! Rules -/

theorem isWritable_of_isArguments {inner : List Terminal} {arguments : List Argument}
    (h : Grammar.IsArguments inner arguments) (hinner : ∀ terminal ∈ inner, terminal.IsWritable) :
    ∀ argument ∈ arguments, argument.IsWritable := by
  induction h with
  | last h =>
      simpa [Argument.IsWritable, eq_terminal_of_isArgument h] using hinner
  | more h _ ih =>
      obtain ⟨hfirst, hothers⟩ := List.forall_mem_cons.mp hinner
      obtain ⟨-, hothers⟩ := List.forall_mem_cons.mp hothers
      rw [eq_terminal_of_isArgument h] at hfirst
      exact List.forall_mem_cons.mpr ⟨hfirst, ih hothers⟩

theorem isWritable_of_isCall {call : List Terminal} {name : Rule.Name} {arguments : List Argument}
    (h : Grammar.IsCall call name arguments) (hcall : ∀ terminal ∈ call, terminal.IsWritable) :
    ∀ argument ∈ arguments, argument.IsWritable := by
  cases h with
  | plain => nofun
  | empty => nofun
  | applied _ _ _ hinner =>
      refine isWritable_of_isArguments hinner fun terminal hm => hcall terminal ?_
      simp [hm]

theorem isWord_text (name : Rule.Name) : IsWord name.text := by
  cases name with
  | compare test => cases test <;> decide
  | _ => decide

-- A rule that is no alternative is written as a call of its name.
theorem render_of_arguments_nil {rule : Rule} (hsingle : ∀ left right, rule ≠ .or left right)
    (h : rule.arguments = []) : rule.render = rule.name := by
  cases rule with
  | or left right => exact absurd rfl (hsingle left right)
  | _ => simp only [Rule.render, h]

theorem render_of_arguments_cons {rule : Rule} {first : Argument} {others : List Argument}
    (hsingle : ∀ left right, rule ≠ .or left right) (h : rule.arguments = first :: others) :
    rule.render = rule.name ++ "(" ++ argumentsText (first :: others) ++ ")" := by
  cases rule with
  | or left right => exact absurd rfl (hsingle left right)
  | _ => simp only [Rule.render, h, argumentsText]

theorem reads_call {name : Rule.Name} {given : List Argument} {rule : Rule}
    (h : Rule.IsWritten name given rule) (hgiven : ∀ argument ∈ given, argument.IsWritable) :
    ∃ call, Reads rule.render.toList call ∧ Grammar.IsCall call name rule.arguments := by
  have hname := reads_word (isWord_text name)
  have harguments : ∀ argument ∈ rule.arguments, argument.IsWritable := by
    intro argument hm
    rcases h.arguments_mem argument hm with hm | ⟨word, rfl, hword⟩
    · exact hgiven argument hm
    · exact isWritable_of_isWord hword
  have hsingle := Rule.ne_or_of_build h.rebuilt
  cases ha : rule.arguments with
  | nil =>
      rw [render_of_arguments_nil hsingle ha, h.name_eq]
      exact ⟨_, hname, .plain name⟩
  | cons first others =>
      rw [render_of_arguments_cons hsingle ha, h.name_eq]
      rw [ha] at harguments
      obtain ⟨inner, hinner, hall⟩ := reads_arguments (List.cons_ne_nil _ _) harguments
      have htext : (name.text ++ "(" ++ argumentsText (first :: others) ++ ")").toList =
          name.text.toList ++ '(' :: ((argumentsText (first :: others)).toList ++ ')' :: []) := by
        simp
      rw [htext]
      exact ⟨_, hname.join isSign_opening (hinner.join isSign_closing .nil), .applied name _ _ hall⟩

theorem reads_rule {given : List Terminal} {rule : Rule} (h : Grammar.IsRule given rule)
    (hgiven : ∀ terminal ∈ given, terminal.IsWritable)
    (hbounds : ∀ bound ∈ rule.rangeBounds, bound.IsWritable) :
    ∃ call, Reads rule.render.toList call ∧ Grammar.IsRule call rule := by
  obtain ⟨hcall, hbuild⟩ := h
  have hwritten := Rule.isWritten_of_build hbuild hbounds
  obtain ⟨call, hreads, hcall⟩ := reads_call hwritten (isWritable_of_isCall hcall hgiven)
  exact ⟨call, hreads, .intro hcall hwritten.rebuilt⟩

theorem reads_expression {given : List Terminal} {rule : Rule} (h : Grammar.IsExpression given rule)
    (hgiven : ∀ terminal ∈ given, terminal.IsWritable)
    (hbounds : ∀ bound ∈ rule.rangeBounds, bound.IsWritable) :
    ∃ expression, Reads rule.render.toList expression ∧ Grammar.IsExpression expression rule := by
  induction h with
  | rule h =>
      obtain ⟨call, hreads, hrule⟩ := reads_rule h hgiven hbounds
      exact ⟨call, hreads, .rule hrule⟩
  | @or left right first second hleft hright ih =>
      simp only [Rule.rangeBounds, List.mem_append] at hbounds
      simp only [List.mem_append, List.mem_cons] at hgiven
      obtain ⟨front, hfront, hfirst⟩ := ih (fun terminal hm => hgiven terminal (.inl hm))
        fun bound hm => hbounds bound (.inl hm)
      obtain ⟨back, hback, hsecond⟩ := reads_rule hright
        (fun terminal hm => hgiven terminal (.inr (.inr hm))) fun bound hm => hbounds bound (.inr hm)
      have htext : (Rule.or first second).render.toList =
          first.render.toList ++ ' ' :: ("or".toList ++ ' ' :: second.render.toList) := by
        simp [Rule.render]
      have hor : Reads "or".toList [⟨.word, "or"⟩] := reads_word (by decide)
      rw [htext]
      exact ⟨_, hfront.join isSign_space (hor.join isSign_space hback), .or hfirst hsecond⟩

end TableSchema
