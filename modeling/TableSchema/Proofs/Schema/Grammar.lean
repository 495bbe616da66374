import Mathlib
import TableSchema.Schema.Parser

namespace TableSchema.Schema

open TableSchema.Text

-- A token without its place. The grammar of a schema sees no more of it.
structure Terminal where
  kind : TokenKind
  text : String
  deriving DecidableEq, Repr

def Token.terminal (token : Token) : Terminal :=
  ⟨token.kind, token.text⟩

-- The lines of a text that are not blank, each with the token that ends it.
def terminals (text : String) : List (List Terminal) :=
  (linesOf text.toList).map fun line => line.tokens.map Token.terminal

-- The kinds of terminals that rules are written with.
def TokenKind.isWithinRules : TokenKind → Bool
  | .text | .column | .word | .opening | .closing | .comma => true
  | .directive | .colon | .invalid | .endOfLine => false

theorem TokenKind.ne_of_isWithinRules {kind other : TokenKind} (h : other.isWithinRules = true)
    (hkind : kind.isWithinRules = false) : other ≠ kind := by
  rintro rfl
  cases h.symm.trans hkind

namespace Grammar

/-! The first line -/

-- A word of ASCII digits, for a positive number.
structure IsTotal (terminal : Terminal) (total : Nat) : Prop where
  word : terminal.kind = .word
  written : terminal.text.toList ≠ []
  digits : ∀ c ∈ terminal.text.toList, isAsciiDigit c = true
  value : total = ofDigits (terminal.text.toList.map fun c => c.toNat - 0x30)
  positive : 1 ≤ total

-- Directives are named in any letter case.
def IsOption (terminal : Terminal) (option : GlobalOption) : Prop :=
  terminal.kind = .directive ∧ directiveKey terminal.text = option.key

-- Each option is written at most once, and in the one order there is.
inductive IsGlobals : List Terminal → Globals → Prop
  | intro {name : String} {count : Terminal} {total : Nat} {written : List Terminal}
      {options : List GlobalOption} {mark : String} (hname : directiveKey name = "totalcolumns")
      (htotal : IsTotal count total) (hwritten : List.Forall₂ IsOption written options)
      (horder : options.Sublist [.noHeader, .permitEmpty]) :
      IsGlobals (⟨.directive, name⟩ :: count :: (written ++ [⟨.endOfLine, mark⟩]))
        { total, options }

/-! Rules -/

inductive IsArgument : Terminal → Argument → Prop
  | text (value : String) : IsArgument ⟨.text, value⟩ (.text value)
  | column (name : String) : IsArgument ⟨.column, name⟩ (.column name)
  | bare (word : String) : IsArgument ⟨.word, word⟩ (.bare word)

-- At least one argument, with commas between them.
inductive IsArguments : List Terminal → List Argument → Prop
  | last {terminal : Terminal} {argument : Argument} (h : IsArgument terminal argument) :
      IsArguments [terminal] [argument]
  | more {terminal : Terminal} {argument : Argument} {comma : String} {rest : List Terminal}
      {arguments : List Argument} (h : IsArgument terminal argument)
      (hrest : IsArguments rest arguments) :
      IsArguments (terminal :: ⟨.comma, comma⟩ :: rest) (argument :: arguments)

-- The name of a rule, and arguments in parentheses if there are parentheses.
inductive IsCall : List Terminal → Rule.Name → List Argument → Prop
  | plain (name : Rule.Name) : IsCall [⟨.word, name.text⟩] name []
  | empty (name : Rule.Name) (opening closing : String) :
      IsCall [⟨.word, name.text⟩, ⟨.opening, opening⟩, ⟨.closing, closing⟩] name []
  | applied {inner : List Terminal} {arguments : List Argument} (name : Rule.Name)
      (opening closing : String) (h : IsArguments inner arguments) :
      IsCall (⟨.word, name.text⟩ :: ⟨.opening, opening⟩ :: (inner ++ [⟨.closing, closing⟩])) name
        arguments

-- A call whose arguments fit the rule that it names.
inductive IsRule : List Terminal → Rule → Prop
  | intro {call : List Terminal} {name : Rule.Name} {arguments : List Argument} {rule : Rule}
      (hcall : IsCall call name arguments) (hbuild : Rule.build name arguments = .ok rule) :
      IsRule call rule

-- Alternatives are joined from the left.
inductive IsExpression : List Terminal → Rule → Prop
  | rule {call : List Terminal} {rule : Rule} (h : IsRule call rule) : IsExpression call rule
  | or {left right : List Terminal} {first second : Rule} (hleft : IsExpression left first)
      (hright : IsRule right second) :
      IsExpression (left ++ ⟨.word, "or"⟩ :: right) (.or first second)

inductive IsExpressions : List Terminal → List Rule → Prop
  | nil : IsExpressions [] []
  | cons {first rest : List Terminal} {rule : Rule} {rules : List Rule}
      (hfirst : IsExpression first rule) (hrest : IsExpressions rest rules) :
      IsExpressions (first ++ rest) (rule :: rules)

theorem IsArguments.exists_cons {inner : List Terminal} {found : List Argument}
    (h : IsArguments inner found) :
    ∃ first rest, inner = first :: rest ∧ first.kind ≠ .closing := by
  cases h with
  | last h => exact ⟨_, _, rfl, by cases h <;> nofun⟩
  | more h _ => exact ⟨_, _, rfl, by cases h <;> nofun⟩

theorem IsCall.exists_behind {call : List Terminal} {name : Rule.Name} {arguments : List Argument}
    (h : IsCall call name arguments) : ∃ behind, call = ⟨.word, name.text⟩ :: behind := by
  cases h <;> exact ⟨_, rfl⟩

-- What alternatives follow an expression, from the first one on.
inductive IsTail : Rule → List Terminal → Rule → Prop
  | nil (rule : Rule) : IsTail rule [] rule
  | cons {first second rule : Rule} {right rest : List Terminal} (hright : IsRule right second)
      (hrest : IsTail (.or first second) rest rule) :
      IsTail first (⟨.word, "or"⟩ :: (right ++ rest)) rule

theorem IsExpression.append_tail {front rest : List Terminal} {first rule : Rule}
    (hfirst : IsExpression front first) (hrest : IsTail first rest rule) :
    IsExpression (front ++ rest) rule := by
  induction hrest generalizing front with
  | nil => rwa [List.append_nil]
  | cons hright _ ih =>
      have h := ih (.or hfirst hright)
      simpa using h

theorem IsTail.concat {first second rule : Rule} {rest right : List Terminal}
    (hrest : IsTail first rest rule) (hright : IsRule right second) :
    IsTail first (rest ++ ⟨.word, "or"⟩ :: right) (.or rule second) := by
  induction hrest with
  | nil rule => simpa using IsTail.cons hright (.nil (.or rule second))
  | cons hr _ ih => simpa using IsTail.cons hr ih

-- An expression read from the left: its first rule, and what follows it.
theorem IsExpression.exists_tail {front : List Terminal} {rule : Rule}
    (h : IsExpression front rule) :
    ∃ call rest first, front = call ++ rest ∧ IsRule call first ∧ IsTail first rest rule := by
  induction h with
  | rule h => exact ⟨_, [], _, by simp, h, .nil _⟩
  | or _ hright ih =>
      obtain ⟨call, rest, first, rfl, hcall, hrest⟩ := ih
      exact ⟨call, _, first, by simp, hcall, hrest.concat hright⟩

/-! Columns -/

def IsDirective (terminal : Terminal) (directive : Directive) : Prop :=
  terminal.kind = .directive ∧ directiveKey ("@" ++ terminal.text) = directiveKey directive.keyword

inductive IsColumn : List Terminal → Column → Prop
  | intro {name colon mark : String} {expressions written : List Terminal} {rules : List Rule}
      {directives : List Directive} (hrules : IsExpressions expressions rules)
      (hwritten : List.Forall₂ IsDirective written directives) (hnodup : directives.Nodup) :
      IsColumn (⟨.word, name⟩ :: ⟨.colon, colon⟩ ::
        (expressions ++ (written ++ [⟨.endOfLine, mark⟩]))) { name, rules, directives }

/-! Kinds of terminals within rules -/

theorem IsArgument.kind_ne {kind : TokenKind} {terminal : Terminal} {argument : Argument}
    (h : IsArgument terminal argument) (hkind : kind.isWithinRules = false) :
    terminal.kind ≠ kind := by
  cases h <;> exact TokenKind.ne_of_isWithinRules rfl hkind

theorem IsArguments.kind_ne {kind : TokenKind} {terminals : List Terminal}
    {arguments : List Argument} (h : IsArguments terminals arguments)
    (hkind : kind.isWithinRules = false) : ∀ terminal ∈ terminals, terminal.kind ≠ kind := by
  have hcomma : .comma ≠ kind := TokenKind.ne_of_isWithinRules rfl hkind
  induction h with
  | last h => simpa using h.kind_ne hkind
  | more h _ ih => simpa [h.kind_ne hkind, hcomma] using ih

theorem IsCall.kind_ne {kind : TokenKind} {terminals : List Terminal} {name : Rule.Name}
    {arguments : List Argument} (h : IsCall terminals name arguments)
    (hkind : kind.isWithinRules = false) : ∀ terminal ∈ terminals, terminal.kind ≠ kind := by
  have hword : .word ≠ kind := TokenKind.ne_of_isWithinRules rfl hkind
  have hopening : .opening ≠ kind := TokenKind.ne_of_isWithinRules rfl hkind
  have hclosing : .closing ≠ kind := TokenKind.ne_of_isWithinRules rfl hkind
  cases h with
  | plain => simpa using hword
  | empty => simpa using ⟨hword, hopening, hclosing⟩
  | applied _ _ _ h =>
      intro terminal hm
      simp only [List.mem_cons, List.mem_append, List.not_mem_nil, or_false] at hm
      rcases hm with rfl | rfl | hm | rfl
      · exact hword
      · exact hopening
      · exact h.kind_ne hkind terminal hm
      · exact hclosing

theorem IsExpression.kind_ne {kind : TokenKind} {terminals : List Terminal} {rule : Rule}
    (h : IsExpression terminals rule) (hkind : kind.isWithinRules = false) :
    ∀ terminal ∈ terminals, terminal.kind ≠ kind := by
  induction h with
  | rule h =>
      obtain ⟨hcall, -⟩ := h
      exact hcall.kind_ne hkind
  | or _ hright ih =>
      obtain ⟨hcall, -⟩ := hright
      intro terminal hm
      rcases List.mem_append.mp hm with hm | hm
      · exact ih terminal hm
      · rcases List.mem_cons.mp hm with rfl | hm
        · exact TokenKind.ne_of_isWithinRules rfl hkind
        · exact hcall.kind_ne hkind terminal hm

theorem IsExpressions.kind_ne {kind : TokenKind} {terminals : List Terminal} {rules : List Rule}
    (h : IsExpressions terminals rules) (hkind : kind.isWithinRules = false) :
    ∀ terminal ∈ terminals, terminal.kind ≠ kind := by
  induction h with
  | nil => simp
  | cons hfirst _ ih =>
      intro terminal hm
      rcases List.mem_append.mp hm with hm | hm
      · exact hfirst.kind_ne hkind terminal hm
      · exact ih terminal hm

theorem kind_of_isDirective {written : List Terminal} {directives : List Directive}
    (h : List.Forall₂ IsDirective written directives) :
    ∀ terminal ∈ written, terminal.kind = .directive := by
  induction h with
  | nil => simp
  | cons hfirst _ ih => simpa [hfirst.1] using ih

end Grammar

open Grammar

-- Every column that a rule refers to, also within an alternative, is one of the schema.
def ReferencesDefined (columns : List Column) : Prop :=
  ∀ column ∈ columns, ∀ rule ∈ column.rules, ∀ name ∈ rule.references,
    name ∈ columns.map Column.name

-- The schema that a text stands for.
inductive Denotes (text : String) : Schema → Prop
  | intro {first : List Terminal} {lines : List (List Terminal)} {globals : Globals}
      {columns : List Column} (hlines : terminals text = first :: lines)
      (hglobals : IsGlobals first globals) (hcolumns : List.Forall₂ IsColumn lines columns)
      (htotal : columns.length = globals.total) (hreferences : ReferencesDefined columns) :
      Denotes text {
        hasHeader := !globals.options.contains .noHeader
        permitEmpty := globals.options.contains .permitEmpty
        columns }

end TableSchema.Schema
