import TableSchema.Proofs.Rule.Answers
import TableSchema.Proofs.Rule.Arguments

namespace TableSchema

/-! Paths that cannot be followed -/

namespace PathResolver

-- A file URI that is none, a name in a directory that is locked, or more than a name or a path
-- can hold.
inductive Unfollowed (resolver : PathResolver) (files : FileTree) (path : String) : Fault → Prop
  | uri {fault : Uri.Fault} (hstart : fileUriStart.isPrefixOf (resolver.substitute path).toList = true)
      (huri : Uri.ofText (resolver.substitute path).toList = .error fault) :
      Unfollowed resolver files path (.uri fault)
  | denied {place : String} (hresolve : resolver.resolve path = .ok place)
      (hlocked : (Location.ofText place).exists? files = .error .denied) :
      Unfollowed resolver files path .denied
  | tooLong {place : String} (hresolve : resolver.resolve path = .ok place)
      (hlong : (Location.ofText place).exists? files = .error .tooLong) :
      Unfollowed resolver files path .tooLong

theorem resolve_eq_error_iff {resolver : PathResolver} {path : String} {fault : Fault} :
    resolver.resolve path = .error fault ↔
      fileUriStart.isPrefixOf (resolver.substitute path).toList = true ∧
        ∃ cause, Uri.ofText (resolver.substitute path).toList = .error cause ∧ fault = .uri cause := by
  simp only [resolve]
  split
  · rename_i hstart
    cases huri : Uri.ofText (resolver.substitute path).toList with
    | ok uri => simp [pure, Except.pure]
    | error cause => simp [throw, throwThe, MonadExceptOf.throw, hstart, eq_comm]
  · rename_i hstart
    simp [pure, Except.pure, hstart]

theorem pathExists_eq_error_iff {resolver : PathResolver} {files : FileTree} {path : String}
    {fault : Fault} :
    resolver.pathExists files path = .error fault ↔ resolver.Unfollowed files path fault := by
  rw [pathExists, bind_eq_error_iff]
  constructor
  · rintro (hresolve | ⟨place, hresolve, hplace⟩)
    · obtain ⟨hstart, cause, huri, rfl⟩ := resolve_eq_error_iff.mp hresolve
      exact .uri hstart huri
    · dsimp only at hplace
      split at hplace
      · rename_i hlocked
        obtain rfl := Except.error.inj hplace
        exact .denied hresolve hlocked
      · rename_i hlong
        obtain rfl := Except.error.inj hplace
        exact .tooLong hresolve hlong
      · cases hplace
      · cases hplace
  · rintro (⟨hstart, huri⟩ | ⟨hresolve, hlocked⟩ | ⟨hresolve, hlong⟩)
    · exact .inl (resolve_eq_error_iff.mpr ⟨hstart, _, huri, rfl⟩)
    · refine .inr ⟨_, hresolve, ?_⟩
      simp only [hlocked]
      rfl
    · refine .inr ⟨_, hresolve, ?_⟩
      simp only [hlong]
      rfl

end PathResolver

namespace Rule

-- Bounds that can be compared where there are two of them.
def HasOrderedBounds : Rule → Prop
  | .range low high => ∀ a ∈ low, ∀ b ∈ high, ∃ order, a.compare? b = some order
  | .or left right => left.HasOrderedBounds ∧ right.HasOrderedBounds
  | _ => True

-- Why a rule has no answer to a question: a number cannot be compared with a
-- bound, or a path cannot be followed. The right side of an alternative matters
-- only if the left side says no.
inductive Unanswered : Rule → List Question → Question → Fault → Prop
  | bound {low high : Option Number.Decimal} {asked : List Question} {question : Question}
      {number bound : Number.Decimal} (hnumber : Number.Decimal.ofText? question.value.toList = some number)
      (hfinite : number.isFinite = true) (hbound : bound ∈ (range low high).rangeBounds)
      (hnan : bound.isNan = true) : Unanswered (.range low high) asked question .unorderedBound
  | path {root : Option Operand} {asked : List Question} {question : Question} {path : String}
      {fault : PathResolver.Fault} (hpath : question.context.rooted root question.value = .ok path)
      (hlost : question.context.resolver.Unfollowed question.context.files path fault) :
      Unanswered (.fileExists root) asked question (.path fault)
  | left {left right : Rule} {asked : List Question} {question : Question} {fault : Fault}
      (h : Unanswered left asked question fault) : Unanswered (.or left right) asked question fault
  | right {left right : Rule} {asked : List Question} {question : Question} {fault : Fault}
      (hleft : left.answer asked question = .ok false)
      (h : Unanswered right (left.rejected asked) question fault) :
      Unanswered (.or left right) asked question fault

/-! Ranges -/

theorem isOnSide_eq_error_iff {wrong : Ordering} {number : Number.Decimal}
    {bound : Option Number.Decimal} {fault : Fault} (hnumber : number.isNan = false) :
    isOnSide wrong number bound = .error fault ↔
      fault = .unorderedBound ∧ ∃ value ∈ bound, value.isNan = true := by
  cases bound with
  | none => simp [isOnSide]
  | some value =>
      simp only [isOnSide, Option.mem_def, Option.some.injEq, exists_eq_left']
      cases hc : number.compare? value with
      | none =>
          have hnan : value.isNan = true :=
            (Number.Decimal.compare?_eq_none_iff.mp hc).resolve_left (by simp [hnumber])
          simp [hnan, eq_comm]
      | some order =>
          have hnan : value.isNan ≠ true := by
            intro h
            rw [Number.Decimal.compare?_eq_none_iff.mpr (.inr h)] at hc
            cases hc
          simp [hnan]

theorem mem_rangeBounds {low high : Option Number.Decimal} {bound : Number.Decimal} :
    bound ∈ (range low high).rangeBounds ↔ bound ∈ low ∨ bound ∈ high := by
  simp only [rangeBounds, List.mem_append, Option.mem_toList, Option.mem_def]

theorem isInRange_eq_error_iff {low high : Option Number.Decimal} {cs : List Char} {fault : Fault}
    (hordered : (range low high).HasOrderedBounds) :
    isInRange low high cs = .error fault ↔
      fault = .unorderedBound ∧ ∃ number bound, Number.Decimal.ofText? cs = some number ∧
        number.isFinite = true ∧ bound ∈ (range low high).rangeBounds ∧ bound.isNan = true := by
  cases htext : Number.Decimal.ofText? cs with
  | none => simp [isInRange, htext]
  | some number =>
      by_cases hfinite : number.isFinite = true
      · have hnumber := Number.Decimal.isNan_of_isFinite hfinite
        simp only [isInRange, htext, hfinite, Bool.not_true, Bool.false_eq_true, if_false]
        rw [bind_eq_error_iff, isOnSide_eq_error_iff hnumber]
        constructor
        · rintro (⟨rfl, bound, hlow, hnan⟩ | ⟨above, -, hhigh⟩)
          · exact ⟨rfl, number, bound, rfl, hfinite, mem_rangeBounds.mpr (.inl hlow), hnan⟩
          · split at hhigh
            · obtain ⟨rfl, bound, hhigh, hnan⟩ := (isOnSide_eq_error_iff hnumber).mp hhigh
              exact ⟨rfl, number, bound, rfl, hfinite, mem_rangeBounds.mpr (.inr hhigh), hnan⟩
            · cases hhigh
        · rintro ⟨rfl, _, bound, -, -, hbound, hnan⟩
          rcases mem_rangeBounds.mp hbound with hlow | hhigh
          · exact .inl ⟨rfl, bound, hlow, hnan⟩
          · -- A bound that is compared with this one would have an order to it.
            have hlow : low = none := by
              cases low with
              | none => rfl
              | some a =>
                  obtain ⟨order, hcompare⟩ := hordered a rfl bound hhigh
                  rw [Number.Decimal.compare?_eq_none_iff.mpr (.inr hnan)] at hcompare
                  cases hcompare
            refine .inr ⟨true, by rw [hlow]; rfl, ?_⟩
            exact (isOnSide_eq_error_iff hnumber).mpr ⟨rfl, bound, hhigh, hnan⟩
      · simp [isInRange, htext, hfinite]

/-! Cells of other columns -/

-- Every column that a rule refers to has a cell in the row.
def Question.HasCells (question : Question) (rule : Rule) : Prop :=
  ∀ name ∈ rule.references, ∃ cell, question.context.cell name = .ok cell

theorem Question.HasCells.of_or {question : Question} {left right : Rule}
    (h : question.HasCells (.or left right)) : question.HasCells left ∧ question.HasCells right := by
  refine ⟨fun name hm => h name ?_, fun name hm => h name ?_⟩
  · exact List.mem_append_left _ hm
  · exact List.mem_append_right _ hm

theorem exists_operand_eq_ok {context : Context} {operand : Operand}
    (h : ∀ name, operand = .column name → ∃ cell, context.cell name = .ok cell) :
    ∃ expected, context.operand operand = .ok expected := by
  cases operand with
  | text value => exact ⟨value, rfl⟩
  | column name => exact h name rfl

theorem exists_rooted_eq_ok {question : Question} {root : Option Operand}
    (h : question.HasCells (.fileExists root)) :
    ∃ path, question.context.rooted root question.value = .ok path := by
  cases root with
  | none => exact ⟨_, rfl⟩
  | some operand =>
      have hoperand : ∀ name, operand = .column name → ∃ cell, question.context.cell name = .ok cell := by
        rintro name rfl
        exact h name (by simp [references, arguments, Operand.toArgument])
      obtain ⟨expected, he⟩ := exists_operand_eq_ok hoperand
      exact ⟨joinRoot expected question.value, by simp [Context.rooted, he, Except.map]⟩

/-! Answers -/

theorem answer_fileExists_eq_error_iff {root : Option Operand} {asked : List Question}
    {question : Question} {fault : Fault} (hcells : question.HasCells (.fileExists root)) :
    (Rule.fileExists root).answer asked question = .error fault ↔
      Unanswered (.fileExists root) asked question fault := by
  obtain ⟨path, hpath⟩ := exists_rooted_eq_ok hcells
  have hanswer : (Rule.fileExists root).answer asked question =
      (question.context.resolver.pathExists question.context.files path).mapError .path := by
    simp only [answer, evaluate, holds, hpath]
    rfl
  rw [hanswer]
  constructor
  · intro h
    cases hexists : question.context.resolver.pathExists question.context.files path with
    | ok found => simp [hexists, Except.mapError] at h
    | error cause =>
        simp only [hexists, Except.mapError, Except.error.injEq] at h
        exact h ▸ .path hpath (PathResolver.pathExists_eq_error_iff.mp hexists)
  · rintro ⟨⟩
    rename_i path' cause hlost hpath'
    obtain rfl := Except.ok.inj (hpath.symm.trans hpath')
    simp [PathResolver.pathExists_eq_error_iff.mpr hlost, Except.mapError]

-- A rule has no answer for the reasons above, and for no other ones.
theorem answer_eq_error_iff {rule : Rule} {asked : List Question} {question : Question} {fault : Fault}
    (hordered : rule.HasOrderedBounds) (hcells : question.HasCells rule) :
    rule.answer asked question = .error fault ↔ Unanswered rule asked question fault := by
  induction rule generalizing asked with
  | range low high =>
      have hanswer : (Rule.range low high).answer asked question =
        isInRange low high question.value.toList := rfl
      rw [hanswer, isInRange_eq_error_iff hordered]
      constructor
      · rintro ⟨rfl, number, bound, hnumber, hfinite, hbound, hnan⟩
        exact .bound hnumber hfinite hbound hnan
      · rintro ⟨hnumber, hfinite, hbound, hnan⟩
        exact ⟨rfl, _, _, hnumber, hfinite, hbound, hnan⟩
  | fileExists root => exact answer_fileExists_eq_error_iff hcells
  | compare test operand =>
      have hoperand : ∀ name, operand = .column name → ∃ cell, question.context.cell name = .ok cell := by
        rintro name rfl
        exact hcells name (by simp [references, arguments, Operand.toArgument])
      obtain ⟨expected, he⟩ := exists_operand_eq_ok hoperand
      have hanswer : ∃ found, (Rule.compare test operand).answer asked question = .ok found := by
        simp only [answer, evaluate, holds, he]
        exact ⟨_, rfl⟩
      obtain ⟨found, hfound⟩ := hanswer
      rw [hfound]
      exact iff_of_false (by rintro ⟨⟩) (by rintro ⟨⟩)
  | or left right ihl ihr =>
      have hleft : left.answer asked question = .error fault ↔ Unanswered left asked question fault :=
        ihl hordered.1 hcells.of_or.1
      have hright : right.answer (left.rejected asked) question = .error fault ↔
          Unanswered right (left.rejected asked) question fault := ihr hordered.2 hcells.of_or.2
      by_cases hno : left.answer asked question = .ok false
      · rw [answer_or_of_rejected hno, hright]
        constructor
        · exact .right hno
        · rintro (_ | _ | h | ⟨-, h⟩)
          · rw [← hleft, hno] at h
            cases h
          · exact h
      · rw [answer_or_of_ne hno, hleft]
        constructor
        · exact .left
        · rintro (_ | _ | h | ⟨h, -⟩)
          · exact h
          · exact absurd h hno
  | _ => exact iff_of_false (by rintro ⟨⟩) (by rintro ⟨⟩)

end Rule

end TableSchema
