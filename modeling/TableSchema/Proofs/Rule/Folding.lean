import TableSchema.Proofs.Rule.Uniqueness
import TableSchema.Proofs.Text.Characters

namespace TableSchema.Rule

open TableSchema.Text

/-! Texts -/

theorem occursIn_iff_isInfix {part whole : List Char} :
    occursIn part whole = true ↔ part <:+: whole := by
  induction whole with
  | nil => simp [occursIn]
  | cons c cs ih =>
      rw [occursIn, Bool.or_eq_true, List.isPrefixOf_iff_prefix, ih, List.infix_cons_iff]

-- Folding works character by character. It keeps texts equal, and a part of a text where it is.
theorem Comparison.holds_foldText {test : Comparison} (htest : test ≠ .different)
    {value expected : List Char} (h : Comparison.holds test value expected = true) :
    Comparison.holds test (foldText value) (foldText expected) = true := by
  cases test with
  | equal =>
      rw [Comparison.holds, beq_iff_eq] at h ⊢
      rw [h]
  | different => exact absurd rfl htest
  | within =>
      obtain ⟨before, after, rfl⟩ := occursIn_iff_isInfix.mp h
      refine occursIn_iff_isInfix.mpr ⟨foldText before, foldText after, ?_⟩
      rw [foldText_append, foldText_append]
  | startsWith =>
      obtain ⟨after, rfl⟩ := List.isPrefixOf_iff_prefix.mp h
      exact List.isPrefixOf_iff_prefix.mpr ⟨foldText after, (foldText_append _ _).symm⟩
  | endsWith =>
      obtain ⟨before, rfl⟩ := List.isSuffixOf_iff_suffix.mp h
      exact List.isSuffixOf_iff_suffix.mpr ⟨foldText before, (foldText_append _ _).symm⟩

theorem asciiLower_of_isLowerHexDigit {c : Char} (h : isLowerHexDigit c = true) :
    asciiLower c = c := by
  have hcode : ¬(0x41 ≤ c.toNat ∧ c.toNat ≤ 0x5A) := by
    rw [isLowerHexDigit, Bool.or_eq_true, isAsciiDigit_iff, Bool.and_eq_true, decide_eq_true_eq,
      decide_eq_true_eq] at h
    rcases h with h | ⟨h, -⟩
    · omega
    · have hlow : 0x61 ≤ c.toNat := h
      omega
  rw [asciiLower, asciiLowerCode, if_neg hcode, Char.ofNat_toNat]

theorem asciiLower_of_uuidClasses {test : Char → Bool} (htest : test ∈ uuidClasses) {c : Char}
    (h : test c = true) : asciiLower c = c := by
  simp only [uuidClasses, List.mem_append, List.mem_replicate, List.mem_singleton] at htest
  have hcases : test = isLowerHexDigit ∨ test = (· == '-') ∨ test = (· == '4') ∨
      test = isVariantDigit := by tauto
  rcases hcases with rfl | rfl | rfl | rfl
  · exact asciiLower_of_isLowerHexDigit h
  · obtain rfl := eq_of_beq h
    rfl
  · obtain rfl := eq_of_beq h
    rfl
  · simp only [isVariantDigit, Bool.or_eq_true, beq_iff_eq] at h
    rcases h with ((rfl | rfl) | rfl) | rfl
    all_goals rfl

theorem map_asciiLower_of_fits {tests : List (Char → Bool)} {cs : List Char}
    (htests : ∀ test ∈ tests, ∀ c, test c = true → asciiLower c = c)
    (h : fits tests cs = true) : cs.map asciiLower = cs := by
  induction tests generalizing cs with
  | nil =>
      cases cs with
      | nil => rfl
      | cons => cases h
  | cons test tests ih =>
      cases cs with
      | nil => cases h
      | cons c cs =>
          rw [fits, Bool.and_eq_true] at h
          have hrest := ih (fun other hother => htests other (List.mem_cons_of_mem _ hother)) h.2
          rw [List.map_cons, htests test List.mem_cons_self c h.1, hrest]

-- An identifier with small letters is one in any letter case.
theorem isUuid4_of_isUuid4 {cs : List Char} (h : isUuid4 false cs = true) : isUuid4 true cs = true := by
  have hlower : cs.map asciiLower = cs :=
    map_asciiLower_of_fits (fun _ htest _ => asciiLower_of_uuidClasses htest) h
  rw [isUuid4, if_pos rfl, hlower]
  exact h

/-! Questions -/

namespace Question

-- The question with letter case left out of account.
def folded (question : Question) : Question :=
  { question with context := { question.context with ignoreCase := true } }

-- Letter case counts.
def IsExact (question : Question) : Prop :=
  question.context.ignoreCase = false

theorem fold_of_isExact {question : Question} (h : question.IsExact) (text : String) :
    question.context.fold text = text := by
  rw [IsExact] at h
  simp only [Context.fold, h, Bool.false_eq_true, if_false]

theorem toList_fold_folded (question : Question) (text : String) :
    (question.folded.context.fold text).toList = foldText text.toList := by
  simp only [Context.fold, folded, if_true, String.toList_ofList]

theorem key_folded_congr {question other : Question} (hquestion : question.IsExact)
    (hother : other.IsExact) (h : question.key = other.key) :
    question.folded.key = other.folded.key := by
  rw [key, key, fold_of_isExact hquestion, fold_of_isExact hother] at h
  simp only [key, folded, Context.fold, if_true, h]

end Question

/-! Answers -/

-- Rules for which case makes a difference: they can only be met more often without it.
def isEased : Rule → Bool
  | .compare test _ => test != .different
  | .uuid4 => true
  | _ => false

-- Rules that can only be met less often without letter case.
def isHardened : Rule → Bool
  | .compare test _ => test == .different
  | .unique => true
  | _ => false

-- Neither a pattern nor an alternative.
def isElementary : Rule → Bool
  | .regex _ => false
  | .or .. => false
  | _ => true

theorem answer_compare (test : Comparison) (operand : Operand) (asked : List Question)
    (question : Question) :
    (compare test operand).answer asked question =
      (question.context.operand operand).map fun expected =>
        Comparison.holds test (question.context.fold question.value).toList
          (question.context.fold expected).toList := by
  have hanswer : (compare test operand).answer asked question =
      (compare test operand).holds question.context question.value := rfl
  rw [hanswer, holds]
  cases question.context.operand operand with
  | error fault => rfl
  | ok expected => rfl

theorem answer_compare_eq_ok_iff {test : Comparison} {operand : Operand} {asked : List Question}
    {question : Question} {holds : Bool} :
    (compare test operand).answer asked question = .ok holds ↔
      ∃ expected, question.context.operand operand = .ok expected ∧
        Comparison.holds test (question.context.fold question.value).toList
          (question.context.fold expected).toList = holds := by
  rw [answer_compare]
  cases question.context.operand operand with
  | error fault => simp [Except.map]
  | ok expected => simp [Except.map]

theorem operand_folded (question : Question) (operand : Operand) :
    question.folded.context.operand operand = question.context.operand operand := by
  cases operand with
  | text value => rfl
  | column name => rfl

theorem answer_folded_of_isEased {rule : Rule} (h : rule.isEased = true) {asked : List Question}
    {question : Question} (hexact : question.IsExact)
    (hanswer : rule.answer asked question = .ok true) (others : List Question) :
    rule.answer others question.folded = .ok true := by
  cases rule with
  | compare test operand =>
      obtain ⟨expected, hoperand, hholds⟩ := answer_compare_eq_ok_iff.mp hanswer
      rw [Question.fold_of_isExact hexact, Question.fold_of_isExact hexact] at hholds
      refine answer_compare_eq_ok_iff.mpr ⟨expected, (operand_folded _ _).trans hoperand, ?_⟩
      rw [Question.toList_fold_folded, Question.toList_fold_folded]
      exact Comparison.holds_foldText (bne_iff_ne.mp h) hholds
  | uuid4 =>
      have hsmall : isUuid4 question.context.ignoreCase question.value.toList = true :=
        Except.ok.inj hanswer
      rw [hexact] at hsmall
      exact congrArg Except.ok (isUuid4_of_isUuid4 hsmall)
  | _ => cases h

theorem answer_folded_of_isHardened {rule : Rule} (h : rule.isHardened = true)
    {asked : List Question} {question : Question} (hasked : ∀ other ∈ asked, other.IsExact)
    (hexact : question.IsExact) (hanswer : rule.answer asked question = .ok false) :
    rule.answer (asked.map Question.folded) question.folded = .ok false := by
  cases rule with
  | compare test operand =>
      obtain rfl : test = .different := eq_of_beq h
      obtain ⟨expected, hoperand, hholds⟩ := answer_compare_eq_ok_iff.mp hanswer
      rw [Question.fold_of_isExact hexact, Question.fold_of_isExact hexact] at hholds
      refine answer_compare_eq_ok_iff.mpr ⟨expected, (operand_folded _ _).trans hoperand, ?_⟩
      rw [Question.toList_fold_folded, Question.toList_fold_folded]
      rw [Comparison.holds, bne_eq_false_iff_eq] at hholds ⊢
      exact congrArg foldText hholds
  | unique =>
      rw [answer_unique, Except.ok.injEq, Bool.not_eq_false', List.contains_iff_mem] at hanswer ⊢
      obtain ⟨other, hother, hkey⟩ := List.mem_map.mp hanswer
      refine List.mem_map.mpr ⟨other.folded, List.mem_map_of_mem hother, ?_⟩
      exact Question.key_folded_congr (hasked other hother) hexact hkey
  | _ => cases h

-- The other rules do not look at letter case at all.
theorem answer_folded_of_isElementary {rule : Rule} (h : rule.isElementary = true)
    (heased : rule.isEased = false) (hhardened : rule.isHardened = false) (asked others : List Question)
    (question : Question) : rule.answer others question.folded = rule.answer asked question := by
  cases rule with
  | compare test operand => cases test <;> simp [isEased, isHardened] at heased hhardened
  | uuid4 => cases heased
  | unique => cases hhardened
  | regex => cases h
  | or => cases h
  | fileExists root =>
      have hrooted : question.folded.context.rooted root question.value =
          question.context.rooted root question.value := by
        cases root with
        | none => rfl
        | some operand => rw [Context.rooted, operand_folded, Context.rooted]
      have hanswer (asked : List Question) (question : Question) :
          (fileExists root).answer asked question =
            (question.context.rooted root question.value >>= fun path =>
              (question.context.resolver.pathExists question.context.files path).mapError .path) := rfl
      rw [hanswer, hanswer]
      exact congrArg (· >>= _) hrooted
  | _ => rfl

-- No rule fails for the reason that letter case is left out of account.
theorem answer_folded_ne_error {rule : Rule} (h : rule.isElementary = true)
    {asked others : List Question} {question : Question}
    (hanswers : ∀ fault, rule.answer asked question ≠ .error fault) (fault : Fault) :
    rule.answer others question.folded ≠ .error fault := by
  cases rule with
  | compare test operand =>
      rw [answer_compare] at hanswers ⊢
      rw [operand_folded]
      cases hoperand : question.context.operand operand with
      | error cause => exact absurd (by rw [hoperand]; rfl) (hanswers cause)
      | ok expected => nofun
  | unique => rw [answer_unique]; nofun
  | uuid4 => nofun
  | _ =>
      rw [answer_folded_of_isElementary h rfl rfl asked]
      exact hanswers fault

end TableSchema.Rule
