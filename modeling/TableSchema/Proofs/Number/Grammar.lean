import TableSchema.Proofs.Number.Decimal

namespace TableSchema.Number

open TableSchema.Text

/-! Numerals -/

namespace Numeral

-- Digits of any script.
def AreDigits (cs : List Char) : Prop :=
  ∀ c ∈ cs, isDecimalDigit c = true

-- The number that digits denote.
def numberOf (cs : List Char) : Nat :=
  ofDigits (cs.map fun c => (digitValue? c).getD 0)

inductive IsSign : List Char → Bool → Prop
  | absent : IsSign [] false
  | plus : IsSign ['+'] false
  | minus : IsSign ['-'] true

-- Digits with at most one point among them: the number that they are without it, and
-- how many of them stand behind it.
inductive IsMantissa : List Char → Nat → Nat → Prop
  | whole {digits : List Char} (h : AreDigits digits) (hne : digits ≠ []) :
      IsMantissa digits (numberOf digits) 0
  | point {whole fraction : List Char} (hwhole : AreDigits whole) (hfraction : AreDigits fraction)
      (hne : whole ++ fraction ≠ []) :
      IsMantissa (whole ++ '.' :: fraction) (numberOf (whole ++ fraction)) fraction.length

inductive IsExponent : List Char → Int → Prop
  | absent : IsExponent [] 0
  | written {mark : Char} {sign digits : List Char} {negative : Bool} (hmark : mark = 'e' ∨ mark = 'E')
      (hsign : IsSign sign negative) (h : AreDigits digits) (hne : digits ≠ []) :
      IsExponent (mark :: (sign ++ digits))
        (if negative then -(numberOf digits : Int) else numberOf digits)

end Numeral

open Numeral

-- A numeral for a finite decimal. Underscores can stand anywhere in it, and the exponent
-- is within the limits.
inductive IsNumeral (cs : List Char) : Decimal → Prop
  | intro {sign mantissa mark : List Char} {negative : Bool} {coefficient places : Nat} {scale : Int}
      (htext : cs.filter (· != '_') = sign ++ (mantissa ++ mark)) (hsign : IsSign sign negative)
      (hmantissa : IsMantissa mantissa coefficient places) (hmark : IsExponent mark scale)
      (hrange : (Decimal.finite negative coefficient (scale - places)).InRange) :
      IsNumeral cs (.finite negative coefficient (scale - places))

namespace Numeral

/-! Characters that count -/

-- The characters that can stand in a numeral.
def IsPlainable (c : Char) : Prop :=
  isAscii c = true ∨ isDecimalDigit c = true

-- The ASCII character that stands for the character.
def plain (c : Char) : Char :=
  if isAscii c then c else Char.ofNat (0x30 + (digitValue? c).getD 0)

theorem isDecimalDigit_of_isAscii {c : Char} (h : isAscii c = true) :
    isDecimalDigit c = isAsciiDigit c := by
  have hlow : c.toNat < 0x80 := by simpa [isAscii] using h
  rw [isDecimalDigit, digitValue?, isAsciiDigit]
  split
  · rename_i hdigit
    rw [hdigit]
    rfl
  · rename_i hdigit
    rw [eq_false_of_ne_true hdigit]
    rfl

theorem plain_of_isAscii {c : Char} (h : isAscii c = true) : plain c = c :=
  if_pos h

theorem toNat_plain {c : Char} {value : Nat} (hascii : isAscii c = false)
    (h : digitValue? c = some value) : (plain c).toNat = 0x30 + value := by
  have hlt := digitValue?_lt h
  have hvalid : (0x30 + value).isValidChar := .inl (by omega)
  rw [plain, hascii, h, if_neg Bool.false_ne_true, Option.getD_some, Char.toNat_ofNat, if_pos hvalid]

theorem isAsciiDigit_plain {c : Char} (h : IsPlainable c) :
    isAsciiDigit (plain c) = isDecimalDigit c := by
  by_cases hascii : isAscii c = true
  · rw [plain_of_isAscii hascii, isDecimalDigit_of_isAscii hascii]
  · have hdigit := h.resolve_left hascii
    obtain ⟨value, hvalue⟩ := Option.isSome_iff_exists.mp hdigit
    have hlt := digitValue?_lt hvalue
    have hcode := toNat_plain (eq_false_of_ne_true hascii) hvalue
    rw [hdigit, isAsciiDigit_iff]
    omega

theorem isAscii_plain {c : Char} (h : IsPlainable c) : isAscii (plain c) = true := by
  by_cases hascii : isAscii c = true
  · rwa [plain_of_isAscii hascii]
  · have hdigit := (isAsciiDigit_plain h).trans (h.resolve_left hascii)
    exact Schema.isAscii_of_isWordChar (Schema.isWordChar_of_isAsciiDigit hdigit)

theorem value_plain {c : Char} (h : isDecimalDigit c = true) :
    (plain c).toNat - 0x30 = (digitValue? c).getD 0 := by
  by_cases hascii : isAscii c = true
  · rw [isDecimalDigit_of_isAscii hascii] at h
    rw [plain_of_isAscii hascii, digitValue?_of_isAsciiDigit h, Option.getD_some]
  · obtain ⟨value, hvalue⟩ := Option.isSome_iff_exists.mp h
    rw [toNat_plain (eq_false_of_ne_true hascii) hvalue, hvalue, Option.getD_some,
      Nat.add_sub_cancel_left]

-- A sign, a point and the mark of an exponent stand for themselves only.
theorem eq_of_plain_eq {c d : Char} (h : IsPlainable c) (hd : isAsciiDigit d = false)
    (heq : plain c = d) : c = d := by
  rcases h with h | h
  · rwa [plain_of_isAscii h] at heq
  · rw [← heq, isAsciiDigit_plain (.inr h), h] at hd
    cases hd

theorem plainChar?_eq_some_iff {c d : Char} :
    Decimal.plainChar? c = some d ↔ IsPlainable c ∧ plain c = d := by
  by_cases hascii : isAscii c = true
  · simp [Decimal.plainChar?, IsPlainable, plain, hascii]
  · cases hvalue : digitValue? c with
    | none => simp [Decimal.plainChar?, IsPlainable, isDecimalDigit, hascii, hvalue]
    | some value => simp [Decimal.plainChar?, IsPlainable, isDecimalDigit, plain, hascii, hvalue]

theorem mapM_plainChar?_eq_some_iff {cs plains : List Char} :
    cs.mapM Decimal.plainChar? = some plains ↔ (∀ c ∈ cs, IsPlainable c) ∧ cs.map plain = plains := by
  induction cs generalizing plains with
  | nil => simp
  | cons c cs ih =>
      rw [List.mapM_cons]
      simp only [Option.bind_eq_bind, Option.bind_eq_some_iff, plainChar?_eq_some_iff, ih,
        Option.pure_def, Option.some.injEq, List.forall_mem_cons, List.map_cons]
      constructor
      · rintro ⟨_, ⟨hc, rfl⟩, _, ⟨hcs, rfl⟩, rfl⟩
        exact ⟨⟨hc, hcs⟩, rfl⟩
      · rintro ⟨⟨hc, hcs⟩, rfl⟩
        exact ⟨_, ⟨hc, rfl⟩, _, ⟨hcs, rfl⟩, rfl⟩

theorem plainText?_eq_some_iff {cs plains : List Char} :
    Decimal.plainText? cs = some plains ↔ (∀ c ∈ (strip cs).filter (· != '_'), IsPlainable c) ∧
      ((strip cs).filter (· != '_')).map plain = plains :=
  mapM_plainChar?_eq_some_iff

/-! Parts of a numeral in ASCII characters -/

theorem isPlainable_of_areDigits {cs : List Char} (h : AreDigits cs) : ∀ c ∈ cs, IsPlainable c :=
  fun c hc => .inr (h c hc)

theorem areDigits_map_plain_iff {cs : List Char} (h : ∀ c ∈ cs, IsPlainable c) :
    AreDigits (cs.map plain) ↔ AreDigits cs := by
  have hdigit : ∀ c ∈ cs, isDecimalDigit (plain c) = isDecimalDigit c := by
    intro c hc
    rcases h c hc with hascii | hdecimal
    · rw [plain_of_isAscii hascii]
    · have hplain := isAsciiDigit_plain (h c hc)
      rw [hdecimal] at hplain ⊢
      rw [isDecimalDigit, digitValue?_of_isAsciiDigit hplain]
      rfl
  simp only [AreDigits, List.forall_mem_map]
  exact forall₂_congr fun c hc => by rw [hdigit c hc]

theorem numberOf_map_plain {cs : List Char} (h : AreDigits cs) :
    numberOf (cs.map plain) = numberOf cs := by
  rw [numberOf, numberOf, List.map_map]
  refine congrArg ofDigits (List.map_congr_left fun c hc => ?_)
  have hplain := isAsciiDigit_plain (isPlainable_of_areDigits h c hc)
  rw [h c hc] at hplain
  rw [Function.comp_apply, digitValue?_of_isAsciiDigit hplain, Option.getD_some,
    value_plain (h c hc)]

theorem isSign_map_plain_iff {cs : List Char} {negative : Bool} (h : ∀ c ∈ cs, IsPlainable c) :
    IsSign (cs.map plain) negative ↔ IsSign cs negative := by
  constructor
  · intro hsign
    generalize hplains : cs.map plain = plains at hsign
    cases hsign with
    | absent =>
        obtain rfl := List.map_eq_nil_iff.mp hplains
        exact .absent
    | plus =>
        obtain ⟨c, rfl, hc⟩ := List.map_eq_singleton_iff.mp hplains
        obtain rfl := eq_of_plain_eq (h c (by simp)) (by decide) hc
        exact .plus
    | minus =>
        obtain ⟨c, rfl, hc⟩ := List.map_eq_singleton_iff.mp hplains
        obtain rfl := eq_of_plain_eq (h c (by simp)) (by decide) hc
        exact .minus
  · intro hsign
    cases hsign with
    | absent => exact .absent
    | plus => exact .plus
    | minus => exact .minus

theorem isMantissa_map_plain_iff {cs : List Char} {coefficient places : Nat}
    (h : ∀ c ∈ cs, IsPlainable c) :
    IsMantissa (cs.map plain) coefficient places ↔ IsMantissa cs coefficient places := by
  constructor
  · intro hmantissa
    generalize hplains : cs.map plain = plains at hmantissa
    cases hmantissa with
    | whole hdigits hne =>
        subst hplains
        rw [areDigits_map_plain_iff h] at hdigits
        rw [numberOf_map_plain hdigits]
        exact .whole hdigits (by simpa using hne)
    | point hwhole hfraction hne =>
        obtain ⟨whole, behind, rfl, rfl, hbehind⟩ := List.map_eq_append_iff.mp hplains
        obtain ⟨c, fraction, rfl, hc, rfl⟩ := List.map_eq_cons_iff.mp hbehind
        simp only [List.forall_mem_append, List.forall_mem_cons] at h
        obtain rfl := eq_of_plain_eq h.2.1 (by decide) hc
        rw [areDigits_map_plain_iff h.1] at hwhole
        rw [areDigits_map_plain_iff h.2.2] at hfraction
        rw [← List.map_append, numberOf_map_plain (List.forall_mem_append.mpr ⟨hwhole, hfraction⟩),
          List.length_map]
        exact .point hwhole hfraction (by simpa using hne)
  · intro hmantissa
    cases hmantissa with
    | whole hdigits hne =>
        rw [← numberOf_map_plain hdigits]
        exact .whole ((areDigits_map_plain_iff h).mpr hdigits) (by simpa using hne)
    | @point whole fraction hwhole hfraction hne =>
        simp only [List.forall_mem_append, List.forall_mem_cons] at h
        have hlength : (fraction.map plain).length = fraction.length := List.length_map _
        rw [← numberOf_map_plain (List.forall_mem_append.mpr ⟨hwhole, hfraction⟩), List.map_append,
          List.map_append, List.map_cons, ← hlength]
        exact .point ((areDigits_map_plain_iff h.1).mpr hwhole)
          ((areDigits_map_plain_iff h.2.2).mpr hfraction) (by simpa using hne)

theorem isExponent_map_plain_iff {cs : List Char} {scale : Int} (h : ∀ c ∈ cs, IsPlainable c) :
    IsExponent (cs.map plain) scale ↔ IsExponent cs scale := by
  constructor
  · intro hexponent
    generalize hplains : cs.map plain = plains at hexponent
    cases hexponent with
    | absent =>
        obtain rfl := List.map_eq_nil_iff.mp hplains
        exact .absent
    | written hmark hsign hdigits hne =>
        obtain ⟨c, behind, rfl, hc, hbehind⟩ := List.map_eq_cons_iff.mp hplains
        obtain ⟨sign, digits, rfl, rfl, rfl⟩ := List.map_eq_append_iff.mp hbehind
        simp only [List.forall_mem_append, List.forall_mem_cons] at h
        have hletter : isAsciiDigit (plain c) = false := by
          rcases hc ▸ hmark with hm | hm <;> rw [hm] <;> decide
        obtain rfl := eq_of_plain_eq h.1 (hc ▸ hletter) hc
        rw [isSign_map_plain_iff h.2.1] at hsign
        rw [areDigits_map_plain_iff h.2.2] at hdigits
        rw [numberOf_map_plain hdigits]
        exact .written hmark hsign hdigits (by simpa using hne)
  · intro hexponent
    cases hexponent with
    | absent => exact .absent
    | written hmark hsign hdigits hne =>
        simp only [List.forall_mem_append, List.forall_mem_cons] at h
        rw [← numberOf_map_plain hdigits, List.map_cons, List.map_append]
        refine .written ?_ ((isSign_map_plain_iff h.2.1).mpr hsign)
          ((areDigits_map_plain_iff h.2.2).mpr hdigits) (by simpa using hne)
        rcases hmark with rfl | rfl
        · exact .inl (by decide)
        · exact .inr (by decide)

theorem isPlainable_of_isSign {sign : List Char} {negative : Bool} (h : IsSign sign negative) :
    ∀ c ∈ sign, IsPlainable c := by
  cases h with
  | absent => nofun
  | plus => simp [IsPlainable, isAscii]
  | minus => simp [IsPlainable, isAscii]

theorem isPlainable_of_isMantissa {mantissa : List Char} {coefficient places : Nat}
    (h : IsMantissa mantissa coefficient places) : ∀ c ∈ mantissa, IsPlainable c := by
  cases h with
  | whole hdigits => exact isPlainable_of_areDigits hdigits
  | point hwhole hfraction =>
      rw [List.forall_mem_append, List.forall_mem_cons]
      exact ⟨isPlainable_of_areDigits hwhole, .inl (by decide), isPlainable_of_areDigits hfraction⟩

theorem isPlainable_of_isExponent {mark : List Char} {scale : Int} (h : IsExponent mark scale) :
    ∀ c ∈ mark, IsPlainable c := by
  cases h with
  | absent => nofun
  | written hmark hsign hdigits =>
      rw [List.forall_mem_cons, List.forall_mem_append]
      refine ⟨.inl ?_, isPlainable_of_isSign hsign, isPlainable_of_areDigits hdigits⟩
      rcases hmark with rfl | rfl <;> decide

/-! Reading a numeral in ASCII characters -/

theorem areDigits_of_isAsciiDigit {cs : List Char} (h : ∀ c ∈ cs, isAsciiDigit c = true) :
    AreDigits cs := by
  intro c hc
  rw [isDecimalDigit, digitValue?_of_isAsciiDigit (h c hc)]
  rfl

theorem isAsciiDigit_of_areDigits {cs : List Char} (h : AreDigits cs)
    (hascii : ∀ c ∈ cs, isAscii c = true) : ∀ c ∈ cs, isAsciiDigit c = true :=
  fun c hc => (isDecimalDigit_of_isAscii (hascii c hc)).symm.trans (h c hc)

theorem digitsOf_eq_numberOf {cs : List Char} (h : ∀ c ∈ cs, isAsciiDigit c = true) :
    Decimal.digitsOf cs = numberOf cs := by
  refine congrArg ofDigits (List.map_congr_left fun c hc => ?_)
  rw [digitValue?_of_isAsciiDigit (h c hc), Option.getD_some]

theorem exists_isSign_splitSign (cs : List Char) :
    ∃ sign, cs = sign ++ (Decimal.splitSign cs).2 ∧ IsSign sign (Decimal.splitSign cs).1 := by
  fun_cases Decimal.splitSign cs with
  | case1 rest => exact ⟨['+'], rfl, .plus⟩
  | case2 rest => exact ⟨['-'], rfl, .minus⟩
  | case3 => exact ⟨[], rfl, .absent⟩

theorem splitSign_of_isSign {sign rest : List Char} {negative : Bool} (h : IsSign sign negative)
    (hrest : ∀ c ∈ rest.head?, c ≠ '+' ∧ c ≠ '-') :
    Decimal.splitSign (sign ++ rest) = (negative, rest) := by
  cases h with
  | absent => exact splitSign_eq_self hrest
  | plus => rfl
  | minus => rfl

theorem head_ne_sign_of_areDigits {digits : List Char} (h : ∀ c ∈ digits, isAsciiDigit c = true) :
    ∀ c ∈ digits.head?, c ≠ '+' ∧ c ≠ '-' :=
  fun c hc => sign_ne_of_isAsciiDigit (h c (List.mem_of_mem_head? hc))

theorem readExponent?_eq_some_iff {cs : List Char} {scale : Int} (h : ∀ c ∈ cs, isAscii c = true) :
    Decimal.readExponent? cs = some scale ↔ IsExponent cs scale := by
  constructor
  · intro hread
    cases cs with
    | nil =>
        obtain rfl := Option.some.inj hread
        exact .absent
    | cons mark rest =>
        simp only [Decimal.readExponent?] at hread
        split at hread
        · rename_i hmark
          obtain ⟨sign, hrest, hsign⟩ := exists_isSign_splitSign rest
          split at hread
          · cases hread
          · rename_i hdigits
            simp only [Bool.or_eq_true, Bool.not_eq_true', not_or, Bool.not_eq_false,
              List.isEmpty_iff, List.all_eq_true] at hdigits
            obtain rfl := Option.some.inj hread
            rw [digitsOf_eq_numberOf hdigits.2]
            nth_rewrite 1 [hrest]
            simp only [Bool.or_eq_true, beq_iff_eq] at hmark
            exact .written hmark hsign (areDigits_of_isAsciiDigit hdigits.2) hdigits.1
        · cases hread
  · intro hexponent
    cases hexponent with
    | absent => rfl
    | @written mark sign digits negative hmark hsign hdigits hne =>
        simp only [List.forall_mem_cons, List.forall_mem_append] at h
        have hplain := isAsciiDigit_of_areDigits hdigits h.2.2
        have hsplit := splitSign_of_isSign hsign (head_ne_sign_of_areDigits hplain)
        have hmark' : (mark == 'e' || mark == 'E') = true := by simpa using hmark
        have hall : digits.all isAsciiDigit = true := List.all_eq_true.mpr hplain
        simp [Decimal.readExponent?, hmark', hsplit, hall, hne, digitsOf_eq_numberOf hplain]

-- Behind the digits no other digit and no point follows.
theorem head_of_isExponent {mark : List Char} {scale : Int} (h : IsExponent mark scale) :
    ∀ c ∈ mark.head?, isAsciiDigit c = false ∧ c ≠ '.' := by
  cases h with
  | absent => nofun
  | written hmark =>
      intro c hc
      obtain rfl := Option.some.inj hc
      rcases hmark with rfl | rfl <;> decide

theorem readFinite?_of_isMantissa {mantissa mark : List Char} {coefficient places : Nat} {scale : Int}
    (negative : Bool) (hascii : ∀ c ∈ mantissa ++ mark, isAscii c = true)
    (hmantissa : IsMantissa mantissa coefficient places) (hmark : IsExponent mark scale) :
    Decimal.readFinite? negative (mantissa ++ mark) =
      Decimal.within? negative coefficient (scale - places) := by
  have hhead := head_of_isExponent hmark
  rw [List.forall_mem_append] at hascii
  have hread := (readExponent?_eq_some_iff hascii.2).mpr hmark
  cases hmantissa with
  | whole hdigits hne =>
      have hplain := isAsciiDigit_of_areDigits hdigits hascii.1
      rw [Decimal.readFinite?_whole negative hplain hhead hread hne, digitsOf_eq_numberOf hplain,
        Nat.cast_zero, sub_zero]
  | point hwhole hfraction hne =>
      simp only [List.forall_mem_append, List.forall_mem_cons] at hascii
      have hplain := isAsciiDigit_of_areDigits hwhole hascii.1.1
      have hplain' := isAsciiDigit_of_areDigits hfraction hascii.1.2.2
      rw [List.append_assoc, List.cons_append,
        Decimal.readFinite?_point negative hplain hplain' hhead hread hne,
        digitsOf_eq_numberOf (List.forall_mem_append.mpr ⟨hplain, hplain'⟩)]

theorem exists_isMantissa_splitFraction {whole behind : List Char}
    (hwhole : ∀ c ∈ whole, isAsciiDigit c = true)
    (hne : ¬(whole = [] ∧ (Decimal.splitFraction behind).1 = [])) :
    ∃ mantissa, whole ++ behind = mantissa ++ (Decimal.splitFraction behind).2 ∧
      IsMantissa mantissa (Decimal.digitsOf (whole ++ (Decimal.splitFraction behind).1))
        (Decimal.splitFraction behind).1.length := by
  fun_cases Decimal.splitFraction behind with
  | case1 rest =>
      have hfraction : ∀ c ∈ rest.takeWhile isAsciiDigit, isAsciiDigit c = true :=
        List.all_eq_true.mp List.all_takeWhile
      have hrest := List.takeWhile_append_dropWhile (p := isAsciiDigit) (l := rest)
      rw [Decimal.splitFraction] at hne
      refine ⟨whole ++ '.' :: rest.takeWhile isAsciiDigit, by simp, ?_⟩
      rw [digitsOf_eq_numberOf (List.forall_mem_append.mpr ⟨hwhole, hfraction⟩)]
      exact .point (areDigits_of_isAsciiDigit hwhole) (areDigits_of_isAsciiDigit hfraction)
        (by simpa using hne)
  | case2 =>
      rename_i hpoint
      have hself : Decimal.splitFraction behind = ([], behind) := by
        refine Decimal.splitFraction_eq_self fun c hc => ?_
        rintro rfl
        obtain ⟨rest, heq⟩ := List.head?_eq_some_iff.mp hc
        exact hpoint rest heq
      rw [hself] at hne
      rw [List.append_nil, digitsOf_eq_numberOf hwhole]
      exact ⟨whole, rfl, .whole (areDigits_of_isAsciiDigit hwhole) (by simpa using hne)⟩

theorem readFinite?_eq_some_iff {cs : List Char} {negative : Bool} {d : Decimal}
    (hascii : ∀ c ∈ cs, isAscii c = true) :
    Decimal.readFinite? negative cs = some d ↔
      ∃ mantissa mark coefficient places scale, cs = mantissa ++ mark ∧
        IsMantissa mantissa coefficient places ∧ IsExponent mark scale ∧
        Decimal.within? negative coefficient (scale - places) = some d := by
  constructor
  · intro h
    rw [Decimal.readFinite?_eq_splitFraction] at h
    have hcs := List.takeWhile_append_dropWhile (p := isAsciiDigit) (l := cs)
    have hwhole : ∀ c ∈ cs.takeWhile isAsciiDigit, isAsciiDigit c = true :=
      List.all_eq_true.mp List.all_takeWhile
    generalize cs.takeWhile isAsciiDigit = whole at h hcs hwhole
    generalize cs.dropWhile isAsciiDigit = behind at h hcs
    dsimp only at h
    split at h
    · cases h
    · rename_i hne
      split at h
      · cases h
      · rename_i scale hscale
        simp only [Bool.and_eq_true, List.isEmpty_iff] at hne
        obtain ⟨mantissa, heq, hmantissa⟩ := exists_isMantissa_splitFraction hwhole hne
        rw [← hcs, heq, List.forall_mem_append] at hascii
        exact ⟨mantissa, _, _, _, scale, hcs.symm.trans heq, hmantissa,
          (readExponent?_eq_some_iff hascii.2).mp hscale, h⟩
  · rintro ⟨mantissa, mark, coefficient, places, scale, rfl, hmantissa, hmark, h⟩
    rw [readFinite?_of_isMantissa negative hascii hmantissa hmark, h]

/-! What is no number -/

-- A numeral begins with a digit or with a point, and no name of a special value does.
theorem head_of_isMantissa {mantissa : List Char} {coefficient places : Nat}
    (h : IsMantissa mantissa coefficient places) (hascii : ∀ c ∈ mantissa, isAscii c = true) :
    ∃ c rest, mantissa = c :: rest ∧ (isAsciiDigit c = true ∨ c = '.') := by
  cases h with
  | whole hdigits hne =>
      obtain ⟨c, rest, rfl⟩ := List.exists_cons_of_ne_nil hne
      exact ⟨c, rest, rfl, .inl (isAsciiDigit_of_areDigits hdigits hascii c (by simp))⟩
  | @point whole fraction hwhole _ _ =>
      cases whole with
      | nil => exact ⟨'.', fraction, rfl, .inr rfl⟩
      | cons c whole =>
          rw [List.forall_mem_append] at hascii
          exact ⟨c, _, rfl, .inl (isAsciiDigit_of_areDigits hwhole hascii.1 c (by simp))⟩

theorem readNan?_or_readInfinite?_eq_none {c : Char} (hc : isAsciiDigit c = true ∨ c = '.')
    (negative : Bool) (cs : List Char) :
    Decimal.readNan? negative (c :: cs) = none ∧ Decimal.readInfinite? negative (c :: cs) = none := by
  have hnone : ∀ word ∈ ["nan".toList, "snan".toList, "inf".toList, "infinity".toList],
      Decimal.afterWord? word (c :: cs) = none := by
    intro word hword
    rcases hc with hc | rfl
    · have hall : ∀ word ∈ ["nan".toList, "snan".toList, "inf".toList, "infinity".toList],
          word.head?.map isAsciiDigit = some false := by decide
      exact Decimal.afterWord?_of_isAsciiDigit (hall word hword) hc
    · simp only [List.mem_cons, List.not_mem_nil, or_false] at hword
      rcases hword with rfl | rfl | rfl | rfl <;> rfl
  simp only [List.forall_mem_cons] at hnone
  obtain ⟨hnan, hsnan, hinf, hinfinity, -⟩ := hnone
  exact ⟨by rw [Decimal.readNan?, hnan, hsnan], by rw [Decimal.readInfinite?, hinf, hinfinity]; rfl⟩

end Numeral

/-! Texts of finite decimals -/

namespace Decimal

theorem ofText?_eq_splitSign {cs plains : List Char} (h : plainText? cs = some plains) :
    ofText? cs = (readNan? (splitSign plains).1 (splitSign plains).2).or
      ((readInfinite? (splitSign plains).1 (splitSign plains).2).or
        (readFinite? (splitSign plains).1 (splitSign plains).2)) := by
  rw [ofText?, h]

theorem isNumeral_of_ofText? {cs : List Char} {d : Decimal} (h : ofText? cs = some d)
    (hfinite : d.isFinite = true) : IsNumeral (strip cs) d := by
  cases hplains : plainText? cs with
  | none => simp [ofText?, hplains] at h
  | some plains =>
      rw [ofText?_eq_splitSign hplains] at h
      obtain ⟨hplainable, rfl⟩ := plainText?_eq_some_iff.mp hplains
      obtain ⟨sign, hsplit, hsign⟩ :=
        exists_isSign_splitSign (((strip cs).filter (· != '_')).map plain)
      generalize splitSign (((strip cs).filter (· != '_')).map plain) = parts at h hsplit hsign
      obtain ⟨negative, rest⟩ := parts
      rcases Option.or_eq_some_iff.mp h with h | ⟨-, h⟩
      · obtain ⟨signaling, payload, rfl⟩ := eq_of_readNan? h
        cases hfinite
      rcases Option.or_eq_some_iff.mp h with h | ⟨-, h⟩
      · obtain rfl := eq_of_readInfinite? h
        cases hfinite
      -- The parts of the plain text are those of the text, character by character.
      obtain ⟨sign, rest, htext, rfl, rfl⟩ := List.map_eq_append_iff.mp hsplit
      rw [htext, List.forall_mem_append] at hplainable
      have hascii : ∀ c ∈ rest.map plain, isAscii c = true :=
        List.forall_mem_map.mpr fun c hc => isAscii_plain (hplainable.2 c hc)
      obtain ⟨mantissa, mark, coefficient, places, scale, hrest, hmantissa, hmark, hwithin⟩ :=
        (readFinite?_eq_some_iff hascii).mp h
      obtain ⟨mantissa, mark, rfl, rfl, rfl⟩ := List.map_eq_append_iff.mp hrest
      obtain ⟨hs, hm, hk⟩ : (∀ c ∈ sign, IsPlainable c) ∧ (∀ c ∈ mantissa, IsPlainable c) ∧
          ∀ c ∈ mark, IsPlainable c := by
        simpa only [List.forall_mem_append] using hplainable
      obtain ⟨hrange, rfl⟩ := within?_eq_some_iff.mp hwithin
      exact .intro htext ((isSign_map_plain_iff hs).mp hsign)
        ((isMantissa_map_plain_iff hm).mp hmantissa) ((isExponent_map_plain_iff hk).mp hmark) hrange

theorem ofText?_of_isNumeral {cs : List Char} {d : Decimal} (h : IsNumeral (strip cs) d) :
    ofText? cs = some d := by
  obtain @⟨sign, mantissa, mark, negative, coefficient, places, scale, htext, hsign, hmantissa, hmark,
    hrange⟩ := h
  have hs := isPlainable_of_isSign hsign
  have hm := isPlainable_of_isMantissa hmantissa
  have hk := isPlainable_of_isExponent hmark
  have hplains : plainText? cs = some (sign.map plain ++ (mantissa.map plain ++ mark.map plain)) := by
    rw [plainText?_eq_some_iff, htext, List.map_append, List.map_append]
    exact ⟨List.forall_mem_append.mpr ⟨hs, List.forall_mem_append.mpr ⟨hm, hk⟩⟩, rfl⟩
  have hascii : ∀ cs : List Char, (∀ c ∈ cs, IsPlainable c) → ∀ c ∈ cs.map plain, isAscii c = true :=
    fun cs h => List.forall_mem_map.mpr fun c hc => isAscii_plain (h c hc)
  have hmantissa' := (isMantissa_map_plain_iff hm).mpr hmantissa
  obtain ⟨c, rest, hhead, hc⟩ := head_of_isMantissa hmantissa' (hascii mantissa hm)
  have hfirst : ∀ c ∈ (mantissa.map plain ++ mark.map plain).head?, c ≠ '+' ∧ c ≠ '-' := by
    rw [hhead]
    intro d hd
    obtain rfl := Option.some.inj hd
    rcases hc with hc | rfl
    · exact sign_ne_of_isAsciiDigit hc
    · decide
  have hsplit := splitSign_of_isSign ((isSign_map_plain_iff hs).mpr hsign) hfirst
  have hread := readFinite?_of_isMantissa negative
    (List.forall_mem_append.mpr ⟨hascii mantissa hm, hascii mark hk⟩) hmantissa'
    ((isExponent_map_plain_iff hk).mpr hmark)
  rw [ofText?_eq_splitSign hplains, hsplit, hread]
  rw [hhead, List.cons_append]
  obtain ⟨hnan, hinfinite⟩ := readNan?_or_readInfinite?_eq_none hc negative (rest ++ mark.map plain)
  rw [hnan, hinfinite, Option.none_or, Option.none_or]
  exact if_pos hrange

-- A text is read as a finite decimal exactly if it is a numeral with white space around it.
theorem ofText?_eq_some_iff {cs : List Char} {d : Decimal} (hfinite : d.isFinite = true) :
    ofText? cs = some d ↔ IsNumeral (strip cs) d :=
  ⟨fun h => isNumeral_of_ofText? h hfinite, ofText?_of_isNumeral⟩

end Decimal

end TableSchema.Number
