import TableSchema.Proofs.Calendar.Dates

namespace TableSchema.Calendar

open TableSchema.Text

/-! Times of a day -/

-- Hours, minutes and seconds in two digits each. No minute has a leap second.
inductive IsClock : List Char → Prop
  | intro {hours minutes seconds : List Char} {h m s : Nat} (hhours : IsNumber 2 hours h)
      (hminutes : IsNumber 2 minutes m) (hseconds : IsNumber 2 seconds s) (hhour : h ≤ 23)
      (hminute : m ≤ 59) (hsecond : s ≤ 59) :
      IsClock (hours ++ ':' :: (minutes ++ ':' :: seconds))

theorem Time.read?_eq_some_iff {cs rest : List Char} {time : Time} :
    Time.read? cs = some (time, rest) ↔ ∃ hours minutes seconds,
      cs = hours ++ ':' :: (minutes ++ ':' :: (seconds ++ rest)) ∧ IsNumber 2 hours time.hour ∧
        IsNumber 2 minutes time.minute ∧ IsNumber 2 seconds time.second := by
  obtain ⟨h, m, s⟩ := time
  simp only [Time.read?, Option.bind_eq_bind, Option.bind_eq_some_iff, Prod.exists,
    number?_eq_some_iff, behind?_eq_some_iff]
  constructor
  · rintro ⟨_, _, ⟨hours, rfl, hhours⟩, _, rfl, _, _, ⟨minutes, rfl, hminutes⟩, _, rfl, _, _,
      ⟨seconds, rfl, hseconds⟩, htime⟩
    cases htime
    exact ⟨hours, minutes, seconds, rfl, hhours, hminutes, hseconds⟩
  · rintro ⟨hours, minutes, seconds, rfl, hhours, hminutes, hseconds⟩
    exact ⟨h, _, ⟨hours, rfl, hhours⟩, _, rfl, m, _, ⟨minutes, rfl, hminutes⟩, _, rfl, s, rest,
      ⟨seconds, rfl, hseconds⟩, rfl⟩

-- A time in front of a text that a clock can show.
theorem exists_time_read?_iff {cs rest : List Char} :
    (∃ time, Time.read? cs = some (time, rest) ∧ time.isValid = true) ↔
      ∃ front, cs = front ++ rest ∧ IsClock front := by
  simp only [Time.read?_eq_some_iff, Time.isValid, Bool.and_eq_true, decide_eq_true_eq]
  constructor
  · rintro ⟨time, ⟨hours, minutes, seconds, rfl, hhours, hminutes, hseconds⟩, ⟨hhour, hminute⟩,
      hsecond⟩
    refine ⟨_, ?_, .intro hhours hminutes hseconds hhour hminute hsecond⟩
    simp only [List.append_assoc, List.cons_append]
  · rintro ⟨_, rfl, @⟨hours, minutes, seconds, h, m, s, hhours, hminutes, hseconds, hhour, hminute,
      hsecond⟩⟩
    refine ⟨⟨h, m, s⟩, ⟨hours, minutes, seconds, ?_, hhours, hminutes, hseconds⟩, ⟨hhour, hminute⟩,
      hsecond⟩
    simp only [List.append_assoc, List.cons_append]

/-! Fractions of a second -/

inductive IsFraction : List Char → Prop
  | absent : IsFraction []
  | written {digits : List Char} (hne : digits ≠ [])
      (hdigits : ∀ c ∈ digits, isAsciiDigit c = true) : IsFraction ('.' :: digits)

theorem exists_isFraction_of_afterFraction? {cs rest : List Char}
    (h : afterFraction? cs = some rest) :
    ∃ fraction, cs = fraction ++ rest ∧ IsFraction fraction := by
  unfold afterFraction? at h
  split at h
  · rename_i cs
    split at h
    · cases h
    · rename_i hsome
      have hne : cs.takeWhile isAsciiDigit ≠ [] := by
        intro hnil
        exact hsome (by rw [hnil, List.isEmpty_nil])
      have hdigits : ∀ c ∈ cs.takeWhile isAsciiDigit, isAsciiDigit c = true :=
        fun c => List.mem_takeWhile_imp
      refine ⟨_, ?_, .written hne hdigits⟩
      rw [← Option.some.inj h, List.cons_append, List.takeWhile_append_dropWhile]
  · exact ⟨[], Option.some.inj h, .absent⟩

-- A text behind a fraction that does not go on with it.
theorem afterFraction?_append {fraction rest : List Char} (h : IsFraction fraction)
    (hrest : ∀ c ∈ rest.head?, c ≠ '.' ∧ isAsciiDigit c = false) :
    afterFraction? (fraction ++ rest) = some rest := by
  cases h with
  | absent =>
      rw [List.nil_append]
      unfold afterFraction?
      split
      · exact absurd rfl (hrest '.' rfl).1
      · rfl
  | @written digits hne hdigits =>
      have hstop : rest.takeWhile isAsciiDigit = [] ∧ rest.dropWhile isAsciiDigit = rest := by
        cases rest with
        | nil => exact ⟨rfl, rfl⟩
        | cons c rest => simp [(hrest c rfl).2]
      have htake : (digits ++ rest).takeWhile isAsciiDigit = digits := by
        rw [List.takeWhile_append_of_pos hdigits, hstop.1, List.append_nil]
      have hdrop : (digits ++ rest).dropWhile isAsciiDigit = rest := by
        rw [List.dropWhile_append_of_pos hdigits, hstop.2]
      have hsome : ¬digits.isEmpty = true := fun hnil => hne (List.isEmpty_iff.mp hnil)
      rw [List.cons_append, afterFraction?, htake, if_neg hsome, hdrop]

/-! Zones -/

-- A sign, hours and minutes in two digits each.
inductive IsOffset : List Char → Nat → Nat → Prop
  | intro {sign : Char} {hours minutes : List Char} {h m : Nat} (hsign : sign = '+' ∨ sign = '-')
      (hhours : IsNumber 2 hours h) (hminutes : IsNumber 2 minutes m) :
      IsOffset (sign :: (hours ++ ':' :: minutes)) h m

-- What may follow the time of a day. An offset has to be shorter than a whole day.
inductive IsZone : List Char → Prop
  | absent : IsZone []
  | universal : IsZone ['Z']
  | offset {cs : List Char} {h m : Nat} (hoffset : IsOffset cs h m) (hday : 60 * h + m < 24 * 60) :
      IsZone cs

theorem offsetMinutes?_eq_some_iff {cs : List Char} {count : Nat} :
    offsetMinutes? cs = some count ↔ ∃ hours minutes h m, cs = hours ++ ':' :: minutes ∧
      IsNumber 2 hours h ∧ IsNumber 2 minutes m ∧ 60 * h + m = count := by
  simp only [offsetMinutes?, Option.bind_eq_bind, Option.bind_eq_some_iff, Prod.exists,
    number?_eq_some_iff, behind?_eq_some_iff]
  constructor
  · rintro ⟨h, _, ⟨hours, rfl, hhours⟩, _, rfl, m, rest, ⟨minutes, rfl, hminutes⟩, hcount⟩
    split at hcount
    · rename_i hend
      obtain rfl := List.isEmpty_iff.mp hend
      rw [List.append_nil]
      exact ⟨hours, minutes, h, m, rfl, hhours, hminutes, Option.some.inj hcount⟩
    · cases hcount
  · rintro ⟨hours, minutes, h, m, rfl, hhours, hminutes, rfl⟩
    exact ⟨h, _, ⟨hours, rfl, hhours⟩, _, rfl, m, [], ⟨minutes, (List.append_nil _).symm, hminutes⟩,
      rfl⟩

theorem isZone_iff {cs : List Char} : isZone cs = true ↔ IsZone cs := by
  constructor
  · intro h
    unfold isZone at h
    split at h
    · exact .absent
    · exact .universal
    · rename_i sign cs _
      simp only [Bool.and_eq_true, Bool.or_eq_true, beq_iff_eq] at h
      obtain ⟨hsign, hmatch⟩ := h
      split at hmatch
      · rename_i count hcount
        obtain ⟨hours, minutes, h, m, rfl, hhours, hminutes, rfl⟩ :=
          offsetMinutes?_eq_some_iff.mp hcount
        exact .offset (.intro hsign hhours hminutes) (of_decide_eq_true hmatch)
      · cases hmatch
  · rintro (_ | _ | @⟨_, h, m, @⟨sign, hours, minutes, _, _, hsign, hhours, hminutes⟩, hday⟩)
    · rfl
    · rfl
    · have hcount : offsetMinutes? (hours ++ ':' :: minutes) = some (60 * h + m) :=
        offsetMinutes?_eq_some_iff.mpr ⟨hours, minutes, h, m, rfl, hhours, hminutes, rfl⟩
      unfold isZone
      split
      · rfl
      · rfl
      · rename_i heq
        obtain ⟨rfl, rfl⟩ := List.cons.inj heq
        simp only [hcount, Bool.and_eq_true, Bool.or_eq_true, beq_iff_eq, decide_eq_true_eq]
        exact ⟨hsign, hday⟩

-- No zone goes on with the fraction in front of it.
theorem IsZone.of_mem_head? {cs : List Char} (h : IsZone cs) :
    ∀ c ∈ cs.head?, c ≠ '.' ∧ isAsciiDigit c = false := by
  rcases h with _ | _ | ⟨⟨rfl | rfl, -, -⟩, -⟩
  all_goals simp [isAsciiDigit]

/-! Dates with a time -/

-- A date and a time without a zone.
inductive IsLocal : List Char → Prop
  | intro {date clock fraction : List Char} {day : Std.Time.PlainDate} (hdate : Denotes date day)
      (hclock : IsClock clock) (hfraction : IsFraction fraction) :
      IsLocal (date ++ 'T' :: (clock ++ fraction))

theorem isDateTime_iff {cs : List Char} :
    isDateTime cs = true ↔ ∃ front zone, cs = front ++ zone ∧ IsLocal front ∧ IsZone zone := by
  constructor
  · intro h
    unfold isDateTime at h
    split at h
    · rename_i date behindDate hdate
      split at h
      · rename_i time behindTime htime
        split at h
        · rename_i zone hzone
          simp only [Bool.and_eq_true] at h
          obtain ⟨⟨hday, hclock⟩, hend⟩ := h
          obtain ⟨front, day, rfl, hfront⟩ := exists_read?_iff.mp ⟨date, hdate, hday⟩
          obtain ⟨clock, rfl, hclock⟩ := exists_time_read?_iff.mp ⟨time, htime, hclock⟩
          obtain ⟨fraction, rfl, hfraction⟩ := exists_isFraction_of_afterFraction? hzone
          refine ⟨_, zone, ?_, .intro hfront hclock hfraction, isZone_iff.mp hend⟩
          simp only [List.append_assoc, List.cons_append]
        · cases h
      · cases h
    · cases h
  · rintro ⟨_, zone, rfl, @⟨date, clock, fraction, day, hdate, hclock, hfraction⟩, hzone⟩
    obtain ⟨d, hread, hday⟩ := exists_read?_iff.mpr
      ⟨date, day, (rfl : date ++ 'T' :: (clock ++ (fraction ++ zone)) = _), hdate⟩
    obtain ⟨time, htime, htimes⟩ := exists_time_read?_iff.mpr
      ⟨clock, (rfl : clock ++ (fraction ++ zone) = _), hclock⟩
    have hend := afterFraction?_append hfraction hzone.of_mem_head?
    simp only [List.append_assoc, List.cons_append]
    simp only [isDateTime, hread, htime, hend, hday, htimes, isZone_iff.mpr hzone, Bool.and_self]

/-! Offsets at the end -/

def EndsInOffset (cs : List Char) : Prop :=
  ∃ front offset h m, cs = front ++ offset ∧ IsOffset offset h m

-- A text with digits at its end is cut in one way in front of them.
theorem eq_of_append_cons {front other digits others : List Char} {c d : Char}
    (h : front ++ c :: digits = other ++ d :: others) (hc : isAsciiDigit c = false)
    (hd : isAsciiDigit d = false) (hdigits : ∀ x ∈ digits, isAsciiDigit x = true)
    (hothers : ∀ x ∈ others, isAsciiDigit x = true) : front = other ∧ c = d := by
  have hcut : ∀ {front digits : List Char} {c : Char}, isAsciiDigit c = false →
      (∀ x ∈ digits, isAsciiDigit x = true) →
      (front ++ c :: digits).reverse.dropWhile isAsciiDigit = c :: front.reverse := by
    intro front digits c hc hdigits
    have hreverse : ∀ x ∈ digits.reverse, isAsciiDigit x = true := by simpa using hdigits
    rw [List.reverse_append, List.reverse_cons, List.append_assoc,
      List.dropWhile_append_of_pos hreverse, List.singleton_append,
      List.dropWhile_cons_of_neg (by simp [hc])]
  have heads := congrArg (fun cs => cs.reverse.dropWhile isAsciiDigit) h
  simp only [hcut hc hdigits, hcut hd hothers, List.cons.injEq, List.reverse_inj] at heads
  exact ⟨heads.2, heads.1⟩

-- The last colon of a time stands behind another one, that of an offset behind a sign.
theorem IsLocal.not_endsInOffset {cs : List Char} (h : IsLocal cs) : ¬EndsInOffset cs := by
  rintro ⟨front, _, _, _, heq, @⟨sign, hours, minutes, _, _, hsign, hhours, hminutes⟩⟩
  obtain @⟨date, clock, fraction, -, -, hclock, hfraction⟩ := h
  have hcolon : isAsciiDigit ':' = false := by decide
  cases hfraction with
  | absent =>
      obtain @⟨hour, minute, second, _, _, _, -, hminute, hsecond, -, -, -⟩ := hclock
      have hlast : (date ++ 'T' :: (hour ++ ':' :: minute)) ++ ':' :: second =
          (front ++ sign :: hours) ++ ':' :: minutes := by
        simpa only [List.append_assoc, List.cons_append, List.append_nil] using heq
      obtain ⟨hfront, -⟩ :=
        eq_of_append_cons hlast hcolon hcolon hsecond.isAsciiDigit hminutes.isAsciiDigit
      have hother : (date ++ 'T' :: hour) ++ ':' :: minute = front ++ sign :: hours := by
        simpa only [List.append_assoc, List.cons_append] using hfront
      have hnodigit : isAsciiDigit sign = false := by
        rcases hsign with rfl | rfl <;> decide
      obtain ⟨-, rfl⟩ :=
        eq_of_append_cons hother hcolon hnodigit hminute.isAsciiDigit hhours.isAsciiDigit
      rcases hsign with hsign | hsign <;> cases hsign
  | @written digits hne hdigits =>
      have hlast : (date ++ 'T' :: clock) ++ '.' :: digits =
          (front ++ sign :: hours) ++ ':' :: minutes := by
        simpa only [List.append_assoc, List.cons_append] using heq
      obtain ⟨-, hpoint⟩ :=
        eq_of_append_cons hlast (by decide) hcolon hdigits hminutes.isAsciiDigit
      cases hpoint

theorem IsOffset.length_eq {cs : List Char} {h m : Nat} (hoffset : IsOffset cs h m) :
    cs.length = 6 := by
  obtain ⟨-, hhours, hminutes⟩ := hoffset
  have hfirst := hhours.length_eq
  have hsecond := hminutes.length_eq
  simp only [List.length_cons, List.length_append]
  omega

theorem IsOffset.eq {cs : List Char} {h m hour minute : Nat} (hoffset : IsOffset cs h m)
    (hother : IsOffset cs hour minute) : h = hour ∧ m = minute := by
  obtain ⟨-, hhours, hminutes⟩ := hoffset
  generalize htext : _ :: _ = cs at hother
  obtain ⟨-, hhour, hminute⟩ := hother
  obtain ⟨-, htail⟩ := List.cons.inj htext
  obtain ⟨rfl, hrest⟩ := List.append_inj htail (hhours.length_eq.trans hhour.length_eq.symm)
  obtain ⟨-, rfl⟩ := List.cons.inj hrest
  exact ⟨hhours.value_eq.symm.trans hhour.value_eq, hminutes.value_eq.symm.trans hminute.value_eq⟩

-- An offset is read as one only, and what stands in front of it as a date and a time.
theorem isDateTime_append_iff {front offset : List Char} {h m : Nat}
    (hoffset : IsOffset offset h m) :
    isDateTime (front ++ offset) = true ↔ IsLocal front ∧ 60 * h + m < 24 * 60 := by
  rw [isDateTime_iff]
  constructor
  · rintro ⟨other, zone, heq, hlocal, hzone⟩
    have hends : EndsInOffset (other ++ zone) := ⟨front, offset, h, m, heq.symm, hoffset⟩
    cases hzone with
    | absent =>
        rw [List.append_nil] at hends
        exact absurd hends hlocal.not_endsInOffset
    | universal =>
        obtain @⟨sign, hours, minutes, _, _, -, -, hminutes⟩ := hoffset
        have hlast : (front ++ sign :: hours) ++ ':' :: minutes = other ++ 'Z' :: [] := by
          simpa only [List.append_assoc, List.cons_append] using heq
        obtain ⟨-, hletter⟩ :=
          eq_of_append_cons hlast (by decide) (by decide) hminutes.isAsciiDigit (by simp)
        cases hletter
    | offset hother hday =>
        obtain ⟨rfl, rfl⟩ := List.append_inj' heq (hoffset.length_eq.trans hother.length_eq.symm)
        obtain ⟨rfl, rfl⟩ := hoffset.eq hother
        exact ⟨hlocal, hday⟩
  · rintro ⟨hlocal, hday⟩
    exact ⟨front, offset, rfl, hlocal, .offset hoffset hday⟩

-- A date with a time that is not in a zone with an offset may be in universal time.
theorem isDateTime_iff_of_not_endsInOffset {cs : List Char} (h : ¬EndsInOffset cs) :
    isDateTime cs = true ↔ IsLocal cs ∨ ∃ front, cs = front ++ ['Z'] ∧ IsLocal front := by
  rw [isDateTime_iff]
  constructor
  · rintro ⟨front, zone, rfl, hlocal, hzone⟩
    cases hzone with
    | absent => exact .inl (by rwa [List.append_nil])
    | universal => exact .inr ⟨front, rfl, hlocal⟩
    | offset hoffset _ => exact absurd ⟨front, zone, _, _, rfl, hoffset⟩ h
  · rintro (hlocal | ⟨front, rfl, hlocal⟩)
    · exact ⟨cs, [], (List.append_nil cs).symm, hlocal, .absent⟩
    · exact ⟨front, ['Z'], rfl, hlocal, .universal⟩

end TableSchema.Calendar
