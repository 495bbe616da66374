import TableSchema.Proofs.Calendar.DateTimes
import TableSchema.Proofs.Rule.Ranges

namespace TableSchema.Rule

open TableSchema.Calendar

-- A date is satisfied by the days of the calendar, and a date with a time by those days
-- with a time of the day, in whole or broken seconds, with or without the letter Z. Other
-- zones are offsets at the end.
theorem dates_accepted_iff_denoted (context : Context) (value : String) (memory : Memory) :
    (∃ answer, date.evaluate context value memory = (.ok answer, memory) ∧
      (answer = true ↔ ∃ day, Denotes value.toList day)) ∧
    (¬EndsInOffset value.toList →
      ∃ answer, dateTime.evaluate context value memory = (.ok answer, memory) ∧
        (answer = true ↔ IsLocal value.toList ∨
          ∃ front, value.toList = front ++ ['Z'] ∧ IsLocal front)) := by
  constructor
  · refine ⟨isDate value.toList, ?_, isDate_iff⟩
    simp only [evaluate, holds]
  · intro hends
    refine ⟨isDateTime value.toList, ?_, isDateTime_iff_of_not_endsInOffset hends⟩
    simp only [evaluate, holds]

def leapDay : Std.Time.PlainDate :=
  ⟨2000, 2, 29, by decide⟩

-- The last moment of a leap day at the end of a century.
def lastMoment : String :=
  "2000-02-29T23:59:59.999999999"

theorem isLocal_lastMoment : IsLocal lastMoment.toList := by
  have hnumber : IsNumber 2 "59".toList 59 := by decide
  have hday : Denotes "2000-02-29".toList leapDay :=
    .intro (by decide : 1 ≤ leapDay.year.toInt) (by decide : IsNumber 4 "2000".toList 2000)
      (by decide : IsNumber 2 "02".toList 2) (by decide : IsNumber 2 "29".toList 29)
  have hclock : IsClock "23:59:59".toList :=
    .intro (by decide : IsNumber 2 "23".toList 23) hnumber hnumber (by decide) (by decide)
      (by decide)
  have hfraction : IsFraction ".999999999".toList :=
    .written (by decide : "999999999".toList ≠ []) (List.all_eq_true.mp (by decide))
  exact .intro hday hclock hfraction

theorem dates_accepted_iff_denoted_of_lastMoment :
    ¬EndsInOffset lastMoment.toList ∧
      (dateTime.evaluate emptyContext lastMoment .blank).1 = .ok true := by
  have hends := isLocal_lastMoment.not_endsInOffset
  obtain ⟨-, hdateTime⟩ := dates_accepted_iff_denoted emptyContext lastMoment .blank
  obtain ⟨answer, hanswer, hiff⟩ := hdateTime hends
  refine ⟨hends, ?_⟩
  rw [hanswer, hiff.mpr (.inl isLocal_lastMoment)]

-- Only the whole offset is compared with a day. With that, the offsets that name hours and
-- minutes of a day are accepted, and others only if they have more than 59 minutes.
theorem dateTime_accepts_offset_iff {value : String} {front offset : List Char} {h m : Nat}
    (htext : value.toList = front ++ offset) (hoffset : IsOffset offset h m) (context : Context)
    (memory : Memory) :
    ∃ answer, dateTime.evaluate context value memory = (.ok answer, memory) ∧
      (answer = true ↔ IsLocal front ∧ 60 * h + m < 24 * 60) ∧
      ((answer = true ↔ IsLocal front ∧ h ≤ 23 ∧ m ≤ 59) ↔ (answer = true → m ≤ 59)) := by
  have haccepted : isDateTime value.toList = true ↔ IsLocal front ∧ 60 * h + m < 24 * 60 := by
    rw [htext, isDateTime_append_iff hoffset]
  refine ⟨isDateTime value.toList, ?_, haccepted, ?_⟩
  · simp only [evaluate, holds]
  · rw [haccepted]
    constructor
    · intro hiff hday
      exact (hiff.mp hday).2.2
    · intro hminutes
      constructor
      · rintro ⟨hlocal, hday⟩
        have hminute := hminutes ⟨hlocal, hday⟩
        exact ⟨hlocal, by omega, hminute⟩
      · rintro ⟨hlocal, hhour, hminute⟩
        exact ⟨hlocal, by omega⟩

theorem dateTime_accepts_offset_iff_of_lastMinute :
    (lastMoment ++ "-23:59").toList = lastMoment.toList ++ "-23:59".toList ∧
      IsOffset "-23:59".toList 23 59 ∧
      (dateTime.evaluate emptyContext (lastMoment ++ "-23:59") .blank).1 = .ok true := by
  have htext : (lastMoment ++ "-23:59").toList = lastMoment.toList ++ "-23:59".toList :=
    String.toList_append
  have hoffset : IsOffset "-23:59".toList 23 59 :=
    .intro (.inr rfl) (by decide : IsNumber 2 "23".toList 23)
      (by decide : IsNumber 2 "59".toList 59)
  obtain ⟨answer, hanswer, hiff, -⟩ :=
    dateTime_accepts_offset_iff htext hoffset emptyContext .blank
  refine ⟨htext, hoffset, ?_⟩
  rw [hanswer, hiff.mpr ⟨isLocal_lastMoment, by decide⟩]

-- No clock shows ninety-nine minutes.
theorem dateTime_accepts_minutes_beyond_hour :
    (dateTime.evaluate emptyContext (lastMoment ++ "+05:99") .blank).1 = .ok true ∧
      ∃ front offset h m, (lastMoment ++ "+05:99").toList = front ++ offset ∧
        IsOffset offset h m ∧ 59 < m := by
  have htext : (lastMoment ++ "+05:99").toList = lastMoment.toList ++ "+05:99".toList :=
    String.toList_append
  have hoffset : IsOffset "+05:99".toList 5 99 :=
    .intro (.inl rfl) (by decide : IsNumber 2 "05".toList 5)
      (by decide : IsNumber 2 "99".toList 99)
  have haccepted : isDateTime (lastMoment ++ "+05:99").toList = true := by
    rw [htext, isDateTime_append_iff hoffset]
    exact ⟨isLocal_lastMoment, by decide⟩
  refine ⟨?_, lastMoment.toList, "+05:99".toList, 5, 99, htext, hoffset, by decide⟩
  simp only [evaluate, holds, haccepted]

end TableSchema.Rule
