import Entitlement.Moment

/-!
The calendar of moments. It starts from 1 January 1970, each date is followed by the next one of the Gregorian
calendar, and the moments are those whose year has a date.
-/

namespace Entitlement.Moment

def isLeap (year : Int) : Bool := year % 4 = 0 && (year % 100 ≠ 0 || year % 400 = 0)

def monthLength (leap : Bool) : Nat → Nat
  | 2 => if leap then 29 else 28
  | 4 | 6 | 9 | 11 => 30
  | _ => 31

/-- The date after a date. -/
def dayAfter : Int × Nat × Nat → Int × Nat × Nat
  | (year, month, day) =>
    if day < monthLength (isLeap year) month then (year, month, day + 1)
    else if month < 12 then (year, month + 1, 1)
    else (year + 1, 1, 1)

/-! ### Years from March -/

/-- Month and day that lie a number of days after 1 March. -/
def monthDay (days : Nat) : Nat × Nat :=
  let month := (5 * days + 2) / 153
  (if month < 10 then month + 3 else month - 9, days - (153 * month + 2) / 5 + 1)

def fromMarch (year : Int) (days : Nat) : Int × Nat × Nat :=
  let (month, day) := monthDay days
  (year + (if month ≤ 2 then 1 else 0), month, day)

theorem fromMarch_eq {days month day : Nat} (here : monthDay days = (month, day)) (year : Int) :
    fromMarch year days = (year + (if month ≤ 2 then 1 else 0), month, day) := by
  rw [fromMarch, here]

/-- The months from March to February have their lengths, as far as the last day of February is not reached. -/
theorem monthDay_succ {days month day : Nat} (here : monthDay days = (month, day)) (before : days < 364) (leap : Bool) :
    day < monthLength leap month ∧ monthDay (days + 1) = (month, day + 1) ∨
      day = monthLength leap month ∧ (month = 12 ∧ monthDay (days + 1) = (1, 1) ∨
        month < 12 ∧ month ≠ 2 ∧ monthDay (days + 1) = (month + 1, 1)) := by
  have all : ∀ days ∈ List.range 364, ∀ leap,
      (monthDay days).2 < monthLength leap (monthDay days).1 ∧
          monthDay (days + 1) = ((monthDay days).1, (monthDay days).2 + 1) ∨
        (monthDay days).2 = monthLength leap (monthDay days).1 ∧
          ((monthDay days).1 = 12 ∧ monthDay (days + 1) = (1, 1) ∨
            (monthDay days).1 < 12 ∧ (monthDay days).1 ≠ 2 ∧
              monthDay (days + 1) = ((monthDay days).1 + 1, 1)) := by decide +kernel
  simpa only [here] using all days (List.mem_range.mpr before) leap

/-- A year from March ends with the February of the next year. -/
def isLast (year : Int) (days : Nat) : Prop := days = 364 ∧ isLeap (year + 1) = false ∨ days = 365

theorem dayAfter_fromMarch {year : Int} {days : Nat} (inside : days < 365) (not_last : ¬ isLast year days) :
    dayAfter (fromMarch year days) = fromMarch year (days + 1) := by
  rcases Nat.lt_or_ge days 364 with before | at_end
  · obtain ⟨month, day, here⟩ : ∃ month day, monthDay days = (month, day) := ⟨_, _, rfl⟩
    rcases monthDay_succ here before (isLeap (year + (if month ≤ 2 then 1 else 0))) with
      ⟨within, next⟩ | ⟨rfl, ⟨rfl, next⟩ | ⟨inside, not_february, next⟩⟩
    · rw [fromMarch_eq here, fromMarch_eq next]
      exact if_pos within
    · rw [fromMarch_eq here, fromMarch_eq next, dayAfter, if_neg (Nat.lt_irrefl _), if_neg (Nat.lt_irrefl _)]
      simp
    · have same : month + 1 ≤ 2 ↔ month ≤ 2 := by omega
      rw [fromMarch_eq here, fromMarch_eq next, dayAfter, if_neg (Nat.lt_irrefl _), if_pos inside]
      simp only [same]
  · obtain rfl : days = 364 := by omega
    have leap : isLeap (year + 1) = true := by
      simpa [isLast] using not_last
    have before : dayAfter (year + 1, 2, 28) = (year + 1, 2, 29) := by
      rw [dayAfter, leap]
      rfl
    exact before

theorem dayAfter_fromMarch_last {year : Int} {days : Nat} (last : isLast year days) :
    dayAfter (fromMarch year days) = fromMarch (year + 1) 0 := by
  have first : fromMarch (year + 1) 0 = (year + 1, 3, 1) := by
    rw [fromMarch_eq (rfl : monthDay 0 = (3, 1)), if_neg (by decide), Int.add_zero]
    rfl
  rw [first]
  rcases last with ⟨rfl, common⟩ | rfl
  · have last : dayAfter (year + 1, 2, 28) = (year + 1, 3, 1) := by
      rw [dayAfter, common]
      rfl
    exact last
  · have last : dayAfter (year + 1, 2, 29) = (year + 1, 3, 1) := by
      rw [dayAfter]
      cases isLeap (year + 1) <;> rfl
    exact last

/-! ### Eras, centuries and leap years -/

variable {days era : Int} {century quad year day : Nat}

theorem isLeap_iff (centuries : century < 4) (quads : quad < 25) (years : year < 4) :
    isLeap (era * 400 + century * 100 + quad * 4 + year + 1) ↔ year = 3 ∧ (quad = 24 → century = 3) := by
  simp only [isLeap, Bool.and_eq_true, Bool.or_eq_true, decide_eq_true_eq]
  omega

/-- A day by the years that lie between it and the start of an era of 400 years. -/
structure Parts (days era : Int) (century quad year day : Nat) : Prop where
  sum : days + 719468 = era * 146097 + century * 36524 + quad * 1461 + year * 365 + day
  centuries : century < 4
  quads : quad < 25
  years : year < 4
  within : day < 365 ∨ day = 365 ∧ year = 3 ∧ (quad = 24 → century = 3)

theorem exists_parts (days : Int) : ∃ era century quad year day, Parts days era century quad year day := by
  let era := (days + 719468) / 146097
  let dayOfEra := ((days + 719468) % 146097).toNat
  let century := min (dayOfEra / 36524) 3
  let dayOfCentury := dayOfEra - century * 36524
  let quad := dayOfCentury / 1461
  let dayOfQuad := dayOfCentury - quad * 1461
  let year := min (dayOfQuad / 365) 3
  refine ⟨era, century, quad, year, dayOfQuad - year * 365, ?_, ?_, ?_, ?_, ?_⟩ <;> omega

theorem Parts.date_eq {start : Int} (parts : Parts days era century quad year day)
    (same : era * 400 + century * 100 + quad * 4 + year = start) : date days = fromMarch start day := by
  subst same
  obtain ⟨sum, centuries, quads, years, within⟩ := parts
  have at_era : (days + 719468).fdiv 146097 = era := by
    rw [Int.fdiv_eq_ediv_of_nonneg _ (by decide)]
    omega
  have at_day : (days + 719468 - era * 146097).toNat = century * 36524 + quad * 1461 + year * 365 + day := by omega
  generalize of_era : century * 36524 + quad * 1461 + year * 365 + day = dayOfEra at at_day
  have at_year : (dayOfEra - dayOfEra / 1460 + dayOfEra / 36524 - dayOfEra / 146096) / 365 =
      century * 100 + quad * 4 + year := by
    have quads_passed : dayOfEra / 1460 = century * 25 + quad ∧ century * 24 + quad + year * 365 + day < 1460 ∨
        dayOfEra / 1460 = century * 25 + quad + 1 ∧ 1460 ≤ century * 24 + quad + year * 365 + day := by omega
    have centuries_passed : dayOfEra / 36524 - dayOfEra / 146096 = century := by
      rcases Nat.lt_or_ge (quad * 1461 + year * 365 + day) 36524 with inside | last
      · omega
      · have : century = 3 := by omega
        omega
    rcases quads_passed with ⟨passed, -⟩ | ⟨passed, -⟩ <;> omega
  have of_year : dayOfEra - (365 * (century * 100 + quad * 4 + year) +
      (century * 100 + quad * 4 + year) / 4 - (century * 100 + quad * 4 + year) / 100) = day := by omega
  have regroup : (century * 100 + quad * 4 + year : Nat) + era * 400 = era * 400 + century * 100 + quad * 4 + year := by
    omega
  unfold date fromMarch monthDay
  simp only [at_era, at_day, at_year, of_year, regroup]

theorem isLast_iff (parts : Parts days era century quad year day) :
    isLast (era * 400 + century * 100 + quad * 4 + year) day ↔
      day = 364 ∧ ¬ (year = 3 ∧ (quad = 24 → century = 3)) ∨ day = 365 := by
  rw [isLast, ← Bool.not_eq_true, isLeap_iff parts.centuries parts.quads parts.years]

/-- The day after the last day of a year starts the next year, quad, century or era. -/
theorem Parts.next_year (parts : Parts days era century quad year day)
    (last : isLast (era * 400 + century * 100 + quad * 4 + year) day) :
    date (days + 1) = fromMarch (era * 400 + century * 100 + quad * 4 + year + 1) 0 := by
  have last := (isLast_iff parts).mp last
  obtain ⟨sum, centuries, quads, years, within⟩ := parts
  rcases Nat.lt_or_ge year 3 with more_years | no_more_years
  · have next : Parts (days + 1) era century quad (year + 1) 0 := by constructor <;> omega
    exact next.date_eq (by omega)
  obtain rfl : year = 3 := by omega
  rcases Nat.lt_or_ge quad 24 with more_quads | no_more_quads
  · have next : Parts (days + 1) era century (quad + 1) 0 0 := by constructor <;> omega
    exact next.date_eq (by omega)
  obtain rfl : quad = 24 := by omega
  rcases Nat.lt_or_ge century 3 with more_centuries | no_more_centuries
  · have next : Parts (days + 1) era (century + 1) 0 0 0 := by constructor <;> omega
    exact next.date_eq (by omega)
  · have next : Parts (days + 1) (era + 1) 0 0 0 0 := by constructor <;> omega
    exact next.date_eq (by omega)

theorem date_zero : date 0 = (1970, 1, 1) := by decide +kernel

/-- The calendar leaves out no date and has none twice. -/
theorem date_succ (days : Int) : date (days + 1) = dayAfter (date days) := by
  obtain ⟨era, century, quad, year, day, parts⟩ := exists_parts days
  rw [parts.date_eq rfl]
  by_cases last : isLast (era * 400 + century * 100 + quad * 4 + year) day
  · rw [dayAfter_fromMarch_last last, parts.next_year last]
  · have not_last := mt (isLast_iff parts).mpr last
    obtain ⟨sum, centuries, quads, years, within⟩ := parts
    have next : Parts (days + 1) era century quad year (day + 1) := by constructor <;> omega
    rw [dayAfter_fromMarch (by omega) last, next.date_eq rfl]

/-! ### Years that have dates -/

theorem monthDay_le_two {days : Nat} (within : days < 366) : (monthDay days).1 ≤ 2 ↔ 306 ≤ days := by
  unfold monthDay
  dsimp only
  split <;> omega

theorem isSome_ofSeconds?_iff_day {seconds : Int} :
    (ofSeconds? seconds).isSome ↔ -96465292 ≤ seconds / 86400 ∧ seconds / 86400 < 95026237 := by
  rw [ofSeconds?, Option.isSome_ite, Bool.and_eq_true, decide_eq_true_eq, decide_eq_true_eq]
  omega

/-- Moments are those of the years from -262143 to 262142. -/
theorem isSome_ofSeconds?_iff_year {seconds : Int} : (ofSeconds? seconds).isSome ↔
    -262143 ≤ (date (seconds.fdiv 86400)).1 ∧ (date (seconds.fdiv 86400)).1 ≤ 262142 := by
  obtain ⟨era, century, quad, year, day, parts⟩ := exists_parts (seconds.fdiv 86400)
  have at_year : (date (seconds.fdiv 86400)).1 =
      era * 400 + century * 100 + quad * 4 + year + (if 306 ≤ day then 1 else 0) := by
    have within : day < 366 := by
      have := parts.within
      omega
    rw [parts.date_eq rfl, fromMarch]
    simp only [monthDay_le_two within]
  obtain ⟨sum, centuries, quads, years, within⟩ := parts
  generalize of_parts : era * 400 + century * 100 + quad * 4 + year = start at at_year
  rw [isSome_ofSeconds?_iff_day, at_year]
  rw [Int.fdiv_eq_ediv_of_nonneg _ (by decide)] at sum
  have at_start : seconds / 86400 + 719468 = 365 * start + start / 4 - start / 100 + start / 400 + day := by
    omega
  have of_start : start < -262144 ∨ start = -262144 ∨ -262144 < start ∧ start < 262142 ∨ start = 262142 ∨
      262142 < start := by omega
  rcases of_start with _ | _ | _ | _ | _ <;> split <;> omega

/-- The last day of a year that is not a leap year, and the two ends of time. -/
example : text ⟨-1⟩ = "1969-12-31T23:59:59Z" ∧
    (ofSeconds? (-8334601228800)).map text = some "-262143-01-01T00:00:00Z" ∧
    (ofSeconds? 8210266876799).map text = some "+262142-12-31T23:59:59Z" := by decide +kernel

end Entitlement.Moment
