import ArtifactDepot.Moment
import Mathlib.Algebra.Group.Nat.Defs
import Mathlib.Logic.Function.Iterate
import Mathlib.Tactic.SplitIfs

/-!
# The instants of moments

The count of microseconds from the epoch is that of the calendar: it grows by
one with every tick of the clock, over the ends of months and leap years
(`microseconds_iterate_next`).  The nanoseconds that are reported are a
thousand times this count, except for moments that are late: those before the
epoch whose second is cut off towards zero, and those far from the epoch whose
binary fraction is rounded up to the next second
(`nanoseconds_exact_unless_late`).
-/

namespace ArtifactDepot.Moment

variable {moment : Moment}

/-! ## The calendar -/

/-- A date and a time of day of the calendar, in any year and at any offset. -/
structure IsCivil (moment : Moment) : Prop where
  year : 1 ≤ moment.year
  month : 1 ≤ moment.month ∧ moment.month ≤ 12
  day : 1 ≤ moment.day ∧ moment.day ≤ daysInMonth moment.year moment.month
  hour : moment.hour < 24
  minute : moment.minute < 60
  second : moment.second < 60
  microsecond : moment.microsecond < 1000000

/-- A moment that can be reported: of the years 1 to 9999, less than a day from universal time. -/
structure IsValid (moment : Moment) : Prop extends IsCivil moment where
  year_le : moment.year ≤ 9999
  offset : -1440 < moment.offset ∧ moment.offset < 1440

instance (moment : Moment) : Decidable moment.IsValid :=
  decidable_of_iff
    (((1 ≤ moment.year ∧ (1 ≤ moment.month ∧ moment.month ≤ 12) ∧
      (1 ≤ moment.day ∧ moment.day ≤ daysInMonth moment.year moment.month) ∧
      moment.hour < 24) ∧ moment.minute < 60 ∧ moment.second < 60 ∧
      moment.microsecond < 1000000) ∧ moment.year ≤ 9999 ∧
      -1440 < moment.offset ∧ moment.offset < 1440)
    ⟨fun ⟨⟨⟨hyear, hmonth, hday, hhour⟩, hminute, hsecond, hmicrosecond⟩, hlast, hoffset⟩ =>
        ⟨⟨hyear, hmonth, hday, hhour, hminute, hsecond, hmicrosecond⟩, hlast, hoffset⟩,
      fun h => ⟨⟨⟨h.year, h.month, h.day, h.hour⟩, h.minute, h.second, h.microsecond⟩,
        h.year_le, h.offset⟩⟩

/-- The moment that everything is counted from. -/
def epoch : Moment := ⟨1970, 1, 1, 0, 0, 0, 0, 0⟩

/-- The first second of the next day. -/
def nextDay (moment : Moment) : Moment :=
  if moment.day < daysInMonth moment.year moment.month then
    ⟨moment.year, moment.month, moment.day + 1, 0, 0, 0, 0, moment.offset⟩
  else if moment.month < 12 then ⟨moment.year, moment.month + 1, 1, 0, 0, 0, 0, moment.offset⟩
  else ⟨moment.year + 1, 1, 1, 0, 0, 0, 0, moment.offset⟩

/-- The moment one microsecond later, as a clock at the same offset shows it. -/
def next (moment : Moment) : Moment :=
  if moment.microsecond < 999999 then { moment with microsecond := moment.microsecond + 1 }
  else if moment.second < 59 then { moment with second := moment.second + 1, microsecond := 0 }
  else if moment.minute < 59 then
    { moment with minute := moment.minute + 1, second := 0, microsecond := 0 }
  else if moment.hour < 23 then
    { moment with hour := moment.hour + 1, minute := 0, second := 0, microsecond := 0 }
  else moment.nextDay

/-- The days before a date, counted from the year one. -/
def daysBefore (moment : Moment) : Nat :=
  daysBeforeYear moment.year + daysBeforeMonth moment.year moment.month + (moment.day - 1)

theorem microseconds_eq (moment : Moment) :
    moment.microseconds =
      (((moment.daysBefore : Int) - epochDays) * 86400 +
        (moment.hour * 3600 + moment.minute * 60 + moment.second) - moment.offset * 60) * 1000000 +
          moment.microsecond := by
  simp [microseconds, wholeSeconds, daysBefore]

theorem daysInMonth_pos (year month : Nat) : 1 ≤ daysInMonth year month := by
  unfold daysInMonth
  split
  · split <;> decide
  · split <;> decide

theorem isLeap_iff (year : Nat) :
    isLeap year = true ↔ year % 4 = 0 ∧ (year % 100 ≠ 0 ∨ year % 400 = 0) := by
  simp [isLeap]

theorem daysBeforeYear_succ {year : Nat} (h : 1 ≤ year) :
    daysBeforeYear (year + 1) = daysBeforeYear year + if isLeap year then 366 else 365 := by
  obtain ⟨past, rfl⟩ := Nat.exists_eq_add_of_le' h
  have hcount (past : Nat) :
      daysBeforeYear (past + 1) = past * 365 + past / 4 - past / 100 + past / 400 := rfl
  have hcenturies : past / 100 ≤ past / 4 := Nat.div_le_div_left (by decide) (by decide)
  have hhundred : (past + 1) % 100 = 0 → (past + 1) % 4 = 0 := by omega
  have hcycle : (past + 1) % 400 = 0 → (past + 1) % 100 = 0 := by omega
  rw [hcount, hcount]
  simp only [isLeap_iff, Nat.succ_div, Nat.dvd_iff_mod_eq_zero]
  -- From here on only the remainders of the year matter.
  generalize past / 4 = fours at *
  generalize past / 100 = hundreds at *
  generalize past / 400 = cycles at *
  split_ifs <;> omega

theorem daysBeforeMonth_succ (year : Nat) {month : Nat} (h : 1 ≤ month) :
    daysBeforeMonth year (month + 1) = daysBeforeMonth year month + daysInMonth year month := by
  obtain ⟨before, rfl⟩ := Nat.exists_eq_add_of_le' h
  simp [daysBeforeMonth, List.range_succ]

/-- The months make up the year. -/
theorem daysBeforeMonth_last (year : Nat) :
    daysBeforeMonth year 12 + daysInMonth year 12 = if isLeap year then 366 else 365 := by
  cases h : isLeap year <;> simp [daysBeforeMonth, daysInMonth, List.range_succ, h]

/-- A date at midnight is a date and a time of day. -/
theorem IsCivil.midnight {year month day : Nat} (hyear : 1 ≤ year) (hmonth : 1 ≤ month ∧ month ≤ 12)
    (hday : 1 ≤ day ∧ day ≤ daysInMonth year month) (offset : Int) :
    IsCivil ⟨year, month, day, 0, 0, 0, 0, offset⟩ :=
  ⟨hyear, hmonth, hday, Nat.zero_lt_succ _, Nat.zero_lt_succ _, Nat.zero_lt_succ _,
    Nat.zero_lt_succ _⟩

/-- The next day is a date, and one day further on. -/
theorem nextDay_spec (h : moment.IsCivil) :
    moment.nextDay.IsCivil ∧ moment.nextDay.daysBefore = moment.daysBefore + 1 := by
  obtain ⟨hmonth, hmonthLast⟩ := h.month
  obtain ⟨hday, hdayLast⟩ := h.day
  unfold nextDay
  split
  · next hwithin =>
      refine ⟨.midnight h.year h.month ⟨Nat.le_add_left _ _, hwithin⟩ _, ?_⟩
      simp only [daysBefore]
      omega
  · next hend =>
      split
      · next hwithin =>
          refine ⟨.midnight h.year ⟨Nat.le_add_left _ _, hwithin⟩
            ⟨Nat.le_refl _, daysInMonth_pos _ _⟩ _, ?_⟩
          have hmonths := daysBeforeMonth_succ moment.year hmonth
          simp only [daysBefore]
          omega
      · next hlast =>
          refine ⟨.midnight (Nat.le_add_left _ _) ⟨Nat.le_refl _, by decide⟩
            ⟨Nat.le_refl _, daysInMonth_pos _ _⟩ _, ?_⟩
          have hdecember : moment.month = 12 := by omega
          have hyear := daysBeforeYear_succ h.year
          have hmonths := daysBeforeMonth_last moment.year
          have hfirst : daysBeforeMonth (moment.year + 1) 1 = 0 := rfl
          rw [hdecember] at hdayLast hend
          simp only [daysBefore, hdecember, hyear, hfirst]
          omega

/-- A tick of the clock leads to a date and a time of day, one microsecond further on. -/
theorem next_spec (h : moment.IsCivil) :
    moment.next.IsCivil ∧ moment.next.microseconds = moment.microseconds + 1 := by
  have hmicrosecond := h.microsecond
  have hsecond := h.second
  have hminute := h.minute
  have hhour := h.hour
  unfold next
  split
  · refine ⟨⟨h.year, h.month, h.day, h.hour, h.minute, h.second, by dsimp only; omega⟩, ?_⟩
    simp only [microseconds_eq, daysBefore]
    omega
  · split
    · refine ⟨⟨h.year, h.month, h.day, h.hour, h.minute, by dsimp only; omega, Nat.zero_lt_succ _⟩,
        ?_⟩
      simp only [microseconds_eq, daysBefore]
      omega
    · split
      · refine ⟨⟨h.year, h.month, h.day, h.hour, by dsimp only; omega, Nat.zero_lt_succ _,
          Nat.zero_lt_succ _⟩, ?_⟩
        simp only [microseconds_eq, daysBefore]
        omega
      · split
        · refine ⟨⟨h.year, h.month, h.day, by dsimp only; omega, Nat.zero_lt_succ _,
            Nat.zero_lt_succ _, Nat.zero_lt_succ _⟩, ?_⟩
          simp only [microseconds_eq, daysBefore]
          omega
        · obtain ⟨hcivil, hdays⟩ := nextDay_spec h
          refine ⟨hcivil, ?_⟩
          have hmidnight : moment.nextDay.hour = 0 ∧ moment.nextDay.minute = 0 ∧
              moment.nextDay.second = 0 ∧ moment.nextDay.microsecond = 0 ∧
                moment.nextDay.offset = moment.offset := by
            unfold nextDay
            split
            · exact ⟨rfl, rfl, rfl, rfl, rfl⟩
            · split
              · exact ⟨rfl, rfl, rfl, rfl, rfl⟩
              · exact ⟨rfl, rfl, rfl, rfl, rfl⟩
          obtain ⟨hhour', hminute', hsecond', hmicrosecond', hoffset⟩ := hmidnight
          rw [microseconds_eq, microseconds_eq, hdays, hhour', hminute', hsecond', hmicrosecond',
            hoffset]
          omega

/-- The microseconds count the ticks of the clock. -/
theorem microseconds_iterate_next (h : moment.IsCivil) (count : Nat) :
    (next^[count] moment).microseconds = moment.microseconds + count := by
  induction count generalizing moment with
  | zero => simp
  | succ count ih =>
      obtain ⟨hcivil, hnext⟩ := next_spec h
      rw [Function.iterate_succ_apply, ih hcivil, hnext]
      omega

/-! ## Rounding -/

/-- An even number is reached by rounding from half a unit below it on. -/
theorem le_roundQuotient_iff (numerator : Nat) {denominator target : Nat} (h : 0 < denominator)
    (heven : target % 2 = 0) :
    target ≤ roundQuotient numerator denominator ↔
      2 * (target * denominator) ≤ 2 * numerator + denominator := by
  have hsplit := Nat.div_add_mod' numerator denominator
  have hrest := Nat.mod_lt numerator h
  have hup : roundQuotient numerator denominator ≤ numerator / denominator + 1 := by
    unfold roundQuotient
    dsimp only
    split
    · omega
    · split <;> omega
  rcases Nat.lt_trichotomy target (numerator / denominator + 1) with hlt | heq | hgt
  · have hdown : numerator / denominator ≤ roundQuotient numerator denominator := by
      unfold roundQuotient
      dsimp only
      split
      · omega
      · split <;> omega
    have hmul := Nat.mul_le_mul_right denominator (Nat.le_of_lt_succ hlt)
    omega
  · have hmul : target * denominator = numerator / denominator * denominator + denominator := by
      rw [heq, Nat.succ_mul]
    rw [hmul]
    unfold roundQuotient
    dsimp only
    split
    · omega
    · split <;> omega
  · have hmul := Nat.mul_le_mul_right denominator (Nat.succ_le_of_lt hgt)
    rw [Nat.succ_mul, Nat.succ_mul] at hmul
    omega

/--
A quotient that is rounded on a finer scale gives its whole part, or the next number if what is
missing to that is at most half a unit of the scale.
-/
theorem roundQuotient_scaled (count : Nat) {denominator scale : Nat}
    (hdenominator : 0 < denominator) (hscale : 0 < scale) (heven : scale % 2 = 0) :
    roundQuotient (count * scale) denominator / scale =
      count / denominator +
        if (denominator - count % denominator) * (2 * scale) ≤ denominator then 1 else 0 := by
  have hsplit := Nat.div_add_mod' count denominator
  have hrest := Nat.mod_lt count hdenominator
  have hreach (whole : Nat) : whole ≤ roundQuotient (count * scale) denominator / scale ↔
      2 * (whole * denominator * scale) ≤ 2 * (count * scale) + denominator := by
    have htarget : whole * scale % 2 = 0 := by rw [Nat.mul_mod, heven, Nat.mul_zero, Nat.zero_mod]
    rw [Nat.le_div_iff_mul_le hscale, le_roundQuotient_iff _ hdenominator htarget,
      Nat.mul_right_comm whole scale denominator]
  have hdown : count / denominator ≤ roundQuotient (count * scale) denominator / scale := by
    rw [hreach]
    have hle := Nat.mul_le_mul_right scale (Nat.div_mul_le_self count denominator)
    omega
  have hmissing : (count / denominator + 1) * denominator * scale =
      count * scale + (denominator - count % denominator) * scale := by
    rw [← Nat.add_mul, Nat.succ_mul]
    congr 1
    omega
  have hup : count / denominator + 1 ≤ roundQuotient (count * scale) denominator / scale ↔
      (denominator - count % denominator) * (2 * scale) ≤ denominator := by
    rw [hreach, hmissing, Nat.mul_left_comm _ 2 scale]
    omega
  have hlast : ¬ count / denominator + 2 ≤ roundQuotient (count * scale) denominator / scale := by
    have htwice : (count / denominator + 2) * denominator * scale =
        (count / denominator + 1) * denominator * scale + denominator * scale := by
      rw [← Nat.add_mul, ← Nat.succ_mul]
    rw [hreach, htwice, hmissing]
    have hscaled := Nat.le_mul_of_pos_right denominator hscale
    have hpositive : 0 < (denominator - count % denominator) * scale :=
      Nat.mul_pos (by omega) hscale
    omega
  split
  · next hcarried =>
      have := hup.2 hcarried
      omega
  · next hkept =>
      have := mt hup.1 hkept
      omega

/-- The binary fraction of a count of microseconds is rounded up to the next second. -/
def CarriesOver (count : Nat) : Prop :=
  (1000000 - count % 1000000) * 2 ^ (53 - (count / 1000000).log2) ≤ 1000000

instance (count : Nat) : Decidable (CarriesOver count) := inferInstanceAs (Decidable (_ ≤ _))

/-- A fraction is only carried over far from the epoch, and never from the start of a second. -/
theorem CarriesOver.far {count : Nat} (h : CarriesOver count) :
    2 ^ 34 ≤ count / 1000000 ∧ (count / 1000000 < 2 ^ 52 → count % 1000000 ≠ 0) := by
  unfold CarriesOver at h
  have hmissing : 1 ≤ 1000000 - count % 1000000 := by omega
  have hpower : 2 ^ (53 - (count / 1000000).log2) ≤ 1000000 :=
    Nat.le_trans (Nat.le_mul_of_pos_left _ hmissing) h
  have hlog : 34 ≤ (count / 1000000).log2 := by
    by_contra hsmall
    have hmore : 2 ^ 20 ≤ 2 ^ (53 - (count / 1000000).log2) :=
      Nat.pow_le_pow_right (by decide) (by omega)
    omega
  have hwhole : count / 1000000 ≠ 0 := by
    intro hzero
    rw [hzero] at hlog
    exact absurd hlog (by decide)
  refine ⟨(Nat.le_log2 hwhole).1 hlog, fun hnear hstart => ?_⟩
  have hless := (Nat.log2_lt hwhole).2 hnear
  have hmore : 2 ^ 2 ≤ 2 ^ (53 - (count / 1000000).log2) :=
    Nat.pow_le_pow_right (by decide) (by omega)
  rw [hstart] at h
  omega

/-- The whole part of the fraction is the second, or the next one if it is carried over. -/
theorem binaryWhole_eq {count : Nat} (h : count / 1000000 < 2 ^ 52) :
    binaryWhole count 1000000 = count / 1000000 + if CarriesOver count then 1 else 0 := by
  by_cases hzero : count / 1000000 = 0
  · have hnear : ¬ CarriesOver count := fun hcarry => by
      have hfar := hcarry.far.1
      omega
    rw [if_neg hnear, hzero]
    simp only [binaryWhole, hzero, if_true]
  · have hlog := (Nat.log2_lt hzero).2 h
    have hplaces : (count / 1000000).log2 + 1 ≤ significantBits := Nat.le_trans hlog (by decide)
    -- Below 2 ^ 52 seconds at least one bit is left for the fraction, so the scale is even.
    obtain ⟨bits, hbits⟩ : ∃ bits, significantBits - ((count / 1000000).log2 + 1) = bits + 1 :=
      ⟨51 - (count / 1000000).log2, by unfold significantBits; omega⟩
    have hscale : 2 * Nat.pow 2 (bits + 1) = 2 ^ (53 - (count / 1000000).log2) := by
      unfold significantBits at hbits
      rw [show 53 - (count / 1000000).log2 = bits + 1 + 1 by omega, Nat.pow_succ 2 (bits + 1),
        Nat.mul_comm]
      rfl
    have heven : Nat.pow 2 (bits + 1) % 2 = 0 := by
      rw [Nat.pow_eq, Nat.pow_succ, Nat.mul_mod_left]
    simp only [binaryWhole, if_neg hzero, if_pos hplaces, hbits]
    have hround := roundQuotient_scaled count (show 0 < 1000000 by decide)
      (show 0 < Nat.pow 2 (bits + 1) from Nat.pow_pos (by decide)) heven
    rw [hround, hscale]
    rfl

/-! ## Late moments -/

/--
A moment whose report is one second late.  Before the epoch these are the
moments inside a second, as it is cut off towards zero, unless rounding moves
the fraction away from zero again; from the epoch on they are those that are
rounded up to the next second.
-/
def IsLate (moment : Moment) : Prop :=
  (moment.microseconds < 0 ∧ moment.microsecond ≠ 0 ∧
    ¬ CarriesOver moment.microseconds.natAbs) ∨
  (0 ≤ moment.microseconds ∧ CarriesOver moment.microseconds.natAbs)

instance (moment : Moment) : Decidable moment.IsLate := inferInstanceAs (Decidable (_ ∨ _))

theorem daysInMonth_le (year month : Nat) : daysInMonth year month ≤ 31 := by
  unfold daysInMonth
  split
  · split <;> decide
  · split <;> decide

theorem daysBeforeMonth_le (year before : Nat) :
    daysBeforeMonth year (before + 1) ≤ 31 * before := by
  induction before with
  | zero => exact Nat.le_refl _
  | succ before ih =>
      have hmonth := daysInMonth_le year (before + 1)
      rw [daysBeforeMonth_succ year (Nat.le_add_left _ _)]
      omega

/-- The years 1 to 9999 are near enough to the epoch to keep a part of the microseconds. -/
theorem IsValid.near (h : moment.IsValid) : moment.microseconds.natAbs / 1000000 < 2 ^ 52 := by
  obtain ⟨before, hbefore⟩ := Nat.exists_eq_add_of_le' h.month.1
  have hmonths := daysBeforeMonth_le moment.year before
  have hmonth := h.month.2
  have hday := Nat.le_trans h.day.2 (daysInMonth_le _ _)
  have hyears : daysBeforeYear moment.year ≤ 366 * 9999 := by
    have hyear := h.year_le
    unfold daysBeforeYear
    dsimp only
    omega
  have hdays : moment.daysBefore ≤ 366 * 9999 + 372 := by
    unfold daysBefore
    rw [hbefore] at hmonth ⊢
    omega
  have hhour := h.hour
  have hminute := h.minute
  have hsecond := h.second
  have hmicrosecond := h.microsecond
  have hoffset := h.offset
  have hepoch : epochDays = 719162 := by decide
  rw [microseconds_eq, hepoch]
  omega

/-- The microsecond of a moment is what its count leaves over whole seconds. -/
theorem IsCivil.microsecond_eq (h : moment.IsCivil) :
    (moment.microsecond : Int) = moment.microseconds % 1000000 := by
  have hmicrosecond := h.microsecond
  unfold microseconds
  omega

theorem nanoseconds_eq (h : moment.IsValid) :
    moment.nanoseconds =
      1000 * moment.microseconds + if moment.IsLate then 1000000000 else 0 := by
  have hnear := h.near
  have hrest := h.microsecond_eq
  have hwhole := binaryWhole_eq hnear
  unfold nanoseconds binarySeconds
  simp only [hwhole]
  by_cases hbefore : moment.microseconds < 0
  · rw [if_pos hbefore]
    by_cases hcarry : CarriesOver moment.microseconds.natAbs
    · have hintime : ¬ moment.IsLate := by
        rintro (⟨-, -, hkept⟩ | ⟨hafter, -⟩)
        · exact hkept hcarry
        · omega
      have hfraction := hcarry.far.2 hnear
      rw [if_pos hcarry, if_neg hintime]
      omega
    · rw [if_neg hcarry]
      by_cases hstart : moment.microsecond = 0
      · have hintime : ¬ moment.IsLate := by
          rintro (⟨-, hinside, -⟩ | ⟨-, hcarried⟩)
          · exact hinside hstart
          · exact hcarry hcarried
        rw [if_neg hintime]
        omega
      · have hlate : moment.IsLate := Or.inl ⟨hbefore, hstart, hcarry⟩
        rw [if_pos hlate]
        omega
  · have hafter : 0 ≤ moment.microseconds := Int.not_lt.1 hbefore
    have hlate : moment.IsLate ↔ CarriesOver moment.microseconds.natAbs :=
      ⟨fun h => h.elim (fun hearly => absurd hearly.1 hbefore) And.right,
        fun hcarry => Or.inr ⟨hafter, hcarry⟩⟩
    rw [if_neg hbefore]
    simp only [hlate]
    split <;> omega

/-- A late moment is inside a second. -/
theorem IsLate.microsecond_ne_zero (hlate : moment.IsLate) (h : moment.IsValid) :
    moment.microsecond ≠ 0 := by
  have hrest := h.microsecond_eq
  obtain ⟨-, hinside, -⟩ | ⟨-, hcarry⟩ := hlate
  · exact hinside
  · have hfraction := hcarry.far.2 h.near
    omega

/-- Within 2 ^ 34 seconds of the epoch the late moments are those before it and inside a second. -/
theorem isLate_iff_of_near (hnear : moment.microseconds.natAbs < 2 ^ 34 * 1000000) :
    moment.IsLate ↔ moment.microseconds < 0 ∧ moment.microsecond ≠ 0 := by
  have hkept : ¬ CarriesOver moment.microseconds.natAbs := fun hcarry => by
    have hfar := hcarry.far.1
    omega
  constructor
  · rintro (⟨hbefore, hinside, -⟩ | ⟨-, hcarry⟩)
    · exact ⟨hbefore, hinside⟩
    · exact absurd hcarry hkept
  · rintro ⟨hbefore, hinside⟩
    exact Or.inl ⟨hbefore, hinside, hkept⟩

/-- Whether a moment is late depends on its instant only. -/
theorem isLate_congr {other : Moment} (h : moment.IsCivil) (hother : other.IsCivil)
    (hsame : other.microseconds = moment.microseconds) : other.IsLate ↔ moment.IsLate := by
  have hrest : other.microsecond = moment.microsecond := by
    have hleft := h.microsecond_eq
    have hright := hother.microsecond_eq
    omega
  unfold IsLate
  rw [hsame, hrest]

/--
The nanoseconds of a moment are a thousand times its microseconds, which count
the ticks of the clock from the epoch, and one second more if the moment is
late.  They depend on the instant only, and order the moments that are not late
as their instants.
-/
theorem nanoseconds_exact_unless_late (h : moment.IsValid) :
    (epoch.microseconds = 0 ∧
      (∀ count, (next^[count] moment).microseconds = moment.microseconds + count) ∧
      ∀ minutes : Int, { moment with offset := minutes }.microseconds =
        moment.microseconds + (moment.offset - minutes) * 60000000) ∧
    moment.nanoseconds =
      1000 * moment.microseconds + (if moment.IsLate then 1000000000 else 0) ∧
    (moment.IsLate → moment.microsecond ≠ 0) ∧
    (moment.microseconds.natAbs < 2 ^ 34 * 1000000 →
      (moment.IsLate ↔ moment.microseconds < 0 ∧ moment.microsecond ≠ 0)) ∧
    ∀ other : Moment, other.IsValid →
      (other.microseconds = moment.microseconds → other.nanoseconds = moment.nanoseconds) ∧
      (¬ moment.IsLate → ¬ other.IsLate →
        (moment.nanoseconds < other.nanoseconds ↔
          moment.microseconds < other.microseconds)) := by
  have hvalue := nanoseconds_eq h
  refine ⟨⟨by decide, microseconds_iterate_next h.toIsCivil, fun minutes => ?_⟩, hvalue,
    fun hlate => hlate.microsecond_ne_zero h, isLate_iff_of_near, fun other hother => ?_⟩
  · simp only [microseconds_eq, daysBefore]
    omega
  · have hvalue' := nanoseconds_eq hother
    refine ⟨fun hsame => ?_, fun hexact hexact' => ?_⟩
    · rw [hvalue, hvalue', hsame]
      simp only [isLate_congr h.toIsCivil hother.toIsCivil hsame]
    · rw [hvalue, hvalue', if_neg hexact, if_neg hexact']
      omega

/-- Half a second before the epoch is reported as half a second after it. -/
theorem nanoseconds_exact_unless_late_before_epoch :
    (⟨1969, 12, 31, 23, 59, 59, 500000, 0⟩ : Moment).IsValid ∧
      (⟨1969, 12, 31, 23, 59, 59, 500000, 0⟩ : Moment).IsLate ∧
      (⟨1969, 12, 31, 23, 59, 59, 500000, 0⟩ : Moment).microseconds = -500000 ∧
      (⟨1969, 12, 31, 23, 59, 59, 500000, 0⟩ : Moment).nanoseconds = 500000000 := by
  have hvalid : (⟨1969, 12, 31, 23, 59, 59, 500000, 0⟩ : Moment).IsValid := by decide
  have hcount : (⟨1969, 12, 31, 23, 59, 59, 500000, 0⟩ : Moment).microseconds = -500000 := by
    decide
  obtain ⟨-, hvalue, -, hnear, -⟩ := nanoseconds_exact_unless_late hvalid
  have hlate := (hnear (by rw [hcount]; decide)).2 ⟨by rw [hcount]; decide, by decide⟩
  refine ⟨hvalid, hlate, hcount, ?_⟩
  rw [hvalue, if_pos hlate, hcount]
  decide

end ArtifactDepot.Moment
