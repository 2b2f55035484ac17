import DateShorthand.Proofs.Calendar.Moves

/-!
# Business days of a month

The days of a month are gone through, forwards or backwards, until so many business days are found.
The one found has one fewer before it, a month has between 20 and 23 of them, and backwards they are
met the other way round.
-/

namespace DateShorthand.Date

/-! ## The days of a month in order -/

theorem mem_monthDays_iff (d e : Date) : e ∈ d.monthDays ↔ e.monthIndex = d.monthIndex := by
  have hd := d.day_mem
  have he := e.day_mem
  simp only [monthDays, List.mem_filterMap, List.mem_range'_1]
  constructor
  · rintro ⟨day, -, h⟩
    rw [ofFields?] at h
    split at h
    · rw [Option.some.injEq] at h
      rw [← h]
      rfl
    · simp at h
  · intro h
    obtain ⟨hyear, hmonth⟩ := monthIndex_eq_iff.mp h
    rw [← hyear, ← hmonth]
    exact ⟨e.day, by omega, dif_pos ⟨e.year_mem, e.month_mem, e.day_mem⟩⟩

theorem monthDays_congr {d e : Date} (h : d.monthIndex = e.monthIndex) : d.monthDays = e.monthDays := by
  obtain ⟨hyear, hmonth⟩ := monthIndex_eq_iff.mp h
  simp only [monthDays, hyear, hmonth]

theorem day_of_ofFields? {year month day : Nat} {d : Date} (h : ofFields? year month day = some d) :
    d.day = day := by
  unfold ofFields? at h
  split at h
  · rw [Option.some.injEq] at h
    rw [← h]
  · simp at h

theorem pairwise_monthDays (d : Date) : d.monthDays.Pairwise fun e later => e.day < later.day := by
  refine List.pairwise_filterMap.mpr ((List.pairwise_lt_range' 1).imp ?_)
  intro day later hlt e he f hf
  rwa [day_of_ofFields? he, day_of_ofFields? hf]

/-! ## How many business days -/

def businessDayCount (d : Date) : Nat := d.monthDays.countP isBusinessDay

/-- The business days of the month of `d` that come before `d`. -/
def businessDaysBefore (d : Date) : Nat :=
  d.monthDays.countP fun e => e.day < d.day && e.isBusinessDay

/-- The business days from day 1 of the calendar, a Monday, to day `n`. -/
def businessDaysUpTo (n : Nat) : Nat := 5 * (n / 7) + min (n % 7) 5

theorem businessDaysUpTo_succ (n : Nat) : businessDaysUpTo (n + 1) =
    businessDaysUpTo n + if (n + 1) % 7 ≠ 6 ∧ (n + 1) % 7 ≠ 0 then 1 else 0 := by
  unfold businessDaysUpTo
  split_ifs <;> omega

/-- The first `n` days of a month continue the count from the day before it. -/
theorem businessDaysUpTo_add_countP (d : Date) {n : Nat} (h : n ≤ daysInMonth d.year d.month) :
    businessDaysUpTo (daysBefore d.monthIndex)
        + ((List.range' 1 n).filterMap (ofFields? d.year d.month)).countP isBusinessDay
      = businessDaysUpTo (daysBefore d.monthIndex + n) := by
  induction n with
  | zero => rfl
  | succ n ih =>
    let e : Date := ⟨d.year, d.month, 1 + n, d.year_mem, d.month_mem, by omega⟩
    have he : ofFields? d.year d.month (1 + n) = some e := dif_pos ⟨e.year_mem, e.month_mem, e.day_mem⟩
    have hnumber : e.number = daysBefore d.monthIndex + n + 1 := by
      rw [number_eq]
      exact congrArg (daysBefore d.monthIndex + ·) (Nat.add_comm 1 n)
    rw [List.range'_1_concat, List.filterMap_append, List.countP_append, ← Nat.add_assoc, ih (by omega),
      ← Nat.add_assoc, businessDaysUpTo_succ, ← hnumber]
    simp only [List.filterMap_cons, he, List.filterMap_nil, List.countP_singleton, isBusinessDay_iff]

theorem businessDayCount_bounds (d : Date) : 20 ≤ d.businessDayCount ∧ d.businessDayCount ≤ 23 := by
  have hcount := businessDaysUpTo_add_countP d (Nat.le_refl _)
  have hlength := daysInMonth_bounds d.year d.month
  change _ + d.businessDayCount = _ at hcount
  unfold businessDaysUpTo at hcount
  omega

/-! ## Counting up to a business day -/

section

variable {n : Int} {count : Nat} {days : List Date} {e : Date}

@[simp] theorem findBusinessDay?_nil : findBusinessDay? n count [] = none := rfl

theorem findBusinessDay?_cons (day : Date) : findBusinessDay? n count (day :: days) =
    if day.isBusinessDay then
      if ((count + 1 : Nat) : Int) = n then some day else findBusinessDay? n (count + 1) days
    else findBusinessDay? n count days := rfl

/-- The day that is found is the business day at which the count reaches `n`. -/
theorem findBusinessDay?_eq_some_iff : findBusinessDay? n count days = some e ↔
    ∃ before later, days = before ++ e :: later ∧ e.isBusinessDay = true ∧
      ((count + before.countP isBusinessDay + 1 : Nat) : Int) = n := by
  induction days generalizing count with
  | nil => simp
  | cons day later ih =>
    constructor
    · intro h
      rw [findBusinessDay?_cons] at h
      split_ifs at h with hday hn
      · obtain rfl := Option.some.inj h
        exact ⟨[], later, rfl, hday, hn⟩
      · obtain ⟨before, rest, rfl, he, hcount⟩ := ih.mp h
        refine ⟨day :: before, rest, rfl, he, ?_⟩
        rw [List.countP_cons_of_pos hday]
        omega
      · obtain ⟨before, rest, rfl, he, hcount⟩ := ih.mp h
        refine ⟨day :: before, rest, rfl, he, ?_⟩
        rwa [List.countP_cons_of_neg hday]
    · rintro ⟨before, rest, hsplit, he, hcount⟩
      rw [findBusinessDay?_cons]
      cases before with
      | nil =>
        obtain ⟨rfl, rfl⟩ := List.cons.inj hsplit
        rw [if_pos he]
        exact if_pos hcount
      | cons first before =>
        obtain ⟨rfl, rfl⟩ := List.cons.inj hsplit
        by_cases hday : day.isBusinessDay = true
        · rw [List.countP_cons_of_pos hday] at hcount
          rw [if_pos hday, if_neg (by omega), ih]
          exact ⟨before, rest, rfl, he, by omega⟩
        · rw [List.countP_cons_of_neg hday] at hcount
          rw [if_neg hday, ih]
          exact ⟨before, rest, rfl, he, hcount⟩

theorem exists_findBusinessDay?_iff : (∃ e, findBusinessDay? n count days = some e) ↔
    count < n ∧ n ≤ (count + days.countP isBusinessDay : Nat) := by
  induction days generalizing count with
  | nil =>
    simp only [findBusinessDay?_nil, reduceCtorEq, exists_false, List.countP_nil, false_iff]
    omega
  | cons day later ih =>
    by_cases hday : day.isBusinessDay = true
    · rw [List.countP_cons_of_pos hday]
      by_cases hn : ((count + 1 : Nat) : Int) = n
      · rw [findBusinessDay?_cons, if_pos hday, if_pos hn]
        exact iff_of_true ⟨day, rfl⟩ (by omega)
      · rw [findBusinessDay?_cons, if_pos hday, if_neg hn, ih]
        omega
    · rw [List.countP_cons_of_neg hday]
      rw [findBusinessDay?_cons, if_neg hday, ih]

/-- Backwards the business days have the opposite numbers. -/
theorem findBusinessDay?_of_reverse (h : findBusinessDay? n 0 days.reverse = some e) :
    findBusinessDay? (days.countP isBusinessDay + 1 - n) 0 days = some e := by
  obtain ⟨before, later, hsplit, he, hcount⟩ := findBusinessDay?_eq_some_iff.mp h
  obtain rfl : days = later.reverse ++ e :: before.reverse := by
    rw [← List.reverse_reverse days, hsplit, List.reverse_append, List.reverse_cons, List.append_assoc]
    rfl
  refine findBusinessDay?_eq_some_iff.mpr ⟨_, _, rfl, he, ?_⟩
  rw [List.countP_append, List.countP_cons_of_pos he, List.countP_reverse, List.countP_reverse]
  omega

theorem findBusinessDay?_reverse (n : Int) (days : List Date) : findBusinessDay? n 0 days.reverse =
    findBusinessDay? (days.countP isBusinessDay + 1 - n) 0 days := by
  refine Option.ext fun e => ⟨findBusinessDay?_of_reverse, fun h => ?_⟩
  rw [← List.reverse_reverse days] at h
  have := findBusinessDay?_of_reverse h
  rw [List.reverse_reverse, List.countP_reverse] at this
  rwa [show n = days.countP isBusinessDay + 1 - (days.countP isBusinessDay + 1 - n) by omega]

/-- In a month in order, the days before one of them are those with a smaller number. -/
theorem countP_eq_of_pairwise {before later : List Date}
    (h : (before ++ e :: later).Pairwise fun f g => f.day < g.day) :
    (before ++ e :: later).countP (fun f => f.day < e.day && f.isBusinessDay)
      = before.countP isBusinessDay := by
  obtain ⟨-, hlater, hbefore⟩ := List.pairwise_append.mp h
  have hfirst : before.countP (fun f => f.day < e.day && f.isBusinessDay) = before.countP isBusinessDay := by
    refine List.countP_congr fun f hf => ?_
    have := hbefore f hf e List.mem_cons_self
    simp [this]
  have hrest : (e :: later).countP (fun f => f.day < e.day && f.isBusinessDay) = 0 := by
    rw [List.countP_eq_zero]
    intro f hf
    have hle : e.day ≤ f.day := by
      rcases List.mem_cons.mp hf with rfl | hf
      · exact Nat.le_refl _
      · exact Nat.le_of_lt ((List.pairwise_cons.mp hlater).1 f hf)
    simp [Nat.not_lt.mpr hle]
  rw [List.countP_append, hfirst, hrest, Nat.add_zero]

end

/-! ## The business day with a given number -/

theorem nthBusinessDay?_congr {d e : Date} (h : d.monthIndex = e.monthIndex) (n : Int)
    (fromEnd : Bool) : d.nthBusinessDay? n fromEnd = e.nthBusinessDay? n fromEnd := by
  simp only [nthBusinessDay?, monthDays_congr h]

theorem nthBusinessDay?_fromEnd (d : Date) (n : Int) :
    d.nthBusinessDay? n true = d.nthBusinessDay? (d.businessDayCount + 1 - n) false :=
  findBusinessDay?_reverse n d.monthDays

theorem exists_nthBusinessDay?_iff (d : Date) (n : Int) (fromEnd : Bool) :
    (∃ e, d.nthBusinessDay? n fromEnd = some e) ↔ 1 ≤ n ∧ n ≤ d.businessDayCount := by
  have hcount : ∀ n, (∃ e, d.nthBusinessDay? n false = some e) ↔ 1 ≤ n ∧ n ≤ d.businessDayCount := by
    intro n
    change (∃ e, findBusinessDay? n 0 d.monthDays = some e) ↔ _
    rw [exists_findBusinessDay?_iff, businessDayCount]
    omega
  cases fromEnd with
  | false => exact hcount n
  | true =>
    rw [nthBusinessDay?_fromEnd, hcount]
    omega

/-- The date is in the month of `d`, and it is the business day that `n - 1` others come before. -/
structure IsNthBusinessDay (d : Date) (n : Int) (e : Date) : Prop where
  year_eq : e.year = d.year
  month_eq : e.month = d.month
  isBusinessDay : e.isBusinessDay = true
  before : (e.businessDaysBefore : Int) = n - 1

theorem nthBusinessDay?_eq_some_iff (d e : Date) (n : Int) :
    d.nthBusinessDay? n false = some e ↔ d.IsNthBusinessDay n e := by
  have hbefore : ∀ {before later}, d.monthDays = before ++ e :: later → e.monthIndex = d.monthIndex ∧
      e.businessDaysBefore = before.countP isBusinessDay := by
    intro before later hsplit
    have hmonth : e.monthIndex = d.monthIndex := by
      rw [← mem_monthDays_iff, hsplit]
      exact List.mem_append_right _ List.mem_cons_self
    refine ⟨hmonth, ?_⟩
    rw [businessDaysBefore, monthDays_congr hmonth, hsplit]
    exact countP_eq_of_pairwise (hsplit ▸ pairwise_monthDays d)
  refine findBusinessDay?_eq_some_iff.trans ?_
  constructor
  · rintro ⟨before, later, hsplit, hbusiness, hcount⟩
    obtain ⟨hmonth, hplace⟩ := hbefore hsplit
    obtain ⟨hy, hm⟩ := monthIndex_eq_iff.mp hmonth
    exact ⟨hy, hm, hbusiness, by omega⟩
  · rintro ⟨hy, hm, hbusiness, hcount⟩
    obtain ⟨before, later, hsplit⟩ :=
      List.append_of_mem ((mem_monthDays_iff d e).mpr (monthIndex_eq_iff.mpr ⟨hy, hm⟩))
    obtain ⟨-, hplace⟩ := hbefore hsplit
    exact ⟨before, later, hsplit, hbusiness, by omega⟩

theorem monthIndex_of_nthBusinessDay? {d e : Date} {n : Int} {fromEnd : Bool}
    (h : d.nthBusinessDay? n fromEnd = some e) : e.monthIndex = d.monthIndex := by
  have hforwards : ∀ {n}, d.nthBusinessDay? n false = some e → e.monthIndex = d.monthIndex := by
    intro n h
    obtain ⟨hy, hm, -, -⟩ := (nthBusinessDay?_eq_some_iff d e n).mp h
    exact monthIndex_eq_iff.mpr ⟨hy, hm⟩
  cases fromEnd with
  | false => exact hforwards h
  | true => exact hforwards (nthBusinessDay?_fromEnd d n ▸ h)

end DateShorthand.Date
