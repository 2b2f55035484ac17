import DateShorthand.Proofs.Shortcut.RenderedDay
import DateShorthand.Proofs.Shortcut.Rollover
import DateShorthand.Proofs.Shortcut.Stages

/-!
# Dates are read back

A date that is written as a built-in localization writes dates is read as that date, with zeros in
front of day and month or without, and with its year in full, in short or left out.
-/

namespace DateShorthand

/-! ## Writing dates -/

inductive YearStyle where
  | full
  | short
  | omitted
deriving DecidableEq, Repr

namespace YearStyle

/-- The year can be told from its text: a short one is of this century, and the default year is
left out. -/
def Fits (defaultYear year : Nat) : YearStyle → Prop
  | full => True
  | short => 2000 ≤ year ∧ year ≤ 2099
  | omitted => year = defaultYear

def text? (year : Nat) : YearStyle → Option Text
  | full => some (Text.padded 4 year)
  | short => some (Text.padded 2 (year % 100))
  | omitted => none

theorem text?_digits {year : Nat} (h : year ≤ 9999) (style : YearStyle) :
    ∀ t ∈ style.text? year, t.IsDigits ∧ 2 ≤ t.length ∧ t.length ≤ 4 := by
  cases style with
  | omitted => simp [text?]
  | full =>
    rintro t ⟨⟩
    have hlength : (Text.padded 4 year).length = 4 := Text.length_padded (by decide) (by omega)
    exact ⟨Text.isDigits_padded 4 year, by omega, by omega⟩
  | short =>
    rintro t ⟨⟩
    have hlength : (Text.padded 2 (year % 100)).length = 2 := Text.length_padded (by decide) (by omega)
    exact ⟨Text.isDigits_padded 2 _, by omega, by omega⟩

/-- Only the length tells a short year from a full one, so the years before 100 keep their zeros. -/
theorem yearNumber_text? {defaultYear year : Nat} {style : YearStyle} (h : style.Fits defaultYear year)
    (hlast : year ≤ 9999) : WrittenDate.yearNumber defaultYear (style.text? year) = year := by
  cases style with
  | omitted => exact congrArg Nat.cast (Eq.symm h)
  | full =>
    have hlength : (Text.padded 4 year).length = 4 := Text.length_padded (by decide) (by omega)
    rw [text?, WrittenDate.yearNumber, if_neg (by omega), Text.numberOf_padded]
  | short =>
    have hlength : (Text.padded 2 (year % 100)).length = 2 := Text.length_padded (by decide) (by omega)
    obtain ⟨hfirst, hend⟩ := h
    rw [text?, WrittenDate.yearNumber, if_pos (by omega), Text.numberOf_padded, AbsoluteDate.century]
    omega

end YearStyle

/-- Day and month may have a zero in front when they are a single digit. -/
structure DateStyle where
  padsDay : Bool
  padsMonth : Bool
  year : YearStyle
deriving DecidableEq, Repr

namespace Date

def fieldText (pads : Bool) (n : Nat) : Text := Text.padded (if pads then 2 else 1) n

theorem fieldText_digits (pads : Bool) {n : Nat} (h : n < 100) :
    (fieldText pads n).IsDigits ∧ (fieldText pads n).length ≤ 2 := by
  have hwidth : (if pads then 2 else 1) ≤ 2 := by split <;> decide
  exact ⟨Text.isDigits_padded _ n, Text.length_padded_le (by decide) hwidth h⟩

/-- Day and month in the given order, and the year unless it is left out. -/
def written (style : DateStyle) (separator : Char) (order : FieldOrder) (d : Date) : Text :=
  let day := fieldText style.padsDay d.day
  let month := fieldText style.padsMonth d.month
  let year := (style.year.text? d.year).map (separator :: ·)
  match order with
  | .dayFirst => day ++ separator :: (month ++ year.getD [])
  | .monthFirst => month ++ separator :: (day ++ year.getD [])

variable {style : DateStyle} {separator : Char} {order : FieldOrder} {d : Date}

theorem exists_text_eq_written (style : DateStyle) (separator : Char) (order : FieldOrder) (d : Date) :
    ∃ w : WrittenDate, w.text separator = written style separator order d ∧
      ∀ defaultYear, style.year.Fits defaultYear d.year → w.date order defaultYear = .ok d := by
  have hyear := d.year_mem
  have hmonth := d.month_mem
  have hlength := daysInMonth_bounds d.year d.month
  have hday := d.day_mem
  have hdigits := style.year.text?_digits hyear.2
  have hmonths := fieldText_digits style.padsMonth (n := d.month) (by omega)
  have hdays := fieldText_digits style.padsDay (n := d.day) (by omega)
  have hdate : ofCalendar d.year d.month d.day = .ok d :=
    ofCalendar_eq_ok_iff_rollsTo.mpr ⟨by omega, d.rollsTo_self⟩
  have htext : WrittenDate.yearText separator (style.year.text? d.year)
      = ((style.year.text? d.year).map (separator :: ·)).getD [] := by
    cases style.year.text? d.year <;> rfl
  cases order with
  | dayFirst =>
    refine ⟨⟨_, _, _, hdays, hmonths, hdigits⟩, ?_, fun defaultYear hfits => ?_⟩
    · rw [WrittenDate.text, htext, written]
    · simp only [WrittenDate.date, YearStyle.yearNumber_text? hfits hyear.2, fieldText,
        Text.numberOf_padded, hdate]
  | monthFirst =>
    refine ⟨⟨_, _, _, hmonths, hdays, hdigits⟩, ?_, fun defaultYear hfits => ?_⟩
    · rw [WrittenDate.text, htext, written]
    · simp only [WrittenDate.date, YearStyle.yearNumber_text? hfits hyear.2, fieldText,
        Text.numberOf_padded, hdate]

end Date

/-! ## A date alone -/

/-- A shortcut of a date and nothing else. -/
def Written.ofDate (l : Localization) (d : WrittenDate) : Written l where
  today := none
  date := some d
  parts := []
  workday := false
  clock := none
  today_mem := by simp
  starts := by simp
  nonempty := by simp

theorem Written.rendersDay_ofDate (l : Localization) (d : WrittenDate) (separator : Char) :
    (ofDate l d).RendersDay separator (d.text separator) := by
  have h : (ofDate l d).RendersDay separator
      ((ofDate l d).anchorText separator ++ ([] ++ (ofDate l d).markerText [])) :=
    .intro .nil Text.isGap_nil fun _ _ => rfl
  have htext : (ofDate l d).anchorText separator ++ ([] ++ (ofDate l d).markerText [])
      = d.text separator := by
    simp [anchorText, markerText, ofDate]
  rwa [htext] at h

theorem Written.day_ofDate (r : Resolver) (d : WrittenDate) (separator : Char) (order : FieldOrder) :
    (ofDate r.localization d).day r separator order
      = (CalendarFault.guard (d.text separator) (d.date order r.reference.date.year)).map Instant.ofDate := by
  simp only [day, start, ofDate]
  cases CalendarFault.guard (d.text separator) (d.date order r.reference.date.year) <;> rfl

namespace Resolver

variable {l : Localization} {separator : Char} {order : FieldOrder}

theorem resolve_writtenDate (hl : (l, separator, order) ∈ Localization.layouts) (reference : Instant)
    (d : WrittenDate) : resolve ⟨l, reference, none⟩ (d.text separator)
      = (CalendarFault.guard (d.text separator) (d.date order reference.date.year)).map Instant.ofDate := by
  have hplain := Localization.isPlain_of_mem hl
  have hseparator := Localization.isDateSeparator_of_mem hl
  have hday := Written.rendersDay_ofDate l d separator
  have htight : Text.IsTight (d.text separator) :=
    ⟨hday.not_isBlank_head hplain hseparator, hday.not_isBlank_last hplain hseparator⟩
  have hnormal : Text.normalize (d.text separator) = d.text separator := by
    rw [Text.normalize, Text.trim_of_isTight htight,
      Text.lower_of_isLower (hday.isLower hplain hseparator)]
  have habsent : TrailingTime.IsAbsent l (d.text separator) := by
    rw [TrailingTime.IsAbsent, hnormal]
    exact hday.find?_eq_none hplain hseparator (Written.isBare_eq_false rfl)
  have hne : Text.normalize (d.text separator) ≠ [] := by
    rw [hnormal]
    simp [WrittenDate.text]
  have hmeant := (Written.resolveDate_eq (r := ⟨l, reference, none⟩) hplain
    (Localization.hasLayout_of_mem hl) hseparator hday).trans (Written.day_ofDate ⟨l, reference, none⟩ d _ _)
  rw [resolve_of_isAbsent (r := ⟨l, reference, none⟩) hne habsent, hnormal, hmeant]
  -- there is no default time to settle
  cases CalendarFault.guard (d.text separator) (d.date order reference.date.year) <;> rfl

end Resolver

/-! ## Reading back -/

namespace Date

/-- A written date is read as that date with what follows it left over, and alone it resolves to its
midnight. -/
theorem split_written {l : Localization} {separator : Char} {order : FieldOrder}
    (hl : (l, separator, order) ∈ Localization.layouts) (reference : Instant) (d : Date)
    (style : DateStyle) (hfits : style.year.Fits reference.date.year d.year) :
    (∀ t : Text, (∀ c ∈ t.head?, Text.isBlank c = true ∨ Tokens.isSign c = true) →
      AbsoluteDate.split l reference.date.year (d.written style separator order ++ t)
        = .ok (some d, Text.trimStart t)) ∧
      Resolver.resolve ⟨l, reference, none⟩ (d.written style separator order) = .ok (.ofDate d) := by
  have hseparator := Localization.isDateSeparator_of_mem hl
  obtain ⟨w, htext, hdate⟩ := exists_text_eq_written style separator order d
  rw [← htext]
  refine ⟨fun t ht => ?_, ?_⟩
  · have hdecimal : ∀ c ∈ t.head?, ¬ Text.isDecimal c = true := fun c hc hdecimal =>
      (ht c hc).elim (Text.not_isBlank_of_isDecimal hdecimal) (Part.not_isSign_of_isDecimal hdecimal)
    rw [AbsoluteDate.split_text (Localization.hasLayout_of_mem hl) _ hdecimal, hdate _ hfits]
    · rfl
    · rintro - u rfl
      exact absurd (ht separator rfl) (not_or.mpr ⟨hseparator.not_isBlank, hseparator.not_isSign⟩)
  · rw [Resolver.resolve_writtenDate hl, hdate _ hfits]
    rfl

/-- The year 7 needs its zeros, and 2007 does without its century. -/
theorem split_written_seven :
    let reference : Instant := .ofDate ⟨2020, 1, 1, by decide, by decide, by decide⟩
    let early : Date := ⟨7, 3, 5, by decide, by decide, by decide⟩
    let late : Date := ⟨2007, 3, 5, by decide, by decide, by decide⟩
    (Localization.english, '/', FieldOrder.monthFirst) ∈ Localization.layouts ∧
      YearStyle.full.Fits reference.date.year 7 ∧ YearStyle.short.Fits reference.date.year 2007 ∧
      AbsoluteDate.split .english reference.date.year "3/05/0007 +1d" = .ok (some early, "+1d") ∧
      Resolver.resolve ⟨.english, reference, none⟩ "3/05/07" = .ok (.ofDate late) := by
  intro reference early late
  have hl : (Localization.english, '/', FieldOrder.monthFirst) ∈ Localization.layouts :=
    List.mem_cons_self
  have hshort : YearStyle.short.Fits reference.date.year 2007 := ⟨by decide, by decide⟩
  refine ⟨hl, trivial, hshort, ?_, ?_⟩
  · have htail : ∀ c ∈ (" +1d" : Text).head?, Text.isBlank c = true ∨ Tokens.isSign c = true := by
      rintro c ⟨⟩
      exact .inl (by decide)
    have htext : early.written ⟨true, false, .full⟩ '/' .monthFirst ++ " +1d" = "3/05/0007 +1d" := by
      decide
    have h := (split_written hl reference early ⟨true, false, .full⟩ trivial).1 " +1d" htail
    rwa [htext] at h
  · have htext : late.written ⟨true, false, .short⟩ '/' .monthFirst = "3/05/07" := by decide
    have h := (split_written hl reference late ⟨true, false, .short⟩ hshort).2
    rwa [htext] at h

end Date

end DateShorthand
