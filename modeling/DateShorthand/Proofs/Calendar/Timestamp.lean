import DateShorthand.Calendar.Timestamp
import DateShorthand.Proofs.Calendar.Month
import DateShorthand.Proofs.Outcome
import DateShorthand.Proofs.Text.Numeral
import Mathlib.Tactic.Common

/-!
# Timestamps are read back

ISO 8601 text, as an instant is written, is read as that instant. An offset has to be one of whole
minutes for this, and those of the instants that were read are.
-/

namespace DateShorthand

/-! ## Digits -/

namespace Timestamp

theorem fixed?_padded {width : Nat} (hpos : 0 < width) {n : Nat} (h : n < 10 ^ width) (rest : Text) :
    fixed? width (Text.padded width n ++ rest) = some (n, rest) := by
  obtain ⟨hlength, hdigit, hvalue⟩ := Text.padded_spec hpos h
  rw [fixed?, List.take_left' hlength, List.drop_left' hlength, hvalue]
  exact if_pos ⟨hlength, List.all_eq_true.mpr hdigit⟩

theorem after?_cons (c : Char) (rest : Text) : after? c (c :: rest) = some rest := if_pos rfl

theorem fixed?_two {n : Nat} (h : n < 10 ^ 2) : ∃ a b, Text.padded 2 n = [a, b] ∧ a.isDigit = true ∧
    b.isDigit = true ∧ ∀ rest, fixed? 2 (a :: b :: rest) = some (n, rest) := by
  obtain ⟨hlength, hdigit, -⟩ := Text.padded_spec (by decide) h
  have hfixed := fixed?_padded (by decide) h
  match hpadded : Text.padded 2 n, hlength with
  | [a, b], _ =>
    rw [hpadded] at hdigit hfixed
    exact ⟨a, b, rfl, hdigit a (by simp), hdigit b (by simp), hfixed⟩

theorem fixed?_four {n : Nat} (h : n < 10 ^ 4) : ∃ a b c d, Text.padded 4 n = [a, b, c, d] ∧
    a.isDigit = true ∧ b.isDigit = true ∧ c.isDigit = true ∧ d.isDigit = true ∧
      ∀ rest, fixed? 4 (a :: b :: c :: d :: rest) = some (n, rest) := by
  obtain ⟨hlength, hdigit, -⟩ := Text.padded_spec (by decide) h
  have hfixed := fixed?_padded (by decide) h
  match hpadded : Text.padded 4 n, hlength with
  | [a, b, c, d], _ =>
    rw [hpadded] at hdigit hfixed
    exact ⟨a, b, c, d, rfl, hdigit a (by simp), hdigit b (by simp), hdigit c (by simp),
      hdigit d (by simp), hfixed⟩

/-! ## Zones -/

/-- An offset is left open, or it is one of whole minutes and less than a day either way. -/
def HasPlainOffset (i : Instant) : Prop :=
  ∀ offset ∈ i.offset, offset.natAbs < 86400 ∧ offset.natAbs % 60 = 0

/-- The text of a zone, as it ends that of an instant. -/
def zoneText : Option Int → Text
  | none => []
  | some 0 => ['Z']
  | some offset => Instant.offsetText offset

theorem zone?_offsetText {offset : Int} (hday : offset.natAbs < 86400) (hminute : offset.natAbs % 60 = 0) :
    zone? (Instant.offsetText offset) = some (some offset) := by
  have hhours : offset.natAbs / 3600 < 10 ^ 2 := by omega
  have hminutes : offset.natAbs / 60 % 60 < 10 ^ 2 := by omega
  have hreadMinutes := fixed?_padded Nat.two_pos hminutes []
  rw [List.append_nil] at hreadMinutes
  have hoffset : ∀ negative, offsetOf? negative (offset.natAbs / 3600) (offset.natAbs / 60 % 60)
      = some (if negative then -(offset.natAbs : Int) else offset.natAbs) := by
    intro negative
    have htotal : 3600 * (offset.natAbs / 3600) + 60 * (offset.natAbs / 60 % 60) = offset.natAbs := by omega
    rw [offsetOf?, htotal, if_pos hday]
  rw [Instant.offsetText, if_pos hminute, List.append_nil, List.cons_append, zone?]
  · rw [fixed?_padded Nat.two_pos hhours]
    simp only [Option.bind_eq_bind, Option.bind_some, after?_cons, Option.getD_some, hreadMinutes,
      hoffset]
    have hend : offset.natAbs / 60 % 60 < 60 ∧ ([] : Text).isEmpty = true := ⟨by omega, rfl⟩
    by_cases hnegative : offset < 0
    · have hvalue : -(offset.natAbs : Int) = offset := by omega
      simp only [hnegative, hend, if_true, Option.map_some, hvalue]
      simp
    · have hvalue : (offset.natAbs : Int) = offset := by omega
      simp only [hnegative, hend, if_true, if_false, Option.map_some, hvalue]
      simp
  · simp
  · simp

/-- The text of a zone begins with neither a digit nor a point. -/
theorem zoneText_cases (offset : Option Int) :
    zoneText offset = [] ∨ ∃ c ∈ ['Z', '+', '-'], ∃ rest, zoneText offset = c :: rest := by
  unfold zoneText
  split
  · exact Or.inl rfl
  · exact Or.inr ⟨'Z', by decide, [], rfl⟩
  · refine Or.inr ⟨_, ?_, _, rfl⟩
    split_ifs <;> decide

theorem zone?_zoneText {offset : Option Int}
    (h : ∀ seconds ∈ offset, seconds.natAbs < 86400 ∧ seconds.natAbs % 60 = 0) :
    zone? (zoneText offset) = some offset := by
  unfold zoneText
  split
  · rfl
  · rfl
  · obtain ⟨hday, hminute⟩ := h _ rfl
    exact zone?_offsetText hday hminute

/-- A zone is not taken for a fraction. -/
theorem fraction?_zoneText (offset : Option Int) :
    fraction? (zoneText offset) = some (.zero, zoneText offset) := by
  obtain hnil | ⟨c, hc, rest, hcons⟩ := zoneText_cases offset
  · rw [hnil]
    rfl
  · have hpoint : ∀ c ∈ ['Z', '+', '-'], ¬ (c = '.' ∨ c = ',') := by decide
    rw [hcons, fraction?, if_neg (hpoint c hc)]

theorem takeWhile_zoneText (offset : Option Int) : (zoneText offset).takeWhile Char.isDigit = [] := by
  obtain hnil | ⟨c, hc, rest, hcons⟩ := zoneText_cases offset
  · rw [hnil]
    rfl
  · have hdigit : ∀ c ∈ ['Z', '+', '-'], ¬ c.isDigit = true := by decide
    rw [hcons, List.takeWhile_cons_of_neg (hdigit c hc)]

/-! ## Times -/

theorem microseconds_padded (m : Microsecond) : microseconds (Text.padded 6 m) = m := by
  obtain ⟨hlength, -, hvalue⟩ := Text.padded_spec (by decide : 0 < 6) m.isLt
  rw [microseconds, List.take_left' hlength, hvalue]
  exact Fin.ext (Nat.mod_eq_of_lt m.isLt)

theorem fraction?_padded (m : Microsecond) (offset : Option Int) :
    fraction? ('.' :: (Text.padded 6 m ++ zoneText offset)) = some (m, zoneText offset) := by
  obtain ⟨hlength, hdigit, -⟩ := Text.padded_spec (by decide : 0 < 6) m.isLt
  have hdigits : (Text.padded 6 m ++ zoneText offset).takeWhile Char.isDigit = Text.padded 6 m := by
    rw [List.takeWhile_append_of_pos hdigit, takeWhile_zoneText, List.append_nil]
  have hne : (Text.padded 6 m).isEmpty = false := by
    rw [List.isEmpty_eq_false_iff]
    exact List.ne_nil_of_length_pos (by omega)
  simp only [fraction?, true_or, if_true, hdigits, hne, microseconds_padded, List.drop_left]
  rfl

theorem clock?_iso (t : TimeOfDay) (m : Microsecond) {offset : Option Int}
    (h : ∀ seconds ∈ offset, seconds.natAbs < 86400 ∧ seconds.natAbs % 60 = 0) :
    clock? (t.iso ++ ((if m = .zero then [] else '.' :: Text.padded 6 m) ++ zoneText offset))
      = some (t, m, offset) := by
  have hhour : (t.hour : Nat) < 10 ^ 2 := by omega
  have hminute : (t.minute : Nat) < 10 ^ 2 := by omega
  have hsecond : (t.second : Nat) < 10 ^ 2 := by omega
  have hfraction : fraction? ((if m = .zero then [] else '.' :: Text.padded 6 m) ++ zoneText offset)
      = some (m, zoneText offset) := by
    split_ifs with hzero
    · rw [hzero]
      exact fraction?_zoneText offset
    · exact fraction?_padded m offset
  have hfields : TimeOfDay.ofFields? t.hour t.minute t.second = some t := by
    simp [TimeOfDay.ofFields?]
  simp only [clock?, TimeOfDay.iso, List.append_assoc, List.cons_append,
    fixed?_padded Nat.two_pos hhour, fixed?_padded Nat.two_pos hminute,
    fixed?_padded Nat.two_pos hsecond, after?_cons, hfraction, hfields, zone?_zoneText h,
    Option.bind_eq_bind, Option.bind_some]

/-! ## Dates -/

theorem date_dateText (d : Date) (rest : Text) : date (Instant.dateText d ++ rest) = .ok (d, rest) := by
  have hbounds := daysInMonth_bounds d.year d.month
  have hyear := d.year_mem
  have hmonth := d.month_mem
  have hday := d.day_mem
  obtain ⟨y₁, y₂, y₃, y₄, hyears, hy₁, hy₂, hy₃, hy₄, hreadYear⟩ :=
    fixed?_four (n := d.year) (by omega)
  obtain ⟨m₁, m₂, hmonths, hm₁, hm₂, hreadMonth⟩ := fixed?_two (n := d.month) (by omega)
  obtain ⟨d₁, d₂, hdays, hd₁, hd₂, hreadDay⟩ := fixed?_two (n := d.day) (by omega)
  have hin : ¬ (d.month < 1 ∨ 12 < d.month) := by omega
  have hfields : Date.ofFields? d.year d.month d.day = some d := dif_pos ⟨hyear, hmonth, hday⟩
  rw [Instant.dateText, hyears, hmonths, hdays]
  have hlength : ¬ ([y₁, y₂, y₃, y₄] ++ '-' :: [m₁, m₂] ++ '-' :: [d₁, d₂] ++ rest).length < 10 := by
    simp only [List.length_append, List.length_cons]
    omega
  rw [date, if_neg hlength]
  simp only [List.cons_append, List.nil_append, List.getElem?_cons_zero, List.getElem?_cons_succ,
    List.drop_zero, List.drop_succ_cons, Option.any_some, Option.map_some, Option.getD_some,
    Bool.and_self, Bool.not_true, Bool.false_eq_true, decide_true, if_false, hy₁, hy₂, hy₃, hy₄, hm₁,
    hm₂, hd₁, hd₂, hreadYear, hreadMonth, hreadDay, hin, hfields]

/-! ## Instants -/

theorem isoZ_eq (i : Instant) : i.isoZ = Instant.dateText i.date ++ ('T' :: (i.time.iso
    ++ ((if i.microsecond = .zero then [] else '.' :: Text.padded 6 i.microsecond)
      ++ zoneText i.offset))) := by
  rw [Instant.isoZ, Instant.localText]
  simp only [List.append_assoc, List.cons_append]
  rfl

theorem instant?_isoZ {i : Instant} (h : HasPlainOffset i) : instant? i.isoZ = some i := by
  rw [instant?, isoZ_eq, date_dateText]
  simp only [clock?_iso i.time i.microsecond h, Option.map_some]
  rfl

theorem read_isoZ {i : Instant} (h : HasPlainOffset i) : read i.isoZ = .ok i := by
  rw [read, instant?_isoZ h]

/-! ## What was read -/

theorem hasPlainOffset_of_offset {i : Instant} (h : i.offset = none ∨ i.offset = some 0) :
    HasPlainOffset i := by
  intro offset hoffset
  rcases h with h | h <;> rw [h] at hoffset <;> cases hoffset
  decide

theorem offset_of_ofMicroseconds? {n : Int} {i : Instant} (h : ofMicroseconds? n = some i) :
    i.offset = some 0 := by
  obtain ⟨d, -, rfl⟩ := Option.map_eq_some_iff.mp h
  rfl

theorem hasPlainOffset_of_ofSeconds {n : Int} {i : Instant} (h : ofSeconds n = .ok i) :
    HasPlainOffset i := by
  unfold ofSeconds at h
  dsimp only at h
  generalize (if n.natAbs ≤ secondsLimit then n * 1000000 else n * 1000) = m at h
  split_ifs at h
  cases hm : ofMicroseconds? m with
  | none =>
    rw [hm] at h
    cases h
  | some j =>
    rw [hm] at h
    cases h
    exact hasPlainOffset_of_offset (Or.inr (offset_of_ofMicroseconds? hm))

theorem offsetOf?_bounds {negative : Bool} {hours minutes : Nat} {offset : Int}
    (h : offsetOf? negative hours minutes = some offset) :
    offset.natAbs < 86400 ∧ offset.natAbs % 60 = 0 := by
  unfold offsetOf? at h
  dsimp only at h
  split_ifs at h with hday hnegative <;> cases h <;> omega

theorem hasPlainOffset_of_zone? {t : Text} {zone : Option Int} (h : zone? t = some zone) :
    ∀ offset ∈ zone, offset.natAbs < 86400 ∧ offset.natAbs % 60 = 0 := by
  unfold zone? at h
  split at h
  · cases h
    simp
  · cases h
    rintro offset ⟨⟩
    decide
  · cases h
    rintro offset ⟨⟩
    decide
  · rename_i sign rest _ _
    obtain ⟨negative, h⟩ : ∃ negative, ((fixed? 2 rest).bind fun hours =>
        (fixed? 2 ((after? ':' hours.2).getD hours.2)).bind fun minutes =>
          if minutes.1 < 60 ∧ minutes.2.isEmpty = true then
            (offsetOf? negative hours.1 minutes.1).map some
          else none) = some zone := by
      split_ifs at h
      · exact ⟨false, h⟩
      · exact ⟨true, h⟩
      · cases h
    simp only [Option.bind_eq_some_iff] at h
    obtain ⟨hours, -, minutes, -, h⟩ := h
    split_ifs at h
    obtain ⟨offset, hoffset, rfl⟩ := Option.map_eq_some_iff.mp h
    rintro offset' ⟨⟩
    exact offsetOf?_bounds hoffset

theorem exists_zone?_of_clock? {t : Text} {time : TimeOfDay} {micro : Microsecond} {zone : Option Int}
    (h : clock? t = some (time, micro, zone)) : ∃ rest, zone? rest = some zone := by
  simp only [clock?, Option.bind_eq_bind, Option.bind_eq_some_iff] at h
  obtain ⟨_, -, _, -, ⟨minute, rest⟩, -, h⟩ := h
  split at h <;> simp only [Option.bind_eq_some_iff] at h
  · obtain ⟨_, -, _, -, _, hzone, h⟩ := h
    cases h
    exact ⟨_, hzone⟩
  · obtain ⟨_, -, _, -, _, -, _, -, _, hzone, h⟩ := h
    cases h
    exact ⟨_, hzone⟩

theorem hasPlainOffset_of_instant? {t : Text} {i : Instant} (h : instant? t = some i) :
    HasPlainOffset i := by
  unfold instant? at h
  split at h
  · split_ifs at h
    obtain ⟨⟨time, micro, offset⟩, hclock, rfl⟩ := Option.map_eq_some_iff.mp h
    obtain ⟨rest, hzone⟩ := exists_zone?_of_clock? hclock
    exact hasPlainOffset_of_zone? hzone
  · cases h

theorem hasPlainOffset_of_read {t : Text} {i : Instant} (h : read t = .ok i) : HasPlainOffset i := by
  unfold read at h
  split at h
  · rename_i j hinstant
    cases h
    exact hasPlainOffset_of_instant? hinstant
  · split at h
    · exact hasPlainOffset_of_ofSeconds h
    · split at h
      · cases h
        exact hasPlainOffset_of_offset (Or.inl rfl)
      · cases h
      · cases h

end Timestamp

end DateShorthand
