import DateShorthand.Proofs.Locale.Accepted
import DateShorthand.Proofs.Shortcut.Clock
import DateShorthand.Proofs.Text.Lowering
import Mathlib.Data.List.DropRight

/-!
# The grammar of times at the end

A text ends in a time in at most one way, as long as no marker holds a digit. The time is cut off
exactly when there is one, and what is wrong with it is noticed in a fixed order.
-/

namespace DateShorthand

open Regex

/-! ## Texts in two pieces -/

namespace Text

variable {p : Char → Bool} {x y x' y' : Text}

theorem append_inj_of_leading (hx : ∀ c ∈ x, p c = true) (hy : ∀ c ∈ y.head?, ¬ p c = true)
    (hx' : ∀ c ∈ x', p c = true) (hy' : ∀ c ∈ y'.head?, ¬ p c = true) (h : x ++ y = x' ++ y') :
    x = x' ∧ y = y' := by
  have hrest := congrArg (List.dropWhile p) h
  rw [List.dropWhile_append_of_pos hx, List.dropWhile_append_of_pos hx', dropWhile_of_head? hy,
    dropWhile_of_head? hy'] at hrest
  rw [hrest] at h
  exact ⟨List.append_cancel_right h, hrest⟩

theorem append_inj_of_trailing (hx : ∀ c ∈ x.getLast?, ¬ p c = true) (hy : ∀ c ∈ y, p c = true)
    (hx' : ∀ c ∈ x'.getLast?, ¬ p c = true) (hy' : ∀ c ∈ y', p c = true) (h : x ++ y = x' ++ y') :
    x = x' ∧ y = y' := by
  have hreverse := congrArg List.reverse h
  rw [List.reverse_append, List.reverse_append] at hreverse
  obtain ⟨hend, hstart⟩ := append_inj_of_leading (by simpa using hy) (by simpa using hx)
    (by simpa using hy') (by simpa using hx') hreverse
  exact ⟨List.reverse_inj.mp hstart, List.reverse_inj.mp hend⟩

theorem exists_front_gap (t : Text) :
    ∃ front gap, (∀ c ∈ front.getLast?, ¬ isBlank c = true) ∧ IsGap gap ∧ t = front ++ gap := by
  refine ⟨t.rdropWhile isBlank, t.rtakeWhile isBlank, fun c hc => ?_, fun c hc => ?_, ?_⟩
  · obtain ⟨hne, rfl⟩ := List.mem_getLast?_eq_getLast hc
    exact List.rdropWhile_last_not isBlank t hne
  · exact List.mem_rtakeWhile_imp hc
  · exact List.rdropWhile_append_rtakeWhile.symm

end Text

theorem Regex.SameText.not_isBlank_head {w u : Text} (h : SameText w u)
    (hw : ∀ c ∈ w.head?, ¬ Text.isBlank c = true) : ∀ c ∈ u.head?, ¬ Text.isBlank c = true := by
  cases h with
  | nil => simp
  | @cons p c w u hsame _ =>
    rintro d ⟨⟩ hblank
    exact hw p rfl (Text.eq_of_sameLetter_of_isBlank hsame hblank ▸ hblank)

namespace TrailingTime

variable {l : Localization} {t : Text}

/-! ## The grammar -/

/-- A way to write a text that ends in a time. The gap before the time is whole, and is empty only
where the time begins the text. -/
structure Cut (l : Localization) (t : Text) where
  front : Text
  gap : Text
  hour : Text
  minute : Option Text
  second : Option Text
  inner : Text
  marker : Option Text
  text_eq : front ++ (gap ++ (hour ++ (Clock.fieldText minute ++ Clock.fieldText second) ++
    (inner ++ marker.getD []))) = t
  front_last : ∀ c ∈ front.getLast?, ¬ Text.isBlank c = true
  gap_isGap : Text.IsGap gap
  front_eq_nil : gap = [] → front = []
  hour_digits : hour.IsDigits ∧ hour.length ≤ 2
  minute_digits : ∀ f ∈ minute, f.IsDigits ∧ f.length = 2
  second_digits : ∀ f ∈ second, f.IsDigits ∧ f.length = 2
  minute_of_second : second.isSome → minute.isSome
  inner_isGap : Text.IsGap inner
  inner_eq_nil : marker = none → inner = []
  marker_spells : ∀ m ∈ marker, Spells (l.am ++ l.pm) m

/-! ## Markers -/

/-- What is known of a marker as it stands in the text. -/
structure IsMarked (m : Text) : Prop where
  ne_nil : m ≠ []
  head : ∀ c ∈ m.head?, ¬ Text.isBlank c = true
  not_isDecimal : ∀ c ∈ m, ¬ Text.isDecimal c = true

/-- However a marker is spelled, it keeps apart from the blanks and the digits before it. -/
def KeepsApart (l : Localization) : Prop := ∀ m, Spells (l.am ++ l.pm) m → IsMarked m

theorem keepsApart_of_isAccepted (hl : l.IsAccepted)
    (hdigits : ∀ w ∈ l.am ++ l.pm, ∀ c ∈ w, ¬ Text.isDecimal c = true) : KeepsApart l := by
  rintro m ⟨w, hw, hsame⟩
  obtain ⟨hne, htight⟩ := hl.isTrimmed_of_mem_markers (Localization.mem_markers.mpr hw)
  refine ⟨?_, hsame.not_isBlank_head htight.head, not_isDecimal_of_sameText (hdigits w hw) hsame⟩
  rintro rfl
  cases hsame
  exact hne rfl

theorem Spells.markers {m : Text} (h : Spells (l.am ++ l.pm) m) : Spells l.markers m := by
  obtain ⟨w, hw, hsame⟩ := h
  exact ⟨w, Localization.mem_markers.mpr hw, hsame⟩

theorem KeepsApart.isMarked (h : KeepsApart l) {w : Text} (hw : w ∈ l.markers) : IsMarked w :=
  h w ⟨w, Localization.mem_markers.mp hw, .refl w⟩

namespace Cut

/-- The digits and colons of the time. -/
def reading (a : Cut l t) : Text :=
  a.hour ++ (Clock.fieldText a.minute ++ Clock.fieldText a.second)

/-- The time as it is written. -/
def written (a : Cut l t) : Text := a.reading ++ (a.inner ++ a.marker.getD [])

def hourNumber (a : Cut l t) : Nat := numberOf a.hour

def minuteNumber (a : Cut l t) : Nat := (a.minute.map numberOf).getD 0

def secondNumber (a : Cut l t) : Nat := (a.second.map numberOf).getD 0

theorem eq_text (a : Cut l t) : t = a.front ++ (a.gap ++ a.written) := a.text_eq.symm

theorem isReading (a : Cut l t) : IsReading a.reading := by
  have hfield : ∀ field : Option Text, (∀ f ∈ field, f.IsDigits ∧ f.length = 2) →
      IsField (Clock.fieldText field) := by
    intro field h
    cases field with
    | none => exact Or.inl rfl
    | some f => exact Or.inr ⟨f, (h f rfl).1, (h f rfl).2, rfl⟩
  have hhour := IsReading.of_isDigits a.hour_digits.1
  have h := (hhour.append_isField (hfield _ a.minute_digits)).append_isField (hfield _ a.second_digits)
  rwa [List.append_assoc] at h

/-! ## At most one way -/

theorem not_isDecimal_ending (hapart : KeepsApart l) (a : Cut l t) :
    ∀ c ∈ a.inner ++ a.marker.getD [], ¬ Text.isDecimal c = true := by
  intro c hc
  rcases List.mem_append.mp hc with hc | hc
  · exact fun hdecimal => Text.not_isBlank_of_isDecimal hdecimal (a.inner_isGap c hc)
  · cases hmarker : a.marker with
    | none => simp [hmarker] at hc
    | some m =>
      rw [hmarker, Option.getD_some] at hc
      exact (hapart m (a.marker_spells m hmarker)).not_isDecimal c hc

/-- The marker begins where the blanks before it end. -/
theorem not_isBlank_marker (hapart : KeepsApart l) (a : Cut l t) :
    ∀ c ∈ (a.marker.getD []).head?, ¬ Text.isBlank c = true := by
  cases hmarker : a.marker with
  | none => simp
  | some m => exact (hapart m (a.marker_spells m hmarker)).head

theorem getLast?_lead (a : Cut l t) : ∀ c ∈ (a.front ++ a.gap).getLast?, Text.isBlank c = true := by
  intro c hc
  rcases Text.mem_getLast?_append hc with ⟨hgap, hc⟩ | hc
  · simp [a.front_eq_nil hgap] at hc
  · exact a.gap_isGap c (List.mem_of_getLast? hc)

theorem getLast?_reading (a : Cut l t) :
    ∀ c ∈ (a.front ++ a.gap ++ a.reading).getLast?, Text.isDecimal c = true := by
  obtain ⟨d, hd, hdecimal⟩ := a.isReading.last
  intro c hc
  rcases Text.mem_getLast?_append hc with ⟨hnil, -⟩ | hc
  · simp [hnil] at hd
  · exact Option.mem_unique hc hd ▸ hdecimal

theorem fieldText_head (field : Option Text) (rest : Text) (hrest : ∀ c ∈ rest.head?, c = ':') :
    ∀ c ∈ (Clock.fieldText field ++ rest).head?, c = ':' := by
  cases field with
  | none => exact hrest
  | some f =>
    rintro c ⟨⟩
    rfl

theorem fields_inj {minute second minute' second' : Option Text}
    (hminute : ∀ f ∈ minute, f.IsDigits ∧ f.length = 2) (hsecond : second.isSome → minute.isSome)
    (hminute' : ∀ f ∈ minute', f.IsDigits ∧ f.length = 2) (hsecond' : second'.isSome → minute'.isSome)
    (h : Clock.fieldText minute ++ Clock.fieldText second
      = Clock.fieldText minute' ++ Clock.fieldText second') : minute = minute' ∧ second = second' := by
  have hfieldText : ∀ {field field' : Option Text},
      Clock.fieldText field = Clock.fieldText field' → field = field' := by
    intro field field' h
    cases field <;> cases field' <;> simp_all [Clock.fieldText]
  cases minute with
  | none =>
    obtain rfl : second = none := by simpa using hsecond
    cases minute' with
    | none =>
      obtain rfl : second' = none := by simpa using hsecond'
      exact ⟨rfl, rfl⟩
    | some f' => simp [Clock.fieldText] at h
  | some f =>
    cases minute' with
    | none =>
      obtain rfl : second' = none := by simpa using hsecond'
      simp [Clock.fieldText] at h
    | some f' =>
      have hlength : (Clock.fieldText (some f)).length = (Clock.fieldText (some f')).length := by
        simp [Clock.fieldText, (hminute f rfl).2, (hminute' f' rfl).2]
      obtain ⟨hfirst, hrest⟩ := List.append_inj h hlength
      exact ⟨hfieldText hfirst, hfieldText hrest⟩

/-- The last digit of the text ends the reading, the last blank before it ends the gap, and the hour
goes up to the first colon. -/
theorem unique (hapart : KeepsApart l) (a b : Cut l t) : a = b := by
  have hcolon : ∀ c : Char, c = ':' → ¬ Text.isDecimal c = true := by
    rintro c rfl
    decide
  have htext : a.front ++ a.gap ++ a.reading ++ (a.inner ++ a.marker.getD [])
      = b.front ++ b.gap ++ b.reading ++ (b.inner ++ b.marker.getD []) := by
    have h := a.eq_text.symm.trans b.eq_text
    simpa only [written, List.append_assoc] using h
  obtain ⟨htext, hending⟩ := Text.append_inj_of_trailing (p := fun c => !Text.isDecimal c)
    (by simpa using a.getLast?_reading) (by simpa using a.not_isDecimal_ending hapart)
    (by simpa using b.getLast?_reading) (by simpa using b.not_isDecimal_ending hapart) htext
  obtain ⟨hlead, hreading⟩ := Text.append_inj_of_trailing (p := fun c => !Text.isBlank c)
    (by simpa using a.getLast?_lead) (by simpa [Text.IsSolid] using a.isReading.isSolid)
    (by simpa using b.getLast?_lead) (by simpa [Text.IsSolid] using b.isReading.isSolid) htext
  obtain ⟨hfront, hgap⟩ :=
    Text.append_inj_of_trailing a.front_last a.gap_isGap b.front_last b.gap_isGap hlead
  obtain ⟨hinner, hmarker⟩ := Text.append_inj_of_leading a.inner_isGap (a.not_isBlank_marker hapart)
    b.inner_isGap (b.not_isBlank_marker hapart) hending
  have hhead : ∀ a : Cut l t, ∀ c ∈ (Clock.fieldText a.minute ++ Clock.fieldText a.second).head?,
      ¬ Text.isDecimal c = true := by
    intro a c hc
    refine hcolon c (fieldText_head a.minute _ (fun d hd => ?_) c hc)
    exact fieldText_head a.second [] (by simp) d (by simpa using hd)
  obtain ⟨hhour, hfields⟩ := Text.append_inj_of_leading a.hour_digits.1.decimal (hhead a)
    b.hour_digits.1.decimal (hhead b) hreading
  obtain ⟨hminute, hsecond⟩ := fields_inj a.minute_digits a.minute_of_second b.minute_digits
    b.minute_of_second hfields
  have hmarker' : a.marker = b.marker := by
    have hne : ∀ a : Cut l t, ∀ m ∈ a.marker, m ≠ [] := fun a m hm =>
      (hapart m (a.marker_spells m hm)).ne_nil
    cases ha : a.marker with
    | none =>
      cases hb : b.marker with
      | none => rfl
      | some m => exact absurd (by simpa [ha, hb] using hmarker.symm) (hne b m hb)
    | some m =>
      cases hb : b.marker with
      | none => exact absurd (by simpa [ha, hb] using hmarker) (hne a m ha)
      | some m' => simpa [ha, hb] using hmarker
  cases a
  cases b
  simp_all

/-! ## A cut is found -/

/-- The time of the cut, whose marker is the only one. -/
def toClock (a : Cut l t) : Clock a.marker.toList where
  hour := a.hour
  minute := a.minute
  second := a.second
  marker := a.marker
  hour_digits := a.hour_digits
  minute_digits := a.minute_digits
  second_digits := a.second_digits
  minute_of_second := a.minute_of_second
  marker_mem := by simp

theorem markerText_eq (a : Cut l t) : Clock.markerText a.inner a.marker = a.inner ++ a.marker.getD [] := by
  cases hmarker : a.marker with
  | none => rw [a.inner_eq_nil hmarker, Clock.markerText, Option.getD_none, List.nil_append]
  | some m => rfl

theorem text_toClock (a : Cut l t) : a.toClock.text a.inner = a.written := by
  rw [written, ← markerText_eq, reading, List.append_assoc, List.append_assoc]
  rfl

theorem isTight_front (ht : Text.IsTight t) (a : Cut l t) : Text.IsTight a.front := by
  refine ⟨fun c hc => ht.head c ?_, a.front_last⟩
  rw [a.eq_text, List.head?_append, hc]
  rfl

theorem gap_eq_nil_iff (ht : Text.IsTight t) (a : Cut l t) : a.gap = [] ↔ a.front = [] := by
  refine ⟨a.front_eq_nil, fun hfront => ?_⟩
  cases hgap : a.gap with
  | nil => rfl
  | cons c gap =>
    have hc : c ∈ t.head? := by rw [a.eq_text, hfront, hgap]; rfl
    exact absurd (a.gap_isGap c (by simp [hgap])) (ht.head c hc)

theorem isTight_written (ht : Text.IsTight t) (a : Cut l t) : Text.IsTight a.written := by
  constructor
  · rw [← text_toClock]
    exact a.toClock.not_isBlank_of_mem_head?
  · refine fun c hc => ht.last c (Text.mem_getLast?_of_suffix ⟨a.front ++ a.gap, ?_⟩ hc)
    rw [List.append_assoc]
    exact a.eq_text.symm

theorem ends (hapart : KeepsApart l) (ht : Text.IsTight t) (a : Cut l t) : Ends l.markers a.inner a.marker := by
  cases hmarker : a.marker with
  | none => exact ends_none (fun hnil => (hapart.isMarked hnil).ne_nil rfl) a.inner
  | some m =>
    have hspells := a.marker_spells m hmarker
    refine ends_some a.inner_isGap hspells.markers ⟨(hapart m hspells).head, fun c hc => ?_⟩
    refine (a.isTight_written ht).last c (Text.mem_getLast?_of_suffix ⟨a.reading ++ a.inner, ?_⟩ hc)
    rw [written, hmarker, Option.getD_some, List.append_assoc]

theorem find?_eq (hapart : KeepsApart l) (ht : Text.IsTight t) (a : Cut l t) :
    find? l t = some ⟨a.front.length, a.gap ++ a.written, [], a.toClock.captures⟩ := by
  have hmarkers : ∀ w ∈ l.markers, ∀ c ∈ w, ¬ Text.isDecimal c = true := fun w hw =>
    (hapart.isMarked hw).not_isDecimal
  have hmarker : ∀ c ∈ Clock.markerText a.inner a.toClock.marker, ¬ Text.isDecimal c = true :=
    a.markerText_eq ▸ a.not_isDecimal_ending hapart
  have h := find?_clock hmarkers (c := a.toClock) (a.isTight_front ht) a.gap_isGap (a.gap_eq_nil_iff ht)
    hmarker (a.ends hapart ht)
  rwa [text_toClock, ← a.eq_text] at h

end Cut

/-! ## What is found is a cut -/

/-- Seconds without minutes are taken for minutes. -/
theorem exists_fields {u v : Text} (hu : IsField u) (hv : IsField v) :
    ∃ minute second : Option Text, u ++ v = Clock.fieldText minute ++ Clock.fieldText second ∧
      (∀ f ∈ minute, f.IsDigits ∧ f.length = 2) ∧ (∀ f ∈ second, f.IsDigits ∧ f.length = 2) ∧
      (second.isSome → minute.isSome) := by
  rcases hu with rfl | ⟨f, hf, hlength, rfl⟩
  · rcases hv with rfl | ⟨f, hf, hlength, rfl⟩
    · exact ⟨none, none, rfl, by simp, by simp, by simp⟩
    · exact ⟨some f, none, by simp [Clock.fieldText], by simp [hf, hlength], by simp, by simp⟩
  · rcases hv with rfl | ⟨f', hf', hlength', rfl⟩
    · exact ⟨some f, none, by simp [Clock.fieldText], by simp [hf, hlength], by simp, by simp⟩
    · exact ⟨some f, some f', rfl, by simp [hf, hlength], by simp [hf', hlength'], by simp⟩

theorem exists_matchAt?_of_find? (h : find? l t ≠ none) :
    ∃ n m, (timeRegex l.markers).matchAt? true (Cursor.after t n) = some m := by
  by_contra hnone
  refine h ((search?_eq_none_iff _ _ t).mpr fun n _ => Option.eq_none_iff_forall_ne_some.mpr ?_)
  exact fun m hm => hnone ⟨n, m, hm⟩

/-- A trimmed text in which a time is found can be cut. The gap may begin earlier than the match. -/
theorem nonempty_cut (ht : Text.IsTight t) (h : find? l t ≠ none) : Nonempty (Cut l t) := by
  obtain ⟨n, m, hm⟩ := exists_matchAt?_of_find? h
  rw [matchAt?_eq_head?] at hm
  obtain ⟨s, hs, -⟩ := Option.map_eq_some_iff.mp hm
  obtain ⟨gap, hour, minute, second, inner, marker, tail, hahead, hgap, hstart, hhour, hminute, hsecond,
    hinner, hmarker, htail⟩ := mem_outcomes_pieces (List.mem_of_head? hs)
  have htext : t = t.take n ++ gap ++ (hour ++ (minute ++ second)) ++ inner ++ marker ++ tail := by
    have hdrop : t.drop n = gap ++ (hour ++ (minute ++ (second ++ (inner ++ (marker ++ tail))))) := hahead
    conv_lhs => rw [← List.take_append_drop n t, hdrop]
    simp only [List.append_assoc]
  have hlast : ∀ u v : Text, t = u ++ v → ∀ c ∈ v.getLast?, ¬ Text.isBlank c = true :=
    fun u v huv c hc => ht.last c (Text.mem_getLast?_of_suffix ⟨u, huv.symm⟩ hc)
  obtain rfl : tail = [] := by
    refine htail.resolve_right ?_
    rintro rfl
    exact hlast _ _ htext '\n' rfl (by decide)
  rw [List.append_nil] at htext
  obtain ⟨marker', hmarker', hnone, hspells⟩ : ∃ marker' : Option Text, marker'.getD [] = marker ∧
      (marker' = none → inner = []) ∧ ∀ m ∈ marker', Spells (l.am ++ l.pm) m := by
    rcases hmarker with rfl | ⟨w, hw, hsame⟩
    · rw [List.append_nil] at htext
      refine ⟨none, rfl, fun _ => ?_, by simp⟩
      rcases List.eq_nil_or_concat inner with rfl | ⟨inner, c, rfl⟩
      · rfl
      · exact absurd (hinner c (by simp)) (hlast _ _ htext c (by simp))
    · refine ⟨some marker, rfl, by simp, ?_⟩
      rintro m ⟨⟩
      exact ⟨w, Localization.mem_markers.mp hw, hsame⟩
  obtain ⟨front, gap', hfront, hgap', hlead⟩ := Text.exists_front_gap (t.take n ++ gap)
  obtain ⟨minute', second', hfields, hminute', hsecond', hboth⟩ := exists_fields hminute hsecond
  have hempty : gap' = [] → front = [] := by
    rintro rfl
    rw [List.append_nil] at hlead
    rcases List.eq_nil_or_concat gap with rfl | ⟨gap, c, rfl⟩
    · have hn : n = 0 := hstart rfl
      simp [← hlead, hn]
    · exact absurd (hgap c (by simp)) (hfront c (by simp [← hlead]))
  refine ⟨⟨front, gap', hour, minute', second', inner, marker', ?_, hfront, hgap', hempty, hhour, hminute',
    hsecond', hboth, hinner, hnone, hspells⟩⟩
  rw [hmarker', ← hfields, htext, hlead]
  simp only [List.append_assoc]

/-! ## What is read -/

/-- The hour that is meant. With a marker, 12 begins each half of the day. -/
def clockHour (l : Localization) (marker : Option Text) (hour : Nat) : Nat :=
  match marker with
  | none => hour
  | some m =>
    if l.pm.contains (Text.lower m) then if hour = 12 then 12 else hour + 12
    else if hour = 12 then 0 else hour

theorem markedHour_eq (l : Localization) (written : Text) (marker : Option Text) :
    markedHour l written marker
      = if marker.isSome ∧ ¬ (1 ≤ numberOf written ∧ numberOf written ≤ 12) then
          .error (.invalidMarkedHour written)
        else .ok (clockHour l marker (numberOf written)) := by
  cases marker with
  | none => simp [markedHour, clockHour]
  | some m =>
    by_cases hhour : 1 ≤ numberOf written ∧ numberOf written ≤ 12
    · have hmeant : hourOfHalf (numberOf written) (l.pm.contains (Text.lower m))
          = clockHour l (some m) (numberOf written) := by
        simp only [hourOfHalf, clockHour]
        split_ifs <;> omega
      rw [markedHour, if_pos hhour, if_neg (by simp [hhour]), hmeant]
    · rw [markedHour, if_neg hhour, if_pos ⟨rfl, hhour⟩]

theorem clockHour_lt {marker : Option Text} {hour : Nat}
    (hmarked : ¬ (marker.isSome ∧ ¬ (1 ≤ hour ∧ hour ≤ 12)))
    (hplain : ¬ (marker = none ∧ 23 < hour)) : clockHour l marker hour < 24 := by
  cases marker with
  | none => simpa [clockHour, Nat.lt_succ_iff] using hplain
  | some m =>
    simp only [Option.isSome_some, true_and, not_not] at hmarked
    simp only [clockHour]
    split_ifs <;> omega

namespace Cut

/-- The time that is written, or the first thing that is wrong with it. -/
def value (a : Cut l t) : Except Fault TimeOfDay :=
  if 59 < a.minuteNumber ∨ 59 < a.secondNumber then .error (.invalidTime t (some a.written))
  else do
    let hour ← markedHour l a.hour a.marker
    match TimeOfDay.ofFields? hour a.minuteNumber a.secondNumber with
    | some time => .ok time
    | none => .error (.invalidHour a.hour)

theorem split_eq (hapart : KeepsApart l) (ht : Text.IsTight t) (a : Cut l t) :
    split l t = a.value.map fun time => (some time, Text.trim a.front) := by
  obtain ⟨h₁, h₂, h₃, h₄⟩ := a.toClock.group?_captures a.front.length (a.gap ++ a.written) []
  have hwritten : Text.trim (a.gap ++ a.written) = a.written := by
    rw [Text.trim, Text.trimStart_append a.gap_isGap]
    exact Text.trim_of_isTight (a.isTight_written ht)
  have htake : t.take a.front.length = a.front := by
    have h := congrArg (List.take a.front.length) a.eq_text
    rwa [List.take_left] at h
  rw [split, a.find?_eq hapart ht]
  simp only [read, h₁, h₂, h₃, h₄, htake, hwritten, Clock.numberOf_getD, Option.getD_some]
  rfl

theorem value_eq (a : Cut l t) (hfields : ¬ (59 < a.minuteNumber ∨ 59 < a.secondNumber))
    (hmarked : ¬ (a.marker.isSome ∧ ¬ (1 ≤ a.hourNumber ∧ a.hourNumber ≤ 12))) :
    a.value = match TimeOfDay.ofFields? (clockHour l a.marker a.hourNumber) a.minuteNumber a.secondNumber with
      | some time => .ok time
      | none => .error (.invalidHour a.hour) := by
  have hhour : markedHour l a.hour a.marker = .ok (clockHour l a.marker a.hourNumber) :=
    (markedHour_eq l a.hour a.marker).trans (if_neg hmarked)
  rw [value, if_neg hfields, hhour]
  rfl

end Cut

/-- A trimmed text is cut in at most one way. Where it cannot be cut it has no time. Where it can, the
minutes and seconds are checked first, then the hour, and the hour that is meant is one of the day. -/
theorem split_follows_grammar (hl : l.IsAccepted)
    (hdigits : ∀ w ∈ l.am ++ l.pm, ∀ c ∈ w, ¬ Text.isDecimal c = true) (ht : Text.trim t = t) :
    (∀ a b : Cut l t, a = b) ∧
      (IsEmpty (Cut l t) → split l t = .ok (none, t)) ∧
      ∀ a : Cut l t,
        if 59 < a.minuteNumber ∨ 59 < a.secondNumber then
          split l t = .error (.invalidTime t (some a.written))
        else if a.marker.isSome ∧ ¬ (1 ≤ a.hourNumber ∧ a.hourNumber ≤ 12) then
          split l t = .error (.invalidMarkedHour a.hour)
        else if a.marker = none ∧ 23 < a.hourNumber then
          split l t = .error (.invalidHour a.hour)
        else ∃ time : TimeOfDay, split l t = .ok (some time, Text.trim a.front) ∧
          clockHour l a.marker a.hourNumber < 24 ∧
          (time.hour : Nat) = clockHour l a.marker a.hourNumber ∧
          (time.minute : Nat) = a.minuteNumber ∧ (time.second : Nat) = a.secondNumber := by
  have hapart := keepsApart_of_isAccepted hl hdigits
  have htight := Text.isTight_of_trim_eq ht
  refine ⟨Cut.unique hapart, fun hempty => ?_, fun a => ?_⟩
  · have hnone : find? l t = none := by
      by_contra h
      obtain ⟨a⟩ := nonempty_cut htight h
      exact hempty.false a
    rw [split, hnone]
  · rw [a.split_eq hapart htight]
    split_ifs with hfields hmarked hplain
    · rw [Cut.value, if_pos hfields]
      rfl
    · have hhour : markedHour l a.hour a.marker = .error (.invalidMarkedHour a.hour) :=
        (markedHour_eq l a.hour a.marker).trans (if_pos hmarked)
      rw [Cut.value, if_neg hfields, hhour]
      rfl
    · have hnone : TimeOfDay.ofFields? (clockHour l a.marker a.hourNumber) a.minuteNumber a.secondNumber
          = none := by
        rw [TimeOfDay.ofFields?, hplain.1, dif_neg]
        exact fun h => absurd h.1 (Nat.not_lt.mpr hplain.2)
      rw [a.value_eq hfields hmarked, hnone]
      rfl
    · have hlt := clockHour_lt (l := l) hmarked hplain
      have hinside : clockHour l a.marker a.hourNumber < 24 ∧ a.minuteNumber < 60 ∧
          a.secondNumber < 60 := by
        omega
      refine ⟨⟨⟨_, hinside.1⟩, ⟨_, hinside.2.1⟩, ⟨_, hinside.2.2⟩⟩, ?_, hlt, rfl, rfl, rfl⟩
      rw [a.value_eq hfields hmarked, TimeOfDay.ofFields?, dif_pos hinside]
      rfl

/-- Nine seconds past five past noon, with another blank than the others before the marker. -/
def Cut.noon : Cut .english "t  12:05:09\u00a0PM" where
  front := ['t']
  gap := [' ', ' ']
  hour := ['1', '2']
  minute := some ['0', '5']
  second := some ['0', '9']
  inner := ['\u00a0']
  marker := some ['P', 'M']
  text_eq := rfl
  front_last := by
    rintro c ⟨⟩
    decide
  gap_isGap := by
    unfold Text.IsGap
    decide
  front_eq_nil := by simp
  hour_digits := ⟨⟨by decide, by decide⟩, by decide⟩
  minute_digits := by
    rintro f ⟨⟩
    exact ⟨⟨by decide, by decide⟩, rfl⟩
  second_digits := by
    rintro f ⟨⟩
    exact ⟨⟨by decide, by decide⟩, rfl⟩
  minute_of_second := fun _ => rfl
  inner_isGap := by
    unfold Text.IsGap
    decide
  inner_eq_nil := by simp
  marker_spells := by
    rintro m ⟨⟩
    exact ⟨['p', 'm'], by decide, .cons (by decide) (.cons (by decide) .nil)⟩

theorem split_follows_grammar_noon :
    Localization.english.IsAccepted ∧
      (∀ w ∈ Localization.english.am ++ Localization.english.pm, ∀ c ∈ w, ¬ Text.isDecimal c = true) ∧
      Text.trim "t  12:05:09\u00a0PM" = "t  12:05:09\u00a0PM" ∧ (∀ a, a = Cut.noon) ∧
      split .english "t  12:05:09\u00a0PM" = .ok (some ⟨12, 5, 9⟩, "t") := by
  have hmem : (("en" : Text), Localization.english) ∈ Localization.builtin := List.mem_cons_self
  have hl := Localization.isAccepted_of_mem_builtin hmem
  have hdigits : ∀ w ∈ Localization.english.am ++ Localization.english.pm, ∀ c ∈ w,
      ¬ Text.isDecimal c = true := by
    decide
  have ht : Text.trim "t  12:05:09\u00a0PM" = "t  12:05:09\u00a0PM" := by decide
  obtain ⟨hunique, -, hcut⟩ := split_follows_grammar hl hdigits ht
  refine ⟨hl, hdigits, ht, fun a => hunique a _, ?_⟩
  have h := hcut Cut.noon
  have hfields : ¬ (59 < Cut.noon.minuteNumber ∨ 59 < Cut.noon.secondNumber) := by decide
  have hmarked : ¬ (Cut.noon.marker.isSome ∧
      ¬ (1 ≤ Cut.noon.hourNumber ∧ Cut.noon.hourNumber ≤ 12)) := by
    decide
  have hplain : ¬ (Cut.noon.marker = none ∧ 23 < Cut.noon.hourNumber) := by simp [Cut.noon]
  rw [if_neg hfields, if_neg hmarked, if_neg hplain] at h
  obtain ⟨⟨hour, minute, second⟩, hsplit, -, hhour, hminute, hsecond⟩ := h
  have hvalues : clockHour .english Cut.noon.marker Cut.noon.hourNumber = 12 ∧
      Cut.noon.minuteNumber = 5 ∧ Cut.noon.secondNumber = 9 := by
    decide
  obtain rfl : hour = 12 := Fin.ext (hhour.trans hvalues.1)
  obtain rfl : minute = 5 := Fin.ext (hminute.trans hvalues.2.1)
  obtain rfl : second = 9 := Fin.ext (hsecond.trans hvalues.2.2)
  rw [hsplit]
  rfl

end TrailingTime

end DateShorthand
