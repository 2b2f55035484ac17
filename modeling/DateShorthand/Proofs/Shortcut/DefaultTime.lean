import DateShorthand.Proofs.Shortcut.TimeLayer
import DateShorthand.Proofs.Text.Pieces

/-!
# Default times

A default time is one to three fields of digits between colons. It is read when its numbers are those of
a time of day; otherwise either its numbers or its shape is at fault.
-/

namespace DateShorthand

theorem TimeOfDay.ofFields?_eq_some_iff {hour minute second : Nat} {time : TimeOfDay} :
    ofFields? hour minute second = some time ↔
      (time.hour : Nat) = hour ∧ (time.minute : Nat) = minute ∧ (time.second : Nat) = second := by
  obtain ⟨⟨h, hh⟩, ⟨m, hm⟩, ⟨s, hs⟩⟩ := time
  simp only [ofFields?, Option.dite_none_right_eq_some, Option.some.injEq, mk.injEq, Fin.mk.injEq]
  constructor
  · rintro ⟨-, rfl, rfl, rfl⟩
    exact ⟨rfl, rfl, rfl⟩
  · rintro ⟨rfl, rfl, rfl⟩
    exact ⟨⟨hh, hm, hs⟩, rfl, rfl, rfl⟩

theorem TimeOfDay.exists_ofFields?_iff {hour minute second : Nat} :
    (∃ time, ofFields? hour minute second = some time) ↔ hour < 24 ∧ minute < 60 ∧ second < 60 := by
  simp only [ofFields?, Option.dite_none_right_eq_some, Option.some.injEq]
  constructor
  · rintro ⟨_, h, -⟩
    exact h
  · intro h
    exact ⟨_, h, rfl⟩

namespace DefaultTime

variable {value : Text} {fields : List Text} {time : TimeOfDay}

/-! ## Fields -/

/-- What stands between the colons, without the blanks at either end. -/
def fieldsOf (value : Text) : List Text := ((Text.trim value).pieces ':').map Text.trim

/-- One to three fields, all of them digits. -/
structure HasShape (fields : List Text) : Prop where
  length_pos : 1 ≤ fields.length
  length_le : fields.length ≤ 3
  digits : ∀ field ∈ fields, field.IsDigits

/-- The number that a field writes, 0 where there is no field. -/
def numberAt (fields : List Text) (index : Nat) : Nat :=
  TrailingTime.numberOf (fields[index]?.getD [])

/-- The numbers are those of an hour, a minute and a second. -/
def InRange (fields : List Text) : Prop :=
  numberAt fields 0 ≤ 23 ∧ numberAt fields 1 ≤ 59 ∧ numberAt fields 2 ≤ 59

theorem hasShape_fieldsOf_iff : HasShape (fieldsOf value) ↔
    ((Text.trim value).pieces ':').length ≤ 3 ∧
      ∀ piece ∈ (Text.trim value).pieces ':', isNumeral piece = true := by
  obtain ⟨first, more, hpieces⟩ := Text.exists_pieces ':' (Text.trim value)
  simp only [← Text.isDigits_trim_iff]
  constructor
  · intro h
    exact ⟨by simpa [fieldsOf] using h.length_le, fun piece hpiece =>
      h.digits _ (List.mem_map.mpr ⟨piece, hpiece, rfl⟩)⟩
  · rintro ⟨hlength, hdigits⟩
    refine ⟨by simp [fieldsOf, hpieces], by simpa [fieldsOf] using hlength, ?_⟩
    rw [fieldsOf, List.forall_mem_map]
    exact hdigits

theorem ofNumbers?_of_hasShape (h : HasShape fields) :
    ofNumbers? (fields.map fun field => (TrailingTime.numberOf field : Int))
      = TimeOfDay.ofFields? (numberAt fields 0) (numberAt fields 1) (numberAt fields 2) := by
  have hpos := h.length_pos
  have hle := h.length_le
  match fields with
  | [] => simp at hpos
  | [_] | [_, _] | [_, _, _] => rfl
  | _ :: _ :: _ :: _ :: _ =>
    simp only [List.length_cons] at hle
    omega

theorem inRange_iff : InRange fields ↔ ∃ time,
    TimeOfDay.ofFields? (numberAt fields 0) (numberAt fields 1) (numberAt fields 2) = some time := by
  rw [InRange, TimeOfDay.exists_ofFields?_iff]
  omega

/-! ## Numbers -/

/-- Every piece has a number. -/
def IsReadable (value : Text) : Prop := ∀ piece ∈ (Text.trim value).pieces ':',
  (∀ c ∈ piece, ¬ Text.isSeparator c = true) ∧ (Text.trim piece).length ≤ Text.digitLimit

theorem toIntOrFail_eq {piece : Text} (hdigits : (Text.trim piece).IsDigits)
    (hplain : ∀ c ∈ piece, ¬ Text.isSeparator c = true)
    (hshort : (Text.trim piece).length ≤ Text.digitLimit) :
    piece.toIntOrFail = .ok (TrailingTime.numberOf (Text.trim piece)) := by
  rw [Text.toIntOrFail, Text.toInt_trim hdigits hplain, hdigits.toInt, if_neg (by omega)]
  rfl

theorem mapM_toIntOrFail (pieces : List Text) (h : ∀ piece ∈ pieces, piece.toIntOrFail
      = .ok (TrailingTime.numberOf (Text.trim piece))) :
    pieces.mapM Text.toIntOrFail
      = .ok ((pieces.map Text.trim).map fun field => (TrailingTime.numberOf field : Int)) := by
  induction pieces with
  | nil => rfl
  | cons piece rest ih =>
    obtain ⟨hpiece, hrest⟩ := List.forall_mem_cons.mp h
    rw [List.mapM_cons, hpiece, ok_bind, ih hrest]
    rfl

theorem isReadable_of_pieces (hshort : ∀ piece ∈ value.pieces ':', piece.length ≤ Text.digitLimit)
    (hplain : ∀ c ∈ value, ¬ Text.isSeparator c = true) : IsReadable value := by
  intro piece hpiece
  obtain ⟨gap, gap', -, -, -, hvalue⟩ := Text.exists_trim value
  obtain ⟨gap₁, gap₂, -, -, -, hfield⟩ := Text.exists_trim piece
  -- the piece is a piece of the trimmed text, and so lies within one of the whole text
  obtain ⟨hinside, hcolon⟩ := Text.exists_piece_iff.mp ⟨piece, hpiece, List.infix_rfl⟩
  have hwhole : piece <:+: value := hinside.trans ⟨gap, gap', hvalue.symm⟩
  obtain ⟨longer, hlonger, hin⟩ := Text.exists_piece_iff.mpr ⟨hwhole, hcolon⟩
  have htrim : (Text.trim piece).length ≤ piece.length :=
    List.IsInfix.length_le ⟨gap₁, gap₂, hfield.symm⟩
  exact ⟨fun c hc => hplain c (hwhole.subset hc), htrim.trans (hin.length_le.trans (hshort _ hlonger))⟩

/-! ## Outcomes -/

theorem parse_of_not_hasShape (h : ¬ HasShape (fieldsOf value)) :
    parse value = .error (.fault (.defaultTimeFormat value)) := by
  rw [hasShape_fieldsOf_iff] at h
  unfold parse
  refine if_pos ?_
  by_contra hnot
  simp only [not_or, Nat.not_lt, Bool.not_eq_true', Bool.not_eq_false, List.all_eq_true] at hnot
  exact h hnot

theorem parse_of_hasShape (h : HasShape (fieldsOf value)) (hreadable : IsReadable value) :
    parse value = match TimeOfDay.ofFields? (numberAt (fieldsOf value) 0) (numberAt (fieldsOf value) 1)
        (numberAt (fieldsOf value) 2) with
      | some time => .ok time
      | none => .error (.fault (.defaultTimeValue value)) := by
  obtain ⟨hlength, hnumeral⟩ := hasShape_fieldsOf_iff.mp h
  have hall : ((Text.trim value).pieces ':').all isNumeral = true := List.all_eq_true.mpr hnumeral
  have hnumbers := mapM_toIntOrFail _ fun piece hpiece =>
    toIntOrFail_eq (Text.isDigits_trim_iff.mpr (hnumeral piece hpiece)) (hreadable piece hpiece).1
      (hreadable piece hpiece).2
  rw [parse, if_neg (by simp [hall, Nat.not_lt.mpr hlength]), hnumbers, ok_bind]
  change (match ofNumbers? ((fieldsOf value).map _) with | some time => _ | none => _) = _
  rw [ofNumbers?_of_hasShape h]

theorem parse_eq_ok_iff (hreadable : IsReadable value) : parse value = .ok time ↔
    HasShape (fieldsOf value) ∧ (time.hour : Nat) = numberAt (fieldsOf value) 0 ∧
      (time.minute : Nat) = numberAt (fieldsOf value) 1 ∧
      (time.second : Nat) = numberAt (fieldsOf value) 2 := by
  by_cases hshape : HasShape (fieldsOf value)
  · rw [parse_of_hasShape hshape hreadable, ← TimeOfDay.ofFields?_eq_some_iff, and_iff_right hshape]
    split <;> simp [*]
  · simp [parse_of_not_hasShape hshape, hshape]

theorem parse_eq_valueFault_iff (hreadable : IsReadable value) :
    parse value = .error (.fault (.defaultTimeValue value)) ↔
      HasShape (fieldsOf value) ∧ ¬ InRange (fieldsOf value) := by
  by_cases hshape : HasShape (fieldsOf value)
  · rw [parse_of_hasShape hshape hreadable, and_iff_right hshape, inRange_iff]
    split <;> simp [*]
  · simp [parse_of_not_hasShape hshape, hshape]

theorem parse_eq_formatFault_iff (hreadable : IsReadable value) :
    parse value = .error (.fault (.defaultTimeFormat value)) ↔ ¬ HasShape (fieldsOf value) := by
  refine ⟨fun h hshape => ?_, parse_of_not_hasShape⟩
  rw [parse_of_hasShape hshape hreadable] at h
  split at h <;> simp at h

/-! ## Trimmed and written again -/

theorem fieldsOf_trim (value : Text) : fieldsOf (Text.trim value) = fieldsOf value := by
  rw [fieldsOf, Text.trim_trim]
  rfl

theorem IsReadable.trim (h : IsReadable value) : IsReadable (Text.trim value) := by
  rwa [IsReadable, Text.trim_trim]

theorem pieces_iso (time : TimeOfDay) : Text.pieces ':' time.iso
    = [Text.padded 2 time.hour, Text.padded 2 time.minute, Text.padded 2 time.second] := by
  have hcolon : ∀ n, ':' ∉ Text.padded 2 n := fun n h =>
    absurd ((Text.isDigits_padded 2 n).decimal _ h) (by decide)
  rw [TimeOfDay.iso, List.append_assoc, List.cons_append, Text.pieces_append_cons (hcolon _),
    Text.pieces_append_cons (hcolon _), Text.pieces_of_not_mem (hcolon _)]

theorem parse_iso (time : TimeOfDay) : parse time.iso = .ok time := by
  have hpieces : (Text.trim time.iso).pieces ':'
      = [Text.padded 2 time.hour, Text.padded 2 time.minute, Text.padded 2 time.second] := by
    rw [Text.trim_of_isTight (Resolver.isTight_iso time), pieces_iso]
  have htrim : ∀ n, Text.trim (Text.padded 2 n) = Text.padded 2 n := fun n =>
    Text.trim_of_isTight (Text.isDigits_padded 2 n).isSolid.isTight
  have hfields : fieldsOf time.iso
      = [Text.padded 2 time.hour, Text.padded 2 time.minute, Text.padded 2 time.second] := by
    rw [fieldsOf, hpieces]
    simp only [List.map_cons, List.map_nil, htrim]
  have hreadable : IsReadable time.iso := by
    have hfield : ∀ n < 100, (∀ c ∈ Text.padded 2 n, ¬ Text.isSeparator c = true) ∧
        (Text.trim (Text.padded 2 n)).length ≤ Text.digitLimit := by
      intro n hn
      refine ⟨fun c hc hseparator => ?_, ?_⟩
      · exact (Text.isDigits_padded 2 n).isSolid c hc (Text.isBlank_of_isSeparator hseparator)
      · rw [htrim, (Text.padded_two hn).2.1]
        decide
    rw [IsReadable, hpieces]
    simp only [List.forall_mem_cons]
    exact ⟨hfield _ (by omega), hfield _ (by omega), hfield _ (by omega), by simp⟩
  rw [parse_eq_ok_iff hreadable, hfields]
  refine ⟨⟨by simp, by simp, ?_⟩, ?_⟩
  · simp [Text.isDigits_padded]
  · simp [numberAt, Text.numberOf_padded]

/-! ## All default times -/

/-- A default time is read exactly when it has the shape and its numbers are in range, its numbers are at
fault when it has the shape alone, and its shape is at fault otherwise. The blanks at its ends change
nothing but the text that the fault quotes, and a time that is written out is read back. -/
theorem parse_classifies (hshort : ∀ piece ∈ value.pieces ':', piece.length ≤ Text.digitLimit)
    (hplain : ∀ c ∈ value, ¬ Text.isSeparator c = true) :
    ((∃ time, parse value = .ok time) ↔ HasShape (fieldsOf value) ∧ InRange (fieldsOf value)) ∧
    (∀ time, parse value = .ok time → (time.hour : Nat) = numberAt (fieldsOf value) 0 ∧
      (time.minute : Nat) = numberAt (fieldsOf value) 1 ∧
      (time.second : Nat) = numberAt (fieldsOf value) 2) ∧
    (parse value = .error (.fault (.defaultTimeValue value)) ↔
      HasShape (fieldsOf value) ∧ ¬ InRange (fieldsOf value)) ∧
    (parse value = .error (.fault (.defaultTimeFormat value)) ↔ ¬ HasShape (fieldsOf value)) ∧
    (∀ time, parse (Text.trim value) = .ok time ↔ parse value = .ok time) ∧
    (parse (Text.trim value) = .error (.fault (.defaultTimeValue (Text.trim value))) ↔
      parse value = .error (.fault (.defaultTimeValue value))) ∧
    (parse (Text.trim value) = .error (.fault (.defaultTimeFormat (Text.trim value))) ↔
      parse value = .error (.fault (.defaultTimeFormat value))) ∧
    ∀ time, parse value = .ok time → parse time.iso = .ok time := by
  have hreadable := isReadable_of_pieces hshort hplain
  have hok : ∀ time, parse value = .ok time ↔ _ := fun time => parse_eq_ok_iff hreadable
  refine ⟨?_, fun time h => ((hok time).mp h).2, parse_eq_valueFault_iff hreadable,
    parse_eq_formatFault_iff hreadable, fun time => ?_, ?_, ?_, fun time _ => parse_iso time⟩
  · simp only [hok, ← TimeOfDay.ofFields?_eq_some_iff, exists_and_left, inRange_iff]
  · rw [hok, parse_eq_ok_iff hreadable.trim, fieldsOf_trim]
  · rw [parse_eq_valueFault_iff hreadable, parse_eq_valueFault_iff hreadable.trim, fieldsOf_trim]
  · rw [parse_eq_formatFault_iff hreadable, parse_eq_formatFault_iff hreadable.trim, fieldsOf_trim]

/-- Digits of two scripts, blanks inside and outside, and a zero too many in front. -/
theorem parse_classifies_mixed_digits :
    (∀ piece ∈ Text.pieces ':' " ٠٩\t:5 :059\n", piece.length ≤ Text.digitLimit) ∧
    (∀ c ∈ (" ٠٩\t:5 :059\n" : Text), ¬ Text.isSeparator c = true) ∧
    parse " ٠٩\t:5 :059\n" = .ok ⟨9, 5, 59⟩ ∧ parse "٠٩\t:5 :059" = .ok ⟨9, 5, 59⟩ ∧
    parse "09:05:59" = .ok ⟨9, 5, 59⟩ := by
  have hshort : ∀ piece ∈ Text.pieces ':' " ٠٩\t:5 :059\n", piece.length ≤ Text.digitLimit := by decide
  have hplain : ∀ c ∈ (" ٠٩\t:5 :059\n" : Text), ¬ Text.isSeparator c = true := by decide
  obtain ⟨hok, hfields, -, -, htrim, -, -, hiso⟩ := parse_classifies hshort hplain
  have hvalue : fieldsOf " ٠٩\t:5 :059\n" = ["٠٩", "5", "059"] := by decide
  have hshape : HasShape (fieldsOf " ٠٩\t:5 :059\n") := by
    rw [hvalue]
    refine ⟨by decide, by decide, fun field hfield => ⟨?_, ?_⟩⟩ <;> revert field <;> decide
  have hnumbers : numberAt (fieldsOf " ٠٩\t:5 :059\n") 0 = 9 ∧
      numberAt (fieldsOf " ٠٩\t:5 :059\n") 1 = 5 ∧ numberAt (fieldsOf " ٠٩\t:5 :059\n") 2 = 59 := by
    rw [hvalue]
    decide
  obtain ⟨⟨hour, minute, second⟩, h⟩ := hok.mpr ⟨hshape, by unfold InRange; omega⟩
  obtain ⟨hhour, hminute, hsecond⟩ := hfields _ h
  obtain rfl : hour = 9 := Fin.ext (hhour.trans hnumbers.1)
  obtain rfl : minute = 5 := Fin.ext (hminute.trans hnumbers.2.1)
  obtain rfl : second = 59 := Fin.ext (hsecond.trans hnumbers.2.2)
  have htrimmed : Text.trim " ٠٩\t:5 :059\n" = "٠٩\t:5 :059" := by decide
  have hwritten : TimeOfDay.iso ⟨9, 5, 59⟩ = "09:05:59" := by decide
  exact ⟨hshort, hplain, h, htrimmed ▸ (htrim _).mpr h, hwritten ▸ hiso _ h⟩

end DefaultTime

end DateShorthand
