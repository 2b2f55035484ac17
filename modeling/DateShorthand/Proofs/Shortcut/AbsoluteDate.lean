import DateShorthand.Locale.Builtin
import DateShorthand.Proofs.Regex.Repetition
import DateShorthand.Proofs.Regex.Replacement
import DateShorthand.Proofs.Text.Numeral
import DateShorthand.Shortcut.AbsoluteDate

/-!
# Dates between separators

The patterns of the built-in localizations match exactly the written dates, and take as many
digits as they can.
-/

namespace DateShorthand

/-! ## Written dates -/

/-- Day and month in either order, and perhaps a year. -/
structure WrittenDate where
  first : Text
  second : Text
  year : Option Text
  first_digits : first.IsDigits ∧ first.length ≤ 2
  second_digits : second.IsDigits ∧ second.length ≤ 2
  year_digits : ∀ y ∈ year, y.IsDigits ∧ 2 ≤ y.length ∧ y.length ≤ 4

namespace WrittenDate

variable {separator : Char}

def yearText (separator : Char) : Option Text → Text
  | none => []
  | some y => separator :: y

def text (d : WrittenDate) (separator : Char) : Text :=
  d.first ++ separator :: (d.second ++ yearText separator d.year)

theorem mem_text {d : WrittenDate} {c : Char} (h : c ∈ d.text separator) :
    Text.isDecimal c = true ∨ c = separator := by
  have hyear : c ∈ yearText separator d.year → Text.isDecimal c = true ∨ c = separator := by
    intro hc
    cases hy : d.year with
    | none => simp [hy, yearText] at hc
    | some y =>
      rw [hy, yearText, List.mem_cons] at hc
      exact hc.symm.imp_left ((d.year_digits y hy).1.decimal c)
  rcases List.mem_append.mp h with h | h
  · exact Or.inl (d.first_digits.1.decimal c h)
  rcases List.mem_cons.mp h with h | h
  · exact Or.inr h
  rcases List.mem_append.mp h with h | h
  · exact Or.inl (d.second_digits.1.decimal c h)
  · exact hyear h

theorem exists_head (d : WrittenDate) (separator : Char) :
    ∃ c ∈ (d.text separator).head?, Text.isDecimal c = true := by
  have hne := d.first_digits.1.ne_nil
  refine ⟨d.first.head hne, ?_, d.first_digits.1.decimal _ (List.head_mem hne)⟩
  rw [text, List.head?_append, List.head?_eq_some_head hne]
  rfl

theorem exists_last (d : WrittenDate) (separator : Char) :
    ∃ c ∈ (d.text separator).getLast?, Text.isDecimal c = true := by
  have hlast : ∀ before f : Text, f.IsDigits → ∃ c ∈ (before ++ f).getLast?, Text.isDecimal c = true := by
    intro before f hf
    refine ⟨f.getLast hf.ne_nil, ?_, hf.decimal _ (List.getLast_mem hf.ne_nil)⟩
    rw [List.getLast?_append, List.getLast?_eq_some_getLast hf.ne_nil]
    rfl
  cases hy : d.year with
  | none => simpa [text, hy, yearText] using hlast (d.first ++ [separator]) _ d.second_digits.1
  | some y =>
    simpa [text, hy, yearText] using
      hlast (d.first ++ separator :: (d.second ++ [separator])) _ (d.year_digits y hy).1

/-- The groups that the date fills, newest first. -/
def captures (d : WrittenDate) : Regex.Captures :=
  (d.year.map (3, ·)).toList ++ [(2, d.second), (1, d.first)]

def matched (d : WrittenDate) (separator : Char) (s : Regex.State) : Regex.State :=
  s.read (d.text separator).length d.captures

theorem matched_eq (d : WrittenDate) (separator : Char) (s : Regex.State) :
    d.matched separator s = s.read
      (d.first.length + (1 + (d.second.length + (yearText separator d.year).length))) d.captures := by
  simp [matched, text, Nat.add_comm 1]

end WrittenDate

/-! ## The pattern -/

namespace Regex

variable {separator : Char} {s t : State}

/-- Every match is a written date. -/
theorem mem_outcomes_separated (h : t ∈ outcomes false (DatePattern.separated separator) s) :
    ∃ (d : WrittenDate) (rest : Text),
      s.cursor.ahead = d.text separator ++ rest ∧ t = d.matched separator s := by
  simp only [DatePattern.separated, outcomes_ofList_cons, outcomes_ofList_nil, outcomes_group_ofList,
    outcomes_optional, List.mem_flatMap, List.mem_append, List.mem_singleton] at h
  obtain ⟨s₀, hstart, s₁, hfirst, s₂, hseparator, s₃, hsecond, s₄, hyear, rfl⟩ := h
  obtain rfl : s₀ = s := by
    rw [outcomes] at hstart
    split at hstart <;> simp_all
  obtain ⟨first, rest₁, hd₁, hlo₁, hhi₁, hahead, rfl⟩ := mem_outcomes_decimals (by decide) hfirst
  obtain ⟨c, rest₂, hahead₁, hholds, rfl⟩ := mem_outcomes_char hseparator
  obtain rfl : separator = c := by simpa [charHolds] using hholds
  obtain ⟨second, rest₃, hd₂, hlo₂, hhi₂, hahead₂, rfl⟩ := mem_outcomes_decimals (by decide) hsecond
  obtain rfl : rest₁ = separator :: rest₂ := (State.ahead_read _ hahead).symm.trans hahead₁
  obtain rfl : rest₂ = second ++ rest₃ := (State.ahead_read (t := [separator]) _ hahead₁).symm.trans hahead₂
  have hdigits₁ := Text.IsDigits.of_length_pos hd₁ hlo₁
  have hdigits₂ := Text.IsDigits.of_length_pos hd₂ hlo₂
  have hahead₃ := State.ahead_read [(2, second)] hahead₂
  rcases hyear with ⟨s₅, hseparator', s₆, hyear, rfl⟩ | rfl
  · obtain ⟨c, rest₄, hahead₄, hholds', rfl⟩ := mem_outcomes_char hseparator'
    obtain rfl : separator = c := by simpa [charHolds] using hholds'
    obtain ⟨year, rest₅, hd₃, hlo₃, hhi₃, hahead₅, rfl⟩ := mem_outcomes_decimals (by decide) hyear
    obtain rfl : rest₃ = separator :: rest₄ := hahead₃.symm.trans hahead₄
    obtain rfl : rest₄ = year ++ rest₅ :=
      (State.ahead_read (t := [separator]) _ hahead₄).symm.trans hahead₅
    have hdigits₃ := Text.IsDigits.of_length_pos hd₃ (by omega)
    refine ⟨⟨first, second, some year, ⟨hdigits₁, hhi₁⟩, ⟨hdigits₂, hhi₂⟩, ?_⟩, rest₅, ?_, ?_⟩
    · simp [hdigits₃, hlo₃, hhi₃]
    · simp [hahead, WrittenDate.text, WrittenDate.yearText]
    · rw [State.read_read, State.read_read, State.read_read, State.read_read, WrittenDate.matched_eq,
        Nat.add_comm 1 year.length]
      rfl
  · refine ⟨⟨first, second, none, ⟨hdigits₁, hhi₁⟩, ⟨hdigits₂, hhi₂⟩, by simp⟩, rest₃, ?_, ?_⟩
    · simp [hahead, WrittenDate.text, WrittenDate.yearText]
    · rw [State.read_read, State.read_read, WrittenDate.matched_eq]
      rfl

def yearRegex (separator : Char) : Regex :=
  ofList [.char separator, .group 3 (ofList [decimals 2 4])]

theorem outcomes_yearRegex_eq_nil
    (h : ∀ u, s.cursor.ahead = separator :: u → leading Text.isDecimal u < 2) :
    outcomes false (yearRegex separator) s = [] := by
  rw [yearRegex, outcomes_ofList_cons, List.flatMap_eq_nil_iff]
  intro t ht
  obtain ⟨c, u, hu, hholds, rfl⟩ := mem_outcomes_char ht
  obtain rfl : separator = c := by simpa [charHolds] using hholds
  rw [outcomes_ofList_cons, outcomes_group_ofList, outcomes_ofList_nil, List.flatMap_singleton',
    List.eq_nil_iff_forall_not_mem]
  intro t ht
  obtain ⟨digits, after, hdigits, hlo, -, hafter, -⟩ := mem_outcomes_decimals (by decide) ht
  have hu' : u = digits ++ after := (State.ahead_read (t := [separator]) _ hu).symm.trans hafter
  have hshort := h u hu
  rw [hu', leading, List.takeWhile_append_of_pos hdigits, List.length_append] at hshort
  omega

theorem head?_outcomes_yearRegex {y rest : Text} (hahead : s.cursor.ahead = separator :: (y ++ rest))
    (hy : y.IsDigits ∧ 2 ≤ y.length ∧ y.length ≤ 4)
    (hrest : ∀ c ∈ rest.head?, ¬ Text.isDecimal c = true) :
    (outcomes false (yearRegex separator) s).head? = some (s.read (separator :: y).length [(3, y)]) := by
  have hahead' : (s.read 1 []).cursor.ahead = y ++ rest :=
    State.ahead_read (t := [separator]) _ hahead
  rw [yearRegex, outcomes_ofList_cons, outcomes_char hahead, List.flatMap_singleton,
    outcomes_ofList_cons, outcomes_group_ofList]
  refine head?_flatMap_decimals hy.1.decimal hy.2.1 hy.2.2 hahead' (fun _ => hrest) ?_
  rw [State.read_read, Nat.add_comm]
  rfl

/-- A written date is matched in full, unless it goes on with digits or with a year. -/
theorem head?_outcomes_separated {d : WrittenDate} {rest : Text}
    (hseparator : ¬ Text.isDecimal separator = true) (hstart : s.cursor.position = 0)
    (hahead : s.cursor.ahead = d.text separator ++ rest)
    (hrest : ∀ c ∈ rest.head?, ¬ Text.isDecimal c = true)
    (hyear : d.year = none → ∀ u, rest = separator :: u → leading Text.isDecimal u < 2) :
    (outcomes false (DatePattern.separated separator) s).head? = some (d.matched separator s) := by
  have hanchor : outcomes false (.anchor .start) s = [s] := by simp [outcomes, anchorHolds, hstart]
  have hstop : ∀ c ∈ (WrittenDate.yearText separator d.year ++ rest).head?,
      ¬ Text.isDecimal c = true := by
    cases h : d.year with
    | none => simpa [WrittenDate.yearText] using hrest
    | some y => simpa [WrittenDate.yearText] using hseparator
  have hahead₁ : s.cursor.ahead
      = d.first ++ separator :: (d.second ++ (WrittenDate.yearText separator d.year ++ rest)) := by
    simp [hahead, WrittenDate.text]
  have hahead₂ := State.ahead_read [(1, d.first)] hahead₁
  have hahead₃ := State.ahead_read (t := [separator]) [] hahead₂
  have hahead₄ := State.ahead_read [(2, d.second)] hahead₃
  rw [DatePattern.separated, outcomes_ofList_cons, hanchor, List.flatMap_singleton,
    outcomes_ofList_cons, outcomes_group_ofList]
  refine head?_flatMap_decimals d.first_digits.1.decimal d.first_digits.1.length_pos
    d.first_digits.2 hahead₁ (fun _ => by simpa using hseparator) ?_
  rw [outcomes_ofList_cons, outcomes_char hahead₂, List.flatMap_singleton, outcomes_ofList_cons,
    outcomes_group_ofList]
  refine head?_flatMap_decimals d.second_digits.1.decimal d.second_digits.1.length_pos
    d.second_digits.2 hahead₃ (fun _ => hstop) ?_
  rw [outcomes_ofList_cons, outcomes_ofList_nil, List.flatMap_singleton', outcomes_optional,
    List.head?_append]
  change (outcomes false (yearRegex separator) (((s.read _ _).read [separator].length _).read _ _)).head?.or _
    = _
  cases h : d.year with
  | none =>
    rw [h, WrittenDate.yearText, List.nil_append] at hahead₄
    rw [outcomes_yearRegex_eq_nil fun u hu => hyear h u (hahead₄.symm.trans hu), State.read_read,
      State.read_read, WrittenDate.matched_eq, WrittenDate.captures, h]
    rfl
  | some y =>
    rw [h, WrittenDate.yearText, List.cons_append] at hahead₄
    rw [head?_outcomes_yearRegex hahead₄ (d.year_digits y h) hrest, State.read_read,
      State.read_read, State.read_read, WrittenDate.matched_eq, WrittenDate.captures, h]
    rfl

end Regex

/-! ## Matches -/

namespace WrittenDate

variable {separator : Char}

def toMatch (d : WrittenDate) (separator : Char) (rest : Text) : Regex.Match :=
  ⟨0, d.text separator, rest, d.captures⟩

theorem exists_of_matchStart? {t : Text} {m : Regex.Match}
    (h : (DatePattern.separated separator).matchStart? false t = some m) :
    ∃ (d : WrittenDate) (rest : Text), t = d.text separator ++ rest ∧ m = d.toMatch separator rest := by
  rw [Regex.matchStart?, Regex.matchAt?_eq_head?] at h
  obtain ⟨s, hs, rfl⟩ := Option.map_eq_some_iff.mp h
  obtain ⟨d, rest, hahead, rfl⟩ := Regex.mem_outcomes_separated (List.mem_of_head? hs)
  exact ⟨d, rest, hahead, Regex.Match.ofOutcome_read d.captures hahead⟩

theorem matchStart?_eq_some {d : WrittenDate} {rest : Text}
    (hseparator : ¬ Text.isDecimal separator = true)
    (hrest : ∀ c ∈ rest.head?, ¬ Text.isDecimal c = true)
    (hyear : d.year = none → ∀ u, rest = separator :: u → Regex.leading Text.isDecimal u < 2) :
    (DatePattern.separated separator).matchStart? false (d.text separator ++ rest)
      = some (d.toMatch separator rest) := by
  rw [Regex.matchStart?, Regex.matchAt?_eq_head?,
    Regex.head?_outcomes_separated hseparator rfl rfl hrest hyear, Option.map_some]
  exact congrArg some (Regex.Match.ofOutcome_read d.captures rfl)

/-! ## Reading -/

def yearNumber (default : Nat) : Option Text → Int
  | none => default
  | some y =>
    if y.length ≤ 2 then TrailingTime.numberOf y + AbsoluteDate.century
    else TrailingTime.numberOf y

def date (d : WrittenDate) (order : FieldOrder) (defaultYear : Nat) : Except CalendarFault Date :=
  let year := yearNumber defaultYear d.year
  match order with
  | .dayFirst => Date.ofCalendar year (TrailingTime.numberOf d.second) (TrailingTime.numberOf d.first)
  | .monthFirst => Date.ofCalendar year (TrailingTime.numberOf d.first) (TrailingTime.numberOf d.second)

theorem toIntOrFail_of_isDigits {t : Text} (h : t.IsDigits) (hshort : t.length ≤ 4) :
    t.toIntOrFail = .ok (TrailingTime.numberOf t) := by
  have hlimit : ¬ Text.digitLimit < t.length := by
    unfold Text.digitLimit
    omega
  rw [Text.toIntOrFail, h.toInt, if_neg hlimit]
  rfl

theorem group?_toMatch (d : WrittenDate) (rest : Text) :
    (d.toMatch separator rest).group? 1 = some d.first ∧
      (d.toMatch separator rest).group? 2 = some d.second ∧
      (d.toMatch separator rest).group? 3 = d.year := by
  cases h : d.year <;> simp [toMatch, Regex.Match.group?, captures, h, List.lookup_cons]

theorem yearOf_eq_ok (d : WrittenDate) (defaultYear : Nat) :
    AbsoluteDate.yearOf defaultYear d.year = .ok (yearNumber defaultYear d.year) := by
  cases h : d.year with
  | none => rfl
  | some y =>
    obtain ⟨hdigits, -, hshort⟩ := d.year_digits y h
    obtain ⟨c, u, rfl⟩ := List.exists_cons_of_ne_nil hdigits.ne_nil
    simp only [AbsoluteDate.yearOf, toIntOrFail_of_isDigits hdigits hshort, yearNumber]
    split <;> rfl

theorem read_toMatch (d : WrittenDate) (rest : Text) (defaultYear : Nat) (p : DatePattern) :
    AbsoluteDate.read defaultYear p (d.toMatch separator rest)
      = CalendarFault.guard (d.text separator) (d.date p.order defaultYear) := by
  obtain ⟨hfirst, hsecond, hyear⟩ := d.group?_toMatch rest
  have hshort₁ := Nat.le_trans d.first_digits.2 (show 2 ≤ 4 by decide)
  have hshort₂ := Nat.le_trans d.second_digits.2 (show 2 ≤ 4 by decide)
  unfold AbsoluteDate.read
  rw [hfirst, hsecond, hyear, yearOf_eq_ok]
  simp only [AbsoluteDate.required, toIntOrFail_of_isDigits d.first_digits.1 hshort₁,
    toIntOrFail_of_isDigits d.second_digits.1 hshort₂, bind, Except.bind]
  rfl

end WrittenDate

/-! ## Replaced characters -/

theorem DatePattern.isBlindTo_separated {f : Char → Char} {caseless : Bool} {separator : Char}
    (hdecimal : ∀ c, Text.isDecimal (f c) = Text.isDecimal c)
    (hseparator : (Regex.char separator).IsBlindTo f caseless) :
    (separated separator).IsBlindTo f caseless := by
  have hfield : ∀ index min max, (Regex.group index (.ofList [.decimals min max])).IsBlindTo f caseless :=
    fun _ min max => ⟨Regex.isBlindTo_decimals hdecimal min max, trivial⟩
  exact ⟨trivial, hfield 1 1 2, hseparator, hfield 2 1 2, ⟨hseparator, hfield 3 2 4, trivial⟩, trivial⟩

/-! ## Layouts -/

/-- The localization has one way to write dates, with this separator and in this order. -/
structure Localization.HasLayout (l : Localization) (separator : Char) (order : FieldOrder) : Prop where
  datePatterns : ∃ p : DatePattern, l.datePatterns = [p] ∧
    p.regex = ⟨DatePattern.separated separator, 3, false⟩ ∧ p.order = order
  separator_not_decimal : ¬ Text.isDecimal separator = true

/-- The built-in localizations, each with its separator and the order of day and month. -/
def Localization.layouts : List (Localization × Char × FieldOrder) :=
  [(english, '/', .monthFirst), (german, '.', .dayFirst), (french, '/', .dayFirst),
   (turkish, '.', .dayFirst)]

theorem Localization.map_layouts : layouts.map (·.1) = builtin.map (·.2) := rfl

theorem Localization.hasLayout_of_mem {l : Localization} {separator : Char} {order : FieldOrder}
    (h : (l, separator, order) ∈ layouts) : l.HasLayout separator order := by
  simp only [layouts, List.mem_cons, Prod.mk.injEq, List.not_mem_nil, or_false] at h
  rcases h with ⟨rfl, rfl, rfl⟩ | ⟨rfl, rfl, rfl⟩ | ⟨rfl, rfl, rfl⟩ | ⟨rfl, rfl, rfl⟩
  all_goals exact ⟨⟨_, rfl, rfl, rfl⟩, by decide⟩

theorem Localization.exists_mem_layouts {l : Localization} {tag : Text} (h : (tag, l) ∈ builtin) :
    ∃ separator order, (l, separator, order) ∈ layouts := by
  have hmem : l ∈ layouts.map (·.1) := by
    rw [map_layouts]
    exact List.mem_map.mpr ⟨_, h, rfl⟩
  obtain ⟨⟨l, separator, order⟩, hlayout, rfl⟩ := List.mem_map.mp hmem
  exact ⟨separator, order, hlayout⟩

theorem Localization.exists_layout {l : Localization} {tag : Text} (h : (tag, l) ∈ builtin) :
    ∃ separator order, l.HasLayout separator order := by
  obtain ⟨separator, order, hlayout⟩ := exists_mem_layouts h
  exact ⟨separator, order, hasLayout_of_mem hlayout⟩

namespace AbsoluteDate

variable {l : Localization} {separator : Char} {order : FieldOrder}

theorem find?_eq (hlayout : l.HasLayout separator order) (t : Text) :
    ∃ p : DatePattern, p.order = order ∧
      find? l t = ((DatePattern.separated separator).matchStart? false t).map (p, ·) := by
  obtain ⟨p, hpatterns, hregex, horder⟩ := hlayout.datePatterns
  refine ⟨p, horder, ?_⟩
  rw [find?, hpatterns, Regex.findSome?_singleton, hregex]
  rfl

/-- Under a layout the text begins with a written date, or has none. -/
theorem find?_cases (hlayout : l.HasLayout separator order) (t : Text) :
    find? l t = none ∨ ∃ (p : DatePattern) (d : WrittenDate) (rest : Text), p.order = order ∧
      t = d.text separator ++ rest ∧ find? l t = some (p, d.toMatch separator rest) := by
  obtain ⟨p, horder, hfind⟩ := find?_eq hlayout t
  cases hmatch : (DatePattern.separated separator).matchStart? false t with
  | none =>
    left
    rw [hfind, hmatch]
    rfl
  | some m =>
    right
    obtain ⟨d, rest, ht, rfl⟩ := WrittenDate.exists_of_matchStart? hmatch
    refine ⟨p, d, rest, horder, ht, ?_⟩
    rw [hfind, hmatch]
    rfl

theorem split_of_head? (hlayout : l.HasLayout separator order) (defaultYear : Nat) {t : Text}
    (h : ∀ c ∈ t.head?, ¬ Text.isDecimal c = true) : split l defaultYear t = .ok (none, t) := by
  rcases find?_cases hlayout t with hnone | ⟨p, d, rest, -, ht, -⟩
  · rw [split, hnone]
  · obtain ⟨c, u, hfirst⟩ := List.exists_cons_of_ne_nil d.first_digits.1.ne_nil
    refine absurd (d.first_digits.1.decimal c (by simp [hfirst])) (h c ?_)
    simp [ht, WrittenDate.text, hfirst]

/-- Digits before anything but the separator begin no date. -/
theorem split_of_digits (hlayout : l.HasLayout separator order) (defaultYear : Nat) {digits rest : Text}
    {c : Char} (hdigits : ∀ c ∈ digits, Text.isDecimal c = true) (hc : ¬ Text.isDecimal c = true)
    (hne : c ≠ separator) :
    split l defaultYear (digits ++ c :: rest) = .ok (none, digits ++ c :: rest) := by
  rcases find?_cases hlayout (digits ++ c :: rest) with hnone | ⟨p, d, tail, -, ht, -⟩
  · rw [split, hnone]
  · have hdrop := congrArg (List.dropWhile Text.isDecimal) ht
    rw [WrittenDate.text, List.append_assoc, List.cons_append,
      List.dropWhile_append_of_pos hdigits, List.dropWhile_append_of_pos d.first_digits.1.decimal,
      List.dropWhile_cons_of_neg hc, List.dropWhile_cons_of_neg hlayout.separator_not_decimal] at hdrop
    exact absurd (List.cons.inj hdrop).1 hne

theorem split_text (hlayout : l.HasLayout separator order) (defaultYear : Nat) {d : WrittenDate}
    {rest : Text} (hrest : ∀ c ∈ rest.head?, ¬ Text.isDecimal c = true)
    (hyear : d.year = none → ∀ u, rest = separator :: u → Regex.leading Text.isDecimal u < 2) :
    split l defaultYear (d.text separator ++ rest)
      = (CalendarFault.guard (d.text separator) (d.date order defaultYear)).map
          fun date => (some date, Text.trimStart rest) := by
  obtain ⟨p, horder, hfind⟩ := find?_eq hlayout (d.text separator ++ rest)
  rw [WrittenDate.matchStart?_eq_some hlayout.separator_not_decimal hrest hyear] at hfind
  rw [split, hfind]
  simp only [Option.map_some, WrittenDate.read_toMatch, horder]
  rfl

end AbsoluteDate

end DateShorthand
