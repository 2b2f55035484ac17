import DateShorthand.Proofs.Shortcut.TrailingTime

/-!
# Written times

A written time at the end of a text is found whole, with the gap before it.
-/

namespace DateShorthand

open Regex

/-! ## Written times -/

/-- An hour, perhaps minutes and seconds, and perhaps one of the markers. -/
structure Clock (markers : List Text) where
  hour : Text
  minute : Option Text
  second : Option Text
  marker : Option Text
  hour_digits : hour.IsDigits ∧ hour.length ≤ 2
  minute_digits : ∀ f ∈ minute, f.IsDigits ∧ f.length = 2
  second_digits : ∀ f ∈ second, f.IsDigits ∧ f.length = 2
  minute_of_second : second.isSome → minute.isSome
  marker_mem : ∀ w ∈ marker, w ∈ markers

namespace Clock

variable {markers : List Text}

def fieldText : Option Text → Text
  | none => []
  | some f => ':' :: f

def markerText (gap : Text) : Option Text → Text
  | none => []
  | some w => gap ++ w

/-- The time with a gap before its marker. -/
def text (c : Clock markers) (gap : Text) : Text :=
  c.hour ++ (fieldText c.minute ++ (fieldText c.second ++ markerText gap c.marker))

theorem not_isBlank_of_mem_head? (c : Clock markers) {inner : Text} :
    ∀ d ∈ (c.text inner).head?, ¬ Text.isBlank d = true := by
  intro d hd
  rcases Text.mem_head?_append hd with hd | ⟨hnil, -⟩
  · exact c.hour_digits.1.isSolid d (List.mem_of_head? hd)
  · exact absurd hnil c.hour_digits.1.ne_nil

def captures (c : Clock markers) : Captures :=
  (c.marker.map (4, ·)).toList ++ ((c.second.map (3, ·)).toList ++
    ((c.minute.map (2, ·)).toList ++ [(1, c.hour)]))

end Clock

namespace TrailingTime

variable {s : State} {markers : List Text}

/-! ## Finding a written time -/

theorem head?_flatMap_sexagesimal {index : Nat} {field : Option Text} {rest : Text} {β : Type}
    {k : State → List β} {b : β} (hfield : ∀ f ∈ field, f.IsDigits ∧ f.length = 2)
    (hahead : s.cursor.ahead = Clock.fieldText field ++ rest)
    (hrest : field = none → ∀ c ∈ rest, ¬ Text.isDecimal c = true)
    (h : (k (s.read (Clock.fieldText field).length (field.map (index, ·)).toList)).head? = some b) :
    ((outcomes true (sexagesimal index) s).flatMap k).head? = some b := by
  rw [sexagesimal, outcomes_optional, List.flatMap_append, List.head?_append]
  cases field with
  | none =>
    suffices hnone : outcomes true (ofList [.char ':', .group index (.decimals 2 2)]) s = [] by
      rw [hnone, List.flatMap_singleton]
      rw [Clock.fieldText, List.length_nil, Option.map_none, Option.toList_none, State.read_zero] at h
      exact h
    rw [List.eq_nil_iff_forall_not_mem]
    intro t ht
    rw [outcomes_ofList_cons, outcomes_ofList_singleton, List.mem_flatMap] at ht
    obtain ⟨s₁, hcolon, hdigits⟩ := ht
    obtain ⟨c, u, hc, -, rfl⟩ := mem_outcomes_char hcolon
    obtain ⟨f, after, hf, hlo, -, hafter, -⟩ := mem_outcomes_decimals (by decide) hdigits
    have hu : u = f ++ after := (State.ahead_read (t := [c]) [] hc).symm.trans hafter
    have hrest' : rest = c :: (f ++ after) := hahead.symm.trans (hc.trans (congrArg _ hu))
    obtain ⟨d, f, rfl⟩ := List.exists_cons_of_length_pos (show 0 < f.length by omega)
    exact hrest rfl d (by simp [hrest']) (hf d List.mem_cons_self)
  | some f =>
    obtain ⟨hdigits, hlength⟩ := hfield f rfl
    have hahead₁ : (s.read 1 []).cursor.ahead = f ++ rest :=
      State.ahead_read (t := [':']) [] hahead
    have hfirst : ((outcomes true (.group index (.decimals 2 2)) (s.read 1 [])).flatMap k).head?
        = some b := by
      refine head?_flatMap_decimals hdigits.decimal (by omega) (by omega) hahead₁ (by omega) ?_
      rw [State.read_read, List.append_nil]
      rw [Clock.fieldText, List.length_cons, Nat.add_comm] at h
      exact h
    rw [outcomes_ofList_cons, outcomes_char hahead, List.flatMap_singleton, outcomes_ofList_cons,
      outcomes_ofList_nil, List.flatMap_singleton', hfirst]
    rfl

theorem head?_eq_of_forall {α : Type} {xs : List α} {a : α} (hmem : a ∈ xs)
    (hall : ∀ b ∈ xs, b = a) : xs.head? = some a := by
  cases xs with
  | nil => simp at hmem
  | cons b xs => rw [List.head?_cons, hall b List.mem_cons_self]

/-- The text is one of the markers when case is ignored. -/
def Spells (markers : List Text) (m : Text) : Prop := ∃ w ∈ markers, SameText w m

/-- However a marker at the end is matched, it is matched whole. -/
theorem mem_outcomes_marker {m : Text} {t : State} (hne : markers ≠ [])
    (hlast : ∀ c ∈ m.getLast?, ¬ Text.isBlank c = true) (hahead : s.cursor.ahead = m)
    (h : t ∈ (outcomes true (.group 4 (.oneOf (markers.map .literal))) s).flatMap
      (outcomes true (.anchor .finish))) : t = s.read m.length [(4, m)] := by
  obtain ⟨s₁, hmarker, hfinish⟩ := List.mem_flatMap.mp h
  obtain ⟨rfl, htail⟩ := mem_outcomes_finish hfinish
  rw [outcomes, List.mem_map] at hmarker
  obtain ⟨s₂, hmarker, rfl⟩ := hmarker
  obtain ⟨r, hr, hmarker⟩ := (mem_outcomes_oneOf (by simpa using hne)).mp hmarker
  obtain ⟨w', hw', rfl⟩ := List.mem_map.mp hr
  obtain ⟨u, rest, -, hahead', rfl⟩ := mem_outcomes_literal hmarker
  have hrest : rest = [] ∨ rest = ['\n'] := by
    change (s.read u.length []).cursor.ahead = [] ∨ (s.read u.length []).cursor.ahead = ['\n'] at htail
    rwa [State.ahead_read [] hahead'] at htail
  rw [hahead] at hahead'
  rcases hrest with rfl | rfl
  · rw [List.append_nil] at hahead'
    subst hahead'
    exact State.capture_skip (by rw [hahead, List.append_nil]) 4
  · exact absurd (by decide) (hlast '\n' (by simp [hahead']))

theorem head?_marker {m : Text} (hm : Spells markers m)
    (hlast : ∀ c ∈ m.getLast?, ¬ Text.isBlank c = true) (hahead : s.cursor.ahead = m) :
    ((outcomes true (.group 4 (.oneOf (markers.map .literal))) s).flatMap
      (outcomes true (.anchor .finish))).head? = some (s.read m.length [(4, m)]) := by
  obtain ⟨w, hw, hsame⟩ := hm
  have hne := List.ne_nil_of_mem hw
  have hahead' : s.cursor.ahead = m ++ [] := by rw [hahead, List.append_nil]
  refine head?_eq_of_forall ?_ fun t ht => mem_outcomes_marker hne hlast hahead ht
  rw [List.mem_flatMap]
  refine ⟨s.read m.length [(4, m)], ?_, ?_⟩
  · rw [outcomes, List.mem_map]
    refine ⟨s.read m.length [], ?_, State.capture_skip hahead' 4⟩
    rw [mem_outcomes_oneOf (by simpa using hne)]
    exact ⟨.literal w, List.mem_map.mpr ⟨w, hw, rfl⟩, by simp [outcomes_literal hsame hahead']⟩
  · rw [outcomes_finish (State.ahead_read _ hahead')]
    exact List.mem_singleton_self _

theorem outcomes_marker_of_nil (hnil : [] ∉ markers) (hne : markers ≠ [])
    (hahead : s.cursor.ahead = []) :
    outcomes true (.group 4 (.oneOf (markers.map .literal))) s = [] := by
  rw [outcomes, List.map_eq_nil_iff, List.eq_nil_iff_forall_not_mem]
  intro t ht
  obtain ⟨r, hr, ht⟩ := (mem_outcomes_oneOf (by simpa using hne)).mp ht
  obtain ⟨w, hw, rfl⟩ := List.mem_map.mp hr
  obtain ⟨u, rest, hu, hahead', -⟩ := mem_outcomes_literal ht
  obtain ⟨rfl, -⟩ : u = [] ∧ rest = [] := by simpa using hahead.symm.trans hahead'
  cases hu
  exact hnil hw

theorem outcomes_ending_of_ne_nil (hne : markers ≠ []) (s : State) :
    outcomes true (ofList (ending markers)) s = (outcomes true (blanks 0) s).flatMap fun t =>
      (outcomes true (.group 4 (.oneOf (markers.map .literal))) t).flatMap
        (outcomes true (.anchor .finish)) ++ outcomes true (.anchor .finish) t := by
  rw [ending, if_neg (by simpa using hne), List.cons_append, outcomes_ofList_cons]
  refine congrArg (List.flatMap · _) (funext fun t => ?_)
  rw [List.cons_append, List.nil_append, outcomes_ofList_cons, outcomes_optional,
    outcomes_ofList_singleton, List.flatMap_append, List.flatMap_singleton]

/-- Where the time goes on with the gap and the marker, it ends with them. -/
def Ends (markers : List Text) (gap : Text) (marker : Option Text) : Prop :=
  ∀ s : State, s.cursor.ahead = Clock.markerText gap marker →
    (outcomes true (ofList (ending markers)) s).head?
      = some (s.read (Clock.markerText gap marker).length (marker.map (4, ·)).toList)

theorem ends_none (hnil : [] ∉ markers) (gap : Text) : Ends markers gap none := by
  intro s hahead
  rw [Clock.markerText, List.length_nil, Option.map_none, Option.toList_none, State.read_zero]
  by_cases hne : markers = []
  · rw [ending, hne, List.isEmpty_nil, if_pos rfl, List.nil_append, outcomes_ofList_singleton,
      outcomes_finish hahead]
    rfl
  · rw [outcomes_ending_of_ne_nil hne]
    refine head?_flatMap_ofClass (t := []) (by simp) (Nat.le_refl 0) hahead (by simp) ?_
    rw [List.length_nil, State.read_zero, outcomes_marker_of_nil hnil hne hahead,
      outcomes_finish hahead]
    rfl

theorem ends_some {gap m : Text} (hgap : Text.IsGap gap) (hm : Spells markers m) (htight : Text.IsTight m) :
    Ends markers gap (some m) := by
  intro s hahead
  have hne : markers ≠ [] := by
    obtain ⟨w, hw, -⟩ := hm
    exact List.ne_nil_of_mem hw
  rw [outcomes_ending_of_ne_nil hne]
  refine head?_flatMap_ofClass hgap (Nat.zero_le _) hahead htight.head ?_
  rw [List.head?_append, head?_marker hm htight.last (State.ahead_read [] hahead), State.read_read,
    Clock.markerText, List.length_append, List.append_nil]
  rfl

theorem IsPlain.ends (hplain : IsPlain markers) {gap : Text} {marker : Option Text}
    (hgap : Text.IsGap gap) (hmarker : ∀ w ∈ marker, w ∈ markers) : Ends markers gap marker := by
  cases marker with
  | none => exact ends_none (fun h => (hplain [] h).1 rfl) gap
  | some w =>
    have hw := hmarker w rfl
    exact ends_some hgap ⟨w, hw, .refl w⟩ (hplain.isSolid hw).isTight

theorem head?_flatMap_lead {gap rest : Text} {β : Type} {k : State → List β} {b : β}
    (hgap : Text.IsGap gap) (hstart : gap = [] ↔ s.cursor.position = 0)
    (hahead : s.cursor.ahead = gap ++ rest) (hrest : ∀ c ∈ rest.head?, ¬ Text.isBlank c = true)
    (h : (k (s.read gap.length [])).head? = some b) :
    ((outcomes true (.alt (.anchor .start) (blanks 1)) s).flatMap k).head? = some b := by
  rw [outcomes, List.flatMap_append, List.head?_append]
  by_cases hempty : gap = []
  · have hanchor : outcomes true (.anchor .start) s = [s] := by
      simp [outcomes, anchorHolds, hstart.mp hempty]
    rw [hempty, List.length_nil, State.read_zero] at h
    rw [hanchor, List.flatMap_singleton, h]
    rfl
  · have hanchor : outcomes true (.anchor .start) s = [] := by
      simp [outcomes, anchorHolds, mt hstart.mpr hempty]
    rw [hanchor, List.flatMap_nil]
    exact head?_flatMap_ofClass hgap (List.length_pos_iff.mpr hempty) hahead hrest h

theorem IsPlain.not_isDecimal_markerText (hplain : IsPlain markers) {inner : Text} {marker : Option Text}
    (hinner : Text.IsGap inner) (hmarker : ∀ w ∈ marker, w ∈ markers) :
    ∀ c ∈ Clock.markerText inner marker, ¬ Text.isDecimal c = true := by
  cases marker with
  | none => simp [Clock.markerText]
  | some w =>
    intro c hc
    rcases List.mem_append.mp hc with hc | hc
    · exact fun hdecimal => Text.not_isBlank_of_isDecimal hdecimal (hinner c hc)
    · exact hplain.not_isDecimal w (hmarker w rfl) c hc

variable {given : List Text}

/-- A written time that runs to the end is matched whole, with the gap before it. -/
theorem head?_outcomes_timeRegex {c : Clock given} {gap inner : Text} (hgap : Text.IsGap gap)
    (hmarker : ∀ d ∈ Clock.markerText inner c.marker, ¬ Text.isDecimal d = true)
    (hends : Ends markers inner c.marker) (hstart : gap = [] ↔ s.cursor.position = 0)
    (hahead : s.cursor.ahead = gap ++ c.text inner) :
    (outcomes true (timeRegex markers) s).head?
      = some (s.read (gap ++ c.text inner).length c.captures) := by
  have hfield : ∀ (field : Option Text) (rest : Text), (∀ d ∈ rest.head?, ¬ Text.isDecimal d = true) →
      ∀ d ∈ (Clock.fieldText field ++ rest).head?, ¬ Text.isDecimal d = true := by
    intro field rest hrest d hd
    cases field with
    | none => exact hrest d hd
    | some f =>
      rw [Clock.fieldText, List.cons_append, List.head?_cons, Option.mem_some_iff] at hd
      exact hd ▸ by decide
  have hahead₁ := State.ahead_read [] hahead
  have hahead₂ := State.ahead_read [(1, c.hour)] hahead₁
  have hahead₃ := State.ahead_read (c.minute.map (2, ·)).toList hahead₂
  have hahead₄ := State.ahead_read (c.second.map (3, ·)).toList hahead₃
  rw [timeRegex_eq, outcomes_ofList_cons]
  refine head?_flatMap_lead hgap hstart hahead c.not_isBlank_of_mem_head? ?_
  rw [outcomes_ofList_cons]
  refine head?_flatMap_decimals c.hour_digits.1.decimal c.hour_digits.1.length_pos c.hour_digits.2
    hahead₁ (fun _ => hfield _ _ (hfield _ _ fun d hd => hmarker d (List.mem_of_head? hd))) ?_
  rw [outcomes_ofList_cons]
  refine head?_flatMap_sexagesimal c.minute_digits hahead₂ (fun hnone => ?_) ?_
  · have hsecond : c.second = none := by
      rw [← Option.not_isSome_iff_eq_none]
      exact fun h => by simpa [hnone] using c.minute_of_second h
    rw [hsecond]
    exact hmarker
  rw [outcomes_ofList_cons]
  refine head?_flatMap_sexagesimal c.second_digits hahead₃ (fun _ => hmarker) ?_
  rw [hends _ hahead₄]
  simp only [State.read_read, List.length_append, Clock.text, Clock.captures, List.append_nil,
    Nat.add_assoc]

/-! ## No earlier match -/

/-- After its first gap a match has no digit behind a blank. -/
theorem not_eq_append {front gap text gap₁ reading rest : Text} {c : Char} (hfront : front ≠ [])
    (hlast : ∀ c ∈ front.getLast?, ¬ Text.isBlank c = true) (hne : gap ≠ [])
    (hgap : Text.IsGap gap) (hc : c ∈ text) (hdecimal : Text.isDecimal c = true)
    (hgap₁ : Text.IsGap gap₁) (hreading : Text.IsSolid reading)
    (hrest : ∀ c ∈ rest, ¬ Text.isDecimal c = true) :
    front ++ (gap ++ text) ≠ gap₁ ++ (reading ++ rest) := by
  intro heq
  rcases List.append_eq_append_iff.mp heq with ⟨a, rfl, -⟩ | ⟨x, rfl, htail⟩
  · have hmem := List.getLast_mem hfront
    exact hlast _ (List.getLast?_eq_some_getLast hfront) (hgap₁ _ (List.mem_append_left _ hmem))
  · rcases List.append_eq_append_iff.mp htail with ⟨a, -, rfl⟩ | ⟨a, rfl, h⟩
    · exact hrest c (by simp [hc]) hdecimal
    · obtain ⟨d, gap, rfl⟩ := List.exists_cons_of_ne_nil hne
      cases a with
      | nil =>
        rw [List.nil_append] at h
        exact hrest c (h ▸ List.mem_append_right _ hc) hdecimal
      | cons e a =>
        obtain ⟨rfl, -⟩ := List.cons.inj h
        exact hreading d (by simp) (hgap d List.mem_cons_self)

variable {l : Localization}

/-- A time at the end is found where its gap begins. -/
theorem find?_clock (hdigits : ∀ w ∈ l.markers, ∀ c ∈ w, ¬ Text.isDecimal c = true)
    {c : Clock given} {front gap inner : Text} (hfront : Text.IsTight front)
    (hgap : Text.IsGap gap) (hempty : gap = [] ↔ front = [])
    (hmarker : ∀ d ∈ Clock.markerText inner c.marker, ¬ Text.isDecimal d = true)
    (hends : Ends l.markers inner c.marker) :
    find? l (front ++ (gap ++ c.text inner))
      = some ⟨front.length, gap ++ c.text inner, [], c.captures⟩ := by
  refine search?_eq_some (n := front.length) (by simp) (fun i hi => ?_) ?_
  · rw [Option.eq_none_iff_forall_ne_some]
    intro m hm
    obtain ⟨gap₁, reading, gap', marker, tail, h, hgap₁, -, hreading, hgap', hmarker, htail⟩ :=
      exists_of_matchAt? hm
    rw [List.drop_append_of_le_length (by omega)] at h
    have hhour : c.hour.head c.hour_digits.1.ne_nil ∈ c.text inner := by
      rw [Clock.text]
      exact List.mem_append_left _ (List.head_mem _)
    have hlast : ∀ d ∈ (front.drop i).getLast?, ¬ Text.isBlank d = true := by
      rw [List.getLast?_drop, if_neg (by omega)]
      exact hfront.last
    refine not_eq_append (by simpa using hi) hlast ?_ hgap hhour
      (c.hour_digits.1.decimal _ (List.head_mem _)) hgap₁ hreading.isSolid
      (fun d hd => not_isDecimal_of_mem hdigits hgap' hmarker htail hd) h
    rw [Ne, hempty]
    rintro rfl
    simp at hi
  · have hahead : (State.mk (Cursor.after (front ++ (gap ++ c.text inner)) front.length) []).cursor.ahead
        = gap ++ c.text inner := by
      simp [Cursor.after]
    have hahead' : (Cursor.after (front ++ (gap ++ c.text inner)) front.length).ahead
        = gap ++ c.text inner ++ [] := by
      simp [Cursor.after]
    rw [matchAt?_eq_head?, head?_outcomes_timeRegex hgap hmarker hends ?_ hahead, Option.map_some,
      Match.ofOutcome_read _ hahead']
    · rfl
    · simp [Cursor.after, hempty]

end TrailingTime

/-! ## Reading -/

namespace Clock

open TrailingTime

variable {l : Localization}

/-- The time that is meant. A fault names the shortcut and the time as they are written. -/
def value (c : Clock l.markers) (shortcut written : Text) : Except Fault TimeOfDay :=
  let minute := (c.minute.map numberOf).getD 0
  let second := (c.second.map numberOf).getD 0
  if 59 < minute ∨ 59 < second then .error (.invalidTime shortcut (some written))
  else do
    let hour ← markedHour l c.hour c.marker
    match TimeOfDay.ofFields? hour minute second with
    | some time => .ok time
    | none => .error (.invalidHour c.hour)

theorem group?_captures {given : List Text} (c : Clock given) (start : Nat) (covered after : Text) :
    (Match.mk start covered after c.captures).group? 1 = some c.hour ∧
      (Match.mk start covered after c.captures).group? 2 = c.minute ∧
      (Match.mk start covered after c.captures).group? 3 = c.second ∧
      (Match.mk start covered after c.captures).group? 4 = c.marker := by
  cases hminute : c.minute <;> cases hsecond : c.second <;> cases hmarker : c.marker <;>
    simp [Match.group?, captures, hminute, hsecond, hmarker, List.lookup_cons]

theorem numberOf_getD (field : Option Text) :
    numberOf (field.getD []) = (field.map numberOf).getD 0 := by
  cases field <;> rfl

theorem isSolid_fieldText {field : Option Text} (h : ∀ f ∈ field, f.IsDigits ∧ f.length = 2) :
    Text.IsSolid (fieldText field) := by
  cases field with
  | none => simp [fieldText, Text.IsSolid]
  | some f =>
    intro d hd
    rcases List.mem_cons.mp hd with rfl | hd
    · decide
    · exact (h f rfl).1.isSolid d hd

theorem isLower_fieldText {field : Option Text} (h : ∀ f ∈ field, f.IsDigits ∧ f.length = 2) :
    Text.IsLower (fieldText field) := by
  cases field with
  | none => simp [fieldText, Text.IsLower]
  | some f => exact .cons (by decide) (Text.isLower_of_isDecimal (h f rfl).1.decimal)

theorem isLower_text (hplain : IsPlain l.markers) (c : Clock l.markers) {inner : Text}
    (hinner : Text.IsGap inner) : Text.IsLower (c.text inner) := by
  refine (Text.isLower_of_isDecimal c.hour_digits.1.decimal).append <|
    (isLower_fieldText c.minute_digits).append <| (isLower_fieldText c.second_digits).append ?_
  cases hw : c.marker with
  | none => simp [markerText, Text.IsLower]
  | some w =>
    refine (Text.isLower_of_isBlank hinner).append fun d hd => ?_
    exact ((hplain w (c.marker_mem w hw)).2 d hd).2.1

theorem text_ne_nil (c : Clock l.markers) (inner : Text) : c.text inner ≠ [] :=
  List.append_ne_nil_of_left_ne_nil c.hour_digits.1.ne_nil _

theorem isTight_text_of_marker (c : Clock l.markers) {inner : Text}
    (h : ∀ d ∈ (markerText inner c.marker).getLast?, ¬ Text.isBlank d = true) :
    Text.IsTight (c.text inner) := by
  refine ⟨c.not_isBlank_of_mem_head?, fun d hd => ?_⟩
  rw [text, ← List.append_assoc, ← List.append_assoc] at hd
  rcases Text.mem_getLast?_append hd with ⟨-, hfields⟩ | hmarker
  · have hsolid := (c.hour_digits.1.isSolid.append (isSolid_fieldText c.minute_digits)).append
      (isSolid_fieldText c.second_digits)
    exact hsolid d (List.mem_of_getLast? hfields)
  · exact h d hmarker

theorem isTight_text (hplain : IsPlain l.markers) (c : Clock l.markers) (inner : Text) :
    Text.IsTight (c.text inner) := by
  refine c.isTight_text_of_marker fun d hd => ?_
  cases hw : c.marker with
  | none => simp [hw, markerText] at hd
  | some w =>
    have hmem := c.marker_mem w hw
    rw [hw] at hd
    rcases Text.mem_getLast?_append hd with ⟨hnil, -⟩ | hlast
    · exact absurd hnil (hplain w hmem).1
    · exact hplain.isSolid hmem d (List.mem_of_getLast? hlast)

theorem split_text_of_ends (hdigits : ∀ w ∈ l.markers, ∀ c ∈ w, ¬ Text.isDecimal c = true)
    {c : Clock l.markers} {front gap inner : Text} (hfront : Text.IsTight front)
    (hgap : Text.IsGap gap) (hempty : gap = [] ↔ front = []) (htext : Text.IsTight (c.text inner))
    (hmarker : ∀ d ∈ markerText inner c.marker, ¬ Text.isDecimal d = true)
    (hends : Ends l.markers inner c.marker) :
    TrailingTime.split l (front ++ (gap ++ c.text inner))
      = (c.value (front ++ (gap ++ c.text inner)) (c.text inner)).map fun time =>
          (some time, front) := by
  obtain ⟨h₁, h₂, h₃, h₄⟩ := c.group?_captures front.length (gap ++ c.text inner) []
  have hwritten : Text.trim (gap ++ c.text inner) = c.text inner := by
    rw [Text.trim, Text.trimStart_append hgap]
    exact Text.trim_of_isTight htext
  have htake : Text.trim ((front ++ (gap ++ c.text inner)).take front.length) = front := by
    rw [List.take_left, Text.trim_of_isTight hfront]
  rw [TrailingTime.split, find?_clock hdigits hfront hgap hempty hmarker hends]
  simp only [TrailingTime.read, h₁, h₂, h₃, h₄, htake, hwritten, numberOf_getD, Option.getD_some]
  rfl

theorem split_text (hplain : IsPlain l.markers) {c : Clock l.markers} {front gap inner : Text}
    (hfront : Text.IsTight front) (hgap : Text.IsGap gap) (hinner : Text.IsGap inner)
    (hempty : gap = [] ↔ front = []) : TrailingTime.split l (front ++ (gap ++ c.text inner))
      = (c.value (front ++ (gap ++ c.text inner)) (c.text inner)).map fun time =>
          (some time, front) :=
  split_text_of_ends hplain.not_isDecimal hfront hgap hempty (isTight_text hplain c inner)
    (hplain.not_isDecimal_markerText hinner c.marker_mem) (hplain.ends hinner c.marker_mem)

end Clock

end DateShorthand
