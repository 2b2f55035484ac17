import DateShorthand.Proofs.Shortcut.Chaining
import DateShorthand.Proofs.Shortcut.TokenLaws

/-!
# Keywords without a number

A keyword at the head of a shortcut means one of its unit, as it does behind `+1`. Only faults that quote
what is written tell the two apart. A keyword that a keyword for today begins is not read at all.
-/

namespace DateShorthand

variable {l : Localization} {separator : Char} {order : FieldOrder}

/-! ## Times behind a word -/

namespace TrailingTime

open Regex

variable {t front k u : Text} {m : Match}

/-- A match begins with a blank, or with a digit that begins the text. -/
theorem matchAt?_eq_none_of_head {markers : List Text} {n : Nat}
    (hblank : ∀ c ∈ (t.drop n).head?, ¬ Text.isBlank c = true)
    (hdecimal : n = 0 → ∀ c ∈ t.head?, ¬ Text.isDecimal c = true) :
    (timeRegex markers).matchAt? true (Cursor.after t n) = none := by
  rw [Option.eq_none_iff_forall_ne_some]
  intro m hm
  obtain ⟨gap, reading, gap', marker, tail, ht, hgap, hstart, hreading, -⟩ := exists_of_matchAt? hm
  cases gap with
  | nil =>
    obtain ⟨c, hc, hc'⟩ := hreading.head
    have hn := hstart rfl
    rw [hn, List.drop_zero, List.nil_append] at ht
    refine hdecimal hn c ?_ hc'
    rw [ht, List.head?_append, hc]
    rfl
  | cons c gap => exact hblank c (by rw [ht]; rfl) (hgap c List.mem_cons_self)

/-- No time begins in a text without blanks that begins with no digit. -/
theorem find?_append_of_isSolid (hfront : Text.IsSolid front) (hne : front ≠ [])
    (hhead : ∀ c ∈ front.head?, ¬ Text.isDecimal c = true)
    (hu : ∀ c ∈ u.head?, ¬ Text.isBlank c = true ∧ ¬ Text.isDecimal c = true) :
    find? l (front ++ u) = (find? l u).map (Match.shift front.length) := by
  refine search?_append (fun n hn => matchAt?_eq_none_of_head (fun c hc => ?_) fun _ c hc => ?_)
    (matchAt?_eq_none_of_head (fun c hc => (hu c hc).1) fun _ c hc => (hu c hc).2)
  · rw [List.drop_append_of_le_length hn] at hc
    rcases Text.mem_head?_append hc with hc | ⟨-, hc⟩
    · exact hfront c (List.mem_of_mem_drop (List.mem_of_head? hc))
    · exact (hu c hc).1
  · rw [List.head?_append_of_ne_nil _ hne] at hc
    exact hhead c hc

/-- No time begins before such a text ends. -/
theorem length_le_start_of_find? (hk : Text.IsSolid k) (hhead : ∀ c ∈ k.head?, ¬ Text.isDecimal c = true)
    (hm : find? l (k ++ u) = some m) : k.length ≤ m.start := by
  by_contra hlt
  rw [Nat.not_le] at hlt
  have hne : k ≠ [] := List.ne_nil_of_length_pos (Nat.lt_of_le_of_lt (Nat.zero_le _) hlt)
  have hnone : (timeRegex l.markers).matchAt? true (Cursor.after (k ++ u) m.start) = none := by
    refine matchAt?_eq_none_of_head (fun c hc => ?_) fun _ c hc => ?_
    · rw [List.drop_append_of_le_length hlt.le, List.head?_append_of_ne_nil] at hc
      · exact hk c (List.mem_of_mem_drop (List.mem_of_head? hc))
      · simpa using hlt
    · rw [List.head?_append_of_ne_nil _ hne] at hc
      exact hhead c hc
  rw [matchAt?_of_find? hm] at hnone
  simp at hnone

/-- What is left before a time still begins with the text. -/
theorem exists_rest_of_split (hk : Text.IsSolid k) (hne : k ≠ [])
    (hhead : ∀ c ∈ k.head?, ¬ Text.isDecimal c = true) (htight : Text.IsTight (k ++ u))
    {time : Option TimeOfDay} {rest : Text} (h : split l (k ++ u) = .ok (time, rest)) :
    ∃ v, v <+: u ∧ rest = k ++ v ∧ Text.IsTight (k ++ v) := by
  unfold split at h
  cases hfind : find? l (k ++ u) with
  | none =>
    rw [hfind, Except.ok.injEq, Prod.mk.injEq] at h
    exact ⟨u, List.prefix_refl u, h.2.symm, htight⟩
  | some m =>
    rw [hfind] at h
    obtain ⟨time, -, heq⟩ := map_eq_ok_iff.mp h
    have htake : (k ++ u).take m.start = k ++ u.take (m.start - k.length) := by
      rw [List.take_append, List.take_of_length_le (length_le_start_of_find? hk hhead hfind)]
    have hrest := (Prod.mk.inj heq).2.symm
    rw [htake, Text.trim_append_of_isSolid hne hk] at hrest
    refine ⟨_, (Text.trimEnd_prefix _).trans (List.take_prefix ..), hrest, ?_⟩
    rw [← Text.trim_append_of_isSolid hne hk]
    obtain ⟨-, -, -, -, htrim, -⟩ := Text.exists_trim (k ++ u.take (m.start - k.length))
    exact htrim

end TrailingTime

/-! ## Two ways to write the first part -/

/-- The same outcome, or dates out of range that quote `k` and `k'`. -/
def Agree (k k' : Text) (x y : Except Failure Instant) : Prop :=
  x = y ∨ x = .error (.fault (.dateOutOfRange k)) ∧ y = .error (.fault (.dateOutOfRange k'))

namespace Agree

variable {k k' : Text} {x y : Except Failure Instant}

theorem bind (h : Agree k k' x y) (f : Instant → Except Failure Instant) :
    Agree k k' (x >>= f) (y >>= f) := by
  rcases h with rfl | ⟨rfl, rfl⟩
  · exact Or.inl rfl
  · exact Or.inr ⟨rfl, rfl⟩

theorem map (h : Agree k k' x y) (f : Instant → Instant) : Agree k k' (x.map f) (y.map f) := by
  rcases h with rfl | ⟨rfl, rfl⟩
  · exact Or.inl rfl
  · exact Or.inr ⟨rfl, rfl⟩

theorem guard (x : Except CalendarFault Instant) :
    Agree k k' (CalendarFault.guard k x) (CalendarFault.guard k' x) := by
  cases x with
  | ok i => exact Or.inl rfl
  | error f => exact Or.inr ⟨rfl, rfl⟩

end Agree

/-- Parts of the same amount move an instant alike. -/
theorem Part.agree_applyTo {p q : Part} (hnegative : p.negative = q.negative)
    (hmagnitude : p.magnitude = q.magnitude) (unit : CalendarUnit) (i : Instant) :
    Agree p.raw q.raw (p.applyTo unit i) (q.applyTo unit i) := by
  have hamount : p.amount = q.amount := by rw [amount, amount, hnegative, hmagnitude]
  cases unit with
  | today => exact Or.inl rfl
  | weekday =>
    left
    rw [applyTo, applyTo, hnegative, hmagnitude]
  | year | month | week | day =>
    rw [applyTo, applyTo, hamount]
    exact .guard _

/-- A keyword moves an instant as it does with plus one before it. -/
theorem Part.agree_step (hplain : l.IsPlain) {k : Text} {unit : CalendarUnit}
    (hk : l.firstUnit? k = some unit) (i : Instant) (f : Instant → Except Failure Instant) :
    Agree k ('+' :: '1' :: k) (do let (moved, _) ← Part.step l i k; f moved)
      (do let (moved, _) ← Part.step l i ('+' :: '1' :: k); f moved) := by
  let p : WrittenPart l := ⟨none, [], k, unit, by simp, by simp, Nat.zero_le _, hk⟩
  let q : WrittenPart l := ⟨some '+', ['1'], k, unit, by simp [Tokens.isSign], by decide, by decide, hk⟩
  have hbare : step l i k = _ := p.step_text hplain i
  have hone : step l i ('+' :: '1' :: k) = _ := q.step_text hplain i
  have hmoved : Agree k ('+' :: '1' :: k) (p.apply i) (q.apply i) :=
    agree_applyTo (p := p.toPart) (q := q.toPart) rfl rfl unit i
  have hbind : ∀ (x : Except Failure Instant) (read : Part × CalendarUnit),
      (x.map (·, read) >>= fun (moved, _) => f moved) = x >>= f := fun x _ => by cases x <;> rfl
  rw [hbare, hone]
  exact (hbind _ _).symm ▸ (hbind _ _).symm ▸ hmoved.bind f

/-! ## Behind a word -/

section Word

variable {sign : Option Char} {digits letters rest v : Text}

/-- A part ends in a letter. -/
theorem Part.IsWord.isUnmarked (h : Part.IsWord sign digits letters) :
    Resolver.IsUnmarked (sign.toList ++ (digits ++ letters)) := by
  intro c hc
  rw [← List.append_assoc] at hc
  have hletter : Text.isLetter c = true := by
    rcases Text.mem_getLast?_append hc with ⟨hnil, -⟩ | hc
    · exact absurd hnil h.ne_nil
    · exact h.isLetter c (List.mem_of_getLast? hc)
  refine ⟨Text.not_isBlank_of_isLetter hletter, ?_⟩
  rintro rfl
  exact Written.not_isLetter_workdayMarker hletter

theorem Part.IsWord.applyAll_append (h : Part.IsWord sign digits letters) (i : Instant)
    (hrest : ∀ c ∈ rest.head?, Text.isBlank c = true ∨ Tokens.isSign c = true) :
    Part.applyAll l i (sign.toList ++ (digits ++ letters) ++ rest) = (do
      let tokens ← (Tokens.ofText rest).mapError Failure.fault
      let (moved, _) ← Part.step l i (sign.toList ++ (digits ++ letters))
      Part.applyTokens l moved tokens) := by
  obtain ⟨hword, hlone⟩ := Tokens.isWord_of_part h
  rw [Part.applyAll, Tokens.ofText_word_append hword hlone hrest, mapError_map]
  cases (Tokens.ofText rest).mapError Failure.fault <;> rfl

namespace Resolver

/-- Behind a word, a text does to the instant what it does behind any other. -/
theorem exists_finish (l : Localization)
    (hhead : ∀ c ∈ v.head?, Text.isBlank c = true ∨ Tokens.isSign c = true)
    (hlast : ∀ c ∈ v.getLast?, ¬ Text.isBlank c = true) :
    ∃ (read : Except Failure (List Text)) (marked : Bool), ∀ word {sign digits letters},
      Part.IsWord sign digits letters → word = sign.toList ++ (digits ++ letters) →
        ∀ start, finish l start (word ++ v) = (do
          let tokens ← read
          let (moved, _) ← Part.step l start word
          let moved ← Part.applyTokens l moved tokens
          toWorkday moved marked) := by
  obtain ⟨body, marked, hbody, hmarked⟩ : ∃ body marked, body <+: v ∧
      ∀ start front, IsUnmarked front → finish l start (front ++ v) = (do
        let moved ← Part.applyAll l start (front ++ body)
        toWorkday moved marked) := by
    by_cases hv : v = []
    · refine ⟨[], false, List.nil_prefix, fun start front hfront => ?_⟩
      rw [hv, List.append_nil, finish, splitMarker_of_isUnmarked hfront]
    · obtain ⟨body, marked, hbody, hfinish⟩ := exists_finish_append hv hlast
      exact ⟨body, marked, hbody, fun start front _ => hfinish l start front⟩
  refine ⟨(Tokens.ofText body).mapError Failure.fault, marked, ?_⟩
  rintro word sign digits letters h rfl start
  have hrest : ∀ c ∈ body.head?, Text.isBlank c = true ∨ Tokens.isSign c = true := fun c hc =>
    hhead c (Text.mem_head?_of_prefix hbody hc)
  rw [hmarked start _ h.isUnmarked, h.applyAll_append start hrest]
  simp only [bind_assoc]

end Resolver

end Word

/-! ## Date texts that begin with a keyword -/

namespace Resolver

variable {k v : Text} {unit : CalendarUnit} {r : Resolver}

theorem dropToday_of_forall (htoday : ∀ w ∈ l.today, ¬ w <+: k) : dropToday l k = k := by
  have hfind : l.todayLongestFirst.find? (·.isPrefixOf k) = none :=
    List.find?_eq_none.mpr fun w hw hbegins =>
      htoday w (Localization.mem_longestFirst.mp hw) (List.isPrefixOf_iff_prefix.mp hbegins)
  rw [dropToday, hfind]

/-- The letters that are left of the first word are read as a part, with what follows them. -/
theorem resolveDate_of_isWord (hplain : r.localization.IsPlain)
    (hlayout : r.localization.HasLayout separator order)
    (hword : Part.IsWord none [] (dropToday r.localization k))
    (hhead : ∀ c ∈ v.head?, Text.isBlank c = true ∨ Tokens.isSign c = true) :
    r.resolveDate (k ++ v)
      = finish r.localization (r.startOf none) (dropToday r.localization k ++ v) := by
  have hletter : ∀ c ∈ v.head?, ¬ Text.isLetter c = true := fun c hc hletter =>
    (hhead c hc).elim (Text.not_isBlank_of_isLetter hletter) (Part.not_isSign_of_isLetter hletter)
  have hdecimal : ∀ c ∈ (dropToday r.localization k ++ v).head?, ¬ Text.isDecimal c = true := by
    rw [List.head?_append_of_ne_nil _ hword.ne_nil]
    exact fun c hc => Text.not_isDecimal_of_isLetter (hword.isLetter c (List.mem_of_head? hc))
  rw [resolveDate_eq_finish, dropToday_append_right hplain hletter,
    AbsoluteDate.split_of_head? hlayout _ hdecimal]
  rfl

theorem agree_instantOf (hplain : r.localization.IsPlain)
    (hlayout : r.localization.HasLayout separator order) (hk : r.localization.firstUnit? k = some unit)
    (htoday : ∀ w ∈ r.localization.today, ¬ w <+: k)
    (hhead : ∀ c ∈ v.head?, Text.isBlank c = true ∨ Tokens.isSign c = true)
    (hlast : ∀ c ∈ v.getLast?, ¬ Text.isBlank c = true) :
    Agree k ('+' :: '1' :: k) (r.instantOf (k ++ v)) (r.instantOf ('+' :: '1' :: k ++ v)) := by
  have hkeyword := Localization.mem_of_firstUnit? hk
  have hne : k ≠ [] := hplain.ne_nil hkeyword
  have hword : Part.IsWord none [] k := ⟨by simp, by simp, hplain.isLetter hkeyword, hne⟩
  have hword' : Part.IsWord (some '+') ['1'] k :=
    ⟨by simp [Tokens.isSign], by decide, hplain.isLetter hkeyword, hne⟩
  have hleft := dropToday_of_forall htoday
  have hbare := resolveDate_of_isWord hplain hlayout (hleft.symm ▸ hword) hhead
  have hone : r.resolveDate ('+' :: '1' :: k ++ v) = _ := resolveDate_of_isSign hplain hlayout ⟨'+', rfl, rfl⟩
  obtain ⟨read, marked, hfinish⟩ := exists_finish r.localization hhead hlast
  have hfirst := hfinish k hword rfl (r.startOf none)
  have hsecond := hfinish ('+' :: '1' :: k) hword' rfl (r.startOf none)
  rw [instantOf, instantOf, if_neg (by simp [hne]), if_neg (by simp), hbare, hleft, hone, hfirst, hsecond]
  cases read with
  | error e => exact Or.inl rfl
  | ok tokens =>
    exact Part.agree_step hplain hk _ fun moved => do
      let moved ← Part.applyTokens r.localization moved tokens
      toWorkday moved marked

/-! ## Whole shortcuts -/

variable {tail : Text}

/-- What follows a keyword is put in lower case alike with plus one before it and without. -/
theorem exists_normalize (hplain : l.IsPlain) (hk : k ∈ l.keywords unit)
    (htail : ∀ c ∈ tail.head?, Text.isBlank c = true ∨ Tokens.isSign c = true) :
    ∃ u, (∀ c ∈ u.head?, Text.isBlank c = true ∨ Tokens.isSign c = true) ∧
      Text.normalize (k ++ tail) = k ++ u ∧
      Text.normalize ('+' :: '1' :: (k ++ tail)) = '+' :: '1' :: (k ++ u) := by
  have hlower := hplain.isLower hk
  have hsolid := hplain.isSolid hk
  have hplus : Text.IsSolid ['+', '1'] := by
    unfold Text.IsSolid
    decide
  have hcased : Text.meetsCased ['1', '+'] = false := by decide
  have hlower' : Text.IsLower ['+', '1'] := by
    unfold Text.IsLower
    decide
  refine ⟨Text.lowerFrom k.reverse (Text.trimEnd tail), ?_, ?_, ?_⟩
  · cases h : Text.trimEnd tail with
    | nil => exact fun _ hc => absurd hc (by simp)
    | cons c rest =>
      have hc := htail c (Text.mem_head?_of_prefix (Text.trimEnd_prefix tail) (by rw [h]; rfl))
      have hself : Text.lowerChar c = c := hc.elim Text.lowerChar_of_isBlank Tokens.lowerChar_of_isSign
      rw [Text.lowerFrom_cons_of_lowerChar hself]
      rintro _ ⟨⟩
      exact hc
  · rw [Text.normalize, Text.trim_append_of_isSolid (hplain.ne_nil hk) hsolid, Text.lower,
      Text.lowerFrom_append_of_isLower hlower, List.append_nil]
  · have htrim := Text.trim_append_of_isSolid (t := ['+', '1'] ++ k) (by simp) (hplus.append hsolid) tail
    rw [List.append_assoc] at htrim
    change Text.normalize (['+', '1'] ++ (k ++ tail)) = ['+', '1'] ++ (k ++ _)
    rw [Text.normalize, htrim, Text.lower, Text.lowerFrom_append_of_isLower (hlower'.append hlower),
      List.append_nil, List.reverse_append, List.append_assoc]
    exact congrArg (['+', '1'] ++ k ++ ·) (Text.lowerFrom_append_before hcased _ _)

theorem split_plusOne (hplain : r.localization.IsPlain) (hk : k ∈ r.localization.keywords unit) {u : Text}
    (hbare : Text.normalize (k ++ tail) = k ++ u)
    (hone : Text.normalize ('+' :: '1' :: (k ++ tail)) = '+' :: '1' :: (k ++ u)) :
    r.split ('+' :: '1' :: (k ++ tail))
      = ((r.split (k ++ tail)).mapError (Failure.quoting ('+' :: '1' :: (k ++ u)))).map
          fun (time, rest) => (time, '+' :: '1' :: rest) := by
  have hne := hplain.ne_nil hk
  have hsolid := hplain.isSolid hk
  have hdecimal := hplain.not_isDecimal hk
  have hhead : ∀ c ∈ (k ++ u).head?, ¬ Text.isBlank c = true ∧ ¬ Text.isDecimal c = true := by
    rw [List.head?_append_of_ne_nil _ hne]
    exact fun c hc => ⟨hsolid c (List.mem_of_head? hc), hdecimal c hc⟩
  have hplus : Text.IsSolid ['+', '1'] := by
    unfold Text.IsSolid
    decide
  have hsign : ∀ c ∈ (['+', '1'] : Text).head?, ¬ Text.isDecimal c = true := by
    rintro _ ⟨⟩
    decide
  have hsome : ∃ c ∈ (k ++ u).head?, ¬ Text.isBlank c = true := by
    obtain ⟨c, k, rfl⟩ := List.exists_cons_of_ne_nil hne
    exact ⟨c, rfl, hsolid c List.mem_cons_self⟩
  have hcut : TrailingTime.split r.localization (['+', '1'] ++ (k ++ u)) = _ :=
    TrailingTime.split_append_of_find? (by simp) hplus.isTight.head hsome
      (TrailingTime.find?_append_of_isSolid hplus (by simp) hsign hhead)
      fun m hm => Nat.lt_of_lt_of_le (List.length_pos_of_ne_nil hne)
        (TrailingTime.length_le_start_of_find? hsolid hdecimal hm)
  change TrailingTime.split r.localization ('+' :: '1' :: (k ++ u)) = _ at hcut
  have hempty : (k ++ u).isEmpty = false := by simp [hne]
  rw [split, split, hbare, hone, hcut]
  simp only [hempty, List.isEmpty_cons]
  cases TrailingTime.split r.localization (k ++ u) <;> rfl

/-- The text before a time begins with the keyword, too, and ends in no blank. -/
theorem exists_rest_of_split (hplain : r.localization.IsPlain) (hk : k ∈ r.localization.keywords unit)
    (htail : ∀ c ∈ tail.head?, Text.isBlank c = true ∨ Tokens.isSign c = true)
    {time : Option TimeOfDay} {rest : Text} (h : r.split (k ++ tail) = .ok (time, rest)) :
    ∃ v, rest = k ++ v ∧ (∀ c ∈ v.head?, Text.isBlank c = true ∨ Tokens.isSign c = true) ∧
      ∀ c ∈ v.getLast?, ¬ Text.isBlank c = true := by
  obtain ⟨u, hu, hbare, -⟩ := exists_normalize hplain hk htail
  obtain ⟨-, hcut⟩ := split_eq_ok_iff.mp h
  rw [hbare] at hcut
  obtain ⟨v, hv, rfl, htight⟩ := TrailingTime.exists_rest_of_split (hplain.isSolid hk) (hplain.ne_nil hk)
    (hplain.not_isDecimal hk) (hbare ▸ Text.isTight_normalize _) hcut
  exact ⟨v, rfl, fun c hc => hu c (Text.mem_head?_of_prefix hv hc),
    fun c hc => htight.last c (Text.mem_getLast?_of_suffix (List.suffix_append k v) hc)⟩

theorem agree_resolve (hplain : r.localization.IsPlain)
    (hlayout : r.localization.HasLayout separator order) (hk : r.localization.firstUnit? k = some unit)
    (htoday : ∀ w ∈ r.localization.today, ¬ w <+: k)
    (htail : ∀ c ∈ tail.head?, Text.isBlank c = true ∨ Tokens.isSign c = true) :
    Agree k ('+' :: '1' :: k)
      ((r.resolve (k ++ tail)).mapError (Failure.quoting (Text.normalize ('+' :: '1' :: (k ++ tail)))))
      (r.resolve ('+' :: '1' :: (k ++ tail))) := by
  have hkeyword := Localization.mem_of_firstUnit? hk
  obtain ⟨u, -, hbare, hone⟩ := exists_normalize hplain hkeyword htail
  rw [resolve_eq, resolve_eq, split_plusOne hplain hkeyword hbare hone, hone]
  cases h : r.split (k ++ tail) with
  | error e => exact Or.inl rfl
  | ok found =>
    obtain ⟨time, rest⟩ := found
    obtain ⟨v, rfl, hhead, hlast⟩ := exists_rest_of_split hplain hkeyword htail h
    change Agree k _ (((r.instantOf (k ++ v)).map (r.settleTime time)).mapError _)
      ((r.instantOf ('+' :: '1' :: k ++ v)).map (r.settleTime time))
    rw [mapError_map]
    refine Agree.map ?_ _
    rcases agree_instantOf hplain hlayout hk htoday hhead hlast with heq | ⟨hfirst, hsecond⟩
    · left
      rw [← heq, (faultsIn_instantOf r _).mapError_quoting]
    · right
      rw [hfirst, hsecond]
      exact ⟨rfl, rfl⟩

/-- Letters that are no keyword stay where a keyword for today is dropped. -/
theorem resolve_ne_ok (hl : (r.localization, separator, order) ∈ Localization.layouts)
    (hk : k ∈ r.localization.keywords unit) (hword : Part.IsWord none [] (dropToday r.localization k))
    (hunit : r.localization.unitOf? (Text.lower (dropToday r.localization k)) = none)
    (htail : ∀ c ∈ tail.head?, Text.isBlank c = true ∨ Tokens.isSign c = true) (i : Instant) :
    r.resolve (k ++ tail) ≠ .ok i := by
  intro h
  have hplain := Localization.isPlain_of_mem hl
  rw [resolve_eq] at h
  obtain ⟨⟨time, rest⟩, hsplit, h⟩ := bind_eq_ok_iff.mp h
  obtain ⟨day, hday, -⟩ := map_eq_ok_iff.mp h
  obtain ⟨v, rfl, hhead, hlast⟩ := exists_rest_of_split hplain hk htail hsplit
  obtain ⟨read, marked, hfinish⟩ := exists_finish r.localization hhead hlast
  have hstep : Part.step r.localization (r.startOf none) (dropToday r.localization k) = .error _ :=
    Part.step_eq_error_iff.mpr (.inr ⟨_, hword.parse, .inl ⟨hunit, rfl⟩⟩)
  rw [instantOf, if_neg (by simp [hplain.ne_nil hk]),
    resolveDate_of_isWord hplain (Localization.hasLayout_of_mem hl) hword hhead,
    hfinish (dropToday r.localization k) hword rfl] at hday
  obtain ⟨tokens, -, hday⟩ := bind_eq_ok_iff.mp hday
  obtain ⟨moved, hmoved, -⟩ := bind_eq_ok_iff.mp hday
  simp [hstep] at hmoved

end Resolver

/-- Keywords for today begin some keywords of years in French, and what is left of those is no keyword. -/
theorem Localization.unitOf?_dropToday (h : (l, separator, order) ∈ layouts) :
    ∀ unit ∈ CalendarUnit.all, ∀ k ∈ l.keywords unit, k ∉ l.today → (∃ w ∈ l.today, w <+: k) →
      Resolver.dropToday l k ≠ [] ∧ l.unitOf? (Text.lower (Resolver.dropToday l k)) = none := by
  simp only [layouts, List.mem_cons, Prod.mk.injEq, List.not_mem_nil, or_false] at h
  rcases h with ⟨rfl, -⟩ | ⟨rfl, -⟩ | ⟨rfl, -⟩ | ⟨rfl, -⟩ <;> decide

namespace Resolver

/-- A keyword at the head, which a gap, a sign or the end follows, is resolved as behind plus one. Only the
faults differ that quote what is written: a wrong time quotes the whole shortcut, and a date out of range
the part. A keyword that some keyword for today begins, but that is not one itself, is never resolved. -/
theorem resolve_keyword {tag : Text} {l : Localization} (hl : (tag, l) ∈ Localization.builtin)
    {reference : Instant} {defaultTime : Text} {r : Resolver} (hr : build l reference defaultTime = .ok r)
    {k : Text} {unit : CalendarUnit} (hk : k ∈ l.keywords unit) (htoday : k ∉ l.today) {tail : Text}
    (htail : ∀ c ∈ tail.head?, Text.isBlank c = true ∨ Tokens.isSign c = true) :
    ((∀ w ∈ l.today, ¬ w <+: k) → Agree k ('+' :: '1' :: k)
      ((r.resolve (k ++ tail)).mapError (Failure.quoting (Text.normalize ('+' :: '1' :: (k ++ tail)))))
      (r.resolve ('+' :: '1' :: (k ++ tail)))) ∧
    ((∃ w ∈ l.today, w <+: k) → ∀ i, r.resolve (k ++ tail) ≠ .ok i) := by
  obtain ⟨rfl, -, -⟩ := build_eq_ok hr
  obtain ⟨separator, order, hlayout⟩ := Localization.exists_mem_layouts hl
  have hplain := Localization.isPlain_of_mem hlayout
  refine ⟨fun hnone => ?_, fun hsome i => ?_⟩
  · obtain ⟨first, hfirst⟩ := Localization.exists_firstUnit? hk
    exact agree_resolve hplain (Localization.hasLayout_of_mem hlayout) hfirst hnone htail
  · obtain ⟨hne, hunit⟩ := Localization.unitOf?_dropToday hlayout unit unit.mem_all k hk htoday hsome
    have hword : Part.IsWord none [] (dropToday r.localization k) :=
      ⟨by simp, by simp, fun c hc => hplain.isLetter hk c ((dropToday_suffix _ k).mem hc), hne⟩
    exact resolve_ne_ok hlayout hk hword hunit htail i

/-- The last workday but one of the month after the reference, and a French year that is not read. -/
theorem resolve_keyword_before_parts :
    let reference : Instant := .ofDate ⟨2024, 1, 31, by decide, by decide, by decide⟩
    let tail : Text := "-2WD. 5:30 PM"
    ∃ r s, (("en" : Text), Localization.english) ∈ Localization.builtin ∧
      build .english reference "9:30" = .ok r ∧ ("m" : Text) ∈ Localization.english.keywords .month ∧
      ("m" : Text) ∉ Localization.english.today ∧
      r.resolve ("m" ++ tail) = .ok ((Instant.ofDate ⟨2024, 2, 28, by decide, by decide, by decide⟩).atTime
        ⟨17, 30, 0⟩) ∧
      r.resolve ('+' :: '1' :: ("m" ++ tail)) = r.resolve ("m" ++ tail) ∧
      (("fr" : Text), Localization.french) ∈ Localization.builtin ∧ build .french reference "" = .ok s ∧
      ("an" : Text) ∈ Localization.french.keywords .year ∧ ("an" : Text) ∉ Localization.french.today ∧
      ∀ i, s.resolve ("an" ++ tail) ≠ .ok i := by
  let reference : Instant := .ofDate ⟨2024, 1, 31, by decide, by decide, by decide⟩
  let tail : Text := "-2WD. 5:30 PM"
  let r : Resolver := ⟨.english, reference, some ⟨9, 30, 0⟩⟩
  let s : Resolver := ⟨.french, reference, none⟩
  have hen : (("en" : Text), Localization.english) ∈ Localization.builtin := by simp [Localization.builtin]
  have hfr : (("fr" : Text), Localization.french) ∈ Localization.builtin := by simp [Localization.builtin]
  have hr : build .english reference "9:30" = .ok r := by
    set_option maxRecDepth 1000 in
    decide
  have hs : build .french reference "" = .ok s := by
    set_option maxRecDepth 1000 in
    decide
  have htail : ∀ c ∈ tail.head?, Text.isBlank c = true ∨ Tokens.isSign c = true := by
    rintro _ ⟨⟩
    exact Or.inr rfl
  have hbare : r.resolve ("m" ++ tail)
      = .ok ((Instant.ofDate ⟨2024, 2, 28, by decide, by decide, by decide⟩).atTime ⟨17, 30, 0⟩) := by
    decide
  have hmonth : ("m" : Text) ∈ Localization.english.keywords .month := by decide
  have hyear : ("an" : Text) ∈ Localization.french.keywords .year := by decide
  have hsame := (resolve_keyword hen hr hmonth (by decide) htail).1 (by decide)
  rw [hbare, mapError_ok] at hsame
  refine ⟨r, s, hen, hr, hmonth, by decide, hbare, ?_, hfr, hs, hyear, by decide,
    (resolve_keyword hfr hs hyear (by decide) htail).2 ⟨"a", by decide, by decide⟩⟩
  exact (hsame.resolve_right (by simp)).symm.trans hbare.symm

/-- A French keyword of years is not read, and two faults quote what is written. -/
theorem resolve_keyword_ne_plusOne :
    let reference : Instant := .ofDate ⟨2024, 5, 15, by decide, by decide, by decide⟩
    let last : Instant := .ofDate ⟨9999, 5, 15, by decide, by decide, by decide⟩
    (("fr" : Text), Localization.french) ∈ Localization.builtin ∧
      (("en" : Text), Localization.english) ∈ Localization.builtin ∧
      Localization.french.unitOf? "an" = some .year ∧ ("an" : Text) ∉ Localization.french.today ∧
      resolveOnce .french reference "" "an" = .error (.fault (.unknownUnit "n")) ∧
      resolveOnce .french reference "" "+1an"
        = .ok (.ofDate ⟨2025, 5, 15, by decide, by decide, by decide⟩) ∧
      Localization.english.unitOf? "y" = some .year ∧ ("y" : Text) ∉ Localization.english.today ∧
      resolveOnce .english last "" "y" = .error (.fault (.dateOutOfRange "y")) ∧
      resolveOnce .english last "" "+1y" = .error (.fault (.dateOutOfRange "+1y")) ∧
      Localization.english.unitOf? "d" = some .day ∧ ("d" : Text) ∉ Localization.english.today ∧
      resolveOnce .english reference "" "d 9:75" = .error (.fault (.invalidTime "d 9:75" (some "9:75"))) ∧
      resolveOnce .english reference "" "+1d 9:75"
        = .error (.fault (.invalidTime "+1d 9:75" (some "9:75"))) := by
  set_option maxRecDepth 1000 in
  decide

end Resolver

end DateShorthand
