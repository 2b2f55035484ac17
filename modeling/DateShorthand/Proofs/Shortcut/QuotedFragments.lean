import DateShorthand.Proofs.Shortcut.Faults
import DateShorthand.Proofs.Shortcut.TokenLaws
import DateShorthand.Report.Basic

/-!
# Fragments in errors

An error about a piece of a shortcut quotes what was typed: but for blanks and case, the piece stands
in the shortcut as it is quoted. Every stage hands on a part of the text that it was given, and an
error quotes a part of the text that its stage was given.
-/

namespace DateShorthand

/-! ## Fragments -/

/-- A piece of the text, but for blanks. -/
structure Text.IsFragment (t x : Text) : Prop where
  ne_nil : x ≠ []
  stands : withoutBlanks x <:+: withoutBlanks t

namespace Text.IsFragment

variable {t u x : Text}

theorem of_isInfix (hne : x ≠ []) (h : x <:+: t) : IsFragment t x := ⟨hne, h.filter _⟩

theorem mono (h : IsFragment u x) (hu : u <:+: t) : IsFragment t x :=
  ⟨h.ne_nil, h.stands.trans (hu.filter _)⟩

theorem of_isSolid (hx : IsSolid x) (hne : x ≠ []) (h : x <:+: withoutBlanks t) : IsFragment t x :=
  ⟨hne, hx.withoutBlanks.symm ▸ h⟩

end Text.IsFragment

/-- What a fault quotes is a fragment of the text. -/
def Fault.IsAbout (t : Text) : Fault → Prop
  | invalidPart x => t.IsFragment x
  | unknownUnit x => t.IsFragment x
  | dateOutOfRange x => t.IsFragment x
  | invalidHour x => t.IsFragment x
  | invalidMarkedHour x => t.IsFragment x
  | invalidTime shortcut time => shortcut = t ∧ ∃ x ∈ time, t.IsFragment x
  | _ => True

/-- A fault of a date text is about every text that the date text is a part of. -/
theorem Fault.IsAbout.mono {t u : Text} {f : Fault} (h : f.IsAbout u) (hf : f.OfDateText)
    (hu : u <:+: t) : f.IsAbout t := by
  cases f with
  | invalidPart | unknownUnit | dateOutOfRange => exact Text.IsFragment.mono h hu
  | weekdayNotFound => trivial
  | _ => exact hf.elim

/-- What a stage quotes of a part of the text is a fragment of the whole. -/
theorem FaultsIn.isAbout_mono {α : Type} {t u : Text} {x : Except Failure α}
    (h : FaultsIn (Fault.IsAbout u) x) (hx : FaultsIn Fault.OfDateText x) (hu : u <:+: t) :
    FaultsIn (Fault.IsAbout t) x := fun f hf => (h f hf).mono (hx f hf) hu

/-! ## The time -/

namespace TrailingTime

open Regex

variable {l : Localization} {t : Text} {m : Match}

theorem not_mem_groupsIn_behind (markers : List Text) :
    1 ∉ groupsIn (ofList (sexagesimal 2 :: sexagesimal 3 :: ending markers)) := by
  have hmarkers : groupsIn (oneOf (markers.map literal)) = [] := by
    rw [groupsIn_oneOf, List.flatMap_map]
    exact List.flatMap_eq_nil_iff.mpr fun w _ => groupsIn_literal w
  have hending : (ending markers).flatMap groupsIn ⊆ [4] := by
    unfold ending
    split
    · exact List.nil_subset _
    · simp [groupsIn, Regex.optional, blanks, ofClass, hmarkers]
  rw [groupsIn_ofList, List.flatMap_cons, List.flatMap_cons, List.mem_append, List.mem_append]
  rintro (h | h | h)
  · exact absurd h (by decide)
  · exact absurd h (by decide)
  · exact absurd (hending h) (by decide)

/-- The first group of a time holds the digits of its hour. -/
theorem exists_hour (h : find? l t = some m) :
    ∃ hour, m.group? 1 = some hour ∧ hour.IsDigits ∧ hour <:+: m.covered ∧ m.covered <:+: t := by
  rw [find?, search?_eq] at h
  obtain ⟨n, -, hn⟩ := List.exists_of_findSome?_eq_some h
  rw [matchAt?_eq_head?] at hn
  obtain ⟨s, hs, rfl⟩ := Option.map_eq_some_iff.mp hn
  have hs := List.mem_of_head? hs
  rw [timeRegex_eq] at hs
  obtain ⟨s₁, hlead, hs⟩ := List.mem_flatMap.mp hs
  obtain ⟨s₂, hhour, hbehind⟩ := List.mem_flatMap.mp hs
  obtain ⟨u, hahead, hposition⟩ := readsTo_of_mem_outcomes hlead
  obtain ⟨hour, rest, hdigits, hlo, -, hahead₁, rfl⟩ := mem_outcomes_decimals (by decide) hhour
  obtain ⟨v, hahead₂, hposition₂⟩ := readsTo_of_mem_outcomes hbehind
  rw [State.ahead_read _ hahead₁] at hahead₂
  refine ⟨hour, ?_, .of_length_pos hdigits hlo, ⟨u, v, ?_⟩, ?_⟩
  · exact (lookup_of_mem_outcomes (not_mem_groupsIn_behind _) hbehind).trans rfl
  · have hlength : s.cursor.position - n = (u ++ hour ++ v).length := by
      change s.cursor.position = s₁.cursor.position + hour.length + v.length at hposition₂
      change s₁.cursor.position = n + u.length at hposition
      simp only [List.length_append]
      omega
    change _ = (t.drop n).take (s.cursor.position - n)
    change t.drop n = _ at hahead
    rw [hlength, hahead, hahead₁, hahead₂, ← List.append_assoc, ← List.append_assoc, List.take_left]
  · exact (List.take_prefix ..).isInfix.trans (List.drop_suffix n t).isInfix

theorem isAbout_of_read {f : Fault} (hm : find? l t = some m) (h : read l t m = .error f) :
    f.IsAbout t := by
  obtain ⟨hour, hgroup, hdigits, hinside, hcovered⟩ := exists_hour hm
  have habout : t.IsFragment hour := .of_isInfix hdigits.ne_nil (hinside.trans hcovered)
  have hfault := read_eq_error h
  rw [hgroup, Option.getD_some] at hfault
  rcases hfault with rfl | rfl | rfl
  · have hne : Text.trim m.covered ≠ [] := fun hnil =>
      have hgap := Text.isGap_of_trim_eq_nil hnil
      have hmem := List.head_mem hdigits.ne_nil
      Text.not_isBlank_of_isDecimal (hdigits.decimal _ hmem) (hgap _ (hinside.subset hmem))
    exact ⟨rfl, _, rfl, .of_isInfix hne ((Text.trim_isInfix _).trans hcovered)⟩
  · exact habout
  · exact habout

theorem isAbout_of_split {f : Fault} (h : split l t = .error f) : f.IsAbout t := by
  unfold split at h
  split at h
  · simp at h
  · rename_i m hm
    exact isAbout_of_read hm (map_eq_error_iff.mp h)

/-- What is left of the text when the time is cut off is a part of it. -/
theorem isInfix_of_split {time : Option TimeOfDay} {rest : Text} (h : split l t = .ok (time, rest)) :
    rest <:+: t := by
  unfold split at h
  split at h
  · rw [Except.ok.injEq, Prod.mk.injEq] at h
    exact h.2 ▸ List.infix_refl t
  · obtain ⟨time, -, heq⟩ := map_eq_ok_iff.mp h
    rw [← (Prod.mk.inj heq).2]
    exact (Text.trim_isInfix _).trans (List.take_prefix ..).isInfix

end TrailingTime

/-! ## The date -/

/-- Every date pattern is one of a built-in localization. -/
def Localization.HasBuiltinPatterns (l : Localization) : Prop :=
  ∀ p ∈ l.datePatterns, ∃ tag l', (tag, l') ∈ builtin ∧ p ∈ l'.datePatterns

namespace AbsoluteDate

variable {l : Localization} {t : Text}

theorem exists_of_find? (hl : l.HasBuiltinPatterns) {p : DatePattern} {m : Regex.Match}
    (h : find? l t = some (p, m)) : ∃ (separator : Char) (d : WrittenDate) (rest : Text),
      t = d.text separator ++ rest ∧ m = d.toMatch separator rest := by
  obtain ⟨p', hp', hfound⟩ := List.exists_of_findSome?_eq_some h
  obtain ⟨m', hmatch, heq⟩ := Option.map_eq_some_iff.mp hfound
  obtain ⟨rfl, rfl⟩ := Prod.mk.inj heq
  obtain ⟨tag, l', hbuiltin, hp⟩ := hl p' hp'
  obtain ⟨separator, order, hlayout⟩ := Localization.exists_layout hbuiltin
  obtain ⟨p, hpatterns, hregex, -⟩ := hlayout.datePatterns
  rw [hpatterns, List.mem_singleton] at hp
  rw [hp, hregex] at hmatch
  obtain ⟨d, rest, ht, hm⟩ := WrittenDate.exists_of_matchStart? hmatch
  exact ⟨separator, d, rest, ht, hm⟩

theorem faultsIn_split_isAbout (hl : l.HasBuiltinPatterns) (defaultYear : Nat) (t : Text) :
    FaultsIn (Fault.IsAbout t) (split l defaultYear t) := by
  unfold split
  split
  · exact .ok _
  · rename_i p m hfind
    obtain ⟨separator, d, rest, rfl, rfl⟩ := exists_of_find? hl hfind
    rw [WrittenDate.read_toMatch]
    refine .map (.guard ?_ _)
    obtain ⟨c, hc, -⟩ := d.exists_head separator
    exact .of_isInfix (List.ne_nil_of_mem (List.mem_of_head? hc)) (List.prefix_append ..).isInfix

theorem isInfix_of_split (hl : l.HasBuiltinPatterns) {defaultYear : Nat} {date : Option Date}
    {rest : Text} (h : split l defaultYear t = .ok (date, rest)) : rest <:+: t := by
  unfold split at h
  split at h
  · rw [Except.ok.injEq, Prod.mk.injEq] at h
    exact h.2 ▸ List.infix_refl t
  · rename_i p m hfind
    obtain ⟨separator, d, after, rfl, rfl⟩ := exists_of_find? hl hfind
    obtain ⟨date, -, heq⟩ := map_eq_ok_iff.mp h
    rw [← (Prod.mk.inj heq).2]
    exact ((List.dropWhile_suffix _).trans (List.suffix_append _ _)).isInfix

end AbsoluteDate

/-! ## The parts -/

namespace Tokens

variable {t : Text}

theorem isAbout_of_ofText {f : Fault} (h : ofText t = .error f) : f.IsAbout t := by
  obtain ⟨w, hw, rfl⟩ := glue_eq_error_iff.mp h
  obtain ⟨-, hlast⟩ := unpaired_eq_some hw
  have hmem : w ∈ wordsOf t := List.mem_of_getLast? hlast
  have hword := isWord_of_mem_wordsOf t w hmem
  exact .of_isSolid hword.isSolid hword.ne_nil (flatten_wordsOf t ▸ List.infix_of_mem_flatten hmem)

/-- A token is a fragment of the text, and no blank is in it. -/
theorem isFragment_of_ofText {tokens : List Text} (h : ofText t = .ok tokens) :
    ∀ token ∈ tokens, Text.IsSolid token ∧ token ≠ [] ∧ token <:+: Text.withoutBlanks t := by
  have htokens := glue_tokens h (isWord_of_mem_wordsOf t)
  intro token hmem
  refine ⟨ofText_solid h token hmem, (htokens token hmem).signsInFront.1, ?_⟩
  rw [← flatten_ofText h]
  exact List.infix_of_mem_flatten hmem

end Tokens

namespace Part

variable {l : Localization} {t token : Text}

/-- The keyword of a part is what stands at the end of its token. -/
theorem keyword_suffix {p : Part} (htoken : Text.IsSolid token) (hlower : Text.IsLower token)
    (h : parse token = .ok p) : p.raw = token ∧ p.keyword ≠ [] ∧ p.keyword <:+ token := by
  obtain ⟨letters, magnitude, hletters, -, rfl⟩ := parse_eq_ok_iff.mp h
  obtain ⟨sign, hword, heq⟩ := exists_isWord htoken hletters
  have hsuffix : letters <:+ token :=
    heq ▸ (List.suffix_append _ letters).trans (List.suffix_append _ _)
  have hkeyword : Text.lower letters = letters :=
    Text.lower_of_isLower fun c hc => hlower c (hsuffix.subset hc)
  rw [hkeyword]
  exact ⟨rfl, hword.ne_nil, hsuffix⟩

theorem faultsIn_applyTo_isAbout {p : Part} (hp : t.IsFragment p.raw) (unit : CalendarUnit)
    (i : Instant) : FaultsIn (Fault.IsAbout t) (p.applyTo unit i) := by
  cases unit with
  | today => exact .ok _
  | year | month | week | day => exact .guard hp _
  | weekday =>
    refine .mapError fun f h => ?_
    rw [Instant.nthBusinessDay_eq_error h]
    trivial

theorem faultsIn_step_isAbout {i : Instant} (htoken : t.IsFragment token) (hsolid : Text.IsSolid token)
    (hlower : Text.IsLower token) : FaultsIn (Fault.IsAbout t) (step l i token) := by
  intro f h
  rcases step_eq_error_iff.mp h with h | ⟨p, hp, hstep⟩
  · rcases parse_eq_error hsolid h with h | ⟨-, n, -, h⟩
    · exact Failure.fault.inj h ▸ htoken
    · exact absurd h (by simp)
  · obtain ⟨hraw, hne, hsuffix⟩ := keyword_suffix hsolid hlower hp
    rcases hstep with ⟨-, h⟩ | ⟨unit, -, h⟩
    · have hkeyword : token.IsFragment p.keyword := .of_isInfix hne hsuffix.isInfix
      exact Failure.fault.inj h ▸ ⟨hne, hkeyword.stands.trans htoken.stands⟩
    · exact faultsIn_applyTo_isAbout (hraw ▸ htoken) unit i f h

theorem faultsIn_applyAll_isAbout (ht : Text.IsLower t) (i : Instant) :
    FaultsIn (Fault.IsAbout t) (applyAll l i t) := by
  refine .bind_of (.mapError fun f h => Tokens.isAbout_of_ofText h) fun tokens htokens => ?_
  rw [mapError_eq_ok_iff] at htokens
  intro f h
  obtain ⟨before, token, after, moved, rfl, -, hstep⟩ := applyTokens_eq_error_iff.mp h
  obtain ⟨hsolid, hne, hinside⟩ := Tokens.isFragment_of_ofText htokens token (by simp)
  have hlower : Text.IsLower token := fun c hc => ht c (List.mem_of_mem_filter (hinside.subset hc))
  exact faultsIn_step_isAbout (.of_isSolid hsolid hne hinside) hsolid hlower f hstep

end Part

/-! ## The shortcut -/

namespace Resolver

variable {r : Resolver} {t : Text}

theorem isInfix_splitMarker (t : Text) : (splitMarker t).1 <:+: t := by
  unfold splitMarker
  simp only
  split
  · exact (List.dropLast_prefix _).isInfix.trans (Text.trim_isInfix t)
  · exact List.infix_refl t

theorem faultsIn_finish_isAbout {l : Localization} (ht : Text.IsLower t) (start : Instant) :
    FaultsIn (Fault.IsAbout t) (finish l start t) := by
  have hinner := isInfix_splitMarker t
  have hlower : Text.IsLower (splitMarker t).1 := fun c hc => ht c (hinner.subset hc)
  refine .bind_of ?_ fun moved _ => ?_
  · exact (Part.faultsIn_applyAll_isAbout hlower start).isAbout_mono (Part.faultsIn_applyAll _ _ _) hinner
  · -- there is always a workday nearby, so the point alone is never quoted
    obtain ⟨j, hj⟩ := moved.exists_closestWorkday
    unfold toWorkday
    split
    · rw [hj]
      exact .ok j
    · exact .ok _

theorem faultsIn_resolveDate_isAbout (hr : r.localization.HasBuiltinPatterns) (ht : Text.IsLower t) :
    FaultsIn (Fault.IsAbout t) (r.resolveDate t) := by
  rw [resolveDate_eq_finish]
  have htoday := (dropToday_suffix r.localization t).isInfix
  refine .bind_of ?_ fun (date, rest) hsplit => ?_
  · exact (AbsoluteDate.faultsIn_split_isAbout hr _ _).isAbout_mono (AbsoluteDate.faultsIn_split _ _ _) htoday
  · have hrest := (AbsoluteDate.isInfix_of_split hr hsplit).trans htoday
    have hlower : Text.IsLower rest := fun c hc => ht c (hrest.subset hc)
    exact (faultsIn_finish_isAbout hlower _).isAbout_mono (faultsIn_finish _ _ _) hrest

theorem faultsIn_resolve_isAbout (hr : r.localization.HasBuiltinPatterns) (shortcut : Text) :
    FaultsIn (Fault.IsAbout (Text.normalize shortcut)) (r.resolve shortcut) := by
  rw [resolve_eq]
  refine .bind_of ?_ fun (time, dateText) hsplit => .map ?_
  · unfold split
    simp only
    split
    · exact .fault trivial
    · exact .mapError fun f h => TrailingTime.isAbout_of_split h
  · have hinner := TrailingTime.isInfix_of_split (split_eq_ok_iff.mp hsplit).2
    have hlower : Text.IsLower dateText := fun c hc => Text.isLower_lower _ c (hinner.subset hc)
    unfold instantOf
    split
    · exact .ok _
    · exact (faultsIn_resolveDate_isAbout hr hlower).isAbout_mono (faultsIn_resolveDate r _) hinner

end Resolver

/-! ## What is told -/

/-- The text between the first quotation mark and the last. -/
def Text.quotation (message : Text) : Text :=
  let opened := (message.dropWhile (· != '"')).tail
  (opened.reverse.dropWhile (· != '"')).tail.reverse

theorem Text.quotation_quotedIn {before after : String} (hbefore : '"' ∉ before.toList)
    (hafter : '"' ∉ after.toList) (t : Text) : quotation (quotedIn before t after) = t := by
  have hskip : ∀ {u v : Text}, '"' ∉ u → (u ++ '"' :: v).dropWhile (· != '"') = '"' :: v := by
    intro u v hu
    rw [List.dropWhile_append_of_pos, List.dropWhile_cons_of_neg (by simp)]
    exact fun c hc => by simpa using ne_of_mem_of_not_mem hc hu
  have hclosed : (t ++ '"' :: after.toList).reverse = after.toList.reverse ++ '"' :: t.reverse := by simp
  rw [quotation, quotedIn, List.append_assoc, List.cons_append, hskip hbefore, List.tail_cons, hclosed,
    hskip (by simpa using hafter), List.tail_cons, List.reverse_reverse]

/-- Where the details of an error about a piece of a shortcut hold this piece. -/
def ErrorKind.fragmentKey? : ErrorKind → Option Text
  | .invalidPartFormat => some "part"
  | .unknownUnit => some "unit"
  | .dateOutOfRange => some "fragment"
  | .invalidHour => some "hour"
  | .invalidAmPmHour => some "hour"
  | .invalidTimeFormat => some "time"
  | _ => none

/-- An error about a piece of a shortcut keeps it, and quotes it in its message. Only an error about a
time quotes the whole text. -/
theorem Fault.IsAbout.report {t key : Text} {f : Fault} (h : f.IsAbout t)
    (hkey : f.kind.fragmentKey? = some key) :
    ∃ x, f.report.details.lookup key = some (.str x) ∧
      Text.quotation f.report.message = (if f.kind = .invalidTimeFormat then t else x) ∧
      t.IsFragment x := by
  cases f with
  | invalidPart x | unknownUnit x | dateOutOfRange x | invalidHour x | invalidMarkedHour x =>
    obtain rfl := Option.some.inj hkey
    exact ⟨x, rfl, Text.quotation_quotedIn (by decide) (by decide) x, h⟩
  | invalidTime shortcut time =>
    obtain ⟨rfl, x, hx, habout⟩ := h
    obtain rfl := Option.some.inj hkey
    obtain rfl : time = some x := hx
    exact ⟨x, rfl, Text.quotation_quotedIn (by decide) (by decide) shortcut, habout⟩
  | _ => exact absurd hkey (by simp [kind, ErrorKind.fragmentKey?])

/-- Whatever the keywords and the markers are, an error about a piece of a shortcut keeps a piece that is
not empty, quotes it, and but for blanks and case it is one that was typed. -/
theorem Resolver.resolve_quotes {r : Resolver} (hr : r.localization.HasBuiltinPatterns)
    {shortcut key : Text} {f : Fault} (hkey : f.kind.fragmentKey? = some key)
    (h : r.resolve shortcut = .error (.fault f)) :
    ∃ fragment, f.report.details.lookup key = some (.str fragment) ∧
      Text.quotation f.report.message
        = (if f.kind = .invalidTimeFormat then Text.normalize shortcut else fragment) ∧
      fragment ≠ [] ∧
      Text.withoutBlanks fragment <:+: Text.withoutBlanks (Text.normalize shortcut) := by
  obtain ⟨fragment, hdetails, hmessage, hfragment⟩ :=
    (faultsIn_resolve_isAbout hr shortcut f h).report hkey
  exact ⟨fragment, hdetails, hmessage, hfragment.ne_nil, hfragment.stands⟩

/-- Two signs that were typed apart are quoted as one token. -/
theorem Resolver.resolve_quotes_glued_signs :
    (Fault.invalidPart "+-").kind.fragmentKey? = some "part" ∧
      resolve ⟨.english, .ofDate ⟨2024, 5, 15, by decide, by decide, by decide⟩, none⟩ " 1Y+ - -2D"
        = .error (.fault (.invalidPart "+-")) ∧
      Text.quotation "Invalid part format \"+-\" in shortcut." = "+-" ∧
      Text.withoutBlanks "+-" <:+: Text.withoutBlanks (Text.normalize " 1Y+ - -2D") := by
  have hpatterns : Localization.english.HasBuiltinPatterns := fun p hp =>
    ⟨_, _, List.mem_cons_self, hp⟩
  have h : resolve ⟨.english, .ofDate ⟨2024, 5, 15, by decide, by decide, by decide⟩, none⟩ " 1Y+ - -2D"
      = .error (.fault (.invalidPart "+-")) := by decide
  obtain ⟨fragment, hdetails, hmessage, -, hstands⟩ := resolve_quotes hpatterns rfl h
  have hkept : List.lookup ("part" : Text) (Fault.invalidPart "+-").report.details
      = some (Json.str "+-") := rfl
  obtain rfl := Json.str.inj (Option.some.inj (hkept.symm.trans hdetails))
  exact ⟨rfl, h, hmessage, hstands⟩

end DateShorthand
