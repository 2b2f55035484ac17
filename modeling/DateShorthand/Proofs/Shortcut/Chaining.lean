import DateShorthand.Proofs.Shortcut.Faults
import DateShorthand.Proofs.Shortcut.Seams

/-!
# Shortcuts in a row

A shortcut with a second one behind it, which begins with a sign, leads to where the second one leads
from the result of the first. No time reaches over a sign, and the parts of the second come after
those of the first.
-/

namespace DateShorthand

variable {l : Localization} {separator : Char} {order : FieldOrder}

/-! ## Faults that quote the whole shortcut -/

def Fault.quoting (shortcut : Text) : Fault → Fault
  | invalidTime _ time => invalidTime shortcut time
  | f => f

def Failure.quoting (shortcut : Text) : Failure → Failure
  | fault f => fault (f.quoting shortcut)
  | e => e

theorem FaultsIn.mapError_quoting {α : Type} {x : Except Failure α} (h : FaultsIn Fault.OfDateText x)
    (shortcut : Text) : x.mapError (Failure.quoting shortcut) = x := by
  match x with
  | .ok a => rfl
  | .error (.number f) => rfl
  | .error (.calendar f) => rfl
  | .error (.fault f) =>
    have hf := h f rfl
    cases f <;> first | rfl | exact hf.elim

/-! ## Times -/

namespace TrailingTime

open Regex

variable {c : Char} {u : Text} {m : Match}

theorem find?_append (hc : IsForeign l.markers c) (front u : Text) :
    find? l (front ++ c :: u) = (find? l (c :: u)).map (Match.shift front.length) := by
  refine search?_append (fun n hn => hc.matchAt?_eq_none fun _ => ?_)
    (hc.matchAt?_eq_none fun _ => by simp)
  rw [List.drop_append_of_le_length hn]
  simp

theorem matchAt?_of_find? (h : find? l u = some m) :
    (timeRegex l.markers).matchAt? true (Cursor.after u m.start) = some m := by
  rw [find?, search?_eq] at h
  obtain ⟨n, -, hn⟩ := List.exists_of_findSome?_eq_some h
  have hstart : m.start = n := by
    rw [matchAt?_eq_head?] at hn
    obtain ⟨s, -, rfl⟩ := Option.map_eq_some_iff.mp hn
    rfl
  rwa [hstart]

theorem start_pos_of_find? (hc : IsForeign l.markers c) (h : find? l (c :: u) = some m) :
    0 < m.start := by
  rw [Nat.pos_iff_ne_zero]
  intro hzero
  have hm := matchAt?_of_find? h
  rw [hzero, hc.matchAt?_eq_none fun _ => by simp] at hm
  simp at hm

theorem mapError_markedHour (whole written : Text) (marker : Option Text) :
    (markedHour l written marker).mapError (Fault.quoting whole) = markedHour l written marker := by
  unfold markedHour
  cases marker with
  | none => rfl
  | some w =>
    dsimp only
    split <;> rfl

theorem read_shift (t whole : Text) (m : Match) (d : Nat) :
    read l whole (m.shift d) = (read l t m).mapError (Fault.quoting whole) := by
  have hgroup : ∀ index, (m.shift d).group? index = m.group? index := fun _ => rfl
  simp only [read, hgroup]
  split
  · rfl
  · rw [mapError_bind, mapError_markedHour]
    refine congrArg (_ >>= ·) (funext fun hour => ?_)
    cases TimeOfDay.ofFields? hour (numberOf ((m.group? 2).getD [])) (numberOf ((m.group? 3).getD [])) <;>
      rfl

/-- A time that is found as it is without what comes before is also cut off so. -/
theorem split_append_of_find? {front u : Text} (hne : front ≠ [])
    (hfront : ∀ d ∈ front.head?, ¬ Text.isBlank d = true) (hu : ∃ d ∈ u.head?, ¬ Text.isBlank d = true)
    (hfind : find? l (front ++ u) = (find? l u).map (Match.shift front.length))
    (hpos : ∀ m, find? l u = some m → 0 < m.start) :
    split l (front ++ u) = ((split l u).mapError (Fault.quoting (front ++ u))).map fun (time, rest) =>
      (time, front ++ rest) := by
  rw [split, split, hfind]
  cases hfound : find? l u with
  | none => rfl
  | some m =>
    have hhead : ∃ d ∈ (u.take m.start).head?, ¬ Text.isBlank d = true := by
      obtain ⟨d, hd, hblank⟩ := hu
      refine ⟨d, ?_, hblank⟩
      rw [List.head?_take, if_neg (hpos m hfound).ne']
      exact hd
    have htrim : Text.trim ((front ++ u).take (m.start + front.length))
        = front ++ Text.trim (u.take m.start) := by
      rw [Nat.add_comm, List.take_length_add_append, Text.trim_append_left hne hfront hhead]
    rw [mapError_map, Option.map_some]
    dsimp only
    -- the reading names the whole text, and its fields are those of the shorter one
    rw [read_shift u, Match.shift, htrim]
    cases (read l u m).mapError (Fault.quoting (front ++ u)) <;> rfl

/-- A time behind the seam is cut off as it is without what comes before. -/
theorem split_append (hc : IsForeign l.markers c) {front : Text} (hne : front ≠ [])
    (hfront : ∀ d ∈ front.head?, ¬ Text.isBlank d = true) (u : Text) :
    split l (front ++ c :: u)
      = ((split l (c :: u)).mapError (Fault.quoting (front ++ c :: u))).map fun (time, rest) =>
          (time, front ++ rest) :=
  split_append_of_find? hne hfront ⟨c, rfl, hc.not_isBlank⟩ (find?_append hc front u)
    fun _ => start_pos_of_find? hc

/-- What is left before a time begins as the text does and ends in no blank. -/
theorem of_split_eq_ok (hc : IsForeign l.markers c) (hu : Text.IsTight (c :: u)) {time : Option TimeOfDay}
    {rest : Text} (h : split l (c :: u) = .ok (time, rest)) : rest.head? = some c ∧ Text.IsTight rest := by
  unfold split at h
  cases hfind : find? l (c :: u) with
  | none =>
    rw [hfind, Except.ok.injEq, Prod.mk.injEq] at h
    exact h.2 ▸ ⟨rfl, hu⟩
  | some m =>
    rw [hfind] at h
    obtain ⟨time, -, heq⟩ := map_eq_ok_iff.mp h
    rw [← (Prod.mk.inj heq).2]
    obtain ⟨n, hn⟩ := Nat.exists_eq_succ_of_ne_zero (start_pos_of_find? hc hfind).ne'
    obtain ⟨-, -, -, -, htight, -⟩ := Text.exists_trim ((c :: u).take m.start)
    exact ⟨hn ▸ Text.head?_trim_cons hc.not_isBlank, htight⟩

end TrailingTime

/-! ## Date texts -/

namespace Resolver

theorem finish_append {start i : Instant} {rest u : Text} (h : finish l start rest = .ok i)
    (hrest : IsUnmarked rest) {b : Char} (hb : Text.isBlank b = true) (hne : u ≠ [])
    (hu : ∀ c ∈ u.getLast?, ¬ Text.isBlank c = true) :
    finish l start (rest ++ b :: u) = finish l i u := by
  have happly : Part.applyAll l start rest = .ok i := by
    rw [finish, splitMarker_of_isUnmarked hrest] at h
    obtain ⟨moved, hmoved, hworkday⟩ := bind_eq_ok_iff.mp h
    exact hworkday ▸ hmoved
  -- a marker at the end is that of the second text, and the first one has none to be hidden
  obtain ⟨body, marked, -, hfinish⟩ := exists_finish_append hne hu
  have hboth := hfinish l start (rest ++ [b])
  have hsecond : finish l i u = _ := hfinish l i []
  rw [List.append_assoc, List.append_assoc, List.singleton_append, List.singleton_append,
    Part.applyAll_append happly hb] at hboth
  exact hboth.trans hsecond.symm

theorem resolveDate_append_blank {r : Resolver} (hplain : r.localization.IsPlain)
    (hlayout : r.localization.HasLayout separator order) (hseparator : IsDateSeparator separator)
    {t u : Text} {i : Instant} (h : r.resolveDate t = .ok i) (ht : IsUnmarked t) {b : Char}
    (hb : Text.isBlank b = true) (hne : u ≠ []) (hu : ∀ c ∈ u.getLast?, ¬ Text.isBlank c = true) :
    r.resolveDate (t ++ b :: u) = finish r.localization i u := by
  rw [resolveDate_eq_finish] at h
  obtain ⟨⟨date, rest⟩, hsplit, hfinish⟩ := bind_eq_ok_iff.mp h
  have hsuffix := (AbsoluteDate.suffix_of_split hlayout hsplit).trans (dropToday_suffix _ t)
  rw [resolveDate_append hplain hlayout (isSeam_of_isBlank hseparator.not_isBlank u hb), hsplit]
  exact finish_append hfinish (ht.of_suffix hsuffix) hb hne hu

/-- A text that begins with a sign has no keyword for today and no date. -/
theorem resolveDate_of_isSign {r : Resolver} (hplain : r.localization.IsPlain)
    (hlayout : r.localization.HasLayout separator order) {u : Text}
    (hsign : ∃ c ∈ u.head?, Tokens.isSign c = true) :
    r.resolveDate u = finish r.localization (r.startOf none) u := by
  obtain ⟨d, hd, hsign⟩ := hsign
  have hsymbol : ∀ c ∈ u.head?, ¬ Text.isLetter c = true ∧ ¬ Text.isDecimal c = true := fun c hc =>
    Written.not_of_isSign_or_eq (Or.inl (Option.mem_unique hd hc ▸ hsign))
  rw [resolveDate_eq_finish, dropToday_of_head? hplain fun c hc => (hsymbol c hc).1,
    AbsoluteDate.split_of_head? hlayout _ fun c hc => (hsymbol c hc).2]
  rfl

/-! ## Whole shortcuts -/

theorem covers_of_isSign {c : Char} (h : Tokens.isSign c = true) :
    TrailingTime.symbolRanges.covers c.toNat = true := by
  simp only [Tokens.isSign, Bool.or_eq_true, beq_iff_eq] at h
  rcases h with rfl | rfl <;> decide

theorem exists_normalize_of_isSign {u : Text} (hu : Text.trim u = u)
    (hsign : ∃ c ∈ u.head?, Tokens.isSign c = true) :
    ∃ c v, Text.normalize u = c :: v ∧ Tokens.isSign c = true ∧ Text.IsTight (c :: v) := by
  obtain ⟨c, hc, hsign⟩ := hsign
  obtain ⟨v, rfl⟩ := List.head?_eq_some_iff.mp hc
  have hnormal : Text.normalize (c :: v) = c :: Text.lowerFrom [c] v := by
    rw [Text.normalize_of_trim_eq hu, Text.lower,
      Text.lowerFrom_cons_of_lowerChar (Tokens.lowerChar_of_isSign hsign)]
  exact ⟨c, _, hnormal, hsign, hnormal ▸ Text.isTight_normalize _⟩

theorem normalize_append_blank {s u : Text} (hs : Text.trim s = s) (hne : s ≠ []) (hu : Text.trim u = u)
    (hhead : ∃ c ∈ u.head?, ¬ Text.isBlank c = true) :
    Text.normalize (s ++ ' ' :: u) = Text.normalize s ++ ' ' :: Text.normalize u := by
  have hfront := (Text.isTight_of_trim_eq hs).head_append hne [' ']
  have htrim := Text.trim_append_left (by simp) hfront hhead
  rw [hu, List.append_assoc, List.singleton_append] at htrim
  rw [Text.normalize_of_trim_eq htrim, Text.normalize_of_trim_eq hs, Text.normalize_of_trim_eq hu,
    Text.lower_append_blank (by decide)]

theorem of_split_eq_ok {r : Resolver} (hplain : r.localization.IsPlain) {u : Text}
    (hu : Text.trim u = u) (hsign : ∃ c ∈ u.head?, Tokens.isSign c = true) {time : Option TimeOfDay}
    {rest : Text} (h : r.split u = .ok (time, rest)) :
    (∃ c ∈ rest.head?, Tokens.isSign c = true) ∧ Text.IsTight rest := by
  obtain ⟨c, v, hv, hc, htight⟩ := exists_normalize_of_isSign hu hsign
  have hsplit := (split_eq_ok_iff.mp h).2
  rw [hv] at hsplit
  obtain ⟨hhead, hrest⟩ := TrailingTime.of_split_eq_ok
    (TrailingTime.isForeign_of_symbol hplain.markers (covers_of_isSign hc)) htight hsplit
  exact ⟨⟨c, hhead, hc⟩, hrest⟩

theorem split_append_blank {r : Resolver} (hplain : r.localization.IsPlain) {s u : Text}
    (hs : Text.trim s = s) (hne : s ≠ []) (hu : Text.trim u = u)
    (hsign : ∃ c ∈ u.head?, Tokens.isSign c = true) : r.split (s ++ ' ' :: u)
      = ((r.split u).mapError (Failure.quoting (Text.normalize (s ++ ' ' :: u)))).map
          fun (time, rest) => (time, Text.normalize s ++ ' ' :: rest) := by
  obtain ⟨d, hd, hsign'⟩ := hsign
  have hhead : ¬ Text.isBlank d = true := fun h => Tokens.not_isSign_of_isBlank h hsign'
  have hwhole := normalize_append_blank hs hne hu ⟨d, hd, hhead⟩
  obtain ⟨c, v, hv, hc, -⟩ := exists_normalize_of_isSign hu ⟨d, hd, hsign'⟩
  have hforeign := TrailingTime.isForeign_of_symbol hplain.markers (covers_of_isSign hc)
  have hfront := (Text.isTight_normalize s).head_append (Text.normalize_ne_nil_of_trim_eq hs hne) [' ']
  have hsplit := TrailingTime.split_append hforeign (by simp) hfront v
  rw [List.append_assoc, List.singleton_append] at hsplit
  have hempty : (Text.normalize s ++ ' ' :: c :: v).isEmpty = false := by simp
  unfold split
  rw [hwhole, hv]
  simp only [hempty, hsplit]
  cases TrailingTime.split r.localization (c :: v) with
  | error f => rfl
  | ok found => simp [Except.map, mapError_ok]

/-- The time of a result is lost when the next shortcut starts from it. -/
theorem startOf_of_resolveDate {r : Resolver} (hr : r.reference.offset = some 0) {t : Text}
    {j : Instant} (hj : r.resolveDate t = .ok j) (time : Option TimeOfDay) :
    startOf { r with reference := r.settleTime time j } none = j := by
  have hmidnight := eq_ofDate_of_resolveDate hr hj
  have hoffset : (r.settleTime time j).offset = some 0 := by
    rw [offset_settleTime, hmidnight, Instant.ofDate]
  rw [startOf_eq hoffset, Option.getD_none, date_settleTime]
  exact hmidnight.symm

theorem resolve_append_blank {r : Resolver} (hplain : r.localization.IsPlain)
    (hlayout : r.localization.HasLayout separator order) (hseparator : IsDateSeparator separator)
    (hr : r.reference.offset = some 0) {s u : Text} {i : Instant} (hs : Text.trim s = s)
    (hi : r.resolve s = .ok i) (htime : TrailingTime.IsAbsent r.localization s)
    (hlast : s.getLast? ≠ some workdayMarker) (hu : Text.trim u = u)
    (hsign : ∃ c ∈ u.head?, Tokens.isSign c = true) :
    r.resolve (s ++ ' ' :: u) = (resolve { r with reference := i } u).mapError
      (Failure.quoting (Text.normalize (s ++ ' ' :: u))) := by
  have hne : s ≠ [] := by
    rintro rfl
    have hempty : r.resolve [] = .error (.fault (.emptyShortcut [])) := rfl
    simp [hempty] at hi
  rw [resolve_of_isAbsent (Text.normalize_ne_nil_of_trim_eq hs hne) htime] at hi
  obtain ⟨j, hj, rfl⟩ := map_eq_ok_iff.mp hi
  have hstart := startOf_of_resolveDate hr hj none
  -- the seam leaves the same time and the same rest, and the rest has a sign and no date
  let r' : Resolver := { r with reference := r.settleTime none j }
  have hsplit : r'.split u = r.split u := rfl
  rw [resolve_eq, resolve_eq, split_append_blank hplain hs hne hu hsign, hsplit]
  cases h : r.split u with
  | error => rfl
  | ok found =>
    obtain ⟨time, rest⟩ := found
    obtain ⟨hhead, htight⟩ := of_split_eq_ok hplain hu hsign h
    have hne' : rest ≠ [] := by
      rintro rfl
      simp at hhead
    have hfirst : r.instantOf (Text.normalize s ++ ' ' :: rest) = finish r.localization j rest := by
      rw [instantOf, if_neg (by simp), resolveDate_append_blank hplain hlayout hseparator hj
        (isUnmarked_normalize hs hlast) (by decide) hne' htight.last]
    have hsecond : r'.instantOf rest = finish r.localization j rest := by
      rw [instantOf, if_neg (by simpa using hne'), resolveDate_of_isSign (r := r') hplain hlayout hhead]
      exact congrArg (finish r.localization · rest) hstart
    change (r.instantOf _).map (r.settleTime time)
      = ((r'.instantOf rest).map (r.settleTime time)).mapError _
    rw [hfirst, hsecond, mapError_map, (faultsIn_finish _ _ _).mapError_quoting]

/-- A shortcut and, behind a space, a second one that begins with a sign: the second one is resolved
against the result of the first. Only the fault of a wrong minute or second quotes them both. -/
theorem resolveOnce_chain {tag : Text} {l : Localization} (hl : (tag, l) ∈ Localization.builtin)
    {reference i : Instant} {defaultTime s u : Text} (hs : Text.trim s = s)
    (hi : resolveOnce l reference defaultTime s = .ok i) (htime : TrailingTime.IsAbsent l s)
    (hlast : s.getLast? ≠ some workdayMarker) (hu : Text.trim u = u)
    (hsign : ∃ c ∈ u.head?, Tokens.isSign c = true) :
    resolveOnce l reference defaultTime (s ++ ' ' :: u) = (resolveOnce l i defaultTime u).mapError
      (Failure.quoting (Text.normalize (s ++ ' ' :: u))) := by
  obtain ⟨separator, order, hlayout⟩ := Localization.exists_mem_layouts hl
  obtain ⟨r, hbuild, hresolve⟩ := bind_eq_ok_iff.mp hi
  obtain ⟨rfl, hutc, hdefault⟩ := build_eq_ok hbuild
  have hoffset := (Instant.toUtc_eq_ok hutc).1
  have hsecond : build r.localization i defaultTime = .ok { r with reference := i } :=
    build_of_eq_ok (r := { r with reference := i })
      (Instant.toUtc_of_utc (offset_of_resolve hoffset hresolve)) hdefault
  rw [resolveOnce, resolveOnce, hbuild, hsecond]
  exact resolve_append_blank (Localization.isPlain_of_mem hlayout)
    (Localization.hasLayout_of_mem hlayout) (Localization.isDateSeparator_of_mem hlayout)
    hoffset hs hresolve htime hlast hu hsign

/-- A month after the end of May comes a Sunday. -/
theorem resolveOnce_chain_over_month_end :
    let reference : Instant := ⟨⟨2024, 5, 15, by decide, by decide, by decide⟩, ⟨12, 34, 56⟩, .zero, none⟩
    ∃ i, (("en" : Text), Localization.english) ∈ Localization.builtin ∧ Text.trim "5/31" = "5/31" ∧
      resolveOnce .english reference "9:30" "5/31" = .ok i ∧
      TrailingTime.IsAbsent .english "5/31" ∧ ("5/31" : Text).getLast? ≠ some workdayMarker ∧
      Text.trim "+1m. 5:30 pm" = "+1m. 5:30 pm" ∧
      (∃ c ∈ ("+1m. 5:30 pm" : Text).head?, Tokens.isSign c = true) ∧
      resolveOnce .english reference "9:30" ("5/31" ++ ' ' :: "+1m. 5:30 pm")
        = (resolveOnce .english i "9:30" "+1m. 5:30 pm").mapError
            (Failure.quoting (Text.normalize ("5/31" ++ ' ' :: "+1m. 5:30 pm"))) := by
  let reference : Instant := ⟨⟨2024, 5, 15, by decide, by decide, by decide⟩, ⟨12, 34, 56⟩, .zero, none⟩
  have hl : (("en" : Text), Localization.english) ∈ Localization.builtin := List.mem_cons_self
  have hs : Text.trim "5/31" = "5/31" := by decide
  have hi : resolveOnce .english reference "9:30" "5/31"
      = .ok ((Instant.ofDate ⟨2024, 5, 31, by decide, by decide, by decide⟩).atTime ⟨9, 30, 0⟩) := by
    set_option maxRecDepth 1000 in
    decide
  have htime : TrailingTime.IsAbsent .english "5/31" := by
    unfold TrailingTime.IsAbsent
    decide
  have hu : Text.trim "+1m. 5:30 pm" = "+1m. 5:30 pm" := by decide
  have hsign : ∃ c ∈ ("+1m. 5:30 pm" : Text).head?, Tokens.isSign c = true := ⟨'+', rfl, rfl⟩
  exact ⟨_, hl, hs, hi, htime, by decide, hu, hsign, resolveOnce_chain hl hs hi htime (by decide) hu hsign⟩

/-- A minute above 59 in the second shortcut: the fault names the text from the first one on. -/
theorem resolveOnce_chain_quotes_both :
    let reference : Instant := .ofDate ⟨2024, 5, 15, by decide, by decide, by decide⟩
    (("en" : Text), Localization.english) ∈ Localization.builtin ∧ Text.trim "t" = "t" ∧
      resolveOnce .english reference "" "t" = .ok reference ∧ TrailingTime.IsAbsent .english "t" ∧
      ("t" : Text).getLast? ≠ some workdayMarker ∧ Text.trim "+1d 9:75" = "+1d 9:75" ∧
      (∃ c ∈ ("+1d 9:75" : Text).head?, Tokens.isSign c = true) ∧
      resolveOnce .english reference "" ("t" ++ ' ' :: "+1d 9:75")
        ≠ resolveOnce .english reference "" "+1d 9:75" := by
  let reference : Instant := .ofDate ⟨2024, 5, 15, by decide, by decide, by decide⟩
  have hboth : resolveOnce .english reference "" ("t" ++ ' ' :: "+1d 9:75")
      = .error (.fault (.invalidTime "t +1d 9:75" (some "9:75"))) := by
    decide
  have hsecond : resolveOnce .english reference "" "+1d 9:75"
      = .error (.fault (.invalidTime "+1d 9:75" (some "9:75"))) := by
    decide
  have hfirst : resolveOnce .english reference "" "t" = .ok reference := by
    set_option maxRecDepth 1000 in
    decide
  have htime : TrailingTime.IsAbsent .english "t" := by
    unfold TrailingTime.IsAbsent
    decide
  refine ⟨List.mem_cons_self, by decide, hfirst, htime, by decide, by decide, ⟨'+', rfl, rfl⟩, ?_⟩
  rw [hboth, hsecond]
  decide

end Resolver

end DateShorthand
