import DateShorthand.Proofs.Locale.Accepted
import DateShorthand.Proofs.Regex.Replacement
import DateShorthand.Proofs.Shortcut.Escapes
import DateShorthand.Proofs.Shortcut.RenderedParts
import DateShorthand.Proofs.Text.Scripts
import DateShorthand.Report.Basic
import Mathlib.Data.List.Find

/-!
# Shortcuts in digits of any script

Every stage reads a digit by its value alone. When the digits of a shortcut give way to those of another
script, each stage goes the same way and returns the same, and what fails quotes the replaced text.
-/

namespace DateShorthand

open Text (plainDigit)

/-! ## Faults -/

/-- The fault as it quotes a text in plain digits. A unit has no digits, and an ordinal and its month are
written anew. -/
def Fault.inPlainDigits : Fault → Fault
  | emptyShortcut shortcut => emptyShortcut (shortcut.map plainDigit)
  | invalidPart part => invalidPart (part.map plainDigit)
  | invalidTime shortcut time => invalidTime (shortcut.map plainDigit) (time.map (·.map plainDigit))
  | invalidHour hour => invalidHour (hour.map plainDigit)
  | invalidMarkedHour hour => invalidMarkedHour (hour.map plainDigit)
  | dateOutOfRange fragment => dateOutOfRange (fragment.map plainDigit)
  | f => f

def Failure.inPlainDigits : Failure → Failure
  | fault f => fault f.inPlainDigits
  | number f => number f.inPlainDigits
  | calendar f => calendar f

/-- What a failure is: a fault of some kind, a number that is missing or cannot be read, or a day that does
not exist. -/
inductive FailureKind where
  | fault (kind : ErrorKind)
  | missingNumber
  | unreadableNumber
  | calendar (f : CalendarFault)
deriving DecidableEq, Repr

def Failure.kind : Failure → FailureKind
  | fault f => .fault f.kind
  | number .absent => .missingNumber
  | number (.notDecimal _) => .unreadableNumber
  | number (.tooLong _) => .unreadableNumber
  | calendar f => .calendar f

theorem Failure.kind_inPlainDigits (e : Failure) : e.inPlainDigits.kind = e.kind := by
  cases e with
  | fault f => cases f <;> rfl
  | number f => cases f <;> rfl
  | calendar f => rfl

theorem Failure.inPlainDigits_eq_weekdayNotFound_iff {e : Failure} {ordinal month : Text} :
    e.inPlainDigits = .fault (.weekdayNotFound ordinal month) ↔
      e = .fault (.weekdayNotFound ordinal month) := by
  cases e with
  | fault f => cases f <;> simp [inPlainDigits, Fault.inPlainDigits]
  | number f => simp [inPlainDigits]
  | calendar f => simp [inPlainDigits]

theorem Text.toIntOrFail_map (t : Text) :
    toIntOrFail (t.map plainDigit) = t.toIntOrFail.mapError Failure.inPlainDigits := by
  unfold toIntOrFail
  rw [toInt_map]
  cases t.toInt <;> rfl

theorem CalendarFault.guard_map {α : Type} (fragment : Text) (x : Except CalendarFault α) :
    CalendarFault.guard (fragment.map plainDigit) x
      = (CalendarFault.guard fragment x).mapError Failure.inPlainDigits := by
  cases x <;> rfl

/-! ## Expressions -/

namespace Regex

theorem keepsEdges_plainDigit : KeepsEdges plainDigit where
  isWordChar_eq := Text.isWordChar_plainDigit
  eq_break := Text.beq_plainDigit (by decide)

variable {caseless : Bool}

theorem isBlindTo_char {p : Char} (hp : ¬ Text.isDecimal p = true) :
    (char p).IsBlindTo plainDigit caseless := by
  intro c
  unfold charHolds
  split
  · exact Text.sameLetter_plainDigit hp c
  · rw [BEq.comm, Text.beq_plainDigit hp, BEq.comm]

end Regex

/-- No decimal digit stands in what the localization looks for, and a date pattern reads a digit as a digit
only. -/
structure Localization.IgnoresScripts (l : Localization) : Prop where
  markers : ∀ w ∈ l.markers, ∀ c ∈ w, ¬ Text.isDecimal c = true
  today : ∀ k ∈ l.today, ∀ c ∈ k, ¬ Text.isDecimal c = true
  datePatterns : ∀ p ∈ l.datePatterns, p.regex.tree.IsBlindTo plainDigit p.regex.caseless

theorem Localization.ignoresScripts_of_mem {tag : Text} {l : Localization} (hl : (tag, l) ∈ builtin) :
    l.IgnoresScripts := by
  obtain ⟨separator, order, hlayout⟩ := exists_mem_layouts hl
  have hplain := isPlain_of_mem hlayout
  obtain ⟨⟨p, hpatterns, hregex, -⟩, hseparator⟩ := hasLayout_of_mem hlayout
  refine ⟨hplain.markers.not_isDecimal, fun k hk c hc => ?_, fun q hq => ?_⟩
  · have hkeyword : k ∈ l.keywords .today := hk
    exact Text.not_isDecimal_of_isLetter (hplain.isLetter hkeyword c hc)
  · rw [hpatterns, List.mem_singleton] at hq
    rw [hq, hregex]
    exact DatePattern.isBlindTo_separated Text.isDecimal_plainDigit (Regex.isBlindTo_char hseparator)

variable {l : Localization}

/-! ## Times -/

namespace TrailingTime

open Regex

theorem isBlindTo_timeRegex {markers : List Text} (h : ∀ w ∈ markers, ∀ c ∈ w, ¬ Text.isDecimal c = true) :
    (timeRegex markers).IsBlindTo plainDigit true := by
  have hblanks : ∀ min, (blanks min).IsBlindTo plainDigit true :=
    fun _ => isBlindTo_ofClass (k := .blank) Text.isBlank_plainDigit false
  have hfield : ∀ index, (sexagesimal index).IsBlindTo plainDigit true :=
    fun _ => ⟨isBlindTo_char (by decide), isBlindTo_decimals Text.isDecimal_plainDigit 2 2, trivial⟩
  have hmarker : (oneOf (markers.map .literal)).IsBlindTo plainDigit true := by
    refine isBlindTo_oneOf fun r hr => ?_
    obtain ⟨w, hw, rfl⟩ := List.mem_map.mp hr
    exact isBlindTo_literal fun p hp => isBlindTo_char (h w hw p hp)
  unfold timeRegex
  rw [isBlindTo_ofList]
  intro r hr
  simp only [List.mem_append, List.mem_cons, List.not_mem_nil, or_false] at hr
  rcases hr with (hr | hr) | rfl
  · rcases hr with rfl | rfl | rfl | rfl
    · exact ⟨trivial, hblanks 1⟩
    · exact isBlindTo_decimals Text.isDecimal_plainDigit 1 2
    · exact hfield 2
    · exact hfield 3
  · split at hr
    · exact absurd hr List.not_mem_nil
    · simp only [List.mem_cons, List.not_mem_nil, or_false] at hr
      rcases hr with rfl | rfl
      · exact hblanks 0
      · exact hmarker
  · trivial

variable (h : l.IgnoresScripts)
include h

theorem find?_map (t : Text) : find? l (t.map plainDigit) = (find? l t).map (Match.map plainDigit) :=
  search?_map keepsEdges_plainDigit (isBlindTo_timeRegex h.markers) t

theorem markedHour_map (written : Text) (marker : Option Text) :
    markedHour l (written.map plainDigit) (marker.map (·.map plainDigit))
      = (markedHour l written marker).mapError Fault.inPlainDigits := by
  cases marker with
  | none => simp [markedHour, numberOf_map, mapError_ok]
  | some w =>
    have hpm : l.pm.contains (Text.lower (w.map plainDigit)) = l.pm.contains (Text.lower w) := by
      rw [Text.lower_map]
      apply Text.contains_map
      intro v hv
      exact h.markers v (Localization.mem_markers.mpr (List.mem_append_right _ hv))
    simp only [markedHour, Option.map_some, numberOf_map, hpm]
    split <;> rfl

theorem read_map (t : Text) (m : Match) :
    read l (t.map plainDigit) (m.map plainDigit) = (read l t m).mapError Fault.inPlainDigits := by
  have hgroup : ∀ index, ((m.map plainDigit).group? index).getD []
      = ((m.group? index).getD []).map plainDigit := by
    intro index
    rw [Match.group?_map]
    cases m.group? index <;> rfl
  unfold read
  simp only [hgroup, Match.covered_map, Text.trim_map, numberOf_map]
  split
  · rfl
  · rw [Match.group?_map, markedHour_map h, mapError_bind]
    refine congrArg (_ >>= ·) (funext fun hour => ?_)
    split <;> rfl

theorem split_map (t : Text) : split l (t.map plainDigit)
    = ((split l t).mapError Fault.inPlainDigits).map fun (time, rest) => (time, rest.map plainDigit) := by
  unfold split
  rw [find?_map h]
  cases find? l t with
  | none => rfl
  | some m =>
    simp only [Option.map_some, read_map h, Match.start_map, ← List.map_take, Text.trim_map]
    cases read l t m <;> rfl

end TrailingTime

/-! ## Dates -/

namespace AbsoluteDate

open Regex

theorem required_map (written : Option Text) :
    required (written.map (·.map plainDigit)) = (required written).mapError Failure.inPlainDigits := by
  cases written with
  | none => rfl
  | some t => exact Text.toIntOrFail_map t

theorem yearOf_map (default : Nat) (written : Option Text) : yearOf default (written.map (·.map plainDigit))
    = (yearOf default written).mapError Failure.inPlainDigits := by
  match written with
  | none => rfl
  | some [] => rfl
  | some (c :: t) =>
    have hnumber := Text.toIntOrFail_map (c :: t)
    simp only [List.map_cons] at hnumber
    simp only [yearOf, Option.map_some, List.map_cons, hnumber, List.length_cons, List.length_map, mapError_map]

theorem read_map (defaultYear : Nat) (p : DatePattern) (m : Match) : read defaultYear p (m.map plainDigit)
    = (read defaultYear p m).mapError Failure.inPlainDigits := by
  unfold read
  simp only [Match.group?_map, required_map, yearOf_map, mapError_bind]
  refine congrArg (_ >>= ·) (funext fun first => congrArg (_ >>= ·) (funext fun second => ?_))
  exact congrArg (_ >>= ·) (funext fun year => CalendarFault.guard_map m.covered _)

variable (h : l.IgnoresScripts)
include h

theorem find?_map (t : Text) :
    find? l (t.map plainDigit) = (find? l t).map fun (p, m) => (p, m.map plainDigit) := by
  have hmatch : ∀ p ∈ l.datePatterns, p.regex.matchStart? (t.map plainDigit)
      = (p.regex.matchStart? t).map (Match.map plainDigit) :=
    fun p hp => matchStart?_map keepsEdges_plainDigit (h.datePatterns p hp) t
  unfold find?
  generalize l.datePatterns = ps at hmatch
  induction ps with
  | nil => rfl
  | cons p ps ih =>
    obtain ⟨hp, hps⟩ := List.forall_mem_cons.mp hmatch
    rw [List.findSome?_cons, List.findSome?_cons, hp, ih hps]
    cases p.regex.matchStart? t <;> rfl

theorem split_map (defaultYear : Nat) (t : Text) : split l defaultYear (t.map plainDigit)
    = ((split l defaultYear t).mapError Failure.inPlainDigits).map fun (date, rest) =>
        (date, rest.map plainDigit) := by
  unfold split
  rw [find?_map h]
  cases find? l t with
  | none => rfl
  | some found =>
    obtain ⟨p, m⟩ := found
    simp only [Option.map_some, read_map, Match.after_map, Text.trimStart_map]
    cases read defaultYear p m <;> rfl

end AbsoluteDate

/-! ## Parts -/

namespace Tokens

theorem isSign_plainDigit (c : Char) : isSign (plainDigit c) = isSign c := by
  rw [isSign, isSign, Text.beq_plainDigit (by decide), Text.beq_plainDigit (by decide)]

theorem isLoneSign_map (t : Text) : isLoneSign (t.map plainDigit) = isLoneSign t := by
  match t with
  | [] => rfl
  | [c] => exact isSign_plainDigit c
  | _ :: _ :: _ => rfl

theorem spaced_map (t : Text) : spaced (t.map plainDigit) = (spaced t).map plainDigit := by
  have hblank : plainDigit ' ' = ' ' := by decide
  unfold spaced
  rw [List.flatMap_map, List.map_flatMap]
  refine List.flatMap_congr fun c _ => ?_
  rw [isSign_plainDigit]
  split <;> simp [hblank]

theorem glue_map (words : List Text) : glue (words.map (·.map plainDigit))
    = ((glue words).mapError Fault.inPlainDigits).map (·.map (·.map plainDigit)) := by
  fun_induction glue words with
  | case1 => rfl
  | case2 word hsign => simp [glue, isLoneSign_map, hsign]; rfl
  | case3 word hsign => simp [glue, isLoneSign_map, hsign]; rfl
  | case4 word next rest hsign ih =>
    simp only [List.map_cons, glue, isLoneSign_map, hsign, if_true, ih]
    cases glue rest <;> simp [Except.mapError, Except.map]
  | case5 word next rest hsign ih =>
    rw [List.map_cons] at ih
    simp only [List.map_cons, glue, isLoneSign_map, hsign, ih]
    cases glue (next :: rest) <;> simp [Except.mapError, Except.map]

theorem ofText_map (t : Text) : ofText (t.map plainDigit)
    = ((ofText t).mapError Fault.inPlainDigits).map (·.map (·.map plainDigit)) := by
  rw [ofText, ofText, spaced_map, Text.words_map, glue_map]

end Tokens

namespace Part

/-- The part as it is read from a text in plain digits. -/
def inPlainDigits (p : Part) : Part := { p with raw := p.raw.map plainDigit }

theorem keywordOf?_map (t : Text) : keywordOf? (t.map plainDigit) = keywordOf? t := by
  have hletters : ∀ u : Text, (if !(u.map plainDigit).isEmpty && (u.map plainDigit).all Text.isLetter then
      some (u.map plainDigit) else none) = if !u.isEmpty && u.all Text.isLetter then some u else none := by
    intro u
    have hall : (u.map plainDigit).all Text.isLetter = u.all Text.isLetter := by
      rw [List.all_map]
      exact congrArg u.all (funext Text.isLetter_plainDigit)
    rw [hall, List.isEmpty_map]
    split
    · rename_i hu
      -- letters are no digits, so the keyword stays
      rw [Bool.and_eq_true, List.all_eq_true] at hu
      have hdecimal : ∀ c ∈ u, ¬ Text.isDecimal c = true := fun c hc => Text.not_isDecimal_of_isLetter (hu.2 c hc)
      rw [(Text.map_plainDigit_eq_iff hdecimal).mpr rfl]
    · rfl
  unfold keywordOf?
  simp only [Text.getLast?_map_eq_some_iff (d := '\n') (by decide), ← List.map_dropLast,
    ← apply_ite (List.map plainDigit)]
  exact hletters _

theorem magnitudeOf_map (digits : Text) :
    magnitudeOf (digits.map plainDigit) = (magnitudeOf digits).mapError Failure.inPlainDigits := by
  unfold magnitudeOf
  rw [List.isEmpty_map, Text.toIntOrFail_map]
  split
  · rfl
  · rw [mapError_map]

theorem parse_map (token : Text) :
    parse (token.map plainDigit) = ((parse token).mapError Failure.inPlainDigits).map inPlainDigits := by
  unfold parse
  simp only [Text.splitSign_map, Text.dropWhile_map_plainDigit Text.isDecimal_plainDigit, keywordOf?_map,
    Text.takeWhile_map_plainDigit Text.isDecimal_plainDigit, magnitudeOf_map]
  split
  · rfl
  · cases magnitudeOf ((Text.splitSign token).2.takeWhile Text.isDecimal) <;> rfl

theorem applyTo_map (p : Part) (unit : CalendarUnit) (i : Instant) :
    p.inPlainDigits.applyTo unit i = (p.applyTo unit i).mapError Failure.inPlainDigits := by
  cases unit with
  | today => rfl
  | year | month | week | day => exact CalendarFault.guard_map p.raw _
  | weekday =>
    unfold applyTo Instant.nthBusinessDay
    dsimp only [inPlainDigits]
    split <;> rfl

theorem step_map (i : Instant) (token : Text) : step l i (token.map plainDigit)
    = ((step l i token).mapError Failure.inPlainDigits).map fun s => (s.1, s.2.1.inPlainDigits, s.2.2) := by
  unfold step
  rw [parse_map]
  cases parse token with
  | error e => rfl
  | ok p =>
    have hkeyword : p.inPlainDigits.keyword = p.keyword := rfl
    simp only [mapError_ok, Except.map, ok_bind, hkeyword]
    cases l.unitOf? p.keyword with
    | none => rfl
    | some unit =>
      dsimp only
      rw [applyTo_map]
      cases p.applyTo unit i <;> rfl

theorem applyTokens_map (i : Instant) (tokens : List Text) : applyTokens l i (tokens.map (·.map plainDigit))
    = (applyTokens l i tokens).mapError Failure.inPlainDigits := by
  induction tokens generalizing i with
  | nil => rfl
  | cons token rest ih =>
    rw [List.map_cons, applyTokens, applyTokens, step_map]
    exact map_mapError_bind fun s => ih s.1

theorem applyAll_map (i : Instant) (t : Text) :
    applyAll l i (t.map plainDigit) = (applyAll l i t).mapError Failure.inPlainDigits := by
  unfold applyAll
  rw [Tokens.ofText_map]
  cases Tokens.ofText t with
  | error f => rfl
  | ok tokens => exact applyTokens_map i tokens

end Part

/-! ## The whole shortcut -/

namespace Resolver

theorem splitMarker_map (t : Text) :
    splitMarker (t.map plainDigit) = ((splitMarker t).1.map plainDigit, (splitMarker t).2) := by
  unfold splitMarker
  simp only [Text.trim_map, Text.getLast?_map_eq_some_iff (d := workdayMarker) (by decide), ← List.map_dropLast]
  split <;> rfl

theorem finish_map (start : Instant) (rest : Text) :
    finish l start (rest.map plainDigit) = (finish l start rest).mapError Failure.inPlainDigits := by
  have hworkday : ∀ i wanted, toWorkday i wanted = (toWorkday i wanted).mapError Failure.inPlainDigits := by
    intro i wanted
    unfold toWorkday
    split
    · exact CalendarFault.guard_map [workdayMarker] i.closestWorkday
    · rfl
  unfold finish
  rw [splitMarker_map, Part.applyAll_map, mapError_bind]
  exact congrArg (_ >>= ·) (funext fun moved => hworkday moved _)

theorem dropToday_map (h : l.IgnoresScripts) (t : Text) :
    dropToday l (t.map plainDigit) = (dropToday l t).map plainDigit := by
  have hfind : l.todayLongestFirst.find? (·.isPrefixOf (t.map plainDigit))
      = l.todayLongestFirst.find? (·.isPrefixOf t) := by
    refine List.find?_congr fun k hk => ?_
    exact Text.isPrefixOf_map (h.today k (Localization.mem_longestFirst.mp hk)) t
  unfold dropToday
  rw [hfind]
  split
  · exact List.map_drop.symm
  · rfl

variable {r : Resolver} (h : r.localization.IgnoresScripts)
include h

theorem instantOf_map (dateText : Text) :
    r.instantOf (dateText.map plainDigit) = (r.instantOf dateText).mapError Failure.inPlainDigits := by
  unfold instantOf
  rw [List.isEmpty_map, resolveDate_eq_finish, resolveDate_eq_finish, dropToday_map h, AbsoluteDate.split_map h]
  split
  · rfl
  · exact map_mapError_bind fun (date, rest) => finish_map (r.startOf date) rest

theorem split_map (shortcut : Text) : r.split (shortcut.map plainDigit)
    = ((r.split shortcut).mapError Failure.inPlainDigits).map fun (time, rest) =>
        (time, rest.map plainDigit) := by
  unfold split
  simp only [Text.normalize_map, List.isEmpty_map, TrailingTime.split_map h]
  split
  · rfl
  · cases TrailingTime.split r.localization (Text.normalize shortcut) <;> rfl

/-- A shortcut in plain digits is resolved as it is in its own, and what fails fails alike. -/
theorem resolve_map (shortcut : Text) :
    r.resolve (shortcut.map plainDigit) = (r.resolve shortcut).mapError Failure.inPlainDigits := by
  rw [resolve_eq, resolve_eq, split_map h]
  refine map_mapError_bind fun (time, rest) => ?_
  dsimp only
  rw [instantOf_map h, mapError_map]

end Resolver

/-! ## Outcomes -/

/-- The same result, or errors of one kind; where one of them misses a business day, the other misses it in
the same month. -/
structure Alike {α : Type} (x y : Except Failure α) : Prop where
  ok_iff : ∀ a, x = .ok a ↔ y = .ok a
  kind_eq : ∀ e, x = .error e → ∃ e', y = .error e' ∧ e'.kind = e.kind
  weekdayNotFound_iff : ∀ ordinal month, x = .error (.fault (.weekdayNotFound ordinal month)) ↔
    y = .error (.fault (.weekdayNotFound ordinal month))

theorem alike_of_mapError_eq {α : Type} {x y : Except Failure α}
    (h : x.mapError Failure.inPlainDigits = y.mapError Failure.inPlainDigits) : Alike x y := by
  have hweekday : ∀ (z : Except Failure α) ordinal month, z = .error (.fault (.weekdayNotFound ordinal month)) ↔
      z.mapError Failure.inPlainDigits = .error (.fault (.weekdayNotFound ordinal month)) := by
    intro z ordinal month
    cases z with
    | error e => simp [mapError_error, Failure.inPlainDigits_eq_weekdayNotFound_iff]
    | ok a => simp [mapError_ok]
  refine ⟨fun a => ?_, fun e hx => ?_, fun ordinal month => ?_⟩
  · rw [← mapError_eq_ok_iff (f := Failure.inPlainDigits), h, mapError_eq_ok_iff]
  · rw [hx, mapError_error] at h
    obtain ⟨e', hy, hplain⟩ := mapError_eq_error_iff.mp h.symm
    exact ⟨e', hy, by rw [← e'.kind_inPlainDigits, hplain, e.kind_inPlainDigits]⟩
  · rw [hweekday x, h, ← hweekday y]

/-- Under a built-in localization two shortcuts that differ in the scripts of their digits lead to the same
instant, or fail with errors of one kind. -/
theorem Resolver.resolveOnce_of_eqUpToScript {tag : Text} {l : Localization}
    (hl : (tag, l) ∈ Localization.builtin) (reference : Instant) (defaultTime : Text) {t u : Text}
    (h : Text.EqUpToScript t u) :
    Alike (resolveOnce l reference defaultTime t) (resolveOnce l reference defaultTime u) := by
  apply alike_of_mapError_eq
  unfold resolveOnce
  rw [mapError_bind, mapError_bind]
  cases hbuild : build l reference defaultTime with
  | error e => rfl
  | ok r =>
    have hlocalization : r.localization.IgnoresScripts := by
      rw [(build_eq_ok hbuild).1]
      exact Localization.ignoresScripts_of_mem hl
    change (r.resolve t).mapError _ = (r.resolve u).mapError _
    rw [← resolve_map hlocalization, ← resolve_map hlocalization, h.map_eq]

/-- A date in Arabic digits with a day in fullwidth ones, and a business day that no month has. -/
theorem Resolver.resolveOnce_of_eqUpToScript_mixed :
    Text.EqUpToScript "٣/١٤ +２d" "3/14 +2d" ∧ Text.EqUpToScript "+３٠wd" "+30wd" ∧
      resolveOnce .english (.ofDate ⟨2024, 1, 1, by decide, by decide, by decide⟩) "" "٣/١٤ +２d"
        = .ok (.ofDate ⟨2024, 3, 16, by decide, by decide, by decide⟩) ∧
      resolveOnce .english (.ofDate ⟨2024, 1, 1, by decide, by decide, by decide⟩) "" "+３٠wd"
        = .error (.fault (.weekdayNotFound "30th" "2024-01")) := by
  have hdate : Text.EqUpToScript "٣/١٤ +２d" "3/14 +2d" := by decide
  have hweekday : Text.EqUpToScript "+３٠wd" "+30wd" := by decide
  have hl : (("en" : Text), Localization.english) ∈ Localization.builtin := List.mem_cons_self
  refine ⟨hdate, hweekday, ?_, ?_⟩
  · rw [(resolveOnce_of_eqUpToScript hl _ "" hdate).ok_iff]
    set_option maxRecDepth 1000 in
    decide
  · rw [(resolveOnce_of_eqUpToScript hl _ "" hweekday).weekdayNotFound_iff]
    decide

end DateShorthand
