import DateShorthand.Proofs.Locale.Accepted
import DateShorthand.Proofs.Regex.LetterCase
import DateShorthand.Proofs.Shortcut.AbsoluteDate

/-!
# Letter case in date patterns

A date pattern that treats both cases of an ASCII letter alike matches a text in either case, so it
matches what is left of a shortcut in lower case. A pattern is of that kind when it is marked so, and the
built-in ones are, which name no letter. A pattern that names a capital is not.
-/

namespace DateShorthand

namespace Regex

def Compiled.places? (r : Compiled) (t : Text) : Option Mark := r.tree.places? r.caseless t

/-- Every test of the expression, as it was compiled, treats both cases of an ASCII letter alike. -/
def Compiled.IgnoresCase (r : Compiled) : Prop := r.tree.IgnoresCase r.caseless

theorem Compiled.ignoresCase_of_caseless {r : Compiled} (h : r.caseless = true) : r.IgnoresCase := by
  rw [IgnoresCase, h]
  exact Regex.ignoresCase_of_caseless r.tree

/-- With a mark in front, every expression is read as the same tree with the same groups, and ignores
case. -/
theorem compile_marked {source : Text} {r : Compiled} (h : compile source = .ok r) :
    ∃ marked, compile ('(' :: '?' :: 'i' :: ')' :: source) = .ok marked ∧
      marked.tree = r.tree ∧ marked.groups = r.groups ∧ marked.IgnoresCase := by
  obtain ⟨⟨rows, s⟩, hrows, h⟩ := bind_eq_ok_iff.mp h
  dsimp only at h
  split at h
  · rename_i hend
    obtain rfl := Except.ok.inj h
    refine ⟨⟨.ofList (ofAlternatives rows), s.groups, true⟩, ?_, rfl, rfl, Compiled.ignoresCase_of_caseless rfl⟩
    exact bind_eq_ok_iff.mpr ⟨(rows, s), hrows, if_pos hend⟩
  · exact absurd h nofun

end Regex

namespace DatePattern

theorem ignoresCase_separated {separator : Char} (h : ¬ separator.isAlpha = true) :
    (separated separator).IgnoresCase false :=
  Regex.ignoresCase_iff_isBlindTo.mpr
    (isBlindTo_separated (Regex.charClass_toLower .decimal) (Regex.ignoresCase_char h))

/-- Between the digits of the built-in patterns stands no letter. -/
theorem ignoresCase_of_mem_builtin {tag : Text} {l : Localization} (hl : (tag, l) ∈ Localization.builtin)
    {p : DatePattern} (hp : p ∈ l.datePatterns) : p.regex.IgnoresCase := by
  simp only [Localization.builtin, List.mem_cons, Prod.mk.injEq, List.not_mem_nil, or_false] at hl
  rcases hl with ⟨-, rfl⟩ | ⟨-, rfl⟩ | ⟨-, rfl⟩ | ⟨-, rfl⟩
  all_goals
    obtain rfl := List.mem_singleton.mp hp
    exact ignoresCase_separated (by decide)

/-- A pattern that ignores case matches two texts that differ in case alike: in both or in neither, up to
the same place, and with its groups at the same places. So it finds a date in lower case where it matches
the text as it was typed. It ignores case just when all its parts match alike too. -/
theorem match_ignores_case (p : DatePattern) :
    (∀ t, p.regex.matchStart? t = (p.regex.places? t).map (Regex.Mark.toMatch t)) ∧
    (p.regex.IgnoresCase ↔ ∀ part ∈ p.regex.tree.parts, part.SamePlaces p.regex.caseless) ∧
    (p.regex.IgnoresCase →
      (∀ s t, Text.EqUpToCase s t → p.regex.places? s = p.regex.places? t ∧
        (p.regex.matchStart? s).isSome = (p.regex.matchStart? t).isSome) ∧
      ∀ (l : Localization) (s : Text), p ∈ l.datePatterns → Text.EqUpToCase s (Text.lower s) →
        (p.regex.matchStart? s).isSome → (AbsoluteDate.find? l (Text.lower s)).isSome) := by
  have hplaces : ∀ t, p.regex.matchStart? t = (p.regex.places? t).map (Regex.Mark.toMatch t) :=
    Regex.matchStart?_eq_places? p.regex.tree p.regex.caseless
  refine ⟨hplaces, Regex.ignoresCase_iff, fun hcase => ?_⟩
  have hsame : ∀ s t, Text.EqUpToCase s t → p.regex.places? s = p.regex.places? t ∧
      (p.regex.matchStart? s).isSome = (p.regex.matchStart? t).isSome := by
    intro s t h
    have heq : p.regex.places? s = p.regex.places? t := Regex.places?_of_eqUpToCase hcase h
    exact ⟨heq, by rw [hplaces, hplaces, heq, Option.isSome_map, Option.isSome_map]⟩
  refine ⟨hsame, fun l s hmem hlower hsome => ?_⟩
  rw [AbsoluteDate.find?, List.findSome?_isSome_iff]
  refine ⟨p, hmem, ?_⟩
  rw [Option.isSome_map, ← (hsame s _ hlower).2, hsome]

/-! ### A capital between two digits -/

/-- A digit, a capital and a digit, with or without a mark in front. -/
def capitalT (marked : Bool) : DatePattern where
  source := if marked then "(?i)(\\d)T(\\d)" else "(\\d)T(\\d)"
  regex := ⟨.ofList [.group 1 (.ofList [.ofClass .decimal false]), .char 'T',
    .group 2 (.ofList [.ofClass .decimal false])], 2, marked⟩
  order := .dayFirst
  two_le_groups := Nat.le_refl 2

theorem match_ignores_case_capital :
    ofJson (.obj [("regex", .str "(?i)(\\d)T(\\d)")]) = .ok (capitalT true) ∧
      (capitalT true).regex.IgnoresCase ∧
      (capitalT true).regex.places? "5t3" = some ⟨3, [⟨2, 2, 3⟩, ⟨1, 0, 1⟩]⟩ ∧
      (AbsoluteDate.find? { Localization.bare with datePatterns := [capitalT true] }
        (Text.lower "5T3")).isSome := by
  have hcase : (capitalT true).regex.IgnoresCase := Regex.Compiled.ignoresCase_of_caseless rfl
  obtain ⟨hmatch, -, hcases⟩ := match_ignores_case (capitalT true)
  obtain ⟨hsame, hfind⟩ := hcases hcase
  have htyped : (capitalT true).regex.places? "5T3" = some ⟨3, [⟨2, 2, 3⟩, ⟨1, 0, 1⟩]⟩ := by
    decide
  have hsome : ((capitalT true).regex.matchStart? "5T3").isSome := by
    rw [hmatch, htyped]
    rfl
  exact ⟨by decide +kernel, hcase, (hsame "5T3" "5t3" (by decide)).1 ▸ htyped,
    hfind _ _ List.mem_cons_self (by decide) hsome⟩

/-- Without a mark the pattern matches the text as it was typed, and nothing in lower case. -/
theorem match_tells_case_apart :
    ofJson (.obj [("regex", .str "(\\d)T(\\d)")]) = .ok (capitalT false) ∧
      Text.EqUpToCase "5T3" "5t3" ∧ Text.lower "5T3" = "5t3" ∧
      ((capitalT false).regex.matchStart? "5T3").isSome ∧
      (capitalT false).regex.matchStart? "5t3" = none ∧
      AbsoluteDate.find? { Localization.bare with datePatterns := [capitalT false] } "5t3" = none := by
  refine ⟨?_, ?_, ?_, ?_, ?_, ?_⟩
  all_goals decide +kernel

end DatePattern

end DateShorthand
