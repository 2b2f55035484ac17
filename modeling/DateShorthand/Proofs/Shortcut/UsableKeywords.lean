import DateShorthand.Proofs.Locale.Accepted
import DateShorthand.Proofs.Shortcut.TokenLaws

/-!
# Usable keywords

The checks of a localization leave every keyword trimmed and in lower case, but parts are written with
letters only. A keyword of other characters passes the checks and can never be used.
-/

namespace DateShorthand

/-! ## Keywords that pass the checks -/

namespace WrittenPart

variable {l : Localization}

theorem isLower_text (p : WrittenPart l) (h : Text.IsLower p.keyword) : Text.IsLower p.text := by
  have hsign : Text.IsLower p.sign.toList := fun c hc =>
    Tokens.lowerChar_of_isSign (p.isSign c (Option.mem_toList.mp hc))
  exact hsign.append ((Text.isLower_of_isDecimal p.isDecimal).append h)

/-- Behind any sign and any number, a keyword that passes the checks makes one token and one part of the
unit that lists it first, if it is all letters and only then. -/
theorem usable_iff (hl : l.IsAccepted) (p : WrittenPart l) :
    (Tokens.ofText p.text = .ok [p.text] ∧ Part.parse p.text = .ok p.toPart ∧
      l.unitOf? p.keyword = some p.unit) ↔ ∀ c ∈ p.keyword, Text.isLetter c = true := by
  have hnormal := hl.isNormal_of_mem_keywords p.keyword_mem
  constructor
  · rintro ⟨htoken, hparse, -⟩
    have hsolid := Tokens.ofText_solid htoken _ (List.mem_singleton_self _)
    obtain ⟨letters, magnitude, hletters, -, hpart⟩ := Part.parse_eq_ok_iff.mp hparse
    obtain ⟨sign, hword, heq⟩ := Part.exists_isWord hsolid hletters
    -- the letters that are read come from a token in lower case, so they are the keyword itself
    have hlower : Text.IsLower letters := fun c hc => by
      refine p.isLower_text hnormal.isLower c ?_
      rw [heq]
      exact List.mem_append_right _ (List.mem_append_right _ hc)
    have hkeyword : p.keyword = Text.lower letters := congrArg Part.keyword hpart
    rw [hkeyword, Text.lower_of_isLower hlower]
    exact hword.isLetter
  · intro hletters
    have hword : Part.IsWord p.sign p.digits p.keyword :=
      ⟨p.isSign, p.isDecimal, hletters, hnormal.ne_nil⟩
    obtain ⟨htoken, hlone⟩ := Tokens.isWord_of_part hword
    exact ⟨(Tokens.IsToken.word htoken hlone).ofText, p.parse_text hword hnormal.isLower,
      p.unitOf?_keyword hnormal.isLower⟩

/-- The third business day from the end, with an Arabic digit. -/
theorem usable_iff_thirdToLast : Localization.turkish.IsAccepted ∧
    Tokens.ofText "-٣işgünü" = .ok ["-٣işgünü"] ∧
    Part.parse "-٣işgünü" = .ok ⟨"-٣işgünü", true, 3, "işgünü"⟩ ∧
    Localization.turkish.unitOf? "işgünü" = some .weekday := by
  have hmem : (("tr" : Text), Localization.turkish) ∈ Localization.builtin := by simp [Localization.builtin]
  have hl := Localization.isAccepted_of_mem_builtin hmem
  have hdecimal : ∀ c ∈ ("٣" : Text), Text.isDecimal c = true := by decide
  have hunit : Localization.turkish.firstUnit? "işgünü" = some .weekday := by decide
  have hletters : ∀ c ∈ ("işgünü" : Text), Text.isLetter c = true := by decide
  let p : WrittenPart .turkish :=
    ⟨some '-', "٣", "işgünü", .weekday, by simp [Tokens.isSign], hdecimal, by decide, hunit⟩
  exact ⟨hl, (usable_iff hl p).mpr hletters⟩

end WrittenPart

/-! ## A keyword that cannot be used -/

/-- A language in which a day is called `a1`. -/
def Localization.numberedDay : Localization := { Localization.bare with day := ["a1"] }

/-- The checks let a digit behind a letter pass, and no part is read from it. -/
theorem Part.parse_numberedDay : Localization.numberedDay.IsAccepted ∧
    Localization.numberedDay.firstUnit? "a1" = some .day ∧ Tokens.isSign '+' = true ∧
    (∀ c ∈ ("1" : Text), Text.isDecimal c = true) ∧ ("1" : Text).length ≤ Text.digitLimit ∧
    Tokens.ofText "+1a1" = .ok ["+1a1"] ∧
    Part.parse "+1a1" = .error (.fault (.invalidPart "+1a1")) := by
  refine ⟨⟨Localization.unnamed, Localization.numberedDay.record, ?_⟩, ?_⟩ <;> decide

end DateShorthand
