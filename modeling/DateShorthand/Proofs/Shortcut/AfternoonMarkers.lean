import DateShorthand.Proofs.Regex.Context
import DateShorthand.Proofs.Shortcut.TimeGrammar

/-!
# Afternoon markers

A marker is found by its letters, each of which may stand for another one, and it is told apart by the
letters themselves. So a marker that is found may still be taken for one of the morning.
-/

namespace DateShorthand.TrailingTime

open Regex

variable {l : Localization} {t : Text} {m : Match} {w : Text}

/-- The number that a group of the match writes, 0 when the group is missing. -/
abbrev field (m : Match) (index : Nat) : Nat := numberOf ((m.group? index).getD [])

def afternoonHour (hour : Nat) : Nat := if hour = 12 then 12 else hour + 12

def morningHour (hour : Nat) : Nat := if hour = 12 then 0 else hour

theorem clockHour_some (w : Text) (hour : Nat) : clockHour l (some w) hour
    = if Text.lower w ∈ l.pm then afternoonHour hour else morningHour hour := by
  simp only [clockHour, List.contains_iff_mem, afternoonHour, morningHour]

theorem afternoonHour_ne_morningHour (hour : Nat) : afternoonHour hour ≠ morningHour hour := by
  unfold afternoonHour morningHour
  split_ifs <;> omega

/-- The marker as it stands in a text in lower case is in lower case. -/
theorem lower_marker (ht : Text.lower t = t) (hm : find? l t = some m) (hw : m.group? 4 = some w) :
    Text.lower w = w := by
  have hlower : Text.IsLower t := ht ▸ Text.isLower_lower t
  exact Text.lower_of_isLower fun c hc => hlower c ((isInfix_of_group? hm hw).subset hc)

/-- A marked time whose fields are in range is read, and its marker settles the hour. -/
theorem split_of_marker (hm : find? l t = some m) (hw : m.group? 4 = some w)
    (hhour : 1 ≤ field m 1 ∧ field m 1 ≤ 12) (hminute : field m 2 ≤ 59) (hsecond : field m 3 ≤ 59) :
    ∃ time : TimeOfDay, split l t = .ok (some time, Text.trim (t.take m.start)) ∧
      (time.hour : Nat) = clockHour l (some w) (field m 1) ∧ (time.minute : Nat) = field m 2 ∧
      (time.second : Nat) = field m 3 := by
  have hmarked : ¬ ((some w).isSome ∧ ¬ (1 ≤ field m 1 ∧ field m 1 ≤ 12)) := fun h => h.2 hhour
  have hmeant : markedHour l ((m.group? 1).getD []) (m.group? 4) = .ok (clockHour l (some w) (field m 1)) := by
    rw [hw]
    exact (markedHour_eq l _ (some w)).trans (if_neg hmarked)
  have hinside : clockHour l (some w) (field m 1) < 24 ∧ field m 2 < 60 ∧ field m 3 < 60 :=
    ⟨clockHour_lt hmarked (by simp), by omega, by omega⟩
  have hread : read l t m
      = .ok ⟨⟨_, hinside.1⟩, ⟨field m 2, hinside.2.1⟩, ⟨field m 3, hinside.2.2⟩⟩ := by
    have hfields : ¬ (59 < field m 2 ∨ 59 < field m 3) := by omega
    rw [read, if_neg hfields, hmeant, ok_bind, TimeOfDay.ofFields?, dif_pos hinside]
  refine ⟨⟨⟨_, hinside.1⟩, ⟨_, hinside.2.1⟩, ⟨_, hinside.2.2⟩⟩, ?_, rfl, rfl, rfl⟩
  rw [split, hm]
  exact congrArg (Except.map _) hread

/-- An entry in lower case whose letters have no companions is spelled in one way only. -/
theorem exists_companion {k : Text} (hk : Text.IsLower k) (hw : Text.IsLower w) (hsame : SameText k w)
    (hne : w ≠ k) : ∃ c ∈ k, Text.companions.lookup c.toNat ≠ none := by
  by_contra hnone
  simp only [not_exists, not_and, not_not] at hnone
  exact hne (eq_of_sameText (fun c hc => ⟨hk c hc, hnone c hc⟩) hw hsame)

/-- A time whose marker spells an entry for the afternoon is one of the afternoon when the marker as it
stands in the text is itself an entry, and one of the morning otherwise. That takes a letter with
companions in the entry. -/
theorem split_afternoon_iff (hl : l.IsAccepted) (ht : Text.lower t = t) (hm : find? l t = some m)
    (hw : m.group? 4 = some w) (hpm : Spells l.pm w) (hhour : 1 ≤ field m 1 ∧ field m 1 ≤ 12)
    (hminute : field m 2 ≤ 59) (hsecond : field m 3 ≤ 59) :
    ∃ time : TimeOfDay, split l t = .ok (some time, Text.trim (t.take m.start)) ∧
      (time.minute : Nat) = field m 2 ∧ (time.second : Nat) = field m 3 ∧
      ((time.hour : Nat) = afternoonHour (field m 1) ↔ w ∈ l.pm) ∧
      (w ∉ l.pm → (time.hour : Nat) = morningHour (field m 1) ∧
        ∃ k ∈ l.pm, SameText k w ∧ ∃ c ∈ k, Text.companions.lookup c.toNat ≠ none) := by
  obtain ⟨time, hsplit, hour, hminute, hsecond⟩ := split_of_marker hm hw hhour hminute hsecond
  have hlower := lower_marker ht hm hw
  rw [clockHour_some, hlower] at hour
  refine ⟨time, hsplit, hminute, hsecond, ?_, fun hout => ?_⟩
  · rw [hour]
    split_ifs with hin
    · exact iff_of_true rfl hin
    · exact iff_of_false (afternoonHour_ne_morningHour _).symm hin
  · rw [hour, if_neg hout]
    obtain ⟨k, hk, hsame⟩ := hpm
    have hmarker : k ∈ l.markers := Localization.mem_markers.mpr (List.mem_append_right _ hk)
    refine ⟨rfl, k, hk, hsame, exists_companion (hl.isNormal_of_mem_markers hmarker).isLower ?_ hsame ?_⟩
    · exact hlower ▸ Text.isLower_lower w
    · rintro rfl
      exact hout hk

/-- The afternoon is marked by a long s, which is a letter of its own and a way to write an s. -/
def longS : Localization := { Localization.bare with am := ["am"], pm := ["ſ", "pm"] }

theorem isAccepted_longS : longS.IsAccepted := by
  refine ⟨Localization.unnamed, longS.record, ?_⟩
  decide

theorem split_afternoon_iff_long_s : ∃ m, longS.IsAccepted ∧ Text.lower "t 5:30:09 ſ" = "t 5:30:09 ſ" ∧
    find? longS "t 5:30:09 ſ" = some m ∧ m.group? 4 = some "ſ" ∧ Spells longS.pm "ſ" ∧
    (1 ≤ field m 1 ∧ field m 1 ≤ 12) ∧ field m 2 ≤ 59 ∧ field m 3 ≤ 59 ∧
    split longS "t 5:30:09 ſ" = .ok (some ⟨17, 30, 9⟩, "t") := by
  let m : Match := ⟨1, " 5:30:09 ſ", [], [(4, "ſ"), (3, "09"), (2, "30"), (1, "5")]⟩
  have ht : Text.lower "t 5:30:09 ſ" = "t 5:30:09 ſ" := by decide
  have hm : find? longS "t 5:30:09 ſ" = some m := by decide
  have hpm : Spells longS.pm "ſ" := ⟨"ſ", by decide, .refl _⟩
  have hfields : field m 1 = 5 ∧ field m 2 = 30 ∧ field m 3 = 9 := by decide
  have hhour : 1 ≤ field m 1 ∧ field m 1 ≤ 12 := by omega
  have hminute : field m 2 ≤ 59 := by omega
  have hsecond : field m 3 ≤ 59 := by omega
  obtain ⟨⟨hour, minute, second⟩, hsplit, hminute', hsecond', hafternoon, -⟩ :=
    split_afternoon_iff isAccepted_longS ht hm rfl hpm hhour hminute hsecond
  have hhour' := hafternoon.mpr (by decide)
  rw [hfields.1] at hhour'
  obtain rfl : hour = 17 := Fin.ext hhour'
  obtain rfl : minute = 30 := Fin.ext (hminute'.trans hfields.2.1)
  obtain rfl : second = 9 := Fin.ext (hsecond'.trans hfields.2.2)
  refine ⟨m, isAccepted_longS, ht, hm, rfl, hpm, hhour, hminute, hsecond, ?_⟩
  rw [hsplit]
  decide

/-- An s spells the long s, and five o'clock in the afternoon is read as five in the morning. -/
theorem split_afternoon_missed : ∃ m, longS.IsAccepted ∧ Text.trim "5s" = "5s" ∧ Text.lower "5s" = "5s" ∧
    find? longS "5s" = some m ∧ m.group? 4 = some "s" ∧ Spells longS.pm "s" ∧ ¬ Spells longS.am "s" ∧
    (1 ≤ field m 1 ∧ field m 1 ≤ 12) ∧ field m 2 ≤ 59 ∧ field m 3 ≤ 59 ∧
    split longS "5s" = .ok (some ⟨5, 0, 0⟩, []) ∧ afternoonHour (field m 1) = 17 := by
  have hpm : Spells longS.pm "s" := ⟨"ſ", by decide, .cons (by decide) .nil⟩
  have ham : ¬ Spells longS.am "s" := by
    rintro ⟨w, hw, hsame⟩
    obtain rfl := List.mem_singleton.mp hw
    exact absurd hsame.length_eq (by decide)
  exact ⟨⟨0, "5s", [], [(4, "s"), (1, "5")]⟩, isAccepted_longS, by decide, by decide,
    by decide, rfl, hpm, ham, by decide, by decide, by decide,
    by decide, by decide⟩

end DateShorthand.TrailingTime
