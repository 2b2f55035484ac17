import DateShorthand.Text.Basic
import Mathlib.Data.List.Basic
import Mathlib.Tactic.Common

/-!
# Pieces between separators

The pieces of a text are all there is to it but the separators, and whatever stands in the text without a
separator stands in one of them.
-/

namespace DateShorthand.Text

variable {separator c : Char} {t u w first : Text} {more : List Text}

@[simp] theorem pieces_nil (separator : Char) : pieces separator [] = [[]] := rfl

theorem pieces_cons (separator c : Char) (t : Text) :
    pieces separator (c :: t) =
      if c = separator then [] :: pieces separator t
      else match pieces separator t with
        | first :: more => (c :: first) :: more
        | [] => [[c]] := rfl

theorem pieces_cons_self (separator : Char) (t : Text) :
    pieces separator (separator :: t) = [] :: pieces separator t := by
  rw [pieces_cons, if_pos rfl]

theorem pieces_cons_of_ne (hc : c ≠ separator) (h : pieces separator t = first :: more) :
    pieces separator (c :: t) = (c :: first) :: more := by
  rw [pieces_cons, if_neg hc, h]

theorem exists_pieces (separator : Char) (t : Text) :
    ∃ first more, pieces separator t = first :: more := by
  induction t with
  | nil => exact ⟨_, _, rfl⟩
  | cons c t ih =>
    obtain ⟨first, more, hpieces⟩ := ih
    by_cases hc : c = separator
    · rw [hc]
      exact ⟨_, _, pieces_cons_self separator t⟩
    · exact ⟨_, _, pieces_cons_of_ne hc hpieces⟩

/-- The pieces of a text are all there is to it. -/
theorem joined_pieces (separator : Char) (t : Text) : joined [separator] (pieces separator t) = t := by
  induction t with
  | nil => rfl
  | cons c t ih =>
    obtain ⟨first, more, hpieces⟩ := exists_pieces separator t
    rw [hpieces] at ih
    by_cases hc : c = separator
    · rw [hc, pieces_cons_self, hpieces, ← ih]
      rfl
    · rw [pieces_cons_of_ne hc hpieces, ← ih]
      cases more <;> rfl

theorem pieces_of_not_mem (h : separator ∉ t) : pieces separator t = [t] := by
  induction t with
  | nil => rfl
  | cons c t ih =>
    simp only [List.mem_cons, not_or] at h
    exact pieces_cons_of_ne (Ne.symm h.1) (ih h.2)

theorem pieces_append_cons (h : separator ∉ t) (u : Text) :
    pieces separator (t ++ separator :: u) = t :: pieces separator u := by
  induction t with
  | nil => exact pieces_cons_self separator u
  | cons c t ih =>
    simp only [List.mem_cons, not_or] at h
    exact pieces_cons_of_ne (Ne.symm h.1) (ih h.2)

/-! ## What stands in a piece -/

theorem prefix_first_iff (hpieces : pieces separator t = first :: more) :
    w <+: first ↔ w <+: t ∧ separator ∉ w := by
  induction t generalizing w first more with
  | nil =>
    obtain rfl : [] = first := (List.cons.inj hpieces).1
    simp +contextual [List.prefix_nil]
  | cons c t ih =>
    obtain ⟨first', more', hpieces'⟩ := exists_pieces separator t
    by_cases hc : c = separator
    · rw [hc, pieces_cons_self] at hpieces
      obtain rfl : [] = first := (List.cons.inj hpieces).1
      cases w <;> simp +contextual [hc, List.cons_prefix_cons]
    · rw [pieces_cons_of_ne hc hpieces'] at hpieces
      obtain rfl : c :: first' = first := (List.cons.inj hpieces).1
      cases w with
      | nil => simp
      | cons d w =>
        simp only [List.cons_prefix_cons, ih hpieces', List.mem_cons, not_or]
        constructor
        · rintro ⟨rfl, hw, hnot⟩
          exact ⟨⟨rfl, hw⟩, Ne.symm hc, hnot⟩
        · rintro ⟨⟨rfl, hw⟩, -, hnot⟩
          exact ⟨rfl, hw, hnot⟩

/-- What stands in the text and holds no separator stands in one piece. -/
theorem exists_piece_iff : (∃ piece ∈ pieces separator t, w <:+: piece) ↔ w <:+: t ∧ separator ∉ w := by
  induction t with
  | nil => simp +contextual [List.infix_nil]
  | cons c t ih =>
    obtain ⟨first, more, hpieces⟩ := exists_pieces separator t
    rw [List.infix_cons_iff, or_and_right, ← ih]
    by_cases hc : c = separator
    · have hempty : w <+: separator :: t ∧ separator ∉ w ↔ w = [] := by
        cases w <;> simp +contextual [List.cons_prefix_cons, eq_comm]
      rw [hc, pieces_cons_self, hempty, List.exists_mem_cons_iff, List.infix_nil]
    · have hfront : w <+: c :: t ∧ separator ∉ w ↔ w <+: c :: first :=
        (prefix_first_iff (pieces_cons_of_ne hc hpieces)).symm
      rw [pieces_cons_of_ne hc hpieces, hpieces, hfront, List.exists_mem_cons_iff,
        List.exists_mem_cons_iff, List.infix_cons_iff, or_assoc]

end DateShorthand.Text
