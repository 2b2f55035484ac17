import DateShorthand.Proofs.Outcome
import DateShorthand.Record.Violation
import Mathlib.Tactic.Common

/-!
# Checked records

What a check of several parts returns, in terms of its parts: a result when every part gives one, the
first breakdown when a part breaks down, and otherwise the violations of all parts in a row.
-/

namespace DateShorthand.Checked

variable {α β : Type}

/-- What broke the check off. -/
def breakdown? : Checked α → Option Breakdown
  | .error (.breakdown b) => some b
  | _ => none

/-- What the check found, when it was not broken off. -/
def violations? : Checked α → Option (List Violation)
  | .ok _ => some []
  | .error (.violations found) => some found
  | .error (.breakdown _) => none

theorem breakdown?_eq_some_iff {a : Checked α} {b : Breakdown} :
    a.breakdown? = some b ↔ a = .error (.breakdown b) := by
  unfold breakdown?
  split <;> simp_all

theorem violations?_of_eq_error {a : Checked α} {found : List Violation}
    (h : a = .error (.violations found)) : a.violations? = some found := by
  rw [h]
  rfl

/-! ## Two parts -/

theorem apply_eq_ok_iff {f : Checked (α → β)} {a : Checked α} {b : β} :
    apply f a = .ok b ↔ ∃ g x, f = .ok g ∧ a = .ok x ∧ g x = b := by
  unfold apply
  split <;> simp_all

theorem breakdown?_apply (f : Checked (α → β)) (a : Checked α) :
    (apply f a).breakdown? = f.breakdown?.or a.breakdown? := by
  unfold apply
  split <;> simp_all [breakdown?]

theorem violations?_apply_eq_some_iff {f : Checked (α → β)} {a : Checked α} {found : List Violation} :
    (apply f a).violations? = some found ↔ ∃ first rest, f.violations? = some first ∧
      a.violations? = some rest ∧ first ++ rest = found := by
  unfold apply
  split <;> simp_all [violations?]

theorem breakdown?_map (g : α → β) (a : Checked α) : breakdown? (a.map g) = a.breakdown? := by
  match a with
  | .ok _ => rfl
  | .error (.violations _) => rfl
  | .error (.breakdown _) => rfl

theorem violations?_map (g : α → β) (a : Checked α) : violations? (a.map g) = a.violations? := by
  match a with
  | .ok _ => rfl
  | .error (.violations _) => rfl
  | .error (.breakdown _) => rfl

/-! ## Below a place -/

theorem breakdown?_under (place : List Place) (a : Checked α) :
    (under place a).breakdown? = a.breakdown? := by
  match a with
  | .ok _ => rfl
  | .error (.violations _) => rfl
  | .error (.breakdown _) => rfl

theorem exists_place_of_under {a : Checked α} {place : List Place} {found : List Violation}
    (h : (under place a).violations? = some found) {v : Violation} (hv : v ∈ found) :
    ∃ rest, v.place = place ++ rest := by
  match a with
  | .ok _ =>
    obtain rfl := Option.some.inj h
    exact absurd hv List.not_mem_nil
  | .error (.violations below) =>
    obtain rfl := Option.some.inj h
    obtain ⟨w, -, rfl⟩ := List.mem_map.mp hv
    exact ⟨w.place, rfl⟩
  | .error (.breakdown _) => exact absurd h nofun

/-! ## Every member -/

variable {check : α → Checked β} {xs : List α}

theorem exists_of_mem_each {ys : List β} (h : each check xs = .ok ys) {y : β} (hy : y ∈ ys) :
    ∃ x ∈ xs, check x = .ok y := by
  induction xs generalizing ys with
  | nil =>
    obtain rfl := Except.ok.inj h
    exact absurd hy List.not_mem_nil
  | cons x xs ih =>
    obtain ⟨g, rest, hfirst, hrest, rfl⟩ := apply_eq_ok_iff.mp h
    obtain ⟨z, hz, rfl⟩ := map_eq_ok_iff.mp hfirst
    rcases List.mem_cons.mp hy with rfl | hy
    · exact ⟨x, List.mem_cons_self, hz⟩
    · obtain ⟨w, hw, hcheck⟩ := ih hrest hy
      exact ⟨w, List.mem_cons_of_mem _ hw, hcheck⟩

theorem each_map {γ : Type} {f : γ → α} {g : γ → β} {cs : List γ}
    (h : ∀ c ∈ cs, check (f c) = .ok (g c)) : each check (cs.map f) = .ok (cs.map g) := by
  induction cs with
  | nil => rfl
  | cons c cs ih =>
    obtain ⟨hfirst, hrest⟩ := List.forall_mem_cons.mp h
    exact apply_eq_ok_iff.mpr ⟨_, _, map_eq_ok_iff.mpr ⟨_, hfirst, rfl⟩, ih hrest, rfl⟩

theorem exists_of_breakdown?_each {b : Breakdown} (h : (each check xs).breakdown? = some b) :
    ∃ x ∈ xs, (check x).breakdown? = some b := by
  induction xs with
  | nil => exact absurd h nofun
  | cons x xs ih =>
    rw [each, breakdown?_apply, breakdown?_map, Option.or_eq_some_iff] at h
    rcases h with h | ⟨-, h⟩
    · exact ⟨x, List.mem_cons_self, h⟩
    · obtain ⟨y, hy, h⟩ := ih h
      exact ⟨y, List.mem_cons_of_mem _ hy, h⟩

theorem exists_of_violations?_each {found : List Violation} (h : (each check xs).violations? = some found)
    {v : Violation} (hv : v ∈ found) : ∃ x ∈ xs, ∃ part, (check x).violations? = some part ∧ v ∈ part := by
  induction xs generalizing found with
  | nil =>
    obtain rfl := Option.some.inj h
    exact absurd hv List.not_mem_nil
  | cons x xs ih =>
    obtain ⟨first, rest, hfirst, hrest, rfl⟩ := violations?_apply_eq_some_iff.mp h
    rw [violations?_map] at hfirst
    rcases List.mem_append.mp hv with hv | hv
    · exact ⟨x, List.mem_cons_self, first, hfirst, hv⟩
    · obtain ⟨y, hy, hpart⟩ := ih hrest hv
      exact ⟨y, List.mem_cons_of_mem _ hy, hpart⟩

end DateShorthand.Checked
