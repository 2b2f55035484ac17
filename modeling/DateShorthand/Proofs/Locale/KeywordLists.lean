import DateShorthand.Locale.Record
import DateShorthand.Proofs.Record.Checked
import DateShorthand.Proofs.Text.Lowering
import Mathlib.Data.List.Nodup

/-!
# Keyword lists

What a keyword list becomes: every entry trimmed and put in lower case, and of equal ones only the
first. A list is refused when one of its entries is blank or a number.
-/

namespace DateShorthand

/-! ## First occurrences -/

section FirstOccurrences

variable {α : Type} [BEq α] [LawfulBEq α]

theorem nodup_eraseDups (xs : List α) : xs.eraseDups.Nodup := by
  induction hlength : xs.length using Nat.strong_induction_on generalizing xs with
  | _ n ih =>
    cases xs with
    | nil => exact List.nodup_nil
    | cons x xs =>
      rw [List.eraseDups_cons, List.nodup_cons]
      refine ⟨by simp, ih _ ?_ _ rfl⟩
      have := List.length_filter_le (fun y => !y == x) xs
      rw [List.length_cons] at hlength
      omega

theorem eraseDups_of_nodup {xs : List α} (h : xs.Nodup) : xs.eraseDups = xs := by
  induction xs with
  | nil => rfl
  | cons x xs ih =>
    obtain ⟨hx, hxs⟩ := List.nodup_cons.mp h
    have hfilter : xs.filter (fun y => !y == x) = xs := by
      refine List.filter_eq_self.mpr fun y hy => ?_
      have hne : y ≠ x := fun heq => hx (heq ▸ hy)
      simpa using hne
    rw [List.eraseDups_cons, hfilter, ih hxs]

theorem eraseDups_eraseDups_append (xs ys : List α) :
    (xs.eraseDups ++ ys).eraseDups = (xs ++ ys).eraseDups := by
  have hremove : ys.removeAll xs.eraseDups = ys.removeAll xs := by
    unfold List.removeAll
    refine List.filter_congr fun y _ => ?_
    simp only [List.elem_eq_contains, Bool.not_inj_iff]
    rw [Bool.eq_iff_iff, List.contains_iff_mem, List.contains_iff_mem, List.mem_eraseDups]
  rw [List.eraseDups_append, List.eraseDups_append, eraseDups_of_nodup (nodup_eraseDups xs), hremove]

theorem eraseDups_concat {xs : List α} (h : xs.Nodup) (x : α) :
    (xs ++ [x]).eraseDups = if xs.contains x then xs else xs ++ [x] := by
  rw [List.eraseDups_append, eraseDups_of_nodup h, List.removeAll, List.filter_singleton,
    List.elem_eq_contains]
  cases xs.contains x <;> simp [List.eraseDups_cons]

end FirstOccurrences

namespace Keywords

/-! ## Entries -/

/-- A keyword as the checks leave it: they would leave it so again. -/
structure IsNormal (keyword : Text) : Prop where
  ne_nil : keyword ≠ []
  normalize_eq : Text.normalize keyword = keyword

/-- Blank, or a number. -/
def IsRefused (entry : Text) : Prop :=
  Text.normalize entry = [] ∨ Text.isNumeric (Text.normalize entry) = true

/-- The keywords that the entries stand for, each of them where it comes first. -/
def firstOf (entries : List Text) : List Text := (entries.map Text.normalize).eraseDups

theorem add_eq_ok_iff {keywords keywords' : List Text} {entry : Text} (h : keywords.Nodup) :
    add keywords entry = .ok keywords' ↔
      ¬ IsRefused entry ∧ keywords' = (keywords ++ [Text.normalize entry]).eraseDups := by
  rw [eraseDups_concat h]
  unfold add
  simp only [List.isEmpty_iff]
  split
  · rename_i hempty
    exact iff_of_false nofun fun h => h.1 (Or.inl hempty)
  · rename_i hempty
    split
    · rename_i hnumeric
      exact iff_of_false nofun fun h => h.1 (Or.inr hnumeric)
    · rename_i hnumeric
      rw [Except.ok.injEq, eq_comm (a := keywords')]
      exact (and_iff_right fun h => h.elim hempty hnumeric).symm

theorem foldlM_add_eq_ok_iff {entries done keywords : List Text} (h : done.Nodup) :
    entries.foldlM add done = .ok keywords ↔
      (∀ entry ∈ entries, ¬ IsRefused entry) ∧
        keywords = (done ++ entries.map Text.normalize).eraseDups := by
  induction entries generalizing done with
  | nil =>
    rw [List.foldlM_nil, List.map_nil, List.append_nil, eraseDups_of_nodup h]
    simp [pure, Except.pure, eq_comm]
  | cons entry rest ih =>
    rw [List.foldlM_cons, bind_eq_ok_iff]
    simp only [add_eq_ok_iff h, List.forall_mem_cons]
    constructor
    · rintro ⟨more, ⟨hentry, rfl⟩, hmore⟩
      obtain ⟨hrest, rfl⟩ := (ih (nodup_eraseDups _)).mp hmore
      refine ⟨⟨hentry, hrest⟩, ?_⟩
      rw [eraseDups_eraseDups_append, List.append_assoc]
      rfl
    · rintro ⟨⟨hentry, hrest⟩, rfl⟩
      refine ⟨_, ⟨hentry, rfl⟩, (ih (nodup_eraseDups _)).mpr ⟨hrest, ?_⟩⟩
      rw [eraseDups_eraseDups_append, List.append_assoc]
      rfl

theorem ofEntries_eq_ok_iff {entries keywords : List Text} : ofEntries entries = .ok keywords ↔
    (∀ entry ∈ entries, ¬ IsRefused entry) ∧ keywords = firstOf entries :=
  foldlM_add_eq_ok_iff List.nodup_nil

theorem ofEntries_eq_error_iff {entries : List Text} :
    (∃ reason, ofEntries entries = .error reason) ↔ ∃ entry ∈ entries, IsRefused entry := by
  simp only [exists_eq_error_iff, ofEntries_eq_ok_iff, exists_and_left, exists_eq, and_true]
  simp

/-- The keywords of a list have no repetitions, and none would be refused or changed. -/
theorem isNormal_of_mem_firstOf {entries : List Text} (h : ∀ entry ∈ entries, ¬ IsRefused entry)
    {k : Text} (hk : k ∈ firstOf entries) : IsNormal k ∧ ¬ IsRefused k := by
  rw [firstOf, List.mem_eraseDups, List.mem_map] at hk
  obtain ⟨entry, hentry, rfl⟩ := hk
  have hnot := h entry hentry
  have hagain : ¬ IsRefused (Text.normalize entry) := by
    unfold IsRefused
    rwa [Text.normalize_normalize]
  exact ⟨⟨fun hnil => hnot (Or.inl hnil), Text.normalize_normalize entry⟩, hagain⟩

theorem firstOf_of_isNormal {keywords : List Text} (hnodup : keywords.Nodup)
    (h : ∀ k ∈ keywords, IsNormal k) : firstOf keywords = keywords := by
  have hmap : keywords.map Text.normalize = keywords := by
    conv_rhs => rw [← List.map_id keywords]
    exact List.map_congr_left fun k hk => (h k hk).normalize_eq
  rw [firstOf, hmap, eraseDups_of_nodup hnodup]

/-! ## Fields -/

/-- The entries that the value of a field lists: none without a value, one text is a list of one, the
items of a list as plain text, and of a record the names. -/
inductive Lists : Option Json → List Text → Prop
  | missing : Lists none []
  | null : Lists (some .null) []
  | one (t : Text) : Lists (some (.str t)) [t]
  | items (items : List Json) : Lists (some (.arr items)) (items.map Json.plain)
  | names (members : List (Text × Json)) : Lists (some (.obj members)) (members.map (·.1))

variable {members : List (Text × Json)} {name : Text} {entries : List Text}

theorem Lists.unique {value : Option Json} {entries entries' : List Text} (h : Lists value entries)
    (h' : Lists value entries') : entries = entries' := by
  cases h <;> cases h' <;> rfl

theorem Lists.iff_eq {value : Option Json} {entries entries' : List Text} (h : Lists value entries) :
    Lists value entries' ↔ entries' = entries :=
  ⟨fun h' => h'.unique h, fun heq => heq ▸ h⟩

theorem ofField_of_lists (h : Lists (given? members name) entries) :
    ofField members name = match ofEntries entries with
      | .ok keywords => .ok keywords
      | .error reason => .refuse [.field name] (.value reason) := by
  unfold ofField
  generalize given? members name = value at h ⊢
  cases h <;> rfl

theorem ofField_of_not_lists (h : ∀ entries, ¬ Lists (given? members name) entries) :
    ofField members name = .error (.breakdown .notIterable) := by
  unfold ofField
  generalize given? members name = value at h ⊢
  match value with
  | none => exact absurd .missing (h _)
  | some .null => exact absurd .null (h _)
  | some (.str t) => exact absurd (.one t) (h _)
  | some (.arr items) => exact absurd (.items items) (h _)
  | some (.obj members) => exact absurd (.names members) (h _)
  | some (.bool _) | some (.int _) | some (.real _) => rfl

theorem ofField_eq_ok_iff {keywords : List Text} : ofField members name = .ok keywords ↔
    ∃ entries, Lists (given? members name) entries ∧ (∀ entry ∈ entries, ¬ IsRefused entry) ∧
      keywords = firstOf entries := by
  by_cases h : ∃ entries, Lists (given? members name) entries
  · obtain ⟨entries, h⟩ := h
    simp only [h.iff_eq, exists_eq_left, ← ofEntries_eq_ok_iff, ofField_of_lists h]
    cases ofEntries entries <;> simp [Checked.refuse]
  · rw [ofField_of_not_lists (not_exists.mp h)]
    exact iff_of_false nofun fun ⟨entries, hentries, _⟩ => h ⟨entries, hentries⟩

theorem isNormal_of_ofField {keywords : List Text} (h : ofField members name = .ok keywords) :
    keywords.Nodup ∧ ∀ k ∈ keywords, IsNormal k ∧ ¬ IsRefused k := by
  obtain ⟨entries, -, hentries, rfl⟩ := ofField_eq_ok_iff.mp h
  exact ⟨nodup_eraseDups _, fun k hk => isNormal_of_mem_firstOf hentries hk⟩

/-- A list of such keywords comes out as it is. -/
theorem ofField_of_isNormal {keywords : List Text}
    (hgiven : given? members name = some (.arr (keywords.map .str))) (hnodup : keywords.Nodup)
    (hnormal : ∀ k ∈ keywords, IsNormal k ∧ ¬ IsRefused k) : ofField members name = .ok keywords := by
  have hplain : (keywords.map Json.str).map Json.plain = keywords := by
    rw [List.map_map]
    exact List.map_id keywords
  refine ofField_eq_ok_iff.mpr ⟨keywords, ?_, fun k hk => (hnormal k hk).2, ?_⟩
  · rw [hgiven]
    conv_rhs => rw [← hplain]
    exact .items _
  · exact (firstOf_of_isNormal hnodup fun k hk => (hnormal k hk).1).symm

theorem breakdown?_ofField_eq_some_iff {b : Breakdown} : (ofField members name).breakdown? = some b ↔
    b = .notIterable ∧ ∀ entries, ¬ Lists (given? members name) entries := by
  by_cases h : ∃ entries, Lists (given? members name) entries
  · obtain ⟨entries, h⟩ := h
    rw [ofField_of_lists h]
    refine iff_of_false ?_ fun h' => h'.2 entries h
    cases ofEntries entries <;> exact nofun
  · rw [ofField_of_not_lists (not_exists.mp h)]
    simp [Checked.breakdown?, not_exists.mp h, eq_comm]

/-- Where a field lists entries at all, it has at most one violation, at its own place, and that one for
a refused entry. -/
theorem violations?_ofField {found : List Violation} (h : (ofField members name).violations? = some found) :
    (∀ v ∈ found, v.place = [.field name]) ∧
      (found ≠ [] ↔ ∃ entries, Lists (given? members name) entries ∧ ∃ entry ∈ entries, IsRefused entry) := by
  by_cases hlists : ∃ entries, Lists (given? members name) entries
  · obtain ⟨entries, hlists⟩ := hlists
    simp only [hlists.iff_eq, exists_eq_left, ← ofEntries_eq_error_iff]
    rw [ofField_of_lists hlists] at h
    cases hentries : ofEntries entries with
    | ok keywords =>
      rw [hentries] at h
      obtain rfl := Option.some.inj h
      simp
    | error reason =>
      rw [hentries] at h
      obtain rfl := Option.some.inj h
      simp
  · rw [ofField_of_not_lists (not_exists.mp hlists)] at h
    exact absurd h nofun

end Keywords

/-! ## The eight lists -/

inductive KeywordList where
  | unit (u : CalendarUnit)
  | am
  | pm
deriving DecidableEq, Repr

namespace KeywordList

/-- In the order of the fields. -/
def all : List KeywordList := CalendarUnit.all.map unit ++ [am, pm]

def name : KeywordList → Text
  | unit u => u.name
  | am => "am"
  | pm => "pm"

theorem mem_all (list : KeywordList) : list ∈ all := by
  cases list with
  | unit u => cases u <;> decide
  | am | pm => decide

theorem name_injective {list list' : KeywordList} (h : list.name = list'.name) : list = list' := by
  have hnames : (all.map name).Nodup := by decide
  exact List.inj_on_of_nodup_map hnames (mem_all list) (mem_all list') h

/-- No other field of a localization is called like a keyword list. -/
theorem name_not_mem (list : KeywordList) :
    list.name ∉ (["name", "datePatterns", "date_patterns"] : List Text) := by
  have h : ∀ list ∈ all, list.name ∉ (["name", "datePatterns", "date_patterns"] : List Text) := by decide
  exact h list (mem_all list)

end KeywordList

def Localization.listOf (l : Localization) : KeywordList → List Text
  | .unit u => l.keywords u
  | .am => l.am
  | .pm => l.pm

end DateShorthand
