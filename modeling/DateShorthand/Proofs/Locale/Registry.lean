import DateShorthand.Locale.Registry
import DateShorthand.Proofs.Outcome
import DateShorthand.Proofs.Text.Lowering
import Mathlib.Data.List.Nodup

/-!
# Runs of registry calls

Whatever is registered and unregistered, the built-in tags stay in front, no tag comes twice, and
every tag stands there as it is looked up. A call that succeeds either gives one tag a localization
or takes one tag out.
-/

namespace DateShorthand

/-! ## Lookups -/

section Lookups

variable {α : Type} {entries : List (Text × α)} {key : Text}

theorem isSome_lookup_iff : (entries.lookup key).isSome = true ↔ key ∈ entries.map (·.1) := by
  simp only [List.lookup_isSome_iff, List.mem_map, beq_iff_eq, eq_comm (a := key)]

theorem lookup_eq_none_iff_not_mem : entries.lookup key = none ↔ key ∉ entries.map (·.1) := by
  rw [← isSome_lookup_iff, Option.not_isSome_iff_eq_none]

theorem mem_of_lookup_eq_some {a : α} (h : entries.lookup key = some a) : (key, a) ∈ entries := by
  obtain ⟨before, after, rfl, -⟩ := List.lookup_eq_some_iff.mp h
  exact List.mem_append_right _ List.mem_cons_self

end Lookups

namespace Registry

variable {r r' : Registry} {key other tag : Text} {l : Localization}
  {entries : List (Text × Localization)}

/-! ## Entries -/

@[simp] theorem put_nil : put key l [] = [(key, l)] := rfl

theorem put_cons (entry : Text × Localization) :
    put key l (entry :: entries) =
      if entry.1 = key then (entry.1, l) :: entries else entry :: put key l entries := rfl

theorem lookup_put_self : (put key l entries).lookup key = some l := by
  induction entries with
  | nil => simp
  | cons entry entries ih =>
    rw [put_cons]
    split_ifs with hkey
    · rw [hkey, List.lookup_cons_self]
    · rw [List.lookup_cons, beq_false_of_ne (Ne.symm hkey)]
      exact ih

theorem lookup_put_of_ne (h : other ≠ key) : (put key l entries).lookup other = entries.lookup other := by
  induction entries with
  | nil => simp [List.lookup_cons, beq_false_of_ne h]
  | cons entry entries ih =>
    rw [put_cons]
    split_ifs with hkey
    · rw [List.lookup_cons, List.lookup_cons, hkey, beq_false_of_ne h]
    · rw [List.lookup_cons, List.lookup_cons, ih]

theorem map_put_of_mem (h : key ∈ entries.map (·.1)) : (put key l entries).map (·.1) = entries.map (·.1) := by
  induction entries with
  | nil => exact absurd h List.not_mem_nil
  | cons entry entries ih =>
    rw [put_cons]
    split_ifs with hkey
    · rfl
    · rw [List.map_cons, List.mem_cons] at h
      rw [List.map_cons, List.map_cons, ih (h.resolve_left (Ne.symm hkey))]

theorem put_of_not_mem (h : key ∉ entries.map (·.1)) : put key l entries = entries ++ [(key, l)] := by
  induction entries with
  | nil => rfl
  | cons entry entries ih =>
    rw [List.map_cons, List.mem_cons, not_or] at h
    rw [put_cons, if_neg (Ne.symm h.1), ih h.2]
    rfl

theorem map_filter (key : Text) (entries : List (Text × Localization)) :
    (entries.filter (·.1 ≠ key)).map (·.1) = (entries.map (·.1)).filter (· ≠ key) := by
  rw [List.filter_map]
  rfl

theorem get_eq_ok_iff : r.get tag = .ok l ↔ r.entries.lookup (Text.normalize tag) = some l := by
  rw [get]
  cases r.entries.lookup (Text.normalize tag) with
  | none => simp
  | some found => rw [Except.ok.injEq, Option.some.injEq]

theorem get_normalize (h : r.get tag = .ok l) : r.get (Text.normalize tag) = .ok l := by
  rw [get_eq_ok_iff] at h ⊢
  rwa [Text.normalize_normalize]

/-! ## One tag more -/

/-- The tag has the localization under each of its spellings, and every other tag has what it had. A
new tag comes last. -/
structure Gains (r : Registry) (tag : Text) (l : Localization) (r' : Registry) : Prop where
  get_eq : ∀ spelling, Text.normalize spelling = Text.normalize tag → r'.get spelling = .ok l
  get_of_ne : ∀ other, Text.normalize other ≠ Text.normalize tag → r'.get other = r.get other
  tags_of_mem : Text.normalize tag ∈ r.tags → r'.tags = r.tags
  tags_of_not_mem : Text.normalize tag ∉ r.tags → r'.tags = r.tags ++ [Text.normalize tag]

theorem gains_put (r : Registry) (tag : Text) (l : Localization) :
    r.Gains tag l ⟨put (Text.normalize tag) l r.entries⟩ where
  get_eq spelling h := by rw [get, h, lookup_put_self]
  get_of_ne other h := by rw [get, get, lookup_put_of_ne h]
  tags_of_mem h := map_put_of_mem h
  tags_of_not_mem h := by
    rw [tags, put_of_not_mem h, List.map_append]
    rfl

/-! ## What a call does -/

/-- The localization on offer under a tag, once it is known to be valid. -/
def Offer.read (key : Text) : Offer → Except LocaleFault Localization
  | .localization l => .ok l
  | .record members => (Localization.ofMembers key members).mapError .record

theorem register_eq_ok_iff {replace : Bool} :
    r.register tag l replace = .ok r' ↔
      (replace = true ∨ Text.normalize tag ∉ r.tags) ∧ r' = ⟨put (Text.normalize tag) l r.entries⟩ := by
  simp only [register, Bool.and_eq_true, isSome_lookup_iff, Bool.not_eq_true']
  split_ifs with h
  · simp only [false_iff, not_and_or, not_or, not_not]
    exact Or.inl ⟨by simp [h.2], h.1⟩
  · rw [not_and_or, Bool.not_eq_false] at h
    rw [Except.ok.injEq, eq_comm, iff_and_self]
    exact fun _ => h.symm

/-- What is offered is checked before the tag is. -/
theorem outcome_register (r : Registry) (tag : Text) (offer : Offer) (replace : Bool) :
    r.outcome (.register tag offer replace) = (do
      let l ← offer.read (Text.normalize tag)
      let registry ← (r.register tag l replace).mapError .fault
      .ok (registry, some l)) := by
  cases offer with
  | localization l =>
    rw [outcome, mapError_map, Offer.read]
    cases hregister : (r.register tag l replace).mapError LocaleFault.fault <;>
      simp [bind, Except.bind, Except.map, hregister]
  | record members =>
    rw [outcome, registerRecord, Offer.read]
    cases (Localization.ofMembers (Text.normalize tag) members).mapError LocaleFault.record with
    | error => rfl
    | ok l =>
      cases hregister : (r.register tag l replace).mapError LocaleFault.fault <;>
        simp [bind, Except.bind, Except.map, hregister]

theorem perform_eq_ok_iff {call : Call} {l : Option Localization} :
    r.perform call = (.ok l, r') ↔ r.outcome call = .ok (r', l) := by
  rw [perform]
  cases r.outcome call with
  | error f => simp
  | ok result => simp [Prod.ext_iff, and_comm]

theorem perform_register_eq_ok_iff {offer : Offer} {replace : Bool} {answer : Option Localization} :
    r.perform (.register tag offer replace) = (.ok answer, r') ↔
      ∃ l, answer = some l ∧ offer.read (Text.normalize tag) = .ok l ∧
        (replace = true ∨ Text.normalize tag ∉ r.tags) ∧ r' = ⟨put (Text.normalize tag) l r.entries⟩ := by
  rw [perform_eq_ok_iff, outcome_register, bind_eq_ok_iff]
  simp only [bind_eq_ok_iff, mapError_eq_ok_iff, register_eq_ok_iff, Except.ok.injEq, Prod.mk.injEq]
  constructor
  · rintro ⟨l, hread, registry, hregister, rfl, rfl⟩
    exact ⟨l, rfl, hread, hregister⟩
  · rintro ⟨l, rfl, hread, hregister⟩
    exact ⟨l, hread, r', hregister, rfl, rfl⟩

theorem perform_unregister_eq_ok (h : r.unregister tag = .ok r') :
    r.perform (.unregister tag) = (.ok none, r') := by
  rw [perform_eq_ok_iff, outcome, h]
  rfl

theorem unregister_of_builtin (r : Registry) (h : Localization.builtin.lookup (Text.normalize tag) = some l) :
    r.unregister tag = .ok ⟨put (Text.normalize tag) l r.entries⟩ := by
  simp only [unregister, h]

theorem unregister_of_host (h : Localization.builtin.lookup (Text.normalize tag) = none)
    (hmem : Text.normalize tag ∈ r.tags) :
    r.unregister tag = .ok ⟨r.entries.filter (·.1 ≠ Text.normalize tag)⟩ := by
  simp only [unregister, h, isSome_lookup_iff.mpr hmem, if_true]

/-- A tag gets a localization, or a host's tag goes. -/
theorem outcome_cases {call : Call} {answer : Option Localization} (h : r.outcome call = .ok (r', answer)) :
    (∃ tag l, r' = ⟨put (Text.normalize tag) l r.entries⟩) ∨
      ∃ key, key ∉ builtin.tags ∧ r' = ⟨r.entries.filter (·.1 ≠ key)⟩ := by
  cases call with
  | register tag offer replace =>
    rw [outcome_register] at h
    obtain ⟨l, -, h⟩ := bind_eq_ok_iff.mp h
    obtain ⟨registry, hregister, h⟩ := bind_eq_ok_iff.mp h
    rw [mapError_eq_ok_iff, register_eq_ok_iff] at hregister
    cases h
    exact Or.inl ⟨tag, l, hregister.2⟩
  | unregister tag =>
    rw [outcome, mapError_eq_ok_iff] at h
    obtain ⟨registry, hunregister, h⟩ := map_eq_ok_iff.mp h
    cases h
    cases hbuiltin : Localization.builtin.lookup (Text.normalize tag) with
    | some l =>
      rw [unregister_of_builtin r hbuiltin] at hunregister
      exact Or.inl ⟨tag, l, (Except.ok.inj hunregister).symm⟩
    | none =>
      simp only [unregister, hbuiltin] at hunregister
      split_ifs at hunregister
      exact Or.inr ⟨_, lookup_eq_none_iff_not_mem.mp hbuiltin, (Except.ok.inj hunregister).symm⟩

/-! ## Runs -/

structure WellFormed (r : Registry) : Prop where
  nodup : r.tags.Nodup
  builtin_first : builtin.tags <+: r.tags
  normal : ∀ tag ∈ r.tags, Text.normalize tag = tag

theorem wellFormed_builtin : WellFormed builtin := by
  refine ⟨by decide, List.prefix_rfl, ?_⟩
  decide

theorem WellFormed.put (h : r.WellFormed) (tag : Text) (l : Localization) :
    WellFormed ⟨put (Text.normalize tag) l r.entries⟩ := by
  have hgains := gains_put r tag l
  by_cases hmem : Text.normalize tag ∈ r.tags
  · have htags := hgains.tags_of_mem hmem
    exact ⟨htags ▸ h.nodup, htags ▸ h.builtin_first, htags ▸ h.normal⟩
  · have htags := hgains.tags_of_not_mem hmem
    refine ⟨?_, ?_, ?_⟩
    · rw [htags, ← List.concat_eq_append]
      exact List.Nodup.concat hmem h.nodup
    · rw [htags]
      exact h.builtin_first.trans (List.prefix_append ..)
    · rw [htags]
      intro other hother
      rcases List.mem_append.mp hother with hother | hother
      · exact h.normal other hother
      · rw [List.mem_singleton.mp hother, Text.normalize_normalize]

theorem WellFormed.filter (h : r.WellFormed) (hkey : key ∉ builtin.tags) :
    WellFormed ⟨r.entries.filter (·.1 ≠ key)⟩ := by
  have htags : tags ⟨r.entries.filter (·.1 ≠ key)⟩ = r.tags.filter (· ≠ key) := map_filter key r.entries
  have hbuiltin : builtin.tags.filter (· ≠ key) = builtin.tags :=
    List.filter_eq_self.mpr fun tag htag => decide_eq_true fun heq => hkey (heq ▸ htag)
  refine ⟨?_, ?_, ?_⟩
  · rw [htags]
    exact h.nodup.filter _
  · rw [htags, ← hbuiltin]
    exact h.builtin_first.filter _
  · rw [htags]
    exact fun tag htag => h.normal tag (List.mem_of_mem_filter htag)

theorem WellFormed.perform (h : r.WellFormed) (call : Call) : (r.perform call).2.WellFormed := by
  rw [Registry.perform]
  cases houtcome : r.outcome call with
  | error => exact h
  | ok result =>
    obtain ⟨r', answer⟩ := result
    obtain ⟨tag, l, rfl⟩ | ⟨key, hkey, rfl⟩ := outcome_cases houtcome
    · exact h.put tag l
    · exact h.filter hkey

/-- The registry after calls to the built-in one. -/
def run (calls : List Call) : Registry := calls.foldl (fun r call => (r.perform call).2) builtin

theorem WellFormed.foldl (h : r.WellFormed) (calls : List Call) :
    (calls.foldl (fun r call => (r.perform call).2) r).WellFormed := by
  induction calls generalizing r with
  | nil => exact h
  | cons call calls ih => exact ih (h.perform call)

theorem wellFormed_run (calls : List Call) : (run calls).WellFormed := wellFormed_builtin.foldl calls

theorem WellFormed.mem_tags (h : r.WellFormed) (hkey : key ∈ builtin.tags) : key ∈ r.tags :=
  h.builtin_first.subset hkey

theorem WellFormed.exists_get (h : r.WellFormed) (htag : Text.normalize tag ∈ builtin.tags) :
    ∃ l, r.get tag = .ok l := by
  simp only [get_eq_ok_iff]
  exact Option.isSome_iff_exists.mp (isSome_lookup_iff.mpr (h.mem_tags htag))

theorem WellFormed.lookup_builtin (h : r.WellFormed) (hkey : key ∉ r.tags) :
    Localization.builtin.lookup key = none :=
  lookup_eq_none_iff_not_mem.mpr fun hmem => hkey (h.mem_tags hmem)

/-! ## There and back -/

theorem filter_put (h : key ∉ entries.map (·.1)) : (put key l entries).filter (·.1 ≠ key) = entries := by
  have hkept : entries.filter (·.1 ≠ key) = entries :=
    List.filter_eq_self.mpr fun entry hentry => decide_eq_true fun heq =>
      h (heq ▸ List.mem_map_of_mem hentry)
  rw [put_of_not_mem h, List.filter_append, hkept]
  simp

/-- A tag that was not in use goes without a trace. -/
theorem WellFormed.unregister_put (h : r.WellFormed) (habsent : Text.normalize tag ∉ r.tags)
    {spelling : Text} (hspelling : Text.normalize spelling = Text.normalize tag) :
    unregister ⟨Registry.put (Text.normalize tag) l r.entries⟩ spelling = .ok r := by
  have hmem : Text.normalize tag ∈ tags ⟨Registry.put (Text.normalize tag) l r.entries⟩ := by
    rw [(gains_put r tag l).tags_of_not_mem habsent]
    exact List.mem_append_right _ List.mem_cons_self
  rw [unregister_of_host (hspelling ▸ h.lookup_builtin habsent) (hspelling ▸ hmem), hspelling,
    filter_put habsent]

theorem lookup_builtin_of_mem (h : (key, l) ∈ Localization.builtin) :
    Localization.builtin.lookup key = some l := by
  rw [Localization.builtin] at h ⊢
  simp only [List.mem_cons, Prod.mk.injEq, List.not_mem_nil, or_false] at h
  obtain ⟨rfl, rfl⟩ | ⟨rfl, rfl⟩ | ⟨rfl, rfl⟩ | ⟨rfl, rfl⟩ := h <;> rfl

/-- After any calls, the built-in tags come first, no tag comes twice, and each stands there as it is
looked up. From there on, a call that fails changes nothing. Registering succeeds when the offer is
valid and the tag is free or to be replaced, and it changes what its own tag gives and nothing else.
Unregistering takes back the registration of a new tag, and gives a built-in tag its own localization
whatever it had. -/
theorem perform_after_run (calls : List Call) :
    let r := run calls
    r.tags.Nodup ∧ (["en", "de", "fr", "tr"] : List Text) <+: r.tags ∧
      (∀ tag ∈ r.tags, Text.normalize tag = tag) ∧
      (∀ call f r', r.perform call = (.error f, r') → r' = r) ∧
      (∀ tag offer replace, (∃ answer r', r.perform (.register tag offer replace) = (.ok answer, r')) ↔
        (∃ l, offer.read (Text.normalize tag) = .ok l) ∧
          (replace = true ∨ Text.normalize tag ∉ r.tags)) ∧
      (∀ tag offer replace answer r', r.perform (.register tag offer replace) = (.ok answer, r') →
        ∃ l, answer = some l ∧ offer.read (Text.normalize tag) = .ok l ∧ r.Gains tag l r') ∧
      (∀ tag offer replace answer r', Text.normalize tag ∉ r.tags →
        r.perform (.register tag offer replace) = (.ok answer, r') →
        ∀ spelling, Text.normalize spelling = Text.normalize tag →
          r'.perform (.unregister spelling) = (.ok none, r)) ∧
      ∀ tag l, (Text.normalize tag, l) ∈ Localization.builtin →
        ∃ r', r.perform (.unregister tag) = (.ok none, r') ∧ r'.tags = r.tags ∧ r.Gains tag l r' := by
  intro r
  have hr : r.WellFormed := wellFormed_run calls
  refine ⟨hr.nodup, hr.builtin_first, hr.normal, ?fails, ?succeeds, ?registers, ?undoes, ?restores⟩
  case fails =>
    intro call f r' h
    rw [perform] at h
    split at h
    · simp at h
    · exact (Prod.mk.inj h).2.symm
  case succeeds =>
    intro tag offer replace
    simp only [perform_register_eq_ok_iff]
    constructor
    · rintro ⟨-, -, l, -, hread, hfree, -⟩
      exact ⟨⟨l, hread⟩, hfree⟩
    · rintro ⟨⟨l, hread⟩, hfree⟩
      exact ⟨_, _, l, rfl, hread, hfree, rfl⟩
  case registers =>
    intro tag offer replace answer r' h
    obtain ⟨l, rfl, hread, -, rfl⟩ := perform_register_eq_ok_iff.mp h
    exact ⟨l, rfl, hread, gains_put r tag l⟩
  case undoes =>
    intro tag offer replace answer r' habsent h spelling hspelling
    obtain ⟨l, -, -, -, rfl⟩ := perform_register_eq_ok_iff.mp h
    exact perform_unregister_eq_ok (hr.unregister_put habsent hspelling)
  case restores =>
    intro tag l hbuiltin
    have hgains := gains_put r tag l
    have hmem : Text.normalize tag ∈ r.tags := hr.mem_tags (List.mem_map_of_mem hbuiltin)
    exact ⟨_, perform_unregister_eq_ok (unregister_of_builtin r (lookup_builtin_of_mem hbuiltin)),
      hgains.tags_of_mem hmem, hgains⟩

end Registry

end DateShorthand
