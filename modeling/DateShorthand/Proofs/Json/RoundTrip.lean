import DateShorthand.Proofs.Json.Strings
import Mathlib.Data.List.Forall2
import Mathlib.Data.List.TakeWhile

/-!
# Written JSON is read back

A value without numbers, written with indentation, is read as what it was. Reading is said first of
texts that spell a value whatever follows them; longer ones are put together from shorter ones.
-/

namespace DateShorthand.Json

open Text (IsLine)

/-! ## Spaces -/

/-- Nothing but spaces, none of them a carriage return. -/
def IsSpacing (gap : Text) : Prop := ∀ c ∈ gap, isSpace c = true ∧ c ≠ '\r'

theorem isSpacing_newLine (level : Nat) : IsSpacing (newLine level) := by
  intro c hc
  rcases List.mem_cons.mp hc with rfl | hc
  · decide
  · rw [List.eq_of_mem_replicate hc]
    decide

theorem isSpacing_nil : IsSpacing [] := by simp [IsSpacing]

theorem isSpacing_blank : IsSpacing [' '] := List.forall_mem_singleton.mpr (by decide)

theorem IsSpacing.not_mem {gap : Text} (h : IsSpacing gap) : '\r' ∉ gap := fun hc => (h _ hc).2 rfl

theorem skipSpace_cons {c : Char} (hc : isSpace c = false) (position : Nat) (t : Text) :
    skipSpace ⟨position, c :: t⟩ = ⟨position, c :: t⟩ := by
  simp [skipSpace, hc]

theorem skipSpace_append {gap t : Text} (hgap : IsSpacing gap) {c : Char} (hhead : t.head? = some c)
    (hc : isSpace c = false) (position : Nat) :
    ∃ position', skipSpace ⟨position, gap ++ t⟩ = ⟨position', t⟩ := by
  obtain ⟨d, t, rfl⟩ : ∃ d t', t = d :: t' := List.exists_cons_of_ne_nil (by rintro rfl; simp at hhead)
  cases hhead
  exact ⟨_, congrArg _ ((List.dropWhile_append_of_pos fun d hd => (hgap d hd).1).trans (by simp [hc]))⟩

/-! ## Texts that spell a value -/

/-- What a value may begin with. -/
def openers : Text := ['"', '[', '\x7b', 'n', 't', 'f']

theorem isSpace_opener {c : Char} (h : c ∈ openers) : isSpace c = false := by
  revert c
  decide

/-- The text is read as the value whatever follows it, and it has no carriage return. -/
structure Spells (t : Text) (j : Json) : Prop where
  opens : ∃ c ∈ openers, t.head? = some c
  reads : ∀ fuel position rest, t.length ≤ fuel + 1 →
    ∃ position', readValue (fuel + 1) ⟨position, t ++ rest⟩ = .ok (j, ⟨position', rest⟩)
  lines : '\r' ∉ t

theorem Spells.exists_cons {t : Text} {j : Json} (h : Spells t j) :
    ∃ c t', c ∈ openers ∧ t = c :: t' := by
  obtain ⟨c, hc, hhead⟩ := h.opens
  cases t with
  | nil => simp at hhead
  | cons d t =>
    cases hhead
    exact ⟨c, t, hc, rfl⟩

theorem Spells.readValue {t : Text} {j : Json} (h : Spells t j) {fuel : Nat} (hfuel : t.length ≤ fuel)
    (position : Nat) (rest : Text) :
    ∃ position', readValue fuel ⟨position, t ++ rest⟩ = .ok (j, ⟨position', rest⟩) := by
  cases fuel with
  | zero =>
    obtain ⟨c, t, -, rfl⟩ := h.exists_cons
    simp at hfuel
  | succ fuel => exact h.reads fuel position rest hfuel

theorem Spells.skipSpace {t gap : Text} {j : Json} (h : Spells t j) (hgap : IsSpacing gap)
    (position : Nat) (rest : Text) :
    ∃ position', skipSpace ⟨position, gap ++ (t ++ rest)⟩ = ⟨position', t ++ rest⟩ := by
  obtain ⟨c, t, hc, rfl⟩ := h.exists_cons
  exact skipSpace_append hgap rfl (isSpace_opener hc) position

/-! ## Values without parts -/

theorem spells_null : Spells "null" null where
  opens := ⟨'n', by decide, rfl⟩
  reads _ _ _ _ := ⟨_, rfl⟩
  lines := by decide

theorem spells_bool (b : Bool) : Spells (if b then "true" else "false") (bool b) where
  opens := by cases b <;> exact ⟨_, by decide, rfl⟩
  reads _ _ _ _ := by cases b <;> exact ⟨_, rfl⟩
  lines := by cases b <;> decide

theorem spells_str (t : Text) : Spells (writeText true t) (str t) where
  opens := ⟨'"', by decide, rfl⟩
  reads fuel position rest _ := by
    obtain ⟨position', hread⟩ := stringFrom_flatMap position [] (position + 1) t rest
    refine ⟨position', ?_⟩
    simp [writeText, Json.readValue, hread, Except.map]
  lines := not_mem_writeText t

theorem spells_arr_nil : Spells "[]" (arr []) where
  opens := ⟨'[', by decide, rfl⟩
  reads _ _ _ _ := ⟨_, rfl⟩
  lines := by decide

theorem spells_obj_nil : Spells "\x7b\x7d" (obj []) where
  opens := ⟨'\x7b', by decide, rfl⟩
  reads _ _ _ _ := ⟨_, rfl⟩
  lines := by decide

/-! ## Elements between commas -/

theorem exists_joined_cons (separator t : Text) (ts : List Text) :
    ∃ more, Text.joined separator (t :: ts) = t ++ more := by
  cases ts with
  | nil => exact ⟨[], (List.append_nil t).symm⟩
  | cons u us => exact ⟨_, List.append_assoc ..⟩

theorem not_mem_joined {c : Char} {separator : Text} (hseparator : c ∉ separator) {ts : List Text}
    (h : ∀ t ∈ ts, c ∉ t) : c ∉ Text.joined separator ts := by
  induction ts with
  | nil => exact List.not_mem_nil
  | cons t ts ih =>
    cases ts with
    | nil => exact h t List.mem_cons_self
    | cons u us =>
      rw [Text.joined, List.mem_append, List.mem_append, not_or, not_or]
      · exact ⟨⟨h t List.mem_cons_self, hseparator⟩, ih fun t ht => h t (List.mem_cons_of_mem _ ht)⟩
      · simp

/-- A reader that takes one element after another, each as a text spells it, up to the closing
character. -/
structure ReadsElements {α : Type} (spells : Text → α → Prop) (closing : Char)
    (readElements : Nat → Input → Except ReadFault (List α × Input)) : Prop where
  opens : ∀ {t x}, spells t x → ∃ c t', t = c :: t' ∧ isSpace c = false ∧ c ≠ closing
  last : ∀ {t x}, spells t x → ∀ {fuel}, t.length ≤ fuel → ∀ {gap}, IsSpacing gap → ∀ position rest,
    ∃ p, readElements (fuel + 1) ⟨position, t ++ (gap ++ closing :: rest)⟩ = .ok ([x], ⟨p, rest⟩)
  next : ∀ {t x}, spells t x → ∀ {fuel}, t.length ≤ fuel → ∀ position rest,
    ∃ p, readElements (fuel + 1) ⟨position, t ++ ',' :: rest⟩ = (do
      let (xs, after) ← readElements fuel (skipSpace ⟨p, rest⟩)
      .ok (x :: xs, after))

section Elements

variable {α : Type} {spells : Text → α → Prop} {closing : Char}
  {readElements : Nat → Input → Except ReadFault (List α × Input)} {before gap gap' : Text}

theorem ReadsElements.skip (h : ReadsElements spells closing readElements) (hbefore : IsSpacing before)
    {t : Text} {x : α} (hx : spells t x) (ts : List Text) (position : Nat) (rest : Text) :
    ∃ p, skipSpace ⟨position, before ++ (Text.joined (',' :: gap) (t :: ts) ++ rest)⟩
      = ⟨p, Text.joined (',' :: gap) (t :: ts) ++ rest⟩ := by
  obtain ⟨c, t', rfl, hspace, -⟩ := h.opens hx
  obtain ⟨more, hmore⟩ := exists_joined_cons (',' :: gap) (c :: t') ts
  rw [hmore]
  exact skipSpace_append hbefore rfl hspace position

theorem ReadsElements.joined (h : ReadsElements spells closing readElements) (hgap : IsSpacing gap)
    (hgap' : IsSpacing gap') {t : Text} {x : α} (hx : spells t x) {ts : List Text} {xs : List α}
    (hxs : List.Forall₂ spells ts xs) {fuel : Nat}
    (hfuel : (Text.joined (',' :: gap) (t :: ts)).length ≤ fuel) (position : Nat) (rest : Text) :
    ∃ p, readElements (fuel + 1)
        ⟨position, Text.joined (',' :: gap) (t :: ts) ++ (gap' ++ closing :: rest)⟩
      = .ok (x :: xs, ⟨p, rest⟩) := by
  induction hxs generalizing t x fuel position with
  | nil => exact h.last hx hfuel hgap' position rest
  | @cons u y us ys hy hys ih =>
    have hjoined : Text.joined (',' :: gap) (t :: u :: us)
        = t ++ ',' :: (gap ++ Text.joined (',' :: gap) (u :: us)) := List.append_assoc ..
    rw [hjoined] at hfuel ⊢
    simp only [List.length_append, List.length_cons] at hfuel
    obtain ⟨fuel, rfl⟩ : ∃ k, fuel = k + 1 := Nat.exists_eq_add_one.mpr (by omega)
    have hfirst : t.length ≤ fuel + 1 := by omega
    have hothers : (Text.joined (',' :: gap) (u :: us)).length ≤ fuel := by omega
    rw [List.append_assoc, List.cons_append, List.append_assoc]
    obtain ⟨p, hread⟩ := h.next hx hfirst position
      (gap ++ (Text.joined (',' :: gap) (u :: us) ++ (gap' ++ closing :: rest)))
    obtain ⟨p', hskip⟩ := h.skip hgap hy us p (gap' ++ closing :: rest)
    obtain ⟨p'', hrest⟩ := ih hy hothers p'
    exact ⟨p'', by rw [hread, hskip, hrest, ok_bind]⟩

/-- Past the opening character and the spaces after it come the elements, not the closing one. -/
theorem ReadsElements.enclosed (h : ReadsElements spells closing readElements)
    (hbefore : IsSpacing before) (hgap : IsSpacing gap) (hgap' : IsSpacing gap') {ts : List Text}
    {xs : List α} (hxs : List.Forall₂ spells ts xs) (hne : xs ≠ []) {fuel : Nat}
    (hfuel : (Text.joined (',' :: gap) ts).length < fuel) (position : Nat) (rest : Text) :
    ∃ inside p,
      skipSpace ⟨position, before ++ (Text.joined (',' :: gap) ts ++ (gap' ++ closing :: rest))⟩ = inside ∧
        (∀ rest', inside.rest ≠ closing :: rest') ∧ readElements fuel inside = .ok (xs, ⟨p, rest⟩) := by
  cases hxs with
  | nil => exact absurd rfl hne
  | @cons t x ts xs hx hxs =>
    obtain ⟨fuel, rfl⟩ : ∃ k, fuel = k + 1 := Nat.exists_eq_add_one.mpr (by omega)
    obtain ⟨p, hskip⟩ := h.skip hbefore hx ts position (gap' ++ closing :: rest)
    obtain ⟨p', hread⟩ := h.joined hgap hgap' hx hxs (Nat.le_of_lt_succ hfuel) p rest
    refine ⟨_, p', hskip, fun rest' hclosed => ?_, hread⟩
    obtain ⟨c, t', rfl, -, hne⟩ := h.opens hx
    obtain ⟨more, hmore⟩ := exists_joined_cons (',' :: gap) (c :: t') ts
    rw [hmore, List.cons_append, List.cons_append, List.cons.injEq] at hclosed
    exact hne hclosed.1

end Elements

/-- Texts between brackets, with spacing inside the brackets and after each comma, stand on lines that end
in a line feed alone when they do. -/
theorem not_mem_enclosed {before gap gap' : Text} (hbefore : IsSpacing before) (hgap : IsSpacing gap)
    (hgap' : IsSpacing gap') {ts : List Text} (h : ∀ t ∈ ts, '\r' ∉ t) {opening closing : Char}
    (hopening : '\r' ≠ opening) (hclosing : '\r' ≠ closing) :
    '\r' ∉ opening :: before ++ Text.joined (',' :: gap) ts ++ gap' ++ [closing] := by
  have hseparator : '\r' ∉ ',' :: gap := List.not_mem_cons_of_ne_of_not_mem (by decide) hgap.not_mem
  simp only [List.mem_append, List.mem_cons, List.not_mem_nil, or_false, not_or]
  exact ⟨⟨⟨⟨hopening, hbefore.not_mem⟩, not_mem_joined hseparator h⟩, hgap'.not_mem⟩, hclosing⟩

/-! ## Arrays -/

theorem readsElements_items : ReadsElements Spells ']' readItems where
  opens h := by
    obtain ⟨c, t, hc, rfl⟩ := h.exists_cons
    refine ⟨c, t, rfl, isSpace_opener hc, ?_⟩
    rintro rfl
    exact absurd hc (by decide)
  last h _ hfuel gap hgap position rest := by
    obtain ⟨p, hread⟩ := h.readValue hfuel position (gap ++ ']' :: rest)
    obtain ⟨p', hskip⟩ := skipSpace_append hgap (t := ']' :: rest) rfl (by decide) p
    refine ⟨p' + 1, ?_⟩
    simp only [readItems, hread, ok_bind, hskip]
  next h _ hfuel position rest := by
    obtain ⟨p, hread⟩ := h.readValue hfuel position (',' :: rest)
    refine ⟨p + 1, ?_⟩
    simp only [readItems, hread, ok_bind, skipSpace_cons (c := ',') (by decide)]

theorem spells_arr {before gap gap' : Text} (hbefore : IsSpacing before) (hgap : IsSpacing gap)
    (hgap' : IsSpacing gap') {ts : List Text} {items : List Json} (hitems : List.Forall₂ Spells ts items)
    (hne : items ≠ []) :
    Spells ('[' :: before ++ Text.joined (',' :: gap) ts ++ gap' ++ [']']) (arr items) where
  opens := ⟨'[', by decide, rfl⟩
  reads fuel position rest hfuel := by
    simp only [List.cons_append, List.append_assoc, List.nil_append, List.length_cons,
      List.length_append, List.length_nil] at hfuel ⊢
    have hfuel : (Text.joined (',' :: gap) ts).length < fuel := by omega
    obtain ⟨inside, p, hskip, hopen, hread⟩ :=
      readsElements_items.enclosed hbefore hgap hgap' hitems hne hfuel (position + 1) rest
    refine ⟨p, ?_⟩
    rw [Json.readValue]
    -- the case of a closing character right away is ruled out by `hopen`
    simp only [hskip, hread, Except.map]
  lines :=
    have hlines := ((List.forall₂_and_left _ _).mp (hitems.imp fun _ _ h => ⟨h.lines, h⟩)).1
    not_mem_enclosed hbefore hgap hgap' hlines (by decide) (by decide)

/-! ## Objects -/

/-- The text spells the member: its name, and a text that spells its value. -/
def SpellsMember (t : Text) (member : Text × Json) : Prop :=
  ∃ value, Spells value member.2 ∧ t = writeText true member.1 ++ ':' :: ' ' :: value

theorem SpellsMember.exists_cons {t : Text} {member : Text × Json} (h : SpellsMember t member) :
    ∃ t', t = '"' :: t' := by
  obtain ⟨value, -, rfl⟩ := h
  exact ⟨_, rfl⟩

theorem SpellsMember.lines {t : Text} {member : Text × Json} (h : SpellsMember t member) : '\r' ∉ t := by
  obtain ⟨value, hvalue, rfl⟩ := h
  simp [not_mem_writeText, hvalue.lines]

theorem readMembers_member {t : Text} {member : Text × Json} (hmember : SpellsMember t member)
    {fuel : Nat} (hfuel : t.length ≤ fuel) (position : Nat) (rest : Text) :
    ∃ p, readMembers (fuel + 1) ⟨position, t ++ rest⟩ =
      let after := skipSpace ⟨p, rest⟩
      match after.rest with
      | '\x7d' :: rest => .ok ([member], ⟨after.position + 1, rest⟩)
      | ',' :: rest => do
        let (members, after) ← readMembers fuel (skipSpace ⟨after.position + 1, rest⟩)
        .ok (member :: members, after)
      | _ => expected "Expecting ',' delimiter" after.position := by
  obtain ⟨name, j⟩ := member
  obtain ⟨value, hvalue, rfl⟩ := hmember
  simp only [writeText, List.cons_append, List.append_assoc, List.nil_append, List.length_cons,
    List.length_append] at hfuel ⊢
  obtain ⟨p, hname⟩ := stringFrom_flatMap position [] (position + 1) name (':' :: ' ' :: (value ++ rest))
  obtain ⟨p', hskip⟩ := hvalue.skipSpace isSpacing_blank (p + 1) rest
  have hfuel : value.length ≤ fuel := by omega
  obtain ⟨p'', hread⟩ := hvalue.readValue hfuel p' rest
  rw [List.singleton_append] at hskip
  refine ⟨p'', ?_⟩
  rw [readMembers]
  simp only [hname, ok_bind, skipSpace_cons (c := ':') (by decide), hskip, hread]
  rfl

theorem readsElements_members : ReadsElements SpellsMember '\x7d' readMembers where
  opens h := by
    obtain ⟨t, rfl⟩ := h.exists_cons
    exact ⟨'"', t, rfl, by decide, by decide⟩
  last h _ hfuel gap hgap position rest := by
    obtain ⟨p, hread⟩ := readMembers_member h hfuel position (gap ++ '\x7d' :: rest)
    obtain ⟨p', hskip⟩ := skipSpace_append hgap (t := '\x7d' :: rest) rfl (by decide) p
    refine ⟨p' + 1, ?_⟩
    simp only [hread, hskip]
  next h _ hfuel position rest := by
    obtain ⟨p, hread⟩ := readMembers_member h hfuel position (',' :: rest)
    refine ⟨p + 1, ?_⟩
    simp only [hread, skipSpace_cons (c := ',') (by decide)]

@[simp] theorem setMember_nil {key : Text} {value : Json} : setMember key value [] = [(key, value)] := rfl

theorem setMember_cons {key : Text} {value : Json} {members : List (Text × Json)} (member : Text × Json) :
    setMember key value (member :: members) =
      if member.1 = key then (member.1, value) :: members
      else member :: setMember key value members := rfl

theorem setMember_of_not_mem {key : Text} {value : Json} {members : List (Text × Json)}
    (h : key ∉ members.map (·.1)) : setMember key value members = members ++ [(key, value)] := by
  induction members with
  | nil => rfl
  | cons member members ih =>
    rw [List.map_cons, List.mem_cons, not_or] at h
    rw [setMember_cons, if_neg (Ne.symm h.1), ih h.2]
    rfl

theorem foldl_setMember {done members : List (Text × Json)} (h : ((done ++ members).map (·.1)).Nodup) :
    members.foldl (fun done (key, value) => setMember key value done) done = done ++ members := by
  induction members generalizing done with
  | nil => exact (List.append_nil done).symm
  | cons member members ih =>
    obtain ⟨name, value⟩ := member
    have hnew : name ∉ done.map (·.1) := by
      rw [List.map_append, List.map_cons, List.nodup_append] at h
      exact fun hmem => h.2.2 _ hmem _ List.mem_cons_self rfl
    rw [List.append_cons] at h ⊢
    rw [List.foldl_cons]
    dsimp only
    rw [setMember_of_not_mem hnew, ih h]

/-- Members with names of their own make an object as they are. -/
theorem ofMembers_of_nodup {members : List (Text × Json)} (h : (members.map (·.1)).Nodup) :
    ofMembers members = obj members := congrArg obj (foldl_setMember h)

theorem spells_obj {before gap gap' : Text} (hbefore : IsSpacing before) (hgap : IsSpacing gap)
    (hgap' : IsSpacing gap') {ts : List Text} {members : List (Text × Json)}
    (hmembers : List.Forall₂ SpellsMember ts members) (hne : members ≠ [])
    (hnames : (members.map (·.1)).Nodup) :
    Spells ('\x7b' :: before ++ Text.joined (',' :: gap) ts ++ gap' ++ ['\x7d']) (obj members) where
  opens := ⟨'\x7b', by decide, rfl⟩
  reads fuel position rest hfuel := by
    simp only [List.cons_append, List.append_assoc, List.nil_append, List.length_cons,
      List.length_append, List.length_nil] at hfuel ⊢
    have hfuel : (Text.joined (',' :: gap) ts).length < fuel := by omega
    obtain ⟨inside, p, hskip, hopen, hread⟩ :=
      readsElements_members.enclosed hbefore hgap hgap' hmembers hne hfuel (position + 1) rest
    refine ⟨p, ?_⟩
    rw [Json.readValue]
    simp only [hskip, hread, Except.map, ofMembers_of_nodup hnames]
  lines :=
    have hlines := ((List.forall₂_and_left _ _).mp (hmembers.imp fun _ _ h => ⟨h.lines, h⟩)).1
    not_mem_enclosed hbefore hgap hgap' hlines (by decide) (by decide)

/-! ## Any value -/

mutual

/-- No number is in the value, and the members of every object have names of their own. -/
def Storable : Json → Prop
  | null | bool _ | str _ => True
  | int _ | real _ => False
  | arr items => StorableItems items
  | obj members => (members.map (·.1)).Nodup ∧ StorableMembers members

def StorableItems : List Json → Prop
  | [] => True
  | item :: rest => Storable item ∧ StorableItems rest

def StorableMembers : List (Text × Json) → Prop
  | [] => True
  | (_, value) :: rest => Storable value ∧ StorableMembers rest

end

mutual

theorem spells_indented : (level : Nat) → (j : Json) → j.Storable → Spells (indented level j) j
  | level, null, _ => by
    simp only [indented, write, writeScalar]
    exact spells_null
  | level, bool b, _ => by
    simp only [indented, write, writeScalar]
    exact spells_bool b
  | level, str t, _ => by
    simp only [indented, write, writeScalar]
    exact spells_str t
  | _, int _, h => h.elim
  | _, real _, h => h.elim
  | level, arr [], _ => by
    simp only [indented, write, writeItems]
    exact spells_arr_nil
  | level, arr (item :: rest), h => by
    rw [indented]
    exact spells_arr (isSpacing_newLine _) (isSpacing_newLine _) (isSpacing_newLine _)
      (spells_indentedItems (level + 1) (item :: rest) h) (List.cons_ne_nil _ _)
  | level, obj [], _ => by
    simp only [indented, write, writeMembers]
    exact spells_obj_nil
  | level, obj (member :: rest), h => by
    rw [indented]
    exact spells_obj (isSpacing_newLine _) (isSpacing_newLine _) (isSpacing_newLine _)
      (spells_indentedMembers (level + 1) (member :: rest) h.2) (List.cons_ne_nil _ _) h.1

theorem spells_indentedItems : (level : Nat) → (items : List Json) → StorableItems items →
    List.Forall₂ Spells (indentedItems level items) items
  | _, [], _ => .nil
  | level, item :: rest, h => .cons (spells_indented level item h.1) (spells_indentedItems level rest h.2)

theorem spells_indentedMembers : (level : Nat) → (members : List (Text × Json)) →
    StorableMembers members → List.Forall₂ SpellsMember (indentedMembers level members) members
  | _, [], _ => .nil
  | level, (_, value) :: rest, h =>
    .cons ⟨_, spells_indented level value h.1, rfl⟩ (spells_indentedMembers level rest h.2)

end

mutual

theorem spells_write : (j : Json) → j.Storable → Spells (write true j) j
  | null, _ => by
    simp only [write, writeScalar]
    exact spells_null
  | bool b, _ => by
    simp only [write, writeScalar]
    exact spells_bool b
  | str t, _ => by
    simp only [write, writeScalar]
    exact spells_str t
  | int _, h => h.elim
  | real _, h => h.elim
  | arr [], _ => by
    simp only [write, writeItems]
    exact spells_arr_nil
  | arr (item :: rest), h => by
    rw [write]
    have hitems := spells_writeItems (item :: rest) h
    simpa using spells_arr isSpacing_nil isSpacing_blank isSpacing_nil hitems (List.cons_ne_nil _ _)
  | obj [], _ => by
    simp only [write, writeMembers]
    exact spells_obj_nil
  | obj (member :: rest), h => by
    rw [write]
    have hmembers := spells_writeMembers (member :: rest) h.2
    simpa using spells_obj isSpacing_nil isSpacing_blank isSpacing_nil hmembers (List.cons_ne_nil _ _) h.1

theorem spells_writeItems : (items : List Json) → StorableItems items →
    List.Forall₂ Spells (writeItems true items) items
  | [], _ => .nil
  | item :: rest, h => .cons (spells_write item h.1) (spells_writeItems rest h.2)

theorem spells_writeMembers : (members : List (Text × Json)) → StorableMembers members →
    List.Forall₂ SpellsMember (writeMembers true members) members
  | [], _ => .nil
  | (_, value) :: rest, h => .cons ⟨_, spells_write value h.1, rfl⟩ (spells_writeMembers rest h.2)

end

theorem isLine_joined {separator : Text} (hseparator : IsLine separator) {ts : List Text}
    (h : ∀ t ∈ ts, IsLine t) : IsLine (Text.joined separator ts) := by
  intro c hc
  by_contra hcontrol
  have hlt : c.toNat < 0x20 := Nat.lt_of_not_le hcontrol
  exact not_mem_joined (hseparator.not_mem hlt) (fun t ht => (h t ht).not_mem hlt) hc

mutual

/-- What is written as one line is on one line. -/
theorem isLine_write : (j : Json) → j.Storable → IsLine (write true j)
  | null, _ => by simp [write, writeScalar]
  | bool b, _ => by cases b <;> simp [write, writeScalar]
  | str t, _ => by
    simp only [write, writeScalar]
    exact isLine_writeText t
  | int _, h => h.elim
  | real _, h => h.elim
  | arr items, h => by
    have hitems : IsLine (Text.joined [',', ' '] (writeItems true items)) :=
      isLine_joined (by simp) (isLine_writeItems items h)
    simp [write, hitems]
  | obj members, h => by
    have hmembers : IsLine (Text.joined [',', ' '] (writeMembers true members)) :=
      isLine_joined (by simp) (isLine_writeMembers members h.2)
    simp [write, hmembers]

theorem isLine_writeItems : (items : List Json) → StorableItems items →
    ∀ t ∈ writeItems true items, IsLine t
  | [], _, t, ht => absurd ht List.not_mem_nil
  | item :: rest, h, t, ht => by
    rw [writeItems, List.mem_cons] at ht
    obtain rfl | ht := ht
    · exact isLine_write item h.1
    · exact isLine_writeItems rest h.2 t ht

theorem isLine_writeMembers : (members : List (Text × Json)) → StorableMembers members →
    ∀ t ∈ writeMembers true members, IsLine t
  | [], _, t, ht => absurd ht List.not_mem_nil
  | (name, value) :: rest, h, t, ht => by
    rw [writeMembers, List.mem_cons] at ht
    obtain rfl | ht := ht
    · simp [isLine_writeText, isLine_write value h.1]
    · exact isLine_writeMembers rest h.2 t ht

end

/-- A text that spells a value is read as that value, also with spaces behind it. -/
theorem Spells.read {t gap : Text} {j : Json} (h : Spells t j) (hgap : IsSpacing gap) :
    Json.read (t ++ gap) = .ok j := by
  obtain ⟨c, t', hc, ht⟩ := h.exists_cons
  have hmark : (t ++ gap).head? ≠ some '\ufeff' := by
    rw [ht]
    rintro ⟨rfl⟩
    exact absurd hc (by decide)
  have hfuel : t.length ≤ (t ++ gap).length + 1 := by
    rw [List.length_append]
    omega
  obtain ⟨p, hread⟩ := h.readValue hfuel 0 gap
  have hskip : Json.skipSpace ⟨0, t ++ gap⟩ = ⟨0, t ++ gap⟩ := by
    rw [ht]
    exact skipSpace_cons (isSpace_opener hc) 0 _
  have hend : (Json.skipSpace ⟨p, gap⟩).rest = [] :=
    List.dropWhile_eq_nil_iff.mpr fun d hd => (hgap d hd).1
  rw [Json.read, if_neg hmark, hskip, hread, ok_bind]
  simp only [hend]
  rfl

/-- Written with indentation, a value is read as what it was. -/
theorem read_indented {j : Json} (h : j.Storable) : read (indented 0 j) = .ok j := by
  have hread := (spells_indented 0 j h).read isSpacing_nil
  rwa [List.append_nil] at hread

/-- Written as one line, a value is read as what it was. -/
theorem read_write {j : Json} (h : j.Storable) : read (write true j ++ ['\n']) = .ok j :=
  (spells_write j h).read (isSpacing_newLine 0)

end DateShorthand.Json
