import DateShorthand.Proofs.Locale.Keywords
import DateShorthand.Proofs.Shortcut.AbsoluteDate
import DateShorthand.Proofs.Shortcut.Clock
import DateShorthand.Shortcut.Resolver

/-!
# Written shortcuts

What a shortcut says, the instant that it means, and the texts that say it.
-/

namespace DateShorthand

/-! ## What is said -/

/-- Perhaps a sign, perhaps digits, and a keyword of the unit. -/
structure WrittenPart (l : Localization) where
  sign : Option Char
  digits : Text
  keyword : Text
  unit : CalendarUnit
  isSign : ∀ c ∈ sign, Tokens.isSign c = true
  isDecimal : ∀ c ∈ digits, Text.isDecimal c = true
  digits_le : digits.length ≤ Text.digitLimit
  firstUnit : l.firstUnit? keyword = some unit

/-- Without a keyword for today and a date, the first part has a sign or digits. -/
structure Written (l : Localization) where
  today : Option Text
  date : Option WrittenDate
  parts : List (WrittenPart l)
  workday : Bool
  clock : Option (Clock l.markers)
  today_mem : ∀ k ∈ today, k ∈ l.today
  starts : today = none → date = none → ∀ p ∈ parts.head?, p.sign.isSome ∨ p.digits ≠ []
  nonempty : today.isSome ∨ date.isSome ∨ parts ≠ [] ∨ workday = true ∨ clock.isSome

variable {l : Localization}

namespace WrittenPart

def text (p : WrittenPart l) : Text := p.sign.toList ++ (p.digits ++ p.keyword)

def toPart (p : WrittenPart l) : Part where
  raw := p.text
  negative := decide (p.sign = some '-')
  magnitude := if p.digits = [] then 1 else TrailingTime.numberOf p.digits
  keyword := p.keyword

def apply (p : WrittenPart l) (i : Instant) : Except Failure Instant := p.toPart.applyTo p.unit i

end WrittenPart

namespace Written

/-- A keyword for today or a date comes first. -/
def isAnchored (w : Written l) : Bool := w.today.isSome || w.date.isSome

def isBare (w : Written l) : Bool := !w.isAnchored && w.parts.isEmpty && !w.workday

theorem isBare_eq_false {w : Written l} (h : w.clock = none) : w.isBare = false := by
  rw [← Bool.not_eq_true]
  intro hbare
  obtain ⟨⟨htoday, hdate⟩, hparts, hworkday⟩ :
      (w.today = none ∧ w.date = none) ∧ w.parts = [] ∧ w.workday = false := by
    simpa [isBare, isAnchored, and_assoc] using hbare
  simpa [h, htoday, hdate, hparts, hworkday] using w.nonempty

/-! ## What is meant -/

def start (w : Written l) (r : Resolver) (separator : Char) (order : FieldOrder) :
    Except Failure Instant :=
  match w.date with
  | none => .ok r.startOfDay
  | some d =>
    (CalendarFault.guard (d.text separator) (d.date order r.reference.date.year)).map Instant.ofDate

def day (w : Written l) (r : Resolver) (separator : Char) (order : FieldOrder) :
    Except Failure Instant := do
  let start ← w.start r separator order
  let moved ← w.parts.foldlM (fun i p => p.apply i) start
  Resolver.toWorkday moved w.workday

def time (w : Written l) (shortcut inner : Text) : Except Failure (Option TimeOfDay) :=
  match w.clock with
  | none => .ok none
  | some c => ((c.value (Text.trim shortcut) (c.text inner)).mapError .fault).map some

/-- The instant that is meant. A wrong time is noticed before anything else is. -/
def meaning (w : Written l) (r : Resolver) (separator : Char) (order : FieldOrder)
    (shortcut inner : Text) : Except Failure Instant := do
  let time ← w.time shortcut inner
  let day ← if w.isBare then .ok r.reference else w.day r separator order
  .ok (r.settleTime time day)

end Written

/-! ## How it is written -/

/-- Texts of the parts, where something `follows` or not. Any gap may stand before a sign and after
it; a part without a sign needs one before it when it follows something. -/
inductive RendersParts : Bool → List (WrittenPart l) → Text → Prop
  | nil {follows : Bool} : RendersParts follows [] []
  | signed {follows : Bool} {p : WrittenPart l} {rest : List (WrittenPart l)} {gap inner t : Text}
      {c : Char} (hsign : p.sign = some c) (hgap : Text.IsGap gap) (hinner : Text.IsGap inner)
      (hfirst : follows = false → gap = []) (ht : RendersParts true rest t) :
      RendersParts follows (p :: rest) (gap ++ c :: (inner ++ (p.digits ++ (p.keyword ++ t))))
  | unsigned {follows : Bool} {p : WrittenPart l} {rest : List (WrittenPart l)} {gap t : Text}
      (hsign : p.sign = none) (hgap : Text.IsGap gap) (hfirst : follows = false ↔ gap = [])
      (ht : RendersParts true rest t) :
      RendersParts follows (p :: rest) (gap ++ (p.digits ++ (p.keyword ++ t)))

namespace Written

/-- Nothing stands between a keyword for today and a date. -/
def anchorText (w : Written l) (separator : Char) : Text :=
  w.today.getD [] ++ (w.date.map (·.text separator)).getD []

def markerText (w : Written l) (gap : Text) : Text :=
  if w.workday then gap ++ [Resolver.workdayMarker] else []

def clockText (w : Written l) (gap inner : Text) : Text :=
  match w.clock with
  | none => []
  | some c => gap ++ c.text inner

/-- Texts of everything but the time. -/
inductive RendersDay (w : Written l) (separator : Char) : Text → Prop
  | intro {parts gap : Text} (hparts : RendersParts w.isAnchored w.parts parts)
      (hgap : Text.IsGap gap) (hfirst : w.isAnchored = false → w.parts = [] → gap = []) :
      RendersDay w separator (w.anchorText separator ++ (parts ++ w.markerText gap))

/-- Texts of the shortcut with `inner` before the twelve-hour marker. A gap stands before a time
that follows something, and any gap around the whole. -/
inductive Renders (w : Written l) (separator : Char) (inner : Text) : Text → Prop
  | intro {before day gap after : Text} (hday : w.RendersDay separator day)
      (hbefore : Text.IsGap before) (hgap : Text.IsGap gap) (hinner : Text.IsGap inner)
      (hafter : Text.IsGap after) (hfirst : gap = [] ↔ day = []) :
      Renders w separator inner (before ++ (day ++ w.clockText gap inner) ++ after)

/-! ## Every written shortcut has a text -/

theorem isGap_space : Text.IsGap [' '] := by
  simp only [Text.IsGap, List.mem_singleton, forall_eq]
  decide

theorem exists_rendersParts (parts : List (WrittenPart l)) (follows : Bool) :
    ∃ t, RendersParts follows parts t := by
  induction parts generalizing follows with
  | nil => exact ⟨[], .nil⟩
  | cons p rest ih =>
    obtain ⟨t, ht⟩ := ih true
    cases hsign : p.sign with
    | some c => exact ⟨_, .signed hsign Text.isGap_nil Text.isGap_nil (fun _ => rfl) ht⟩
    | none =>
      cases follows with
      | true => exact ⟨_, .unsigned hsign isGap_space (by simp) ht⟩
      | false => exact ⟨_, .unsigned hsign Text.isGap_nil (by simp) ht⟩

theorem exists_renders (w : Written l) (separator : Char) {inner : Text} (hinner : Text.IsGap inner) :
    ∃ t, w.Renders separator inner t := by
  obtain ⟨parts, hparts⟩ := exists_rendersParts w.parts w.isAnchored
  have hday : w.RendersDay separator _ := .intro hparts Text.isGap_nil fun _ _ => rfl
  by_cases hempty : w.anchorText separator ++ (parts ++ w.markerText []) = []
  · exact ⟨_, .intro hday Text.isGap_nil Text.isGap_nil hinner Text.isGap_nil (by simp [hempty])⟩
  · exact ⟨_, .intro hday Text.isGap_nil isGap_space hinner Text.isGap_nil (by simpa using hempty)⟩

end Written

end DateShorthand
