import DateShorthand.Calendar.Date

/-!
# Time of day

A wall-clock time to the second.
-/

namespace DateShorthand

structure TimeOfDay where
  hour : Fin 24
  minute : Fin 60
  second : Fin 60
deriving DecidableEq, Repr

namespace TimeOfDay

def midnight : TimeOfDay := ⟨0, 0, 0⟩

def ofFields? (hour minute second : Nat) : Option TimeOfDay :=
  if h : hour < 24 ∧ minute < 60 ∧ second < 60 then
    some ⟨⟨hour, h.1⟩, ⟨minute, h.2.1⟩, ⟨second, h.2.2⟩⟩
  else none

/-- Seconds since midnight. -/
def seconds (t : TimeOfDay) : Nat := 3600 * t.hour + 60 * t.minute + t.second

/-- The time a number of seconds after midnight, whole days left out. -/
def ofSeconds (n : Nat) : TimeOfDay :=
  ⟨⟨n / 3600 % 24, Nat.mod_lt _ (by decide)⟩, ⟨n / 60 % 60, Nat.mod_lt _ (by decide)⟩,
   ⟨n % 60, Nat.mod_lt _ (by decide)⟩⟩

/-- `HH:MM:SS`. -/
def iso (t : TimeOfDay) : Text :=
  Text.padded 2 t.hour ++ ':' :: Text.padded 2 t.minute ++ ':' :: Text.padded 2 t.second

end TimeOfDay

end DateShorthand
