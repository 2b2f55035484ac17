import DateShorthand.Fault
import DateShorthand.Locale.Builtin
import DateShorthand.Locale.Record

/-!
# Registries

A registry holds localizations under tags, in the order in which the tags were registered. Tags are
compared without blanks around them and in lower case. The built-in tags are always there.
-/

namespace DateShorthand

/-- How a localization is asked for: by tag or as a record. -/
inductive LocaleSpec where
  | tag (t : Text)
  | record (members : List (Text × Json))
deriving Repr

/-- Why no localization was found or made. -/
inductive LocaleFault where
  | fault (f : Fault)
  | record (f : RecordFault)
deriving DecidableEq, Repr

structure Registry where
  entries : List (Text × Localization)
deriving DecidableEq, Repr

namespace Registry

def builtin : Registry := ⟨Localization.builtin⟩

def tags (r : Registry) : List Text := r.entries.map (·.1)

def get (r : Registry) (tag : Text) : Except Fault Localization :=
  match r.entries.lookup (Text.normalize tag) with
  | some l => .ok l
  | none => .error (.unknownLocale tag)

/-- Gives `key` the localization, in its old place or at the end. -/
def put (key : Text) (l : Localization) : List (Text × Localization) → List (Text × Localization)
  | [] => [(key, l)]
  | (k, old) :: rest => if k = key then (k, l) :: rest else (k, old) :: put key l rest

/-- Registers a localization. A tag in use is only given another one on demand. -/
def register (r : Registry) (tag : Text) (l : Localization) (replace : Bool) :
    Except Fault Registry :=
  let key := Text.normalize tag
  if (r.entries.lookup key).isSome && !replace then .error (.localeRegistered tag)
  else .ok ⟨put key l r.entries⟩

/-- Registers the localization of a record, named after its tag unless it has a name. -/
def registerRecord (r : Registry) (tag : Text) (members : List (Text × Json)) (replace : Bool) :
    Except LocaleFault (Registry × Localization) := do
  let l ← (Localization.ofMembers (Text.normalize tag) members).mapError LocaleFault.record
  let registry ← (r.register tag l replace).mapError LocaleFault.fault
  .ok (registry, l)

/-- Removes a tag. A built-in tag gets back its own localization instead. -/
def unregister (r : Registry) (tag : Text) : Except Fault Registry :=
  let key := Text.normalize tag
  match Localization.builtin.lookup key with
  | some l => .ok ⟨put key l r.entries⟩
  | none =>
    if (r.entries.lookup key).isSome then .ok ⟨r.entries.filter (·.1 ≠ key)⟩
    else .error (.unknownLocale tag)

/-! ## Calls -/

/-- What is offered for registration. -/
inductive Offer where
  | localization (l : Localization)
  | record (members : List (Text × Json))
deriving Repr

/-- A call that may change a registry. -/
inductive Call where
  | register (tag : Text) (offer : Offer) (replace : Bool)
  | unregister (tag : Text)
deriving Repr

/-- The registry that a call makes, and the localization that it registered. -/
def outcome (r : Registry) : Call → Except LocaleFault (Registry × Option Localization)
  | .register tag (.localization l) replace =>
    ((r.register tag l replace).map fun registry => (registry, some l)).mapError .fault
  | .register tag (.record members) replace =>
    (r.registerRecord tag members replace).map fun (registry, l) => (registry, some l)
  | .unregister tag => ((r.unregister tag).map fun registry => (registry, none)).mapError .fault

/-- What a call answers and the registry behind it. A call that fails leaves the registry as it
was. -/
def perform (r : Registry) (call : Call) : Except LocaleFault (Option Localization) × Registry :=
  match r.outcome call with
  | .ok (registry, l) => (.ok l, registry)
  | .error f => (.error f, r)

/-! ## Asking for a localization -/

def resolve (r : Registry) : LocaleSpec → Except LocaleFault Localization
  | .tag t => (r.get t).mapError .fault
  | .record members => (Localization.ofMembers Localization.unnamed members).mapError .record

end Registry

end DateShorthand
