import DateShorthand.Locale.Basic

/-!
# Built-in localizations

English, German, French and Turkish.
-/

namespace DateShorthand

/-! ## Dates -/

/-- Two numbers and perhaps a year, between separators. -/
def DatePattern.separated (separator : Char) : Regex :=
  .ofList
    [.anchor .start, .group 1 (.ofList [Regex.decimals 1 2]), .char separator,
     .group 2 (.ofList [Regex.decimals 1 2]),
     Regex.optional (.ofList [.char separator, .group 3 (.ofList [Regex.decimals 2 4])])]

def DatePattern.slashes (order : FieldOrder) : DatePattern where
  source := "^(\\d\x7b1,2\x7d)/(\\d\x7b1,2\x7d)(?:/(\\d\x7b2,4\x7d))?"
  regex := ⟨separated '/', 3, false⟩
  order := order
  two_le_groups := by decide

def DatePattern.dots : DatePattern where
  source := "^(\\d\x7b1,2\x7d)\\.(\\d\x7b1,2\x7d)(?:\\.(\\d\x7b2,4\x7d))?"
  regex := ⟨separated '.', 3, false⟩
  order := .dayFirst
  two_le_groups := by decide

/-- The tree of a slash pattern is what its source says. -/
theorem DatePattern.slashes_regex (order : FieldOrder) :
    (Regex.compile (slashes order).source).toOption = some (slashes order).regex := by
  cases order <;> decide +kernel

/-- The tree of the dot pattern is what its source says. -/
theorem DatePattern.dots_regex : (Regex.compile dots.source).toOption = some dots.regex := by
  decide +kernel

/-! ## Tables -/

namespace Localization

def english : Localization where
  name := "en"
  year := ["y", "yr", "year", "years"]
  month := ["m", "mo", "month", "months"]
  week := ["w", "wk", "week", "weeks"]
  day := ["d", "day", "days"]
  today := ["t", "today", "now"]
  weekday := ["wd", "weekday", "weekdays"]
  am := ["am"]
  pm := ["pm"]
  datePatterns := [.slashes .monthFirst]

def german : Localization where
  name := "de"
  year := ["j", "jahr", "jahre"]
  month := ["m", "monat", "monate"]
  week := ["w", "woche", "wochen"]
  day := ["t", "tag", "tage", "d"]
  today := ["h", "heute", "jetzt"]
  weekday := ["wt", "werktag", "werktage"]
  am := []
  pm := []
  datePatterns := [.dots]

/-- The keyword `a` is listed for years and for today; after a number it means years. -/
def french : Localization where
  name := "fr"
  year := ["a", "an", "année", "années"]
  month := ["m", "mois"]
  week := ["s", "sem", "semaine", "semaines"]
  day := ["j", "jour", "jours"]
  today := ["a", "aujourdhui", "maintenant"]
  weekday := ["jo", "jourouvrable", "joursouvrables"]
  am := []
  pm := []
  datePatterns := [.slashes .dayFirst]

def turkish : Localization where
  name := "tr"
  year := ["y", "yıl"]
  month := ["a", "ay"]
  week := ["h", "hafta"]
  day := ["g", "gün"]
  today := ["b", "bugün", "şimdi"]
  weekday := ["ig", "işgünü", "işgünleri"]
  am := []
  pm := []
  datePatterns := [.dots]

/-- The built-in localizations under their tags. -/
def builtin : List (Text × Localization) :=
  [("en", english), ("de", german), ("fr", french), ("tr", turkish)]

end Localization

end DateShorthand
