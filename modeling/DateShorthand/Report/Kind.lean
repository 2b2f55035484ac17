import DateShorthand.Text.Basic

/-!
# Kinds of errors

Errors form a tree of kinds. Each kind has a code that stays the same, a message for when nothing
better is known, and texts for the person who typed the shortcut.
-/

namespace DateShorthand

inductive ErrorKind where
  | shortcut
  | locale
  | unknownLocale
  | localeAlreadyRegistered
  | configuration
  | invalidDefaultTimeFormat
  | invalidDefaultTimeValue
  | invalidConfig
  | shortcutSyntax
  | emptyShortcut
  | invalidPartFormat
  | unknownUnit
  | timeExpression
  | invalidTimeFormat
  | invalidHour
  | invalidAmPmHour
  | calendar
  | weekdayNotFound
  | dateOutOfRange
deriving DecidableEq, Repr

namespace ErrorKind

def all : List ErrorKind :=
  [shortcut, locale, unknownLocale, localeAlreadyRegistered, configuration,
   invalidDefaultTimeFormat, invalidDefaultTimeValue, invalidConfig, shortcutSyntax, emptyShortcut,
   invalidPartFormat, unknownUnit, timeExpression, invalidTimeFormat, invalidHour, invalidAmPmHour,
   calendar, weekdayNotFound, dateOutOfRange]

/-- From the kind itself up to the kind of all errors. -/
def ancestry : ErrorKind → List ErrorKind
  | shortcut => [shortcut]
  | locale => [locale, shortcut]
  | unknownLocale => [unknownLocale, locale, shortcut]
  | localeAlreadyRegistered => [localeAlreadyRegistered, locale, shortcut]
  | configuration => [configuration, shortcut]
  | invalidDefaultTimeFormat => [invalidDefaultTimeFormat, configuration, shortcut]
  | invalidDefaultTimeValue => [invalidDefaultTimeValue, configuration, shortcut]
  | invalidConfig => [invalidConfig, configuration, shortcut]
  | shortcutSyntax => [shortcutSyntax, shortcut]
  | emptyShortcut => [emptyShortcut, shortcutSyntax, shortcut]
  | invalidPartFormat => [invalidPartFormat, shortcutSyntax, shortcut]
  | unknownUnit => [unknownUnit, shortcutSyntax, shortcut]
  | timeExpression => [timeExpression, shortcutSyntax, shortcut]
  | invalidTimeFormat => [invalidTimeFormat, timeExpression, shortcutSyntax, shortcut]
  | invalidHour => [invalidHour, timeExpression, shortcutSyntax, shortcut]
  | invalidAmPmHour => [invalidAmPmHour, timeExpression, shortcutSyntax, shortcut]
  | calendar => [calendar, shortcut]
  | weekdayNotFound => [weekdayNotFound, calendar, shortcut]
  | dateOutOfRange => [dateOutOfRange, calendar, shortcut]

def code : ErrorKind → Text
  | shortcut => "SHORTCUT_ERROR"
  | locale => "LOCALE_ERROR"
  | unknownLocale => "UNKNOWN_LOCALE"
  | localeAlreadyRegistered => "LOCALE_ALREADY_REGISTERED"
  | configuration => "CONFIGURATION_ERROR"
  | invalidDefaultTimeFormat => "INVALID_DEFAULT_TIME_FORMAT"
  | invalidDefaultTimeValue => "INVALID_DEFAULT_TIME_VALUE"
  | invalidConfig => "INVALID_CONFIG"
  | shortcutSyntax => "SHORTCUT_SYNTAX_ERROR"
  | emptyShortcut => "EMPTY_SHORTCUT"
  | invalidPartFormat => "INVALID_PART_FORMAT"
  | unknownUnit => "UNKNOWN_UNIT"
  | timeExpression => "TIME_EXPRESSION_ERROR"
  | invalidTimeFormat => "INVALID_TIME_FORMAT"
  | invalidHour => "INVALID_HOUR"
  | invalidAmPmHour => "INVALID_AM_PM_HOUR"
  | calendar => "CALENDAR_ERROR"
  | weekdayNotFound => "WEEKDAY_NOT_FOUND"
  | dateOutOfRange => "DATE_OUT_OF_RANGE"

def ofCode? (code : Text) : Option ErrorKind := all.find? (·.code = code)

/-- The message of an error that comes without one. -/
def defaultMessage : ErrorKind → Text
  | shortcut => "The date shortcut could not be processed"
  | locale => "Locale could not be resolved"
  | unknownLocale => "Unknown locale"
  | localeAlreadyRegistered => "Locale already registered"
  | configuration => "Configuration error"
  | invalidDefaultTimeFormat => "Invalid default time format"
  | invalidDefaultTimeValue => "Invalid default time value"
  | invalidConfig => "Invalid configuration"
  | shortcutSyntax => "Malformed date shortcut"
  | emptyShortcut => "Shortcut string cannot be empty."
  | invalidPartFormat => "Invalid relative part"
  | unknownUnit => "Unknown unit"
  | timeExpression => "Invalid time expression"
  | invalidTimeFormat => "Invalid time format"
  | invalidHour => "Invalid hour"
  | invalidAmPmHour => "Invalid hour for AM/PM format"
  | calendar => "Date calculation failed"
  | weekdayNotFound => "Weekday not found"
  | dateOutOfRange => "Date out of range"

/-- Whether another input can mend it. Locales and settings are not in the hands of the person who
types. -/
def recoverable : ErrorKind → Bool
  | unknownLocale | localeAlreadyRegistered | configuration | invalidDefaultTimeFormat
  | invalidDefaultTimeValue | invalidConfig => false
  | _ => true

/-! ## Texts for people -/

def userMessage : ErrorKind → Text
  | shortcut => "We couldn't understand this date. Please try again."
  | locale => "The language settings could not be loaded."
  | unknownLocale => "This language is not supported."
  | localeAlreadyRegistered => "A language with this name already exists."
  | configuration => "There's a configuration issue."
  | invalidDefaultTimeFormat => "The default time is not written as HH, HH:MM or HH:MM:SS."
  | invalidDefaultTimeValue => "The default time is not a valid time of day."
  | invalidConfig => "The configuration is invalid. Check settings."
  | shortcutSyntax => "We couldn't understand this date."
  | emptyShortcut => "Please enter a date."
  | invalidPartFormat => "Part of this date isn't written correctly."
  | unknownUnit => "This date uses a unit we don't recognize."
  | timeExpression => "The time in this date isn't valid."
  | invalidTimeFormat => "Minutes and seconds must be between 00 and 59."
  | invalidHour => "Hours must be between 0 and 23."
  | invalidAmPmHour => "With am/pm, hours must be between 1 and 12."
  | calendar => "We couldn't calculate this date."
  | weekdayNotFound => "That month doesn't have that many working days."
  | dateOutOfRange => "The resulting date is too far in the past or future."

def suggestion : ErrorKind → Text
  | shortcut => "If this persists, please report the issue."
  | locale => "Check the available languages with: dateshortcut locales"
  | unknownLocale => "Use one of the built-in locales: en, de, fr, tr."
  | localeAlreadyRegistered => "Pass replace=True to overwrite the existing locale."
  | configuration => "Check config: dateshortcut config show"
  | invalidDefaultTimeFormat => "Use a value like '09', '09:30' or '09:30:00'."
  | invalidDefaultTimeValue => "Hours go from 0 to 23, minutes and seconds from 0 to 59."
  | invalidConfig => "Re-create the file with: dateshortcut config init"
  | shortcutSyntax => "Try something like 't', '+3d' or '1y 2m -3d'."
  | emptyShortcut => "Type 't' for today, or an offset like '+2w'."
  | invalidPartFormat => "Write offsets as sign, number and unit, e.g. '+3d' or '-1w'."
  | unknownUnit => "Use units like d (day), w (week), m (month), y (year) or wd (weekday)."
  | timeExpression => "Put the time at the end, e.g. 't 17:30' or 't 5:30pm'."
  | invalidTimeFormat => "Use a time like '9:05' or '17:30:15'."
  | invalidHour => "Use a 24-hour time like '17:30'."
  | invalidAmPmHour => "Use a time like '12am', '5pm' or '11:30am'."
  | calendar => "Try a simpler date expression."
  | weekdayNotFound => "Use a smaller number, e.g. '1wd' for the first working day."
  | dateOutOfRange => "Use a smaller offset."

end ErrorKind

end DateShorthand
