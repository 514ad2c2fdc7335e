/-!
# Languages of dates

A language gives the order in which the numbers of a date stand and a vocabulary: the words that
may appear in a date, each with the common word that it means.  Words that say nothing mean the
empty word.  Common words are those of English, and every word is written in base form.
-/

namespace Phrasebook

/-- The three numbers of a date. -/
inductive DatePart where
  | day
  | month
  | year
  deriving DecidableEq, Repr

/-- `writesHours` says that hours may be written like `17h` and `17h30`, and noon and midnight by
name. -/
structure DateLanguage where
  order : List DatePart
  writesHours : Bool
  vocabulary : List (String × List String)
  deriving Repr

namespace DateLanguage

def monthNames : List String :=
  ["january", "february", "march", "april", "may", "june", "july", "august", "september",
    "october", "november", "december"]

def weekdayNames : List String :=
  ["monday", "tuesday", "wednesday", "thursday", "friday", "saturday", "sunday"]

/-- The common words that count time. -/
def unitNames : List String :=
  ["day", "week", "month", "year", "hour", "minute", "second"]

/-- Halves of the day and names of universal time belong to every language. -/
def sharedVocabulary : List (String × List String) :=
  [("am", ["am"]), ("pm", ["pm"]), ("UTC", ["utc"]), ("GMT", ["gmt"]), ("Z", ["z"]), ("", ["t"])]

def english : DateLanguage where
  order := [.month, .day, .year]
  writesHours := true
  vocabulary := sharedVocabulary ++ [
    ("january", ["january", "jan"]), ("february", ["february", "feb"]),
    ("march", ["march", "mar"]), ("april", ["april", "apr"]), ("may", ["may"]),
    ("june", ["june", "jun"]), ("july", ["july", "jul"]), ("august", ["august", "aug"]),
    ("september", ["september", "sep", "sept"]), ("october", ["october", "oct"]),
    ("november", ["november", "nov"]), ("december", ["december", "dec"]),
    ("monday", ["monday", "mon"]), ("tuesday", ["tuesday", "tue", "tues"]),
    ("wednesday", ["wednesday", "wed"]), ("thursday", ["thursday", "thu", "thur", "thurs"]),
    ("friday", ["friday", "fri"]), ("saturday", ["saturday", "sat"]), ("sunday", ["sunday", "sun"]),
    ("decade", ["decade", "decades"]), ("year", ["year", "years", "y", "yr", "yrs"]),
    ("month", ["month", "months", "mo"]), ("week", ["week", "weeks", "w", "wk"]),
    ("day", ["day", "days", "d"]), ("hour", ["hour", "hours", "h", "hr", "hrs"]),
    ("minute", ["minute", "minutes", "min", "mins"]),
    ("second", ["second", "seconds", "s", "sec", "secs"]), ("in", ["in"]), ("ago", ["ago"]),
    ("", ["about", "ad", "and", "at", "by", "just", "m", "nd", "of", "on", "rd", "st", "th",
      "the"])]

def spanish : DateLanguage where
  order := [.day, .month, .year]
  writesHours := false
  vocabulary := sharedVocabulary ++ [
    ("january", ["enero", "ene"]), ("february", ["febrero", "feb"]), ("march", ["marzo", "mar"]),
    ("april", ["abril", "abr"]), ("may", ["mayo", "may"]), ("june", ["junio", "jun"]),
    ("july", ["julio", "jul"]), ("august", ["agosto", "ago"]),
    ("september", ["septiembre", "setiembre", "sep", "sept", "set"]),
    ("october", ["octubre", "oct"]), ("november", ["noviembre", "nov"]),
    ("december", ["diciembre", "dic"]), ("monday", ["lunes", "lun"]),
    ("tuesday", ["martes"]), ("wednesday", ["miercoles", "mie"]), ("thursday", ["jueves", "jue"]),
    ("friday", ["viernes", "vie", "vi"]), ("saturday", ["sabado", "sab"]),
    ("sunday", ["domingo", "dom"]), ("decade", ["decada", "decadas"]),
    ("year", ["ano", "anos"]), ("month", ["mes", "meses", "m"]),
    ("week", ["semana", "semanas", "sem"]), ("day", ["dia", "dias", "d"]),
    ("hour", ["hora", "horas", "h"]), ("minute", ["minuto", "minutos", "min"]),
    ("second", ["segundo", "segundos", "s"]), ("in", ["en"]), ("ago", ["hace"]),
    ("", ["a", "de", "del", "las"])]

/-- The languages in which dates are read; the first that makes sense of a text wins. -/
def all : List DateLanguage := [english, spanish]

/-- The common word that a word of the language means. -/
def meaning? (language : DateLanguage) (word : List Char) : Option String :=
  (language.vocabulary.find? fun row => row.2.contains (String.ofList word)).map (·.1)

end DateLanguage

end Phrasebook
