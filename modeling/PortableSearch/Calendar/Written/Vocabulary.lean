import PortableSearch.Calendar.Written.Token

/-! The English words of dates, and the words that are skipped. -/
namespace PortableSearch.Calendar.Written

def lower (t : Token) : String := String.ofList (t.map Char.toLower)

/-- Tokens that are skipped. -/
def isFiller (t : Token) : Bool :=
  [" ", ".", ",", ";", "-", "/", "'", "at", "on", "and", "ad", "m", "t", "of", "st", "nd", "rd",
    "th"].contains (lower t)

/-- The weekday that a name means, Monday being zero. -/
def weekdayNamed? (t : Token) : Option Nat :=
  [("mon", 0), ("monday", 0), ("tue", 1), ("tuesday", 1), ("wed", 2), ("wednesday", 2),
    ("thu", 3), ("thursday", 3), ("fri", 4), ("friday", 4), ("sat", 5), ("saturday", 5),
    ("sun", 6), ("sunday", 6)].lookup (lower t)

/-- The month that a name means. -/
def monthNamed? (t : Token) : Option Nat :=
  [("jan", 1), ("january", 1), ("feb", 2), ("february", 2), ("mar", 3), ("march", 3),
    ("apr", 4), ("april", 4), ("may", 5), ("jun", 6), ("june", 6), ("jul", 7), ("july", 7),
    ("aug", 8), ("august", 8), ("sep", 9), ("sept", 9), ("september", 9), ("oct", 10),
    ("october", 10), ("nov", 11), ("november", 11), ("dec", 12), ("december", 12)].lookup (lower t)

/-- Hours are zero, minutes one and seconds two. -/
def clockUnitNamed? (t : Token) : Option Nat :=
  [("h", 0), ("hour", 0), ("hours", 0), ("m", 1), ("minute", 1), ("minutes", 1), ("s", 2),
    ("second", 2), ("seconds", 2)].lookup (lower t)

/-- Whether a word says afternoon, if it says which half of the day. -/
def afternoonNamed? (t : Token) : Option Bool :=
  [("am", false), ("a", false), ("pm", true), ("p", true)].lookup (lower t)

/-- The names of UTC inside a date. -/
def utcWords : List Token := ["UTC".toList, "GMT".toList, "Z".toList, "z".toList]

def isUtcWord (t : Token) : Bool := ["utc", "gmt", "z"].contains (lower t)

/-- The words that look like numbers to a reader of decimals, and are refused. -/
def isNumberWord (t : Token) : Bool := ["nan", "inf", "infinity"].contains (lower t)

end PortableSearch.Calendar.Written
