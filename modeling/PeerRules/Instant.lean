/-!
# Instants

An instant counts milliseconds from the start of 1970, and may lie before it. Its text is a calendar
date and a time of day, without daylight shifts; the fraction is written only when there is one, and
a year outside four digits carries a sign.
-/
namespace PeerRules

/-- Milliseconds from the start of 1970. -/
structure Instant where
  millis : Int
  deriving DecidableEq, Repr

namespace Instant

/-- Instants are ordered by time. -/
instance : LE Instant := ⟨fun a b => a.millis ≤ b.millis⟩

instance (a b : Instant) : Decidable (a ≤ b) := inferInstanceAs (Decidable (a.millis ≤ b.millis))

structure Date where
  year : Int
  month : Nat
  day : Nat
  deriving DecidableEq, Repr

/-- The date a number of days after the start of 1970. Days are counted from the first of March of
the year 0, so that a leap day ends its year; 400 years have 146097 days. -/
def dateOfDays (days : Int) : Date :=
  let shifted := days + 719468
  let era := shifted / 146097
  let dayOfEra := (shifted % 146097).toNat
  let yearOfEra := (dayOfEra - dayOfEra / 1460 + dayOfEra / 36524 - dayOfEra / 146096) / 365
  let dayOfYear := dayOfEra - (365 * yearOfEra + yearOfEra / 4 - yearOfEra / 100)
  let monthFromMarch := (5 * dayOfYear + 2) / 153
  let day := dayOfYear - (153 * monthFromMarch + 2) / 5 + 1
  let month := if monthFromMarch < 10 then monthFromMarch + 3 else monthFromMarch - 9
  let year : Int := yearOfEra + era * 400
  ⟨if month ≤ 2 then year + 1 else year, month, day⟩

def padded (width n : Nat) : String :=
  let ds := Nat.toDigits 10 n
  String.ofList (List.replicate (width - ds.length) '0' ++ ds)

def yearText (year : Int) : String :=
  if 0 ≤ year ∧ year ≤ 9999 then padded 4 year.toNat
  else (if year < 0 then "-" else "+") ++ padded 4 year.natAbs

def text (t : Instant) : String :=
  let day : Int := 86400000
  let date := dateOfDays (t.millis / day)
  let ms := (t.millis % day).toNat
  let fraction := if ms % 1000 = 0 then "" else "." ++ padded 3 (ms % 1000)
  yearText date.year ++ "-" ++ padded 2 date.month ++ "-" ++ padded 2 date.day ++ "T"
    ++ padded 2 (ms / 3600000) ++ ":" ++ padded 2 (ms / 60000 % 60) ++ ":"
    ++ padded 2 (ms / 1000 % 60) ++ fraction ++ "Z"

example : (⟨-62167219200001⟩ : Instant).text = "-0001-12-31T23:59:59.999Z" := by decide +kernel

end Instant

end PeerRules
