import SiteTech.Certificate.Element

namespace SiteTech.Certificate

/-- The number that two digits write. -/
def twoDigits? (a b : UInt8) : Option Nat :=
  if 48 ≤ a && a ≤ 57 && 48 ≤ b && b ≤ 57 then some ((a.toNat - 48) * 10 + (b.toNat - 48)) else none

/-- Reads two digits. -/
def readTwoDigits : Reader Nat := do
  StateT.lift (twoDigits? (← readByte) (← readByte))

/-- Reads two characters, if there are so many: their number if they are digits, otherwise zero. -/
def readOptionalDigits : Reader Nat := fun s =>
  match s with
  | a :: b :: rest => some ((twoDigits? a b).getD 0, rest)
  | _ => some (0, s)

/-- Whether a year has 366 days. -/
def isLeapYear (year : Nat) : Bool := year % 4 = 0 && (year % 100 != 0 || year % 400 = 0)

/-- The number of days of a month. -/
def daysOfMonth (year month : Nat) : Nat :=
  if month = 2 then (if isLeapYear year then 29 else 28)
  else if [4, 6, 9, 11].contains month then 30
  else 31

/-- Whether there is a day. -/
def isDay (year month day : Nat) : Bool :=
  1 ≤ month && month ≤ 12 && 1 ≤ day && day ≤ daysOfMonth year month

/-- Whether there is a time of day. -/
def isTimeOfDay (hour minute second : Nat) : Bool := hour ≤ 23 && minute ≤ 59 && second ≤ 59

/-- Whether a text is that of a time zone: a `Z`, or a sign with hours and minutes. -/
def isTimeZone : List UInt8 → Bool
  | [90] => true
  | [sign, h1, h2, m1, m2] =>
    (sign = 43 || sign = 45) &&
      match twoDigits? h1 h2, twoDigits? m1 m2 with
      | some h, some m => h ≤ 12 && m ≤ 59
      | _, _ => false
  | _ => false

/-- The year that two digits stand for. -/
def fullYear (year : Nat) : Nat := if 50 ≤ year then year + 1900 else year + 2000

/-- Reads a time with a year of two digits. -/
def readShortTime : Reader Unit := do
  let year ← readTwoDigits
  let month ← readTwoDigits
  let day ← readTwoDigits
  let hour ← readTwoDigits
  let minute ← readTwoDigits
  require !(← atEnd)
  let second ← readOptionalDigits
  require (isTimeOfDay hour minute second && isDay (fullYear year) month day)
  require (isTimeZone (← get))

/-- What follows a fraction of a second, which has three digits at most. -/
def dropFraction : List UInt8 → Option (List UInt8)
  | mark :: rest =>
    if mark = 46 then
      let digits := rest.takeWhile fun b => 48 ≤ b && b ≤ 57
      if digits.length ≤ 3 then some (rest.drop digits.length) else none
    else some (mark :: rest)
  | [] => some []

/-- Reads a time with a year of four digits. Its time zone is a `Z`. -/
def readLongTime : Reader Unit := do
  let century ← readTwoDigits
  let year ← readTwoDigits
  let month ← readTwoDigits
  let day ← readTwoDigits
  let hour ← readTwoDigits
  require !(← atEnd)
  let minute ← readOptionalDigits
  require !(← atEnd)
  let second ← readOptionalDigits
  require (isTimeOfDay hour minute second && isDay (century * 100 + year) month day)
  match dropFraction (← get) with
  | some rest => require (rest.isEmpty || isTimeZone rest)
  | none => failure

/-- Whether an element is a point in time. -/
def isTime (e : Element) : Bool :=
  if e.header.tag = Tag.utcTime then
    e.content.all (fun b => 32 ≤ b && b ≤ 127) && (readShortTime.within e.content).isSome
  else if e.header.tag = Tag.generalTime then
    e.content.all (fun b => 32 ≤ b && b ≤ 127) && e.content.getLast? == some 90 &&
      !e.content.contains 44 && (readLongTime.within e.content).isSome
  else false

/-- Reads a point in time. -/
def readTime : Reader Unit := do require (isTime (← Element.read))

end SiteTech.Certificate
