import OpenHdoLinker.Lib.PyExc
import Mathlib.Algebra.Order.Ring.Int

/-!
# Python datetimes

A `DateTime` is its wall clock in microseconds since 0001-01-01T00:00 and, when
it is aware, its UTC offset.  Both ends of the calendar are in the type: the wall
clock lies in the years 1 to 9999, and `astimezoneUtc` raises `OverflowError`
exactly when the UTC instant does not (`astimezoneUtc_ok`, `astimezoneUtc_error`).

`UtcTime.isoformat` is the text of a datetime in UTC, its date by the calendar arithmetic of
`datetime`.
-/

namespace Py

/-- Microseconds of the years 1 to 9999. -/
def calendarSpan : Int := 3652059 * 86400 * 1000000

def InCalendar (t : Int) : Prop := 0 ≤ t ∧ t < calendarSpan

instance (t : Int) : Decidable (InCalendar t) := inferInstanceAs (Decidable (_ ∧ _))

/-- A UTC offset: strictly between minus and plus one day. -/
def offsetBound : Int := 86400 * 1000000

structure DateTime where
  wall : Int
  offset : Option Int
  wall_ok : InCalendar wall
  offset_ok : ∀ o ∈ offset, -offsetBound < o ∧ o < offsetBound
deriving DecidableEq

/-- An aware datetime in UTC. -/
structure UtcTime where
  instant : Int
  ok : InCalendar instant
deriving DecidableEq

theorem UtcTime.ext_instant {t u : UtcTime} (h : t.instant = u.instant) : t = u := by
  cases t
  cases u
  cases h
  rfl

/-- `d.astimezone(timezone.utc)` of a datetime with this offset. -/
def DateTime.astimezoneUtc (d : DateTime) (offset : Int) : Except PyErr UtcTime :=
  if h : InCalendar (d.wall - offset) then .ok ⟨d.wall - offset, h⟩
  else .error ⟨.OverflowError, "date value out of range"⟩

theorem astimezoneUtc_ok (d : DateTime) (offset : Int) (h : InCalendar (d.wall - offset)) :
    d.astimezoneUtc offset = .ok ⟨d.wall - offset, h⟩ := dif_pos h

theorem astimezoneUtc_error (d : DateTime) (offset : Int) (h : ¬ InCalendar (d.wall - offset)) :
    d.astimezoneUtc offset = .error ⟨.OverflowError, "date value out of range"⟩ := dif_neg h

/-! ## ISO 8601 text -/

/-- Days of a common year before a month, counted from 1. -/
def daysBeforeMonth (month : Nat) : Nat :=
  [0, 0, 31, 59, 90, 120, 151, 181, 212, 243, 273, 304, 334].getD month 0

def daysInMonth (month : Nat) : Nat :=
  [0, 31, 28, 31, 30, 31, 30, 31, 31, 30, 31, 30, 31].getD month 0

/-- `_ord2ymd`, of a day counted from 0 at 0001-01-01: year, month and day. -/
def dayToYmd (day : Nat) : Nat × Nat × Nat :=
  let n400 := day / 146097
  let n := day % 146097
  let n100 := n / 36524
  let n := n % 36524
  let n4 := n / 1461
  let n := n % 1461
  let n1 := n / 365
  let n := n % 365
  let year := n400 * 400 + 1 + n100 * 100 + n4 * 4 + n1
  -- the last day of a leap cycle
  if n1 = 4 ∨ n100 = 4 then (year - 1, 12, 31)
  else
    let leap := n1 = 3 ∧ (n4 ≠ 24 ∨ n100 = 3)
    let month := (n + 50) / 32
    let preceding := daysBeforeMonth month + if 2 < month ∧ leap then 1 else 0
    if n < preceding then
      let month := month - 1
      let preceding := preceding - (daysInMonth month + if month = 2 ∧ leap then 1 else 0)
      (year, month, n - preceding + 1)
    else (year, month, n - preceding + 1)

/-- `f"{n:0wd}"`. -/
def decPad (w n : Nat) : List Char := (Nat.toDigits 10 n).leftpad w '0'

/-- The text of a date. -/
def isoDate (day : Nat) : List Char :=
  let (year, month, d) := dayToYmd day
  decPad 4 year ++ '-' :: (decPad 2 month ++ '-' :: decPad 2 d)

/-- The text of a time of day, in microseconds. -/
def isoTime (us : Nat) : List Char :=
  let s := us / 1000000
  decPad 2 (s / 3600) ++ ':' :: (decPad 2 (s / 60 % 60) ++ ':' :: (decPad 2 (s % 60) ++
    if us % 1000000 = 0 then [] else '.' :: decPad 6 (us % 1000000)))

/-- `d.isoformat()` without its offset. -/
def UtcTime.isoLocal (t : UtcTime) : List Char :=
  isoDate (t.instant.toNat / 86400000000) ++ 'T' :: isoTime (t.instant.toNat % 86400000000)

/-- `d.isoformat()` of a datetime in UTC. -/
def UtcTime.isoformat (t : UtcTime) : String := String.ofList (t.isoLocal ++ "+00:00".toList)

/-- The characters of a date and a time: digits and separators. -/
def IsIsoChar (c : Char) : Prop := c.isDigit = true ∨ c ∈ ['-', ':', 'T', '.']

theorem decPad_isoChar (w n : Nat) : ∀ c ∈ decPad w n, IsIsoChar c := by
  intro c hc
  unfold decPad List.leftpad at hc
  rw [List.mem_append, List.mem_replicate] at hc
  rcases hc with ⟨-, rfl⟩ | hc
  · exact Or.inl rfl
  · exact Or.inl (Nat.isDigit_of_mem_toDigits (by decide) (by decide) hc)

theorem isoChar_append {l m : List Char} (hl : ∀ c ∈ l, IsIsoChar c) (hm : ∀ c ∈ m, IsIsoChar c) :
    ∀ c ∈ l ++ m, IsIsoChar c := List.forall_mem_append.mpr ⟨hl, hm⟩

theorem isoChar_cons {x : Char} {l : List Char} (hx : x ∈ ['-', ':', 'T', '.'])
    (hl : ∀ c ∈ l, IsIsoChar c) : ∀ c ∈ x :: l, IsIsoChar c :=
  List.forall_mem_cons.mpr ⟨Or.inr hx, hl⟩

theorem isoDate_isoChar (day : Nat) : ∀ c ∈ isoDate day, IsIsoChar c :=
  isoChar_append (decPad_isoChar _ _) (isoChar_cons (by decide)
    (isoChar_append (decPad_isoChar _ _) (isoChar_cons (by decide) (decPad_isoChar _ _))))

theorem isoTime_isoChar (us : Nat) : ∀ c ∈ isoTime us, IsIsoChar c := by
  refine isoChar_append (decPad_isoChar _ _) (isoChar_cons (by decide) (isoChar_append
    (decPad_isoChar _ _) (isoChar_cons (by decide) (isoChar_append (decPad_isoChar _ _) ?_))))
  split
  · exact List.forall_mem_nil _
  · exact isoChar_cons (by decide) (decPad_isoChar _ _)

/-- No offset and no `Z` stands in the local part of the text. -/
theorem UtcTime.isoLocal_isoChar (t : UtcTime) : ∀ c ∈ t.isoLocal, IsIsoChar c :=
  isoChar_append (isoDate_isoChar _) (isoChar_cons (by decide) (isoTime_isoChar _))

end Py
