import DeviceGateway.Certificate.Element

/-!
# Validity periods

A certificate says from when until when it holds.  The gateway does not compare
these times with a clock, but a certificate whose times cannot be read is not
one.  A time is written in one of two forms: with two digits for the year, or
with four.  The first must end in a time zone; the second must end in `Z`, and
may have up to three decimal places of a second.

## Main results

* `daysIn_le`: no month has more than thirty-one days.
* `Moment.isValid_month`: the month of a valid moment has a name.
-/

namespace DeviceGateway.Certificate

/-- A date and a time of day. -/
structure Moment where
  year : Nat
  month : Nat
  day : Nat
  hour : Nat
  minute : Nat
  second : Nat
  deriving DecidableEq, Repr

/-- Whether a year has a 29th of February. -/
def isLeapYear (year : Nat) : Bool :=
  year % 4 == 0 && (year % 100 != 0 || year % 400 == 0)

/-- The days of a month; a month without a name has none. -/
def daysIn (year month : Nat) : Nat :=
  match month with
  | 2 => if isLeapYear year then 29 else 28
  | 4 | 6 | 9 | 11 => 30
  | 1 | 3 | 5 | 7 | 8 | 10 | 12 => 31
  | _ => 0

/-- Whether there is such a moment. -/
def Moment.isValid (m : Moment) : Bool :=
  decide (1 ≤ m.day ∧ m.day ≤ daysIn m.year m.month ∧ m.hour ≤ 23 ∧
    m.minute ≤ 59 ∧
    m.second ≤ 59)

/-- The value of two decimal digits. -/
def twoDigits (hi lo : UInt8) : Option Nat :=
  let isDigit (b : UInt8) : Bool := decide (48 ≤ b.toNat ∧ b.toNat ≤ 57)
  if isDigit hi && isDigit lo then some ((hi.toNat - 48) * 10 + (lo.toNat - 48))
  else none

/-- Two digits in front. -/
def readTwo : Reader Nat
  | hi :: lo :: rest => (twoDigits hi lo).map fun n => (n, rest)
  | _ => none

/-- The octet of an ASCII character. -/
def ascii (c : Char) : UInt8 :=
  UInt8.ofNat c.toNat

/-- A time zone: `Z`, or an offset of at most 25 hours and 59 minutes. -/
def isZone : List UInt8 → Bool
  | [z] => z == ascii 'Z'
  | [sign, h, h', m, m'] =>
    (sign == ascii '+' || sign == ascii '-') &&
      match twoDigits h h', twoDigits m m' with
      | some hours, some minutes => decide (hours ≤ 25 ∧ minutes ≤ 59)
      | _, _ => false
  | _ => false

/-- Month, day, hour and minute after a year. -/
def readToMinute (year : Nat) : Reader Moment := do
  let month ← readTwo
  let day ← readTwo
  let hour ← readTwo
  let minute ← readTwo
  return ⟨year, month, day, hour, minute, 0⟩

/-- The form with two digits for the year, which is one of 1950 to 2049.  The
seconds may be left out, but only in front of a zone of one octet: of two octets
or more, the first two are the seconds. -/
def isUtcTime (content : List UInt8) : Bool :=
  content.all (fun b => decide (0x20 ≤ b.toNat ∧ b.toNat ≤ 0x7F)) &&
    match readTwo content with
    | none => false
    | some (year, rest) =>
      match readToMinute (if year < 50 then 2000 + year else 1900 + year) rest
        with
      | none => false
      | some (moment, hi :: lo :: zone) =>
        match twoDigits hi lo with
        | none => false
        | some second => { moment with second }.isValid && isZone zone
      | some (moment, zone) => moment.isValid && isZone zone

/-- What may stand between the seconds and `Z`: nothing, or a point and at most
three digits. -/
def isFraction : List UInt8 → Bool
  | [] => true
  | point :: digits =>
    point == ascii '.' && decide (digits.length ≤ 3) &&
      digits.all fun b => decide (48 ≤ b.toNat ∧ b.toNat ≤ 57)

/-- The form with four digits for the year. -/
def isGeneralizedTime (content : List UInt8) : Bool :=
  match readTwo content with
  | none => false
  | some (century, rest) =>
    match readTwo rest with
    | none => false
    | some (year, rest) =>
      match readToMinute (century * 100 + year) rest with
      | none => false
      | some (moment, rest) =>
        rest.getLast? == some (ascii 'Z') &&
          match rest.dropLast with
          | [] => moment.isValid
          | seconds =>
            match readTwo seconds with
            | none => false
            | some (second, fraction) =>
              { moment with second }.isValid && isFraction fraction

/-- Reads a time in either form. -/
def readTime : Reader Unit := fun bytes =>
  match Element.read bytes with
  | none => none
  | some (e, rest) =>
    if e.tag.number = utcTimeTag then
      if isUtcTime e.content then some ((), rest) else none
    else if e.tag.number = generalizedTimeTag then
      if isGeneralizedTime e.content then some ((), rest) else none
    else none

/-- Reads a period: the first and the last moment at which it holds. -/
def readPeriod : Reader Unit :=
  inside sequenceTag do
    readTime
    readTime

theorem daysIn_le (year month : Nat) : daysIn year month ≤ 31 := by
  unfold daysIn
  split <;> try omega
  split <;> omega

theorem Moment.isValid_month {m : Moment} (h : m.isValid = true) :
    1 ≤ m.month ∧ m.month ≤ 12 := by
  simp only [isValid, decide_eq_true_eq] at h
  obtain ⟨hday, hlast, -⟩ := h
  have hpos : 0 < daysIn m.year m.month := by omega
  unfold daysIn at hpos
  split at hpos <;> omega

end DeviceGateway.Certificate
