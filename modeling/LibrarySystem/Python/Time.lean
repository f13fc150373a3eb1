import LibrarySystem.Python.Text

/-!
# Python datetimes

A datetime is a wall-clock reading between the years 1 and 9999, in
microseconds, with the UTC offset its `tzinfo` reports (`none` for a naive
value).  A UTC datetime is its own instant.  `astimezone` overflows when the
UTC reading leaves the year range, which only offsets near the two ends do.
-/

namespace LibrarySystem

def microsPerDay : ℕ := 86400000000

/-- Microseconds from 0001-01-01T00:00:00 to the end of 9999-12-31. -/
def wallSpan : ℕ := 3652059 * microsPerDay

/-- An aware datetime in `timezone.utc`. -/
abbrev UtcDateTime := Fin wallSpan

instance UtcDateTime.neZero : NeZero wallSpan := ⟨by decide⟩

/-- An optional datetime is looked at, not searched for among all datetimes. -/
instance UtcDateTime.decidableExistsMem (value : Option UtcDateTime)
    (p : UtcDateTime → Prop) [DecidablePred p] : Decidable (∃ t ∈ value, p t) :=
  Option.decidableExistsMem value

/-- `utcoffset()` lies strictly between minus and plus twenty-four hours. -/
structure UtcOffset where
  micros : ℤ
  lower : -(microsPerDay : ℤ) < micros
  upper : micros < microsPerDay
deriving DecidableEq

def UtcOffset.zero : UtcOffset := ⟨0, by decide, by decide⟩

structure DateTime where
  wall : Fin wallSpan
  utcoffset : Option UtcOffset
deriving DecidableEq

/-- The exceptions of the interpreter that the program's own code can meet. -/
inductive PyException
  | typeError (message : PyStr)
  | valueError (message : PyStr)
  | overflowError
  | assertionError
deriving DecidableEq

namespace DateTime

def ofUtc (t : UtcDateTime) : DateTime := ⟨t, some .zero⟩

/-- The instant an offset reading denotes, before any range check. -/
def instant (wall : Fin wallSpan) (offset : UtcOffset) : ℤ :=
  wall.val - offset.micros

/-- `value.astimezone(timezone.utc)` for an aware value. -/
def astimezoneUtc (wall : Fin wallSpan) (offset : UtcOffset) :
    Except PyException UtcDateTime :=
  let utc := instant wall offset
  if h : 0 ≤ utc ∧ utc < wallSpan then
    .ok ⟨utc.toNat, by omega⟩
  else .error .overflowError

@[simp] theorem astimezoneUtc_zero (t : UtcDateTime) :
    astimezoneUtc t .zero = .ok t := by
  have ht := t.isLt
  simp [astimezoneUtc, instant, UtcOffset.zero, ht]

end DateTime

namespace UtcDateTime

/-- `value + timedelta(days=days)`. -/
def addDays (t : UtcDateTime) (days : ℤ) : Except PyException UtcDateTime :=
  let sum := (t.val : ℤ) + days * microsPerDay
  if h : 0 ≤ sum ∧ sum < wallSpan then
    .ok ⟨sum.toNat, by omega⟩
  else .error .overflowError

/-- `(left - right).days`, the floor of the difference. -/
def daysBetween (left right : UtcDateTime) : ℤ :=
  ((left.val : ℤ) - right.val) / microsPerDay

theorem lt_of_addDays
    {t u : UtcDateTime} {days : ℤ}
    (hadd : t.addDays days = .ok u) (hdays : 0 < days) :
    t < u := by
  unfold addDays at hadd
  simp only at hadd
  split at hadd
  · rename_i hrange
    simp only [Except.ok.injEq] at hadd
    subst u
    rw [Fin.lt_def]
    simp only
    have hpos : 0 < days * (microsPerDay : ℤ) := by
      have : (0 : ℤ) < microsPerDay := by decide
      positivity
    omega
  · simp at hadd

theorem daysBetween_neg
    {left right : UtcDateTime} (hlt : left < right) :
    left.daysBetween right < 0 := by
  unfold daysBetween
  rw [Fin.lt_def] at hlt
  apply Int.ediv_neg_of_neg_of_pos
  · omega
  · decide

/-- What lies in the past does so by at least one day, counted by the floor. -/
theorem one_le_abs_daysBetween
    {left right : UtcDateTime} (hlt : left < right) :
    1 ≤ |left.daysBetween right| := by
  have hnegative := daysBetween_neg hlt
  rw [abs_of_neg hnegative]
  omega

end UtcDateTime

/-! ## ISO-8601 -/

def isLeap (year : ℕ) : Bool :=
  year % 4 == 0 && (year % 100 != 0 || year % 400 == 0)

def daysBeforeYear (year : ℕ) : ℕ :=
  let y := year - 1
  y * 365 + y / 4 - y / 100 + y / 400

def daysInMonth (leap : Bool) : ℕ → ℕ
  | 2 => if leap then 29 else 28
  | 4 | 6 | 9 | 11 => 30
  | _ => 31

def daysBeforeMonth (leap : Bool) (month : ℕ) : ℕ :=
  (List.range (month - 1)).foldl
    (fun days earlier => days + daysInMonth leap (earlier + 1)) 0

/-- Month and day of a zero-based day of the year. -/
def monthDay (leap : Bool) (dayOfYear : ℕ) : ℕ × ℕ :=
  let guess := (dayOfYear + 50) / 32
  let month := if dayOfYear < daysBeforeMonth leap guess then guess - 1 else guess
  (month, dayOfYear - daysBeforeMonth leap month + 1)

/-- Year, month and day of a zero-based day count from 0001-01-01. -/
def ordToYmd (day : ℕ) : ℕ × ℕ × ℕ :=
  let n400 := day / 146097
  let r400 := day % 146097
  let n100 := r400 / 36524
  let r100 := r400 % 36524
  let n4 := r100 / 1461
  let r4 := r100 % 1461
  let n1 := r4 / 365
  let r1 := r4 % 365
  let year := n400 * 400 + n100 * 100 + n4 * 4 + n1 + 1
  if n1 = 4 ∨ n100 = 4 then (year - 1, 12, 31)
  else
    (year, monthDay (decide (n1 = 3 ∧ (n4 ≠ 24 ∨ n100 = 3))) r1)

def digit (n : ℕ) : CodePoint := Fin.ofNat 0x110000 (0x30 + n % 10)

/-- Zero-padded decimal of a fixed width. -/
def padDigits : ℕ → ℕ → PyStr
  | 0, _ => []
  | width + 1, n => padDigits width (n / 10) ++ [digit n]

/-- `value.isoformat()` for a UTC datetime. -/
def isoformat (t : UtcDateTime) : PyStr :=
  let micros := t.val % 1000000
  let seconds := t.val / 1000000
  let ymd := ordToYmd (seconds / 86400)
  padDigits 4 ymd.1 ++ py "-" ++ padDigits 2 ymd.2.1 ++ py "-" ++
    padDigits 2 ymd.2.2 ++ py "T" ++ padDigits 2 (seconds / 3600 % 24) ++
    py ":" ++ padDigits 2 (seconds / 60 % 60) ++ py ":" ++
    padDigits 2 (seconds % 60) ++
    (if micros = 0 then [] else py "." ++ padDigits 6 micros) ++ py "+00:00"

theorem digit_isAscii (n : ℕ) : (digit n).isAscii = true := by
  have hval : (digit n).val = 0x30 + n % 10 := by
    simp only [digit, Fin.val_ofNat]
    omega
  simp only [CodePoint.isAscii, hval, decide_eq_true_eq]
  omega

theorem padDigits_isAscii (width n : ℕ) :
    PyStr.isAscii (padDigits width n) = true := by
  induction width generalizing n with
  | zero => rfl
  | succ width ih =>
      have htail := digit_isAscii n
      have hhead := ih (n / 10)
      simp only [PyStr.isAscii] at hhead
      simp [padDigits, PyStr.isAscii, List.all_append, hhead, htail]

theorem isoformat_isAscii (t : UtcDateTime) :
    PyStr.isAscii (isoformat t) = true := by
  have hpad : ∀ width n,
      (padDigits width n).all CodePoint.isAscii = true :=
    padDigits_isAscii
  have hdash : (py "-").all CodePoint.isAscii = true := by decide
  have hsep : (py "T").all CodePoint.isAscii = true := by decide
  have hcolon : (py ":").all CodePoint.isAscii = true := by decide
  have hdot : (py ".").all CodePoint.isAscii = true := by decide
  have hzone : (py "+00:00").all CodePoint.isAscii = true := by decide
  unfold isoformat PyStr.isAscii
  simp only [List.all_append, hpad, hdash, hsep, hcolon, hzone,
    Bool.and_true, Bool.true_and]
  split
  · rfl
  · simp [List.all_append, hpad, hdot]

/-- The text of a UTC datetime ends with its offset, never with `Z`. -/
theorem isoformat_getLast (t : UtcDateTime) :
    (isoformat t).getLast? = some (digit 0) := by
  unfold isoformat
  simp only
  rw [List.getLast?_append_of_ne_nil _ (by decide)]
  decide

end LibrarySystem
