import LibrarySystem.Python.Time

/-!
# Reading ISO-8601 back

`datetime.fromisoformat` accepts many spellings.  This file reads the extended
form `YYYY-MM-DDTHH:MM:SS[.ffffff]±HH:MM` and proves that it recovers every
UTC datetime from its `isoformat` text, through the proleptic Gregorian
calendar.
-/

namespace LibrarySystem

/-! ## The calendar -/

theorem monthDay_inverse :
    ∀ leap : Bool, ∀ day < 366, (leap = true ∨ day < 365) →
      (monthDay leap day).1 ∈ List.range' 1 12 ∧
        1 ≤ (monthDay leap day).2 ∧
        (monthDay leap day).2 ≤ daysInMonth leap (monthDay leap day).1 ∧
        daysBeforeMonth leap (monthDay leap day).1 +
          ((monthDay leap day).2 - 1) = day := by
  decide +kernel

def ymdToOrd (ymd : ℕ × ℕ × ℕ) : ℕ :=
  daysBeforeYear ymd.1 + daysBeforeMonth (isLeap ymd.1) ymd.2.1 + (ymd.2.2 - 1)

/-- The calendar dates `datetime` accepts. -/
def validDate (ymd : ℕ × ℕ × ℕ) : Bool :=
  1 ≤ ymd.1 && ymd.1 ≤ 9999 && 1 ≤ ymd.2.1 && ymd.2.1 ≤ 12 &&
    1 ≤ ymd.2.2 && ymd.2.2 ≤ daysInMonth (isLeap ymd.1) ymd.2.1

theorem daysBeforeYear_blocks
    (n400 n100 n4 n1 : ℕ) (h100 : n100 < 4) (h4 : n4 < 25) (h1 : n1 < 4) :
    daysBeforeYear (n400 * 400 + n100 * 100 + n4 * 4 + n1 + 1) =
      n400 * 146097 + n100 * 36524 + n4 * 1461 + n1 * 365 := by
  have hfour : (n400 * 400 + n100 * 100 + n4 * 4 + n1) / 4 =
      n400 * 100 + n100 * 25 + n4 := by omega
  have hcentury : (n400 * 400 + n100 * 100 + n4 * 4 + n1) / 100 =
      n400 * 4 + n100 := by omega
  have hcycle : (n400 * 400 + n100 * 100 + n4 * 4 + n1) / 400 = n400 := by
    omega
  unfold daysBeforeYear
  simp only [Nat.add_sub_cancel, hfour, hcentury, hcycle]
  omega

theorem isLeap_blocks
    (n400 n100 n4 n1 : ℕ) (h100 : n100 < 4) (h4 : n4 < 25) (h1 : n1 < 4) :
    isLeap (n400 * 400 + n100 * 100 + n4 * 4 + n1 + 1) =
      decide (n1 = 3 ∧ (n4 ≠ 24 ∨ n100 = 3)) := by
  rw [Bool.eq_iff_iff]
  simp only [isLeap, Bool.and_eq_true, Bool.or_eq_true, bne_iff_ne, ne_eq,
    beq_iff_eq, decide_eq_true_eq]
  omega

theorem ordToYmd_last_day
    (n400 n100 n4 n1 : ℕ) (h : n1 = 4 ∧ n100 < 4 ∧ n4 < 25 ∨
      n100 = 4 ∧ n4 = 0 ∧ n1 = 0) (hleap : n1 = 4 → n4 ≠ 24 ∨ n100 = 3) :
    daysBeforeYear (n400 * 400 + n100 * 100 + n4 * 4 + n1) + 365 =
        n400 * 146097 + n100 * 36524 + n4 * 1461 + n1 * 365 ∧
      isLeap (n400 * 400 + n100 * 100 + n4 * 4 + n1) = true := by
  rcases h with ⟨rfl, h100, h4⟩ | ⟨rfl, rfl, rfl⟩
  · have hshape : n400 * 400 + n100 * 100 + n4 * 4 + 4 =
        n400 * 400 + n100 * 100 + n4 * 4 + 3 + 1 := by omega
    rw [hshape, daysBeforeYear_blocks _ _ _ _ h100 h4 (by omega),
      isLeap_blocks _ _ _ _ h100 h4 (by omega)]
    have hplain := hleap rfl
    refine ⟨by ring, ?_⟩
    rw [decide_eq_true_eq]
    exact ⟨rfl, hplain⟩
  · have hshape : n400 * 400 + 4 * 100 + 0 * 4 + 0 =
        n400 * 400 + 3 * 100 + 24 * 4 + 3 + 1 := by omega
    have hdays := daysBeforeYear_blocks n400 3 24 3
      (by omega) (by omega) (by omega)
    have hleapYear := isLeap_blocks n400 3 24 3
      (by omega) (by omega) (by omega)
    rw [hshape]
    exact ⟨by omega, by rw [hleapYear]; decide⟩

theorem ymdToOrd_ordToYmd {day : ℕ} (hday : day < 3652059) :
    ymdToOrd (ordToYmd day) = day ∧ validDate (ordToYmd day) = true := by
  unfold ordToYmd
  simp only
  set n400 := day / 146097 with hn400
  set r400 := day % 146097 with hr400
  set n100 := r400 / 36524 with hn100
  set r100 := r400 % 36524 with hr100
  set n4 := r100 / 1461 with hn4
  set r4 := r100 % 1461 with hr4
  set n1 := r4 / 365 with hn1
  set r1 := r4 % 365 with hr1
  split
  · rename_i hlast
    have hcases : n1 = 4 ∧ n100 < 4 ∧ n4 < 25 ∨ n100 = 4 ∧ n4 = 0 ∧ n1 = 0 := by
      omega
    obtain ⟨hdays, hleap⟩ :=
      ordToYmd_last_day n400 n100 n4 n1 hcases (by omega)
    have hyear : n400 * 400 + n100 * 100 + n4 * 4 + n1 + 1 - 1 =
        n400 * 400 + n100 * 100 + n4 * 4 + n1 := by omega
    have hdecember : daysBeforeMonth true 12 = 335 := by decide
    constructor
    · simp only [ymdToOrd, hyear, hleap, hdecember]
      omega
    · simp only [validDate, hyear, daysInMonth, Bool.and_eq_true,
        decide_eq_true_eq]
      omega
  · rename_i hlast
    have h100 : n100 < 4 := by omega
    have h4 : n4 < 25 := by omega
    have h1 : n1 < 4 := by omega
    set leap := decide (n1 = 3 ∧ (n4 ≠ 24 ∨ n100 = 3)) with hleapDef
    have hleap : isLeap (n400 * 400 + n100 * 100 + n4 * 4 + n1 + 1) = leap :=
      isLeap_blocks _ _ _ _ h100 h4 h1
    obtain ⟨hmonth, hfirst, hlastDay, hord⟩ :=
      monthDay_inverse leap r1 (by omega) (Or.inr (by omega))
    rw [List.mem_range'] at hmonth
    constructor
    · simp only [ymdToOrd, hleap, daysBeforeYear_blocks _ _ _ _ h100 h4 h1]
      omega
    · simp only [validDate, hleap, Bool.and_eq_true, decide_eq_true_eq]
      omega

/-! ## Reading digits -/

def digitValue (c : CodePoint) : Option ℕ :=
  if c.isDigit then some (c.val - 0x30) else none

def readDigitsFrom : ℕ → ℕ → PyStr → Option (ℕ × PyStr)
  | value, 0, s => some (value, s)
  | _, _ + 1, [] => none
  | value, width + 1, c :: rest =>
      match digitValue c with
      | none => none
      | some d => readDigitsFrom (value * 10 + d) width rest

def readDigits (width : ℕ) (s : PyStr) : Option (ℕ × PyStr) :=
  readDigitsFrom 0 width s

theorem digitValue_digit (n : ℕ) : digitValue (digit n) = some (n % 10) := by
  have hval : (digit n).val = 0x30 + n % 10 := by
    simp only [digit, Fin.val_ofNat]
    omega
  have hdigit : (digit n).isDigit = true := by
    simp only [CodePoint.isDigit, hval, Bool.and_eq_true, decide_eq_true_eq]
    omega
  simp only [digitValue, hdigit, if_true, hval, Option.some.injEq]
  omega

theorem readDigitsFrom_append
    (value first second : ℕ) (s : PyStr) :
    readDigitsFrom value (first + second) s =
      (readDigitsFrom value first s).bind
        fun parsed => readDigitsFrom parsed.1 second parsed.2 := by
  induction first generalizing value s with
  | zero => simp [readDigitsFrom]
  | succ first ih =>
      rw [Nat.succ_add]
      cases s with
      | nil => simp [readDigitsFrom]
      | cons c rest =>
          simp only [readDigitsFrom]
          cases digitValue c with
          | none => simp
          | some d => simpa using ih (value * 10 + d) rest

theorem readDigitsFrom_padDigits
    (value width n : ℕ) (rest : PyStr) :
    readDigitsFrom value width (padDigits width n ++ rest) =
      some (value * 10 ^ width + n % 10 ^ width, rest) := by
  induction width generalizing n rest with
  | zero => simp [readDigitsFrom, padDigits, Nat.mod_one]
  | succ width ih =>
      have htail : padDigits (width + 1) n ++ rest =
          padDigits width (n / 10) ++ (digit n :: rest) := by
        simp [padDigits]
      rw [htail, readDigitsFrom_append, ih]
      simp only [Option.bind_some, readDigitsFrom, digitValue_digit,
        Option.some.injEq, Prod.mk.injEq, and_true]
      have hsplit : n % 10 ^ (width + 1) =
          n / 10 % 10 ^ width * 10 + n % 10 := by
        rw [pow_succ, mul_comm, Nat.mod_mul]
        ring
      rw [hsplit, pow_succ]
      ring

theorem readDigits_padDigits
    {width n : ℕ} (hn : n < 10 ^ width) (rest : PyStr) :
    readDigits width (padDigits width n ++ rest) = some (n, rest) := by
  unfold readDigits
  rw [readDigitsFrom_padDigits, Nat.mod_eq_of_lt hn]
  simp

/-! ## The extended form -/

def readLiteral (literal : PyStr) (s : PyStr) : Option PyStr :=
  if literal.isPrefixOf s then some (s.drop literal.length) else none

theorem readLiteral_append (literal rest : PyStr) :
    readLiteral literal (literal ++ rest) = some rest := by
  have hprefix : literal.isPrefixOf (literal ++ rest) = true := by
    rw [List.isPrefixOf_iff_prefix]
    exact List.prefix_append _ _
  simp [readLiteral, hprefix]

/-- `±HH:MM` at the end of the text. -/
def readOffset (s : PyStr) : Option UtcOffset := do
  let negative ←
    if (py "+").isPrefixOf s then some false
    else if (py "-").isPrefixOf s then some true else none
  let (hours, s) ← readDigits 2 (s.drop 1)
  let s ← readLiteral (py ":") s
  let (minutes, s) ← readDigits 2 s
  if s = [] ∧ hours < 24 ∧ minutes < 60 then
    let micros : ℤ := ((hours * 60 + minutes) * 60000000 : ℕ)
    let signed := if negative then -micros else micros
    if h : -(microsPerDay : ℤ) < signed ∧ signed < microsPerDay then
      some ⟨signed, h.1, h.2⟩
    else none
  else none

def readFraction (s : PyStr) : Option (ℕ × PyStr) :=
  if (py ".").isPrefixOf s then readDigits 6 (s.drop 1) else some (0, s)

/-- `YYYY-MM-DD`. -/
def readDate (s : PyStr) : Option ((ℕ × ℕ × ℕ) × PyStr) :=
  (readDigits 4 s).bind fun year =>
    (readLiteral (py "-") year.2).bind fun s =>
      (readDigits 2 s).bind fun month =>
        (readLiteral (py "-") month.2).bind fun s =>
          (readDigits 2 s).map fun day =>
            ((year.1, month.1, day.1), day.2)

/-- `HH:MM:SS`, as seconds of the day when the three fields are in range. -/
def readClock (s : PyStr) : Option (ℕ × PyStr) :=
  (readDigits 2 s).bind fun hour =>
    (readLiteral (py ":") hour.2).bind fun s =>
      (readDigits 2 s).bind fun minute =>
        (readLiteral (py ":") minute.2).bind fun s =>
          (readDigits 2 s).bind fun second =>
            if hour.1 < 24 ∧ minute.1 < 60 ∧ second.1 < 60 then
              some ((hour.1 * 60 + minute.1) * 60 + second.1, second.2)
            else none

def assembleDateTime
    (ymd : ℕ × ℕ × ℕ) (seconds micros : ℕ) (offset : UtcOffset) :
    Option DateTime :=
  let wall := (ymdToOrd ymd * 86400 + seconds) * 1000000 + micros
  if h : wall < wallSpan then
    if validDate ymd then some ⟨⟨wall, h⟩, some offset⟩ else none
  else none

def readExtendedIso (s : PyStr) : Option DateTime :=
  (readDate s).bind fun date =>
    (readLiteral (py "T") date.2).bind fun s =>
      (readClock s).bind fun clock =>
        (readFraction clock.2).bind fun fraction =>
          (readOffset fraction.2).bind fun offset =>
            assembleDateTime date.1 clock.1 fraction.1 offset

theorem readFraction_isoformat (micros : ℕ) (hmicros : micros < 1000000) :
    readFraction
        ((if micros = 0 then [] else py "." ++ padDigits 6 micros) ++
          py "+00:00") =
      some (micros, py "+00:00") := by
  unfold readFraction
  by_cases hzero : micros = 0
  · subst micros
    decide
  · have hprefix : (py ".").isPrefixOf
        (py "." ++ padDigits 6 micros ++ py "+00:00") = true := by
      rw [List.isPrefixOf_iff_prefix, List.append_assoc]
      exact List.prefix_append _ _
    have hdrop : (py "." ++ padDigits 6 micros ++ py "+00:00").drop 1 =
        padDigits 6 micros ++ py "+00:00" := by
      simp [py]
    rw [if_neg hzero, if_pos hprefix, hdrop]
    exact readDigits_padDigits (by omega) _

theorem readOffset_zero : readOffset (py "+00:00") = some .zero := by
  decide

theorem readDate_text
    {year month day : ℕ} (hyear : year < 10 ^ 4) (hmonth : month < 10 ^ 2)
    (hday : day < 10 ^ 2) (rest : PyStr) :
    readDate (padDigits 4 year ++ (py "-" ++ (padDigits 2 month ++
        (py "-" ++ (padDigits 2 day ++ rest))))) =
      some ((year, month, day), rest) := by
  unfold readDate
  rw [readDigits_padDigits hyear, Option.bind_some, readLiteral_append,
    Option.bind_some, readDigits_padDigits hmonth, Option.bind_some,
    readLiteral_append, Option.bind_some, readDigits_padDigits hday]
  rfl

theorem readClock_text
    {hour minute second : ℕ} (hhour : hour < 24) (hminute : minute < 60)
    (hsecond : second < 60) (rest : PyStr) :
    readClock (padDigits 2 hour ++ (py ":" ++ (padDigits 2 minute ++
        (py ":" ++ (padDigits 2 second ++ rest))))) =
      some ((hour * 60 + minute) * 60 + second, rest) := by
  unfold readClock
  rw [readDigits_padDigits (by omega), Option.bind_some, readLiteral_append,
    Option.bind_some, readDigits_padDigits (by omega), Option.bind_some,
    readLiteral_append, Option.bind_some, readDigits_padDigits (by omega),
    Option.bind_some, if_pos ⟨hhour, hminute, hsecond⟩]

theorem readExtendedIso_isoformat (t : UtcDateTime) :
    readExtendedIso (isoformat t) = some (.ofUtc t) := by
  have ht : t.val < 3652059 * 86400000000 := t.isLt
  obtain ⟨seconds, hseconds⟩ : ∃ seconds, t.val / 1000000 = seconds := ⟨_, rfl⟩
  have hdays : seconds / 86400 < 3652059 := by omega
  obtain ⟨hord, hvalid⟩ := ymdToOrd_ordToYmd hdays
  obtain ⟨⟨year, month, day⟩, hymd⟩ :
      ∃ ymd, ordToYmd (seconds / 86400) = ymd := ⟨_, rfl⟩
  rw [hymd] at hord hvalid
  have hbounds := hvalid
  simp only [validDate, Bool.and_eq_true, decide_eq_true_eq] at hbounds
  have hmonthLength : daysInMonth (isLeap year) month ≤ 31 := by
    unfold daysInMonth
    split <;> (try split) <;> omega
  have htext : isoformat t =
      padDigits 4 year ++ (py "-" ++ (padDigits 2 month ++ (py "-" ++
        (padDigits 2 day ++ (py "T" ++ (padDigits 2 (seconds / 3600 % 24) ++
          (py ":" ++ (padDigits 2 (seconds / 60 % 60) ++ (py ":" ++
            (padDigits 2 (seconds % 60) ++
              ((if t.val % 1000000 = 0 then []
                else py "." ++ padDigits 6 (t.val % 1000000)) ++
                py "+00:00"))))))))))) := by
    unfold isoformat
    simp only [hseconds, hymd, List.append_assoc]
  have hwall : (seconds / 86400 * 86400 +
      ((seconds / 3600 % 24 * 60 + seconds / 60 % 60) * 60 + seconds % 60)) *
        1000000 + t.val % 1000000 = t.val := by
    omega
  rw [htext, readExtendedIso,
    readDate_text (by omega) (by omega) (by omega), Option.bind_some,
    readLiteral_append, Option.bind_some,
    readClock_text (by omega) (by omega) (by omega), Option.bind_some,
    readFraction_isoformat _ (by omega), Option.bind_some, readOffset_zero,
    Option.bind_some, assembleDateTime]
  simp only [hord, hwall, hvalid, if_true]
  rw [dif_pos t.isLt]
  rfl

end LibrarySystem
